import LotusRisk.Lib.Json

/-! The redaction of a JSON value: whatever is named by a sensitive key becomes a marker. -/

namespace Redaction
open JsonText
set_option autoImplicit true

variable (sensitive : String → Bool) (marker : Json)

mutual

def redact : Json → Json
  | .arr items => .arr (redactItems items)
  | .obj members => .obj (redactMembers members)
  | value => value

def redactItems : List Json → List Json
  | [] => []
  | v :: vs => redact v :: redactItems vs

def redactMembers : List (String × Json) → List (String × Json)
  | [] => []
  | (k, v) :: ms => (k, if sensitive k then marker else redact v) :: redactMembers ms

end

mutual

/-- The values differ in what sensitive keys name only. -/
inductive Agree : Json → Json → Prop
  | null : Agree .null .null
  | bool (b : Bool) : Agree (.bool b) (.bool b)
  | int (i : Int) : Agree (.int i) (.int i)
  | float (lexeme : String) : Agree (.float lexeme) (.float lexeme)
  | str (s : String) : Agree (.str s) (.str s)
  | arr (h : AgreeItems vs ws) : Agree (.arr vs) (.arr ws)
  | obj (h : AgreeMembers ms ns) : Agree (.obj ms) (.obj ns)

inductive AgreeItems : List Json → List Json → Prop
  | nil : AgreeItems [] []
  | cons (h : Agree v w) (hs : AgreeItems vs ws) : AgreeItems (v :: vs) (w :: ws)

inductive AgreeMembers : List (String × Json) → List (String × Json) → Prop
  | nil : AgreeMembers [] []
  | hidden (h : sensitive k = true) (hs : AgreeMembers ms ns) :
      AgreeMembers ((k, v) :: ms) ((k, w) :: ns)
  | shown (h : Agree v w) (hs : AgreeMembers ms ns) : AgreeMembers ((k, v) :: ms) ((k, w) :: ns)

end

/-- A step into a value. -/
inductive Step where
  | index (i : Nat)
  | key (k : String)

def Step.into : Json → Step → Option Json
  | .arr items, .index i => items[i]?
  | .obj members, .key k => members.lookup k
  | _, _ => none

/-- The value that a path leads to. -/
def valueAt : Json → List Step → Option Json
  | value, [] => some value
  | value, step :: path => (Step.into value step).bind fun inner => valueAt inner path

/-- No step of the path is a sensitive key. -/
def Public (path : List Step) : Prop := ∀ k, .key k ∈ path → sensitive k = false

section Rules

variable {sensitive marker}

theorem redactItems_eq (items : List Json) :
    redactItems sensitive marker items = items.map (redact sensitive marker) := by
  induction items with
  | nil => rfl
  | cons v vs ih => rw [redactItems, ih, List.map_cons]

theorem lookup_redactMembers (members : List (String × Json)) (k : String) :
    (redactMembers sensitive marker members).lookup k =
      (members.lookup k).map fun v => if sensitive k then marker else redact sensitive marker v := by
  induction members with
  | nil => rfl
  | cons m ms ih =>
    obtain ⟨k', v⟩ := m
    rw [redactMembers, List.lookup_cons, List.lookup_cons]
    cases hk : k == k' with
    | true =>
      rw [eq_of_beq hk]
      rfl
    | false => exact ih

mutual

/-- Redacting twice is redacting once. -/
theorem redact_redact (value : Json) :
    redact sensitive marker (redact sensitive marker value) = redact sensitive marker value := by
  cases value with
  | arr items => rw [redact, redact, redactItems_redactItems items]
  | obj members => rw [redact, redact, redactMembers_redactMembers members]
  | _ => rfl

theorem redactItems_redactItems (items : List Json) :
    redactItems sensitive marker (redactItems sensitive marker items) =
      redactItems sensitive marker items := by
  cases items with
  | nil => rfl
  | cons v vs => rw [redactItems, redactItems, redact_redact v, redactItems_redactItems vs]

theorem redactMembers_redactMembers (members : List (String × Json)) :
    redactMembers sensitive marker (redactMembers sensitive marker members) =
      redactMembers sensitive marker members := by
  cases members with
  | nil => rfl
  | cons m ms =>
    obtain ⟨k, v⟩ := m
    rw [redactMembers, redactMembers, redactMembers_redactMembers ms]
    cases sensitive k with
    | true => rfl
    | false => rw [if_neg Bool.false_ne_true, if_neg Bool.false_ne_true, redact_redact v]

end

mutual

/-- What is redacted to the same value agrees outside the sensitive entries. -/
theorem agree_of_redact_eq (v w : Json)
    (h : redact sensitive marker v = redact sensitive marker w) : Agree sensitive v w := by
  cases v with
  | arr vs =>
    cases w with
    | arr ws =>
      rw [redact, redact] at h
      exact .arr (agreeItems_of_redactItems_eq vs ws (Json.arr.inj h))
    | _ => simp only [redact, reduceCtorEq] at h
  | obj ms =>
    cases w with
    | obj ns =>
      rw [redact, redact] at h
      exact .obj (agreeMembers_of_redactMembers_eq ms ns (Json.obj.inj h))
    | _ => simp only [redact, reduceCtorEq] at h
  | null =>
    cases w with
    | null => exact .null
    | _ => simp only [redact, reduceCtorEq] at h
  | bool b =>
    cases w with
    | bool c => exact Json.bool.inj h ▸ .bool b
    | _ => simp only [redact, reduceCtorEq] at h
  | int i =>
    cases w with
    | int j => exact Json.int.inj h ▸ .int i
    | _ => simp only [redact, reduceCtorEq] at h
  | float x =>
    cases w with
    | float y => exact Json.float.inj h ▸ .float x
    | _ => simp only [redact, reduceCtorEq] at h
  | str s =>
    cases w with
    | str t => exact Json.str.inj h ▸ .str s
    | _ => simp only [redact, reduceCtorEq] at h

theorem agreeItems_of_redactItems_eq (vs ws : List Json)
    (h : redactItems sensitive marker vs = redactItems sensitive marker ws) :
    AgreeItems sensitive vs ws := by
  cases vs with
  | nil =>
    cases ws with
    | nil => exact .nil
    | cons w ws => cases h
  | cons v vs =>
    cases ws with
    | nil => cases h
    | cons w ws =>
      rw [redactItems, redactItems, List.cons.injEq] at h
      exact .cons (agree_of_redact_eq v w h.1) (agreeItems_of_redactItems_eq vs ws h.2)

theorem agreeMembers_of_redactMembers_eq (ms ns : List (String × Json))
    (h : redactMembers sensitive marker ms = redactMembers sensitive marker ns) :
    AgreeMembers sensitive ms ns := by
  cases ms with
  | nil =>
    cases ns with
    | nil => exact .nil
    | cons n ns => cases h
  | cons m ms =>
    cases ns with
    | nil => cases h
    | cons n ns =>
      obtain ⟨k, v⟩ := m
      obtain ⟨k', w⟩ := n
      rw [redactMembers, redactMembers, List.cons.injEq, Prod.mk.injEq] at h
      obtain ⟨⟨rfl, hvalue⟩, hrest⟩ := h
      have hms := agreeMembers_of_redactMembers_eq ms ns hrest
      cases hk : sensitive k with
      | true => exact .hidden hk hms
      | false =>
        rw [hk, if_neg Bool.false_ne_true, if_neg Bool.false_ne_true] at hvalue
        exact .shown (agree_of_redact_eq v w hvalue) hms

end

mutual

/-- A value that differs in sensitive entries only is redacted to the same. -/
theorem Agree.redact_eq {v w : Json} (h : Agree sensitive v w) :
    redact sensitive marker v = redact sensitive marker w := by
  cases h with
  | arr h => rw [redact, redact, h.redactItems_eq]
  | obj h => rw [redact, redact, h.redactMembers_eq]
  | _ => rfl

theorem AgreeItems.redactItems_eq {vs ws : List Json} (h : AgreeItems sensitive vs ws) :
    redactItems sensitive marker vs = redactItems sensitive marker ws := by
  cases h with
  | nil => rfl
  | cons h hs => rw [redactItems, redactItems, h.redact_eq, hs.redactItems_eq]

theorem AgreeMembers.redactMembers_eq {ms ns : List (String × Json)}
    (h : AgreeMembers sensitive ms ns) :
    redactMembers sensitive marker ms = redactMembers sensitive marker ns := by
  cases h with
  | nil => rfl
  | hidden hk hs =>
    rw [redactMembers, redactMembers, if_pos hk, if_pos hk, hs.redactMembers_eq]
  | shown h hs => rw [redactMembers, redactMembers, h.redact_eq, hs.redactMembers_eq]

end

/-- A redacted value tells what is outside the sensitive entries, and nothing else. -/
theorem redact_eq_iff : redact sensitive marker v = redact sensitive marker w ↔
    Agree sensitive v w := ⟨agree_of_redact_eq v w, Agree.redact_eq⟩

theorem into_redact_index (value : Json) (i : Nat) :
    Step.into (redact sensitive marker value) (.index i) =
      (Step.into value (.index i)).map (redact sensitive marker) := by
  cases value with
  | arr items =>
    rw [redact, redactItems_eq]
    exact List.getElem?_map
  | _ => rfl

theorem into_redact_key (value : Json) (k : String) :
    Step.into (redact sensitive marker value) (.key k) = (Step.into value (.key k)).map fun v =>
      if sensitive k then marker else redact sensitive marker v := by
  cases value with
  | obj members =>
    rw [redact]
    exact lookup_redactMembers members k
  | _ => rfl

theorem into_redact (value : Json) (h : Public sensitive (step :: path)) :
    Step.into (redact sensitive marker value) step =
      (Step.into value step).map (redact sensitive marker) := by
  cases step with
  | index i => exact into_redact_index value i
  | key k =>
    rw [into_redact_key, h k List.mem_cons_self]
    rfl

/-- Along a public path the redaction shows what is there, itself redacted. -/
theorem valueAt_redact (value : Json) (h : Public sensitive path) :
    valueAt (redact sensitive marker value) path =
      (valueAt value path).map (redact sensitive marker) := by
  induction path generalizing value with
  | nil => rfl
  | cons step path ih =>
    have hpath : Public sensitive path := fun k hk => h k (List.mem_cons_of_mem _ hk)
    rw [valueAt, valueAt, into_redact value h]
    cases Step.into value step with
    | none => rfl
    | some inner => exact ih inner hpath

/-- The first sensitive key of a path leads to the marker, if it leads anywhere. -/
theorem valueAt_redact_hidden (value : Json) (h : Public sensitive path)
    (hk : sensitive k = true) (rest : List Step) :
    valueAt (redact sensitive marker value) (path ++ .key k :: rest) =
      (valueAt value (path ++ [.key k])).bind fun _ => valueAt marker rest := by
  induction path generalizing value with
  | nil =>
    rw [List.nil_append, valueAt, into_redact_key, hk]
    cases hinto : Step.into value (.key k) with
    | none => simp [valueAt, hinto]
    | some inner => simp [valueAt, hinto]
  | cons step path ih =>
    have hpath : Public sensitive path := fun k hk => h k (List.mem_cons_of_mem _ hk)
    rw [List.cons_append, valueAt, List.cons_append, valueAt, into_redact value h]
    cases Step.into value step with
    | none => rfl
    | some inner => exact ih inner hpath

end Rules

end Redaction
