import LotusRisk.Lib.Json

/-! What the writer writes, the reader reads back: numbers, strings and arrays of them. -/

namespace JsonText
set_option autoImplicit true

section Strings

theorem hexVal_digitChar (h : n < 16) : hexVal? n.digitChar = some n := by
  have hall : ∀ m : Fin 16, hexVal? (Nat.digitChar m.val) = some m.val := by decide
  exact hall ⟨n, h⟩

theorem scanHex4_hex4 (h : n < 65536) (rest : List Char) :
    scanHex4 (hex4 n ++ rest) = some (n, rest) := by
  have hn : ((n / 4096 % 16 * 16 + n / 256 % 16) * 16 + n / 16 % 16) * 16 + n % 16 = n := by omega
  unfold hex4
  simp only [List.cons_append, List.nil_append, scanHex4]
  rw [hexVal_digitChar (Nat.mod_lt _ (by decide)), hexVal_digitChar (Nat.mod_lt _ (by decide)),
    hexVal_digitChar (Nat.mod_lt _ (by decide)), hexVal_digitChar (Nat.mod_lt _ (by decide))]
  simp only [bind, Option.bind_some, hn]

/-- A character is no surrogate. -/
theorem scalar_range (c : Char) : c.toNat < 0xd800 ∨ 0xdfff < c.toNat ∧ c.toNat < 0x110000 :=
  c.valid

theorem scanEscape_unit (c : Char) (h : c.toNat < 0x10000) (rest : List Char) :
    scanEscape ('u' :: (hex4 c.toNat ++ rest)) = some (c, rest) := by
  have hr := scalar_range c
  simp only [scanEscape]
  rw [scanHex4_hex4 h]
  simp only [bind, Option.bind_some]
  rw [if_neg (by omega), if_neg (by omega), Char.ofNat_toNat]

theorem scanEscape_surrogates (hh : 0xd800 ≤ high ∧ high ≤ 0xdbff)
    (hl : 0xdc00 ≤ low ∧ low ≤ 0xdfff) (rest : List Char) :
    scanEscape ('u' :: (hex4 high ++ '\\' :: 'u' :: (hex4 low ++ rest))) =
      some (Char.ofNat (0x10000 + (high - 0xd800) * 0x400 + (low - 0xdc00)), rest) := by
  have hlow : scanLowSurrogate high ('\\' :: 'u' :: (hex4 low ++ rest)) =
      some (Char.ofNat (0x10000 + (high - 0xd800) * 0x400 + (low - 0xdc00)), rest) := by
    simp only [scanLowSurrogate]
    rw [scanHex4_hex4 (by omega)]
    simp only [bind, Option.bind_some]
    rw [if_pos hl]
  simp only [scanEscape]
  rw [scanHex4_hex4 (by omega)]
  simp only [bind, Option.bind_some]
  rw [if_pos hh, hlow]

theorem scanEscape_pair (c : Char) (h : 0x10000 ≤ c.toNat) (rest : List Char) :
    scanEscape ('u' :: (hex4 (0xd800 + (c.toNat - 0x10000) / 0x400) ++
      '\\' :: 'u' :: (hex4 (0xdc00 + (c.toNat - 0x10000) % 0x400) ++ rest))) = some (c, rest) := by
  have hr := scalar_range c
  have hc : ∀ high low, high = 0xd800 + (c.toNat - 0x10000) / 0x400 →
      low = 0xdc00 + (c.toNat - 0x10000) % 0x400 →
      (0xd800 ≤ high ∧ high ≤ 0xdbff) ∧ (0xdc00 ≤ low ∧ low ≤ 0xdfff) ∧
        0x10000 + (high - 0xd800) * 0x400 + (low - 0xdc00) = c.toNat := by
    omega
  obtain ⟨hh, hl, he⟩ := hc _ _ rfl rfl
  rw [scanEscape_surrogates hh hl, he, Char.ofNat_toNat]

theorem scanString_backslash (h : scanEscape text = some (c, rest)) (fuel : Nat) :
    scanString (fuel + 1) ('\\' :: text) =
      (scanString fuel rest).map (fun r => (c :: r.1, r.2)) := by
  rw [scanString, if_neg (by decide), if_pos rfl, h]
  simp only [bind, Option.bind_some]
  cases scanString fuel rest <;> rfl

/-- One written character is one character read. -/
theorem scanString_escapeChar (c : Char) (fuel : Nat) (rest : List Char) :
    scanString (fuel + 1) (escapeChar c ++ rest) =
      (scanString fuel rest).map (fun r => (c :: r.1, r.2)) := by
  have hnat (n : Nat) (h : c.toNat = n) : c = Char.ofNat n := by rw [← h, Char.ofNat_toNat]
  unfold escapeChar
  by_cases h₁ : c = '"'
  · subst h₁
    exact scanString_backslash rfl fuel
  rw [if_neg h₁]
  by_cases h₂ : c = '\\'
  · subst h₂
    exact scanString_backslash rfl fuel
  rw [if_neg h₂]
  by_cases h₃ : c = '\n'
  · subst h₃
    exact scanString_backslash rfl fuel
  rw [if_neg h₃]
  by_cases h₄ : c = '\r'
  · subst h₄
    exact scanString_backslash rfl fuel
  rw [if_neg h₄]
  by_cases h₅ : c = '\t'
  · subst h₅
    exact scanString_backslash rfl fuel
  rw [if_neg h₅]
  by_cases h₆ : c.toNat = 0x0c
  · rw [if_pos h₆, hnat _ h₆]
    exact scanString_backslash rfl fuel
  rw [if_neg h₆]
  by_cases h₇ : c.toNat = 0x08
  · rw [if_pos h₇, hnat _ h₇]
    exact scanString_backslash rfl fuel
  rw [if_neg h₇]
  by_cases h₈ : 0x20 ≤ c.toNat ∧ c.toNat ≤ 0x7e
  · rw [if_pos h₈, List.singleton_append, scanString, if_neg h₁, if_neg h₂, if_neg (by omega)]
    simp only [bind]
    cases scanString fuel rest <;> rfl
  rw [if_neg h₈]
  by_cases h₉ : c.toNat < 0x10000
  · rw [if_pos h₉]
    exact scanString_backslash (scanEscape_unit c h₉ rest) fuel
  · rw [if_neg h₉]
    simp only [List.cons_append, List.append_assoc]
    exact scanString_backslash (scanEscape_pair c (by omega) rest) fuel

/-- The characters of a written string are read up to its closing quote. -/
theorem scanString_escape (s : List Char) (h : s.length < fuel) (rest : List Char) :
    scanString fuel (escape s ++ '"' :: rest) = some (s, rest) := by
  induction s generalizing fuel with
  | nil =>
    obtain ⟨fuel, rfl⟩ := Nat.exists_eq_add_one_of_ne_zero (Nat.ne_of_gt h)
    rfl
  | cons c s ih =>
    rw [List.length_cons] at h
    obtain ⟨fuel, rfl⟩ := Nat.exists_eq_add_one_of_ne_zero (by omega : fuel ≠ 0)
    have hs : escape (c :: s) = escapeChar c ++ escape s := rfl
    rw [hs, List.append_assoc, scanString_escapeChar, ih (by omega)]
    rfl

theorem length_le_escape (s : List Char) : s.length ≤ (escape s).length := by
  have hc (c : Char) : 1 ≤ (escapeChar c).length := by
    unfold escapeChar
    repeat' split
    all_goals simp
  induction s with
  | nil => exact Nat.zero_le _
  | cons c s ih =>
    have hs : escape (c :: s) = escapeChar c ++ escape s := rfl
    rw [hs, List.length_append, List.length_cons]
    have := hc c
    omega

end Strings

section Numbers

/-- What may follow a value inside a text. -/
def Stops (rest : List Char) : Prop := ∀ c ∈ rest.head?, c = ',' ∨ c = ']'

theorem stops_nil : Stops [] := fun _ h => by cases h

theorem stops_comma (rest : List Char) : Stops (',' :: rest) := fun _ h => by
  cases h
  exact .inl rfl

theorem stops_bracket (rest : List Char) : Stops (']' :: rest) := fun _ h => by
  cases h
  exact .inr rfl

theorem Stops.cases {rest : List Char} (h : Stops rest) :
    rest = [] ∨ (∃ t, rest = ',' :: t) ∨ ∃ t, rest = ']' :: t := by
  cases rest with
  | nil => exact .inl rfl
  | cons c t =>
    rcases h c rfl with rfl | rfl
    · exact .inr (.inl ⟨t, rfl⟩)
    · exact .inr (.inr ⟨t, rfl⟩)

theorem scanFraction_stops (h : Stops rest) : scanFraction rest = ([], rest) := by
  rcases h.cases with rfl | ⟨t, rfl⟩ | ⟨t, rfl⟩ <;> rfl

theorem scanExponent_of_ne (hl : c ≠ 'e') (hu : c ≠ 'E') (rest : List Char) :
    scanExponent (c :: rest) = ([], c :: rest) := by
  have hn : ¬ (c = 'e' ∨ c = 'E') := fun h => h.elim hl hu
  unfold scanExponent
  split
  · rename_i heq
    cases heq
    rw [if_neg hn]
  · rename_i heq
    cases heq
    rw [if_neg hn]
  · rename_i heq
    cases heq
    rw [if_neg hn]
  · rename_i heq
    cases heq

theorem scanExponent_stops (h : Stops rest) : scanExponent rest = ([], rest) := by
  rcases h.cases with rfl | ⟨t, rfl⟩ | ⟨t, rfl⟩
  · rfl
  · exact scanExponent_of_ne (by decide) (by decide) t
  · exact scanExponent_of_ne (by decide) (by decide) t

theorem digits_stops (h : Stops rest) :
    rest.takeWhile Char.isDigit = [] ∧ rest.dropWhile Char.isDigit = rest := by
  rcases h.cases with rfl | ⟨t, rfl⟩ | ⟨t, rfl⟩ <;> exact ⟨rfl, rfl⟩

/-- A decimal numeral starts with a zero only when it is zero. -/
theorem toDigits_head (n : Nat) :
    ∃ c cs, Nat.toDigits 10 n = c :: cs ∧ (c = '0' → n = 0) := by
  induction n using Nat.strongRecOn with
  | ind n ih =>
    by_cases hn : n < 10
    · have hall : ∀ m : Fin 10, Nat.digitChar m.val = '0' → m.val = 0 := by decide
      exact ⟨n.digitChar, [], Nat.toDigits_of_lt_base hn, hall ⟨n, hn⟩⟩
    · obtain ⟨c, cs, he, hz⟩ := ih (n / 10) (by omega)
      refine ⟨c, cs ++ [(n % 10).digitChar], ?_, fun hc => ?_⟩
      · rw [Nat.toDigits_of_base_le (by decide) (Nat.le_of_not_lt hn), he, List.cons_append]
      · have := hz hc
        omega

theorem scanDigits_toDigits (n : Nat) (h : Stops rest) :
    scanDigits (Nat.toDigits 10 n ++ rest) = some (Nat.toDigits 10 n, rest) := by
  obtain ⟨c, cs, he, hz⟩ := toDigits_head n
  have hdigit : ∀ d ∈ c :: cs, d.isDigit = true := by
    intro d hd
    rw [← he] at hd
    exact Nat.isDigit_of_mem_toDigits (by decide) (by decide) hd
  rw [he, List.cons_append, scanDigits]
  by_cases hc : c = '0'
  · have hn := hz hc
    subst hn
    rw [Nat.toDigits_zero] at he
    cases he
    rfl
  · rw [if_neg hc, if_pos (hdigit c List.mem_cons_self),
      List.takeWhile_append_of_pos (fun d hd => hdigit d (List.mem_cons_of_mem _ hd)),
      List.dropWhile_append_of_pos (fun d hd => hdigit d (List.mem_cons_of_mem _ hd)),
      (digits_stops h).1, (digits_stops h).2, List.append_nil]

theorem scanUnsigned_toDigits (negative : Bool) (n : Nat) (h : Stops rest) :
    scanUnsigned negative (Nat.toDigits 10 n ++ rest) =
      some (.int (if negative then -n else n), rest) := by
  unfold scanUnsigned
  rw [scanDigits_toDigits n h]
  simp only [bind, Option.bind_some, scanFraction_stops h, scanExponent_stops h, and_self, if_true,
    Nat.ofDigitChars_ten_toDigits]

theorem scanNumber_writeInt (i : Int) (h : Stops rest) :
    scanNumber (writeInt i ++ rest) = some (.int i, rest) := by
  unfold writeInt
  by_cases hi : i < 0
  · rw [if_pos hi, List.cons_append, scanNumber, scanUnsigned_toDigits true _ h, if_pos rfl]
    have he : -(i.natAbs : Int) = i := by omega
    rw [he]
  · rw [if_neg hi]
    obtain ⟨c, cs, he, -⟩ := toDigits_head i.natAbs
    have hc : c ≠ '-' := by
      rintro rfl
      have hd := Nat.isDigit_of_mem_toDigits (b := 10) (n := i.natAbs) (c := '-') (by decide)
        (by decide) (by rw [he]; exact List.mem_cons_self)
      cases hd
    have hs := scanUnsigned_toDigits false i.natAbs h
    rw [he, List.cons_append] at hs ⊢
    unfold scanNumber
    split
    · rename_i heq
      cases heq
      exact absurd rfl hc
    · rw [hs, if_neg Bool.false_ne_true]
      have he : (i.natAbs : Int) = i := by omega
      rw [he]

end Numbers

section Values

/-- Numbers without a fraction, strings, constants, and arrays of them. -/
inductive Plain : Json → Prop where
  | null : Plain .null
  | bool (b : Bool) : Plain (.bool b)
  | int (i : Int) : Plain (.int i)
  | str (s : String) : Plain (.str s)
  | arr (items : List Json) (plain : ∀ v ∈ items, Plain v) : Plain (.arr items)

theorem write_head (h : Plain v) :
    ∃ c cs, write v = c :: cs ∧ isSpace c = false ∧ c ≠ ']' := by
  cases h with
  | null => exact ⟨_, _, rfl, rfl, by decide⟩
  | bool b => cases b <;> exact ⟨_, _, rfl, rfl, by decide⟩
  | int i =>
    rw [write]
    unfold writeInt
    by_cases hi : i < 0
    · rw [if_pos hi]
      exact ⟨_, _, rfl, rfl, by decide⟩
    · rw [if_neg hi]
      obtain ⟨c, cs, he, -⟩ := toDigits_head i.natAbs
      have hd : c.isDigit = true := Nat.isDigit_of_mem_toDigits (b := 10) (n := i.natAbs) (by decide)
        (by decide) (by rw [he]; exact List.mem_cons_self)
      refine ⟨c, cs, he, ?_, ?_⟩
      · unfold isSpace
        simp only [Bool.or_eq_false_iff, decide_eq_false_iff_not]
        refine ⟨⟨⟨?_, ?_⟩, ?_⟩, ?_⟩ <;> (rintro rfl; cases hd)
      · rintro rfl
        cases hd
  | str s => exact ⟨_, _, rfl, rfl, by decide⟩
  | arr items => exact ⟨_, _, rfl, rfl, by decide⟩

theorem skipSpace_cons (h : isSpace c = false) (rest : List Char) :
    skipSpace (c :: rest) = c :: rest := by
  unfold skipSpace
  rw [List.dropWhile_cons_of_neg (by simp [h])]

theorem skipSpace_write (h : Plain v) (rest : List Char) :
    skipSpace (write v ++ rest) = write v ++ rest := by
  obtain ⟨c, cs, he, hs, -⟩ := write_head h
  rw [he, List.cons_append]
  exact skipSpace_cons hs _

theorem joinItems_cons (v w : Json) (vs : List Json) :
    joinWith ',' (writeItems (v :: w :: vs)) =
      write v ++ ',' :: joinWith ',' (writeItems (w :: vs)) := rfl

theorem joinItems_head (h : Plain v) (vs : List Json) :
    ∃ c cs, joinWith ',' (writeItems (v :: vs)) = c :: cs ∧ isSpace c = false ∧ c ≠ ']' := by
  obtain ⟨c, cs, he, hs⟩ := write_head h
  cases vs with
  | nil => exact ⟨c, cs, he, hs⟩
  | cons w vs =>
    rw [joinItems_cons, he]
    exact ⟨c, _, rfl, hs⟩

/-- Two steps of fuel for each character are enough, for a value and for the items of an array. -/
theorem scan_write (fuel : Nat) :
    (∀ v, Plain v → ∀ rest, Stops rest → 2 * (write v).length ≤ fuel →
      scanValue fuel (write v ++ rest) = some (v, rest)) ∧
    ∀ v vs, (∀ w ∈ v :: vs, Plain w) → ∀ rest,
      2 * (joinWith ',' (writeItems (v :: vs))).length + 1 ≤ fuel →
      scanItems fuel (joinWith ',' (writeItems (v :: vs)) ++ ']' :: rest) =
        some (v :: vs, rest) := by
  induction fuel with
  | zero =>
    constructor
    · intro v hv rest _ hl
      obtain ⟨c, cs, he, -⟩ := write_head hv
      rw [he, List.length_cons] at hl
      omega
    · intro v vs _ rest hl
      omega
  | succ fuel ih =>
    obtain ⟨ihv, ihs⟩ := ih
    constructor
    · intro v hv rest hs hl
      cases hv with
      | null => rfl
      | bool b => cases b <;> rfl
      | int i =>
        obtain ⟨c, cs, he, -⟩ := write_head (Plain.int i)
        have hn := scanNumber_writeInt i hs
        rw [write] at he ⊢
        rw [he, List.cons_append] at hn ⊢
        have hq : c ≠ '"' ∧ c ≠ '[' ∧ c ≠ '{' := by
          refine ⟨?_, ?_, ?_⟩ <;> (rintro rfl; cases hn)
        rw [scanValue, if_neg hq.1, if_neg hq.2.1, if_neg hq.2.2, hn]
        rfl
      | str s =>
        rw [write, quote, List.cons_append, List.append_assoc, List.singleton_append, scanValue,
          if_pos rfl, scanString_escape s.toList]
        · simp only [bind, Option.bind_some, String.ofList_toList]
        · have := length_le_escape s.toList
          rw [List.length_append, List.length_cons]
          omega
      | arr items plain =>
        rw [write, List.cons_append, List.append_assoc, List.singleton_append, scanValue,
          if_neg (by decide), if_pos rfl]
        cases items with
        | nil =>
          simp only [writeItems, joinWith, List.nil_append]
          rw [skipSpace_cons rfl]
          rfl
        | cons v vs =>
          obtain ⟨c, cs, he, hc, hb⟩ := joinItems_head (plain v List.mem_cons_self) vs
          have hi := ihs v vs plain rest (by
            rw [write, List.length_cons, List.length_append] at hl
            simp only [List.length_singleton] at hl
            omega)
          rw [he, List.cons_append] at hi ⊢
          rw [skipSpace_cons hc]
          split
          · rename_i heq
            cases heq
            exact absurd rfl hb
          · rw [hi]
            rfl
    · intro v vs hp rest hl
      have hv := hp v List.mem_cons_self
      cases vs with
      | nil =>
        have hj : joinWith ',' (writeItems [v]) = write v := rfl
        rw [hj] at hl ⊢
        rw [scanItems, ihv v hv _ (stops_bracket rest) (by omega)]
        simp only [bind, Option.bind_some]
        rw [skipSpace_cons rfl]
        rfl
      | cons w vs =>
        rw [joinItems_cons, List.length_append, List.length_cons] at hl
        rw [joinItems_cons, List.append_assoc, List.cons_append, scanItems,
          ihv v hv _ (stops_comma _) (by omega)]
        simp only [bind, Option.bind_some]
        obtain ⟨c, cs, he, hc, -⟩ := joinItems_head (hp w (by simp)) vs
        have hi := ihs w vs (fun u hu => hp u (List.mem_cons_of_mem _ hu)) rest (by omega)
        rw [he, List.cons_append] at hi ⊢
        rw [skipSpace_cons rfl]
        change (scanItems fuel (skipSpace (c :: (cs ++ ']' :: rest)))).bind _ = _
        rw [skipSpace_cons hc, hi]
        rfl

theorem loads_dumps (h : Plain v) : loads (dumps v) = some v := by
  unfold loads dumps
  have hs := skipSpace_write h []
  rw [List.append_nil] at hs
  have hv := (scan_write (2 * (write v).length + 2)).1 v h [] stops_nil (by omega)
  rw [List.append_nil] at hv
  rw [String.toList_ofList, hs, hv]
  rfl


end Values

end JsonText
