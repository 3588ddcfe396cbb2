import LotusRisk.Enterprise.Authorization

/-! Which capability rule decides a path: the longest one, when it is the only one of its length and
not that of the root. -/

namespace LotusRisk
set_option autoImplicit true

open JsonText
open Relational

section Paths

/-- A rule path covers a path segment by segment; the root covers every path. -/
def SegmentPrefix (rulePath path : List Char) : Prop :=
  rstripSlash rulePath = [] ∨ path = rstripSlash rulePath ∨ rstripSlash rulePath ++ [ '/'] <+: path

/-- The paths that a rule of the root is compared with as if they were its own. -/
def UnderDoubleSlash (path : List Char) : Prop := path = [ '/'] ∨ [ '/', '/'] <+: path

theorem pathMatchesRule_iff : pathMatchesRule path rulePath = true ↔
    SegmentPrefix rulePath path ∧ (rstripSlash rulePath = [] → UnderDoubleSlash path) := by
  rw [pathMatchesRule, normalizedRulePath, Bool.or_eq_true, decide_eq_true_iff,
    List.isPrefixOf_iff_prefix]
  by_cases hroot : rstripSlash rulePath = []
  · rw [if_pos hroot]
    constructor
    · intro h
      exact ⟨.inl hroot, fun _ => h⟩
    · intro h
      exact h.2 hroot
  · rw [if_neg hroot]
    constructor
    · intro h
      exact ⟨.inr h, fun hnil => absurd hnil hroot⟩
    · intro h
      exact h.1.resolve_left hroot

theorem partitionSpace_eq_some (h : partitionSpace text = some (before, after)) :
    text.toList = before.toList ++ ' ' :: after.toList := by
  have hspan := List.span_eq_takeWhile_dropWhile (fun c => decide (c ≠ ' ')) text.toList
  have hwhole : text.toList.takeWhile (fun c => decide (c ≠ ' ')) ++
      text.toList.dropWhile (fun c => decide (c ≠ ' ')) = text.toList :=
    List.takeWhile_append_dropWhile
  rw [partitionSpace, hspan] at h
  split at h
  · cases h
  · rename_i taken c rest heq
    cases h
    obtain ⟨htaken, hdropped⟩ := Prod.mk.inj heq
    have hspace : c = ' ' := by
      have hhead := List.head?_dropWhile_not (fun c => decide (c ≠ ' ')) text.toList
      rw [hdropped] at hhead
      simpa using hhead
    rw [hdropped, hspace, htaken] at hwhole
    rw [String.toList_ofList, String.toList_ofList]
    exact hwhole.symm

theorem partitionSpace_free (h : partitionSpace text = some (before, after)) :
    ' ' ∉ before.toList := by
  rw [partitionSpace, List.span_eq_takeWhile_dropWhile] at h
  split at h
  · cases h
  · rename_i taken c rest heq
    cases h
    rw [String.toList_ofList, ← (Prod.mk.inj heq).1]
    intro hmem
    have hne := List.mem_takeWhile_imp hmem
    simp at hne

/-- A first blank is found where it stands. -/
theorem blank_prefix_iff {a b c : List Char} (ha : ' ' ∉ a) (hb : ' ' ∉ b) :
    a ++ [ ' '] <+: b ++ ' ' :: c ↔ a = b := by
  have htaken : ∀ {x y : List Char}, ' ' ∉ x → (x ++ ' ' :: y).takeWhile (· ≠ ' ') = x := by
    intro x y hx
    have hall : ∀ z ∈ x, decide (z ≠ ' ') = true := by
      intro z hz
      rw [decide_eq_true_iff]
      rintro rfl
      exact hx hz
    rw [List.takeWhile_append_of_pos hall, List.takeWhile_cons_of_neg (by decide),
      List.append_nil]
  constructor
  · rintro ⟨rest, hrest⟩
    rw [List.append_assoc, List.singleton_append] at hrest
    rw [← htaken ha, hrest, htaken hb]
  · rintro rfl
    exact ⟨c, by rw [List.append_assoc, List.singleton_append]⟩

variable [PyText]

/-- The path of a rule is the one validated, unless its method is longer in capitals. -/
theorem rulePathOf_validated (hkey : partitionSpace key = some (own, rulePath))
    (hcapitals : PyText.upper own = PyText.upper method)
    (hlength : (PyText.upper own).toList.length = own.toList.length) :
    rulePathOf method key = rulePath.toList := by
  rw [rulePathOf, ← hcapitals, partitionSpace_eq_some hkey, List.length_append,
    List.length_singleton, hlength, ← List.drop_drop, List.drop_left, List.drop_succ_cons,
    List.drop_zero]

end Paths

section Loading

variable [PyText]

theorem loaded_keys (rules : Dict String Json) :
    ((rules.items.filterMap loadRule).map Prod.fst).Nodup := by
  have hsublist : ((rules.items.filterMap loadRule).map Prod.fst).Sublist
      (rules.items.map Prod.fst) := by
    induction rules.items with
    | nil => exact List.Sublist.slnil
    | cons item items ih =>
      cases hvalid : validCapabilityRule item.1 item.2 with
      | none =>
        have hload : loadRule item = none := by rw [loadRule, hvalid, Option.map_none]
        rw [List.filterMap_cons_none hload]
        exact ih.cons _
      | some capability =>
        have hload : loadRule item = some (item.1, capability) := by
          rw [loadRule, hvalid, Option.map_some]
        rw [List.filterMap_cons_some hload]
        exact ih.cons_cons _
  exact rules.unique.sublist hsublist

theorem items_loadCapabilityRules (rules : Dict String Json) :
    (loadCapabilityRules rules).items = rules.items.filterMap loadRule :=
  Dict.items_ofList (loaded_keys rules)

/-- A loaded key has a blank, where its method ends. -/
theorem exists_partition {rules : Dict String Json}
    (h : rule ∈ (loadCapabilityRules rules).items) :
    ∃ own rulePath, partitionSpace rule.1 = some (own, rulePath) := by
  rw [items_loadCapabilityRules, List.mem_filterMap] at h
  obtain ⟨item, _, hload⟩ := h
  obtain ⟨capability, hvalid, rfl⟩ := Option.map_eq_some_iff.1 hload
  cases hvalue : item.2 with
  | str text =>
    cases hkey : partitionSpace item.1 with
    | none => simp [hvalue, validCapabilityRule, hkey] at hvalid
    | some parts => exact ⟨parts.1, parts.2, rfl⟩
  | _ => simp [hvalue, validCapabilityRule] at hvalid

theorem loaded_perm {rules rules' : Dict String Json} (h : rules'.items.Perm rules.items) :
    (loadCapabilityRules rules').items.Perm (loadCapabilityRules rules).items := by
  rw [items_loadCapabilityRules, items_loadCapabilityRules]
  exact h.filterMap _

end Loading

section Lookup

variable [PyText]

/-- The path that the validation of a key reads, if its method is the one asked for. -/
def validatedPath (method key : String) : Option (List Char) :=
  match partitionSpace key with
  | some (own, rulePath) =>
    if PyText.upper own = PyText.upper method then some rulePath.toList else none
  | none => none

theorem validatedPath_eq (h : partitionSpace key = some (own, rulePath)) :
    validatedPath method key =
      if PyText.upper own = PyText.upper method then some rulePath.toList else none := by
  rw [validatedPath, h]

/-- A valid rule for the method whose path covers the requested one. -/
def Applies (rules : Dict String Json) (method path : String) (rule : String × String) : Prop :=
  rule ∈ (loadCapabilityRules rules).items ∧
    ∃ rulePath, validatedPath method rule.1 = some rulePath ∧ SegmentPrefix rulePath path.toList

/-- The length of the path of a rule, without its trailing slashes. -/
def ruleLength (method : String) (rule : String × String) : Nat :=
  (rstripSlash ((validatedPath method rule.1).getD [])).length

/-- An applying rule that no other one is longer than. -/
def MostSpecific (rules : Dict String Json) (method path : String) (rule : String × String) : Prop :=
  Applies rules method path rule ∧
    ∀ other, Applies rules method path other → ruleLength method other ≤ ruleLength method rule

/-- What the lookup of a capability must do. -/
structure LooksUp (rules : Dict String Json) (method path : String) : Prop where
  longest : ∀ capability, requiredCapability rules method path = some capability →
    ∃ key, MostSpecific rules method path (key, capability)
  missing : requiredCapability rules method path = none ↔ ¬ ∃ rule, Applies rules method path rule
  ordered : ∀ rules' : Dict String Json, rules'.items.Perm rules.items →
    requiredCapability rules' method path = requiredCapability rules method path

theorem exists_mostSpecific {rules : Dict String Json} (h : Applies rules method path rule) :
    ∃ best, MostSpecific rules method path best := by
  classical
  have hmem : rule ∈ (loadCapabilityRules rules).items.filter
      (fun rule => decide (Applies rules method path rule)) :=
    List.mem_filter.2 ⟨h.1, decide_eq_true h⟩
  obtain ⟨best, hbest, hgreatest⟩ := Foremost.exists_leads_of_mem (ruleLength method) hmem
  refine ⟨best, of_decide_eq_true (List.mem_filter.1 hbest).2, ?_⟩
  intro other hother
  exact hgreatest other (List.mem_filter.2 ⟨hother.1, decide_eq_true hother⟩)

section Matching

/-- A loaded rule that the lookup matches with the path: it reads the method off the capitals of
the key, and cuts the key where the method in capitals would end. -/
def Matched (rules : Dict String Json) (method path : String) (rule : String × String) : Prop :=
  rule ∈ (loadCapabilityRules rules).items ∧ keyNamesMethod method rule.1 = true ∧
    pathMatchesRule path.toList (rulePathOf method rule.1) = true

/-- The length that the lookup compares. -/
def cutLength (method : String) (rule : String × String) : Nat :=
  (rstripSlash (rulePathOf method rule.1)).length

/-- A matched rule whose cut path no other one is longer than. -/
def LongestMatched (rules : Dict String Json) (method path : String)
    (rule : String × String) : Prop :=
  Matched rules method path rule ∧
    ∀ other, Matched rules method path other → cutLength method other ≤ cutLength method rule

theorem matchingRule_eq_some : matchingRule method path rule = some m ↔
    (keyNamesMethod method rule.1 = true ∧
      pathMatchesRule path.toList (rulePathOf method rule.1) = true) ∧
    m = (cutLength method rule, rule.2) := by
  rw [matchingRule]
  split_ifs with h
  · rw [Option.some.injEq, eq_comm]
    exact (and_iff_right h).symm
  · exact iff_of_false nofun (fun hall => h hall.1)

variable {rules : Dict String Json}

/-- Over the loaded rules, what the matching ones say. -/
theorem mem_matching :
    m ∈ (loadCapabilityRules rules).items.filterMap (matchingRule method path) ↔
      ∃ rule, Matched rules method path rule ∧ m = (cutLength method rule, rule.2) := by
  rw [List.mem_filterMap]
  apply exists_congr
  intro rule
  rw [matchingRule_eq_some, Matched, and_assoc, and_assoc, and_assoc]

/-- What leads the matching rules is a longest matched one. -/
theorem leads_matching :
    Foremost.Leads Prod.fst
        ((loadCapabilityRules rules).items.filterMap (matchingRule method path)) m ↔
      ∃ rule, LongestMatched rules method path rule ∧ m = (cutLength method rule, rule.2) := by
  constructor
  · rintro ⟨hmem, hgreatest⟩
    obtain ⟨rule, hmatched, rfl⟩ := mem_matching.1 hmem
    refine ⟨rule, ⟨hmatched, ?_⟩, rfl⟩
    intro other hother
    exact hgreatest _ (mem_matching.2 ⟨other, hother, rfl⟩)
  · rintro ⟨rule, ⟨hmatched, hgreatest⟩, rfl⟩
    refine ⟨mem_matching.2 ⟨rule, hmatched, rfl⟩, ?_⟩
    intro m' hm'
    obtain ⟨other, hother, rfl⟩ := mem_matching.1 hm'
    exact hgreatest other hother

theorem requiredCapability_eq_none :
    requiredCapability rules method path = none ↔ ¬ ∃ rule, Matched rules method path rule := by
  rw [requiredCapability, requiredCapabilityFromRules, Foremost.choose_eq_none,
    List.eq_nil_iff_forall_not_mem]
  constructor
  · rintro hnone ⟨rule, hrule⟩
    exact hnone _ (mem_matching.2 ⟨rule, hrule, rfl⟩)
  · intro hnone m hm
    obtain ⟨rule, hrule, _⟩ := mem_matching.1 hm
    exact hnone ⟨rule, hrule⟩

theorem exists_longestMatched (h : requiredCapability rules method path = some capability) :
    ∃ rule, LongestMatched rules method path rule ∧ rule.2 = capability := by
  obtain ⟨m, hleads, rfl⟩ := Foremost.exists_leads h
  obtain ⟨rule, hrule, rfl⟩ := leads_matching.1 hleads
  exact ⟨rule, hrule, rfl⟩

/-- A longest matched rule decides a map in which it comes first. -/
theorem exists_first (h : LongestMatched rules method path rule) :
    ∃ rules' : Dict String Json, rules'.items.Perm rules.items ∧
      requiredCapability rules' method path = some rule.2 := by
  have hloaded := h.1.1
  rw [items_loadCapabilityRules, List.mem_filterMap] at hloaded
  obtain ⟨item, hitem, hvalid⟩ := hloaded
  obtain ⟨before, after, hsplit⟩ := List.append_of_mem hitem
  have hperm : (item :: (before ++ after)).Perm rules.items := by
    rw [hsplit]
    exact List.perm_middle.symm
  have hunique : ((item :: (before ++ after)).map Prod.fst).Nodup :=
    (hperm.map Prod.fst).nodup_iff.2 rules.unique
  let first : Dict String Json := ⟨item :: (before ++ after), hunique⟩
  have hfirstPerm : first.items.Perm rules.items := hperm
  refine ⟨first, hfirstPerm, ?_⟩
  have hmatching : matchingRule method path rule = some (cutLength method rule, rule.2) :=
    matchingRule_eq_some.2 ⟨h.1.2, rfl⟩
  have hfirst : (loadCapabilityRules first).items.filterMap
      (matchingRule method path) = (cutLength method rule, rule.2) ::
        ((before ++ after).filterMap loadRule).filterMap (matchingRule method path) := by
    rw [items_loadCapabilityRules, Dict.items, List.filterMap_cons_some hvalid,
      List.filterMap_cons_some hmatching]
  rw [requiredCapability, requiredCapabilityFromRules, hfirst]
  apply Foremost.choose_cons_of_leads
  intro m hm
  have hleads := leads_matching.2 ⟨rule, h, rfl⟩
  apply hleads.2
  apply ((loaded_perm hfirstPerm).filterMap _).mem_iff.1
  rw [hfirst]
  exact List.mem_cons_of_mem _ hm

end Matching

/-- What the lookup matches is decisive: something, if a rule applies, and the longest that it
matches name one capability, which a most specific rule names. -/
def MatchesDecisively (rules : Dict String Json) (method path : String) : Prop :=
  ((∃ rule, Applies rules method path rule) → ∃ rule, Matched rules method path rule) ∧
    ∀ rule, LongestMatched rules method path rule →
      (∃ key, MostSpecific rules method path (key, rule.2)) ∧
      ∀ other, LongestMatched rules method path other → other.2 = rule.2

theorem looksUp_iff_matches (rules : Dict String Json) (method path : String) :
    LooksUp rules method path ↔ MatchesDecisively rules method path := by
  constructor
  · intro h
    -- each of the longest rules is chosen when it comes first
    have hchosen : ∀ first, LongestMatched rules method path first →
        requiredCapability rules method path = some first.2 := by
      intro first hfirst
      obtain ⟨rules', hperm, hrequired⟩ := exists_first hfirst
      rw [← h.ordered rules' hperm]
      exact hrequired
    refine ⟨?_, ?_⟩
    · intro happlies
      by_contra hnone
      exact h.missing.1 (requiredCapability_eq_none.2 hnone) happlies
    · intro rule hrule
      refine ⟨h.longest rule.2 (hchosen rule hrule), ?_⟩
      intro other hother
      exact Option.some.inj ((hchosen other hother).symm.trans (hchosen rule hrule))
  · rintro ⟨hmatches, hlongest⟩
    refine ⟨?_, ?_, ?_⟩
    · intro capability hcapability
      obtain ⟨rule, hrule, rfl⟩ := exists_longestMatched hcapability
      exact (hlongest rule hrule).1
    · rw [requiredCapability_eq_none]
      constructor
      · intro hnone happlies
        exact hnone (hmatches happlies)
      · rintro hnone ⟨rule, hrule⟩
        have hsome : requiredCapability rules method path ≠ none := by
          intro h
          exact requiredCapability_eq_none.1 h ⟨rule, hrule⟩
        obtain ⟨capability, hcapability⟩ := Option.ne_none_iff_exists'.1 hsome
        obtain ⟨first, hfirst, _⟩ := exists_longestMatched hcapability
        obtain ⟨key, hkey⟩ := (hlongest first hfirst).1
        exact hnone ⟨_, hkey.1⟩
    · intro rules' hperm
      apply Foremost.choose_perm ((loaded_perm hperm).filterMap _)
      intro m m' hm hm'
      obtain ⟨rule, hrule, rfl⟩ := leads_matching.1 hm
      obtain ⟨other, hother, rfl⟩ := leads_matching.1 hm'
      exact (hlongest other hother).2 rule hrule

section Cutting

/-- The lookup reads the rules as they were validated: it takes those whose method it is, and cuts
each where its own method ends. -/
structure CutAsValidated (rules : Dict String Json) (method : String) : Prop where
  named : ∀ rule ∈ (loadCapabilityRules rules).items,
    keyNamesMethod method rule.1 = true ↔ (validatedPath method rule.1).isSome = true
  cut : ∀ rule ∈ (loadCapabilityRules rules).items, ∀ rulePath,
    validatedPath method rule.1 = some rulePath → rulePathOf method rule.1 = rulePath

/-- A rule of the root that applies, and nothing else that the code would match instead. -/
def RootDecides (rules : Dict String Json) (method path : String) : Prop :=
  (∃ rule, Applies rules method path rule) ∧
    ∀ rule, Applies rules method path rule → ruleLength method rule = 0

variable {rules : Dict String Json}

/-- Capitals that replace each character by one, and keep the space apart, leave the cut alone. -/
theorem cutAsValidated_of_map {f : Char → Char}
    (hupper : ∀ text, (PyText.upper text).toList = text.toList.map f)
    (hspace : ∀ c, f c = ' ' ↔ c = ' ') (hmethod : ' ' ∉ method.toList) :
    CutAsValidated rules method := by
  have hfree : ∀ {text : String}, ' ' ∉ text.toList → ' ' ∉ text.toList.map f := by
    intro text htext hmem
    obtain ⟨c, hc, hblank⟩ := List.mem_map.1 hmem
    rw [(hspace c).1 hblank] at hc
    exact htext hc
  have hcapitals : ∀ text, PyText.upper text = String.ofList (text.toList.map f) := by
    intro text
    rw [← hupper, String.ofList_toList]
  refine ⟨?_, ?_⟩
  · intro rule hrule
    obtain ⟨own, rulePath, hkey⟩ := exists_partition hrule
    have hown := partitionSpace_free hkey
    have hcut : (PyText.upper rule.1).toList =
        own.toList.map f ++ ' ' :: rulePath.toList.map f := by
      rw [hupper, partitionSpace_eq_some hkey, List.map_append, List.map_cons, (hspace ' ').2 rfl]
    rw [keyNamesMethod, List.isPrefixOf_iff_prefix, hcut, hupper,
      blank_prefix_iff (hfree hmethod) (hfree hown), validatedPath_eq hkey, hcapitals own,
      hcapitals method]
    by_cases hsame : method.toList.map f = own.toList.map f
    · simp [hsame]
    · simp [hsame, Ne.symm hsame, String.ofList_inj]
  · intro rule hrule rulePath hpath
    obtain ⟨own, ownPath, hkey⟩ := exists_partition hrule
    rw [validatedPath_eq hkey] at hpath
    split_ifs at hpath with hsame
    cases hpath
    apply rulePathOf_validated hkey hsame
    rw [hupper, List.length_map]

theorem cutLength_eq (h : CutAsValidated rules method)
    (hrule : rule ∈ (loadCapabilityRules rules).items)
    (hpath : validatedPath method rule.1 = some rulePath) :
    cutLength method rule = ruleLength method rule := by
  rw [cutLength, ruleLength, h.cut rule hrule rulePath hpath, hpath, Option.getD_some]

/-- The rules that are matched are those that apply, but for those of the root. -/
theorem matched_iff (h : CutAsValidated rules method) : Matched rules method path rule ↔
    Applies rules method path rule ∧
      (ruleLength method rule = 0 → UnderDoubleSlash path.toList) := by
  constructor
  · rintro ⟨hrule, hnamed, hmatches⟩
    obtain ⟨rulePath, hpath⟩ := Option.isSome_iff_exists.1 ((h.named rule hrule).1 hnamed)
    rw [h.cut rule hrule rulePath hpath, pathMatchesRule_iff] at hmatches
    refine ⟨⟨hrule, rulePath, hpath, hmatches.1⟩, ?_⟩
    intro hzero
    apply hmatches.2
    rwa [ruleLength, hpath, Option.getD_some, List.length_eq_zero_iff] at hzero
  · rintro ⟨⟨hrule, rulePath, hpath, hunder⟩, hroot⟩
    refine ⟨hrule, (h.named rule hrule).2 (Option.isSome_iff_exists.2 ⟨rulePath, hpath⟩), ?_⟩
    rw [h.cut rule hrule rulePath hpath, pathMatchesRule_iff]
    refine ⟨hunder, ?_⟩
    intro hnil
    apply hroot
    rw [ruleLength, hpath, Option.getD_some, List.length_eq_zero_iff]
    exact hnil

theorem cutLength_of_applies (h : CutAsValidated rules method)
    (happlies : Applies rules method path rule) : cutLength method rule = ruleLength method rule := by
  obtain ⟨hrule, rulePath, hpath, _⟩ := happlies
  exact cutLength_eq h hrule hpath

/-- A longest matched rule is most specific among all that apply: the others are rules of the
root. -/
theorem mostSpecific_of_longestMatched (h : CutAsValidated rules method)
    (hrule : LongestMatched rules method path rule) : MostSpecific rules method path rule := by
  have happlies := ((matched_iff h).1 hrule.1).1
  refine ⟨happlies, ?_⟩
  intro other hother
  by_cases hzero : ruleLength method other = 0
  · omega
  · have hmatched := (matched_iff h).2 ⟨hother, fun hlength => absurd hlength hzero⟩
    have hle := hrule.2 other hmatched
    rwa [cutLength_of_applies h happlies, cutLength_of_applies h hother] at hle

theorem longestMatched_of_mostSpecific (h : CutAsValidated rules method)
    (hroot : RootDecides rules method path → UnderDoubleSlash path.toList)
    (hrule : MostSpecific rules method path rule) : LongestMatched rules method path rule := by
  refine ⟨(matched_iff h).2 ⟨hrule.1, ?_⟩, ?_⟩
  · intro hzero
    apply hroot
    refine ⟨⟨rule, hrule.1⟩, ?_⟩
    intro other hother
    have hle := hrule.2 other hother
    omega
  · intro other hother
    have happlies := ((matched_iff h).1 hother).1
    rw [cutLength_of_applies h happlies, cutLength_of_applies h hrule.1]
    exact hrule.2 other happlies

/-- Where the cut is the validated one, what is left is the root and rules that match equally
well. -/
theorem matchesDecisively_iff (h : CutAsValidated rules method) :
    MatchesDecisively rules method path ↔
      (∀ rule other, MostSpecific rules method path rule → MostSpecific rules method path other →
        rule.2 = other.2) ∧
      (RootDecides rules method path → UnderDoubleSlash path.toList) := by
  constructor
  · rintro ⟨hmatches, hlongest⟩
    have hroot : RootDecides rules method path → UnderDoubleSlash path.toList := by
      rintro ⟨hsome, hall⟩
      obtain ⟨rule, hrule⟩ := hmatches hsome
      obtain ⟨happlies, hunder⟩ := (matched_iff h).1 hrule
      exact hunder (hall rule happlies)
    refine ⟨?_, hroot⟩
    intro rule other hrule hother
    exact (hlongest other (longestMatched_of_mostSpecific h hroot hother)).2 rule
      (longestMatched_of_mostSpecific h hroot hrule)
  · rintro ⟨htie, hroot⟩
    refine ⟨?_, ?_⟩
    · rintro ⟨rule, hrule⟩
      obtain ⟨best, hbest⟩ := exists_mostSpecific hrule
      exact ⟨best, (longestMatched_of_mostSpecific h hroot hbest).1⟩
    · intro rule hrule
      refine ⟨⟨rule.1, mostSpecific_of_longestMatched h hrule⟩, ?_⟩
      intro other hother
      exact htie other rule (mostSpecific_of_longestMatched h hother)
        (mostSpecific_of_longestMatched h hrule)

end Cutting

/-- The lookup does what it must exactly if what it matches is decisive. Where it cuts the keys as
they were validated, that is so exactly if the most specific rules name one capability, and a rule
of the root is not left to decide a path that it is not compared with. -/
theorem capability_lookup_iff (rules : Dict String Json) (method path : String) :
    (LooksUp rules method path ↔ MatchesDecisively rules method path) ∧
      (CutAsValidated rules method → (LooksUp rules method path ↔
        (∀ rule other, MostSpecific rules method path rule →
          MostSpecific rules method path other → rule.2 = other.2) ∧
        (RootDecides rules method path → UnderDoubleSlash path.toList))) := by
  refine ⟨looksUp_iff_matches rules method path, ?_⟩
  intro hcut
  rw [looksUp_iff_matches]
  exact matchesDecisively_iff hcut

end Lookup

section Failures

namespace LigatureRuntime

/-- Capitals of ASCII characters, and of the ligature that has two. -/
scoped instance : PyText where
  upper text :=
    String.ofList (text.toList.flatMap fun c => if c = 'ﬆ' then [ 'S', 'T'] else [c.toUpper])
  sha256 text := Sha256.hexdigest text.toUTF8.toList

end LigatureRuntime

open scoped LigatureRuntime

def rootRule : Dict String Json := Dict.ofList [("POST /", .str "risk.write")]

def twoSpellings : Dict String Json :=
  Dict.ofList [("POST /writes", .str "risk.write"), ("post /writes/", .str "risk.admin")]

def otherOrder : Dict String Json :=
  Dict.ofList [("post /writes/", .str "risk.admin"), ("POST /writes", .str "risk.write")]

def ligatureRule : Dict String Json := Dict.ofList [("poﬆ /writes", .str "risk.write")]

/-- The rule of the root leaves a path without a capability, of two spellings of one rule the first
decides, and a rule whose method is longer in capitals is not seen. -/
theorem capability_lookup_fails :
    ¬ LooksUp rootRule "POST" "/writes" ∧ ¬ LooksUp twoSpellings "POST" "/writes" ∧
      ¬ LooksUp ligatureRule "POST" "/writes" := by
  refine ⟨?_, ?_, ?_⟩
  · intro h
    have hnone : requiredCapability rootRule "POST" "/writes" = none := by decide +kernel
    apply h.missing.1 hnone
    refine ⟨("POST /", "risk.write"), by decide +kernel, "/".toList, by decide +kernel, ?_⟩
    exact .inl (by decide +kernel)
  · intro h
    have hperm : otherOrder.items.Perm twoSpellings.items := List.Perm.swap _ _ _
    have hsame := h.ordered otherOrder hperm
    have hadmin : requiredCapability otherOrder "POST" "/writes" = some "risk.admin" := by
      decide +kernel
    have hwrite : requiredCapability twoSpellings "POST" "/writes" = some "risk.write" := by
      decide +kernel
    rw [hadmin, hwrite] at hsame
    exact absurd hsame (by decide)
  · intro h
    have hnone : requiredCapability ligatureRule "POST" "/writes" = none := by decide +kernel
    apply h.missing.1 hnone
    refine ⟨("poﬆ /writes", "risk.write"), by decide +kernel, "/writes".toList,
      by decide +kernel, ?_⟩
    exact .inr (.inl (by decide +kernel))

end Failures

end LotusRisk
