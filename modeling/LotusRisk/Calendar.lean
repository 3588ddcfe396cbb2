import Mathlib.Order.Basic
import Mathlib.Tactic.IntervalCases
import LotusRisk.Python

namespace LotusRisk
set_option autoImplicit true

section Order

theorem Date.before_iff (a b : Date) : a.before b = true ↔ a.year < b.year ∨
    (a.year = b.year ∧ (a.month < b.month ∨ (a.month = b.month ∧ a.day < b.day))) := by
  simp [Date.before]

theorem Date.eq_of_fields {a b : Date} (hy : a.year = b.year) (hm : a.month = b.month)
    (hd : a.day = b.day) : a = b := by
  cases a
  cases b
  cases hy
  cases hm
  cases hd
  rfl

theorem Date.before_total (a b : Date) : a.before b = true ∨ a = b ∨ b.before a = true := by
  rcases Nat.lt_trichotomy a.year b.year with hy | hy | hy
  · exact .inl ((a.before_iff b).2 (.inl hy))
  · rcases Nat.lt_trichotomy a.month b.month with hm | hm | hm
    · exact .inl ((a.before_iff b).2 (.inr ⟨hy, .inl hm⟩))
    · rcases Nat.lt_trichotomy a.day b.day with hd | hd | hd
      · exact .inl ((a.before_iff b).2 (.inr ⟨hy, .inr ⟨hm, hd⟩⟩))
      · exact .inr (.inl (Date.eq_of_fields hy hm hd))
      · exact .inr (.inr ((b.before_iff a).2 (.inr ⟨hy.symm, .inr ⟨hm.symm, hd⟩⟩)))
    · exact .inr (.inr ((b.before_iff a).2 (.inr ⟨hy.symm, .inl hm⟩)))
  · exact .inr (.inr ((b.before_iff a).2 (.inl hy)))

theorem Date.before_irrefl (a : Date) : a.before a = false := by
  apply Bool.eq_false_iff.2
  intro h
  have h := (a.before_iff a).1 h
  omega

theorem Date.before_trans {a b c : Date} (hab : a.before b = true) (hbc : b.before c = true) :
    a.before c = true := by
  have hab := (a.before_iff b).1 hab
  have hbc := (b.before_iff c).1 hbc
  apply (a.before_iff c).2
  omega

/-- Dates compare as `datetime.date` does. -/
instance : LinearOrder Date where
  le a b := b.before a = false
  lt a b := a.before b = true
  le_refl a := a.before_irrefl
  le_trans a b c hab hbc := by
    apply Bool.eq_false_iff.2
    intro h
    rcases Date.before_total b a with hba | hba | hba
    · exact Bool.false_ne_true (hab.symm.trans hba)
    · exact Bool.false_ne_true (hbc.symm.trans (hba ▸ h))
    · exact Bool.false_ne_true (hbc.symm.trans (Date.before_trans h hba))
  lt_iff_le_not_ge a b := by
    constructor
    · intro h
      refine ⟨Bool.eq_false_iff.2 ?_, fun hle => Bool.false_ne_true (hle.symm.trans h)⟩
      intro hba
      exact Bool.false_ne_true (a.before_irrefl.symm.trans (Date.before_trans h hba))
    · intro h
      exact Bool.not_eq_false _ ▸ h.2
  le_antisymm a b hab hba := by
    rcases Date.before_total a b with h | h | h
    · exact absurd (hba.symm.trans h) Bool.false_ne_true
    · exact h
    · exact absurd (hab.symm.trans h) Bool.false_ne_true
  le_total a b := by
    rcases Date.before_total a b with h | h | h
    · refine .inl (Bool.eq_false_iff.2 ?_)
      intro hba
      exact Bool.false_ne_true (a.before_irrefl.symm.trans (Date.before_trans h hba))
    · exact .inl (h ▸ a.before_irrefl)
    · refine .inr (Bool.eq_false_iff.2 ?_)
      intro hab
      exact Bool.false_ne_true (a.before_irrefl.symm.trans (Date.before_trans hab h))
  toDecidableLE a b := inferInstanceAs (Decidable (b.before a = false))
  toDecidableLT a b := inferInstanceAs (Decidable (a.before b = true))

theorem Date.lt_iff_fields {a b : Date} : a < b ↔ a.year < b.year ∨
    (a.year = b.year ∧ (a.month < b.month ∨ (a.month = b.month ∧ a.day < b.day))) :=
  a.before_iff b

end Order

section Ordinal

/-- Days of the years before `year`. -/
def daysBeforeYear (year : Nat) : Nat :=
  (year - 1) * 365 + (year - 1) / 4 - (year - 1) / 100 + (year - 1) / 400

/-- Days of the months before `month`. -/
def daysBeforeMonth (year month : Nat) : Nat :=
  [0, 0, 31, 59, 90, 120, 151, 181, 212, 243, 273, 304, 334].getD month 0 +
    (if 2 < month ∧ isLeap year then 1 else 0)

/-- `date.toordinal()`: day 1 is the first of January of year 1. -/
def Date.toordinal (d : Date) : Nat :=
  daysBeforeYear d.year + daysBeforeMonth d.year d.month + d.day

/-- `date.weekday()`, Monday being 0. -/
def Date.weekday (d : Date) : Nat := (d.toordinal + 6) % 7

theorem isLeap_iff : isLeap year = true ↔ year % 4 = 0 ∧ (year % 100 ≠ 0 ∨ year % 400 = 0) := by
  simp [isLeap]

theorem daysBeforeYear_succ (h : 1 ≤ year) : daysBeforeYear (year + 1) =
    daysBeforeYear year + (if isLeap year then 366 else 365) := by
  obtain ⟨n, rfl⟩ := Nat.exists_eq_add_of_le' h
  have hdays : n / 100 ≤ n / 4 := Nat.div_le_div_left (by omega) (by omega)
  have hleap : isLeap (n + 1) = true ↔ 4 ∣ n + 1 ∧ (¬ 100 ∣ n + 1 ∨ 400 ∣ n + 1) := by
    rw [isLeap_iff, Nat.dvd_iff_mod_eq_zero, Nat.dvd_iff_mod_eq_zero, Nat.dvd_iff_mod_eq_zero]
  have h100 : 100 ∣ n + 1 → 4 ∣ n + 1 := Nat.dvd_trans (by decide)
  have h400 : 400 ∣ n + 1 → 100 ∣ n + 1 := Nat.dvd_trans (by decide)
  unfold daysBeforeYear
  rw [Nat.add_sub_cancel, Nat.add_sub_cancel, Nat.succ_div, Nat.succ_div, Nat.succ_div]
  by_cases d4 : 4 ∣ n + 1
  · by_cases d100 : 100 ∣ n + 1
    · by_cases d400 : 400 ∣ n + 1
      · rw [if_pos (hleap.2 ⟨d4, .inr d400⟩), if_pos d4, if_pos d100, if_pos d400]
        omega
      · have hnot : ¬ isLeap (n + 1) = true := fun hl => (hleap.1 hl).2.elim (· d100) d400
        rw [if_neg hnot, if_pos d4, if_pos d100, if_neg d400]
        omega
    · rw [if_pos (hleap.2 ⟨d4, .inl d100⟩), if_pos d4, if_neg d100, if_neg (mt h400 d100)]
      omega
  · have hnot : ¬ isLeap (n + 1) = true := fun hl => d4 (hleap.1 hl).1
    have d100 := mt h100 d4
    rw [if_neg hnot, if_neg d4, if_neg d100, if_neg (mt h400 d100)]
    omega

theorem daysBeforeYear_mono (h₁ : 1 ≤ a) (hab : a ≤ b) : daysBeforeYear a ≤ daysBeforeYear b := by
  induction b, hab using Nat.le_induction with
  | base => exact Nat.le_refl _
  | succ b hab ih =>
    rw [daysBeforeYear_succ (h₁.trans hab)]
    omega

/-- A month ends before the next one starts, December before the next year does. -/
theorem daysBeforeMonth_add (year : Nat) (h₁ : 1 ≤ month) (h₂ : month ≤ 12) :
    daysBeforeMonth year month + daysInMonth year month =
      if month = 12 then (if isLeap year then 366 else 365)
      else daysBeforeMonth year (month + 1) := by
  cases hleap : isLeap year <;> interval_cases month <;>
    simp [daysBeforeMonth, daysInMonth, hleap]

theorem daysBeforeMonth_mono (year : Nat) (h₁ : 1 ≤ a) (hab : a ≤ b) (h₂ : b ≤ 12) :
    daysBeforeMonth year a ≤ daysBeforeMonth year b := by
  induction b, hab using Nat.le_induction with
  | base => exact Nat.le_refl _
  | succ b hab ih =>
    have hstep := daysBeforeMonth_add year (h₁.trans hab) (by omega)
    rw [if_neg (by omega)] at hstep
    have hle := ih (by omega)
    omega

theorem dayOfYear_le (d : Date) : daysBeforeMonth d.year d.month + d.day ≤
    if isLeap d.year then 366 else 365 := by
  obtain ⟨_, _, hm₁, hm₂, _, hd⟩ := d.valid
  have hlast := daysBeforeMonth_add d.year hm₁ hm₂
  have hdec := daysBeforeMonth_add d.year (by decide : 1 ≤ 12) (Nat.le_refl 12)
  rw [if_pos rfl] at hdec
  by_cases h12 : d.month = 12
  · rw [if_pos h12] at hlast
    omega
  · rw [if_neg h12] at hlast
    have hmono := daysBeforeMonth_mono d.year (a := d.month + 1) (b := 12)
      (by omega) (by omega) (by omega)
    omega

theorem Date.toordinal_lt_of_lt {a b : Date} (h : a < b) : a.toordinal < b.toordinal := by
  obtain ⟨hay, _, ham, ham', had, had'⟩ := a.valid
  obtain ⟨hby, _, hbm, hbm', hbd, hbd'⟩ := b.valid
  unfold Date.toordinal
  rcases Date.lt_iff_fields.1 h with hy | ⟨hy, hm | ⟨hm, hd⟩⟩
  · have hday := dayOfYear_le a
    have hsucc := daysBeforeYear_succ hay
    have hmono := daysBeforeYear_mono (a := a.year + 1) (b := b.year) (by omega) (by omega)
    omega
  · have hlast := daysBeforeMonth_add a.year ham ham'
    rw [if_neg (by omega)] at hlast
    have hmono := daysBeforeMonth_mono a.year (a := a.month + 1) (b := b.month)
      (by omega) (by omega) (by omega)
    rw [← hy]
    omega
  · rw [← hy, ← hm]
    omega

theorem Date.toordinal_strictMono : StrictMono Date.toordinal :=
  fun _ _ h => Date.toordinal_lt_of_lt h

theorem Date.toordinal_pos (d : Date) : 0 < d.toordinal := by
  have h := d.valid.2.2.2.2.1
  unfold Date.toordinal
  omega

/-- Four working days. -/
def firstWeek : List Date :=
  [⟨2026, 1, 5, by decide⟩, ⟨2026, 1, 6, by decide⟩, ⟨2026, 1, 7, by decide⟩,
    ⟨2026, 1, 8, by decide⟩]

def firstMonday : Date := firstWeek.head (List.cons_ne_nil _ _)

theorem firstWeek_ne_nil : firstWeek ≠ [] := List.cons_ne_nil _ _

theorem firstWeek_ascending : firstWeek.Pairwise (· < ·) := by decide

theorem firstTwo_ascending : (firstWeek.take 2).Pairwise (· < ·) :=
  firstWeek_ascending.sublist (List.take_sublist 2 firstWeek)

example : firstWeek.map Date.weekday = [0, 1, 2, 3] := by decide

end Ordinal

section Durations

/-- `np.busday_count(start, end)`: the weekdays from `start` up to the day before `end`. -/
def busdayCount (start stop : Date) : Nat :=
  ((List.range' start.toordinal (stop.toordinal - start.toordinal)).filter
    (fun ordinal => (ordinal + 6) % 7 < 5)).length

theorem busdayCount_add {a b c : Date} (hab : a ≤ b) (hbc : b ≤ c) :
    busdayCount a b + busdayCount b c = busdayCount a c := by
  have hab := Date.toordinal_strictMono.monotone hab
  have hbc := Date.toordinal_strictMono.monotone hbc
  have hsplit := List.range'_append_1 (s := a.toordinal) (m := b.toordinal - a.toordinal)
    (n := c.toordinal - b.toordinal)
  have hlength : b.toordinal - a.toordinal + (c.toordinal - b.toordinal) =
      c.toordinal - a.toordinal := by omega
  rw [Nat.add_sub_cancel' hab, hlength] at hsplit
  unfold busdayCount
  rw [← hsplit, List.filter_append, List.length_append]

/-- The unit of `duration_unit`. -/
inductive DurationUnit where
  | businessDays
  | calendarDays
deriving DecidableEq, Repr

def durationDays (start stop : Date) (unit : DurationUnit) : Nat :=
  if stop < start then 0
  else match unit with
    | .calendarDays => stop.toordinal - start.toordinal
    | .businessDays => busdayCount start stop

theorem durationDays_add {a b c : Date} (hab : a ≤ b) (hbc : b ≤ c) (unit : DurationUnit) :
    durationDays a b unit + durationDays b c unit = durationDays a c unit := by
  unfold durationDays
  rw [if_neg (not_lt.2 hab), if_neg (not_lt.2 hbc), if_neg (not_lt.2 (hab.trans hbc))]
  cases unit with
  | businessDays => exact busdayCount_add hab hbc
  | calendarDays =>
    have hab := Date.toordinal_strictMono.monotone hab
    have hbc := Date.toordinal_strictMono.monotone hbc
    simp only
    omega

end Durations

end LotusRisk
