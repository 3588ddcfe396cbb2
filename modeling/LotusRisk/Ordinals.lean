import Mathlib.Data.Nat.Find
import LotusRisk.Calendar

/-! The dates of given ordinals, and the last days of weeks and months. -/

namespace LotusRisk
set_option autoImplicit true

def dateOfFields? (year month day : Nat) : Option Date :=
  if h : 1 ≤ year ∧ year ≤ 9999 ∧ 1 ≤ month ∧ month ≤ 12 ∧ 1 ≤ day ∧ day ≤ daysInMonth year month
  then some ⟨year, month, day, h⟩ else none

/-- `date.max.toordinal()`. -/
def maxOrdinal : Nat := 3652059

def yearOfOrdinal (n : Nat) : Nat :=
  Nat.findGreatest (fun year => daysBeforeYear year < n) ((n - 1) / 365 + 1)

def monthOfDay (year n : Nat) : Nat :=
  Nat.findGreatest (fun month => daysBeforeMonth year month < n) 12

/-- `date.fromordinal(n)`, where `none` stands for the `ValueError` out of range. -/
def Date.fromordinal (n : Nat) : Option Date :=
  let year := yearOfOrdinal n
  let dayOfYear := n - daysBeforeYear year
  let month := monthOfDay year dayOfYear
  dateOfFields? year month (dayOfYear - daysBeforeMonth year month)

theorem dateOfFields?_eq_some : dateOfFields? year month day = some d ↔
    d.year = year ∧ d.month = month ∧ d.day = day := by
  rw [dateOfFields?]
  constructor
  · intro h
    split at h
    · cases h
      exact ⟨rfl, rfl, rfl⟩
    · cases h
  · rintro ⟨rfl, rfl, rfl⟩
    rw [dif_pos d.valid]

theorem daysBeforeYear_lower (year : Nat) : (year - 1) * 365 ≤ daysBeforeYear year := by
  have hle : (year - 1) / 100 ≤ (year - 1) / 4 := Nat.div_le_div_left (by decide) (by decide)
  rw [daysBeforeYear]
  omega

theorem yearOfOrdinal_toordinal (d : Date) : yearOfOrdinal d.toordinal = d.year := by
  have hday := d.valid.2.2.2.2.1
  have hyear := d.valid.1
  have hlower := daysBeforeYear_lower d.year
  have hbound := dayOfYear_le d
  have hsucc := daysBeforeYear_succ hyear
  rw [yearOfOrdinal, Nat.findGreatest_eq_iff]
  refine ⟨?_, ?_, ?_⟩
  · have hdiv : d.year - 1 ≤ (d.toordinal - 1) / 365 := by
      apply (Nat.le_div_iff_mul_le (by decide)).2
      rw [Date.toordinal]
      omega
    omega
  · intro _
    rw [Date.toordinal]
    omega
  · intro year hlt _ hbefore
    have hmono := daysBeforeYear_mono (a := d.year + 1) (b := year) (by omega) hlt
    rw [Date.toordinal] at hbefore
    omega

theorem monthOfDay_dayOfYear (d : Date) :
    monthOfDay d.year (daysBeforeMonth d.year d.month + d.day) = d.month := by
  obtain ⟨_, _, hm₁, hm₂, hd₁, hd₂⟩ := d.valid
  have hlast := daysBeforeMonth_add d.year hm₁ hm₂
  rw [monthOfDay, Nat.findGreatest_eq_iff]
  refine ⟨hm₂, fun _ => by omega, ?_⟩
  intro month hlt hle hbefore
  rw [if_neg (by omega)] at hlast
  have hmono := daysBeforeMonth_mono d.year (a := d.month + 1) (b := month) (by omega) hlt hle
  omega

@[simp] theorem Date.fromordinal_toordinal (d : Date) :
    Date.fromordinal d.toordinal = some d := by
  have hday : d.toordinal - daysBeforeYear d.year = daysBeforeMonth d.year d.month + d.day := by
    rw [Date.toordinal]
    omega
  simp only [Date.fromordinal, yearOfOrdinal_toordinal, hday, monthOfDay_dayOfYear]
  rw [dateOfFields?_eq_some]
  exact ⟨rfl, rfl, by omega⟩

theorem Date.toordinal_injective : Function.Injective Date.toordinal :=
  Date.toordinal_strictMono.injective

/-- The last number up to `k` whose value stays below a bound. -/
theorem exists_last_below {f : Nat → Nat} (h : f 1 < n) (hk : 1 ≤ k) :
    ∃ m, 1 ≤ m ∧ m ≤ k ∧ f m < n ∧ (m ≠ k → n ≤ f (m + 1)) := by
  induction k, hk using Nat.le_induction with
  | base => exact ⟨1, Nat.le_refl 1, Nat.le_refl 1, h, fun hne => absurd rfl hne⟩
  | succ k hk ih =>
    obtain ⟨m, hm₁, hmk, hlo, hhi⟩ := ih
    by_cases hnext : m ≠ k ∨ n ≤ f (m + 1)
    · refine ⟨m, hm₁, hmk.trans (Nat.le_succ k), hlo, ?_⟩
      intro _
      rcases hnext with hne | hle
      · exact hhi hne
      · exact hle
    · obtain ⟨heq, hlt⟩ := not_or.1 hnext
      refine ⟨k + 1, Nat.le_add_left 1 k, Nat.le_refl _, ?_, fun hne => absurd rfl hne⟩
      rw [← not_not.1 heq]
      exact not_le.1 hlt

/-- Every ordinal in range is that of a date. -/
theorem exists_toordinal (h₁ : 1 ≤ n) (h₂ : n ≤ maxOrdinal) : ∃ d : Date, d.toordinal = n := by
  have hmax : daysBeforeYear (9999 + 1) = maxOrdinal := by decide
  obtain ⟨year, hy₁, hy₂, hylo, hyhi⟩ := exists_last_below (f := daysBeforeYear) (k := 9999)
    (show daysBeforeYear 1 < n from h₁) (by decide)
  have hyhi : n ≤ daysBeforeYear (year + 1) := by
    by_cases heq : year = 9999
    · rw [heq, hmax]
      exact h₂
    · exact hyhi heq
  have hsucc := daysBeforeYear_succ hy₁
  have hzero : daysBeforeMonth year 1 = 0 := rfl
  obtain ⟨month, hm₁, hm₂, hmlo, hmhi⟩ := exists_last_below (f := daysBeforeMonth year)
    (n := n - daysBeforeYear year) (k := 12) (by omega) (by decide)
  have hlast := daysBeforeMonth_add year hm₁ hm₂
  have hmhi : n - daysBeforeYear year ≤ daysBeforeMonth year month + daysInMonth year month := by
    by_cases heq : month = 12
    · rw [if_pos heq] at hlast
      omega
    · rw [if_neg heq] at hlast
      rw [hlast]
      exact hmhi heq
  refine ⟨⟨year, month, n - daysBeforeYear year - daysBeforeMonth year month,
    hy₁, hy₂, hm₁, hm₂, by omega, by omega⟩, ?_⟩
  rw [Date.toordinal]
  simp only
  omega

theorem Date.toordinal_le (d : Date) : d.toordinal ≤ maxOrdinal := by
  have hmax : daysBeforeYear 10000 = maxOrdinal := by decide
  have hbound := dayOfYear_le d
  have hsucc := daysBeforeYear_succ d.valid.1
  have hmono := daysBeforeYear_mono (a := d.year + 1) (b := 10000) (by omega)
    (by have := d.valid.2.1; omega)
  rw [Date.toordinal]
  omega

theorem Date.fromordinal_eq_some : Date.fromordinal n = some d ↔ d.toordinal = n := by
  constructor
  · intro h
    have hfields := dateOfFields?_eq_some.1 h
    obtain ⟨hy, hm, hd⟩ := hfields
    have hpos := d.valid.2.2.2.2.1
    rw [Date.toordinal, hy, hm, hd]
    omega
  · rintro rfl
    exact Date.fromordinal_toordinal d

theorem exists_fromordinal (h₁ : 1 ≤ n) (h₂ : n ≤ maxOrdinal) :
    ∃ d, Date.fromordinal n = some d ∧ d.toordinal = n := by
  obtain ⟨d, hd⟩ := exists_toordinal h₁ h₂
  exact ⟨d, Date.fromordinal_eq_some.2 hd, hd⟩

example : Date.fromordinal firstMonday.toordinal = some firstMonday := by decide +kernel

end LotusRisk
