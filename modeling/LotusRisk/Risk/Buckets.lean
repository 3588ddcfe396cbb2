import LotusRisk.Ordinals
import LotusRisk.Risk.Options

/-! The calendar buckets of a frequency, numbered in the order of their days. -/

namespace LotusRisk
set_option autoImplicit true

namespace Frequency

/-- Days, weeks that end on a Friday, and calendar months. -/
def bucket : Frequency → Date → Nat
  | .daily, d => d.toordinal
  | .weekly, d => (d.toordinal + 1) / 7
  | .monthly, d => d.year * 12 + (d.month - 1)

/-- The last day of a bucket; `none` outside the calendar. -/
def bucketEnd : Frequency → Nat → Option Date
  | .daily, b => Date.fromordinal b
  | .weekly, b => Date.fromordinal (7 * b + 5)
  | .monthly, b =>
    let year := b / 12
    let month := b % 12 + 1
    dateOfFields? year month (daysInMonth year month)

theorem month_bucket (d : Date) :
    (d.year * 12 + (d.month - 1)) / 12 = d.year ∧
      (d.year * 12 + (d.month - 1)) % 12 + 1 = d.month := by
  have hm₁ := d.valid.2.2.1
  have hm₂ := d.valid.2.2.2.1
  omega

theorem bucket_mono (frequency : Frequency) (h : a ≤ b) :
    frequency.bucket a ≤ frequency.bucket b := by
  cases frequency with
  | daily => exact Date.toordinal_strictMono.monotone h
  | weekly =>
    have hle := Date.toordinal_strictMono.monotone h
    exact Nat.div_le_div_right (Nat.succ_le_succ hle)
  | monthly =>
    rcases h.lt_or_eq with hlt | rfl
    · have ha := a.valid.2.2.2.1
      have ha₁ := a.valid.2.2.1
      have hb := b.valid.2.2.1
      simp only [bucket]
      rcases Date.lt_iff_fields.1 hlt with hy | ⟨hy, hm | ⟨hm, _⟩⟩ <;> omega
    · exact le_rfl

/-- The end of a bucket is its last day. -/
theorem bucketEnd_spec {frequency : Frequency} (h : frequency.bucketEnd b = some e) :
    frequency.bucket e = b ∧ ∀ d, frequency.bucket d = b → d ≤ e := by
  cases frequency with
  | daily =>
    have he := Date.fromordinal_eq_some.1 h
    refine ⟨he, ?_⟩
    intro d hd
    exact Date.toordinal_strictMono.le_iff_le.1 (le_of_eq (hd.trans he.symm))
  | weekly =>
    have he := Date.fromordinal_eq_some.1 h
    simp only [bucket]
    refine ⟨by omega, ?_⟩
    intro d hd
    apply Date.toordinal_strictMono.le_iff_le.1
    omega
  | monthly =>
    obtain ⟨hy, hm, hday⟩ := dateOfFields?_eq_some.1 h
    simp only [bucket]
    refine ⟨by omega, ?_⟩
    intro d hd
    obtain ⟨hdy, hdm⟩ := month_bucket d
    rw [hd] at hdy hdm
    apply not_lt.1
    intro hlt
    have hle := d.valid.2.2.2.2.2
    rw [← hdy, ← hdm] at hle
    rcases Date.lt_iff_fields.1 hlt with hlt | ⟨_, hlt | ⟨_, hlt⟩⟩ <;> omega

/-- The buckets between those of two dates have ends. -/
theorem exists_bucketEnd (frequency : Frequency) (h₁ : frequency.bucket a ≤ b)
    (h₂ : b ≤ frequency.bucket c) : ∃ e, frequency.bucketEnd b = some e := by
  cases frequency with
  | daily =>
    obtain ⟨e, he, _⟩ := exists_fromordinal (a.toordinal_pos.trans_le h₁)
      (h₂.trans c.toordinal_le)
    exact ⟨e, he⟩
  | weekly =>
    have hmax := c.toordinal_le
    simp only [bucket] at h₂
    rw [maxOrdinal] at hmax
    obtain ⟨e, he, _⟩ := exists_fromordinal (n := 7 * b + 5) (by omega)
      (by rw [maxOrdinal]; omega)
    exact ⟨e, he⟩
  | monthly =>
    have hlo := a.valid.1
    have hhi := c.valid.2.1
    have hmonth := c.valid.2.2.2.1
    have hmonth₁ := c.valid.2.2.1
    simp only [bucket] at h₁ h₂
    have hdays : 1 ≤ daysInMonth (b / 12) (b % 12 + 1) := by
      simp only [daysInMonth]
      split
      · split <;> decide
      · split <;> decide
    exact ⟨⟨b / 12, b % 12 + 1, daysInMonth (b / 12) (b % 12 + 1), by omega, by omega, by omega,
      by omega, hdays, le_rfl⟩, dateOfFields?_eq_some.2 ⟨rfl, rfl, rfl⟩⟩

theorem bucketEnd_lt {frequency : Frequency} (h : b < b')
    (he : frequency.bucketEnd b = some e) (he' : frequency.bucketEnd b' = some e') : e < e' := by
  apply not_le.1
  intro hle
  have hmono := frequency.bucket_mono hle
  rw [(bucketEnd_spec he).1, (bucketEnd_spec he').1] at hmono
  omega

end Frequency

end LotusRisk
