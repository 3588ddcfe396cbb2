import LotusRisk.Upstream

/-! Dates written as texts, and read back. -/

namespace LotusRisk
set_option autoImplicit true

section Digits

theorem toList_zeroPadded (width n : Nat) :
    (zeroPadded width n).toList =
      List.replicate (width - (Nat.toDigits 10 n).length) '0' ++ Nat.toDigits 10 n := by
  have hdigits : (toString n).toList = Nat.toDigits 10 n := Nat.toList_repr
  rw [zeroPadded, String.toList_append, String.toList_ofList, hdigits, ← String.length_toList,
    hdigits]

theorem length_zeroPadded (h : n < 10 ^ width) (hw : 0 < width) :
    (zeroPadded width n).toList.length = width := by
  have hle := (Nat.length_toDigits_le_iff (by decide : 1 < 10) hw).2 h
  rw [toList_zeroPadded, List.length_append, List.length_replicate]
  omega

theorem digitsValue_zeroPadded (width n : Nat) :
    digitsValue (zeroPadded width n).toList = some n := by
  have hdigit : ∀ c ∈ (zeroPadded width n).toList, c.isDigit = true := by
    intro c hc
    rw [toList_zeroPadded, List.mem_append] at hc
    rcases hc with hc | hc
    · rw [List.eq_of_mem_replicate hc]
      decide
    · exact Nat.isDigit_of_mem_toDigits (by decide) (by decide) hc
  have hne : (zeroPadded width n).toList ≠ [] := by
    rw [toList_zeroPadded]
    exact List.append_ne_nil_of_right_ne_nil _ Nat.toDigits_ne_nil
  have hvalue : Nat.ofDigitChars 10 (zeroPadded width n).toList 0 = n := by
    rw [toList_zeroPadded, Nat.ofDigitChars_append, Nat.ofDigitChars_replicate_zero, mul_zero]
    exact Nat.ofDigitChars_toDigits (by decide) (by decide)
  rw [digitsValue, if_pos ⟨hne, List.all_eq_true.2 hdigit⟩]
  exact congrArg some hvalue

end Digits

theorem daysInMonth_le (year month : Nat) : daysInMonth year month ≤ 31 := by
  rw [daysInMonth]
  split
  · split <;> decide
  · split <;> decide

theorem exists_of_length_two {l : List α} (h : l.length = 2) : ∃ a b, l = [a, b] := by
  match l, h with
  | [a, b], _ => exact ⟨a, b, rfl⟩

theorem exists_of_length_four {l : List α} (h : l.length = 4) : ∃ a b c d, l = [a, b, c, d] := by
  match l, h with
  | [a, b, c, d], _ => exact ⟨a, b, c, d, rfl⟩

/-- A date is read back from its text. -/
theorem isoDate_isoformat (d : Date) : isoDate d.isoformat = some d := by
  have hvalid := d.valid
  have hdays := daysInMonth_le d.year d.month
  have hyear := length_zeroPadded (by omega : d.year < 10 ^ 4) (by decide)
  have hmonth := length_zeroPadded (by omega : d.month < 10 ^ 2) (by decide)
  have hday := length_zeroPadded (by omega : d.day < 10 ^ 2) (by decide)
  have hyearValue := digitsValue_zeroPadded 4 d.year
  have hmonthValue := digitsValue_zeroPadded 2 d.month
  have hdayValue := digitsValue_zeroPadded 2 d.day
  obtain ⟨y₁, y₂, y₃, y₄, hy⟩ := exists_of_length_four hyear
  obtain ⟨m₁, m₂, hm⟩ := exists_of_length_two hmonth
  obtain ⟨d₁, d₂, hd⟩ := exists_of_length_two hday
  rw [hy] at hyearValue
  rw [hm] at hmonthValue
  rw [hd] at hdayValue
  have htext : d.isoformat.toList = [y₁, y₂, y₃, y₄, '-', m₁, m₂, '-', d₁, d₂] := by
    rw [Date.isoformat, String.toList_append, String.toList_append, String.toList_append,
      String.toList_append, hy, hm, hd]
    rfl
  rw [isoDate, htext]
  simp only [hyearValue, hmonthValue, hdayValue]
  exact dif_pos hvalid

end LotusRisk
