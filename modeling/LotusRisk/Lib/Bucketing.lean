import Mathlib.Algebra.BigOperators.Group.List.Basic
import Mathlib.Order.Basic
import Mathlib.Order.Nat

/-! An ordered list cut into consecutive numbered buckets, of which some may be empty. -/

namespace Bucketing
set_option autoImplicit true

variable {ι : Type u} (bucket : ι → ℕ)

/-- The buckets follow the order of the list. -/
def Ordered (l : List ι) : Prop := l.Pairwise (fun x y => bucket x ≤ bucket y)

/-- The numbers from the bucket of the first element to that of the last. -/
def span : List ι → List ℕ
  | [] => []
  | x :: l => List.range' (bucket x) (bucket (l.getLastD x) + 1 - bucket x)

def members (l : List ι) (b : ℕ) : List ι := l.filter (fun x => bucket x = b)

variable {bucket}

theorem mem_members : x ∈ members bucket l b ↔ x ∈ l ∧ bucket x = b := by
  rw [members, List.mem_filter, decide_eq_true_iff]

theorem members_eq_nil : members bucket l b = [] ↔ ∀ x ∈ l, bucket x ≠ b := by
  rw [List.eq_nil_iff_forall_not_mem]
  constructor
  · intro h x hx hb
    exact h x (mem_members.2 ⟨hx, hb⟩)
  · intro h x hx
    obtain ⟨hx, hb⟩ := mem_members.1 hx
    exact h x hx hb

theorem Ordered.first_le (h : Ordered bucket (x :: l)) (hy : y ∈ x :: l) :
    bucket x ≤ bucket y := by
  rcases List.mem_cons.1 hy with rfl | hy
  · exact le_rfl
  · exact List.rel_of_pairwise_cons h hy

theorem Ordered.le_last (h : Ordered bucket (x :: l)) (hy : y ∈ x :: l) :
    bucket y ≤ bucket (l.getLastD x) := by
  induction l generalizing x y with
  | nil =>
    rw [List.mem_singleton.1 hy]
    rfl
  | cons z l ih =>
    have htail : Ordered bucket (z :: l) := List.Pairwise.of_cons h
    rw [List.getLastD_cons]
    rcases List.mem_cons.1 hy with rfl | hy
    · exact (h.first_le (List.mem_cons_of_mem _ List.mem_cons_self)).trans
        (ih htail List.mem_cons_self)
    · exact ih htail hy

theorem mem_span (h : Ordered bucket (x :: l)) :
    b ∈ span bucket (x :: l) ↔ bucket x ≤ b ∧ b ≤ bucket (l.getLastD x) := by
  have hle := h.le_last List.mem_cons_self
  rw [span, List.mem_range'_1]
  omega

theorem bucket_mem_span (h : Ordered bucket l) (hx : x ∈ l) : bucket x ∈ span bucket l := by
  cases l with
  | nil => cases hx
  | cons y l => exact (mem_span h).2 ⟨h.first_le hx, h.le_last hx⟩

theorem span_ascending (l : List ι) : (span bucket l).Pairwise (· < ·) := by
  cases l with
  | nil => exact List.Pairwise.nil
  | cons x l => exact List.pairwise_lt_range'

/-- The members of consecutive buckets, one after the other, are the list again. -/
theorem flatMap_range'_members (h : Ordered bucket l) (hlo : ∀ x ∈ l, a ≤ bucket x)
    (hhi : ∀ x ∈ l, bucket x < a + n) : (List.range' a n).flatMap (members bucket l) = l := by
  induction n generalizing a l with
  | zero =>
    have hnil : l = [] := by
      rw [List.eq_nil_iff_forall_not_mem]
      intro x hx
      exact absurd (hlo x hx) (not_le.2 (hhi x hx))
    rw [hnil]
    rfl
  | succ n ih =>
    induction l with
    | nil => simp [members]
    | cons x l ihl =>
      have htail : Ordered bucket l := List.Pairwise.of_cons h
      have hlow := List.forall_mem_cons.1 hlo
      have hhigh := List.forall_mem_cons.1 hhi
      have hl := ihl htail hlow.2 hhigh.2
      rw [List.range'_succ, List.flatMap_cons] at hl ⊢
      by_cases hx : bucket x = a
      · -- the first element is in the first bucket and in no later one
        have hrest : (List.range' (a + 1) n).flatMap (members bucket (x :: l)) =
            (List.range' (a + 1) n).flatMap (members bucket l) := by
          apply List.flatMap_congr
          intro b hb
          have hlt : a < b := (List.mem_range'_1.1 hb).1
          rw [members, List.filter_cons_of_neg (by simpa [hx] using hlt.ne), members]
        rw [hrest, members, List.filter_cons_of_pos (by simpa using hx), List.cons_append]
        exact congrArg _ hl
      · -- the first bucket is empty
        have hlt : a < bucket x := Nat.lt_of_le_of_ne hlow.1 (Ne.symm hx)
        have hfirst : ∀ y ∈ x :: l, a + 1 ≤ bucket y := by
          intro y hy
          exact Nat.succ_le_of_lt (hlt.trans_le (h.first_le hy))
        have hnil : members bucket (x :: l) a = [] := by
          apply members_eq_nil.2
          intro y hy hb
          have hle := hfirst y hy
          omega
        rw [hnil, List.nil_append]
        apply ih h hfirst
        intro y hy
        have hle := hhi y hy
        omega

theorem flatMap_members (h : Ordered bucket l) :
    (span bucket l).flatMap (members bucket l) = l := by
  cases l with
  | nil => rfl
  | cons x l =>
    apply flatMap_range'_members h
    · intro y hy
      exact h.first_le hy
    · intro y hy
      have hx := h.le_last List.mem_cons_self
      have hle := h.le_last hy
      omega

/-- A product over the list is the product over the buckets of the products within them. -/
theorem prod_members [CommMonoid M] (f : ι → M) (h : Ordered bucket l) :
    ((span bucket l).map (fun b => ((members bucket l b).map f).prod)).prod = (l.map f).prod := by
  conv_rhs => rw [← flatMap_members h]
  rw [List.map_flatMap, List.flatMap, List.prod_flatten, List.map_map]
  rfl

/-- An empty bucket of the span lies strictly between the first and the last. -/
theorem exists_empty_iff (h : Ordered bucket (x :: l)) :
    (∃ b ∈ span bucket (x :: l), members bucket (x :: l) b = []) ↔
      ∃ b, bucket x < b ∧ b < bucket (l.getLastD x) ∧ ∀ y ∈ x :: l, bucket y ≠ b := by
  have hlast := List.getLastD_mem_cons (l := l) (a := x)
  constructor
  · rintro ⟨b, hb, hnil⟩
    obtain ⟨hlo, hhi⟩ := (mem_span h).1 hb
    have hne := members_eq_nil.1 hnil
    exact ⟨b, Nat.lt_of_le_of_ne hlo (hne x List.mem_cons_self),
      Nat.lt_of_le_of_ne hhi (hne _ hlast).symm, hne⟩
  · rintro ⟨b, hlo, hhi, hne⟩
    exact ⟨b, (mem_span h).2 ⟨hlo.le, hhi.le⟩, members_eq_nil.2 hne⟩

end Bucketing
