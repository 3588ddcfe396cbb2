import LotusRisk.Lib.Base64
import Mathlib.Data.List.Basic

/-! The strict mode of Python's Base64 decoder, and the texts that are encodings. -/

namespace Base64
set_option autoImplicit true

section Decode

/-- `binascii.a2b_base64(data, strict_mode=True)` after its check of the first character: other
characters, data after the padding and characters among the padding are errors. -/
def decodeStrictFrom (quad left pads : Nat) (started : Bool) : List Char → Option (List UInt8)
  | [] => if quad = 0 then some [] else none
  | c :: rest =>
    if c = '=' then
      if 2 ≤ quad then
        if 4 ≤ quad + (pads + 1) then if rest.isEmpty then some [] else none
        else decodeStrictFrom quad left (pads + 1) true rest
      else decodeStrictFrom quad left pads true rest
    else match sextet? c with
      | none => none
      | some n =>
        if started then none
        else if quad = 0 then decodeStrictFrom 1 n 0 false rest
        else if quad = 1 then
          (decodeStrictFrom 2 (n % 16) 0 false rest).map (UInt8.ofNat (left * 4 + n / 16) :: ·)
        else if quad = 2 then
          (decodeStrictFrom 3 (n % 4) 0 false rest).map (UInt8.ofNat (left * 16 + n / 4) :: ·)
        else (decodeStrictFrom 0 0 0 false rest).map (UInt8.ofNat (left * 64 + n) :: ·)

/-- `b64decode(s, altchars=b"-_", validate=True)`; `none` is `binascii.Error`. -/
def decodeStrict (s : List Char) : Option (List UInt8) :=
  if s.head? = some '=' then none else decodeStrictFrom 0 0 0 false s

theorem decodeStrictFrom_data (h : n < 64) (quad left pads : Nat) (rest : List Char) :
    decodeStrictFrom quad left pads false (alphabet n :: rest) =
      if quad = 0 then decodeStrictFrom 1 n 0 false rest
      else if quad = 1 then
        (decodeStrictFrom 2 (n % 16) 0 false rest).map (UInt8.ofNat (left * 4 + n / 16) :: ·)
      else if quad = 2 then
        (decodeStrictFrom 3 (n % 4) 0 false rest).map (UInt8.ofNat (left * 16 + n / 4) :: ·)
      else (decodeStrictFrom 0 0 0 false rest).map (UInt8.ofNat (left * 64 + n) :: ·) := by
  rw [decodeStrictFrom, if_neg (alphabet_ne_pad h), sextet_alphabet h]
  rfl

theorem padding_congr (h : m % 4 = n % 4) : padding m = padding n := by
  rw [padding, padding, h]

/-- On data that its own padding completes, the strict mode reads what the lenient one reads. -/
theorem decodeStrictFrom_eq {data : List Char} (hdata : ∀ c ∈ data, ∃ n < 64, c = alphabet n)
    (hquad : quad < 4) (left : Nat) :
    decodeStrictFrom quad left 0 false (data ++ padding (quad + data.length)) =
      decodeFrom quad left 0 (data ++ padding (quad + data.length)) := by
  induction data generalizing quad left with
  | nil =>
    have hcases : quad = 0 ∨ quad = 1 ∨ quad = 2 ∨ quad = 3 := by omega
    rcases hcases with rfl | rfl | rfl | rfl <;> rfl
  | cons c data ih =>
    obtain ⟨n, hn, rfl⟩ := hdata c List.mem_cons_self
    have hrest : ∀ c ∈ data, ∃ n < 64, c = alphabet n :=
      fun c hc => hdata c (List.mem_cons_of_mem _ hc)
    have hnext : ∀ next < 4, next % 4 = (quad + 1) % 4 →
        padding (quad + (alphabet n :: data).length) = padding (next + data.length) := by
      intro next _ hmod
      apply padding_congr
      rw [List.length_cons]
      omega
    have hcases : quad = 0 ∨ quad = 1 ∨ quad = 2 ∨ quad = 3 := by omega
    rw [List.cons_append, decodeStrictFrom_data hn, decodeFrom_data hn]
    rcases hcases with rfl | rfl | rfl | rfl
    · rw [hnext 1 (by decide) rfl, if_pos rfl, if_pos rfl, ih hrest (by decide)]
    · rw [hnext 2 (by decide) rfl, ih hrest (by decide)]
      rfl
    · rw [hnext 3 (by decide) rfl, ih hrest (by decide)]
      rfl
    · rw [hnext 0 (by decide) rfl, ih hrest (by decide)]
      rfl

/-- A complete encoding decodes in the strict mode too. -/
theorem decodeStrict_encode (bytes : List UInt8) : decodeStrict (encode bytes) = some bytes := by
  have hdata : ∀ c ∈ encodeData bytes, ∃ n < 64, c = alphabet n :=
    fun c hc => mem_encodeData hc
  have hhead : ¬ (encode bytes).head? = some '=' := by
    rw [encode]
    cases hchars : encodeData bytes with
    | nil => simp [padding]
    | cons c rest =>
      obtain ⟨n, hn, rfl⟩ := hdata c (hchars ▸ List.mem_cons_self)
      simpa using alphabet_ne_pad hn
  have hsame := decodeStrictFrom_eq hdata (by decide : (0 : Nat) < 4) 0
  rw [Nat.zero_add] at hsame
  rw [decodeStrict, if_neg hhead, encode, hsame]
  exact decode_encode bytes

theorem encodeData_injective (h : encodeData a = encodeData b) : a = b := by
  have hencode : encode a = encode b := by rw [encode, encode, h]
  have hdecode := decode_encode a
  rw [hencode, decode_encode b] at hdecode
  exact (Option.some.inj hdecode).symm

end Decode

section Canonical

/-- The text of an encoding without its padding: characters of the alphabet, no lone character
at the end, and no bit set beyond the last byte. -/
structure Canonical (s : List Char) : Prop where
  characters : ∀ c ∈ s, ∃ n < 64, c = alphabet n
  length : s.length % 4 ≠ 1
  trailing : ∀ n < 64, s.getLast? = some (alphabet n) →
    (s.length % 4 = 2 → n % 16 = 0) ∧ (s.length % 4 = 3 → n % 4 = 0)

theorem alphabet_injective (hm : m < 64) (hn : n < 64) (h : alphabet m = alphabet n) : m = n := by
  have hs := sextet_alphabet hm
  rw [h, sextet_alphabet hn] at hs
  exact (Option.some.inj hs).symm

/-- A whole group in front changes nothing. -/
theorem canonical_group (hgroup : ∀ c ∈ [w, x, y, z], ∃ n < 64, c = alphabet n) :
    Canonical (w :: x :: y :: z :: rest) ↔ Canonical rest := by
  have hmod : (w :: x :: y :: z :: rest).length % 4 = rest.length % 4 := by
    simp only [List.length_cons]
    omega
  have hend : rest ≠ [] → (w :: x :: y :: z :: rest).getLast? = rest.getLast? :=
    List.getLast?_append_of_ne_nil [w, x, y, z]
  constructor
  · intro h
    refine ⟨fun c hc => h.characters c (by simp [hc]), hmod ▸ h.length, ?_⟩
    intro n hn hlast
    have hne : rest ≠ [] := by
      intro hnil
      rw [hnil] at hlast
      cases hlast
    rw [← hmod]
    apply h.trailing n hn
    rw [hend hne, hlast]
  · intro h
    refine ⟨?_, hmod ▸ h.length, ?_⟩
    · intro c hc
      rcases List.mem_append.1 (show c ∈ [w, x, y, z] ++ rest from hc) with hc | hc
      · exact hgroup c hc
      · exact h.characters c hc
    · intro n hn hlast
      rw [hmod]
      cases rest with
      | nil => simp
      | cons c rest =>
        apply h.trailing n hn
        rw [← hlast, hend (List.cons_ne_nil c rest)]

theorem canonical_encodeData (bytes : List UInt8) : Canonical (encodeData bytes) := by
  have hb (a : UInt8) : a.toNat < 256 := a.toNat_lt
  have hchars := @mem_encodeData
  induction bytes using encodeData.induct with
  | case1 => exact ⟨by simp [encodeData], by simp [encodeData], by simp [encodeData]⟩
  | case2 a =>
    refine ⟨fun c hc => hchars hc, by simp [encodeData], ?_⟩
    intro n hn hlast
    have ha := hb a
    have heq := alphabet_injective (m := a.toNat % 4 * 16) (by omega) hn
      (by simpa [encodeData] using hlast)
    simp only [encodeData, List.length_cons, List.length_nil]
    omega
  | case3 a b =>
    refine ⟨fun c hc => hchars hc, by simp [encodeData], ?_⟩
    intro n hn hlast
    have hb' := hb b
    have heq := alphabet_injective (m := b.toNat % 16 * 4) (by omega) hn
      (by simpa [encodeData] using hlast)
    simp only [encodeData, List.length_cons, List.length_nil]
    omega
  | case4 a b c rest ih =>
    have hall : ∀ c' ∈ encodeData (a :: b :: c :: rest), ∃ n < 64, c' = alphabet n :=
      fun c' hc => hchars hc
    rw [encodeData] at hall ⊢
    rw [canonical_group fun c' hc => hall c' (List.mem_append_left _ hc)]
    exact ih

theorem byte_toNat (h : n < 256) : (UInt8.ofNat n).toNat = n := by
  rw [UInt8.toNat_ofNat', Nat.mod_eq_of_lt h]

/-- Every canonical text is an encoding. -/
theorem exists_encodeData : ∀ s : List Char, Canonical s → ∃ bytes, encodeData bytes = s
  | [], _ => ⟨[], rfl⟩
  | [_], h => absurd rfl h.length
  | [w, x], h => by
    obtain ⟨i, hi, rfl⟩ := h.characters w (by simp)
    obtain ⟨j, hj, rfl⟩ := h.characters x (by simp)
    have hzero := (h.trailing j hj rfl).1 rfl
    refine ⟨[UInt8.ofNat (i * 4 + j / 16)], ?_⟩
    rw [encodeData, byte_toNat (by omega)]
    have h₁ : (i * 4 + j / 16) / 4 = i := by omega
    have h₂ : (i * 4 + j / 16) % 4 * 16 = j := by omega
    rw [h₁, h₂]
  | [w, x, y], h => by
    obtain ⟨i, hi, rfl⟩ := h.characters w (by simp)
    obtain ⟨j, hj, rfl⟩ := h.characters x (by simp)
    obtain ⟨k, hk, rfl⟩ := h.characters y (by simp)
    have hzero := (h.trailing k hk rfl).2 rfl
    refine ⟨[UInt8.ofNat (i * 4 + j / 16), UInt8.ofNat (j % 16 * 16 + k / 4)], ?_⟩
    rw [encodeData, byte_toNat (by omega), byte_toNat (by omega)]
    have h₁ : (i * 4 + j / 16) / 4 = i := by omega
    have h₂ : (i * 4 + j / 16) % 4 * 16 + (j % 16 * 16 + k / 4) / 16 = j := by omega
    have h₃ : (j % 16 * 16 + k / 4) % 16 * 4 = k := by omega
    rw [h₁, h₂, h₃]
  | w :: x :: y :: z :: rest, h => by
    have hgroup : ∀ c ∈ [w, x, y, z], ∃ n < 64, c = alphabet n := by
      intro c hc
      exact h.characters c (List.mem_append_left rest hc)
    obtain ⟨bytes, rfl⟩ := exists_encodeData rest ((canonical_group hgroup).1 h)
    obtain ⟨i, hi, rfl⟩ := hgroup w (by simp)
    obtain ⟨j, hj, rfl⟩ := hgroup x (by simp)
    obtain ⟨k, hk, rfl⟩ := hgroup y (by simp)
    obtain ⟨l, hl, rfl⟩ := hgroup z (by simp)
    refine ⟨UInt8.ofNat (i * 4 + j / 16) :: UInt8.ofNat (j % 16 * 16 + k / 4) ::
      UInt8.ofNat (k % 4 * 64 + l) :: bytes, ?_⟩
    rw [encodeData, byte_toNat (by omega), byte_toNat (by omega), byte_toNat (by omega)]
    have h₁ : (i * 4 + j / 16) / 4 = i := by omega
    have h₂ : (i * 4 + j / 16) % 4 * 16 + (j % 16 * 16 + k / 4) / 16 = j := by omega
    have h₃ : (j % 16 * 16 + k / 4) % 16 * 4 + (k % 4 * 64 + l) / 64 = k := by omega
    have h₄ : (k % 4 * 64 + l) % 64 = l := by omega
    rw [h₁, h₂, h₃, h₄]

theorem canonical_iff : Canonical s ↔ ∃ bytes, encodeData bytes = s := by
  constructor
  · exact exists_encodeData s
  · rintro ⟨bytes, rfl⟩
    exact canonical_encodeData bytes

end Canonical

end Base64
