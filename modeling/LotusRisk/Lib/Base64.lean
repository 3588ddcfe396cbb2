import Mathlib.Data.List.TakeWhile

/-! URL-safe Base64 as Python's `base64` module writes it, and as it reads it: characters outside
the alphabet are skipped, and padding that ends a group ends the input. -/

namespace Base64
set_option autoImplicit true

section Alphabet

/-- The character of a group of six bits. -/
def alphabet (n : Nat) : Char :=
  if n < 26 then Char.ofNat (65 + n)
  else if n < 52 then Char.ofNat (71 + n)
  else if n < 62 then Char.ofNat (n - 4)
  else if n = 62 then '-' else '_'

/-- The translated alphabet also reads the standard one. -/
def sextet? (c : Char) : Option Nat :=
  if 'A' ≤ c ∧ c ≤ 'Z' then some (c.toNat - 65)
  else if 'a' ≤ c ∧ c ≤ 'z' then some (c.toNat - 71)
  else if '0' ≤ c ∧ c ≤ '9' then some (c.toNat + 4)
  else if c = '-' ∨ c = '+' then some 62
  else if c = '_' ∨ c = '/' then some 63
  else none

theorem sextet_alphabet (h : n < 64) : sextet? (alphabet n) = some n := by
  have hall : ∀ m : Fin 64, sextet? (alphabet m.val) = some m.val := by decide
  exact hall ⟨n, h⟩

theorem alphabet_ne_pad (h : n < 64) : alphabet n ≠ '=' := by
  have hall : ∀ m : Fin 64, alphabet m.val ≠ '=' := by decide
  exact hall ⟨n, h⟩

theorem alphabet_ascii (h : n < 64) : (alphabet n).toNat < 128 := by
  have hall : ∀ m : Fin 64, (alphabet m.val).toNat < 128 := by decide
  exact hall ⟨n, h⟩

end Alphabet

section Encode

/-- `urlsafe_b64encode`, with its padding stripped: the characters of the data alone. -/
def encodeData : List UInt8 → List Char
  | [] => []
  | [a] => [alphabet (a.toNat / 4), alphabet (a.toNat % 4 * 16)]
  | [a, b] => [alphabet (a.toNat / 4), alphabet (a.toNat % 4 * 16 + b.toNat / 16),
      alphabet (b.toNat % 16 * 4)]
  | a :: b :: c :: rest =>
    alphabet (a.toNat / 4) :: alphabet (a.toNat % 4 * 16 + b.toNat / 16) ::
      alphabet (b.toNat % 16 * 4 + c.toNat / 64) :: alphabet (c.toNat % 64) :: encodeData rest

/-- The padding that completes the last group of `n` characters. -/
def padding (n : Nat) : List Char := List.replicate ((4 - n % 4) % 4) '='

/-- `urlsafe_b64encode`. -/
def encode (bytes : List UInt8) : List Char :=
  encodeData bytes ++ padding (encodeData bytes).length

/-- `str.rstrip("=")`. -/
def stripPadding (s : List Char) : List Char := (s.reverse.dropWhile (· = '=')).reverse

theorem mem_encodeData {bytes : List UInt8} (h : c ∈ encodeData bytes) :
    ∃ n < 64, c = alphabet n := by
  have hb (a : UInt8) : a.toNat < 256 := a.toNat_lt
  induction bytes using encodeData.induct with
  | case1 => cases h
  | case2 a =>
    have ha := hb a
    simp only [encodeData, List.mem_cons, List.not_mem_nil, or_false] at h
    rcases h with rfl | rfl <;> exact ⟨_, by omega, rfl⟩
  | case3 a b =>
    have ha := hb a
    have hb' := hb b
    simp only [encodeData, List.mem_cons, List.not_mem_nil, or_false] at h
    rcases h with rfl | rfl | rfl <;> exact ⟨_, by omega, rfl⟩
  | case4 a b c' rest ih =>
    have ha := hb a
    have hb' := hb b
    have hc := hb c'
    simp only [encodeData, List.mem_cons] at h
    rcases h with rfl | rfl | rfl | rfl | h
    · exact ⟨_, by omega, rfl⟩
    · exact ⟨_, by omega, rfl⟩
    · exact ⟨_, by omega, rfl⟩
    · exact ⟨_, by omega, rfl⟩
    · exact ih h

theorem encode_ascii (bytes : List UInt8) : ∀ c ∈ encode bytes, c.toNat < 128 := by
  intro c hc
  unfold encode padding at hc
  rcases List.mem_append.1 hc with hc | hc
  · obtain ⟨n, hn, rfl⟩ := mem_encodeData hc
    exact alphabet_ascii hn
  · rw [List.eq_of_mem_replicate hc]
    decide

/-- The data ends in no padding character, so stripping removes the padding and nothing else. -/
theorem stripPadding_encode (bytes : List UInt8) :
    stripPadding (encode bytes) = encodeData bytes := by
  have hpad : ∀ n, (padding n).reverse.dropWhile (· = '=') = [] := by
    intro n
    unfold padding
    rw [List.reverse_replicate, List.dropWhile_replicate]
    rfl
  have hdata : (encodeData bytes).reverse.dropWhile (· = '=') = (encodeData bytes).reverse := by
    apply List.dropWhile_eq_self_iff.2
    intro hl
    obtain ⟨n, hn, he⟩ := mem_encodeData (List.mem_reverse.1 (List.getElem_mem hl))
    rw [he]
    simpa using alphabet_ne_pad hn
  unfold stripPadding encode
  rw [List.reverse_append, List.dropWhile_append, hpad, List.isEmpty_nil, if_pos rfl, hdata,
    List.reverse_reverse]

end Encode

section Decode

/-- `urlsafe_b64decode`: `quad` characters of the current group were read, their open bits are
`left`, and `pads` padding characters followed. `none` is `binascii.Error`. -/
def decodeFrom (quad left pads : Nat) : List Char → Option (List UInt8)
  | [] => if quad = 0 then some [] else none
  | c :: rest =>
    if c = '=' then
      if 2 ≤ quad then
        if 4 ≤ quad + (pads + 1) then some [] else decodeFrom quad left (pads + 1) rest
      else decodeFrom quad left pads rest
    else match sextet? c with
      | none => decodeFrom quad left pads rest
      | some n =>
        if quad = 0 then decodeFrom 1 n 0 rest
        else if quad = 1 then
          (decodeFrom 2 (n % 16) 0 rest).map (UInt8.ofNat (left * 4 + n / 16) :: ·)
        else if quad = 2 then
          (decodeFrom 3 (n % 4) 0 rest).map (UInt8.ofNat (left * 16 + n / 4) :: ·)
        else (decodeFrom 0 0 0 rest).map (UInt8.ofNat (left * 64 + n) :: ·)

def decode (s : List Char) : Option (List UInt8) := decodeFrom 0 0 0 s

theorem decodeFrom_data (h : n < 64) (quad left pads : Nat) (rest : List Char) :
    decodeFrom quad left pads (alphabet n :: rest) =
      if quad = 0 then decodeFrom 1 n 0 rest
      else if quad = 1 then
        (decodeFrom 2 (n % 16) 0 rest).map (UInt8.ofNat (left * 4 + n / 16) :: ·)
      else if quad = 2 then
        (decodeFrom 3 (n % 4) 0 rest).map (UInt8.ofNat (left * 16 + n / 4) :: ·)
      else (decodeFrom 0 0 0 rest).map (UInt8.ofNat (left * 64 + n) :: ·) := by
  rw [decodeFrom, if_neg (alphabet_ne_pad h), sextet_alphabet h]

theorem byte_eq {a : UInt8} (h : n = a.toNat) : UInt8.ofNat n = a := by
  rw [h, UInt8.ofNat_toNat]

/-- A complete encoding decodes to what was encoded. -/
theorem decode_encode (bytes : List UInt8) : decode (encode bytes) = some bytes := by
  have hb (a : UInt8) : a.toNat < 256 := a.toNat_lt
  unfold decode encode
  induction bytes using encodeData.induct with
  | case1 => rfl
  | case2 a =>
    have ha := hb a
    have h₁ : a.toNat / 4 * 4 + a.toNat % 4 * 16 / 16 = a.toNat := by omega
    simp only [encodeData, List.cons_append, List.nil_append]
    rw [decodeFrom_data (by omega), if_pos rfl, decodeFrom_data (by omega), if_neg Nat.one_ne_zero,
      if_pos rfl, byte_eq h₁]
    rfl
  | case3 a b =>
    have ha := hb a
    have hb' := hb b
    have h₁ : a.toNat / 4 * 4 + (a.toNat % 4 * 16 + b.toNat / 16) / 16 = a.toNat := by omega
    have h₂ : (a.toNat % 4 * 16 + b.toNat / 16) % 16 * 16 + b.toNat % 16 * 4 / 4 = b.toNat := by
      omega
    simp only [encodeData, List.cons_append, List.nil_append]
    rw [decodeFrom_data (by omega), if_pos rfl, decodeFrom_data (by omega), if_neg Nat.one_ne_zero,
      if_pos rfl, decodeFrom_data (by omega), if_neg (by decide), if_neg (by decide), if_pos rfl,
      byte_eq h₁, byte_eq h₂]
    rfl
  | case4 a b c rest ih =>
    have ha := hb a
    have hb' := hb b
    have hc := hb c
    have h₁ : a.toNat / 4 * 4 + (a.toNat % 4 * 16 + b.toNat / 16) / 16 = a.toNat := by omega
    have h₂ : (a.toNat % 4 * 16 + b.toNat / 16) % 16 * 16 +
        (b.toNat % 16 * 4 + c.toNat / 64) / 4 = b.toNat := by
      omega
    have h₃ : (b.toNat % 16 * 4 + c.toNat / 64) % 4 * 64 + c.toNat % 64 = c.toNat := by omega
    have hp : padding (encodeData (a :: b :: c :: rest)).length =
        padding (encodeData rest).length := by
      have hl : ((encodeData rest).length + 1 + 1 + 1 + 1) % 4 = (encodeData rest).length % 4 := by
        omega
      unfold padding
      rw [encodeData, List.length_cons, List.length_cons, List.length_cons, List.length_cons, hl]
    rw [hp]
    simp only [encodeData, List.cons_append]
    rw [decodeFrom_data (by omega), if_pos rfl, decodeFrom_data (by omega), if_neg Nat.one_ne_zero,
      if_pos rfl, decodeFrom_data (by omega), if_neg (by decide), if_neg (by decide), if_pos rfl,
      decodeFrom_data (by omega), if_neg (by decide), if_neg (by decide), if_neg (by decide),
      byte_eq h₁, byte_eq h₂, byte_eq h₃, ih]
    rfl

end Decode

end Base64
