import Mathlib.Data.List.Basic

/-! The SHA-256 digest of FIPS 180-4. -/

namespace Sha256
set_option autoImplicit true

def initialHash : List UInt32 :=
  [0x6a09e667, 0xbb67ae85, 0x3c6ef372, 0xa54ff53a, 0x510e527f, 0x9b05688c, 0x1f83d9ab, 0x5be0cd19]

def roundConstants : List UInt32 :=
  [0x428a2f98, 0x71374491, 0xb5c0fbcf, 0xe9b5dba5, 0x3956c25b, 0x59f111f1, 0x923f82a4, 0xab1c5ed5,
    0xd807aa98, 0x12835b01, 0x243185be, 0x550c7dc3, 0x72be5d74, 0x80deb1fe, 0x9bdc06a7, 0xc19bf174,
    0xe49b69c1, 0xefbe4786, 0x0fc19dc6, 0x240ca1cc, 0x2de92c6f, 0x4a7484aa, 0x5cb0a9dc, 0x76f988da,
    0x983e5152, 0xa831c66d, 0xb00327c8, 0xbf597fc7, 0xc6e00bf3, 0xd5a79147, 0x06ca6351, 0x14292967,
    0x27b70a85, 0x2e1b2138, 0x4d2c6dfc, 0x53380d13, 0x650a7354, 0x766a0abb, 0x81c2c92e, 0x92722c85,
    0xa2bfe8a1, 0xa81a664b, 0xc24b8b70, 0xc76c51a3, 0xd192e819, 0xd6990624, 0xf40e3585, 0x106aa070,
    0x19a4c116, 0x1e376c08, 0x2748774c, 0x34b0bcb5, 0x391c0cb3, 0x4ed8aa4a, 0x5b9cca4f, 0x682e6ff3,
    0x748f82ee, 0x78a5636f, 0x84c87814, 0x8cc70208, 0x90befffa, 0xa4506ceb, 0xbef9a3f7, 0xc67178f2]

def rotateRight (x : UInt32) (n : UInt32) : UInt32 := (x >>> n) ||| (x <<< (32 - n))

def bigSigma0 (x : UInt32) : UInt32 := rotateRight x 2 ^^^ rotateRight x 13 ^^^ rotateRight x 22
def bigSigma1 (x : UInt32) : UInt32 := rotateRight x 6 ^^^ rotateRight x 11 ^^^ rotateRight x 25
def smallSigma0 (x : UInt32) : UInt32 := rotateRight x 7 ^^^ rotateRight x 18 ^^^ (x >>> 3)
def smallSigma1 (x : UInt32) : UInt32 := rotateRight x 17 ^^^ rotateRight x 19 ^^^ (x >>> 10)

/-- Big-endian digits of `n` to the base 256. -/
def bigEndian : Nat → Nat → List UInt8
  | 0, _ => []
  | width + 1, n => bigEndian width (n / 256) ++ [UInt8.ofNat (n % 256)]

/-- A one bit, zeros up to 56 modulo 64 bytes, and the length in bits. -/
def padded (message : List UInt8) : List UInt8 :=
  message ++ 0x80 :: List.replicate ((119 - message.length % 64) % 64) 0 ++
    bigEndian 8 (message.length * 8)

def chunksOf (width : Nat) : Nat → List α → List (List α)
  | 0, _ => []
  | count + 1, l => l.take width :: chunksOf width count (l.drop width)

def word (bytes : List UInt8) : UInt32 :=
  bytes.foldl (fun w byte => (w <<< 8) ||| byte.toUInt32) 0

/-- Sixteen message words, and the `n` words derived from them. -/
def schedule (block : List UInt32) : Nat → List UInt32
  | 0 => block
  | n + 1 =>
    let w := schedule block n
    w ++ [smallSigma1 (w.getD (n + 14) 0) + w.getD (n + 9) 0 +
      smallSigma0 (w.getD (n + 1) 0) + w.getD n 0]

def round : List UInt32 → UInt32 × UInt32 → List UInt32
  | [a, b, c, d, e, f, g, h], (k, w) =>
    let t1 := h + bigSigma1 e + ((e &&& f) ^^^ (~~~e &&& g)) + k + w
    let t2 := bigSigma0 a + ((a &&& b) ^^^ (a &&& c) ^^^ (b &&& c))
    [t1 + t2, a, b, c, d + t1, e, f, g]
  | s, _ => s

def compress (hash : List UInt32) (block : List UInt8) : List UInt32 :=
  let words := schedule ((chunksOf 4 16 block).map word) 48
  hash.zipWith (· + ·) ((roundConstants.zip words).foldl round hash)

def hexDigits (n : UInt32) : List Char :=
  (List.range 8).map (fun i => Nat.digitChar ((n.toNat >>> (28 - 4 * i)) % 16))

def digest (message : List UInt8) : List UInt32 :=
  let bytes := padded message
  (chunksOf 64 (bytes.length / 64) bytes).foldl compress initialHash

def hexdigest (message : List UInt8) : String :=
  String.ofList ((digest message).flatMap hexDigits)

theorem length_round (s : List UInt32) (kw : UInt32 × UInt32) : (round s kw).length = s.length := by
  unfold round
  split <;> rfl

theorem length_foldl_round (kws : List (UInt32 × UInt32)) (s : List UInt32) :
    (kws.foldl round s).length = s.length := by
  induction kws generalizing s with
  | nil => rfl
  | cons kw kws ih => rw [List.foldl_cons, ih, length_round]

theorem length_compress (hash : List UInt32) (block : List UInt8) :
    (compress hash block).length = hash.length := by
  unfold compress
  rw [List.length_zipWith, length_foldl_round, Nat.min_self]

theorem length_foldl_compress (blocks : List (List UInt8)) (hash : List UInt32) :
    (blocks.foldl compress hash).length = hash.length := by
  induction blocks generalizing hash with
  | nil => rfl
  | cons block blocks ih => rw [List.foldl_cons, ih, length_compress]

theorem length_flatMap_hexDigits (words : List UInt32) :
    (words.flatMap hexDigits).length = 8 * words.length := by
  induction words with
  | nil => rfl
  | cons w words ih =>
    rw [List.flatMap_cons, List.length_append, ih, List.length_cons, hexDigits, List.length_map,
      List.length_range]
    omega

/-- A digest is written in sixty-four hexadecimal digits. -/
theorem length_hexdigest (message : List UInt8) : (hexdigest message).length = 64 := by
  have hd : (digest message).length = 8 := length_foldl_compress _ initialHash
  unfold hexdigest
  rw [String.length_ofList, length_flatMap_hexDigits, hd]

end Sha256
