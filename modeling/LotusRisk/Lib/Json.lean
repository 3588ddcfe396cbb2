import Mathlib.Data.List.Sort
import Mathlib.Order.Basic

/-! JSON text as Python's `json` module writes it (compact separators, ASCII only) and reads it. -/

namespace JsonText
set_option autoImplicit true

/-- A JSON value; a number with a fraction or an exponent keeps its text. -/
inductive Json where
  | null
  | bool (b : Bool)
  | int (i : Int)
  | float (lexeme : String)
  | str (s : String)
  | arr (items : List Json)
  | obj (members : List (String × Json))

section Writer

/-- The four lower-case hexadecimal digits of a UTF-16 code unit. -/
def hex4 (n : Nat) : List Char :=
  [(n / 4096 % 16).digitChar, (n / 256 % 16).digitChar, (n / 16 % 16).digitChar,
    (n % 16).digitChar]

/-- `ensure_ascii`: everything outside `' '..'~'` is escaped, as a surrogate pair above U+FFFF. -/
def escapeChar (c : Char) : List Char :=
  if c = '"' then [ '\\', '"']
  else if c = '\\' then [ '\\', '\\']
  else if c = '\n' then [ '\\', 'n']
  else if c = '\r' then [ '\\', 'r']
  else if c = '\t' then [ '\\', 't']
  else if c.toNat = 0x0c then [ '\\', 'f']
  else if c.toNat = 0x08 then [ '\\', 'b']
  else if 0x20 ≤ c.toNat ∧ c.toNat ≤ 0x7e then [c]
  else if c.toNat < 0x10000 then '\\' :: 'u' :: hex4 c.toNat
  else '\\' :: 'u' :: (hex4 (0xd800 + (c.toNat - 0x10000) / 0x400) ++
    '\\' :: 'u' :: hex4 (0xdc00 + (c.toNat - 0x10000) % 0x400))

def escape (s : List Char) : List Char := s.flatMap escapeChar

def quote (s : String) : List Char := '"' :: (escape s.toList ++ [ '"'])

def writeInt (i : Int) : List Char :=
  if i < 0 then '-' :: Nat.toDigits 10 i.natAbs else Nat.toDigits 10 i.natAbs

def joinWith (sep : Char) : List (List Char) → List Char
  | [] => []
  | [x] => x
  | x :: y :: xs => x ++ sep :: joinWith sep (y :: xs)

mutual

def write : Json → List Char
  | .null => "null".toList
  | .bool true => "true".toList
  | .bool false => "false".toList
  | .int i => writeInt i
  | .float lexeme => lexeme.toList
  | .str s => quote s
  | .arr items => '[' :: (joinWith ',' (writeItems items) ++ [ ']'])
  | .obj members =>
    let sorted := (writeMembers members).insertionSort (fun a b => a.1 ≤ b.1)
    '{' :: (joinWith ',' (sorted.map (fun m => quote m.1 ++ ':' :: m.2)) ++ [ '}'])

def writeItems : List Json → List (List Char)
  | [] => []
  | v :: vs => write v :: writeItems vs

def writeMembers : List (String × Json) → List (String × List Char)
  | [] => []
  | (k, v) :: ms => (k, write v) :: writeMembers ms

end

/-- `json.dumps(value, sort_keys=True, separators=(",", ":"))`. -/
def dumps (value : Json) : String := String.ofList (write value)

end Writer

section Reader

def isSpace (c : Char) : Bool := c = ' ' || c = '\t' || c = '\n' || c = '\r'

def skipSpace (s : List Char) : List Char := s.dropWhile isSpace

def hexVal? (c : Char) : Option Nat :=
  if '0' ≤ c ∧ c ≤ '9' then some (c.toNat - 48)
  else if 'a' ≤ c ∧ c ≤ 'f' then some (c.toNat - 87)
  else if 'A' ≤ c ∧ c ≤ 'F' then some (c.toNat - 55)
  else none

def scanHex4 : List Char → Option (Nat × List Char)
  | a :: b :: c :: d :: rest => do
    let w ← hexVal? a
    let x ← hexVal? b
    let y ← hexVal? c
    let z ← hexVal? d
    some (((w * 16 + x) * 16 + y) * 16 + z, rest)
  | _ => none

/-- The low half of a surrogate pair whose high half is `high`. -/
def scanLowSurrogate (high : Nat) : List Char → Option (Char × List Char)
  | '\\' :: 'u' :: rest => do
    let (low, rest) ← scanHex4 rest
    if 0xdc00 ≤ low ∧ low ≤ 0xdfff then
      some (Char.ofNat (0x10000 + (high - 0xd800) * 0x400 + (low - 0xdc00)), rest)
    else none
  | _ => none

/-- What follows a backslash. A lone surrogate has no scalar value and is refused. -/
def scanEscape : List Char → Option (Char × List Char)
  | '"' :: rest => some ('"', rest)
  | '\\' :: rest => some ('\\', rest)
  | '/' :: rest => some ('/', rest)
  | 'b' :: rest => some (Char.ofNat 0x08, rest)
  | 'f' :: rest => some (Char.ofNat 0x0c, rest)
  | 'n' :: rest => some ('\n', rest)
  | 'r' :: rest => some ('\r', rest)
  | 't' :: rest => some ('\t', rest)
  | 'u' :: rest => do
    let (n, rest) ← scanHex4 rest
    if 0xd800 ≤ n ∧ n ≤ 0xdbff then scanLowSurrogate n rest
    else if 0xdc00 ≤ n ∧ n ≤ 0xdfff then none
    else some (Char.ofNat n, rest)
  | _ => none

/-- The characters of a string up to its closing quote. -/
def scanString : Nat → List Char → Option (List Char × List Char)
  | 0, _ => none
  | _ + 1, [] => none
  | fuel + 1, c :: rest =>
    if c = '"' then some ([], rest)
    else if c = '\\' then do
      let (e, rest) ← scanEscape rest
      let (cs, rest) ← scanString fuel rest
      some (e :: cs, rest)
    else if c.toNat < 0x20 then none
    else do
      let (cs, rest) ← scanString fuel rest
      some (c :: cs, rest)

def scanFraction : List Char → List Char × List Char
  | '.' :: c :: rest =>
    if c.isDigit then ('.' :: c :: rest.takeWhile Char.isDigit, rest.dropWhile Char.isDigit)
    else ([], '.' :: c :: rest)
  | rest => ([], rest)

def scanExponentDigits (mark : List Char) (whole : List Char) :
    List Char → List Char × List Char
  | c :: rest =>
    if c.isDigit then (mark ++ c :: rest.takeWhile Char.isDigit, rest.dropWhile Char.isDigit)
    else ([], whole)
  | [] => ([], whole)

def scanExponent (s : List Char) : List Char × List Char :=
  match s with
  | e :: '+' :: rest =>
    if e = 'e' ∨ e = 'E' then scanExponentDigits [e, '+'] s rest else ([], s)
  | e :: '-' :: rest =>
    if e = 'e' ∨ e = 'E' then scanExponentDigits [e, '-'] s rest else ([], s)
  | e :: rest => if e = 'e' ∨ e = 'E' then scanExponentDigits [e] s rest else ([], s)
  | [] => ([], [])

/-- The integer part: a single zero, or a digit other than zero and the digits after it. -/
def scanDigits : List Char → Option (List Char × List Char)
  | [] => none
  | c :: rest =>
    if c = '0' then some ([c], rest)
    else if c.isDigit then some (c :: rest.takeWhile Char.isDigit, rest.dropWhile Char.isDigit)
    else none

def scanUnsigned (negative : Bool) (s : List Char) : Option (Json × List Char) := do
  let (digits, rest) ← scanDigits s
  let (fraction, rest) := scanFraction rest
  let (exponent, rest) := scanExponent rest
  if fraction = [] ∧ exponent = [] then
    let n : Int := Nat.ofDigitChars 10 digits 0
    some (.int (if negative then -n else n), rest)
  else
    let sign := if negative then [ '-'] else []
    some (.float (String.ofList (sign ++ digits ++ fraction ++ exponent)), rest)

def scanNumber : List Char → Option (Json × List Char)
  | '-' :: rest => scanUnsigned true rest
  | s => scanUnsigned false s

/-- A constant of the language, or the non-standard ones Python accepts. -/
def scanConstant (s : List Char) : Option (Json × List Char) :=
  let after (word : String) (value : Json) : Option (Json × List Char) :=
    if word.toList.isPrefixOf s then some (value, s.drop word.length) else none
  after "null" .null <|> after "true" (.bool true) <|> after "false" (.bool false) <|>
    after "NaN" (.float "NaN") <|> after "Infinity" (.float "Infinity") <|>
    after "-Infinity" (.float "-Infinity")

/-- A repeated member keeps its first place and its last value, as in a Python `dict`. -/
def setMember (members : List (String × Json)) (k : String) (v : Json) : List (String × Json) :=
  if members.any (fun m => m.1 = k) then
    members.map (fun m => if m.1 = k then (k, v) else m)
  else members ++ [(k, v)]

mutual

def scanValue : Nat → List Char → Option (Json × List Char)
  | 0, _ => none
  | _ + 1, [] => none
  | fuel + 1, c :: rest =>
    if c = '"' then do
      let (s, rest) ← scanString (rest.length + 1) rest
      some (.str (String.ofList s), rest)
    else if c = '[' then
      match skipSpace rest with
      | ']' :: rest => some (.arr [], rest)
      | rest => do
        let (items, rest) ← scanItems fuel rest
        some (.arr items, rest)
    else if c = '{' then
      match skipSpace rest with
      | '}' :: rest => some (.obj [], rest)
      | rest => do
        let (members, rest) ← scanMembers fuel rest
        some (.obj (members.foldl (fun ms m => setMember ms m.1 m.2) []), rest)
    else scanNumber (c :: rest) <|> scanConstant (c :: rest)

def scanItems : Nat → List Char → Option (List Json × List Char)
  | 0, _ => none
  | fuel + 1, s => do
    let (v, rest) ← scanValue fuel s
    match skipSpace rest with
    | ',' :: rest => do
      let (vs, rest) ← scanItems fuel (skipSpace rest)
      some (v :: vs, rest)
    | ']' :: rest => some ([v], rest)
    | _ => none

def scanMembers : Nat → List Char → Option (List (String × Json) × List Char)
  | 0, _ => none
  | _ + 1, [] => none
  | fuel + 1, c :: rest => do
    let (k, rest) ← if c = '"' then scanString (rest.length + 1) rest else none
    match skipSpace rest with
    | ':' :: rest => do
      let (v, rest) ← scanValue fuel (skipSpace rest)
      match skipSpace rest with
      | ',' :: rest => do
        let (ms, rest) ← scanMembers fuel (skipSpace rest)
        some ((String.ofList k, v) :: ms, rest)
      | '}' :: rest => some ([(String.ofList k, v)], rest)
      | _ => none
    | _ => none

end

/-- `json.loads`; `none` is `JSONDecodeError`. Two steps of fuel go with each character. -/
def loads (s : String) : Option Json := do
  let (v, rest) ← scanValue (2 * s.toList.length + 2) (skipSpace s.toList)
  if skipSpace rest = [] then some v else none

end Reader

end JsonText
