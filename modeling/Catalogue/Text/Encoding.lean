namespace Catalogue.Text

def isDigit (c : Char) : Bool := '0' ≤ c && c ≤ '9'

def digitValue (c : Char) : Nat := c.toNat - 0x30

def decimalValue (digits : List Char) : Nat := digits.foldl (fun n c => 10 * n + digitValue c) 0

def hexDigit (upper : Bool) (n : Nat) : Char :=
  Char.ofNat (if n < 10 then 0x30 + n else if upper then 0x41 + (n - 10) else 0x61 + (n - 10))

def hexValue? (c : Char) : Option Nat :=
  if '0' ≤ c ∧ c ≤ '9' then some (c.toNat - 0x30)
  else if 'a' ≤ c ∧ c ≤ 'f' then some (c.toNat - 0x61 + 10)
  else if 'A' ≤ c ∧ c ≤ 'F' then some (c.toNat - 0x41 + 10)
  else none

theorem hexValue?_hexDigit (upper : Bool) {n : Nat} (h : n < 16) :
    hexValue? (hexDigit upper n) = some n := by
  have hall : ∀ n < 16, hexValue? (hexDigit upper n) = some n := by cases upper <;> decide
  exact hall n h

/-- The first and last code points of the runs that make up White_Space. -/
def blankRuns : List (Nat × Nat) :=
  [(0x09, 0x0D), (0x20, 0x20), (0x85, 0x85), (0xA0, 0xA0), (0x1680, 0x1680), (0x2000, 0x200A),
   (0x2028, 0x2029), (0x202F, 0x202F), (0x205F, 0x205F), (0x3000, 0x3000)]

def isBlank (c : Char) : Bool :=
  blankRuns.any fun run => run.1 ≤ c.toNat && c.toNat ≤ run.2

def allBlank (cs : List Char) : Bool := cs.all isBlank

def dropBlank (cs : List Char) : List Char := cs.dropWhile isBlank

def trim (cs : List Char) : List Char := (dropBlank (dropBlank cs).reverse).reverse

namespace Utf8

def encode (cs : List Char) : List UInt8 := cs.flatMap String.utf8EncodeChar

/-- A character of which some bytes are still missing: how many, the range the next one has to lie
in, and the bits so far. -/
structure Open where
  missing : Nat
  least : UInt8
  greatest : UInt8
  bits : Nat

inductive Lead
  | whole (c : Char)
  | opened (o : Open)
  | broken

/-- The narrowed ranges after E0, ED, F0 and F4 keep out overlong forms, surrogates and what lies
beyond the last code point. -/
def lead (b : UInt8) : Lead :=
  if b < 0x80 then .whole (Char.ofNat b.toNat)
  else if b < 0xC2 then .broken
  else if b < 0xE0 then .opened ⟨1, 0x80, 0xBF, b.toNat - 0xC0⟩
  else if b < 0xF0 then
    .opened ⟨2, if b = 0xE0 then 0xA0 else 0x80, if b = 0xED then 0x9F else 0xBF, b.toNat - 0xE0⟩
  else if b < 0xF5 then
    .opened ⟨3, if b = 0xF0 then 0x90 else 0x80, if b = 0xF4 then 0x8F else 0xBF, b.toNat - 0xF0⟩
  else .broken

/-- The characters of a byte sequence, with `none` for each part that is no character. -/
def decodeFrom : Option Open → List UInt8 → List (Option Char)
  | none, [] => []
  | some _, [] => [none]
  | none, b :: bs =>
    match lead b with
    | .whole c => some c :: decodeFrom none bs
    | .opened o => decodeFrom (some o) bs
    | .broken => none :: decodeFrom none bs
  | some o, b :: bs =>
    if o.least ≤ b ∧ b ≤ o.greatest then
      let bits := o.bits * 64 + (b.toNat - 0x80)
      match o.missing with
      | 0 | 1 => some (Char.ofNat bits) :: decodeFrom none bs
      | n + 1 => decodeFrom (some ⟨n, 0x80, 0xBF, bits⟩) bs
    else
      match lead b with
      | .whole c => none :: some c :: decodeFrom none bs
      | .opened o => none :: decodeFrom (some o) bs
      | .broken => none :: none :: decodeFrom none bs

def decode (bytes : List UInt8) : List (Option Char) := decodeFrom none bytes

def decode? (bytes : List UInt8) : Option (List Char) := (decode bytes).mapM id

def decodeLossy (bytes : List UInt8) : List Char := (decode bytes).map (·.getD '\uFFFD')

end Utf8

namespace Percent

def byte (b : UInt8) : List Char :=
  ['%', hexDigit true (b.toNat / 16), hexDigit true (b.toNat % 16)]

def char (c : Char) : List Char := (String.utf8EncodeChar c).flatMap byte

def encode (escaped : Char → Bool) (cs : List Char) : List Char :=
  cs.flatMap fun c => if escaped c || 0x7F < c.toNat then char c else [c]

/-- The bytes a text stands for. A `%` without two hexadecimal digits after it stands for itself. -/
def decode : List Char → List UInt8
  | [] => []
  | '%' :: h :: l :: rest =>
    match hexValue? h, hexValue? l with
    | some hi, some lo => UInt8.ofNat (hi * 16 + lo) :: decode rest
    | _, _ => 0x25 :: decode (h :: l :: rest)
  | c :: cs => String.utf8EncodeChar c ++ decode cs

end Percent

namespace Form

def isPlain (c : Char) : Bool := c.isAlphanum || c == '*' || c == '-' || c == '.' || c == '_'

def encodeChar (c : Char) : List Char :=
  if c = ' ' then ['+'] else if isPlain c then [c] else Percent.char c

def encode (value : String) : String :=
  String.ofList (value.toList.flatMap encodeChar)

def decode? (value : String) : Option String :=
  (Text.Utf8.decode? (Percent.decode (value.toList.map fun c => if c = '+' then ' ' else c))).map
    String.ofList

end Form

end Catalogue.Text
