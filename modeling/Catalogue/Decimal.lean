import Catalogue.Text.Encoding

namespace Catalogue.Decimal

/-- A positive number `mantissa · 2 ^ exponent` of a binary format. The next number below is half as
far away as the next one above when `narrow` is set. -/
structure Binary where
  mantissa : Nat
  exponent : Int
  narrow : Bool

structure Scientific where
  digits : Nat
  exponent : Int
  deriving Repr, DecidableEq

inductive Tie
  | up | even
  deriving Repr, DecidableEq

def power (base : Nat) (e : Int) : Nat × Nat :=
  if 0 ≤ e then (Nat.pow base e.toNat, 1) else (1, Nat.pow base (-e).toNat)

namespace Binary

def quarters (b : Binary) : Nat := 4 * b.mantissa

/-- The ends of the interval of reals that round to the number, in quarters. -/
def least (b : Binary) : Nat := if b.narrow then 4 * b.mantissa - 1 else 4 * b.mantissa - 2

def greatest (b : Binary) : Nat := 4 * b.mantissa + 2

/-- The ends belong to the interval when the mantissa is even. -/
def closed (b : Binary) : Bool := b.mantissa % 2 == 0

def units (b : Binary) (k : Int) : Nat × Nat :=
  let (p, q) := power 2 (b.exponent - 2)
  let (r, s) := power 10 k
  (p * s, r * q)

def admits (b : Binary) (k : Int) (d : Nat) : Bool :=
  let (quarter, step) := b.units k
  if b.closed then b.least * quarter ≤ d * step && d * step ≤ b.greatest * quarter
  else b.least * quarter < d * step && d * step < b.greatest * quarter

/-- The point of the grid `10 ^ k` that reads back as the number and is nearest to it, if any. -/
def nearest? (b : Binary) (tie : Tie) (k : Int) : Option Nat :=
  let (quarter, step) := b.units k
  let v := b.quarters * quarter
  let d := v / step
  match b.admits k d, b.admits k (d + 1) with
  | true, true =>
    let below := v - d * step
    let above := (d + 1) * step - v
    if below < above then some d
    else if above < below then some (d + 1)
    else match tie with
      | .up => some (d + 1)
      | .even => some (if d % 2 == 0 then d else d + 1)
  | true, false => some d
  | false, true => some (d + 1)
  | false, false => none

def search (b : Binary) (tie : Tie) : Nat → Int → Scientific
  | 0, k => ⟨b.quarters, k⟩
  | n + 1, k =>
    match b.nearest? tie k with
    | some d => ⟨d, k⟩
    | none => search b tie n (k - 1)

def ceiling (b : Binary) : Int := (b.exponent + b.mantissa.log2 + 1) * 30103 / 100000 + 2

/-- The shortest decimal that reads back as the number. A grid twenty steps below the ceiling is
finer than the numbers of the format are apart. -/
def shortest (b : Binary) (tie : Tie) : Scientific := b.search tie 24 b.ceiling

end Binary

inductive Class
  | notANumber
  | infinite (negative : Bool)
  | zero (negative : Bool)
  | finite (negative : Bool) (magnitude : Binary)

def classify (bits : UInt64) : Class :=
  let negative := bits.toNat / 0x8000000000000000 == 1
  let biased : Nat := bits.toNat / 0x10000000000000 % 0x800
  let fraction : Nat := bits.toNat % 0x10000000000000
  if biased == 2047 then (if fraction == 0 then .infinite negative else .notANumber)
  else if biased == 0 then
    if fraction == 0 then .zero negative else .finite negative ⟨fraction, -1074, false⟩
  else .finite negative ⟨0x10000000000000 + fraction, (biased : Int) - 1075, fraction == 0 && biased != 1⟩

structure Layout where
  tie : Tie
  positional : Int → Bool
  pointZero : Bool

def digitsOf (n : Nat) : List Char := Nat.toDigits 10 n

def Scientific.positional (s : Scientific) (pointZero : Bool) : List Char :=
  let ds := digitsOf s.digits
  let before := ds.length + s.exponent
  if 0 ≤ s.exponent then
    ds ++ List.replicate s.exponent.toNat '0' ++ (if pointZero then ['.', '0'] else [])
  else if 0 < before then ds.take before.toNat ++ ['.'] ++ ds.drop before.toNat
  else ['0', '.'] ++ List.replicate (-before).toNat '0' ++ ds

def Scientific.exponential (s : Scientific) : List Char :=
  let ds := digitsOf s.digits
  let e := ds.length + s.exponent - 1
  let mantissa := match ds with
    | [] => []
    | d :: [] => [d]
    | d :: rest => d :: '.' :: rest
  mantissa ++ ['e', if e < 0 then '-' else '+'] ++ digitsOf e.natAbs

def signed (negative : Bool) (cs : List Char) : String :=
  String.ofList (if negative then '-' :: cs else cs)

def Layout.text (layout : Layout) (bits : UInt64) : String :=
  match classify bits with
  | .notANumber => "NaN"
  | .infinite negative => signed negative ['i', 'n', 'f']
  | .zero negative => signed negative (if layout.pointZero then ['0', '.', '0'] else ['0'])
  | .finite negative magnitude =>
    let s := magnitude.shortest layout.tie
    let lead := (digitsOf s.digits).length + s.exponent - 1
    signed negative
      (if layout.positional lead then s.positional layout.pointZero else s.exponential)

def Layout.plain : Layout := ⟨.up, fun _ => true, false⟩

def Layout.compact : Layout := ⟨.even, fun e => decide (-5 ≤ e ∧ e < 16), true⟩

/-- The number `digits · 10 ^ exponent`. Beyond 10 ^ 400 and below 10 ^ -400 every number is
infinite or zero, so no greater power of ten is worked out. -/
def toFloat (negative : Bool) (digits : Nat) (exponent : Int) : Float :=
  let size := (Nat.toDigits 10 digits).length + exponent
  let magnitude :=
    if digits == 0 || size < -400 then 0.0
    else if 400 < size then 1.0 / 0.0
    else Float.ofScientific digits (decide (exponent < 0)) exponent.natAbs
  if negative then -magnitude else magnitude

def ofParts (negative : Bool) (whole fraction : List Char) (exponent : Int) : Float :=
  toFloat negative (Text.decimalValue (whole ++ fraction)) (exponent - fraction.length)

end Catalogue.Decimal
