import Catalogue.Decimal
import Catalogue.Text.Encoding

namespace Catalogue.Json

inductive Number
  | nat (n : UInt64)
  | neg (n : Int64)
  | float (x : Float)

namespace Number

def ofInt (n : Int) : Number := if 0 ≤ n then nat (UInt64.ofInt n) else neg (Int64.ofInt n)

def toFloat : Number → Float
  | nat n => n.toFloat
  | neg n => n.toFloat
  | float x => x

def toInt? : Number → Option Int
  | nat n => some n.toNat
  | neg n => some n.toInt
  | float _ => none

structure Spelling where
  negative : Bool
  whole : List Nat
  fraction : Option (List Nat)
  exponent : Option (Bool × List Nat)

/-- Takes digits into a number as long as it fits the bound; what does not fit is left over. -/
def gather (bound : Nat) : Nat → List Nat → Nat × List Nat
  | n, [] => (n, [])
  | n, d :: ds => if bound < n * 10 + d then (n, d :: ds) else gather bound (n * 10 + d) ds

def tenTo (e : Nat) : Float := Float.ofScientific 1 false e

/-- `f · 10 ^ e`, if that is finite. A number of 64 bits is nothing after two divisions by 1e308. -/
def scale : Nat → Float → Int → Option Float
  | 0, f, _ => some f
  | steps + 1, f, e =>
    if e.natAbs ≤ 308 then
      if 0 ≤ e then
        let g := f * tenTo e.toNat
        if g.isInf then none else some g
      else some (f / tenTo e.natAbs)
    else if f == 0 then some f
    else if 0 ≤ e then none
    else scale steps (f / tenTo 308) (e + 308)

def applySign (negative : Bool) (x : Float) : Float := if negative then -x else x

def greatest : Nat := 0xFFFFFFFFFFFFFFFF

/-- The number that a spelling stands for; none if it is too large to be finite. -/
def ofSpelling (s : Spelling) : Option Number :=
  let (n, surplus) := gather greatest 0 s.whole
  if surplus.isEmpty && s.fraction.isNone && s.exponent.isNone then
    if !s.negative then some (nat (UInt64.ofNat n))
    else if 0 < n ∧ n ≤ 0x8000000000000000 then some (neg (Int64.ofInt (-n)))
    else some (float (-(UInt64.ofNat n).toFloat))
  else
    let digits := s.fraction.getD []
    let (m, rest) := gather greatest n digits
    let shift : Int := surplus.length - (digits.length - rest.length : Nat)
    let scaled (e : Int) :=
      (scale 4 (UInt64.ofNat m).toFloat e).map fun x => float (applySign s.negative x)
    match s.exponent with
    | none => scaled shift
    | some (below, exponent) =>
      let (e, surplus) := gather 0x7FFFFFFF 0 exponent
      if surplus.isEmpty then scaled (if below then shift - e else shift + e)
      else if m ≠ 0 ∧ !below then none
      else some (float (applySign s.negative 0))

end Number

end Catalogue.Json

namespace Catalogue

inductive Json
  | null
  | bool (b : Bool)
  | number (n : Json.Number)
  | text (s : String)
  | array (items : List Json)
  | object (members : List (String × Json))

namespace Json

def Number.text : Number → String
  | nat n => toString n.toNat
  | neg n => toString n.toInt
  | float x => if x.isFinite then Decimal.Layout.compact.text x.toBits else "null"

def escapeChar (c : Char) : List Char :=
  match c with
  | '"' => ['\\', '"']
  | '\\' => ['\\', '\\']
  | '\x08' => ['\\', 'b']
  | '\x0c' => ['\\', 'f']
  | '\n' => ['\\', 'n']
  | '\r' => ['\\', 'r']
  | '\t' => ['\\', 't']
  | _ =>
    if c.toNat < 0x20 then
      ['\\', 'u', '0', '0', Text.hexDigit false (c.toNat / 16), Text.hexDigit false (c.toNat % 16)]
    else [c]

def quote (s : String) : String :=
  String.ofList (['"'] ++ s.toList.flatMap escapeChar ++ ['"'])

mutual

def render : Json → String
  | null => "null"
  | bool b => if b then "true" else "false"
  | number n => n.text
  | text s => quote s
  | array items => "[" ++ renderItems items ++ "]"
  | object members => "\x7b" ++ renderMembers members ++ "\x7d"

def renderItems : List Json → String
  | [] => ""
  | [item] => item.render
  | item :: items => item.render ++ "," ++ renderItems items

def renderMembers : List (String × Json) → String
  | [] => ""
  | [member] => renderMember member
  | member :: members => renderMember member ++ "," ++ renderMembers members

def renderMember : String × Json → String
  | (key, value) => quote key ++ ":" ++ value.render

end

end Json

end Catalogue
