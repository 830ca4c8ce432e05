import Catalogue.DateTime
import Catalogue.Decimal
import Catalogue.Path
import Catalogue.Settings.Variable
import Catalogue.Text.Encoding

namespace Catalogue.Toml

open Text

abbrev Reader (α : Type) := List Char → Option (α × List Char)

def isGap (c : Char) : Bool := c == ' ' || c == '\t'

def skipGap (cs : List Char) : List Char := cs.dropWhile isGap

def isPlain (c : Char) : Bool := c == '\t' || (0x20 ≤ c.toNat && c.toNat ≠ 0x7F)

def before (start : List Char) : Option (List Char × List Char) → Option (List Char × List Char) :=
  Option.map fun (body, rest) => (start ++ body, rest)

def cutShort (mark : Char) (escapes : Bool) : Reader (List Char)
  | [] => none
  | '\\' :: c :: rest =>
    if escapes then before ['\\', c] (cutShort mark escapes rest)
    else if c = mark then some (['\\'], rest)
    else before ['\\', c] (cutShort mark escapes rest)
  | c :: rest => if c = mark then some ([], rest) else before [c] (cutShort mark escapes rest)

/-- The body of a text over many lines. Up to two marks may stand before the three that close it. -/
def cutLong (mark : Char) (escapes : Bool) : Reader (List Char)
  | [] => none
  | c :: rest =>
    if c = '\\' && escapes then
      match rest with
      | [] => none
      | d :: rest => before ['\\', d] (cutLong mark escapes rest)
    else if c = mark then
      match rest with
      | a :: b :: rest' =>
        if a = mark && b = mark then
          let extra := (rest'.take 2).takeWhile (· = mark)
          some (extra, rest'.drop extra.length)
        else before [c] (cutLong mark escapes rest)
      | _ => none
    else before [c] (cutLong mark escapes rest)

def hexChar? (digits : List Char) : Option Char := do
  let values ← digits.mapM hexValue?
  let n := values.foldl (fun n d => 16 * n + d) 0
  if h : n.isValidChar then some (Char.ofNatAux n h) else none

def escape? (c : Char) : Option Char :=
  match c with
  | '"' | '\\' => some c
  | 'b' => some '\x08'
  | 'f' => some '\x0c'
  | 'n' => some '\n'
  | 'r' => some '\r'
  | 't' => some '\t'
  | _ => none

def endsLine (cs : List Char) : Bool :=
  match skipGap cs with
  | '\n' :: _ | '\r' :: '\n' :: _ => true
  | _ => false

/-- The text that a body stands for. Line ends stand only in `long` texts, where a carriage return
before a line feed is dropped; while `joining`, gaps and line ends are dropped. -/
def unescape (long escapes : Bool) : (joining : Bool) → List Char → Option (List Char)
  | _, [] => some []
  | joining, '\\' :: 'u' :: a :: b :: c :: d :: rest =>
    if escapes then do
      let x ← hexChar? [a, b, c, d]
      (x :: ·) <$> unescape long escapes false rest
    else ('\\' :: ·) <$> unescape long escapes joining ('u' :: a :: b :: c :: d :: rest)
  | joining, '\\' :: 'U' :: a :: b :: c :: d :: e :: f :: g :: h :: rest =>
    if escapes then do
      let x ← hexChar? [a, b, c, d, e, f, g, h]
      (x :: ·) <$> unescape long escapes false rest
    else
      ('\\' :: ·) <$>
        unescape long escapes joining ('U' :: a :: b :: c :: d :: e :: f :: g :: h :: rest)
  | joining, '\\' :: c :: rest =>
    if !escapes then ('\\' :: ·) <$> unescape long escapes joining (c :: rest)
    else match escape? c with
      | some x => (x :: ·) <$> unescape long escapes false rest
      | none => if long && endsLine (c :: rest) then unescape long escapes true (c :: rest) else none
  | joining, '\r' :: '\n' :: rest =>
    if !long then none
    else if joining then unescape long escapes joining rest
    else ('\n' :: ·) <$> unescape long escapes joining rest
  | joining, c :: rest =>
    if joining && (isGap c || c == '\n') then unescape long escapes joining rest
    else if isPlain c || (long && c == '\n') then (c :: ·) <$> unescape long escapes false rest
    else none

def withoutFirstLineEnd : List Char → List Char
  | '\n' :: rest | '\r' :: '\n' :: rest => rest
  | cs => cs

def shortText (mark : Char) (cs : List Char) : Option (String × List Char) := do
  let (body, rest) ← cutShort mark (mark == '"') cs
  let body ← unescape false (mark == '"') false body
  pure (String.ofList body, rest)

def longText (mark : Char) (cs : List Char) : Option (String × List Char) := do
  let (body, rest) ← cutLong mark (mark == '"') (withoutFirstLineEnd cs)
  let body ← unescape true (mark == '"') false body
  pure (String.ofList body, rest)

def quoted? (cs : List Char) : Option (Option (String × List Char)) :=
  match cs with
  | '"' :: '"' :: '"' :: rest => some (longText '"' rest)
  | '\'' :: '\'' :: '\'' :: rest => some (longText '\'' rest)
  | '"' :: rest => some (shortText '"' rest)
  | '\'' :: rest => some (shortText '\'' rest)
  | _ => none

def digits? (isDigit : Char → Bool) (cs : List Char) : Option (List Char) :=
  let runs := cutAt '_' cs
  if runs.all fun run => !run.isEmpty && run.all isDigit then some runs.flatten else none

def inRange (n : Int) : Option Int :=
  if -0x8000000000000000 ≤ n ∧ n < 0x8000000000000000 then some n else none

def based? (base : Nat) (cs : List Char) : Option Int := do
  let ds ← digits? (fun c => (hexValue? c).any (· < base)) cs
  inRange (ds.foldl (fun n c => base * n + (hexValue? c).getD 0) 0 : Nat)

def sign (cs : List Char) : Bool × List Char :=
  match cs with
  | '-' :: rest => (true, rest)
  | '+' :: rest => (false, rest)
  | _ => (false, cs)

def decimal? (cs : List Char) : Option (List Char) := do
  let ds ← digits? isDigit cs
  if ds.length ≠ 1 ∧ ds.head? = some '0' then none else some ds

def integer? (cs : List Char) : Option Int :=
  match cs with
  | '0' :: 'x' :: ds => based? 16 ds
  | '0' :: 'o' :: ds => based? 8 ds
  | '0' :: 'b' :: ds => based? 2 ds
  | _ => do
    let (negative, ds) := sign cs
    let ds ← decimal? ds
    let n : Int := decimalValue ds
    inRange (if negative then -n else n)

def isExponentMark (c : Char) : Bool := c == 'e' || c == 'E'

def exponent? (cs : List Char) : Option Int :=
  match cs with
  | [] => some 0
  | _ :: rest => do
    let (below, ds) := sign rest
    let ds ← digits? isDigit ds
    let n : Int := decimalValue ds
    pure (if below then -n else n)

def float? (cs : List Char) : Option Float := do
  let (negative, body) := sign cs
  match body with
  | ['i', 'n', 'f'] => some (if negative then -1.0 / 0.0 else 1.0 / 0.0)
  | ['n', 'a', 'n'] => some (0.0 / 0.0)
  | _ =>
    let mantissa := body.takeWhile (!isExponentMark ·)
    let exponent ← exponent? (body.dropWhile (!isExponentMark ·))
    let (whole, fraction) ← match cutAt '.' mantissa with
      | [whole] => if mantissa.length = body.length then none else some (whole, [])
      | [whole, fraction] => (digits? isDigit fraction).map fun ds => (whole, ds)
      | _ => none
    let whole ← decimal? whole
    let x := Decimal.ofParts negative whole fraction exponent
    if x == 1.0 / 0.0 then none else some x

/-! ## Dates and times -/

def number? (least greatest : Nat) (cs : List Char) : Option Nat :=
  if cs.all isDigit ∧ least ≤ decimalValue cs ∧ decimalValue cs ≤ greatest then
    some (decimalValue cs)
  else none

def isDate (cs : List Char) : Bool :=
  match cs with
  | [a, b, c, d, '-', m, m', '-', e, e'] =>
    match number? 0 9999 [a, b, c, d], number? 1 12 [m, m'], number? 1 31 [e, e'] with
    | some year, some month, some day => day ≤ Date.daysInMonth year month
    | _, _, _ => false
  | _ => false

def isHourMinute (cs : List Char) : Bool :=
  match cs with
  | [h, h', ':', m, m'] => (number? 0 23 [h, h']).isSome && (number? 0 59 [m, m']).isSome
  | _ => false

def isTime (cs : List Char) : Bool :=
  isHourMinute (cs.take 5) &&
    match cs.drop 5 with
    | [':', s, s'] => (number? 0 60 [s, s']).isSome
    | ':' :: s :: s' :: '.' :: fraction =>
      (number? 0 60 [s, s']).isSome && !fraction.isEmpty && fraction.all isDigit
    | _ => false

def isOffsetTime (cs : List Char) : Bool :=
  match cs.reverse with
  | 'Z' :: rest | 'z' :: rest => isTime rest.reverse
  | _ =>
    let start := cs.length - 6
    isTime (cs.take start) &&
      match cs.drop start with
      | '+' :: offset | '-' :: offset => isHourMinute offset
      | _ => false

def isMoment (cs : List Char) : Bool :=
  isDate cs || isTime cs ||
    (isDate (cs.take 10) &&
      match cs.drop 10 with
      | c :: time => (c == 'T' || c == 't' || c == ' ') && (isTime time || isOffsetTime time)
      | [] => false)

/-- A date or time counts as a table whose one entry is its text. -/
def moment (cs : List Char) : Setting :=
  .table [("$__toml_private_datetime", .text (String.ofList cs))]

/-! ## Runs -/

def isRunChar (c : Char) : Bool :=
  c.isAlphanum || c == '_' || c == '+' || c == '-' || c == '.' || c == ':'

/-- A run of characters that may make up a value. A blank joins a date and a time. -/
def run (cs : List Char) : List Char × List Char :=
  let first := cs.takeWhile isRunChar
  match cs.dropWhile isRunChar with
  | ' ' :: c :: rest =>
    if isDate first && isDigit c then
      (first ++ ' ' :: (c :: rest).takeWhile isRunChar, (c :: rest).dropWhile isRunChar)
    else (first, ' ' :: c :: rest)
  | rest => (first, rest)

def scalar? (cs : List Char) : Option Setting :=
  match cs with
  | ['t', 'r', 'u', 'e'] => some (.bool true)
  | ['f', 'a', 'l', 's', 'e'] => some (.bool false)
  | _ =>
    if isMoment cs then some (moment cs)
    else match integer? cs with
      | some n => some (.signed n)
      | none => (float? cs).map .float

end Catalogue.Toml
