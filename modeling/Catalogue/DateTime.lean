import Catalogue.Text.Encoding

namespace Catalogue

/-- An instant: whole seconds since the start of 1970 in universal time, and nanoseconds. A leap
second is told as the second before it with a whole second more of nanoseconds. -/
structure DateTime where
  seconds : Int
  nanos : Nat
  deriving Repr, DecidableEq, Inhabited

structure Date where
  year : Int
  month : Nat
  day : Nat
  deriving Repr, DecidableEq

namespace Date

def isLeapYear (year : Int) : Bool := year % 4 == 0 && (year % 100 != 0 || year % 400 == 0)

def daysInMonth (year : Int) (month : Nat) : Nat :=
  match month with
  | 2 => if isLeapYear year then 29 else 28
  | 4 | 6 | 9 | 11 => 30
  | _ => 31

/-- Days since the start of 1970. Years are counted from March, so that a leap day comes last. -/
def toDays (d : Date) : Int :=
  let year := if d.month ≤ 2 then d.year - 1 else d.year
  let era := Int.fdiv year 400
  let yearOfEra := year - era * 400
  let month := (d.month + 9) % 12
  let dayOfYear := (153 * month + 2) / 5 + d.day - 1
  era * 146097 + yearOfEra * 365 + yearOfEra / 4 - yearOfEra / 100 + dayOfYear - 719468

def ofDays (days : Int) : Date :=
  let shifted := days + 719468
  let era := Int.fdiv shifted 146097
  let dayOfEra := (shifted - era * 146097).toNat
  let yearOfEra := (dayOfEra - dayOfEra / 1460 + dayOfEra / 36524 - dayOfEra / 146096) / 365
  let dayOfYear := dayOfEra - (365 * yearOfEra + yearOfEra / 4 - yearOfEra / 100)
  let marchMonth := (5 * dayOfYear + 2) / 153
  let month := if marchMonth < 10 then marchMonth + 3 else marchMonth - 9
  ⟨yearOfEra + era * 400 + (if month ≤ 2 then 1 else 0), month,
    dayOfYear - (153 * marchMonth + 2) / 5 + 1⟩

end Date

namespace DateTime

def secondsAt (date : Date) (secondOfDay : Nat) : Int := date.toDays * 86400 + secondOfDay

def date (t : DateTime) : Date := Date.ofDays (Int.fdiv t.seconds 86400)

def secondOfDay (t : DateTime) : Nat := (Int.fmod t.seconds 86400).toNat

def padded (width n : Nat) : String :=
  let digits := toString n
  "".pushn '0' (width - digits.length) ++ digits

def yearText (year : Int) : String :=
  if 0 ≤ year ∧ year ≤ 9999 then padded 4 year.toNat
  else (if year < 0 then "-" else "+") ++ padded 4 year.natAbs

def fractionText (nanos : Nat) : String :=
  if nanos = 0 then ""
  else if nanos % 1000000 = 0 then "." ++ padded 3 (nanos / 1000000)
  else if nanos % 1000 = 0 then "." ++ padded 6 (nanos / 1000)
  else "." ++ padded 9 nanos

def text (zone : String) (t : DateTime) : String :=
  let date := t.date
  let leap := t.nanos / 1000000000
  yearText date.year ++ "-" ++ padded 2 date.month ++ "-" ++ padded 2 date.day ++ "T" ++
    padded 2 (t.secondOfDay / 3600) ++ ":" ++ padded 2 (t.secondOfDay / 60 % 60) ++ ":" ++
    padded 2 (t.secondOfDay % 60 + leap) ++ fractionText (t.nanos % 1000000000) ++ zone

def offsetText (t : DateTime) : String := t.text "+00:00"

def zuluText (t : DateTime) : String := t.text "Z"

open Text

inductive Fault
  | tooShort | invalid | outOfRange | trailing | impossible
  deriving Repr, DecidableEq

def Fault.message : Fault → String
  | tooShort => "premature end of input"
  | invalid => "input contains invalid characters"
  | outOfRange => "input is out of range"
  | trailing => "trailing input"
  | impossible => "no possible date and time matching input"

abbrev Reader (α : Type) := List Char → Except Fault (α × List Char)

/-- At least one digit and at most `width` of them; the number has to fit 63 bits. -/
def number (width : Option Nat) : Reader Nat := fun cs =>
  match cs with
  | [] => .error .tooShort
  | c :: _ =>
    if !isDigit c then .error .invalid
    else
      let digits := match width with
        | some w => (cs.take w).takeWhile isDigit
        | none => cs.takeWhile isDigit
      let n := decimalValue digits
      if 0x8000000000000000 ≤ n then .error .outOfRange else .ok (n, cs.drop digits.length)

def field (least greatest : Nat) : Reader Nat := fun cs => do
  let (n, cs) ← number (some 2) (dropBlank cs)
  if least ≤ n ∧ n ≤ greatest then .ok (n, cs) else .error .outOfRange

def year : Reader Int := fun cs => do
  let (y, cs) ← match dropBlank cs with
    | '-' :: rest => do
      let (n, rest) ← number none rest
      pure (-(n : Int), rest)
    | '+' :: rest => do
      let (n, rest) ← number none rest
      pure ((n : Int), rest)
    | rest => do
      let (n, rest) ← number (some 4) rest
      pure ((n : Int), rest)
  if -0x80000000 ≤ y ∧ y < 0x80000000 then .ok (y, cs) else .error .outOfRange

def separator (c : Char) : Reader Unit := fun cs =>
  match dropBlank cs with
  | [] => .error .tooShort
  | d :: rest => if d = c then .ok ((), dropBlank rest) else .error .invalid

def dateEnd : Reader Unit := fun cs =>
  match cs with
  | [] => .error .tooShort
  | c :: rest => if c = 't' ∨ c = 'T' ∨ c = ' ' then .ok ((), rest) else .error .invalid

def fraction : Reader Nat := fun cs =>
  match cs with
  | '.' :: rest => do
    let (n, after) ← number (some 9) rest
    .ok (n * Nat.pow 10 (9 - (rest.length - after.length)), after.dropWhile isDigit)
  | _ => .ok (0, cs)

/-- The first two characters; a single one of several bytes is invalid rather than too short. -/
def twoDigits (cs : List Char) : Except Fault (Char × Char) :=
  match cs with
  | a :: b :: _ => .ok (a, b)
  | [a] => if a.utf8Size < 2 then .error .tooShort else .ok (a, a)
  | [] => .error .tooShort

def signedOffset (negative : Bool) : Reader Int := fun cs => do
  let (h, h') ← twoDigits cs
  if !(isDigit h && isDigit h') then .error .invalid
  else
    let rest := (cs.drop 2).dropWhile fun c => c == ':' || isBlank c
    let (m, m') ← twoDigits rest
    if !(isDigit m && isDigit m') then .error .invalid
    else if 5 < digitValue m then .error .outOfRange
    else
      let seconds := decimalValue [h, h'] * 3600 + decimalValue [m, m'] * 60
      .ok (if negative then -(seconds : Int) else seconds, rest.drop 2)

def offset : Reader Int := fun cs =>
  match cs with
  | [] => .error .tooShort
  | 'Z' :: rest | 'z' :: rest => .ok (0, rest)
  | '+' :: rest => signedOffset false rest
  | '-' :: rest | '\u2212' :: rest => signedOffset true rest
  | u :: t :: c :: rest =>
    if u.toUpper = 'U' ∧ t.toUpper = 'T' ∧ c.toUpper = 'C' then .ok (0, rest) else .error .invalid
  | _ => .error .invalid

def leastYear : Int := -262143
def greatestYear : Int := 262142

/-- Puts the fields together. A 60th second is the leap second after the 59th. -/
def assemble (date : Date) (hour minute second nanos : Nat) (offset : Int) : Except Fault DateTime :=
  if date.year < leastYear ∨ greatestYear < date.year ∨
      Date.daysInMonth date.year date.month < date.day ∨ 86400 ≤ offset.natAbs then
    .error .outOfRange
  else
    let leap := second / 60
    let secondOfDay := hour * 3600 + minute * 60 + (second - leap)
    let t : DateTime := ⟨secondsAt date secondOfDay - offset, nanos + leap * 1000000000⟩
    if t.date.year < leastYear ∨ greatestYear < t.date.year then .error .impossible else .ok t

def parseChars (cs : List Char) : Except Fault DateTime := do
  let (y, cs) ← year cs
  let (_, cs) ← separator '-' cs
  let (mo, cs) ← field 1 12 cs
  let (_, cs) ← separator '-' cs
  let (d, cs) ← field 1 31 cs
  let (_, cs) ← dateEnd cs
  let (h, cs) ← field 0 23 cs
  let (_, cs) ← separator ':' cs
  let (mi, cs) ← field 0 59 cs
  let (_, cs) ← separator ':' cs
  let (s, cs) ← field 0 60 cs
  let (n, cs) ← fraction cs
  let (o, cs) ← offset (dropBlank cs)
  if (dropBlank cs).isEmpty then assemble ⟨y, mo, d⟩ h mi s n o else .error .trailing

def parse (text : String) : Except Fault DateTime := parseChars text.toList

end DateTime

end Catalogue
