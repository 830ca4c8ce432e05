import Catalogue.Json.Value
import Catalogue.Text.Encoding

namespace Catalogue.Json

inductive Token
  | openArray | closeArray | openObject | closeObject | comma | colon
  | null
  | bool (b : Bool)
  | number (value : Option Number)
  | text (value : Option String)
  | broken

/-! ## Strings -/

/-- What stands in a string: a character as it is or after a backslash, a part that is no character,
or an escaped code unit of UTF-16. -/
inductive Piece
  | char (c : Char)
  | broken
  | unit (n : Nat)

def surrogatePair (high low : Nat) : Char :=
  Char.ofNat ((high - 0xD800) * 0x400 + (low - 0xDC00) + 0x10000)

/-- The characters of a string; none if a part is no character or a surrogate has no partner. -/
def joinPieces : List Piece → Option (List Char)
  | [] => some []
  | .char c :: rest => (c :: ·) <$> joinPieces rest
  | .broken :: _ => none
  | .unit high :: .unit low :: rest =>
    if 0xD800 ≤ high ∧ high ≤ 0xDBFF then
      if 0xDC00 ≤ low ∧ low ≤ 0xDFFF then (surrogatePair high low :: ·) <$> joinPieces rest
      else none
    else if 0xDC00 ≤ high ∧ high ≤ 0xDFFF then none
    else (Char.ofNat high :: ·) <$> joinPieces (.unit low :: rest)
  | .unit n :: rest =>
    if 0xD800 ≤ n ∧ n ≤ 0xDFFF then none else (Char.ofNat n :: ·) <$> joinPieces rest

def escaped? : Char → Option Char
  | '"' => some '"'
  | '\\' => some '\\'
  | '/' => some '/'
  | 'b' => some '\x08'
  | 'f' => some '\x0c'
  | 'n' => some '\n'
  | 'r' => some '\r'
  | 't' => some '\t'
  | _ => none

/-! ## Numbers -/

def isNumberChar (c : Char) : Bool :=
  Text.isDigit c || c == '-' || c == '+' || c == '.' || c == 'e' || c == 'E'

def digitsOf (cs : List Char) : List Nat × List Char :=
  ((cs.takeWhile Text.isDigit).map Text.digitValue, cs.dropWhile Text.isDigit)

def spelling? (cs : List Char) : Option (Number.Spelling × List Char) := do
  let (negative, cs) := match cs with
    | '-' :: rest => (true, rest)
    | _ => (false, cs)
  let (whole, cs) := digitsOf cs
  if whole.isEmpty || (whole.head? == some 0 && 1 < whole.length) then none
  let (fraction, cs) ← match cs with
    | '.' :: rest =>
      let (ds, rest) := digitsOf rest
      if ds.isEmpty then none else some (some ds, rest)
    | _ => some (none, cs)
  let (exponent, cs) ←
    if cs.head? = some 'e' ∨ cs.head? = some 'E' then
      let (below, rest) := match cs.tail with
        | '-' :: rest => (true, rest)
        | '+' :: rest => (false, rest)
        | rest => (false, rest)
      let (ds, rest) := digitsOf rest
      if ds.isEmpty then none else some (some (below, ds), rest)
    else some (none, cs)
  some (⟨negative, whole, fraction, exponent⟩, cs)

def numberTokens (run : List Char) : List Token :=
  match spelling? run with
  | some (s, []) => [.number (Number.ofSpelling s)]
  | some (s, _ :: _) => [.number (Number.ofSpelling s), .broken]
  | none => [.broken]

/-! ## Texts -/

/-- What the characters read so far have begun; lists are in reverse. -/
inductive Scan
  | idle
  | literal (rest : List Char) (token : Token)
  | text (pieces : List Piece)
  | escape (pieces : List Piece)
  | code (pieces : List Piece) (missing bits : Nat)
  | number (run : List Char)

def scanIdle (c : Char) : List Token × Option Scan :=
  match c with
  | ' ' | '\n' | '\t' | '\r' => ([], some .idle)
  | '[' => ([.openArray], some .idle)
  | ']' => ([.closeArray], some .idle)
  | '\x7b' => ([.openObject], some .idle)
  | '\x7d' => ([.closeObject], some .idle)
  | ',' => ([.comma], some .idle)
  | ':' => ([.colon], some .idle)
  | '"' => ([], some (.text []))
  | 'n' => ([], some (.literal ['u', 'l', 'l'] .null))
  | 't' => ([], some (.literal ['r', 'u', 'e'] (.bool true)))
  | 'f' => ([], some (.literal ['a', 'l', 's', 'e'] (.bool false)))
  | c => if Text.isDigit c || c == '-' then ([], some (.number [c])) else ([.broken], none)

def scanText (pieces : List Piece) (c : Option Char) : List Token × Option Scan :=
  match c with
  | none => ([], some (.text (.broken :: pieces)))
  | some '"' => ([.text ((joinPieces pieces.reverse).map String.ofList)], some .idle)
  | some '\\' => ([], some (.escape pieces))
  | some c => if c.toNat < 0x20 then ([.broken], none) else ([], some (.text (.char c :: pieces)))

def scan (s : Scan) (c : Option Char) : List Token × Option Scan :=
  match s, c with
  | .text pieces, c => scanText pieces c
  | .number run, none => (numberTokens run.reverse ++ [.broken], none)
  | _, none => ([.broken], none)
  | .idle, some c => scanIdle c
  | .literal [] _, some _ => ([.broken], none)
  | .literal (e :: rest) token, some c =>
    if c = e then
      match rest with
      | [] => ([token], some .idle)
      | _ => ([], some (.literal rest token))
    else ([.broken], none)
  | .escape pieces, some c =>
    if c = 'u' then ([], some (.code pieces 4 0))
    else match escaped? c with
      | some e => ([], some (.text (.char e :: pieces)))
      | none => ([.broken], none)
  | .code pieces missing bits, some c =>
    match Text.hexValue? c with
    | none => ([.broken], none)
    | some d =>
      if missing ≤ 1 then ([], some (.text (.unit (bits * 16 + d) :: pieces)))
      else ([], some (.code pieces (missing - 1) (bits * 16 + d)))
  | .number run, some c =>
    if isNumberChar c then ([], some (.number (c :: run)))
    else
      let (tokens, next) := scanIdle c
      (numberTokens run.reverse ++ tokens, next)

def scanEnd : Scan → List Token
  | .idle => []
  | .number run => numberTokens run.reverse
  | _ => [.broken]

def tokensFrom (s : Scan) : List (Option Char) → List Token
  | [] => scanEnd s
  | c :: cs =>
    match scan s c with
    | (tokens, some next) => tokens ++ tokensFrom next cs
    | (tokens, none) => tokens

def tokens (source : List (Option Char)) : List Token := tokensFrom .idle source

end Catalogue.Json
