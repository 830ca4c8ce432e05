import Catalogue.Path
import Catalogue.Text.Encoding

namespace Catalogue.Url

open Text

/-- Either a text that is not divided, or segments with a slash before each. -/
inductive UrlPath
  | undivided (text : String)
  | segments (names : List String)
  deriving Repr, DecidableEq

def UrlPath.text : UrlPath → String
  | undivided text => text
  | segments names => String.join (names.map ("/" ++ ·))

def isControl (c : Char) : Bool := c.toNat < 0x20 || c.toNat == 0x7F

def escapesFragment (c : Char) : Bool :=
  isControl c || c == ' ' || c == '"' || c == '<' || c == '>' || c == '`'

def escapesPath (c : Char) : Bool :=
  escapesFragment c || c == '#' || c == '?' || c == '\x7b' || c == '\x7d'

def escaped (escapes : Char → Bool) (cs : List Char) : String :=
  String.ofList (Percent.encode escapes cs)

def isBreak (c : Char) : Bool := c == '\t' || c == '\n' || c == '\r'

def withoutBreaks (cs : List Char) : List Char := cs.filter (!isBreak ·)

def isDriveLetter (cs : List Char) : Bool :=
  match cs with
  | [c, d] => c.isAlpha && (d == ':' || d == '|')
  | _ => false

/-- A drive and what follows it in a segment, if a break comes between the two. -/
def cutAfterDrive? (piece : List Char) : Option (List Char × List Char) :=
  match withoutBreaks piece with
  | c :: ':' :: d :: rest =>
    if c.isAlpha && (piece.dropWhile (· ≠ ':')).tail.head?.any isBreak then
      some ([c, ':'], d :: rest)
    else none
  | _ => none

def plainDots : List Char → List Char
  | '%' :: '2' :: 'e' :: rest | '%' :: '2' :: 'E' :: rest => '.' :: plainDots rest
  | c :: rest => c :: plainDots rest
  | [] => []

def leave : List String → List String
  | [] => []
  | name :: above => if isDriveLetter name.toList then name :: above else above

structure Segments where
  names : List String
  hasDrive : Bool

/-- The segments after those `above`, which are in reverse. A break after a drive that comes first
ends the segment of the drive, and what follows the break is kept as it is. -/
def segmentsFrom (file : Bool) (above : List String) (hasDrive : Bool) :
    List (List Char) → Segments
  | [] => ⟨above.reverse, hasDrive⟩
  | piece :: pieces =>
    let ended (above : List String) := if pieces.isEmpty then "" :: above else above
    let plain := withoutBreaks piece
    match plainDots plain with
    | ['.', '.'] => segmentsFrom file (ended (leave above)) hasDrive pieces
    | ['.'] => segmentsFrom file (ended above) hasDrive pieces
    | _ =>
      if file && above.isEmpty then
        if isDriveLetter plain then
          segmentsFrom file [String.ofList (plain.take 1 ++ [':'])] true pieces
        else match cutAfterDrive? piece with
          | some (drive, rest) =>
            segmentsFrom file [escaped escapesPath rest, String.ofList drive] hasDrive pieces
          | none => segmentsFrom file [escaped escapesPath plain] hasDrive pieces
      else segmentsFrom file (escaped escapesPath plain :: above) hasDrive pieces

/-- The path with one more slash, read anew. An undivided path stays undivided, so a slash at its
very start is escaped. -/
def UrlPath.withSlash (file : Bool) : UrlPath → UrlPath
  | undivided text => undivided (if text.isEmpty then "%2F" else text ++ "/")
  | segments names => segments (segmentsFrom file [] false (names.map String.toList ++ [[]])).names

end Catalogue.Url
