import Catalogue.Text.Encoding
import Catalogue.Text.Normal
import Catalogue.Url.Domain.Class
import Catalogue.Url.Domain.Mapping
import Catalogue.Url.Domain.Valid

namespace Catalogue.Url

namespace Punycode

def digitChar (d : Nat) : Char := Char.ofNat (if d < 26 then 0x61 + d else 0x30 + (d - 26))

def digitValue? (c : Char) : Option Nat :=
  if 'a' ≤ c ∧ c ≤ 'z' then some (c.toNat - 0x61)
  else if 'A' ≤ c ∧ c ≤ 'Z' then some (c.toNat - 0x41)
  else if Text.isDigit c then some (Text.digitValue c + 26)
  else none

/-- The least value of a digit that is not the last, at the digit position `k`. -/
def threshold (k bias : Nat) : Nat := min 26 (max 1 (k - bias))

/-- Shrinks a difference until it fits one digit and counts the positions gained. -/
def shrink (delta k : Nat) : Nat × Nat :=
  if h : 455 < delta then shrink (delta / 35) (k + 36) else (delta, k)
termination_by delta
decreasing_by exact Nat.div_lt_self (by omega) (by omega)

def adapt (delta count : Nat) (first : Bool) : Nat :=
  let halved := if first then delta / 700 else delta / 2
  let (rest, k) := shrink (halved + halved / count) 0
  k + 36 * rest / (rest + 38)

def writeDigits (bias k q : Nat) : List Char :=
  let t := threshold k bias
  if h : q < t then [digitChar q]
  else
    digitChar (t + (q - t) % (36 - t)) :: writeDigits bias (k + 36) ((q - t) / (36 - t))
termination_by q
decreasing_by
  have h1 : 1 ≤ threshold k bias := by unfold threshold; omega
  have h2 : threshold k bias ≤ 26 := by unfold threshold; omega
  have h3 : (q - threshold k bias) / (36 - threshold k bias) ≤ q - threshold k bias :=
    Nat.div_le_self _ _
  simp only [t] at h ⊢
  omega

structure State where
  point : Nat
  delta : Nat
  bias : Nat
  handled : Nat

def writePoint (basic point : Nat) : State → List Nat → List Char × State
  | s, [] => ([], s)
  | s, c :: cs =>
    if c < point then writePoint basic point { s with delta := s.delta + 1 } cs
    else if c = point then
      let digits := writeDigits s.bias 36 s.delta
      let bias := adapt s.delta (s.handled + 1) (s.handled == basic)
      let (more, s) := writePoint basic point { s with delta := 0, bias := bias, handled := s.handled + 1 } cs
      (digits ++ more, s)
    else writePoint basic point s cs

def writePoints (basic : Nat) (cs : List Nat) : State → List Nat → List Char
  | _, [] => []
  | s, point :: points =>
    let s := { s with delta := s.delta + (point - s.point) * (s.handled + 1), point := point }
    let (digits, s) := writePoint basic point s cs
    digits ++ writePoints basic cs { s with delta := s.delta + 1, point := point + 1 } points

def distinct (ns : List Nat) : List Nat :=
  (ns.mergeSort (· ≤ ·)).foldr (fun n acc => if acc.head? == some n then acc else n :: acc) []

def encode (cs : List Char) : List Char :=
  let points := cs.map Char.toNat
  let basic := cs.filter (·.toNat < 0x80)
  (if basic.isEmpty then [] else basic ++ ['-']) ++
    writePoints basic.length points ⟨0x80, 0, 72, basic.length⟩ (distinct (points.filter (0x80 ≤ ·)))

/-- Reads a difference of variable length; `w` is the weight of the next digit. -/
def readDigits (bias : Nat) : (k w i : Nat) → List Char → Option (Nat × List Char)
  | _, _, _, [] => none
  | k, w, i, c :: cs =>
    match digitValue? c with
    | none => none
    | some d =>
      let i := i + d * w
      let t := threshold k bias
      if 0x100000000 ≤ i then none
      else if d < t then some (i, cs)
      else readDigits bias (k + 36) (w * (36 - t)) i cs

def insertAt (cs : List Char) (i : Nat) (c : Char) : List Char := cs.take i ++ c :: cs.drop i

def readPoints : Nat → (point i bias : Nat) → List Char → List Char → Option (List Char)
  | _, _, _, _, out, [] => some out
  | 0, _, _, _, _, _ :: _ => none
  | fuel + 1, point, i, bias, out, cs =>
    match readDigits bias 36 1 i cs with
    | none => none
    | some (j, rest) =>
      let count := out.length + 1
      let point := point + j / count
      if 0x10FFFF < point ∨ (0xD800 ≤ point ∧ point ≤ 0xDFFF) then none
      else
        readPoints fuel point (j % count + 1) (adapt (j - i) count (i == 0))
          (insertAt out (j % count) (Char.ofNat point)) rest

def cutLastHyphen (cs : List Char) : List Char × List Char :=
  let after := (cs.reverse.takeWhile (· ≠ '-')).reverse
  if cs.length ≤ after.length + 1 then ([], cs)
  else (cs.take (cs.length - after.length - 1), after)

def decode (cs : List Char) : Option (List Char) :=
  let (basic, extended) := cutLastHyphen cs
  if basic.all (·.toNat < 0x80) then readPoints extended.length 0x80 0 72 basic extended else none

end Punycode

namespace Domain

def isAscii (cs : List Char) : Bool := cs.all (·.toNat < 0x80)

def normalize (cs : List Char) : List Char :=
  if isAscii cs then cs.map Char.toLower else Text.Normal.compose (cs.flatMap mapChar)

def viramaClass : Nat := 9

/-- Whether the joiners of a label stand where they have an effect; `before` is what precedes, in
reverse. A joiner stands behind a virama; one that forbids joining may also stand between
characters that would join. -/
def joinersFit : (before : List Char) → List Char → Bool
  | _, [] => true
  | before, c :: cs =>
    let afterVirama := (before.head?.map Text.Normal.combiningClass) == some viramaClass
    let skip (cs : List Char) := cs.dropWhile isTransparent
    let between := (skip before).head?.any joinsNextRuns.holds && (skip cs).head?.any joinsLastRuns.holds
    (if c = '\u200d' then afterVirama
      else if c = '\u200c' then afterVirama || between
      else true) && joinersFit (c :: before) cs

def directionsFit (cs : List Char) : Bool :=
  let ds := cs.map direction
  let last := (ds.reverse.dropWhile (· = .mark)).head?
  match ds with
  | [] => true
  | .left :: _ =>
    ds.all (fun d => d ≠ .right && d ≠ .arabicNumber) && (last == some .left || last == some .number)
  | .right :: _ =>
    ds.all (· ≠ .left) && !(ds.contains .number && ds.contains .arabicNumber) &&
      (last == some .right || last == some .number || last == some .arabicNumber)
  | _ => false

def isRightToLeft (cs : List Char) : Bool :=
  cs.any fun c => direction c == .right || direction c == .arabicNumber

def sizeLimit : Nat := 1000

def punycodeLimit : Nat := 2000

def isAllowed (label : List Char) : Bool :=
  label.length ≤ sizeLimit && label.all isValid && !label.head?.any isMark && joinersFit [] label

def punycodeMark : List Char := ['x', 'n', '-', '-']

/-- The characters that a label stands for. One in punycode has to hold characters that need it, in
the form that they are mapped to. -/
def labelChars? (label : List Char) : Option (List Char) :=
  if punycodeMark.isPrefixOf label then
    let body := label.drop punycodeMark.length
    if !isAscii label || punycodeLimit < body.length then none
    else match Punycode.decode body with
      | some cs => if !isAscii cs && normalize cs = cs && isAllowed cs then some cs else none
      | none => none
  else if isAscii label || isAllowed label then some label
  else none

def labelAscii (cs : List Char) : List Char :=
  if isAscii cs then cs else punycodeMark ++ Punycode.encode cs

end Domain

end Catalogue.Url
