import Catalogue.Path
import Catalogue.Text.Encoding
import Catalogue.Url.Domain.Label

namespace Catalogue.Url

inductive Fault
  | relative | emptyHost | invalidPort | invalidIpv4 | invalidIpv6 | invalidDomain
  | invalidDomainCharacter
  deriving Repr, DecidableEq

def Fault.message : Fault → String
  | relative => "relative URL without a base"
  | emptyHost => "empty host"
  | invalidPort => "invalid port number"
  | invalidIpv4 => "invalid IPv4 address"
  | invalidIpv6 => "invalid IPv6 address"
  | invalidDomain => "invalid international domain name"
  | invalidDomainCharacter => "invalid domain character"

namespace Domain

def isForbidden (c : Char) : Bool :=
  c.toNat ≤ 0x20 || c.toNat == 0x7F ||
    ['%', '#', '/', ':', '<', '>', '?', '@', '[', '\\', ']', '^', '|'].contains c

/-- The domain in ASCII, if the text spells one. -/
def toAscii? (cs : List Char) : Option (List Char) := do
  let labels := cutAt '.' (normalize cs)
  if labels.any fun label => label.any isForbidden then none
  else
    let labels ← labels.mapM labelChars?
    if labels.any isRightToLeft && !labels.all directionsFit then none
    else pure (['.'].intercalate (labels.map labelAscii))

end Domain

inductive Host
  | domain (name : String)
  | ipv4 (address : Nat)
  | ipv6 (pieces : List Nat)
  deriving Repr, DecidableEq

namespace Ipv4

/-- A number in decimal, in octal after `0`, or in hexadecimal after `0x`. -/
def number? (cs : List Char) : Option Nat :=
  let read (base : Nat) (isDigit : Char → Bool) (ds : List Char) : Option Nat :=
    if ds.all isDigit then some (ds.foldl (fun n c => base * n + (Text.hexValue? c).getD 0) 0)
    else none
  match cs with
  | [] => none
  | '0' :: 'x' :: ds | '0' :: 'X' :: ds => read 16 (fun c => (Text.hexValue? c).isSome) ds
  | '0' :: d :: ds => read 8 (fun c => '0' ≤ c && c ≤ '7') (d :: ds)
  | ds => read 10 Text.isDigit ds

/-- Whether a domain has to be an address: its last part, before a final dot, is a number. -/
def endsInNumber (cs : List Char) : Bool :=
  let isNumber (part : List Char) :=
    (!part.isEmpty && part.all Text.isDigit) || (number? part).isSome
  match (cutAt '.' cs).reverse with
  | [] => false
  | [] :: part :: _ => isNumber part
  | part :: _ => isNumber part

def parse (cs : List Char) : Except Fault Nat :=
  let parts := match (cutAt '.' cs).reverse with
    | [] :: rest => rest
    | parts => parts
  match (parts.mapM number?).map fun ns => (ns.head?, ns.tail) with
  | some (some last, before) =>
    let n := before.length
    if 3 < n || before.any (255 < ·) || Nat.pow 256 (4 - n) ≤ last then .error .invalidIpv4
    else .ok (before.reverse.foldl (fun a b => 256 * a + b) 0 * Nat.pow 256 (4 - n) + last)
  | _ => .error .invalidIpv4

def text (address : Nat) : String :=
  ".".intercalate ([3, 2, 1, 0].map fun i => toString (address / Nat.pow 256 i % 256))

end Ipv4

namespace Ipv6

structure Progress where
  pieces : List Nat
  gap : Option Nat

def Progress.count (p : Progress) : Nat := p.pieces.length + (if p.gap.isSome then 1 else 0)

def piece (cs : List Char) : Nat × List Char :=
  let digits := (cs.take 4).takeWhile fun c => (Text.hexValue? c).isSome
  (digits.foldl (fun n c => 16 * n + (Text.hexValue? c).getD 0) 0, cs.drop digits.length)

def byte? (cs : List Char) : Option Nat :=
  let n := Text.decimalValue cs
  if cs.isEmpty || !cs.all Text.isDigit || (1 < cs.length && cs.head? == some '0') || 255 < n then
    none
  else some n

def dotted? (cs : List Char) : Option (List Nat) := do
  match ← (cutAt '.' cs).mapM byte? with
  | [a, b, c, d] => some [256 * a + b, 256 * c + d]
  | _ => none

/-- Reads pieces from a place where one may begin. Every round takes a character at least. -/
def readPieces : Nat → Progress → List Char → Option Progress
  | _, p, [] => some p
  | 0, _, _ :: _ => none
  | fuel + 1, p, c :: cs =>
    if p.count == 8 then none
    else if c = ':' then
      if p.gap.isSome then none
      else readPieces fuel { p with gap := some p.pieces.length } cs
    else
      let (n, rest) := piece (c :: cs)
      let next := { p with pieces := p.pieces ++ [n] }
      match rest with
      | [] => some next
      | '.' :: _ =>
        if 6 < p.count || rest.length == cs.length + 1 then none
        else (dotted? (c :: cs)).map fun two => { p with pieces := p.pieces ++ two }
      | [':'] => none
      | ':' :: rest => readPieces fuel next rest
      | _ => none

def fill (p : Progress) : Option (List Nat) :=
  match p.gap with
  | none => if p.pieces.length == 8 then some p.pieces else none
  | some n =>
    some (p.pieces.take n ++ List.replicate (8 - p.pieces.length) 0 ++ p.pieces.drop n)

def parse (cs : List Char) : Except Fault (List Nat) :=
  let read := match cs with
    | ':' :: ':' :: rest => readPieces rest.length ⟨[], some 0⟩ rest
    | ':' :: _ | [] | [_] => none
    | cs => readPieces cs.length ⟨[], none⟩ cs
  match read.bind fill with
  | some pieces => .ok pieces
  | none => .error .invalidIpv6

def zeroRuns : List Nat → List Nat
  | [] => []
  | n :: ns =>
    let runs := zeroRuns ns
    (if n = 0 then runs.headD 0 + 1 else 0) :: runs

def hexText (n : Nat) : String := String.ofList (Nat.toDigits 16 n)

/-- The pieces in hexadecimal; the first longest run of at least two zeros is left out. -/
def text (pieces : List Nat) : String :=
  let runs := zeroRuns pieces
  let longest := runs.foldl max 0
  let shown (ns : List Nat) := ":".intercalate (ns.map hexText)
  let start := runs.takeWhile (· ≠ longest) |>.length
  if longest < 2 then shown pieces
  else shown (pieces.take start) ++ "::" ++ shown (pieces.drop (start + longest))

end Ipv6

namespace Host

def text : Host → String
  | domain name => name
  | ipv4 address => Ipv4.text address
  | ipv6 pieces => "[" ++ Ipv6.text pieces ++ "]"

def bracketed? (cs : List Char) : Option (Except Fault Host) :=
  match cs with
  | '[' :: rest =>
    if rest.getLast? = some ']' then some (ipv6 <$> Ipv6.parse rest.dropLast)
    else some (.error .invalidIpv6)
  | _ => none

def parse (cs : List Char) : Except Fault Host :=
  match bracketed? cs with
  | some r => r
  | none =>
    match (Text.Utf8.decode? (Text.Percent.decode cs)).bind Domain.toAscii? with
    | none => .error .invalidDomain
    | some [] => .error .emptyHost
    | some name =>
      if Ipv4.endsInNumber name then ipv4 <$> Ipv4.parse name
      else .ok (domain (String.ofList name))

def isForbidden (c : Char) : Bool :=
  ['\x00', '\t', '\n', '\r', ' ', '#', '/', ':', '<', '>', '?', '@', '[', '\\', ']', '^', '|'].contains c

def parseOther (cs : List Char) : Except Fault Host :=
  match bracketed? cs with
  | some r => r
  | none =>
    if cs.any isForbidden then .error .invalidDomainCharacter
    else .ok (domain (String.ofList
      (Text.Percent.encode (fun c => c.toNat < 0x20 || c.toNat == 0x7F) cs)))

end Host

end Catalogue.Url
