import Catalogue.Decimal
import Catalogue.Entries
import Catalogue.Path

namespace Catalogue

inductive Setting
  | bool (b : Bool)
  | signed (n : Int)
  | unsigned (n : Nat)
  | float (x : Float)
  | letter (c : Char)
  | text (s : String)
  | list (items : List Setting)
  | table (entries : List (String × Setting))
  deriving Inhabited

abbrev Layer := Entries Setting

namespace Layer

/-- A layer of entries of which the last of one name counts. -/
def ofEntries (entries : List (String × Setting)) : Layer :=
  entries.foldl (fun layer (key, s) => layer.put key s) []

mutual

def mergeEntry (lower : Layer) : String × Setting → Layer
  | (key, .table entries) =>
    match lower.lookup key with
    | some (.table under) => lower.put key (.table (mergeEntries under entries))
    | _ => lower.put key (.table entries)
  | (key, s) => lower.put key s

def mergeEntries (lower : Layer) : List (String × Setting) → Layer
  | [] => lower
  | entry :: entries => mergeEntries (mergeEntry lower entry) entries

end

/-- The second layer over the first: what it sets wins. -/
def merge (lower upper : Layer) : Layer := mergeEntries lower upper

def nested (s : Setting) : List String → Setting
  | [] => s
  | key :: path => .table [(key, nested s path)]

def first? (layer : Layer) : Option (String × Setting) :=
  layer.foldl (fun least entry =>
    match least with
    | none => some entry
    | some old => if entry.1 < old.1 then some entry else some old) none

end Layer

namespace Variable

open Text

abbrev Reader (α : Type) := List Char → Option (α × List Char)

def isGap (c : Char) : Bool := c == ' ' || c == '\t' || c == '\n' || c == '\x0c' || c == '\r'

def skipGap (cs : List Char) : List Char := cs.dropWhile isGap

def isDelimiter (c : Char) : Bool :=
  c == ',' || c == '\x7b' || c == '\x7d' || c == '[' || c == ']'

def isKeyChar (c : Char) : Bool := c.isAlphanum || c == '_' || c == '-'

def hexChar? (digits : List Char) : Option Char := do
  let values ← digits.mapM hexValue?
  let n := values.foldl (fun n d => 16 * n + d) 0
  if h : n.isValidChar then some (Char.ofNatAux n h) else none

def unescape : List Char → Option (List Char)
  | [] => some []
  | '\\' :: 'u' :: a :: b :: c :: d :: rest => do
    let x ← hexChar? [a, b, c, d]
    (x :: ·) <$> unescape rest
  | '\\' :: 'U' :: a :: b :: c :: d :: e :: f :: g :: h :: rest => do
    let x ← hexChar? [a, b, c, d, e, f, g, h]
    (x :: ·) <$> unescape rest
  | '\\' :: c :: rest => do
    let x ← match c with
      | '"' => some '"'
      | '\\' => some '\\'
      | 'b' => some '\x08'
      | 'f' => some '\x0c'
      | 'n' => some '\n'
      | 'r' => some '\r'
      | 't' => some '\t'
      | _ => none
    (x :: ·) <$> unescape rest
  | c :: rest =>
    if c = '\\' || (c.toNat < 0x20 && c ≠ '\t') || c.toNat = 0x7F then none
    else (c :: ·) <$> unescape rest

def cutQuote : Reader (List Char)
  | [] => none
  | '"' :: rest => some ([], rest)
  | '\\' :: c :: rest => (cutQuote rest).map fun (body, after) => ('\\' :: c :: body, after)
  | c :: rest => (cutQuote rest).map fun (body, after) => (c :: body, after)

def quoted (cs : List Char) : Option (String × List Char) := do
  let (body, rest) ← cutQuote cs
  let body ← unescape body
  pure (String.ofList body, rest)

def unsigned? (cs : List Char) : Option Nat :=
  let digits := if cs.head? = some '+' then cs.tail else cs
  if digits.isEmpty || !digits.all isDigit || 0x10000000000000000 ≤ decimalValue digits then none
  else some (decimalValue digits)

def negative? (cs : List Char) : Option Int :=
  let digits := cs.tail
  if cs.head? ≠ some '-' || digits.isEmpty || !digits.all isDigit ||
      0x8000000000000000 < decimalValue digits then none
  else some (-(decimalValue digits : Int))

def sign (cs : List Char) : Bool × List Char :=
  match cs with
  | '-' :: rest => (true, rest)
  | '+' :: rest => (false, rest)
  | _ => (false, cs)

def float? (cs : List Char) : Option Float := do
  let (negative, cs) := sign cs
  let whole := cs.takeWhile isDigit
  let .cons '.' rest := cs.dropWhile isDigit | none
  let fraction := rest.takeWhile isDigit
  if whole.isEmpty && fraction.isEmpty then none
  else match rest.dropWhile isDigit with
    | [] => some (Decimal.ofParts negative whole fraction 0)
    | e :: rest =>
      let (below, digits) := sign rest
      if (e == 'e' || e == 'E') && !digits.isEmpty && digits.all isDigit then
        let exponent : Int := decimalValue digits
        some (Decimal.ofParts negative whole fraction (if below then -exponent else exponent))
      else none

def plain (cs : List Char) : Setting :=
  let cs := trim cs
  match if cs.contains '.' then float? cs else none, unsigned? cs, negative? cs with
  | some x, _, _ => .float x
  | _, some n, _ => .unsigned n
  | _, _, some n => .signed n
  | _, _, _ => .text (String.ofList cs)

def key (cs : List Char) : Option (String × List Char) :=
  match skipGap cs with
  | '"' :: rest => quoted rest
  | cs =>
    let name := cs.takeWhile isKeyChar
    if name.isEmpty then none else some (String.ofList name, cs.dropWhile isKeyChar)

def separated (close : Char) (cs : List Char) : Option (Bool × List Char) :=
  match cs with
  | ',' :: rest => some (true, rest)
  | c :: rest => if c = close then some (false, rest) else none
  | [] => none

mutual

/-- A value with the gaps around it. The number bounds how deep and how long lists may be. -/
def value : Nat → Reader Setting
  | 0, _ => none
  | fuel + 1, cs => do
    let (s, rest) ← match skipGap cs with
      | 't' :: 'r' :: 'u' :: 'e' :: rest => some (.bool true, rest)
      | 'f' :: 'a' :: 'l' :: 's' :: 'e' :: rest => some (.bool false, rest)
      | '\x7b' :: rest => (entries fuel rest).map fun (es, rest) => (.table (Layer.ofEntries es), rest)
      | '[' :: rest => (items fuel rest).map fun (ss, rest) => (.list ss, rest)
      | '"' :: rest => (quoted rest).map fun (s, rest) => (.text s, rest)
      | '\'' :: rest =>
        match rest with
        | c :: '\'' :: rest => some (.letter c, rest)
        | _ => none
      | cs => some (plain (cs.takeWhile (!isDelimiter ·)), cs.dropWhile (!isDelimiter ·))
    pure (s, skipGap rest)

def items : Nat → Reader (List Setting)
  | 0, _ => none
  | fuel + 1, cs =>
    match cs with
    | ']' :: rest => some ([], rest)
    | cs => do
      let (s, rest) ← value fuel cs
      let (more, rest) ← separated ']' rest
      if more then
        let (ss, rest) ← items fuel rest
        pure (s :: ss, rest)
      else pure ([s], rest)

def entries : Nat → Reader Layer
  | 0, _ => none
  | fuel + 1, cs =>
    match cs with
    | '\x7d' :: rest => some ([], rest)
    | cs => do
      let (name, rest) ← key cs
      let .cons '=' rest := skipGap rest | none
      let (s, rest) ← value fuel rest
      let (more, rest) ← separated '\x7d' rest
      if more then
        let (es, rest) ← entries fuel rest
        pure ((name, s) :: es, rest)
      else pure ([(name, s)], rest)

end

def setting (text : String) : Setting :=
  match value (2 * text.length + 2) text.toList with
  | some (s, []) => s
  | _ => .text text

def mark : String := "dofusdb_"

/-- The path of names that a variable sets, in lowercase. A dot leads into a table. -/
def path? (name : String) : Option (List String) :=
  let lowered := (trim name.toList).map Char.toLower
  if mark.toList.isPrefixOf lowered then
    let path := (cutAt '.' (trim (lowered.drop mark.length))).map String.ofList
    if path.contains "" then none else some path
  else none

def environment (bindings : List (String × String)) : Entries String :=
  bindings.foldl (fun es (name, text) => es.put name text) []

def enter (lower : Layer) : String × String → Layer
  | (name, text) =>
    match path? name with
    | some path =>
      match Layer.nested (setting text) path with
      | .table upper => lower.merge upper
      | _ => lower
    | none => lower

/-- The layer of all variables. Names that differ in case alone lead to one setting, and of those
variables the last one wins. -/
def layer (bindings : List (String × String)) : Layer :=
  (environment bindings).foldl enter []

end Variable

end Catalogue
