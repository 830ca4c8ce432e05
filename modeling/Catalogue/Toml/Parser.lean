import Catalogue.Settings.Variable
import Catalogue.Toml.Scalar

namespace Catalogue.Toml

inductive Origin
  /-- The table has a header of its own, or is the document. -/
  | header
  /-- A header below it names the table. -/
  | passing
  /-- A dotted key names the table. -/
  | dotted
  deriving DecidableEq

inductive Node
  | value (s : Setting)
  | table (origin : Origin) (entries : List (String × Node))
  | tables (newestFirst : List Node)

/-- Changes the table at a path, below tables that are there or are made on the way. A dotted key
may not lead through a table that has a header. -/
def update (isDotted : Bool) (change : Origin → Entries Node → Option (Entries Node)) :
    List String → Origin → Entries Node → Option (Entries Node)
  | [], origin, es => change origin es
  | key :: path, _, es =>
    match es.lookup key with
    | none => do
      let made := if isDotted then .dotted else .passing
      let inner ← update isDotted change path made []
      pure (es.put key (.table made inner))
    | some (.table origin inner) =>
      if isDotted && origin == .header then none
      else do
        let inner ← update isDotted change path origin inner
        pure (es.put key (.table origin inner))
    | some (.tables (.table origin inner :: earlier)) => do
      let inner ← update isDotted change path origin inner
      pure (es.put key (.tables (.table origin inner :: earlier)))
    | some _ => none

def addEntry (path : List String) (s : Setting) (origin : Origin) (es : Entries Node) :
    Option (Entries Node) :=
  match path.getLast? with
  | none => none
  | some key =>
    update true (fun origin es =>
      if (origin == .dotted) == (path.length == 1) || (es.lookup key).isSome then none
      else some (es.put key (.value s))) path.dropLast origin es

def openTable (path : List String) (es : Entries Node) : Option (Entries Node) :=
  match path.getLast? with
  | none => none
  | some key =>
    update false (fun _ es =>
      match es.lookup key with
      | none => some (es.put key (.table .header []))
      | some (.table .passing inner) => some (es.put key (.table .header inner))
      | some _ => none) path.dropLast .header es

def openElement (path : List String) (es : Entries Node) : Option (Entries Node) :=
  match path.getLast? with
  | none => none
  | some key =>
    update false (fun _ es =>
      match es.lookup key with
      | none => some (es.put key (.tables [.table .header []]))
      | some (.tables ts) => some (es.put key (.tables (.table .header [] :: ts)))
      | some _ => none) path.dropLast .header es

mutual

def Node.setting : Node → Setting
  | .value s => s
  | .table _ es => .table (settings es)
  | .tables ts => .list (elements ts).reverse

def settings : List (String × Node) → List (String × Setting)
  | [] => []
  | entry :: es => setting entry :: settings es

def setting : String × Node → String × Setting
  | (key, n) => (key, n.setting)

def elements : List Node → List Setting
  | [] => []
  | n :: ns => n.setting :: elements ns

end

def isKeyChar (c : Char) : Bool := c.isAlphanum || c == '_' || c == '-'

def simpleKey (cs : List Char) : Option (String × List Char) :=
  match cs with
  | '"' :: rest => shortText '"' rest
  | '\'' :: rest => shortText '\'' rest
  | _ =>
    let name := cs.takeWhile isKeyChar
    if name.isEmpty then none else some (String.ofList name, cs.dropWhile isKeyChar)

def dottedKeys : Nat → Reader (List String)
  | 0, _ => none
  | fuel + 1, cs => do
    let (key, rest) ← simpleKey (skipGap cs)
    match skipGap rest with
    | '.' :: rest =>
      let (path, rest) ← dottedKeys fuel rest
      pure (key :: path, rest)
    | rest => pure ([key], rest)

def depthLimit : Nat := 79

/-- A path of keys. The number bounds how long the text of it is. -/
def keyPath (fuel : Nat) : Reader (List String) := fun cs =>
  (dottedKeys fuel cs).filter fun (path, _) => path.length ≤ depthLimit

def skipComment (cs : List Char) : Option (List Char) :=
  match cs with
  | '#' :: body =>
    match body.dropWhile isPlain with
    | '\r' :: '\n' :: rest => some ('\n' :: rest)
    | '\n' :: rest => some ('\n' :: rest)
    | [] => some []
    | _ => none
  | _ => some cs

def skipLines : Nat → List Char → Option (List Char)
  | 0, _ => none
  | fuel + 1, cs =>
    match skipGap cs with
    | '\n' :: rest | '\r' :: '\n' :: rest => skipLines fuel rest
    | '#' :: rest => do
      let rest ← skipComment ('#' :: rest)
      skipLines fuel rest
    | rest => some rest

mutual

/-- A value. The first number bounds how long arrays and tables may be, and `depth` is how many more
of them may lie in each other. -/
def value : (fuel depth : Nat) → Reader Setting
  | 0, _, _ => none
  | fuel + 1, depth, cs =>
    match quoted? cs with
    | some r => r.map fun (s, rest) => (.text s, rest)
    | none =>
      match cs, depth with
      | '[' :: _, 0 | '\x7b' :: _, 0 => none
      | '[' :: rest, depth + 1 => (items fuel depth rest).map fun (ss, rest) => (.list ss, rest)
      | '\x7b' :: rest, depth + 1 =>
        match skipGap rest with
        | '\x7d' :: rest => some (.table [], rest)
        | rest => (entries fuel depth [] rest).map fun (es, rest) => (.table (settings es), rest)
      | _, _ =>
        let (text, rest) := run cs
        (scalar? text).map fun s => (s, rest)

def items : (fuel depth : Nat) → Reader (List Setting)
  | 0, _, _ => none
  | fuel + 1, depth, cs => do
    match ← skipLines fuel cs with
    | ']' :: rest => pure ([], rest)
    | cs =>
      let (s, rest) ← value fuel depth cs
      match ← skipLines fuel rest with
      | ']' :: rest => pure ([s], rest)
      | ',' :: rest =>
        let (ss, rest) ← items fuel depth rest
        pure (s :: ss, rest)
      | _ => none

def entries : (fuel depth : Nat) → Entries Node → Reader (Entries Node)
  | 0, _, _, _ => none
  | fuel + 1, depth, es, cs => do
    let (path, rest) ← keyPath fuel cs
    let .cons '=' rest := rest | none
    let (s, rest) ← value fuel depth (skipGap rest)
    let es ← addEntry path s .header es
    match skipGap rest with
    | '\x7d' :: rest => pure (es, rest)
    | ',' :: rest => entries fuel depth es rest
    | _ => none

end

/-- A document while it is read: the tables so far, and the path of the one that is open. -/
structure Draft where
  entries : Entries Node := []
  header : List String := []

def header (fuel : Nat) (cs : List Char) : Option ((Bool × List String) × List Char) :=
  match cs with
  | '[' :: '[' :: rest => do
    let (path, rest) ← keyPath fuel rest
    match rest with
    | ']' :: ']' :: rest => pure ((true, path), rest)
    | _ => none
  | '[' :: rest => do
    let (path, rest) ← keyPath fuel rest
    match rest with
    | ']' :: rest => pure ((false, path), rest)
    | _ => none
  | _ => none

def takeLine (fuel : Nat) (d : Draft) (cs : List Char) : Option (Draft × List Char) := do
  match cs with
  | [] | '\n' :: _ | '\r' :: _ | '#' :: _ => pure (d, cs)
  | '[' :: _ =>
    let ((isElement, path), rest) ← header fuel cs
    let es ← if isElement then openElement path d.entries else openTable path d.entries
    pure (⟨es, path⟩, rest)
  | _ =>
    let (path, rest) ← keyPath fuel cs
    let .cons '=' rest := rest | none
    let (s, rest) ← value fuel depthLimit (skipGap rest)
    let es ← update false (addEntry path s) d.header .header d.entries
    pure ({ d with entries := es }, rest)

def takeLines (size : Nat) : Nat → Draft → List Char → Option Draft
  | 0, _, _ => none
  | fuel + 1, d, cs => do
    let (d, rest) ← takeLine size d (skipGap cs)
    match ← skipComment (skipGap rest) with
    | [] => pure d
    | '\n' :: rest | '\r' :: '\n' :: rest => takeLines size fuel d rest
    | _ => none

/-- The settings of a document, or nothing if it is no TOML. -/
def parse (text : String) : Option Layer :=
  let cs := match text.toList with
    | '\uFEFF' :: cs => cs
    | cs => cs
  (takeLines (2 * cs.length + 2) (cs.length + 1) {} cs).map fun d => settings d.entries

end Catalogue.Toml
