import Catalogue.DateTime
import Catalogue.Json.Tree

namespace Catalogue.Json

structure Codec (α : Type) where
  /-- Reads a value of a text; the number is how many levels of nesting are still allowed. -/
  read : Nat → Tree → Except Fault α
  ofJson : Json → Option α
  write : α → Json

def nesting : Nat := 128

def enter (depth : Nat) : Except Fault Nat :=
  if depth ≤ 1 then .error .malformed else .ok (depth - 1)

def demand (condition : Bool) : Except Fault Unit :=
  if condition then .ok () else .error .malformed

mutual

def keep (depth : Nat) : Tree → Except Fault Json
  | .null => .ok .null
  | .bool b => .ok (.bool b)
  | .number (some n) => .ok (.number n)
  | .text (some s) => .ok (.text s)
  | .array items closed => do
    let inner ← enter depth
    let items ← keepItems inner items
    demand closed
    pure (.array items)
  | .object members closed => do
    let inner ← enter depth
    let members ← keepMembers inner members
    demand closed
    pure (.object members)
  | .number none | .text none | .broken => .error .malformed

def keepItems (depth : Nat) : List Tree → Except Fault (List Json)
  | [] => .ok []
  | item :: items => do
    let item ← keep depth item
    let items ← keepItems depth items
    pure (item :: items)

def keepMembers (depth : Nat) : List (Option String × Tree) → Except Fault (List (String × Json))
  | [] => .ok []
  | member :: members => do
    let member ← keepMember depth member
    let members ← keepMembers depth members
    pure (member :: members)

def keepMember (depth : Nat) : Option String × Tree → Except Fault (String × Json)
  | (none, _) => .error .malformed
  | (some key, t) => do
    let value ← keep depth t
    pure (key, value)

end

namespace Codec

variable {α β : Type}

def integer (name : String) (least greatest : Int) (ofInt : Int → α) (toInt : α → Int) :
    Codec α where
  read _ t :=
    match t with
    | .number (some n) =>
      match n.toInt? with
      | some k => if least ≤ k ∧ k ≤ greatest then .ok (ofInt k) else .error (.wrongValue k name)
      | none => .error (t.mismatch name)
    | t => .error (t.mismatch name)
  ofJson
    | .number n => do
      let k ← n.toInt?
      if least ≤ k ∧ k ≤ greatest then some (ofInt k) else none
    | _ => none
  write a := .number (.ofInt (toInt a))

def int32 : Codec Int32 := integer "i32" (-0x80000000) 0x7FFFFFFF Int32.ofInt Int32.toInt

def int64 : Codec Int64 :=
  integer "i64" (-0x8000000000000000) 0x7FFFFFFFFFFFFFFF Int64.ofInt Int64.toInt

def uint32 : Codec UInt32 := integer "u32" 0 0xFFFFFFFF UInt32.ofInt fun n => n.toNat

def count : Codec Nat := integer "u64" 0 0xFFFFFFFFFFFFFFFF Int.toNat Int.ofNat

def float : Codec Float where
  read _ t :=
    match t with
    | .number (some n) => .ok n.toFloat
    | t => .error (t.mismatch "f64")
  ofJson
    | .number n => some n.toFloat
    | _ => none
  write x := .number (.float x)

def bool : Codec Bool where
  read _ t :=
    match t with
    | .bool b => .ok b
    | t => .error (t.mismatch "a boolean")
  ofJson
    | .bool b => some b
    | _ => none
  write := .bool

def string : Codec String where
  read _ t :=
    match t with
    | .text (some s) => .ok s
    | t => .error (t.mismatch "a string")
  ofJson
    | .text s => some s
    | _ => none
  write := .text

def instant : Codec DateTime where
  read _ t :=
    match t with
    | .text (some s) => (DateTime.parse s).mapError .instant
    | t => .error (t.mismatch "an RFC 3339 formatted date and time string")
  ofJson
    | .text s => (DateTime.parse s).toOption
    | _ => none
  write t := .text t.zuluText

def option (c : Codec α) : Codec (Option α) where
  read depth t :=
    match t with
    | .null => .ok none
    | t => some <$> c.read depth t
  ofJson
    | .null => some none
    | j => some <$> c.ofJson j
  write
    | none => .null
    | some a => c.write a

def list (c : Codec α) : Codec (List α) where
  read depth t :=
    match t with
    | .array items closed => do
      let inner ← enter depth
      let values ← items.mapM (c.read inner)
      demand closed
      pure values
    | t => .error (t.mismatch "a sequence")
  ofJson
    | .array items => items.mapM c.ofJson
    | _ => none
  write values := .array (values.map c.write)

def pair (c : Codec α) (d : Codec β) : Codec (α × β) where
  read depth t :=
    match t with
    | .array items closed => do
      let inner ← enter depth
      match items with
      | [] => do
        demand closed
        .error (.wrongLength 0 "a tuple of size 2")
      | [a] => do
        let _ ← c.read inner a
        demand closed
        .error (.wrongLength 1 "a tuple of size 2")
      | a :: b :: rest => do
        let a ← c.read inner a
        let b ← d.read inner b
        demand (closed && rest.isEmpty)
        pure (a, b)
    | t => .error (t.mismatch "a tuple of size 2")
  ofJson
    | .array [a, b] => do
      let a ← c.ofJson a
      let b ← d.ofJson b
      pure (a, b)
    | _ => none
  write p := .array [c.write p.1, d.write p.2]

/-- Reads a whole text, given as characters with `none` for each part that is no character. -/
def decodeSource (c : Codec α) (source : List (Option Char)) : Except Fault α := do
  let d := document source
  let a ← c.read nesting d.tree
  demand d.clean
  pure a

def decode (c : Codec α) (text : String) : Except Fault α :=
  c.decodeSource (text.toList.map some)

def encode (c : Codec α) (a : α) : String := (c.write a).render

end Codec

end Catalogue.Json

namespace Catalogue

inductive OrFalse (α : Type)
  | absent
  | value (a : α)
  deriving Repr, DecidableEq, Inhabited

namespace OrFalse

variable {α : Type}

def isAbsent : OrFalse α → Bool
  | absent => true
  | value _ => false

def toOption : OrFalse α → Option α
  | absent => none
  | value a => some a

end OrFalse

namespace Json.Codec

variable {α : Type}

/-- Where the value may be anything, it is kept whole before it is told apart. -/
def orFalse (c : Codec α) : Codec (OrFalse α) where
  read depth t := do
    match ← keep depth t with
    | .bool false => .ok .absent
    | .bool true => .error .bareTrue
    | j =>
      match c.ofJson j with
      | some a => .ok (.value a)
      | none => .error .noVariant
  ofJson
    | .bool false => some .absent
    | .bool true => none
    | j => .value <$> c.ofJson j
  write
    | .absent => .bool false
    | .value a => c.write a

end Json.Codec

end Catalogue
