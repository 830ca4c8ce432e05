import Catalogue.DateTime
import Catalogue.Json.Token
import Catalogue.Json.Value
import Catalogue.Text.Quoted

namespace Catalogue.Json

/-- The structure of a JSON text, also of one that is malformed: up to the place where it breaks
off, all that was read is there. -/
inductive Tree
  | null
  | bool (b : Bool)
  | number (value : Option Number)
  | text (value : Option String)
  /-- The items read, and whether the closing bracket came after them. -/
  | array (items : List Tree) (closed : Bool)
  /-- The keys and values read, and whether the closing brace came after them. -/
  | object (members : List (Option String × Tree)) (closed : Bool)
  | broken

/-- A container that is open, with what it holds so far in reverse. -/
inductive Frame
  | array (items : List Tree)
  | object (members : List (Option String × Tree)) (key : Option String)

inductive Due
  | value
  | firstItem
  | key (members : List (Option String × Tree)) (first : Bool)
  | colon (members : List (Option String × Tree)) (key : Option String)
  | next (t : Tree)

def closeOff (t : Tree) : List Frame → Tree
  | [] => t
  | .array items :: stack => closeOff (.array (t :: items).reverse false) stack
  | .object members key :: stack => closeOff (.object ((key, t) :: members).reverse false) stack

structure Document where
  tree : Tree
  clean : Bool

def breakOff (stack : List Frame) : Due → Document
  | .value => ⟨closeOff .broken stack, false⟩
  | .firstItem => ⟨closeOff (.array [.broken] false) stack, false⟩
  | .key members _ => ⟨closeOff (.object members.reverse false) stack, false⟩
  | .colon members key => ⟨closeOff (.object ((key, .broken) :: members).reverse false) stack, false⟩
  | .next t => ⟨closeOff t stack, stack.isEmpty⟩

def beginValue (stack : List Frame) : Token → Option (List Frame × Due)
  | .null => some (stack, .next .null)
  | .bool b => some (stack, .next (.bool b))
  | .number value => some (stack, .next (.number value))
  | .text value => some (stack, .next (.text value))
  | .openArray => some (stack, .firstItem)
  | .openObject => some (stack, .key [] true)
  | _ => none

def advance (stack : List Frame) (due : Due) (token : Token) : Option (List Frame × Due) :=
  match due, token, stack with
  | .value, token, stack => beginValue stack token
  | .firstItem, .closeArray, stack => some (stack, .next (.array [] true))
  | .firstItem, token, stack => beginValue (.array [] :: stack) token
  | .key members _, .text key, stack => some (stack, .colon members key)
  | .key members true, .closeObject, stack => some (stack, .next (.object members.reverse true))
  | .colon members key, .colon, stack => some (.object members key :: stack, .value)
  | .next t, .comma, .array items :: stack => some (.array (t :: items) :: stack, .value)
  | .next t, .closeArray, .array items :: stack =>
    some (stack, .next (.array (t :: items).reverse true))
  | .next t, .comma, .object members key :: stack => some (stack, .key ((key, t) :: members) false)
  | .next t, .closeObject, .object members key :: stack =>
    some (stack, .next (.object ((key, t) :: members).reverse true))
  | _, _, _ => none

def build (stack : List Frame) (due : Due) : List Token → Document
  | [] => breakOff stack due
  | token :: rest =>
    match advance stack due token with
    | some (stack, due) => build stack due rest
    | none => { breakOff stack due with clean := false }

/-- The structure of a text, given as characters with `none` for each part that is no character. -/
def document (source : List (Option Char)) : Document := build [] .value (tokens source)

mutual

def Tree.complete : Tree → Bool
  | .array items closed => closed && completeItems items
  | .object members closed => closed && completeMembers members
  | .broken => false
  | _ => true

def completeItems : List Tree → Bool
  | [] => true
  | item :: items => item.complete && completeItems items

def completeMembers : List (Option String × Tree) → Bool
  | [] => true
  | member :: members => completeMember member && completeMembers members

def completeMember : Option String × Tree → Bool
  | (_, t) => t.complete

end

inductive Found
  | integer (n : Int)
  | float (x : Float)
  | bool (b : Bool)
  | text (s : String)
  | null | sequence | map

def Found.describe : Found → String
  | integer n => "integer `" ++ toString n ++ "`"
  | float x => "floating point `" ++ Decimal.Layout.compact.text x.toBits ++ "`"
  | bool b => "boolean `" ++ (if b then "true" else "false") ++ "`"
  | text s => "string " ++ Text.quote s
  | null => "null"
  | sequence => "sequence"
  | map => "map"

inductive Fault
  | malformed
  | wrongType (found : Found) (expected : String)
  | wrongValue (n : Int) (expected : String)
  | wrongLength (n : Nat) (expected : String)
  | duplicateField (key : String)
  | missingField (key : String)
  | noVariant
  | bareTrue
  | instant (fault : DateTime.Fault)

def Fault.message : Fault → String
  | malformed => "malformed JSON"
  | wrongType found expected => "invalid type: " ++ found.describe ++ ", expected " ++ expected
  | wrongValue n expected => "invalid value: integer `" ++ toString n ++ "`, expected " ++ expected
  | wrongLength n expected => "invalid length " ++ toString n ++ ", expected " ++ expected
  | duplicateField key => "duplicate field `" ++ key ++ "`"
  | missingField key => "missing field `" ++ key ++ "`"
  | noVariant => "data did not match any variant of untagged enum ValueOrFalseRepr"
  | bareTrue => "expected a value or `false`, found `true`"
  | instant fault => fault.message

def Number.found : Number → Found
  | nat n => .integer n.toNat
  | neg n => .integer n.toInt
  | float x => .float x

/-- The fault of a value of the wrong type. A string or number has to be right in itself first. -/
def Tree.mismatch (t : Tree) (expected : String) : Fault :=
  match t with
  | .null => .wrongType .null expected
  | .bool b => .wrongType (.bool b) expected
  | .number (some n) => .wrongType n.found expected
  | .text (some s) => .wrongType (.text s) expected
  | .array .. => .wrongType .sequence expected
  | .object .. => .wrongType .map expected
  | .number none | .text none | .broken => .malformed

end Catalogue.Json
