import Catalogue.DateTime
import Catalogue.Decimal
import Catalogue.Predicate
import Catalogue.Text.Quoted

namespace Catalogue

inductive Value
  | null
  | bool (b : Bool)
  | int (n : Int64)
  | uint (n : UInt64)
  | float (x : Float)
  | str (s : String)
  | list (items : List Value)
  deriving Inhabited

namespace Value

/-- The text a value is compared with by the service. A list has none. -/
def wire? : Value → Option String
  | null => some "null"
  | bool b => some (if b then "true" else "false")
  | int n => some (toString n.toInt)
  | uint n => some (toString n.toNat)
  | float x => some (Decimal.Layout.plain.text x.toBits)
  | str s => some s
  | list _ => none

mutual

def text : Value → String
  | str s => Text.quote s
  | list items => "[" ++ textAll items ++ "]"
  | value => value.wire?.getD ""

def textAll : List Value → String
  | [] => ""
  | [item] => item.text
  | item :: items => item.text ++ ", " ++ textAll items

end

end Value

class ToValue (α : Type) where
  toValue : α → Value

export ToValue (toValue)

instance : ToValue Int8 := ⟨fun n => .int n.toInt64⟩
instance : ToValue Int16 := ⟨fun n => .int n.toInt64⟩
instance : ToValue Int32 := ⟨fun n => .int n.toInt64⟩
instance : ToValue Int64 := ⟨.int⟩
instance : ToValue UInt8 := ⟨fun n => .uint n.toUInt64⟩
instance : ToValue UInt16 := ⟨fun n => .uint n.toUInt64⟩
instance : ToValue UInt32 := ⟨fun n => .uint n.toUInt64⟩
instance : ToValue UInt64 := ⟨.uint⟩
instance : ToValue Float32 := ⟨fun x => .float x.toFloat⟩
instance : ToValue Float := ⟨.float⟩
instance : ToValue Bool := ⟨.bool⟩
instance : ToValue String := ⟨.str⟩
instance : ToValue Char := ⟨fun c => .str c.toString⟩
instance : ToValue DateTime := ⟨fun t => .str t.offsetText⟩
instance : ToValue Value := ⟨id⟩

instance {α : Type} [ToValue α] : ToValue (Option α) := ⟨fun
  | none => .null
  | some a => toValue a⟩

instance {α : Type} [ToValue α] : ToValue (List α) := ⟨fun xs => .list (xs.map toValue)⟩

inductive Arithmetic
  | add | subtract | multiply | divide | modulo
  deriving Repr, DecidableEq

inductive BinaryOp
  | compare (op : Comparison)
  | logical (op : Connective)
  | arithmetic (op : Arithmetic)
  deriving Repr, DecidableEq

namespace Comparison

def symbol : Comparison → String
  | eq => "=="
  | neq => "!="
  | gt => ">"
  | gte => ">="
  | lt => "<"
  | lte => "<="

end Comparison

def Connective.symbol : Connective → String
  | .and => "&&"
  | .or => "||"

def Arithmetic.symbol : Arithmetic → String
  | .add => "+"
  | .subtract => "-"
  | .multiply => "*"
  | .divide => "/"
  | .modulo => "%"

def BinaryOp.symbol : BinaryOp → String
  | .compare op => op.symbol
  | .logical op => op.symbol
  | .arithmetic op => op.symbol

inductive Expr
  | parameter (name : String)
  | member (target : Expr) (name : String)
  /-- A member that belongs to no expression. -/
  | static (name : String)
  | convert (e : Expr)
  | constant (value : Value)
  | captured (name : String) (value : Value)
  | binary (op : BinaryOp) (left right : Expr)
  | not (e : Expr)
  | call (target : Expr) (method : String) (args : List Expr)
  /-- A call on no target. -/
  | apply (method : String) (args : List Expr)
  deriving Inhabited

namespace Expr

def compare (op : Comparison) (e : Expr) (value : Value) : Expr :=
  binary (.compare op) e (constant value)

def and (left right : Expr) : Expr := binary (.logical .and) left right

def or (left right : Expr) : Expr := binary (.logical .or) left right

def contains (collection item : Expr) : Expr := call collection "Contains" [item]

def path (e : Expr) (names : List String) : Expr := names.foldl member e

mutual

def text : Expr → String
  | parameter name => name
  | member target name => target.text ++ "." ++ name
  | static name => name
  | convert e => "Convert(" ++ e.text ++ ")"
  | constant value => value.text
  | captured name _ => name
  | binary op left right => "(" ++ left.text ++ " " ++ op.symbol ++ " " ++ right.text ++ ")"
  | not e => "!" ++ e.text
  | call target method args => target.text ++ "." ++ method ++ "(" ++ textAll args ++ ")"
  | apply method args => method ++ "(" ++ textAll args ++ ")"

def textAll : List Expr → String
  | [] => ""
  | [arg] => arg.text
  | arg :: args => arg.text ++ ", " ++ textAll args

end

end Expr

structure Lambda where
  parameter : String
  body : Expr
  deriving Inhabited

def Lambda.text (l : Lambda) : String := l.parameter ++ " => " ++ l.body.text

end Catalogue
