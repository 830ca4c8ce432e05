import Catalogue.Expr.Basic
import Catalogue.Path

namespace Catalogue

namespace Expr

inductive Reason
  | notMemberChain (root : String)
  | notConstant
  | notScalar
  | notCollection
  | notComparison (op : BinaryOp)
  | noCollection
  | notOneArgument
  | notPredicate
  deriving Repr, DecidableEq

def Reason.text : Reason → String
  | notMemberChain root => "expected a member chain rooted at `" ++ root ++ "`"
  | notConstant => "expected a constant value"
  | notScalar => "expected a scalar value"
  | notCollection => "expected an in-memory collection"
  | notComparison op => "operator `" ++ op.symbol ++ "` is not a comparison"
  | noCollection => "Contains must be called on a collection"
  | notOneArgument => "Contains takes exactly one argument"
  | notPredicate => "could not extract a predicate"

/-- An expression that could not be compiled. -/
structure Blame where
  expr : Expr
  reason : Reason

def Blame.toError (b : Blame) : Error := .invalidExpression b.expr.text b.reason.text

/-- The segments of a member chain from the root on. A member without target starts a chain of its
own, and conversions are looked through. -/
def chain (root : String) : Expr → Except Blame (List String)
  | parameter name =>
    if name = root then .ok [] else .error ⟨parameter name, .notMemberChain root⟩
  | member target name => (· ++ [Path.camelSegment name]) <$> chain root target
  | static name => .ok [Path.camelSegment name]
  | convert e => chain root e
  | e => .error ⟨e, .notMemberChain root⟩

def propertyPath (root : String) (e : Expr) : Except Blame String :=
  ".".intercalate <$> chain root e

def scalar (e : Expr) (value : Value) : Except Blame String :=
  match value.wire? with
  | some s => .ok s
  | none => .error ⟨e, .notScalar⟩

def valueText : Expr → Except Blame String
  | convert e => valueText e
  | constant value => scalar (constant value) value
  | captured name value => scalar (captured name value) value
  | e => .error ⟨e, .notConstant⟩

def collectionTexts : Expr → Except Blame (List String)
  | convert e => collectionTexts e
  | constant (.list items) => items.mapM (scalar (constant (.list items)))
  | captured name (.list items) => items.mapM (scalar (captured name (.list items)))
  | e => .error ⟨e, .notCollection⟩

def spliced (op : Connective) (p : Predicate) : List Predicate :=
  match p with
  | .join op' children => if op' = op then children else [p]
  | _ => [p]

/-- Method names are compared without regard to the case of ASCII letters. -/
def isContains (method : String) : Bool := method.toLower == "contains"

def predicate (root : String) : Expr → Except Blame Predicate
  | binary (.logical op) left right => do
    let p ← predicate root left
    let q ← predicate root right
    pure (.join op (spliced op p ++ spliced op q))
  | binary (.compare op) left right => do
    let field ← propertyPath root left
    let value ← valueText right
    pure (.compare op field value)
  | binary (.arithmetic op) left right =>
    .error ⟨binary (.arithmetic op) left right, .notComparison (.arithmetic op)⟩
  | call target method args =>
    if isContains method then
      match args with
      | [item] => do
        let field ← propertyPath root item
        let values ← collectionTexts target
        pure (.among .isIn field values)
      | _ => .error ⟨call target method args, .notOneArgument⟩
    else .error ⟨call target method args, .notPredicate⟩
  | apply method args =>
    .error ⟨apply method args, if isContains method then .noCollection else .notPredicate⟩
  | not e => Predicate.negate <$> predicate root e
  | e => .error ⟨e, .notPredicate⟩

end Expr

namespace Lambda

def propertyPath (l : Lambda) : Except Error String :=
  (Expr.propertyPath l.parameter l.body).mapError Expr.Blame.toError

def predicate (l : Lambda) : Except Error Predicate :=
  (Expr.predicate l.parameter l.body).mapError Expr.Blame.toError

end Lambda

namespace Expr

def value (e : Expr) : Except Error String := (valueText e).mapError Blame.toError

def collection (e : Expr) : Except Error (List String) := (collectionTexts e).mapError Blame.toError

end Expr

end Catalogue
