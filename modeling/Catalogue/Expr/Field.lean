import Catalogue.Expr.Basic

namespace Catalogue

class View (V : Type) where
  ofExpr : Expr → V
  expr : V → Expr

namespace View

def inside {V W : Type} [View V] [View W] (v : V) (name : String) : W :=
  ofExpr ((expr v).member name)

end View

instance : View Expr := ⟨id, id⟩

/-- A member chain that ends in a value of type `α`. -/
structure Field (α : Type) where
  expr : Expr

instance {α : Type} : View (Field α) := ⟨.mk, Field.expr⟩

/-- Every value of `α` has a place in `β`. -/
class Widens (α β : Type)

instance : Widens Int8 Int16 := {}
instance : Widens Int16 Int32 := {}
instance : Widens Int32 Int64 := {}
instance : Widens UInt8 UInt16 := {}
instance : Widens UInt16 UInt32 := {}
instance : Widens UInt32 UInt64 := {}
instance : Widens UInt32 Int64 := {}
instance : Widens Int32 Float := {}
instance : Widens UInt32 Float := {}
instance : Widens Float32 Float := {}
instance {α : Type} : Widens α (Option α) := {}

namespace Field

variable {α : Type}

def widen (β : Type) [Widens α β] (f : Field α) : Field β := ⟨f.expr.convert⟩

def compare [ToValue α] (op : Comparison) (f : Field α) (value : α) : Expr :=
  f.expr.compare op (toValue value)

def isIn [ToValue α] (f : Field α) (values : List α) : Expr :=
  (Expr.captured "values" (toValue values)).contains f.expr

end Field

end Catalogue
