import Catalogue.Report

namespace Catalogue

inductive Comparison
  | eq | neq | gt | gte | lt | lte
  deriving Repr, DecidableEq

inductive Membership
  | isIn | notIn
  deriving Repr, DecidableEq

inductive Connective
  | and | or
  deriving Repr, DecidableEq

namespace Comparison

def complement : Comparison → Comparison
  | eq => neq
  | neq => eq
  | gt => lte
  | gte => lt
  | lt => gte
  | lte => gt

def operator : Comparison → String
  | eq => "$eq"
  | neq => "$neq"
  | gt => "$gt"
  | gte => "$gte"
  | lt => "$lt"
  | lte => "$lte"

@[simp] theorem complement_complement (c : Comparison) : c.complement.complement = c := by
  cases c <;> rfl

end Comparison

namespace Membership

def complement : Membership → Membership
  | isIn => notIn
  | notIn => isIn

def operator : Membership → String
  | isIn => "$in"
  | notIn => "$nin"

@[simp] theorem complement_complement (m : Membership) : m.complement.complement = m := by
  cases m <;> rfl

end Membership

namespace Connective

def dual : Connective → Connective
  | and => or
  | or => and

def operator : Connective → String
  | and => "$and"
  | or => "$or"

@[simp] theorem dual_dual (c : Connective) : c.dual.dual = c := by cases c <;> rfl

end Connective

inductive Predicate
  | compare (op : Comparison) (field value : String)
  | among (op : Membership) (field : String) (values : List String)
  | join (op : Connective) (children : List Predicate)
  deriving Repr, BEq

namespace Predicate

instance : Inhabited Predicate := ⟨join .and []⟩

inductive Kind
  | comparison (op : Comparison)
  | membership (op : Membership)
  | connective (op : Connective)
  deriving Repr, DecidableEq

namespace Kind

def operator : Kind → String
  | comparison op => op.operator
  | membership op => op.operator
  | connective op => op.operator

end Kind

def kind : Predicate → Kind
  | compare op .. => .comparison op
  | among op .. => .membership op
  | join op _ => .connective op

/-- A comparison of a field with one value. Only the comparisons take a single value. -/
def leaf (kind : Kind) (field value : String) : Except Error Predicate :=
  match kind with
  | .comparison op => .ok (compare op field value)
  | _ => .error (.unsupportedKind (kind.operator ++ " is not a single-value comparison"))

mutual

def negate : Predicate → Predicate
  | compare op field value => compare op.complement field value
  | among op field values => among op.complement field values
  | join op children => join op.dual (negateAll children)

def negateAll : List Predicate → List Predicate
  | [] => []
  | child :: children => child.negate :: negateAll children

end

/-- To show something of all predicates, it may be taken to hold of the children of one. -/
theorem tree_induction {motive : Predicate → Prop}
    (compare : ∀ op field value, motive (.compare op field value))
    (among : ∀ op field values, motive (.among op field values))
    (join : ∀ op children, (∀ child ∈ children, motive child) → motive (.join op children)) :
    (p : Predicate) → motive p
  | .compare op field value => compare op field value
  | .among op field values => among op field values
  | .join op children =>
    join op children fun child _ => tree_induction compare among join child

mutual

def leaves : Predicate → List Predicate
  | compare op field value => [compare op field value]
  | among op field values => [among op field values]
  | join _ children => leavesAll children

def leavesAll : List Predicate → List Predicate
  | [] => []
  | child :: children => child.leaves ++ leavesAll children

end

theorem leaves_join (op : Connective) (children : List Predicate) :
    (join op children).leaves = children.flatMap leaves := by
  rw [leaves]
  induction children with
  | nil => rfl
  | cons child children ih => rw [leavesAll, ih, List.flatMap_cons]

theorem negateAll_eq_map (children : List Predicate) : negateAll children = children.map negate := by
  induction children with
  | nil => rfl
  | cons child children ih => simp [negateAll, ih]

@[simp] theorem negate_negate (p : Predicate) : p.negate.negate = p := by
  induction p using tree_induction with
  | compare op field value => simp [negate]
  | among op field values => simp [negate]
  | join op children ih =>
    have hchildren : children.map (negate ∘ negate) = children.map id := List.map_congr_left ih
    rw [negate, negate, negateAll_eq_map, negateAll_eq_map, List.map_map, hchildren, List.map_id,
      Connective.dual_dual]

end Predicate

end Catalogue
