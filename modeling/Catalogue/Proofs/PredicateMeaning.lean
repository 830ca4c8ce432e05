import Catalogue.Predicate

namespace Catalogue

/-- The atoms that are true of a record, for a field and the wire text of a value. -/
structure Record where
  equals : String → String → Prop
  exceeds : String → String → Prop
  reaches : String → String → Prop

namespace Record

def ofText (text : String → String) : Record where
  equals field value := text field = value
  exceeds field value := value < text field
  reaches field value := value ≤ text field

variable (r : Record)

def Compares (field value : String) : Comparison → Prop
  | .eq => r.equals field value
  | .neq => ¬ r.equals field value
  | .gt => r.exceeds field value
  | .lte => ¬ r.exceeds field value
  | .gte => r.reaches field value
  | .lt => ¬ r.reaches field value

def Belongs (field : String) (values : List String) : Membership → Prop
  | .isIn => ∃ value ∈ values, r.equals field value
  | .notIn => ¬ ∃ value ∈ values, r.equals field value

theorem compares_complement (field value : String) (op : Comparison) :
    r.Compares field value op.complement ↔ ¬ r.Compares field value op := by
  cases op <;> simp [Comparison.complement, Compares]

theorem belongs_complement (field : String) (values : List String) (op : Membership) :
    r.Belongs field values op.complement ↔ ¬ r.Belongs field values op := by
  cases op <;> simp [Membership.complement, Belongs]

end Record

namespace Predicate

variable {r : Record}

mutual

def Holds (r : Record) : Predicate → Prop
  | compare op field value => r.Compares field value op
  | among op field values => r.Belongs field values op
  | join .and children => HoldsAll r children
  | join .or children => HoldsAny r children

def HoldsAll (r : Record) : List Predicate → Prop
  | [] => True
  | child :: children => child.Holds r ∧ HoldsAll r children

def HoldsAny (r : Record) : List Predicate → Prop
  | [] => False
  | child :: children => child.Holds r ∨ HoldsAny r children

end

theorem holdsAll_iff (children : List Predicate) :
    HoldsAll r children ↔ ∀ child ∈ children, child.Holds r := by
  induction children with
  | nil => simp [HoldsAll]
  | cons child children ih => simp [HoldsAll, ih]

theorem holdsAny_iff (children : List Predicate) :
    HoldsAny r children ↔ ∃ child ∈ children, child.Holds r := by
  induction children with
  | nil => simp [HoldsAny]
  | cons child children ih => simp [HoldsAny, ih]

@[simp] theorem holds_compare (op : Comparison) (field value : String) :
    (compare op field value).Holds r ↔ r.Compares field value op := by
  rw [Holds]

@[simp] theorem holds_among (op : Membership) (field : String) (values : List String) :
    (among op field values).Holds r ↔ r.Belongs field values op := by
  rw [Holds]

@[simp] theorem holds_and (children : List Predicate) :
    (join .and children).Holds r ↔ ∀ child ∈ children, child.Holds r := by
  rw [Holds, holdsAll_iff]

@[simp] theorem holds_or (children : List Predicate) :
    (join .or children).Holds r ↔ ∃ child ∈ children, child.Holds r := by
  rw [Holds, holdsAny_iff]

/- Negation turns a conjunction into a disjunction and back, so what is shown of a tree goes
through what is shown of all its children and of any of them. -/
mutual

theorem holds_negate : (p : Predicate) → (p.negate.Holds r ↔ ¬ p.Holds r)
  | compare op field value => by
      rw [negate, holds_compare, holds_compare]
      exact r.compares_complement field value op
  | among op field values => by
      rw [negate, holds_among, holds_among]
      exact r.belongs_complement field values op
  | join .and children => by
      rw [negate, Connective.dual, Holds, Holds]
      exact holdsAny_negateAll children
  | join .or children => by
      rw [negate, Connective.dual, Holds, Holds]
      exact holdsAll_negateAll children

theorem holdsAny_negateAll :
    (children : List Predicate) → (HoldsAny r (negateAll children) ↔ ¬ HoldsAll r children)
  | [] => by simp [negateAll, HoldsAny, HoldsAll]
  | child :: children => by
      rw [negateAll, HoldsAny, HoldsAll, Classical.not_and_iff_not_or_not,
        holds_negate child, holdsAny_negateAll children]

theorem holdsAll_negateAll :
    (children : List Predicate) → (HoldsAll r (negateAll children) ↔ ¬ HoldsAny r children)
  | [] => by simp [negateAll, HoldsAny, HoldsAll]
  | child :: children => by
      rw [negateAll, HoldsAll, HoldsAny, not_or, holds_negate child, holdsAll_negateAll children]

end

/-- What stands at a node, its operator left out. -/
inductive Label
  | comparison (field value : String)
  | membership (field : String) (values : List String)
  | connective (arity : Nat)
  deriving Repr, DecidableEq

def label : Predicate → Label
  | compare _ field value => .comparison field value
  | among _ field values => .membership field values
  | join _ children => .connective children.length

def children : Predicate → List Predicate
  | compare .. => []
  | among .. => []
  | join _ children => children

def at? (p : Predicate) : List Nat → Option Predicate
  | [] => some p
  | i :: address => p.children[i]?.bind fun child => child.at? address

theorem label_negate (p : Predicate) : p.negate.label = p.label := by
  cases p with
  | compare op field value => rfl
  | among op field values => rfl
  | join op children => rw [negate, label, label, negateAll_eq_map, List.length_map]

theorem children_negate (p : Predicate) : p.negate.children = p.children.map negate := by
  cases p with
  | compare op field value => rfl
  | among op field values => rfl
  | join op children => exact negateAll_eq_map children

/-- At every node stands the negation of what stood there. The induction is on the address, so
that no child is looked at but the one on the way. -/
theorem at?_negate (p : Predicate) (address : List Nat) :
    p.negate.at? address = (p.at? address).map negate := by
  induction address generalizing p with
  | nil => rfl
  | cons i address ih =>
      rw [at?, at?, children_negate, List.getElem?_map]
      cases p.children[i]? with
      | none => rfl
      | some child => exact ih child

/-- Negation is its own inverse, holds of the other records, and keeps the nodes where they are with
their fields, values and numbers of children. -/
theorem negate_exact (p : Predicate) :
    p.negate.negate = p ∧ (∀ r, p.negate.Holds r ↔ ¬ p.Holds r) ∧
      ∀ address, (p.negate.at? address).map label = (p.at? address).map label := by
  refine ⟨p.negate_negate, fun r => holds_negate p, fun address => ?_⟩
  rw [at?_negate, Option.map_map]
  exact congrArg (Option.map · (p.at? address)) (funext label_negate)

end Predicate

end Catalogue
