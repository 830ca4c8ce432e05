import Catalogue.Proofs.CompileMeaning
import Mathlib.Algebra.Ring.Parity
import Mathlib.Data.List.Forall2

namespace Catalogue

namespace Comparison

def opposites : List (Comparison × Comparison) := [(eq, neq), (gt, lte), (gte, lt)]

def Opposes (op other : Comparison) : Prop := (op, other) ∈ opposites ∨ (other, op) ∈ opposites

theorem opposes_complement (op : Comparison) : op.Opposes op.complement := by
  cases op <;> simp [Opposes, opposites, complement]

end Comparison

namespace Predicate

/-- No connective has fewer than two children or a child that is joined by itself. -/
inductive Flat : Predicate → Prop
  | compare (op : Comparison) (field value : String) : Flat (.compare op field value)
  | among (op : Membership) (field : String) (values : List String) : Flat (.among op field values)
  | join (op : Connective) {children : List Predicate} : 2 ≤ children.length →
      (∀ child ∈ children, child.kind ≠ .connective op) → (∀ child ∈ children, Flat child) →
        Flat (.join op children)

theorem leaves_negate (p : Predicate) : p.negate.leaves = p.leaves.map negate := by
  induction p using tree_induction with
  | compare op field value => simp [negate, leaves]
  | among op field values => simp [negate, leaves]
  | join op children ih =>
      rw [negate, leaves_join, leaves_join, negateAll_eq_map, List.flatMap_map, List.map_flatMap]
      exact List.flatMap_congr ih

theorem kind_negate {p : Predicate} {op : Connective} :
    p.negate.kind = .connective op.dual ↔ p.kind = .connective op := by
  cases p with
  | compare | among => simp [negate, kind]
  | join op' children => cases op <;> cases op' <;> simp [negate, kind, Connective.dual]

/-- Negation swaps the connectives everywhere at once, so that neighbours stay different. -/
theorem Flat.negate {p : Predicate} (h : p.Flat) : p.negate.Flat := by
  induction h with
  | compare op field value => exact .compare op.complement field value
  | among op field values => exact .among op.complement field values
  | join op hlength hkind _ ih =>
      rw [Predicate.negate, negateAll_eq_map]
      refine .join op.dual ?_ ?_ ?_
      · rwa [List.length_map]
      · rw [List.forall_mem_map]
        exact fun child hchild => mt kind_negate.1 (hkind child hchild)
      · rwa [List.forall_mem_map]

def turned (negations : Nat) (leaf : Predicate) : Predicate :=
  if Odd negations then leaf.negate else leaf

theorem turned_zero : turned 0 = id := rfl

theorem turned_negate (negations : Nat) (leaf : Predicate) :
    turned negations leaf.negate = turned (negations + 1) leaf := by
  unfold turned
  by_cases hodd : Odd negations <;> simp [hodd, Nat.odd_add_one]

end Predicate

namespace Expr

/-- The comparisons and calls that a condition is joined from, from left to right, and how many
negations stand above each. -/
def conditions (negations : Nat) : Expr → List (Nat × Expr)
  | binary (.logical _) left right => conditions negations left ++ conditions negations right
  | not e => conditions (negations + 1) e
  | e => [(negations, e)]

inductive LeafOf (root : String) : Nat × Expr → Predicate → Prop
  | compare {negations : Nat} {op op' : Comparison} {left right : Expr} {field text : String} :
      Reads root left field → Spells right text →
        (if Odd negations then op.Opposes op' else op' = op) →
          LeafOf root (negations, .binary (.compare op) left right) (.compare op' field text)
  | contains {negations : Nat} {target item : Expr} {method field : String} {items : List Value}
      {texts : List String} :
      isContains method → Reads root item field → Denotes target (.list items) →
        items.map Value.wire? = texts.map some →
          LeafOf root (negations, .call target method [item])
            (.among (if Odd negations then .notIn else .isIn) field texts)

section Shape

variable {root : String} {e : Expr} {p q : Predicate}

theorem flat_spliced (op : Connective) (h : p.Flat) :
    1 ≤ (spliced op p).length ∧ (∀ child ∈ spliced op p, child.kind ≠ .connective op) ∧
      ∀ child ∈ spliced op p, child.Flat := by
  cases h with
  | compare op' field value => simp [spliced, Predicate.kind, Predicate.Flat.compare]
  | among op' field values => simp [spliced, Predicate.kind, Predicate.Flat.among]
  | join op' hlength hkind hflat =>
      by_cases hop : op' = op
      · subst hop
        rw [spliced, if_pos rfl]
        exact ⟨by omega, hkind, hflat⟩
      · have hjoin := Predicate.Flat.join op' hlength hkind hflat
        simp [spliced, hop, Predicate.kind, hjoin]

theorem flat_join_spliced (op : Connective) (hp : p.Flat) (hq : q.Flat) :
    (Predicate.join op (spliced op p ++ spliced op q)).Flat := by
  obtain ⟨hlength, hkind, hflat⟩ := flat_spliced op hp
  obtain ⟨hlength', hkind', hflat'⟩ := flat_spliced op hq
  refine .join op ?_ ?_ ?_
  · rw [List.length_append]
    omega
  · exact List.forall_mem_append.2 ⟨hkind, hkind'⟩
  · exact List.forall_mem_append.2 ⟨hflat, hflat'⟩

theorem leaves_spliced (op : Connective) (p : Predicate) :
    (spliced op p).flatMap Predicate.leaves = p.leaves := by
  obtain ⟨children, rfl, hspliced⟩ | hspliced := spliced_cases op p
  · rw [hspliced, Predicate.leaves_join]
  · rw [hspliced, List.flatMap_singleton]

theorem leaves_join_spliced (op : Connective) (p q : Predicate) :
    (Predicate.join op (spliced op p ++ spliced op q)).leaves = p.leaves ++ q.leaves := by
  rw [Predicate.leaves_join, List.flatMap_append, leaves_spliced, leaves_spliced]

theorem Compiles.flat (h : Compiles root e p) : p.Flat := by
  induction h with
  | logical op _ _ ihl ihr => exact flat_join_spliced op ihl ihr
  | compare op _ _ => exact .compare op _ _
  | contains _ _ _ => exact .among .isIn _ _
  | not _ ih => exact ih.negate

theorem leafOf_compare {left right : Expr} {field text : String} (negations : Nat)
    (op : Comparison) (hleft : Reads root left field) (hright : Spells right text) :
    LeafOf root (negations, .binary (.compare op) left right)
      (.turned negations (.compare op field text)) := by
  unfold Predicate.turned
  split
  · next hodd =>
    refine .compare hleft hright ?_
    rw [if_pos hodd]
    exact op.opposes_complement
  · next heven =>
    refine .compare hleft hright ?_
    rw [if_neg heven]

theorem leafOf_contains {target item : Expr} {method field : String} {texts : List String}
    (negations : Nat) (hmethod : isContains method) (hitem : Reads root item field)
    (htexts : collectionTexts target = .ok texts) :
    LeafOf root (negations, .call target method [item])
      (.turned negations (.among .isIn field texts)) := by
  obtain ⟨items, hitems, hwire⟩ := collectionTexts_eq_ok.1 htexts
  have hturned : Predicate.turned negations (.among .isIn field texts) =
      .among (if Odd negations then .notIn else .isIn) field texts := by
    unfold Predicate.turned
    split <;> rfl
  rw [hturned]
  exact .contains hmethod hitem hitems hwire

/-- The induction is on how the expression is compiled, below any number of negations: one negation
more turns the leaves of its operand once more. -/
theorem Compiles.leaves (h : Compiles root e p) (negations : Nat) :
    List.Forall₂ (LeafOf root) (e.conditions negations) (p.leaves.map (.turned negations)) := by
  induction h generalizing negations with
  | logical op _ _ ihl ihr =>
      rw [conditions, leaves_join_spliced, List.map_append]
      exact List.rel_append (ihl negations) (ihr negations)
  | compare op hleft hright =>
      exact .cons (leafOf_compare negations op hleft hright) .nil
  | contains hmethod hitem htexts =>
      exact .cons (leafOf_contains negations hmethod hitem htexts) .nil
  | not _ ih =>
      have hturned (p : Predicate) : p.negate.leaves.map (Predicate.turned negations) =
          p.leaves.map (Predicate.turned (negations + 1)) := by
        rw [Predicate.leaves_negate, List.map_map]
        exact List.map_congr_left fun leaf _ => Predicate.turned_negate negations leaf
      rw [conditions, hturned]
      exact ih (negations + 1)

end Shape

end Expr

namespace Lambda

/-- A compiled condition is flat, and its leaves are those of the source in the same order: nothing
is lost, doubled or moved. -/
theorem predicate_normal {l : Lambda} {p : Predicate} (h : l.predicate = .ok p) :
    p.Flat ∧ List.Forall₂ (Expr.LeafOf l.parameter) (l.body.conditions 0) p.leaves := by
  have hcompiles := Expr.compiles_of_predicate (Except.mapError_eq_ok.1 h)
  have hleaves := hcompiles.leaves 0
  rw [Predicate.turned_zero, List.map_id] at hleaves
  exact ⟨hcompiles.flat, hleaves⟩

/-- A comparison under no negation, and two conditions under one. -/
theorem lowLevelOthers_normal :
    lowLevelOthers.predicate = .ok lowLevelPredicate ∧ lowLevelPredicate.Flat ∧
      List.Forall₂ (Expr.LeafOf "i") [(0, ofLevelBelowSixty), (1, namedRing), (1, ofListedType)]
        [.compare .lt "level" "60", .compare .neq "name.fr" "Ring",
          .among .notIn "typeId" ["1", "16"]] :=
  ⟨predicate_lowLevelOthers, predicate_normal predicate_lowLevelOthers⟩

end Lambda

end Catalogue
