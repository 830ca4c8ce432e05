import Catalogue.Proofs.CompileMeaning

namespace Catalogue

namespace Expr

/-- The least congruence of the connectives with the laws of grouping, of double negation and of
De Morgan. -/
inductive Rearranged : Expr → Expr → Prop
  | refl (e : Expr) : Rearranged e e
  | symm {e f : Expr} : Rearranged e f → Rearranged f e
  | trans {e f g : Expr} : Rearranged e f → Rearranged f g → Rearranged e g
  | logical (op : Connective) {a a' b b' : Expr} : Rearranged a a' → Rearranged b b' →
      Rearranged (.binary (.logical op) a b) (.binary (.logical op) a' b')
  | not {a a' : Expr} : Rearranged a a' → Rearranged (.not a) (.not a')
  | regroup (op : Connective) (a b c : Expr) :
      Rearranged (.binary (.logical op) (.binary (.logical op) a b) c)
        (.binary (.logical op) a (.binary (.logical op) b c))
  | notNot (a : Expr) : Rearranged (.not (.not a)) a
  | deMorgan (op : Connective) (a b : Expr) :
      Rearranged (.not (.binary (.logical op) a b)) (.binary (.logical op.dual) (.not a) (.not b))

def joined (op : Connective) (p q : Predicate) : Predicate :=
  .join op (spliced op p ++ spliced op q)

section Joined

variable (op : Connective) (p q r : Predicate)

theorem spliced_joined : spliced op (joined op p q) = spliced op p ++ spliced op q := by
  rw [joined, spliced, if_pos rfl]

theorem joined_assoc : joined op (joined op p q) r = joined op p (joined op q r) := by
  rw [joined, spliced_joined, List.append_assoc, ← spliced_joined op q r]
  rfl

theorem spliced_negate : spliced op.dual p.negate = (spliced op p).map Predicate.negate := by
  cases p with
  | compare | among => rfl
  | join op' children =>
      have hdual : op'.dual = op.dual ↔ op' = op := by cases op <;> cases op' <;> decide
      by_cases hop : op' = op
      · rw [Predicate.negate, spliced, spliced, if_pos hop, if_pos (hdual.2 hop),
          Predicate.negateAll_eq_map]
      · rw [Predicate.negate, spliced, spliced, if_neg hop, if_neg (mt hdual.1 hop),
          List.map_singleton, Predicate.negate]

theorem negate_joined : (joined op p q).negate = joined op.dual p.negate q.negate := by
  rw [joined, joined, Predicate.negate, Predicate.negateAll_eq_map, List.map_append,
    spliced_negate, spliced_negate]

end Joined

section Laws

variable (root : String)

theorem predicate_logical (op : Connective) (a b : Expr) :
    predicate root (.binary (.logical op) a b) = (do
      let p ← predicate root a
      let q ← predicate root b
      pure (joined op p q)) := by
  rw [predicate]
  rfl

theorem predicate_not (a : Expr) :
    predicate root (.not a) = (do
      let p ← predicate root a
      pure p.negate) := by
  rw [predicate, map_eq_pure_bind]

theorem predicate_regroup (op : Connective) (a b c : Expr) :
    predicate root (.binary (.logical op) (.binary (.logical op) a b) c) =
      predicate root (.binary (.logical op) a (.binary (.logical op) b c)) := by
  simp only [predicate_logical, bind_assoc, pure_bind, joined_assoc]

theorem predicate_notNot (a : Expr) : predicate root (.not (.not a)) = predicate root a := by
  simp only [predicate_not, bind_assoc, pure_bind, Predicate.negate_negate, bind_pure]

theorem predicate_deMorgan (op : Connective) (a b : Expr) :
    predicate root (.not (.binary (.logical op) a b)) =
      predicate root (.binary (.logical op.dual) (.not a) (.not b)) := by
  simp only [predicate_not, predicate_logical, bind_assoc, pure_bind, negate_joined]

theorem Rearranged.predicate_eq {e f : Expr} (h : Rearranged e f) :
    predicate root e = predicate root f := by
  induction h with
  | refl e => rfl
  | symm _ ih => exact ih.symm
  | trans _ _ ih ih' => exact ih.trans ih'
  | logical op _ _ iha ihb => rw [predicate_logical, predicate_logical, iha, ihb]
  | not _ ih => rw [predicate_not, predicate_not, ih]
  | regroup op a b c => exact predicate_regroup root op a b c
  | notNot a => exact predicate_notNot root a
  | deMorgan op a b => exact predicate_deMorgan root op a b

end Laws

end Expr

namespace Lambda

/-- A filter can be regrouped, and its negations moved, without any change in what is sent for it or
in the error it is refused with. -/
theorem predicate_rearranged (parameter : String) {e f : Expr} (h : Expr.Rearranged e f) :
    (Lambda.mk parameter e).predicate = (Lambda.mk parameter f).predicate := by
  rw [predicate, predicate, h.predicate_eq parameter]

def lowLevelOthersApart : Expr :=
  .and (.and ofLevelBelowSixty (.not namedRing)) (.not ofListedType)

theorem rearranged_lowLevelOthers :
    Expr.Rearranged lowLevelOthersApart lowLevelOthers.body := by
  have hapart : Expr.Rearranged lowLevelOthersApart
      (.and ofLevelBelowSixty (.and (.not namedRing) (.not ofListedType))) :=
    .regroup .and _ _ _
  have hnegations : Expr.Rearranged (.and (.not namedRing) (.not ofListedType))
      (.not (.or namedRing ofListedType)) :=
    .symm (.deMorgan .or namedRing ofListedType)
  exact .trans hapart (.logical .and (.refl ofLevelBelowSixty) hnegations)

/-- Both are sent as one conjunction, and refused alike where their subject is unknown. -/
theorem lowLevelOthers_rearranged :
    Expr.Rearranged lowLevelOthersApart lowLevelOthers.body ∧
      (Lambda.mk "i" lowLevelOthersApart).predicate = .ok lowLevelPredicate ∧
      (Lambda.mk "x" lowLevelOthersApart).predicate =
        .error (.invalidExpression "i" "expected a member chain rooted at `x`") := by
  have h := rearranged_lowLevelOthers
  refine ⟨h, ?_, ?_⟩
  · rw [predicate_rearranged "i" h]
    exact predicate_lowLevelOthers
  · rw [predicate_rearranged "x" h]
    rfl

end Lambda

end Catalogue
