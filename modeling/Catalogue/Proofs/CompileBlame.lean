import Catalogue.Proofs.CompileFaults
import Catalogue.Proofs.CompileMeaning

namespace Catalogue

namespace Except

variable {ε α β γ : Type}

def failure? : Except ε α → Option ε
  | .error cause => some cause
  | .ok _ => none

theorem failure?_eq_some {x : Except ε α} {cause : ε} :
    failure? x = some cause ↔ x = .error cause := by
  cases x <;> simp [failure?]

theorem failure?_map (f : α → β) (x : Except ε α) : failure? (f <$> x) = failure? x := by
  cases x <;> rfl

theorem failure?_bind (x : Except ε α) (y : Except ε β) (f : α → β → γ) :
    failure? (x >>= fun a => y >>= fun b => pure (f a b)) = (failure? x).or (failure? y) := by
  cases x with
  | error cause => rfl
  | ok a => cases y <;> rfl

end Except

namespace Expr

section Blame

def blame? (root : String) : Role → Expr → Option Blame
  | .condition, e => Except.failure? (predicate root e)
  | .path, e => Except.failure? (propertyPath root e)
  | .value, e => Except.failure? (valueText e)
  | .collection, e => Except.failure? (collectionTexts e)

variable (root : String)

theorem failure?_scalar (e : Expr) (value : Value) :
    Except.failure? (scalar e value) =
      (if value.wire?.isSome then none else some .notScalar).map (Blame.mk e) := by
  unfold scalar
  cases value.wire? <;> rfl

theorem failure?_mapM_scalar (e : Expr) (items : List Value) :
    Except.failure? (items.mapM (scalar e)) =
      (if items.all (·.wire?.isSome) then none else some .notScalar).map (Blame.mk e) := by
  induction items with
  | nil => rfl
  | cons item items ih =>
      rw [List.mapM_cons, Except.failure?_bind, ih, failure?_scalar, List.all_cons]
      cases item.wire? <;> rfl

def blameOperands? (role : Role) (e : Expr) : Option Blame :=
  ((roles role e).zip e.operands).findSome? fun part => blame? root part.1 part.2

theorem blameOperands?_one {role role' : Role} {e part : Expr} (hroles : roles role e = [role'])
    (hparts : e.operands = [part]) : blameOperands? root role e = blame? root role' part := by
  rw [blameOperands?, hroles, hparts]
  simp

theorem blameOperands?_two {role role' role'' : Role} {e part part' : Expr}
    (hroles : roles role e = [role', role'']) (hparts : e.operands = [part, part']) :
    blameOperands? root role e = (blame? root role' part).or (blame? root role'' part') := by
  rw [blameOperands?, hroles, hparts]
  cases h : blame? root role' part <;> simp [h]

theorem blame?_condition (e : Expr) :
    blame? root .condition e =
      ((flaw? root .condition e).map (Blame.mk e)).or (blameOperands? root .condition e) := by
  cases e with
  | binary op left right =>
      cases op with
      | compare op =>
          rw [blameOperands?_two root rfl rfl]
          exact Except.failure?_bind _ _ _
      | logical op =>
          rw [blameOperands?_two root rfl rfl]
          exact Except.failure?_bind _ _ _
      | arithmetic op => rfl
  | not e =>
      rw [blameOperands?_one root rfl rfl]
      exact Except.failure?_map _ _
  | call target method args =>
      match args with
      | [item] =>
          by_cases hmethod : isContains method
          · have hroles : roles .condition (call target method [item]) = [.path, .collection] :=
              if_pos hmethod
            rw [blameOperands?_two root hroles rfl, flaw?, if_pos hmethod, blame?, predicate,
              if_pos hmethod]
            exact Except.failure?_bind _ _ _
          · have hroles : roles .condition (call target method [item]) = [] := if_neg hmethod
            rw [blameOperands?, hroles, flaw?, if_neg hmethod, blame?, predicate, if_neg hmethod]
            rfl
      | [] | _ :: _ :: _ =>
          by_cases hmethod : isContains method
          · rw [flaw?, if_pos hmethod, blame?]
            unfold predicate
            rw [if_pos hmethod]
            rfl
          · rw [flaw?, if_neg hmethod, blame?]
            unfold predicate
            rw [if_neg hmethod]
            rfl
  | _ => rfl

theorem blame?_path (e : Expr) :
    blame? root .path e =
      ((flaw? root .path e).map (Blame.mk e)).or (blameOperands? root .path e) := by
  simp only [blame?, propertyPath, Except.failure?_map]
  cases e with
  | parameter name =>
      rw [chain, flaw?]
      split <;> rfl
  | member target name =>
      rw [blameOperands?_one root rfl rfl, chain, Except.failure?_map]
      exact (Except.failure?_map _ _).symm
  | convert e =>
      rw [blameOperands?_one root rfl rfl, chain]
      exact (Except.failure?_map _ _).symm
  | _ => rfl

theorem blame?_value (e : Expr) :
    blame? root .value e =
      ((flaw? root .value e).map (Blame.mk e)).or (blameOperands? root .value e) := by
  cases e with
  | convert e => rw [blameOperands?_one root rfl rfl]; rfl
  | constant | captured =>
      rw [blame?, valueText, failure?_scalar]
      exact Option.or_none.symm
  | _ => rfl

theorem blame?_collection (e : Expr) :
    blame? root .collection e =
      ((flaw? root .collection e).map (Blame.mk e)).or (blameOperands? root .collection e) := by
  cases e with
  | convert e => rw [blameOperands?_one root rfl rfl]; rfl
  | constant value | captured name value =>
      cases value with
      | list items =>
          rw [blame?, collectionTexts, failure?_mapM_scalar]
          exact Option.or_none.symm
      | _ => rfl
  | _ => rfl

/-- An expression is blamed for what is wrong with itself, or else for the first of its operands
that something is said against. -/
theorem blame?_eq (role : Role) (e : Expr) :
    blame? root role e =
      ((flaw? root role e).map (Blame.mk e)).or (blameOperands? root role e) := by
  cases role with
  | condition => exact blame?_condition root e
  | path => exact blame?_path root e
  | value => exact blame?_value root e
  | collection => exact blame?_collection root e

end Blame

section First

variable {root : String} {role : Role} {e : Expr}

/-- What is said against an expression is its first fault, and nothing is said if it has none. -/
def Reports (root : String) (role : Role) (e : Expr) : Option Blame → Prop
  | none => ∀ address reason, ¬ Fault root role e address reason
  | some blame => ∃ address, FirstFault root role e address blame

theorem reports_operands (hflaw : flaw? root role e = none)
    (ih : ∀ part ∈ e.operands, ∀ role', Reports root role' part (blame? root role' part)) :
    Reports root role e (blameOperands? root role e) := by
  have clear {k : Nat} {other : List Nat} {reason : Reason}
      (hnone : ∀ asked, ((roles role e).zip e.operands)[k]? = some asked →
        blame? root asked.1 asked.2 = none) : ¬ Fault root role e (k :: other) reason := by
    intro hfault
    obtain ⟨role', part, hrole, hpart, hfault⟩ := fault_cons.1 hfault
    have hreports := ih part (List.mem_of_getElem? hpart) role'
    rw [hnone (role', part) (List.getElem?_zip_eq_some.2 ⟨hrole, hpart⟩)] at hreports
    exact hreports other reason hfault
  cases hblame : blameOperands? root role e with
  | none =>
      have hnone := List.findSome?_eq_none_iff.1 hblame
      intro address reason hfault
      cases address with
      | nil =>
          cases hfault with | own h =>
          rw [hflaw] at h
          cases h
      | cons k other =>
          exact clear (fun asked hasked => hnone asked (List.mem_of_getElem? hasked)) hfault
  | some blame =>
      obtain ⟨before, ⟨role', part⟩, after, hparts, hpart, hnone⟩ :=
        List.findSome?_eq_some_iff.1 hblame
      have hasked : ((roles role e).zip e.operands)[before.length]? = some (role', part) := by
        simp [hparts]
      obtain ⟨hrole, hoperand⟩ := List.getElem?_zip_eq_some.1 hasked
      have hreports := ih part (List.mem_of_getElem? hoperand) role'
      rw [hpart] at hreports
      obtain ⟨address, hfirst⟩ := hreports
      refine ⟨before.length :: address, firstFault_cons.2 ⟨⟨_, _, hrole, hoperand, hfirst⟩, ?_⟩⟩
      intro k hk other reason
      refine clear fun asked hasked => hnone asked ?_
      rw [hparts, List.getElem?_append_left hk] at hasked
      exact List.mem_of_getElem? hasked

theorem blame?_reports (root : String) (role : Role) (e : Expr) :
    Reports root role e (blame? root role e) := by
  induction e using operands_induction generalizing role with
  | step e ih =>
      rw [blame?_eq]
      cases hflaw : flaw? root role e with
      | some reason => exact ⟨[], firstFault_own hflaw⟩
      | none => exact reports_operands hflaw ih

theorem predicate_eq_error {blame : Blame} :
    predicate root e = .error blame ↔ ∃ address, FirstFault root .condition e address blame := by
  have hreports := blame?_reports root .condition e
  rw [← Except.failure?_eq_some]
  change blame? root .condition e = some blame ↔ _
  constructor
  · intro h
    rwa [h] at hreports
  · rintro ⟨address, hfirst⟩
    cases h : blame? root .condition e with
    | none =>
        rw [h] at hreports
        exact absurd hfirst.fault (hreports address blame.reason)
    | some blame' =>
        rw [h] at hreports
        obtain ⟨other, hother⟩ := hreports
        rw [hother.unique hfirst]

theorem not_fault_of_predicate {p : Predicate} (h : predicate root e = .ok p) (address : List Nat)
    (reason : Reason) : ¬ Fault root .condition e address reason := by
  have hreports := blame?_reports root .condition e
  rw [blame?, h] at hreports
  exact hreports address reason

end First

end Expr

namespace Lambda

open Catalogue.Expr

/-- A filter is refused for its first fault in the order of evaluation, with the text of the
expression that has it, and also if what is evaluated later is something else. -/
theorem predicate_reports_first (l : Lambda) :
    (∀ error, l.predicate = .error error ↔
      ∃ address blame, FirstFault l.parameter .condition l.body address blame ∧
        error = .invalidExpression blame.expr.text blame.reason.text) ∧
      ∀ address blame, FirstFault l.parameter .condition l.body address blame →
        ∀ other, Before address other → ∀ new,
          FirstFault l.parameter .condition (l.body.replace new other) address blame ∧
            (Lambda.mk l.parameter (l.body.replace new other)).predicate =
              .error (.invalidExpression blame.expr.text blame.reason.text) := by
  have reported (l : Lambda) {address : List Nat} {blame : Blame}
      (h : FirstFault l.parameter .condition l.body address blame) :
      l.predicate = .error (.invalidExpression blame.expr.text blame.reason.text) :=
    Except.mapError_eq_error.2 ⟨blame, predicate_eq_error.2 ⟨address, h⟩, rfl⟩
  constructor
  · intro error
    constructor
    · intro h
      obtain ⟨blame, hblame, rfl⟩ := Except.mapError_eq_error.1 h
      obtain ⟨address, hfirst⟩ := predicate_eq_error.1 hblame
      exact ⟨address, blame, hfirst, rfl⟩
    · rintro ⟨address, blame, hfirst, rfl⟩
      exact reported l hfirst
  · intro address blame hfirst other hbefore new
    have hreplaced := hfirst.replace hbefore new
    exact ⟨hreplaced, reported ⟨l.parameter, _⟩ hreplaced⟩

def strangeName : Expr := .compare .eq ((Expr.parameter "x").path ["Name"]) (.list [])

def lowStrange : Lambda := ⟨"i", .and ofLevelBelowSixty (.not strangeName)⟩

theorem firstFault_lowStrange :
    FirstFault "i" .condition lowStrange.body [1, 0, 0, 0]
      ⟨.parameter "x", .notMemberChain "i"⟩ := by
  have hsubject : FirstFault "i" .path (.parameter "x") [] ⟨.parameter "x", .notMemberChain "i"⟩ :=
    firstFault_own rfl
  have hnot : FirstFault "i" .condition (.not strangeName) [0, 0, 0]
      ⟨.parameter "x", .notMemberChain "i"⟩ :=
    .firstOperand rfl rfl (.firstOperand rfl rfl (.firstOperand rfl rfl hsubject))
  refine firstFault_cons.2 ⟨⟨.condition, .not strangeName, rfl, rfl, hnot⟩, ?_⟩
  intro k hk other reason hfault
  obtain rfl : k = 0 := Nat.lt_one_iff.1 hk
  obtain ⟨role, part, hrole, hpart, hfault⟩ := fault_cons.1 hfault
  cases hrole
  cases hpart
  exact not_fault_of_predicate (p := .compare .lt "level" "60") rfl other reason hfault

/-- The unknown subject is reported, and still is with another value in the place of the list. -/
theorem lowStrange_reports_subject :
    lowStrange.predicate =
        .error (.invalidExpression "x" "expected a member chain rooted at `i`") ∧
      Before [1, 0, 0, 0] [1, 0, 1] ∧
      (Lambda.mk "i" (lowStrange.body.replace (.captured "name" .null) [1, 0, 1])).predicate =
        .error (.invalidExpression "x" "expected a member chain rooted at `i`") := by
  have hbefore : Before [1, 0, 0, 0] [1, 0, 1] := .within 1 (.within 0 (.here [0] [] (by decide)))
  obtain ⟨hreported, hreplaced⟩ := predicate_reports_first lowStrange
  refine ⟨(hreported _).2 ⟨_, _, firstFault_lowStrange, rfl⟩, hbefore, ?_⟩
  exact (hreplaced _ _ firstFault_lowStrange _ hbefore _).2

end Lambda

end Catalogue
