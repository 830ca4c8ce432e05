import Catalogue.Expr.Compile
import Catalogue.Proofs.ExprAddress

namespace Catalogue.Expr

inductive Role
  | condition | path | value | collection
  deriving Repr, DecidableEq

/-- What the operands of an expression are to be compiled to for it to be compiled to what it is to
be. There are none if it is not compiled from its operands. -/
def roles : Role → Expr → List Role
  | .condition, binary (.logical _) .. => [.condition, .condition]
  | .condition, binary (.compare _) .. => [.path, .value]
  | .condition, not _ => [.condition]
  | .condition, call _ method [_] => if isContains method then [.path, .collection] else []
  | .path, member .. => [.path]
  | .path, convert _ => [.path]
  | .value, convert _ => [.value]
  | .collection, convert _ => [.collection]
  | _, _ => []

def flaw? (root : String) : Role → Expr → Option Reason
  | .condition, binary (.arithmetic op) .. => some (.notComparison (.arithmetic op))
  | .condition, binary .. => none
  | .condition, not _ => none
  | .condition, apply method _ => some (if isContains method then .noCollection else .notPredicate)
  | .condition, call _ method args =>
    if isContains method then if args.length = 1 then none else some .notOneArgument
    else some .notPredicate
  | .condition, _ => some .notPredicate
  | .path, parameter name => if name = root then none else some (.notMemberChain root)
  | .path, member .. => none
  | .path, static _ => none
  | .path, convert _ => none
  | .path, _ => some (.notMemberChain root)
  | .value, convert _ => none
  | .value, constant value => if value.wire?.isSome then none else some .notScalar
  | .value, captured _ value => if value.wire?.isSome then none else some .notScalar
  | .value, _ => some .notConstant
  | .collection, convert _ => none
  | .collection, constant (.list items) =>
    if items.all (·.wire?.isSome) then none else some .notScalar
  | .collection, captured _ (.list items) =>
    if items.all (·.wire?.isSome) then none else some .notScalar
  | .collection, _ => some .notCollection

inductive Fault (root : String) : Role → Expr → List Nat → Reason → Prop
  | own {role : Role} {e : Expr} {reason : Reason} :
      flaw? root role e = some reason → Fault root role e [] reason
  | within {role role' : Role} {e part : Expr} {i : Nat} {address : List Nat} {reason : Reason} :
      (roles role e)[i]? = some role' → e.operands[i]? = some part →
        Fault root role' part address reason → Fault root role e (i :: address) reason

/-- All other faults come later. -/
structure FirstFault (root : String) (role : Role) (e : Expr) (address : List Nat)
    (blame : Blame) : Prop where
  at?_eq : e.at? address = some blame.expr
  fault : Fault root role e address blame.reason
  first : ∀ other reason, Fault root role e other reason →
    (other = address ∧ reason = blame.reason) ∨ Before address other

section Roles

theorem roles_call (role : Role) (target target' : Expr) (method : String) {args args' : List Expr}
    (h : args'.length = args.length) :
    roles role (call target' method args') = roles role (call target method args) := by
  match args, args', h with
  | [], [], _ | [_], [_], _ | _ :: _ :: _, _ :: _ :: _, _ => cases role <;> rfl

theorem roles_withOperand (role : Role) (e : Expr) (i : Nat) (part : Expr) :
    roles role (e.withOperand i part) = roles role e := by
  cases e with
  | call target method args =>
      rw [withOperand]
      split
      · exact roles_call role target part method rfl
      · exact roles_call role target target method (List.length_set)
  | binary op left right =>
      rcases i with _ | _ | i
      · cases role <;> cases op <;> rfl
      · cases role <;> cases op <;> rfl
      · rfl
  | member | convert | not => cases i <;> cases role <;> rfl
  | apply method args => cases role <;> rfl
  | parameter | static | constant | captured => rw [withOperand] <;> simp

theorem roles_replace (role : Role) (e new : Expr) (i : Nat) (address : List Nat) :
    roles role (e.replace new (i :: address)) = roles role e := by
  rw [replace]
  split
  · rfl
  · exact roles_withOperand role e i _

end Roles

section Faults

variable {root : String} {role : Role} {e : Expr} {i : Nat} {address : List Nat}

theorem roles_of_flaw {reason : Reason} (h : flaw? root role e = some reason) :
    roles role e = [] := by
  cases role with
  | condition =>
      cases e with
      | binary op left right =>
          cases op with
          | arithmetic op => rfl
          | compare op | logical op => cases h
      | not e => cases h
      | call target method args =>
          rw [flaw?] at h
          by_cases hmethod : isContains method
          · match args with
            | [] | _ :: _ :: _ => rfl
            | [_] => simp [hmethod] at h
          · match args with
            | [] | _ :: _ :: _ => rfl
            | [_] => exact if_neg hmethod
      | _ => rfl
  | path =>
      cases e with
      | member target name => cases h
      | convert e => cases h
      | _ => rfl
  | value | collection =>
      cases e with
      | convert e => cases h
      | _ => rfl

theorem fault_cons {reason : Reason} :
    Fault root role e (i :: address) reason ↔
      ∃ role' part, (roles role e)[i]? = some role' ∧ e.operands[i]? = some part ∧
        Fault root role' part address reason := by
  constructor
  · rintro (_ | ⟨hrole, hpart, h⟩)
    exact ⟨_, _, hrole, hpart, h⟩
  · rintro ⟨role', part, hrole, hpart, h⟩
    exact .within hrole hpart h

theorem firstFault_cons {blame : Blame} :
    FirstFault root role e (i :: address) blame ↔
      (∃ role' part, (roles role e)[i]? = some role' ∧ e.operands[i]? = some part ∧
        FirstFault root role' part address blame) ∧
      ∀ k < i, ∀ other reason, ¬ Fault root role e (k :: other) reason := by
  constructor
  · intro h
    obtain ⟨role', part, hrole, hpart, hfault⟩ := fault_cons.1 h.fault
    refine ⟨⟨role', part, hrole, hpart, ?_, hfault, ?_⟩, ?_⟩
    · simpa [at?, hpart] using h.at?_eq
    · intro other reason hother
      rcases h.first _ _ (.within hrole hpart hother) with ⟨heq, hreason⟩ | hbefore
      · exact .inl ⟨(List.cons.inj heq).2, hreason⟩
      · cases hbefore with
        | here _ _ hlt => exact absurd hlt (Nat.lt_irrefl i)
        | within _ hbefore => exact .inr hbefore
    · intro k hk other reason hother
      rcases h.first _ _ hother with ⟨heq, -⟩ | hbefore
      · exact absurd (List.cons.inj heq).1 (Nat.ne_of_lt hk)
      · cases hbefore with
        | here _ _ hlt => exact absurd hlt (Nat.lt_asymm hk)
        | within _ hbefore => exact absurd hk (Nat.lt_irrefl i)
  · rintro ⟨⟨role', part, hrole, hpart, h⟩, hclear⟩
    refine ⟨?_, .within hrole hpart h.fault, ?_⟩
    · rw [at?, hpart]
      exact h.at?_eq
    · intro other reason hother
      cases hother with
      | own hflaw =>
          rw [roles_of_flaw hflaw] at hrole
          cases hrole
      | @within _ role'' _ part' k other _ hrole' hpart' hother =>
          rcases Nat.lt_trichotomy k i with hlt | rfl | hgt
          · exact absurd (.within hrole' hpart' hother) (hclear k hlt other reason)
          · cases hrole.symm.trans hrole'
            cases hpart.symm.trans hpart'
            rcases h.first other reason hother with ⟨rfl, hreason⟩ | hbefore
            · exact .inl ⟨rfl, hreason⟩
            · exact .inr (.within k hbefore)
          · exact .inr (.here address other hgt)

theorem FirstFault.replace {blame : Blame} {other : List Nat} (hbefore : Before address other)
    (new : Expr) (h : FirstFault root role e address blame) :
    FirstFault root role (e.replace new other) address blame := by
  induction hbefore generalizing role e with
  | @here i j address other hlt =>
      obtain ⟨⟨role', part, hrole, hpart, hfirst⟩, hclear⟩ := firstFault_cons.1 h
      refine firstFault_cons.2 ⟨⟨role', part, ?_, ?_, hfirst⟩, ?_⟩
      · rwa [roles_replace]
      · rwa [operands_replace_of_ne e new other (Nat.ne_of_lt hlt)]
      · intro k hk other' reason hother
        rw [fault_cons, roles_replace,
          operands_replace_of_ne e new other (Nat.ne_of_lt (Nat.lt_trans hk hlt))] at hother
        exact hclear k hk other' reason (fault_cons.2 hother)
  | @within i address other _ ih =>
      obtain ⟨⟨role', part, hrole, hpart, hfirst⟩, hclear⟩ := firstFault_cons.1 h
      refine firstFault_cons.2 ⟨⟨role', _, ?_, operands_replace new other hpart, ih hfirst⟩, ?_⟩
      · rwa [roles_replace]
      · intro k hk other' reason hother
        rw [fault_cons, roles_replace,
          operands_replace_of_ne e new other (Nat.ne_of_lt hk)] at hother
        exact hclear k hk other' reason (fault_cons.2 hother)

theorem firstFault_own {reason : Reason} (h : flaw? root role e = some reason) :
    FirstFault root role e [] ⟨e, reason⟩ where
  at?_eq := rfl
  fault := .own h
  first other reason' hother := by
    cases hother with
    | own h' =>
        rw [h] at h'
        exact .inl ⟨rfl, (Option.some.inj h').symm⟩
    | within hrole _ _ =>
        rw [roles_of_flaw h] at hrole
        cases hrole

theorem FirstFault.unique {address other : List Nat} {blame blame' : Blame}
    (h : FirstFault root role e address blame) (h' : FirstFault root role e other blame') :
    blame = blame' := by
  rcases h.first _ _ h'.fault with ⟨rfl, hreason⟩ | hbefore
  · have hexpr := h.at?_eq.symm.trans h'.at?_eq
    cases blame
    cases blame'
    cases hexpr
    cases hreason
    rfl
  · rcases h'.first _ _ h.fault with ⟨rfl, -⟩ | hbefore'
    · exact absurd hbefore hbefore.asymm
    · exact absurd hbefore' hbefore.asymm

theorem FirstFault.firstOperand {role' : Role} {part : Expr} {address : List Nat} {blame : Blame}
    (hrole : (roles role e)[0]? = some role') (hpart : e.operands[0]? = some part)
    (h : FirstFault root role' part address blame) :
    FirstFault root role e (0 :: address) blame :=
  firstFault_cons.2 ⟨⟨role', part, hrole, hpart, h⟩, fun k hk => absurd hk (Nat.not_lt_zero k)⟩

end Faults

end Catalogue.Expr
