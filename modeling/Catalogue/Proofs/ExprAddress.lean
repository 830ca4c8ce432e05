import Catalogue.Expr.Basic

namespace Catalogue.Expr

/-- The expressions below an expression in the order of evaluation: those of a binary operator from
left to right, and the arguments of a call before its target. -/
def operands : Expr → List Expr
  | member target _ => [target]
  | convert e => [e]
  | not e => [e]
  | binary _ left right => [left, right]
  | call target _ args => args ++ [target]
  | apply _ args => args
  | _ => []

def withOperand (e : Expr) (i : Nat) (part : Expr) : Expr :=
  match e, i with
  | member _ name, 0 => member part name
  | convert _, 0 => convert part
  | not _, 0 => not part
  | binary op _ right, 0 => binary op part right
  | binary op left _, 1 => binary op left part
  | call target method args, i =>
    if i = args.length then call part method args else call target method (args.set i part)
  | apply method args, i => apply method (args.set i part)
  | e, _ => e

def at? (e : Expr) : List Nat → Option Expr
  | [] => some e
  | i :: address => e.operands[i]?.bind fun part => part.at? address

def replace (e new : Expr) : List Nat → Expr
  | [] => new
  | i :: address =>
    match e.operands[i]? with
    | none => e
    | some part => e.withOperand i (part.replace new address)

/-- What is at the first address is evaluated before what is at the second, which is not in it. -/
inductive Before : List Nat → List Nat → Prop
  | here {i j : Nat} (address other : List Nat) : i < j → Before (i :: address) (j :: other)
  | within (i : Nat) {address other : List Nat} :
      Before address other → Before (i :: address) (i :: other)

section Addresses

variable {e part : Expr} {i j : Nat}

theorem operands_withOperand (e : Expr) (i : Nat) (part : Expr) :
    (e.withOperand i part).operands = e.operands.set i part := by
  cases e with
  | call target method args =>
      rw [withOperand, operands, List.set_append]
      by_cases htarget : i = args.length
      · simp [htarget, operands]
      · rcases Nat.lt_or_gt_of_ne htarget with hlt | hgt
        · simp [htarget, hlt, operands]
        · have hout : 1 ≤ i - args.length := by omega
          simp [htarget, operands, List.set_eq_of_length_le, hout, Nat.le_of_lt hgt]
  | binary op left right =>
      match i with
      | 0 | 1 => rfl
      | i + 2 => simp [withOperand, operands]
  | member | convert | not => cases i <;> simp [withOperand, operands]
  | apply method args => rfl
  | parameter | static | constant | captured => simp [withOperand, operands]

theorem operands_replace_of_ne (e new : Expr) (address : List Nat) (h : i ≠ j) :
    (e.replace new (j :: address)).operands[i]? = e.operands[i]? := by
  rw [replace]
  split
  · rfl
  · rw [operands_withOperand, List.getElem?_set_ne h.symm]

theorem operands_replace (new : Expr) (address : List Nat) (h : e.operands[i]? = some part) :
    (e.replace new (i :: address)).operands[i]? = some (part.replace new address) := by
  obtain ⟨hlt, -⟩ := List.getElem?_eq_some_iff.1 h
  simp only [replace, h]
  rw [operands_withOperand, List.getElem?_set_self hlt]

end Addresses

theorem Before.asymm {address other : List Nat} (h : Before address other) :
    ¬ Before other address := by
  induction h with
  | here address other hlt =>
      rintro (⟨_, _, hlt'⟩ | ⟨_, _⟩)
      · exact Nat.lt_asymm hlt hlt'
      · exact Nat.lt_irrefl _ hlt
  | within i _ ih =>
      rintro (⟨_, _, hlt⟩ | ⟨_, h⟩)
      · exact Nat.lt_irrefl i hlt
      · exact ih h

theorem sizeOf_lt_of_mem_operands {e part : Expr} (h : part ∈ e.operands) :
    sizeOf part < sizeOf e := by
  cases e with
  | call target method args =>
      rw [call.sizeOf_spec]
      rcases List.mem_append.1 h with hargs | htarget
      · have hlt := List.sizeOf_lt_of_mem hargs
        omega
      · rw [List.mem_singleton.1 htarget]
        omega
  | apply method args =>
      have hlt : sizeOf part < sizeOf args := List.sizeOf_lt_of_mem h
      rw [apply.sizeOf_spec]
      omega
  | binary op left right =>
      rw [binary.sizeOf_spec]
      rcases List.mem_cons.1 h with rfl | hright
      · omega
      · rw [List.mem_singleton.1 hright]
        omega
  | member target name =>
      rw [List.mem_singleton.1 h, member.sizeOf_spec]
      omega
  | convert e | not e =>
      rw [List.mem_singleton.1 h]
      simp
  | parameter | static | constant | captured => cases h

/-- To show something of all expressions, it may be taken to hold of the operands of one. -/
theorem operands_induction {motive : Expr → Prop}
    (step : ∀ e, (∀ part ∈ e.operands, motive part) → motive e) (e : Expr) : motive e :=
  step e fun part _ => operands_induction step part
termination_by e
decreasing_by exact sizeOf_lt_of_mem_operands ‹_›

end Catalogue.Expr
