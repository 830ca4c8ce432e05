import Catalogue.Proofs.SessionCancel
import Mathlib.Order.Lattice.Nat

namespace Catalogue.Session

variable {α : Type}

/-- A search that is cancelled stays cancelled. -/
def Latched (cancelled : Nat → Bool) : Prop :=
  ∀ m n, m ≤ n → cancelled m = true → cancelled n = true

section Requests

variable {server : Server α} {q : Query} {t : Session α}

end Requests

section End

variable {server : Server α} {q : Query} {t : Session α} {cancelled arrived : Nat → Bool}

variable (server t arrived) in
theorem exists_halted (latched : Latched cancelled) (n : Nat) :
    ∃ m k, m + k = n ∧ run server cancelled arrived t n =
      run server (fun _ => true) (fun i => arrived (m + i)) (quietRun server arrived t m) k := by
  induction n with
  | zero => exact ⟨0, 0, rfl, rfl⟩
  | succ n ih =>
      by_cases hn : cancelled n = true
      · obtain ⟨m, k, rfl, hrun⟩ := ih
        exact ⟨m, k + 1, rfl, by rw [run, hn, hrun]; rfl⟩
      · refine ⟨n + 1, 0, rfl, ?_⟩
        apply run_congr
        intro m hm
        have hnot := mt (latched m n (by omega)) hn
        simpa using hnot

theorem exists_quiet (latched : Latched cancelled) (n : Nat) :
    ∃ m, (run server cancelled arrived t n).sent = (quietRun server arrived t m).sent ∧
      (run server cancelled arrived t n).received = (quietRun server arrived t m).received := by
  obtain ⟨m, k, -, hrun⟩ := exists_halted server t arrived latched n
  exact ⟨m, by rw [hrun, halted_sent], by rw [hrun, halted_received]⟩

end End

def cancelledLate (m : Nat) : Bool := decide (20 ≤ m)

section Wrapped

theorem Lawful.received_replicate {page : Page α} {q : Query} {t : Session α}
    (h : Lawful (fun _ _ => .ok page) q t) :
    t.received = List.replicate t.received.length (.ok page) := by
  refine List.eq_replicate_of_mem fun reply hreply => ?_
  obtain ⟨k, hk⟩ := List.getElem?_of_mem hreply
  obtain ⟨request, -, hreply⟩ := h.log.answered k reply hk
  exact hreply

theorem length_items_replicate (page : Page α) (n : Nat) :
    (items (List.replicate n (.ok page))).length = n * page.data.length := by
  simp [items, List.length_flatMap]

/-- From the last position but one, pages of two items never come to the last one, so that the
search goes on for ever, though no total is greater than that. -/
theorem endless_search (arrived : Nat → Bool) (n : Nat) :
    let server : Server Nat := fun _ _ => .ok ⟨2 ^ 64 - 1, 2, 0, [7, 7]⟩
    (quietRun server arrived (start "items" { skip := some (2 ^ 64 - 2) }) n).closed = false := by
  intro server
  have h := (start_lawful server "items" { skip := some (2 ^ 64 - 2) }).run arrived n
  by_contra hclosed
  obtain ⟨-, hne, hstop, -⟩ := h.stopped (by simpa using hclosed)
  obtain ⟨k, hk⟩ := Nat.exists_eq_add_one_of_ne_zero (mt List.eq_nil_of_length_eq_zero hne)
  rw [h.received_replicate, hk] at hstop
  refine hstop ⟨⟨2 ^ 64 - 1, 2, 0, [7, 7]⟩, by simp [List.getLast?_replicate], by simp, ?_, by simp⟩
  -- An even position is never the odd total, and it stays even when it wraps.
  simp only [length_items_replicate, Query.position, UInt64.size, Option.getD_some,
    List.length_cons, List.length_nil]
  omega

end Wrapped

end Catalogue.Session
