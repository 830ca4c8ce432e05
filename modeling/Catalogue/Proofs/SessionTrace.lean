import Catalogue.Proofs.SessionLaw

namespace Catalogue.Session

variable {α : Type}

def scripted (script : Nat → Reply α) : Server α := fun k _ => script k

def answers (script : Nat → Reply α) (k : Nat) : List (Reply α) := (List.range k).map script

variable {q : Query} {script : Nat → Reply α} {t : Session α}

theorem answers_succ (script : Nat → Reply α) (k : Nat) :
    answers script (k + 1) = answers script k ++ [script k] := by
  simp [answers, List.range_succ]

theorem take_answers (script : Nat → Reply α) {k n : Nat} (h : k ≤ n) :
    (answers script n).take k = answers script k := by
  rw [answers, ← List.map_take, List.take_range, Nat.min_eq_left h, answers]

theorem items_answers_mono (script : Nat → Reply α) {k n : Nat} (h : k ≤ n) :
    items (answers script k) <+: items (answers script n) := by
  apply items_mono
  rw [← take_answers script h]
  exact List.take_prefix k _

theorem Lawful.received_eq (h : Lawful (scripted script) q t) :
    t.received = answers script t.received.length := by
  apply List.ext_getElem (by simp [answers])
  intro k hk hk'
  obtain ⟨request, _, hreply⟩ := h.log.answered k _ (List.getElem?_eq_getElem hk)
  simp [hreply, answers, scripted]

theorem Lawful.take_received (h : Lawful (scripted script) q t) {k : Nat}
    (hk : k ≤ t.received.length) : t.received.take k = answers script k := by
  rw [h.received_eq, take_answers script hk]

theorem Lawful.derived (h : Lawful (scripted script) q t) {k : Nat} {request : Query}
    (hk : t.sent[k]? = some request) : request = requestAfter q (answers script k) := by
  have hlt := (List.getElem?_eq_some_iff.1 hk).1
  rw [← h.take_received (by have := h.length_received; omega)]
  exact h.log.derived k request hk

theorem Lawful.follows (h : Lawful (scripted script) q t) {k : Nat} (hpos : 0 < k)
    (hk : k < t.sent.length) : GoesOn q (answers script k) := by
  rw [← h.take_received (by have := h.length_received; omega)]
  exact h.log.follows k hpos hk

theorem Lawful.unwrapped (h : Lawful (scripted script) q t) (hword : Unwrapped q t.received)
    {k : Nat} (hk : k ≤ t.received.length) : Unwrapped q (answers script k) := by
  apply hword.mono
  rw [← h.take_received hk]
  exact List.take_prefix k _

theorem outputs_of_goesOn {replies : List (Reply α)} (h : GoesOn q replies) :
    outputs q replies = (items replies).map .ok := by
  rw [outputs, h.failure_eq, List.append_nil]

section Run

variable {arrived : Nat → Bool}

end Run

end Catalogue.Session
