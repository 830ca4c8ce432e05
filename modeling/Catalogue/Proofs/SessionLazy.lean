import Catalogue.Proofs.SessionTrace
import Mathlib.Order.Bounds.Basic

namespace Catalogue.Session

variable {α : Type}

def awaiting (t : Session α) : Bool :=
  match t.stream.phase with
  | .waiting _ => true
  | _ => false

def asking (t : Session α) : Nat := if t.awaiting then 0 else 1

/-- The outputs that the first polls of a run ask for. -/
def asked (run : Nat → Session α) (m : Nat) : Nat :=
  (List.range m).countP fun j => !(run j).awaiting

/-- The outputs that the first polls of a run come back with, where the end counts as one whenever
it is told. -/
def told (run : Nat → Session α) (m : Nat) : Nat :=
  (List.range m).countP fun j => !(run (j + 1)).awaiting

/-- The replies tell what the output at a place is, counted from one: it is among theirs, or the
stream is over by then. -/
def Decided (q : Query) (replies : List (Reply α)) (place : Nat) : Prop :=
  place ≤ (outputs q replies).length ∨ replies ≠ [] ∧ ¬ GoesOn q replies

/-- How far a session is with the outputs it was asked for. Of those that belong to a page that is
received, at least the first is asked for. -/
structure Paced (t : Session α) (asked : Nat) : Prop where
  waiting : t.awaiting = true → asked = t.given.length + 1
  level : t.awaiting = false → t.closed = false → asked = t.given.length
  ended : t.closed = true → t.given.length < asked
  begun : t.awaiting = false → t.received ≠ [] → (items t.received.dropLast).length < asked

variable {server : Server α} {q : Query} {t u : Session α}

theorem not_awaiting {request : Query} (h : t.stream.request? = some request) :
    t.awaiting = false := by
  unfold Stream.request? at h
  unfold awaiting
  split at h <;> simp_all

theorem exists_request {arrived : Bool} (h : (t.poll server false arrived).sent ≠ t.sent) :
    ∃ request, t.stream.request? = some request := by
  cases hr : t.stream.request? with
  | some request => exact ⟨request, rfl⟩
  | none => simp [poll, hr] at h

theorem Lawful.not_closed (h : Lawful server q t) (hp : t.stream.phase ≠ .ended) :
    t.closed = false := by
  by_contra hclosed
  exact hp (h.closed (by simpa using hclosed))

theorem Lawful.not_closed_of_request {request : Query} (h : Lawful server q t)
    (hr : t.stream.request? = some request) : t.closed = false := by
  apply h.not_closed
  intro hp
  simp [Stream.request?, hp] at hr

theorem Lawful.closed_awaiting (h : Lawful server q t) (hclosed : t.closed = true) :
    t.awaiting = false := by
  simp [awaiting, h.closed hclosed]

theorem Lawful.ahead (h : Lawful server q t) (hwait : t.awaiting = true) :
    t.sent.length = t.received.length + 1 ∧ t.given = (items t.received).map .ok := by
  have hstage := h.stage
  unfold awaiting at hwait
  generalize t.stream.phase = phase at hstage hwait
  cases hstage with
  | waiting ahead given_eq => exact ⟨ahead, given_eq⟩
  | ready | giving | ended => cases hwait

theorem Lawful.level (h : Lawful server q t) (hwait : t.awaiting = false) :
    t.sent.length = t.received.length := by
  have hstage := h.stage
  unfold awaiting at hwait
  generalize t.stream.phase = phase at hstage hwait
  cases hstage with
  | waiting => cases hwait
  | ready sent_eq received_eq => simp [sent_eq, received_eq]
  | giving _ _ level | ended level => exact level

theorem Lawful.paced_sending {request : Query} {count : Nat} (h : Lawful server q t)
    (hr : t.stream.request? = some request) (hpace : Paced t count) :
    Paced (t.sending request) (count + 1) := by
  have hopen := h.not_closed_of_request hr
  have hcount := hpace.level (not_awaiting hr) hopen
  refine ⟨fun _ => ?_, nofun, fun hclosed => ?_, nofun⟩
  · simp [Session.sending, hcount]
  · simp [Session.sending, hopen] at hclosed

theorem Lawful.paced_replied {request : Query} {count : Nat} (h : Lawful server q t)
    (hp : t.stream.phase = .waiting request) (hpace : Paced t count) :
    Paced (t.replied request (server t.received.length request)) count := by
  have hcount := hpace.waiting (by simp [awaiting, hp])
  have hopen := h.not_closed (by simp [hp])
  have hstage := h.stage
  rw [hp] at hstage
  cases hstage with
  | waiting ahead given_eq =>
      have hitems : (items t.received).length < count := by
        rw [hcount, given_eq, List.length_map]
        exact Nat.lt_succ_self _
      generalize server t.received.length (requestAfter q t.received) = reply
      have hbegun : (items (t.received ++ [reply]).dropLast).length < count := by
        rwa [List.dropLast_concat]
      cases reply with
      | error e =>
          refine ⟨fun hwait => ?_, fun _ _ => ?_, fun hclosed => ?_, fun _ _ => hbegun⟩
          · cases hwait
          · simp [Session.replied, Stream.receive, Stream.Poll.output?, hcount]
          · simp [Session.replied, Stream.receive, Stream.Poll.isFinished, hopen] at hclosed
      | ok page =>
          cases hd : page.data with
          | nil =>
              simp only [Session.replied, Stream.receive, hd, Stream.give, Stream.finish]
              refine ⟨fun hwait => ?_, fun _ hfalse => ?_, fun _ => ?_, fun _ _ => hbegun⟩
              · cases hwait
              · simp [Stream.Poll.isFinished] at hfalse
              · simp [Stream.Poll.output?, hcount]
          | cons a rest =>
              simp only [Session.replied, Stream.receive, hd, Stream.give]
              refine ⟨fun hwait => ?_, fun _ _ => ?_, fun hclosed => ?_, fun _ _ => hbegun⟩
              · cases hwait
              · simp [Stream.Poll.output?, hcount]
              · simp [Stream.Poll.isFinished, hopen] at hclosed

theorem Paced.length_given_le {count : Nat} (hpace : Paced t count) : t.given.length ≤ count := by
  cases hclosed : t.closed with
  | true => exact (hpace.ended hclosed).le
  | false =>
      cases hwait : t.awaiting with
      | false => exact (hpace.level hwait hclosed).ge
      | true => exact hpace.waiting hwait ▸ Nat.le_succ _

theorem Move.paced {arrived : Bool} {count : Nat} (move : Move server arrived t u)
    (h : Lawful server q t) (hpace : Paced t count) : Paced u (count + t.asking) := by
  induction move generalizing count with
  | send hr =>
      rw [asking, not_awaiting hr]
      exact h.paced_sending hr hpace
  | ask hr rest ih =>
      rw [asking, not_awaiting hr]
      exact ih (h.sending hr) (h.paced_sending hr hpace)
  | wait hp => simpa [asking, awaiting, hp] using hpace
  | receive hp => simpa [asking, awaiting, hp] using h.paced_replied hp hpace
  | @give t arrived a rest next hp =>
      have hwait : t.awaiting = false := by simp [awaiting, hp]
      have hopen := h.not_closed (by simp [hp])
      rw [asking, hwait]
      refine ⟨nofun, fun _ _ => ?_, fun hclosed => ?_,
        fun _ hne => Nat.lt_succ_of_lt (hpace.begun hwait hne)⟩
      · simp [hpace.level hwait hopen]
      · simp [hopen] at hclosed
  | @finish t arrived hp =>
      have hwait : t.awaiting = false := by simp [awaiting, hp]
      have hcount := hpace.level hwait (h.not_closed (by simp [hp]))
      rw [asking, hwait]
      exact ⟨nofun, fun _ => nofun, fun _ => hcount ▸ Nat.lt_succ_self _,
        fun _ hne => Nat.lt_succ_of_lt (hpace.begun hwait hne)⟩
  | @stay t arrived hp =>
      have hwait : t.awaiting = false := by simp [awaiting, hp]
      rw [asking, hwait]
      refine ⟨fun htrue => ?_, fun _ => nofun, fun _ => Nat.lt_succ_of_le ?_,
        fun _ hne => Nat.lt_succ_of_lt (hpace.begun hwait hne)⟩
      · exact absurd htrue (by simpa [awaiting] using hwait)
      · exact hpace.length_given_le

theorem Paced.given_told {count back : Nat} (hpace : Paced t count) (h : Lawful server q t)
    (hback : count + t.asking = back + 1) :
    (t.closed = false → t.given.length = back) ∧ (t.closed = true → t.given.length < back) := by
  refine ⟨fun hopen => ?_, fun hclosed => ?_⟩
  · cases hwait : t.awaiting with
    | false =>
        have hlevel := hpace.level hwait hopen
        simp only [asking, hwait, Bool.false_eq_true, if_false] at hback
        omega
    | true =>
        have hahead := hpace.waiting hwait
        simp only [asking, hwait, if_true] at hback
        omega
  · have hover := hpace.ended hclosed
    have hwait := h.closed_awaiting hclosed
    simp only [asking, hwait, Bool.false_eq_true, if_false] at hback
    omega

theorem paced_start (resource : String) (q : Query) :
    Paced (start resource q : Session α) 0 :=
  ⟨nofun, fun _ _ => rfl, nofun, fun _ hne => absurd rfl hne⟩

theorem asked_succ (run : Nat → Session α) (m : Nat) :
    asked run (m + 1) = asked run m + (run m).asking := by
  cases h : (run m).awaiting <;> simp [asked, asking, List.range_succ, h]

theorem run_paced (server : Server α) (arrived : Nat → Bool) (resource : String) (q : Query)
    (m : Nat) : Paced (quietRun server arrived (start resource q) m)
      (asked (quietRun server arrived (start resource q)) m) := by
  induction m with
  | zero => exact paced_start resource q
  | succ m ih =>
      have h := (start_lawful server resource q).run arrived m
      rw [asked_succ]
      exact (h.move (arrived m)).paced h ih

theorem asked_add_asking (run : Nat → Session α) (hstart : (run 0).awaiting = false) (m : Nat) :
    asked run m + (run m).asking = told run m + 1 := by
  induction m with
  | zero => simp [asked, told, asking, hstart]
  | succ m ih =>
      have htold : told run (m + 1) = told run m + (run (m + 1)).asking := by
        cases h : (run (m + 1)).awaiting <;> simp [told, asking, List.range_succ, h]
      rw [asked_succ, ih, htold, Nat.add_right_comm]

section Scripted

variable {script : Nat → Reply α} {count : Nat}

theorem Lawful.items_lt (h : Lawful (scripted script) q t) (hpace : Paced t count) {k : Nat}
    (hk : k < t.sent.length) : (items (answers script k)).length < count := by
  cases hwait : t.awaiting with
  | true =>
      obtain ⟨ahead, given_eq⟩ := h.ahead hwait
      have hitems := (items_answers_mono script (show k ≤ t.received.length by omega)).length_le
      rw [← h.received_eq] at hitems
      rw [hpace.waiting hwait, given_eq, List.length_map]
      omega
  | false =>
      have hlevel := h.level hwait
      have hlast : t.received.dropLast = answers script (t.received.length - 1) := by
        rw [List.dropLast_eq_take, h.take_received (Nat.sub_le _ _)]
      have hitems := items_answers_mono script (show k ≤ t.received.length - 1 by omega)
      have hbegun := hpace.begun hwait (List.ne_nil_of_length_pos (by omega))
      rw [hlast] at hbegun
      exact hitems.length_le.trans_lt hbegun

theorem Lawful.decided (h : Lawful (scripted script) q t) (hpace : Paced t count) :
    Decided q (answers script t.sent.length) count := by
  cases hwait : t.awaiting with
  | true =>
      obtain ⟨ahead, given_eq⟩ := h.ahead hwait
      have hcount := hpace.waiting hwait
      rw [given_eq, List.length_map] at hcount
      rw [ahead, answers_succ, ← h.received_eq]
      cases script t.received.length with
      | error e => exact .inl (by simp [outputs_error, hcount])
      | ok page =>
          by_cases hd : page.data = []
          · exact .inr ⟨by simp, by simp [goesOn_page, hd]⟩
          · have hpos := List.length_pos_of_ne_nil hd
            refine .inl ?_
            simp only [outputs_page, List.length_append, List.length_map]
            omega
  | false =>
      rw [h.level hwait, ← h.received_eq]
      cases hclosed : t.closed with
      | true =>
          obtain ⟨-, nonempty, stopped, -⟩ := h.stopped hclosed
          exact .inr ⟨nonempty, stopped⟩
      | false =>
          rw [hpace.level hwait hclosed]
          exact .inl h.given_outputs.length_le

theorem Lawful.sent_isLeast (h : Lawful (scripted script) q t) (hpace : Paced t count) :
    IsLeast {k | Decided q (answers script k) count} t.sent.length := by
  refine ⟨h.decided hpace, fun k hk => ?_⟩
  by_contra hlt
  rw [not_le] at hlt
  have hitems := h.items_lt hpace hlt
  obtain _ | k := k
  · rcases hk with hcount | ⟨hne, -⟩
    · exact absurd (Nat.lt_of_lt_of_le hitems hcount) (Nat.lt_irrefl 0)
    · exact hne rfl
  · have hgo := h.follows (by omega : 0 < k + 1) hlt
    rcases hk with hcount | ⟨-, hstop⟩
    · rw [outputs_of_goesOn hgo, List.length_map] at hcount
      omega
    · exact hstop hgo

theorem Lawful.sent_eq (h : Lawful (scripted script) q t) :
    t.sent = (List.range t.sent.length).map fun k => requestAfter q (answers script k) := by
  apply List.ext_getElem (by simp)
  intro k hk hk'
  simpa using h.derived (List.getElem?_eq_getElem hk)

section Further

variable (h : Lawful (scripted script) q t) (hu : Lawful (scripted script) q u)

include h hu

theorem Lawful.sent_eq_take (hle : t.sent.length ≤ u.sent.length) :
    t.sent = u.sent.take t.sent.length := by
  rw [hu.sent_eq, ← List.map_take, List.take_range, Nat.min_eq_left hle]
  exact h.sent_eq

theorem Lawful.outputs_mono (hle : t.received.length ≤ u.received.length) :
    outputs q t.received <+: outputs q u.received := by
  obtain hlt | heq := Nat.lt_or_eq_of_le hle
  · have hbetween : ∀ k, k < u.received.length → outputs q (answers script k) =
        (items (answers script k)).map .ok := by
      intro k hk
      obtain _ | k := k
      · rfl
      · exact outputs_of_goesOn (hu.follows (by omega) (by have := hu.length_received; omega))
    have hitems := items_answers_mono script hle
    rw [← hu.received_eq] at hitems
    rw [h.received_eq, hbetween _ hlt]
    exact (hitems.map _).trans (List.prefix_append _ _)
  · have hsame : t.received = u.received := by rw [h.received_eq, heq, ← hu.received_eq]
    exact hsame ▸ List.prefix_rfl

theorem Lawful.given_mono (hle : t.given.length ≤ u.given.length) : t.given <+: u.given := by
  obtain hreceived | hreceived := Nat.le_total t.received.length u.received.length
  · exact List.prefix_of_prefix_length_le
      (h.given_outputs.trans (h.outputs_mono hu hreceived)) hu.given_outputs hle
  · exact List.prefix_of_prefix_length_le h.given_outputs
      (hu.given_outputs.trans (hu.outputs_mono h hreceived)) hle

theorem Lawful.length_sent_le_further {count' : Nat} (hpace : Paced t count)
    (hupace : Paced u count') (hfar : u.closed = true ∨ count ≤ u.given.length) :
    t.sent.length ≤ u.sent.length := by
  refine (h.sent_isLeast hpace).2 ?_
  rcases hfar with hclosed | hfar
  · obtain ⟨level, nonempty, stopped, -⟩ := hu.stopped hclosed
    rw [Set.mem_ofPred_eq, level, ← hu.received_eq]
    exact .inr ⟨nonempty, stopped⟩
  · rcases hu.decided hupace with hplace | hover
    · exact .inl ((hfar.trans hupace.length_given_le).trans hplace)
    · exact .inr hover

theorem Lawful.length_given_le_further (hpace : Paced t count) (hle : t.sent.length ≤ u.sent.length)
    (hfar : u.closed = true ∨ count ≤ u.given.length) : t.given.length ≤ u.given.length := by
  rcases hfar with hclosed | hfar
  · obtain ⟨level, -, -, given_eq⟩ := hu.stopped hclosed
    have hreceived : t.received.length ≤ u.received.length := by
      have := h.length_received
      omega
    rw [given_eq]
    exact h.given_outputs.length_le.trans (h.outputs_mono hu hreceived).length_le
  · exact hpace.length_given_le.trans hfar

theorem Lawful.length_given_ge (hclosed : t.closed = true) : u.given.length ≤ t.given.length := by
  obtain ⟨level, nonempty, stopped, given_eq⟩ := h.stopped hclosed
  have hsent : u.sent.length ≤ t.sent.length := by
    by_contra hmore
    rw [h.received_eq, ← level] at stopped
    have hpos := List.length_pos_of_ne_nil nonempty
    exact stopped (hu.follows (by omega) (by omega))
  have hreceived : u.received.length ≤ t.received.length := by
    have := hu.length_received
    omega
  rw [given_eq]
  exact hu.given_outputs.length_le.trans (hu.outputs_mono h hreceived).length_le

theorem Lawful.first_outputs {back : Nat} (hpace : Paced t count)
    (hback : count + t.asking = back + 1) (hle : t.given.length ≤ u.given.length) :
    t.given = u.given.take back ∧ (t.closed = true ↔ u.given.length < back) := by
  obtain ⟨hopen, hover⟩ := hpace.given_told h hback
  have hbegin := h.given_mono hu hle
  cases hclosed : t.closed with
  | false =>
      rw [← hopen hclosed]
      exact ⟨List.prefix_iff_eq_take.1 hbegin, by simpa using hle⟩
  | true =>
      have hlen := Nat.le_antisymm hle (h.length_given_ge hu hclosed)
      have hlt := hover hclosed
      rw [hbegin.eq_of_length hlen] at hlt ⊢
      exact ⟨(List.take_of_length_le hlt.le).symm, by simpa using hlt⟩

end Further

end Scripted

theorem replied_not_awaiting (t : Session α) (request : Query) (reply : Reply α) :
    (t.replied request reply).awaiting = false := by
  cases reply with
  | error e => rfl
  | ok page =>
      cases hd : page.data <;>
        simp [replied, awaiting, Stream.receive, Stream.give, Stream.finish, Stream.enter, hd]

theorem Move.tells {arrived : Bool} (move : Move server arrived t u) (harrived : arrived = true) :
    u.awaiting = false := by
  induction move with
  | send | wait => cases harrived
  | ask _ _ ih => exact ih harrived
  | receive => exact replied_not_awaiting _ _ _
  | give | finish => rfl
  | stay hp => simp [awaiting, hp]

theorem not_awaiting_of_prompt {arrived : Nat → Bool} (h : Lawful server q t)
    (hwait : t.awaiting = false) (prompt : ∀ n, arrived n = true) (m : Nat) :
    (quietRun server arrived t m).awaiting = false := by
  cases m with
  | zero => exact hwait
  | succ m => exact ((h.run arrived m).move (arrived m)).tells (prompt m)

/-- What it means that `run` does nothing ahead of what it is asked for, where `full` is a run that
is polled on and on. -/
structure Lazy (q : Query) (script : Nat → Reply α) (run full : Nat → Session α) : Prop where
  /-- As many requests are sent as there have to be replies for what is asked for, and no more of
  them if nothing else ever is. -/
  needed : ∀ m, IsLeast {k | Decided q (answers script k) (asked run m)} (run m).sent.length
  /-- A request is sent by a poll that asks for more than all items of the pages so far, and these
  are handed out before. -/
  on_demand : ∀ m, (run (m + 1)).sent ≠ (run m).sent →
    (run m).given = (items (answers script (run m).sent.length)).map .ok ∧
      asked run (m + 1) = (run m).given.length + 1
  /-- What is sent and what is told by then is the beginning of what is sent and told in the end. -/
  beginning : ∀ m, ∃ n, ∀ later, n ≤ later →
    (run m).sent = (full later).sent.take (run m).sent.length ∧
      (run m).given = (full later).given.take (told run m) ∧
      ((run m).closed = true ↔ (full later).given.length < told run m)

/-- A search that nobody cancels does nothing ahead of what it is asked for, whenever the replies
arrive. If each reply is there at once, every poll asks for one output and comes back with it. -/
theorem run_lazy (resource : String) (q : Query) (script : Nat → Reply α)
    (arrived eventually : Nat → Bool) (fair : Fair eventually) :
    Lazy q script (quietRun (scripted script) arrived (start resource q))
        (quietRun (scripted script) eventually (start resource q)) ∧
      ((∀ n, arrived n = true) → ∀ m,
        asked (quietRun (scripted script) arrived (start resource q)) m = m ∧
          told (quietRun (scripted script) arrived (start resource q)) m = m) := by
  have hstart := start_lawful (scripted script) resource q
  have hpaced (arrived : Nat → Bool) := run_paced (scripted script) arrived resource q
  refine ⟨⟨fun m => (hstart.run arrived m).sent_isLeast (hpaced arrived m), fun m hsent => ?_,
    fun m => ?_⟩, fun prompt m => ?_⟩
  · have hm := hstart.run arrived m
    obtain ⟨request, hr⟩ := exists_request hsent
    obtain ⟨level, -, -, given_eq⟩ := hm.due hr
    have hwait := not_awaiting hr
    have hcount := (hpaced arrived m).level hwait (hm.not_closed_of_request hr)
    rw [asked_succ, hcount, asking, hwait]
    refine ⟨?_, rfl⟩
    rw [level, ← hm.received_eq]
    exact given_eq
  · have hm := hstart.run arrived m
    obtain ⟨n, hn⟩ := hstart.run_gives fair
      (asked (quietRun (scripted script) arrived (start resource q)) m)
    refine ⟨n, fun later hlater => ?_⟩
    have hfull := hstart.run eventually later
    have hfar := hn.imp (run_closed hlater) fun hgiven =>
      hgiven.trans (run_mono poll_given hlater).length_le
    have hsent := hm.length_sent_le_further hfull (hpaced arrived m) (hpaced eventually later) hfar
    exact ⟨hm.sent_eq_take hfull hsent, hm.first_outputs hfull (hpaced arrived m)
      (asked_add_asking _ rfl m) (hm.length_given_le_further hfull (hpaced arrived m) hsent hfar)⟩
  · have hwait := not_awaiting_of_prompt hstart rfl prompt
    have hasked : asked (quietRun (scripted script) arrived (start resource q)) m = m := by
      simp [asked, hwait]
    have hback := asked_add_asking _ (hwait 0) m
    rw [hasked, asking, hwait] at hback
    exact ⟨hasked, (Nat.succ.inj hback).symm⟩

def twoPages : Nat → Reply Nat
  | 0 => .ok ⟨3, 2, 0, [10, 11]⟩
  | _ => .ok ⟨3, 2, 2, [12]⟩

/-- One request is enough for the items of the first page, and only the output after them needs
another one. -/
theorem twoPages_lazy :
    Fair (fun n => n % 3 == 0) ∧
      IsLeast {k | Decided {} (answers twoPages k) 2} 1 ∧
      IsLeast {k | Decided {} (answers twoPages k) 3} 2 ∧
      ∃ n, ∀ later, n ≤ later →
        (quietRun (scripted twoPages) (fun n => n % 3 == 0) (start "items" {}) later).given.take 2 =
          [.ok 10, .ok 11] := by
  have fair : Fair (fun n => n % 3 == 0) := fun n => ⟨3 * n, by omega, by simp⟩
  obtain ⟨hlazy, hprompt⟩ := run_lazy "items" {} twoPages (fun _ => true) _ fair
  have hcount := hprompt fun _ => rfl
  have htwo := hlazy.needed 2
  have hthree := hlazy.needed 3
  rw [(hcount 2).1] at htwo
  rw [(hcount 3).1] at hthree
  obtain ⟨n, hn⟩ := hlazy.beginning 2
  refine ⟨fair, htwo, hthree, n, fun later hlater => ?_⟩
  have hgiven := (hn later hlater).2.1
  rw [(hcount 2).2] at hgiven
  exact hgiven.symm

end Catalogue.Session
