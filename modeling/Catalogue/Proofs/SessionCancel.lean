import Catalogue.Proofs.SessionLaw

namespace Catalogue.Session

variable {α : Type}

/-- When a search is cancelled. A poll looks at the cancellation before it starts a request, and
again right before it asks for the reply; a search is cancelled before the first of these looks of a
poll, or between the two, or within the poll behind both. -/
inductive Moment
  | before (m : Nat)
  | between (m : Nat)
  | within (m : Nat)

namespace Moment

/-- The first poll that sees the cancellation, if it looks at it at all. -/
def noticed : Moment → Nat
  | before m | between m => m
  | within m => m + 1

def seenFirst : Moment → Nat → Bool
  | before c, m => decide (c ≤ m)
  | between c, m | within c, m => decide (c < m)

def seenLast : Moment → Nat → Bool
  | before c, m | between c, m => decide (c ≤ m)
  | within c, m => decide (c < m)

end Moment

/-- One poll that sees `first` and `last` of the cancellation. A request that is prepared between
the looks is not started if the second one sees the cancellation. -/
def pollSeeing (server : Server α) (first last arrived : Bool) (t : Session α) : Session α :=
  let sent := if first || last then t.sent else t.sent ++ t.stream.request?.toList
  let reply := if arrived then sent[t.received.length]?.map (server t.received.length) else none
  let polled := t.stream.pollSeeing first last reply
  { stream := polled.2.1
    sent := sent
    received := t.received ++ if first || last then [] else reply.toList
    given := t.given ++ polled.1.output?.toList
    closed := t.closed || polled.1.isFinished }

def cancelledRun (server : Server α) (moment : Moment) (arrived : Nat → Bool) (t : Session α) :
    Nat → Session α
  | 0 => t
  | m + 1 => (cancelledRun server moment arrived t m).pollSeeing server (moment.seenFirst m)
      (moment.seenLast m) (arrived m)

/-- A reply is still awaited, or another request would follow. -/
def Unfinished (quiet : Nat → Session α) (sent : List Query) (received : List (Reply α)) : Prop :=
  received.length < sent.length ∨ ∃ n, sent.length < (quiet n).sent.length

/-- What a run for `q` has to do if it is cancelled and poll `c` is the first to see it, where
`sent` and `received` are the requests and replies until then and `quiet` is the run without the
cancellation. No request follows. All items received are given out, and then the cancellation if the
search is unfinished, and nothing otherwise. A search that had failed had told so before. -/
structure Stops (q : Query) (quiet run : Nat → Session α) (c : Nat) (sent : List Query)
    (received : List (Reply α)) : Prop where
  before : ∀ n, n ≤ c → run n = quiet n
  silent : ∀ n, c ≤ n → (run n).sent = sent
  cancelled : Unfinished quiet sent received → ∀ n, c + (items received).length + 2 ≤ n →
    (run n).closed = true ∧ (run n).given = (items received).map .ok ++ [.error .cancelled]
  complete : ¬ Unfinished quiet sent received → ∀ n, c + (items received).length + 2 ≤ n →
    (run n).closed = true ∧ (run n).given = outputs q received
  failed : failure q received ≠ [] → (run c).given = outputs q received

/-- What a cancelled stream still gives out. -/
def owed : Stream.Phase α → List (Except Error α)
  | .ready _ | .waiting _ => [.error .cancelled]
  | .giving items none => items.map .ok
  | .giving items (some _) => items.map .ok ++ [.error .cancelled]
  | .ended => []

section Looks

/-- A poll that sees the cancellation at its second look does what one does that sees it at both,
but for what it logs. -/
theorem stream_pollSeeing (s : Stream α) (reply : Option (Reply α)) :
    (s.pollSeeing false true reply).1 = (s.poll true reply).1 ∧
      (s.pollSeeing false true reply).2.1 = (s.poll true reply).2.1 := by
  unfold Stream.poll Stream.pollSeeing
  split <;> simp_all

theorem pollSeeing_eq (server : Server α) {first last : Bool} (h : first = true → last = true)
    (arrived : Bool) (t : Session α) :
    t.pollSeeing server first last arrived = t.poll server last arrived := by
  cases first with
  | true => rw [h rfl]; rfl
  | false =>
      cases last with
      | false => rfl
      | true => simp [pollSeeing, poll, stream_pollSeeing]

namespace Moment

theorem seenFirst_le (moment : Moment) (m : Nat) (h : moment.seenFirst m = true) :
    moment.seenLast m = true := by
  cases moment with
  | before c => exact h
  | between c =>
      rw [seenFirst, decide_eq_true_eq] at h
      exact decide_eq_true (Nat.le_of_lt h)
  | within c => exact h

theorem seenLast_eq (moment : Moment) (m : Nat) :
    moment.seenLast m = decide (moment.noticed ≤ m) := by
  cases moment <;> rfl

end Moment

theorem cancelledRun_eq (server : Server α) (moment : Moment) (arrived : Nat → Bool)
    (t : Session α) (n : Nat) : cancelledRun server moment arrived t n =
      run server (fun m => decide (moment.noticed ≤ m)) arrived t n := by
  induction n with
  | zero => rfl
  | succ n ih => rw [cancelledRun, pollSeeing_eq server (moment.seenFirst_le n), ih,
      moment.seenLast_eq, run]

end Looks

section Polls

variable (server : Server α) (arrived : Bool) (t : Session α)

theorem poll_cancelled_sent : (t.poll server true arrived).sent = t.sent := by
  simp [poll]

theorem poll_cancelled_received : (t.poll server true arrived).received = t.received := by
  simp [poll]

variable {server arrived t} in
theorem poll_stopped {request : Query}
    (h : t.stream.request? = some request ∨ t.stream.phase = .waiting request) :
    (t.poll server true arrived).given = t.given ++ [.error .cancelled] ∧
      (t.poll server true arrived).stream.phase = .ended := by
  obtain ⟨event, hpoll⟩ := Stream.poll_cancelled h
  simp [poll, hpoll, Stream.Poll.output?, Stream.enter]

theorem poll_cancelled_owed :
    (t.poll server true arrived).given = t.given ++ (owed t.stream.phase).take 1 ∧
      owed (t.poll server true arrived).stream.phase = (owed t.stream.phase).drop 1 := by
  cases hp : t.stream.phase with
  | ready request =>
      have hr : t.stream.request? = some request := by simp [Stream.request?, hp]
      simp [poll_stopped (.inl hr), owed]
  | waiting request => simp [poll_stopped (.inr hp), owed]
  | giving rest next =>
      cases rest with
      | cons a rest =>
          cases next <;>
            simp [poll, Stream.poll_giving hp, Stream.Poll.output?, Stream.enter, owed]
      | nil =>
          cases next with
          | none =>
              simp [poll, Stream.poll_finishing hp, Stream.finish, Stream.Poll.output?,
                Stream.enter, owed]
          | some request =>
              have hr : t.stream.request? = some request := by simp [Stream.request?, hp]
              simp [poll_stopped (.inl hr), owed]
  | ended => simp [poll, Stream.poll_ended hp, hp, Stream.Poll.output?, owed]

theorem poll_cancelled_closed (h : owed t.stream.phase = []) :
    (t.poll server true arrived).closed = true := by
  cases hp : t.stream.phase with
  | ready request => simp [hp, owed] at h
  | waiting request => simp [hp, owed] at h
  | giving rest next =>
      cases next with
      | some request => simp [hp, owed] at h
      | none =>
          obtain rfl : rest = [] := by simpa [hp, owed] using h
          simp [poll, Stream.poll_finishing hp, Stream.finish, Stream.Poll.isFinished]
  | ended => simp [poll, Stream.poll_ended hp, Stream.Poll.isFinished]

end Polls

section Run

variable {server : Server α} {t : Session α} {cancelled arrived : Nat → Bool}

theorem run_congr {cancelled' : Nat → Bool} {n : Nat}
    (h : ∀ m, m < n → cancelled m = cancelled' m) :
    run server cancelled arrived t n = run server cancelled' arrived t n := by
  induction n with
  | zero => rfl
  | succ n ih => rw [run, run, ih fun m hm => h m (by omega), h n (by omega)]

theorem run_add (m n : Nat) : run server cancelled arrived t (m + n) =
    run server (fun k => cancelled (m + k)) (fun k => arrived (m + k))
      (run server cancelled arrived t m) n := by
  induction n with
  | zero => rfl
  | succ n ih => rw [← Nat.add_assoc, run, run, ih]

theorem halted_owed (n : Nat) :
    (run server (fun _ => true) arrived t n).given = t.given ++ (owed t.stream.phase).take n ∧
      owed (run server (fun _ => true) arrived t n).stream.phase =
        (owed t.stream.phase).drop n := by
  induction n with
  | zero => simp [run]
  | succ n ih =>
      obtain ⟨hgiven, howed⟩ := ih
      obtain ⟨hgiven', howed'⟩ :=
        poll_cancelled_owed server (arrived n) (run server (fun _ => true) arrived t n)
      refine ⟨?_, ?_⟩
      · rw [run, hgiven', hgiven, howed, List.append_assoc, ← List.take_add]
      · rw [run, howed', howed, List.drop_drop]

theorem halted_sent (n : Nat) : (run server (fun _ => true) arrived t n).sent = t.sent := by
  induction n with
  | zero => rfl
  | succ n ih => rw [run, poll_cancelled_sent, ih]

theorem halted_received (n : Nat) :
    (run server (fun _ => true) arrived t n).received = t.received := by
  induction n with
  | zero => rfl
  | succ n ih => rw [run, poll_cancelled_received, ih]

theorem halted_ends {n : Nat} (h : (owed t.stream.phase).length < n) :
    (run server (fun _ => true) arrived t n).closed = true ∧
      (run server (fun _ => true) arrived t n).given = t.given ++ owed t.stream.phase := by
  obtain ⟨n, rfl⟩ := Nat.exists_eq_add_of_le' (Nat.zero_lt_of_lt h)
  refine ⟨?_, ?_⟩
  · apply poll_cancelled_closed
    rw [(halted_owed n).2]
    exact List.drop_of_length_le (by omega)
  · rw [(halted_owed (n + 1)).1, List.take_of_length_le (by omega)]

theorem run_before (moment : Moment) {n : Nat} (h : n ≤ moment.noticed) :
    cancelledRun server moment arrived t n = quietRun server arrived t n := by
  rw [cancelledRun_eq]
  apply run_congr
  intro m hm
  rw [decide_eq_false_iff_not]
  omega

theorem run_after (moment : Moment) (n : Nat) :
    cancelledRun server moment arrived t (moment.noticed + n) =
      run server (fun _ => true) (fun k => arrived (moment.noticed + k))
        (quietRun server arrived t moment.noticed) n := by
  rw [← run_before moment (Nat.le_refl _), cancelledRun_eq, cancelledRun_eq, run_add]
  apply run_congr
  intro m _
  simp

end Run

section Quiet

variable {server : Server α} {q : Query} {t : Session α} {arrived : Nat → Bool} {m : Nat}

theorem quietRun_succ : quietRun server arrived t (m + 1) =
    (quietRun server arrived t m).poll server false (arrived m) := rfl

theorem Lawful.sends_next (h : Lawful server q t) {rest : List α} {request : Query}
    (hp : (quietRun server arrived t m).stream.phase = .giving rest (some request)) :
    ∃ n, (quietRun server arrived t m).sent.length < (quietRun server arrived t n).sent.length := by
  induction rest generalizing m with
  | nil =>
      refine ⟨m + 1, ?_⟩
      simp [quietRun_succ, poll, Stream.request?, hp]
  | cons a rest ih =>
      have hpoll := poll_giving (h.run arrived m) hp (arrived m)
      rw [← quietRun_succ] at hpoll
      obtain ⟨n, hn⟩ := ih (m := m + 1) (by rw [hpoll]; rfl)
      rw [hpoll] at hn
      exact ⟨n, hn⟩

theorem Lawful.goesOn_of_more (h : Lawful server q t) {n : Nat}
    (level : (quietRun server arrived t m).sent.length =
      (quietRun server arrived t m).received.length)
    (nonempty : (quietRun server arrived t m).received ≠ [])
    (more : (quietRun server arrived t m).sent.length < (quietRun server arrived t n).sent.length) :
    GoesOn q (quietRun server arrived t m).received := by
  have hmn : m ≤ n := by
    by_contra hnm
    have hsent : (quietRun server arrived t n).sent <+: (quietRun server arrived t m).sent :=
      run_mono poll_sent (Nat.le_of_not_le hnm)
    have hlength := hsent.length_le
    omega
  have hreceived : (quietRun server arrived t m).received <+:
      (quietRun server arrived t n).received := run_mono poll_received hmn
  rw [List.prefix_iff_eq_take.1 hreceived]
  apply (h.run arrived n).log.follows
  · exact List.length_pos_iff.2 nonempty
  · omega

theorem Lawful.given_owed (h : Lawful server q t) :
    let s := quietRun server arrived t m
    (Unfinished (quietRun server arrived t) s.sent s.received →
      s.given ++ owed s.stream.phase = (items s.received).map .ok ++ [.error .cancelled]) ∧
    (¬ Unfinished (quietRun server arrived t) s.sent s.received →
      s.given ++ owed s.stream.phase = outputs q s.received) := by
  intro s
  have hstage : Stage q s.sent s.received s.given s.stream.phase := (h.run arrived m).stage
  have hstop (level : s.sent.length = s.received.length) (nonempty : s.received ≠ [])
      (stopped : ¬ GoesOn q s.received) :
      ¬ Unfinished (quietRun server arrived t) s.sent s.received := by
    rintro (hawaited | ⟨n, hmore⟩)
    · omega
    · exact stopped (h.goesOn_of_more level nonempty hmore)
  cases hp : s.stream.phase with
  | ready request =>
      rw [hp] at hstage
      cases hstage with
      | ready sent_eq received_eq given_eq =>
          refine ⟨fun _ => by simp [s, owed, received_eq, given_eq, items], fun hfinished => ?_⟩
          apply absurd _ hfinished
          refine .inr ⟨m + 1, ?_⟩
          simp [s, quietRun_succ, poll, Stream.request?, hp]
  | waiting request =>
      rw [hp] at hstage
      cases hstage with
      | waiting ahead given_eq =>
          refine ⟨fun _ => by rw [given_eq, owed], fun hfinished => ?_⟩
          exact absurd (.inl (by omega)) hfinished
  | giving rest next =>
      rw [hp] at hstage
      cases hstage with
      | giving _ _ level nonempty given_eq whole next_eq =>
          cases next with
          | some request =>
              refine ⟨fun _ => ?_, fun hfinished => ?_⟩
              · rw [owed, ← List.append_assoc, given_eq, outputs, whole, List.append_nil]
              · exact absurd (.inr (h.sends_next hp)) hfinished
          | none =>
              refine ⟨fun hunfinished => ?_, fun _ => given_eq⟩
              have hgo : ¬ GoesOn q s.received := by
                simpa using next_eq (requestAfter q s.received)
              exact absurd hunfinished (hstop level nonempty hgo)
  | ended =>
      rw [hp] at hstage
      cases hstage with
      | ended level nonempty stopped given_eq =>
          refine ⟨fun hunfinished => ?_, fun _ => by rw [owed, List.append_nil, given_eq]⟩
          exact absurd hunfinished (hstop level nonempty stopped)

theorem Lawful.given_of_failure (h : Lawful server q t) (hfailure : failure q t.received ≠ []) :
    t.given = outputs q t.received := by
  have hstage := h.stage
  generalize t.stream.phase = phase at hstage
  cases hstage with
  | ready _ received_eq => simp [received_eq, failure] at hfailure
  | waiting ahead =>
      -- A request in flight was due, so no reply before it is an error.
      have hne : t.received ≠ [] := by
        intro hnil
        simp [hnil, failure] at hfailure
      have hgo := h.log.follows t.received.length (List.length_pos_iff.2 hne) (by omega)
      rw [List.take_length] at hgo
      exact absurd hgo.failure_eq hfailure
  | giving _ _ _ _ _ whole => exact absurd whole hfailure
  | ended _ _ _ given_eq => exact given_eq

end Quiet

/-- A search stops when it is cancelled, whatever the server does and whenever this is. A reply that
the poll takes during which the search is cancelled counts as received. -/
theorem cancelledRun_stops (server : Server α) (resource : String) (q : Query)
    (arrived : Nat → Bool) (moment : Moment) :
    let quiet := quietRun server arrived (start resource q)
    let s := quiet moment.noticed
    Stops q quiet (cancelledRun server moment arrived (start resource q)) moment.noticed s.sent
      s.received := by
  intro quiet s
  have hstart := start_lawful server resource q
  have howed : (Unfinished quiet s.sent s.received →
        s.given ++ owed s.stream.phase = (items s.received).map .ok ++ [.error .cancelled]) ∧
      (¬ Unfinished quiet s.sent s.received →
        s.given ++ owed s.stream.phase = outputs q s.received) := hstart.given_owed
  have hafter (n : Nat) (hn : moment.noticed ≤ n) : ∃ k, n = moment.noticed + k ∧
      cancelledRun server moment arrived (start resource q) n =
        run server (fun _ => true) (fun k => arrived (moment.noticed + k)) s k := by
    obtain ⟨k, rfl⟩ := Nat.exists_eq_add_of_le hn
    exact ⟨k, rfl, run_after moment k⟩
  refine ⟨fun n hn => run_before moment hn, ?_, ?_, ?_, ?_⟩
  · intro n hn
    obtain ⟨k, -, hrun⟩ := hafter n hn
    rw [hrun, halted_sent]
  · intro hunfinished n hn
    obtain ⟨k, rfl, hrun⟩ := hafter n (by omega)
    have hgiven := howed.1 hunfinished
    have hlength := congrArg List.length hgiven
    simp only [List.length_append, List.length_map, List.length_singleton] at hlength
    rw [hrun, ← hgiven]
    exact halted_ends (by omega)
  · intro hfinished n hn
    obtain ⟨k, rfl, hrun⟩ := hafter n (by omega)
    have hgiven := howed.2 hfinished
    have hlength := length_outputs_le q s.received
    rw [← hgiven, List.length_append] at hlength
    rw [hrun, ← hgiven]
    exact halted_ends (by omega)
  · intro hfailure
    rw [run_before moment (Nat.le_refl _)]
    exact (hstart.run arrived moment.noticed).given_of_failure hfailure

/-- A reply is not discarded if it arrives in the poll during which the search is cancelled. -/
theorem reply_within_poll_given :
    let server : Server Nat := fun _ _ => .ok ⟨9, 2, 0, [1, 2]⟩
    let quiet := quietRun server (fun _ => true) (start "items" {})
    let stopped := cancelledRun server (.within 0) (fun _ => true) (start "items" {})
    (stopped 0).received = [] ∧ (stopped 1).sent = [{}] ∧
      ¬ Stops {} quiet stopped 1 (stopped 1).sent (stopped 0).received := by
  intro server quiet stopped
  refine ⟨rfl, rfl, fun h => ?_⟩
  have hgiven := (h.cancelled (.inl (by decide)) 3 (by decide)).2
  change [Except.ok 1, .ok 2, .error .cancelled] = [Except.error Error.cancelled] at hgiven
  cases hgiven

end Catalogue.Session
