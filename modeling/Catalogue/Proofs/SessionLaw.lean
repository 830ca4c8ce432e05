import Catalogue.Proofs.Session

namespace Catalogue.Session

variable {α : Type}

/-- What holds of the requests and replies of a session for `q`: a request follows from the replies
before it, every request but the first was due, and the replies are those of the server. -/
structure Logged (server : Server α) (q : Query) (sent : List Query)
    (received : List (Reply α)) : Prop where
  derived : ∀ k request, sent[k]? = some request → request = requestAfter q (received.take k)
  follows : ∀ k, 0 < k → k < sent.length → GoesOn q (received.take k)
  answered : ∀ k reply, received[k]? = some reply →
    ∃ request, sent[k]? = some request ∧ reply = server k request

/-- What the phase of the stream says about the rest of a session. -/
inductive Stage (q : Query) (sent : List Query) (received : List (Reply α))
    (given : List (Except Error α)) : Stream.Phase α → Prop
  | ready (sent_eq : sent = []) (received_eq : received = []) (given_eq : given = []) :
      Stage q sent received given (.ready q)
  | waiting (ahead : sent.length = received.length + 1)
      (given_eq : given = (items received).map .ok) :
      Stage q sent received given (.waiting (requestAfter q received))
  | giving (rest : List α) (next : Option Query) (level : sent.length = received.length)
      (nonempty : received ≠ []) (given_eq : given ++ rest.map .ok = outputs q received)
      (whole : failure q received = [])
      (next_eq : ∀ request, next = some request ↔
        GoesOn q received ∧ request = requestAfter q received) :
      Stage q sent received given (.giving rest next)
  | ended (level : sent.length = received.length) (nonempty : received ≠ [])
      (stopped : ¬ GoesOn q received) (given_eq : given = outputs q received) :
      Stage q sent received given .ended

structure Lawful (server : Server α) (q : Query) (t : Session α) : Prop where
  query : t.stream.query = q
  fetched : t.stream.fetched = (items t.received).length
  log : Logged server q t.sent t.received
  stage : Stage q t.sent t.received t.given t.stream.phase
  closed : t.closed = true → t.stream.phase = .ended

variable {server : Server α} {q : Query} {t : Session α}

theorem Logged.nil (server : Server α) (q : Query) : Logged server q [] [] := by
  constructor <;> simp

theorem Logged.send {sent : List Query} {received : List (Reply α)}
    (h : Logged server q sent received) (level : sent.length = received.length)
    (due : received ≠ [] → GoesOn q received) :
    Logged server q (sent ++ [requestAfter q received]) received := by
  refine ⟨?_, ?_, ?_⟩
  · intro k request hk
    by_cases hlt : k < sent.length
    · rw [List.getElem?_append_left hlt] at hk
      exact h.derived k request hk
    · rw [List.getElem?_append_right (by omega), List.getElem?_singleton] at hk
      split at hk
      · cases hk
        rw [List.take_of_length_le (by omega)]
      · cases hk
  · intro k hpos hk
    rw [List.length_append, List.length_singleton] at hk
    by_cases hlt : k < sent.length
    · exact h.follows k hpos hlt
    · rw [List.take_of_length_le (by omega)]
      exact due (List.ne_nil_of_length_pos (by omega))
  · intro k reply hk
    obtain ⟨request, hs, hreply⟩ := h.answered k reply hk
    have hlt := (List.getElem?_eq_some_iff.1 hs).1
    exact ⟨request, by rwa [List.getElem?_append_left hlt], hreply⟩

theorem Logged.receive {sent : List Query} {received : List (Reply α)} {request : Query}
    (h : Logged server q sent received) (ahead : sent.length = received.length + 1)
    (hr : sent[received.length]? = some request) :
    Logged server q sent (received ++ [server received.length request]) := by
  have htake (k : Nat) (hk : k < sent.length) (reply : Reply α) :
      (received ++ [reply]).take k = received.take k :=
    List.take_append_of_le_length (by omega)
  refine ⟨?_, ?_, ?_⟩
  · intro k request' hk
    rw [htake k (List.getElem?_eq_some_iff.1 hk).1]
    exact h.derived k request' hk
  · intro k hpos hk
    rw [htake k hk]
    exact h.follows k hpos hk
  · intro k reply hk
    by_cases hlt : k < received.length
    · rw [List.getElem?_append_left hlt] at hk
      exact h.answered k reply hk
    · rw [List.getElem?_append_right (by omega), List.getElem?_singleton] at hk
      split at hk
      · next hzero =>
        cases hk
        obtain rfl : k = received.length := by omega
        exact ⟨request, hr, rfl⟩
      · cases hk

theorem Logged.in_flight {sent : List Query} {received : List (Reply α)}
    (h : Logged server q sent received) (ahead : sent.length = received.length + 1) :
    sent[received.length]? = some (requestAfter q received) := by
  have hlt : received.length < sent.length := by omega
  have hs := h.derived _ _ (List.getElem?_eq_getElem hlt)
  rw [List.take_length] at hs
  rw [List.getElem?_eq_getElem hlt, hs]

theorem start_lawful (server : Server α) (resource : String) (q : Query) :
    Lawful server q (start resource q) where
  query := rfl
  fetched := rfl
  log := .nil server q
  stage := .ready rfl rfl rfl
  closed := by simp [start]

theorem next?_eq_some {s : Stream α} {page : Page α} {replies : List (Reply α)}
    (hq : s.query = q) (hf : s.fetched = (items (replies ++ [.ok page])).length)
    (request : Query) :
    s.next? page = some request ↔ GoesOn q (replies ++ [.ok page]) ∧
      request = requestAfter q (replies ++ [.ok page]) := by
  have hstop : (page.data.isEmpty || page.total ≤ s.offset.toNat || s.remaining == some 0) = false ↔
      GoesOn q (replies ++ [.ok page]) := by
    rw [goesOn_page]
    rw [items_append, items_page, List.length_append] at hf
    cases hl : q.limit <;>
      simp [Stream.offset_toNat, Stream.remaining, hq, hf, hl, and_assoc, Nat.sub_eq_zero_iff_le]
  have hrequest : s.query.page s.remaining (some s.offset.toNat) =
      requestAfter q (replies ++ [.ok page]) := by
    simp [requestAfter, Stream.offset_toNat, Stream.remaining, hq, hf]
  rw [Stream.next?, hrequest, ← hstop]
  split
  · next h => simp [h]
  · next h => simp [h, eq_comm]

def sending (t : Session α) (request : Query) : Session α :=
  { t with stream := t.stream.enter (.waiting request), sent := t.sent ++ [request] }

theorem poll_sending {request : Query} (h : t.stream.request? = some request) :
    t.poll server false false = t.sending request := by
  simp [poll, h, Stream.poll_request h, Stream.receive, sending, Stream.Poll.output?,
    Stream.Poll.isFinished]

/-- Whether the reply is there at once or later makes no difference to what comes of it. -/
theorem poll_prompt {request : Query} (h : t.stream.request? = some request) :
    t.poll server false true = (t.sending request).poll server false true := by
  have hs : (t.sending request).stream.request? = none := rfl
  have hw : (t.sending request).stream.phase = .waiting request := rfl
  have hr (reply : Option (Reply α)) : (t.sending request).stream.poll false reply =
      t.stream.poll false reply := by
    rw [Stream.poll_waiting hw, Stream.poll_request h]
    exact Stream.receive_enter t.stream _ request reply
  simp only [poll, hs, hr, h, Option.toList_none, Option.toList_some, List.append_nil,
    Bool.false_eq_true, if_false]
  rfl

theorem Lawful.due {request : Query} (h : Lawful server q t)
    (hr : t.stream.request? = some request) :
    t.sent.length = t.received.length ∧ request = requestAfter q t.received ∧
      (t.received ≠ [] → GoesOn q t.received) ∧ t.given = (items t.received).map .ok := by
  have hstage := h.stage
  unfold Stream.request? at hr
  split at hr
  · next r hphase =>
    rw [hphase] at hstage
    cases hr
    cases hstage with
    | ready sent received given => simp [sent, received, given, items]
  · next next' hphase =>
    rw [hphase] at hstage
    cases hstage with
    | giving _ _ level received given whole next_eq =>
        obtain ⟨hgo, hreq⟩ := (next_eq request).1 hr
        exact ⟨level, hreq, fun _ => hgo, by simpa [outputs, whole] using given⟩
  · cases hr

theorem Lawful.sending {request : Query} (h : Lawful server q t)
    (hr : t.stream.request? = some request) : Lawful server q (t.sending request) := by
  obtain ⟨level, rfl, hgo, hgiven⟩ := h.due hr
  refine ⟨h.query, h.fetched, h.log.send level hgo, ?_, ?_⟩
  · exact .waiting (by simp [Session.sending, level]) hgiven
  · intro hclosed
    have hphase := h.closed hclosed
    simp [Stream.request?, hphase] at hr

def replied (t : Session α) (request : Query) (reply : Reply α) : Session α :=
  let polled := t.stream.receive request (some reply)
  { stream := polled.2.1
    sent := t.sent
    received := t.received ++ [reply]
    given := t.given ++ polled.1.output?.toList
    closed := t.closed || polled.1.isFinished }

theorem poll_replied {request : Query} (hp : t.stream.phase = .waiting request)
    (hs : t.sent[t.received.length]? = some request) :
    t.poll server false true = t.replied request (server t.received.length request) := by
  have hr : t.stream.request? = none := by simp [Stream.request?, hp]
  simp [poll, replied, hr, hs, Stream.poll_waiting hp]

theorem Lawful.replied {request : Query} (h : Lawful server q t)
    (hp : t.stream.phase = .waiting request) :
    Lawful server q (t.replied request (server t.received.length request)) := by
  have hstage := h.stage
  rw [hp] at hstage
  cases hstage with
  | waiting ahead given =>
      have hlog := h.log.receive ahead (h.log.in_flight ahead)
      have hclosed : t.closed = false := by
        by_contra hclosed
        have := h.closed (by simpa using hclosed)
        simp [hp] at this
      generalize server t.received.length (requestAfter q t.received) = reply at hlog ⊢
      have hne : t.received ++ [reply] ≠ [] := by simp
      cases reply with
      | error e =>
          refine ⟨h.query, ?_, hlog, ?_, fun _ => rfl⟩
          · simpa [Session.replied, items_append, Stream.receive, Stream.enter] using h.fetched
          · refine .ended (by simp [Session.replied, ahead]) hne not_goesOn_error ?_
            simp [Session.replied, Stream.receive, Stream.Poll.output?, outputs_error, given]
      | ok page =>
          have hf : (t.stream.counted page).fetched =
              (items (t.received ++ [.ok page])).length := by
            simp [Stream.counted, items_append, h.fetched]
          have hnext := next?_eq_some (q := q) (s := t.stream.counted page) h.query hf
          have hwhole : failure q (t.received ++ [.ok page]) = [] := by simp [failure]
          cases hd : page.data with
          | nil =>
              have hstop : ¬ GoesOn q (t.received ++ [.ok page]) := by simp [goesOn_page, hd]
              simp only [Session.replied, Stream.receive, hd, Stream.give, Stream.finish]
              refine ⟨h.query, hf, hlog, .ended (by simp [ahead]) hne hstop ?_, fun _ => rfl⟩
              simp [outputs_page, given, hd, Stream.Poll.output?]
          | cons a rest =>
              simp only [Session.replied, Stream.receive, hd, Stream.give]
              refine ⟨h.query, hf, hlog, .giving rest _ (by simp [ahead]) hne ?_ hwhole hnext, ?_⟩
              · simp [outputs_page, given, hd, Stream.Poll.output?]
              · simp [hclosed, Stream.Poll.isFinished]

theorem Lawful.gave {a : α} {rest : List α} {next : Option Query} (h : Lawful server q t)
    (hp : t.stream.phase = .giving (a :: rest) next) :
    Lawful server q
      { t with stream := t.stream.enter (.giving rest next), given := t.given ++ [.ok a] } := by
  have hstage := h.stage
  rw [hp] at hstage
  cases hstage with
  | giving _ _ level received given whole next_eq =>
      refine ⟨h.query, h.fetched, h.log, .giving rest next level received ?_ whole next_eq, ?_⟩
      · simpa using given
      · intro hclosed
        have := h.closed hclosed
        simp [hp] at this

theorem Lawful.finished (h : Lawful server q t) (hp : t.stream.phase = .giving [] none) :
    Lawful server q { t with stream := t.stream.enter .ended, closed := true } := by
  have hstage := h.stage
  rw [hp] at hstage
  cases hstage with
  | giving _ _ level received given whole next_eq =>
      have hstop : ¬ GoesOn q t.received := by simpa using next_eq (requestAfter q t.received)
      refine ⟨h.query, h.fetched, h.log, .ended level received hstop ?_, fun _ => rfl⟩
      simpa using given

theorem poll_giving {a : α} {rest : List α} {next : Option Query} (h : Lawful server q t)
    (hp : t.stream.phase = .giving (a :: rest) next) (arrived : Bool) :
    t.poll server false arrived =
      { t with stream := t.stream.enter (.giving rest next), given := t.given ++ [.ok a] } := by
  have hstage := h.stage
  rw [hp] at hstage
  cases hstage with
  | giving _ _ level =>
      simp [poll, Stream.request?, hp, level, Stream.poll_giving hp, Stream.Poll.output?,
        Stream.Poll.isFinished]

theorem poll_finished (h : Lawful server q t) (hp : t.stream.phase = .giving [] none)
    (arrived : Bool) :
    t.poll server false arrived = { t with stream := t.stream.enter .ended, closed := true } := by
  have hstage := h.stage
  rw [hp] at hstage
  cases hstage with
  | giving _ _ level =>
      simp [poll, Stream.request?, hp, level, Stream.poll_finishing hp, Stream.finish,
        Stream.Poll.output?, Stream.Poll.isFinished]

theorem poll_ended (h : Lawful server q t) (hp : t.stream.phase = .ended) (arrived : Bool) :
    t.poll server false arrived = { t with closed := true } := by
  have hstage := h.stage
  rw [hp] at hstage
  cases hstage with
  | ended level =>
      simp [poll, Stream.request?, hp, level, Stream.poll_ended hp, Stream.Poll.output?,
        Stream.Poll.isFinished]

theorem poll_waiting {request : Query} (hp : t.stream.phase = .waiting request) :
    t.poll server false false = t := by
  have hs : t.stream.enter (.waiting request) = t.stream := by rw [Stream.enter, ← hp]
  simp [poll, Stream.request?, hp, Stream.poll_waiting hp, Stream.receive, hs, Stream.Poll.output?,
    Stream.Poll.isFinished]

/-- What a poll that is not cancelled does, and whether it finds the reply it waits for. A reply
that is there at once is taken as one that comes with the next poll. -/
inductive Move (server : Server α) : Bool → Session α → Session α → Prop
  | send {t : Session α} {request : Query} (hr : t.stream.request? = some request) :
      Move server false t (t.sending request)
  | ask {t u : Session α} {request : Query} (hr : t.stream.request? = some request)
      (rest : Move server true (t.sending request) u) : Move server true t u
  | wait {t : Session α} {request : Query} (hp : t.stream.phase = .waiting request) :
      Move server false t t
  | receive {t : Session α} {request : Query} (hp : t.stream.phase = .waiting request) :
      Move server true t (t.replied request (server t.received.length request))
  | give {t : Session α} {arrived : Bool} {a : α} {rest : List α} {next : Option Query}
      (hp : t.stream.phase = .giving (a :: rest) next) :
      Move server arrived t
        { t with stream := t.stream.enter (.giving rest next), given := t.given ++ [.ok a] }
  | finish {t : Session α} {arrived : Bool} (hp : t.stream.phase = .giving [] none) :
      Move server arrived t { t with stream := t.stream.enter .ended, closed := true }
  | stay {t : Session α} {arrived : Bool} (hp : t.stream.phase = .ended) :
      Move server arrived t { t with closed := true }

theorem Lawful.move (h : Lawful server q t) (arrived : Bool) :
    Move server arrived t (t.poll server false arrived) := by
  have hreceive {t : Session α} {request : Query} (h : Lawful server q t)
      (hp : t.stream.phase = .waiting request) : Move server true t (t.poll server false true) := by
    have hstage := h.stage
    rw [hp] at hstage
    cases hstage with
    | waiting ahead => rw [poll_replied hp (h.log.in_flight ahead)]; exact .receive hp
  have hask (request : Query) (hr : t.stream.request? = some request) :
      Move server arrived t (t.poll server false arrived) := by
    cases arrived with
    | false => rw [poll_sending hr]; exact .send hr
    | true => rw [poll_prompt hr]; exact .ask hr (hreceive (h.sending hr) rfl)
  cases hp : t.stream.phase with
  | ready request => exact hask request (by simp [Stream.request?, hp])
  | waiting request =>
      cases arrived with
      | false => rw [poll_waiting hp]; exact .wait hp
      | true => exact hreceive h hp
  | giving rest next =>
      cases rest with
      | cons a rest => rw [poll_giving h hp]; exact .give hp
      | nil =>
          cases next with
          | some request => exact hask request (by simp [Stream.request?, hp])
          | none => rw [poll_finished h hp]; exact .finish hp
  | ended => rw [poll_ended h hp]; exact .stay hp

theorem Move.lawful {arrived : Bool} {u : Session α} (move : Move server arrived t u)
    (h : Lawful server q t) : Lawful server q u := by
  induction move with
  | send hr => exact h.sending hr
  | ask hr _ ih => exact ih (h.sending hr)
  | wait => exact h
  | receive hp => exact h.replied hp
  | give hp => exact h.gave hp
  | finish hp => exact h.finished hp
  | stay hp => exact ⟨h.query, h.fetched, h.log, h.stage, fun _ => hp⟩

theorem replied_gives (t : Session α) (request : Query) (reply : Reply α) :
    (t.replied request reply).closed = true ∨
      t.given.length < (t.replied request reply).given.length := by
  rcases reply with e | page
  · simp [replied, Stream.receive, Stream.Poll.output?]
  · cases hd : page.data <;>
      simp [replied, Stream.receive, Stream.give, Stream.finish, Stream.Poll.output?,
        Stream.Poll.isFinished, hd]

theorem Move.gives {arrived : Bool} {u : Session α} (move : Move server arrived t u)
    (harrived : arrived = true) : u.closed = true ∨ t.given.length < u.given.length := by
  induction move with
  | send | wait => cases harrived
  | ask _ _ ih => exact ih harrived
  | receive => exact replied_gives _ _ _
  | give | finish | stay => simp

theorem Lawful.run (h : Lawful server q t) (arrived : Nat → Bool) (m : Nat) :
    Lawful server q (quietRun server arrived t m) := by
  induction m with
  | zero => exact h
  | succ m ih => exact (ih.move (arrived m)).lawful ih

theorem Lawful.length_received (h : Lawful server q t) :
    t.received.length ≤ t.sent.length ∧ t.sent.length ≤ t.received.length + 1 := by
  have hstage := h.stage
  generalize t.stream.phase = phase at hstage
  cases hstage with
  | ready sent_eq received_eq => simp [sent_eq, received_eq]
  | waiting ahead => omega
  | giving _ _ level | ended level => omega

theorem Lawful.given_outputs (h : Lawful server q t) : t.given <+: outputs q t.received := by
  have hstage := h.stage
  generalize t.stream.phase = phase at hstage
  cases hstage with
  | ready _ _ given_eq => rw [given_eq]; exact List.nil_prefix
  | waiting _ given_eq => rw [given_eq]; exact List.prefix_append _ _
  | giving rest _ _ _ given_eq => exact ⟨rest.map .ok, given_eq⟩
  | ended _ _ _ given_eq => exact given_eq ▸ List.prefix_rfl

theorem Lawful.stopped (h : Lawful server q t) (hclosed : t.closed = true) :
    t.sent.length = t.received.length ∧ t.received ≠ [] ∧ ¬ GoesOn q t.received ∧
      t.given = outputs q t.received := by
  have hstage := h.stage
  rw [h.closed hclosed] at hstage
  cases hstage with
  | ended level nonempty stopped given_eq => exact ⟨level, nonempty, stopped, given_eq⟩

/-- If every reply arrives in the end, a session gives out as much as one likes, or tells the
end. -/
theorem Lawful.run_gives (h : Lawful server q t) {arrived : Nat → Bool}
    (fair : Fair arrived) (count : Nat) :
    ∃ m, (quietRun server arrived t m).closed = true ∨
      count ≤ (quietRun server arrived t m).given.length := by
  induction count with
  | zero => exact ⟨0, .inr (Nat.zero_le _)⟩
  | succ count ih =>
      obtain ⟨n, hn⟩ := ih
      obtain ⟨m, hnm, hm⟩ := fair n
      rcases hn with hclosed | hcount
      · exact ⟨n, .inl hclosed⟩
      · have hle : (quietRun server arrived t n).given.length ≤
            (quietRun server arrived t m).given.length := (run_mono poll_given hnm).length_le
        have hmove := ((h.run arrived m).move (arrived m)).gives hm
        exact ⟨m + 1, hmove.imp_right (Nat.lt_of_le_of_lt (Nat.le_trans hcount hle))⟩

end Catalogue.Session
