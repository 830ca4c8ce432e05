import Catalogue.Page.Stream
import Mathlib.Data.List.Basic

namespace Catalogue

/-- The reply of a server to a request, and how many requests came before it. -/
abbrev Server (α : Type) := Nat → Query → Reply α

variable {α : Type}

namespace Stream.Poll

def output? : Poll α → Option (Except Error α)
  | item a => some (.ok a)
  | failed e => some (.error e)
  | finished | pending => none

def isFinished : Poll α → Bool
  | finished => true
  | _ => false

end Stream.Poll

/-- The position behind so many items of a search, as a machine word counts it. -/
def Query.position (q : Query) (count : Nat) : Nat := (q.skip.getD 0 + count) % UInt64.size

theorem Query.position_le (q : Query) (count : Nat) : q.position count ≤ q.skip.getD 0 + count :=
  Nat.mod_le _ _

theorem Query.position_of_lt {q : Query} {count : Nat} (h : q.skip.getD 0 + count < UInt64.size) :
    q.position count = q.skip.getD 0 + count :=
  Nat.mod_eq_of_lt h

namespace Stream

theorem offset_toNat (s : Stream α) : s.offset.toNat = s.query.position s.fetched := by
  simp [offset, Query.position, UInt64.toNat_add, UInt64.toNat_ofNat']

theorem poll_request {s : Stream α} {request : Query} (h : s.request? = some request)
    (reply : Option (Reply α)) : s.poll false reply = s.receive request reply := by
  unfold request? at h
  split at h
  · next r hphase => cases h; simp [poll, pollSeeing, hphase]
  · next r hphase => subst h; simp [poll, pollSeeing, hphase]
  · cases h

theorem poll_waiting {s : Stream α} {request : Query} (h : s.phase = .waiting request)
    (reply : Option (Reply α)) : s.poll false reply = s.receive request reply := by
  simp [poll, pollSeeing, h]

theorem poll_giving {s : Stream α} {item : α} {items : List α} {next : Option Query}
    (h : s.phase = .giving (item :: items) next) (cancelled : Bool) (reply : Option (Reply α)) :
    s.poll cancelled reply = (.item item, s.enter (.giving items next), []) := by
  simp [poll, pollSeeing, h, give]

theorem poll_finishing {s : Stream α} (h : s.phase = .giving [] none) (cancelled : Bool)
    (reply : Option (Reply α)) : s.poll cancelled reply = s.finish := by
  simp [poll, pollSeeing, h]

theorem poll_ended {s : Stream α} (h : s.phase = .ended) (cancelled : Bool)
    (reply : Option (Reply α)) : s.poll cancelled reply = (.finished, s, []) := by
  simp [poll, pollSeeing, h]

/-- A search that is cancelled is over when it would send a request or is waiting for a reply. -/
theorem poll_cancelled {s : Stream α} {request : Query}
    (h : s.request? = some request ∨ s.phase = .waiting request) :
    ∃ event, ∀ reply, s.poll true reply = (.failed .cancelled, s.enter .ended, [event]) := by
  rcases h with h | h
  · refine ⟨.cancelledBeforeRequest s.resource s.fetched, fun reply => ?_⟩
    unfold request? at h
    split at h
    · next hphase => simp only [poll, pollSeeing, hphase]
    · next hphase => subst h; simp only [poll, pollSeeing, hphase]
    · cases h
  · refine ⟨.cancelledDuringRequest s.resource s.fetched, fun reply => ?_⟩
    simp only [poll, pollSeeing, h]

theorem receive_enter (s : Stream α) (phase : Phase α) (request : Query)
    (reply : Option (Reply α)) :
    (s.enter phase).receive request reply = s.receive request reply := by
  rcases reply with _ | _ | page
  · rfl
  · rfl
  · cases hd : page.data <;>
      simp [enter, receive, give, finish, counted, next?, offset, remaining, hd]

end Stream

/-- A search under way: its stream, and what it has sent, received and given out. -/
structure Session (α : Type) where
  stream : Stream α
  sent : List Query := []
  received : List (Reply α) := []
  given : List (Except Error α) := []
  closed : Bool := false

namespace Session

def start (resource : String) (q : Query) : Session α := { stream := .start resource q }

/-- One poll. A reply that arrives together with the cancellation is handed to the stream and does
not count as received. -/
def poll (server : Server α) (cancelled arrived : Bool) (t : Session α) : Session α :=
  let sent := if cancelled then t.sent else t.sent ++ t.stream.request?.toList
  let reply := if arrived then sent[t.received.length]?.map (server t.received.length) else none
  let polled := t.stream.poll cancelled reply
  { stream := polled.2.1
    sent := sent
    received := t.received ++ if cancelled then [] else reply.toList
    given := t.given ++ polled.1.output?.toList
    closed := t.closed || polled.1.isFinished }

def run (server : Server α) (cancelled arrived : Nat → Bool) (t : Session α) : Nat → Session α
  | 0 => t
  | m + 1 => (run server cancelled arrived t m).poll server (cancelled m) (arrived m)

def items (replies : List (Reply α)) : List α :=
  replies.flatMap fun
    | .ok page => page.data
    | .error _ => []

/-- The search does not come to the end of what a machine word can count. -/
def Unwrapped (q : Query) (replies : List (Reply α)) : Prop :=
  q.skip.getD 0 + (items replies).length < UInt64.size

def requestAfter (q : Query) (replies : List (Reply α)) : Query :=
  if replies = [] then q
  else q.page (q.limit.map (· - (items replies).length))
    (some (q.position (items replies).length))

/-- Another request follows: the last reply is a page with items, and they reach neither its total
nor the limit. -/
def GoesOn (q : Query) (replies : List (Reply α)) : Prop :=
  ∃ page, replies.getLast? = some (.ok page) ∧ page.data ≠ [] ∧
    q.position (items replies).length < page.total ∧
    ∀ limit, q.limit = some limit → (items replies).length < limit

def failure (q : Query) (replies : List (Reply α)) : List (Except Error α) :=
  match replies.getLast? with
  | some (.error e) => [.error (.page (requestAfter q replies.dropLast).text e)]
  | _ => []

/-- All that is given out after some replies: their items, and the failure at their end. -/
def outputs (q : Query) (replies : List (Reply α)) : List (Except Error α) :=
  (items replies).map .ok ++ failure q replies

theorem items_append (replies more : List (Reply α)) :
    items (replies ++ more) = items replies ++ items more := by
  simp [items]

theorem items_mono {replies more : List (Reply α)} (h : replies <+: more) :
    items replies <+: items more := by
  obtain ⟨rest, rfl⟩ := h
  rw [items_append]
  exact List.prefix_append _ _

theorem Unwrapped.mono {q : Query} {replies more : List (Reply α)} (h : Unwrapped q more)
    (hbegin : replies <+: more) : Unwrapped q replies :=
  Nat.lt_of_le_of_lt (Nat.add_le_add_left (items_mono hbegin).length_le _) h

theorem Unwrapped.position_eq {q : Query} {replies : List (Reply α)} (h : Unwrapped q replies) :
    q.position (items replies).length = q.skip.getD 0 + (items replies).length :=
  Query.position_of_lt h

@[simp] theorem items_page (page : Page α) : items [.ok page] = page.data := by simp [items]

@[simp] theorem items_error (e : Error) : items ([.error e] : List (Reply α)) = [] := by
  simp [items]

@[simp] theorem requestAfter_nil (q : Query) : requestAfter q ([] : List (Reply α)) = q := by
  simp [requestAfter]

theorem outputs_page (q : Query) (replies : List (Reply α)) (page : Page α) :
    outputs q (replies ++ [.ok page]) = (items replies).map .ok ++ page.data.map .ok := by
  simp [outputs, failure, items_append]

theorem outputs_error (q : Query) (replies : List (Reply α)) (e : Error) :
    outputs q (replies ++ [.error e]) =
      (items replies).map .ok ++ [.error (.page (requestAfter q replies).text e)] := by
  simp [outputs, failure, items_append]

theorem goesOn_page {q : Query} {replies : List (Reply α)} {page : Page α} :
    GoesOn q (replies ++ [.ok page]) ↔ page.data ≠ [] ∧
      q.position ((items replies).length + page.data.length) < page.total ∧
      ∀ limit, q.limit = some limit → (items replies).length + page.data.length < limit := by
  simp [GoesOn, items_append]

theorem GoesOn.ne_nil {q : Query} {replies : List (Reply α)} (h : GoesOn q replies) :
    replies ≠ [] := by
  obtain ⟨page, hlast, -⟩ := h
  rintro rfl
  simp at hlast

theorem GoesOn.failure_eq {q : Query} {replies : List (Reply α)} (h : GoesOn q replies) :
    failure q replies = [] := by
  obtain ⟨page, hlast, -⟩ := h
  simp [failure, hlast]

theorem length_outputs_le (q : Query) (replies : List (Reply α)) :
    (outputs q replies).length ≤ (items replies).length + 1 := by
  unfold outputs failure
  split <;> simp

theorem not_goesOn_error {q : Query} {replies : List (Reply α)} {e : Error} :
    ¬ GoesOn q (replies ++ [.error e]) := by
  simp [GoesOn]

variable {server : Server α} {t : Session α}

abbrev quietRun (server : Server α) (arrived : Nat → Bool) (t : Session α) : Nat → Session α :=
  run server (fun _ => false) arrived t

def Fair (arrived : Nat → Bool) : Prop := ∀ n, ∃ m, n ≤ m ∧ arrived m = true

/-! Requests and outputs are only ever added, and the end is told once and for all. -/

theorem poll_sent (server : Server α) (cancelled arrived : Bool) (t : Session α) :
    t.sent <+: (t.poll server cancelled arrived).sent := by
  cases cancelled <;> simp [poll]

theorem poll_received (server : Server α) (cancelled arrived : Bool) (t : Session α) :
    t.received <+: (t.poll server cancelled arrived).received :=
  List.prefix_append _ _

theorem poll_given (server : Server α) (cancelled arrived : Bool) (t : Session α) :
    t.given <+: (t.poll server cancelled arrived).given :=
  List.prefix_append _ _

theorem poll_closed {cancelled arrived : Bool} (h : t.closed = true) :
    (t.poll server cancelled arrived).closed = true := by
  simp [poll, h]

theorem run_mono {β : Type} {f : Session α → List β} {cancelled arrived : Nat → Bool} {m n : Nat}
    (step : ∀ (server : Server α) cancelled arrived t, f t <+: f (t.poll server cancelled arrived))
    (h : m ≤ n) :
    f (run server cancelled arrived t m) <+: f (run server cancelled arrived t n) := by
  induction h with
  | refl => exact List.prefix_rfl
  | step _ ih => exact ih.trans (step _ _ _ _)

theorem run_closed {cancelled arrived : Nat → Bool} {m n : Nat} (h : m ≤ n)
    (hm : (run server cancelled arrived t m).closed = true) :
    (run server cancelled arrived t n).closed = true := by
  induction h with
  | refl => exact hm
  | step _ ih => exact poll_closed ih

end Session

end Catalogue
