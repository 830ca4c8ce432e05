import Catalogue.Proofs.SessionBound

namespace Catalogue.Session

variable {α : Type}

def itemsGiven (t : Session α) : List α := t.given.filterMap Except.toOption

/-- No page brings more items than its request asked for. -/
def KeptLimits (t : Session α) : Prop :=
  ∀ (k : Nat) (request : Query) (limit : Nat) (page : Page α), t.sent[k]? = some request →
    request.limit = some limit → t.received[k]? = some (.ok page) → page.data.length ≤ limit

def pending : Stream.Phase α → List α
  | .giving items _ => items
  | .ready _ | .waiting _ | .ended => []

section Outputs

variable {server : Server α} {q : Query} {t : Session α}

theorem filterMap_map_ok (xs : List α) :
    (xs.map (Except.ok (ε := Error))).filterMap Except.toOption = xs := by
  rw [List.filterMap_map]
  exact List.filterMap_some

theorem filterMap_outputs (q : Query) (replies : List (Reply α)) :
    (outputs q replies).filterMap Except.toOption = items replies := by
  have hfailure : (failure q replies).filterMap Except.toOption = [] := by
    unfold failure
    split <;> rfl
  rw [outputs, List.filterMap_append, filterMap_map_ok, hfailure, List.append_nil]

theorem filterMap_owed (phase : Stream.Phase α) :
    (owed phase).filterMap Except.toOption = pending phase := by
  cases phase with
  | ready | waiting | ended => rfl
  | giving rest next =>
      cases next with
      | none => exact filterMap_map_ok rest
      | some request =>
          rw [owed, List.filterMap_append, filterMap_map_ok]
          exact List.append_nil rest

theorem Lawful.itemsGiven_append (h : Lawful server q t) :
    t.itemsGiven ++ pending t.stream.phase = items t.received := by
  have hstage := h.stage
  generalize t.stream.phase = phase at hstage
  cases hstage with
  | ready _ received_eq given_eq => simp [itemsGiven, received_eq, given_eq, pending, items]
  | waiting _ given_eq => rw [itemsGiven, given_eq, filterMap_map_ok, pending, List.append_nil]
  | giving rest _ _ _ given_eq =>
      rw [← filterMap_outputs q, ← given_eq, List.filterMap_append, filterMap_map_ok]
      rfl
  | ended _ _ _ given_eq =>
      rw [itemsGiven, given_eq, filterMap_outputs, pending, List.append_nil]

theorem Lawful.length_items_take (h : Lawful server q t) {limit k : Nat} {request : Query}
    (hlimit : q.limit = some limit) (hk : t.sent[k]? = some request) :
    ∃ rest, request.limit = some rest ∧ (items (t.received.take k)).length + rest = limit := by
  rw [h.log.derived k request hk]
  by_cases hnil : t.received.take k = []
  · exact ⟨limit, by rw [hnil, requestAfter_nil, hlimit], by simp [hnil, items]⟩
  · have hlt := (List.getElem?_eq_some_iff.1 hk).1
    have hpos : 0 < k := by
      apply Nat.pos_of_ne_zero
      rintro rfl
      exact hnil rfl
    obtain ⟨-, -, -, -, hfewer⟩ := h.log.follows k hpos hlt
    have hless := hfewer limit hlimit
    refine ⟨limit - (items (t.received.take k)).length, ?_, by omega⟩
    simp [requestAfter, hnil, Query.page, hlimit]

theorem Lawful.length_items_le (h : Lawful server q t) {limit : Nat} (hlimit : q.limit = some limit)
    (hkept : t.KeptLimits) : (items t.received).length ≤ limit := by
  have hlength := h.length_received.1
  obtain hnil | ⟨replies, reply, hreceived⟩ := List.eq_nil_or_concat' t.received
  · simp [hnil, items]
  · have hlt : replies.length < t.sent.length := by
      rw [hreceived, List.length_append, List.length_singleton] at hlength
      omega
    have hsent := List.getElem?_eq_getElem hlt
    have hlast : t.received[replies.length]? = some reply := by simp [hreceived]
    obtain ⟨rest, hrest, hsum⟩ := h.length_items_take hlimit hsent
    rw [hreceived, List.take_left] at hsum
    rw [hreceived, items_append, List.length_append]
    cases reply with
    | error e => rw [items_error, List.length_nil]; omega
    | ok page =>
        have hpage := hkept _ _ rest page hsent hrest hlast
        rw [items_page]
        omega

theorem Lawful.lt_length_items (h : Lawful server q t) {limit : Nat} (hlimit : q.limit = some limit)
    (hexceeded : ¬ t.KeptLimits) : limit < (items t.received).length := by
  simp only [KeptLimits, not_forall, Nat.not_le] at hexceeded
  obtain ⟨k, request, rest, page, hsent, hrest, hreceived, hmore⟩ := hexceeded
  obtain ⟨rest', hrest', hsum⟩ := h.length_items_take hlimit hsent
  obtain rfl : rest' = rest := Option.some.inj (hrest'.symm.trans hrest)
  have htake : t.received.take (k + 1) = t.received.take k ++ [.ok page] := by
    rw [List.take_add_one, hreceived]
    rfl
  have hprefix := (items_mono (List.take_prefix (k + 1) t.received)).length_le
  rw [htake, items_append, items_page, List.length_append] at hprefix
  omega

theorem Lawful.keptLimits_iff (h : Lawful server q t) {limit : Nat}
    (hlimit : q.limit = some limit) :
    t.KeptLimits ↔ (items t.received).length ≤ limit := by
  refine ⟨h.length_items_le hlimit, fun hle => ?_⟩
  by_contra hexceeded
  exact absurd hle (Nat.not_le.2 (h.lt_length_items hlimit hexceeded))

end Outputs

section Run

variable {server : Server α} {q : Query} {t : Session α} {cancelled arrived : Nat → Bool}

theorem Lawful.run_itemsGiven_append (h : Lawful server q t) (latched : Latched cancelled)
    (n : Nat) :
    let s := Session.run server cancelled arrived t n
    s.itemsGiven ++ pending s.stream.phase = items s.received := by
  obtain ⟨m, k, -, hrun⟩ := exists_halted server t arrived latched n
  intro s
  obtain ⟨hgiven, howed⟩ : s.given = (quietRun server arrived t m).given ++
      ((owed (quietRun server arrived t m).stream.phase).take k) ∧
      owed s.stream.phase = (owed (quietRun server arrived t m).stream.phase).drop k := by
    simp only [s, hrun]
    exact halted_owed k
  have hreceived : s.received = (quietRun server arrived t m).received := by
    simp only [s, hrun]
    exact halted_received k
  rw [itemsGiven, ← filterMap_owed, ← List.filterMap_append, howed, hgiven, List.append_assoc,
    List.take_append_drop, List.filterMap_append, filterMap_owed, hreceived]
  exact (h.run arrived m).itemsGiven_append

theorem Lawful.run_keptLimits_iff (h : Lawful server q t) (latched : Latched cancelled)
    {limit : Nat} (hlimit : q.limit = some limit) (n : Nat) :
    let s := Session.run server cancelled arrived t n
    s.KeptLimits ↔ (items s.received).length ≤ limit := by
  intro s
  obtain ⟨m, hsent, hreceived⟩ : ∃ m, s.sent = (quietRun server arrived t m).sent ∧
      s.received = (quietRun server arrived t m).received := exists_quiet latched n
  have hiff := (h.run arrived m).keptLimits_iff hlimit
  unfold KeptLimits at hiff ⊢
  rwa [← hsent, ← hreceived] at hiff

theorem poll_pending {c a : Bool} {item : α} {rest : List α}
    (h : pending t.stream.phase = item :: rest) :
    pending (t.poll server c a).stream.phase = rest := by
  cases hp : t.stream.phase with
  | ready | waiting | ended => simp [hp, pending] at h
  | giving items next =>
      obtain rfl : items = item :: rest := by simpa [hp, pending] using h
      simp [poll, Stream.poll_giving hp, Stream.enter, pending]

theorem exists_none_pending (m : Nat) :
    ∃ n, m ≤ n ∧ pending (run server cancelled arrived t n).stream.phase = [] := by
  generalize hrest : pending (run server cancelled arrived t m).stream.phase = rest
  induction rest generalizing m with
  | nil => exact ⟨m, Nat.le_refl m, hrest⟩
  | cons item rest ih =>
      obtain ⟨n, hn, hnone⟩ := ih (m + 1) (poll_pending hrest)
      exact ⟨n, by omega, hnone⟩

theorem run_keptLimits {resource : String} (latched : Latched cancelled)
    (hserver : ∀ (k : Nat) (request : Query) (limit : Nat) (page : Page α),
      request.limit = some limit → server k request = .ok page → page.data.length ≤ limit)
    (n : Nat) : (run server cancelled arrived (start resource q) n).KeptLimits := by
  intro k request limit page hsent hlimit hreceived
  obtain ⟨m, hsent_eq, hreceived_eq⟩ :
      ∃ m, (run server cancelled arrived (start resource q) n).sent =
          (quietRun server arrived (start resource q) m).sent ∧
        (run server cancelled arrived (start resource q) n).received =
          (quietRun server arrived (start resource q) m).received := exists_quiet latched n
  rw [hsent_eq] at hsent
  rw [hreceived_eq] at hreceived
  obtain ⟨request', hsent', hreply⟩ :=
    ((start_lawful server resource q).run arrived m).log.answered k (.ok page) hreceived
  obtain rfl : request' = request := Option.some.inj (hsent'.symm.trans hsent)
  exact hserver k request' limit page hlimit hreply.symm

end Run

/-- Whatever the server does and whenever the search is cancelled, it gives out no more items than
its limit allows, if and only if no page brings more items than its request asked for. -/
theorem itemsGiven_within_limit_iff (server : Server α) (resource : String) (q : Query)
    (arrived : Nat → Bool) {cancelled : Nat → Bool} (latched : Latched cancelled) {limit : Nat}
    (hlimit : q.limit = some limit) :
    let run := run server cancelled arrived (start resource q)
    (∀ m, (run m).itemsGiven.length ≤ limit) ↔ ∀ m, (run m).KeptLimits := by
  intro run
  have hstart := start_lawful server resource q
  have hitems (m : Nat) : (run m).itemsGiven ++ pending (run m).stream.phase =
      items (run m).received := hstart.run_itemsGiven_append latched m
  have hkept (m : Nat) : (run m).KeptLimits ↔ (items (run m).received).length ≤ limit :=
    hstart.run_keptLimits_iff latched hlimit m
  constructor
  · intro hwithin m
    -- What was received until now is given out later.
    obtain ⟨n, hmn, hnone⟩ : ∃ n, m ≤ n ∧ pending (run n).stream.phase = [] :=
      exists_none_pending m
    have hgiven := hitems n
    rw [hnone, List.append_nil] at hgiven
    have hreceived : (run m).received <+: (run n).received := run_mono poll_received hmn
    rw [hkept]
    exact Nat.le_trans (items_mono hreceived).length_le (hgiven ▸ hwithin n)
  · intro hall m
    have hreceived := (hkept m).1 (hall m)
    rw [← hitems m, List.length_append] at hreceived
    omega

def pairsAsked : Server Nat := fun k request =>
  .ok ⟨10, 2, request.skip.getD 0, List.replicate (min 2 (request.limit.getD 2)) k⟩

def threeAsked : Nat → Session Nat :=
  run pairsAsked cancelledLate (fun _ => true) (start "items" { limit := some 3 })

/-- A limit of three is kept by a server that answers with two items and then with one. -/
theorem threeAsked_within_limit :
    Latched cancelledLate ∧ (∀ m, (threeAsked m).itemsGiven.length ≤ 3) ∧
      (threeAsked 5).itemsGiven = [0, 0, 1] := by
  have latched : Latched cancelledLate := by
    intro m n hmn hm
    simp only [cancelledLate, decide_eq_true_eq] at hm ⊢
    omega
  refine ⟨latched, ?_, rfl⟩
  apply (itemsGiven_within_limit_iff pairsAsked "items" { limit := some 3 } (fun _ => true)
    latched rfl).2
  apply run_keptLimits latched
  rintro k request limit page hlimit ⟨⟩
  simp only [hlimit, Option.getD_some, List.length_replicate]
  omega

/-- A search for two items gives out three if the server sends three. -/
theorem threeForTwo_beyond_limit :
    let server : Server Nat := fun _ _ => .ok ⟨3, 3, 0, [1, 2, 3]⟩
    let s := quietRun server (fun _ => true) (start "items" { limit := some 2 }) 4
    s.given = [.ok 1, .ok 2, .ok 3] ∧ s.closed = true ∧ ¬ s.itemsGiven.length ≤ 2 :=
  ⟨rfl, rfl, by decide⟩

end Catalogue.Session
