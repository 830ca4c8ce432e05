import Catalogue.Proofs.SessionLaw
import Catalogue.Search
import Mathlib.Data.List.Induction

namespace Catalogue

variable {α : Type}

/-- The part of a collection that a query asks for. -/
def Query.slice (q : Query) (collection : List α) : List α :=
  match q.limit with
  | none => collection.drop (q.skip.getD 0)
  | some limit => (collection.drop (q.skip.getD 0)).take limit

namespace Page

/-- A page that tells the truth: the total is that of the collection, and the data are items from
where the request skips to, within its limit, and none only if there is none to give. -/
def Honest (collection : List α) (q : Query) (page : Page α) : Prop :=
  page.total = collection.length ∧ ∃ count,
    page.data = (collection.drop (q.skip.getD 0)).take count ∧
    (∀ limit, q.limit = some limit → count ≤ limit) ∧
    (q.skip.getD 0 < collection.length → q.limit ≠ some 0 → 1 ≤ count)

/-- A page that holds as much as was asked for, up to `cap` items. -/
def Capped (cap : Nat) (collection : List α) (q : Query) (page : Page α) : Prop :=
  page.total = collection.length ∧ page.data = (collection.drop (q.skip.getD 0)).take
    (match q.limit with
      | none => cap
      | some limit => min limit cap)

end Page

def Server.Answers (server : Server α) (P : Query → Page α → Prop) : Prop :=
  ∀ k request, ∃ page, server k request = .ok page ∧ P request page

def Server.paged (cap : Nat → Nat) (collection : List α) : Server α := fun k request =>
  .ok {
    total := collection.length
    limit := request.limit.getD (cap k)
    skip := request.skip.getD 0
    data := (collection.drop (request.skip.getD 0)).take
      (match request.limit with
        | none => cap k
        | some limit => min limit (cap k)) }

namespace Page

variable {collection : List α} {q : Query} {page : Page α} {cap : Nat}

theorem Capped.data_eq (h : Capped cap collection q page) :
    page.data = (q.slice collection).take cap := by
  unfold Query.slice
  cases hl : q.limit with
  | none => simp [h.2, hl]
  | some limit => simp [h.2, hl, List.take_take, Nat.min_comm]

theorem Capped.honest (hcap : 1 ≤ cap) (h : Capped cap collection q page) :
    Honest collection q page := by
  refine ⟨h.1, _, h.2, ?_, ?_⟩
  · intro limit hl
    rw [hl]
    exact Nat.min_le_left limit cap
  · intro _ hl
    cases hq : q.limit with
    | none => exact hcap
    | some limit =>
        have : limit ≠ 0 := fun h0 => hl (by rw [hq, h0])
        simp only
        omega

theorem paged_honest {cap : Nat → Nat} (hcap : ∀ k, 1 ≤ cap k) (collection : List α) :
    (Server.paged cap collection).Answers (Honest collection) := fun k _ =>
  ⟨_, rfl, Capped.honest (hcap k) ⟨rfl, rfl⟩⟩

theorem Honest.data_slice (h : Honest collection q page) : page.data <+: q.slice collection := by
  obtain ⟨-, count, hdata, hle, -⟩ := h
  rw [hdata]
  unfold Query.slice
  cases hl : q.limit with
  | none => exact List.take_prefix _ _
  | some limit => exact List.take_prefix_take_left (hle limit hl)

theorem Honest.slice_eq_nil (h : Honest collection q page) (hdata : page.data = []) :
    q.slice collection = [] := by
  obtain ⟨-, count, hcount, -, hpos⟩ := h
  rw [hcount, List.take_eq_nil_iff, List.drop_eq_nil_iff] at hdata
  by_cases hskip : q.skip.getD 0 < collection.length
  · have hl : q.limit = some 0 := by
      by_contra hl
      have := hpos hskip hl
      omega
    simp [Query.slice, hl]
  · cases hl : q.limit <;> simp [Query.slice, hl] <;> omega

end Page

namespace Session

variable {server : Server α} {q : Query} {t : Session α} {collection : List α}

theorem slice_requestAfter {replies : List (Reply α)} (hword : replies ≠ [] → Unwrapped q replies)
    (collection : List α) : (requestAfter q replies).slice collection =
      (q.slice collection).drop (items replies).length := by
  by_cases hne : replies = []
  · simp [hne, items]
  · cases hl : q.limit <;>
      simp [requestAfter, hne, (hword hne).position_eq, Query.page, Query.slice, hl, List.drop_take,
        List.drop_drop]

/-- Replies that are pages of the kind `P` says for the requests they follow from, where each but
the first was due. -/
structure Replied (P : Query → Page α → Prop) (q : Query) (received : List (Reply α)) : Prop where
  due : ∀ k, 0 < k → k < received.length → GoesOn q (received.take k)
  page : ∀ k reply, received[k]? = some reply →
    ∃ page, reply = .ok page ∧ P (requestAfter q (received.take k)) page

theorem Lawful.pages {P : Query → Page α → Prop} (h : Lawful server q t)
    (answers : server.Answers P) : Replied P q t.received := by
  refine ⟨fun k hpos hk => ?_, fun k reply hk => ?_⟩
  · have hlength := h.length_received
    exact h.log.follows k hpos (by omega)
  · obtain ⟨request, hs, rfl⟩ := h.log.answered k reply hk
    rw [← h.log.derived k request hs]
    exact answers k request

theorem Replied.append {P : Query → Page α → Prop} {received : List (Reply α)} {reply : Reply α}
    (h : Replied P q (received ++ [reply])) :
    Replied P q received ∧ (received ≠ [] → GoesOn q received) ∧
      ∃ page, reply = .ok page ∧ P (requestAfter q received) page := by
  refine ⟨⟨fun k hpos hk => ?_, fun k reply' hk => ?_⟩, fun hne => ?_, ?_⟩
  · have := h.due k hpos (by rw [List.length_append]; omega)
    rwa [List.take_append_of_le_length (Nat.le_of_lt hk)] at this
  · have hlt := (List.getElem?_eq_some_iff.1 hk).1
    have := h.page k reply' (by rwa [List.getElem?_append_left hlt])
    rwa [List.take_append_of_le_length (Nat.le_of_lt hlt)] at this
  · simpa using h.due received.length (List.length_pos_iff.2 hne) (by simp)
  · simpa using h.page received.length reply (by simp)

theorem Replied.take {P : Query → Page α → Prop} {received : List (Reply α)}
    (h : Replied P q received) (n : Nat) : Replied P q (received.take n) := by
  refine ⟨fun k hpos hk => ?_, fun k reply hk => ?_⟩
  · rw [List.length_take] at hk
    rw [List.take_take, Nat.min_eq_left (by omega)]
    exact h.due k hpos (by omega)
  · have hlt := (List.getElem?_eq_some_iff.1 hk).1
    rw [List.length_take] at hlt
    rw [List.getElem?_take_of_lt (by omega)] at hk
    rw [List.take_take, Nat.min_eq_left (by omega)]
    exact h.page k reply hk

/-- Items of a collection that a machine word can count do not make the position wrap. -/
theorem unwrapped_of_slice {received : List (Reply α)} (hsize : collection.length < UInt64.size)
    (hitems : items received <+: q.slice collection) (hne : items received ≠ []) :
    Unwrapped q received := by
  have hle := hitems.length_le
  have hpos := List.length_pos_iff.2 hne
  unfold Unwrapped
  cases hl : q.limit <;>
    simp only [Query.slice, hl, List.length_take, List.length_drop] at hle <;> omega

theorem GoesOn.items_ne_nil {replies : List (Reply α)} (h : GoesOn q replies) :
    items replies ≠ [] := by
  obtain ⟨page, hlast, hdata, -⟩ := h
  obtain ⟨replies, rfl⟩ := List.getLast?_eq_some_iff.1 hlast
  rw [items_append, items_page]
  simp [hdata]

theorem Replied.items_slice {received : List (Reply α)}
    (h : Replied (Page.Honest collection) q received) (hsize : collection.length < UInt64.size) :
    items received <+: q.slice collection := by
  induction received using List.reverseRecOn with
  | nil => exact List.nil_prefix
  | append_singleton received reply ih =>
      obtain ⟨hreceived, hdue, page, rfl, hpage⟩ := h.append
      have hitems := ih hreceived
      have hdata := hpage.data_slice
      rw [slice_requestAfter fun hne =>
        unwrapped_of_slice hsize hitems (hdue hne).items_ne_nil] at hdata
      rw [items_append, items_page,
        ← List.take_append_drop (items received).length (q.slice collection),
        ← List.prefix_iff_eq_take.1 hitems]
      exact List.prefix_append_right_inj _ |>.2 hdata

theorem Replied.unwrapped {received : List (Reply α)}
    (h : Replied (Page.Honest collection) q received) (hsize : collection.length < UInt64.size)
    (hgo : GoesOn q received) : Unwrapped q received :=
  unwrapped_of_slice hsize (h.items_slice hsize) hgo.items_ne_nil

/-- Behind honest replies, another request follows exactly if they do not fill the slice yet. -/
theorem Replied.goesOn_iff {received : List (Reply α)}
    (h : Replied (Page.Honest collection) q received) (hsize : collection.length < UInt64.size)
    (hne : received ≠ []) :
    GoesOn q received ↔ (items received).length < (q.slice collection).length := by
  have hitems := h.items_slice hsize
  have hle := hitems.length_le
  have hword := unwrapped_of_slice hsize hitems
  obtain ⟨received, reply, rfl⟩ := (List.eq_nil_or_concat' received).resolve_left hne
  obtain ⟨hreceived, hdue, page, rfl, hpage⟩ := h.append
  have hempty : page.data = [] → (q.slice collection).length ≤ (items received).length := by
    intro hdata
    have := hpage.slice_eq_nil hdata
    rwa [slice_requestAfter fun hne => hreceived.unwrapped hsize (hdue hne),
      List.drop_eq_nil_iff] at this
  rw [Unwrapped, items_append, items_page, List.length_append] at hword
  rw [items_append, items_page, List.length_append] at hle ⊢
  rw [goesOn_page, hpage.1]
  constructor
  · rintro ⟨hdata, htotal, hlimit⟩
    rw [Query.position_of_lt (hword (by simp [hdata]))] at htotal
    cases hl : q.limit with
    | none => simp only [Query.slice, hl, List.length_drop]; omega
    | some limit =>
        have := hlimit limit hl
        simp only [Query.slice, hl, List.length_take, List.length_drop]
        omega
  · intro hlt
    refine ⟨fun hdata => ?_, Nat.lt_of_le_of_lt (q.position_le _) ?_, ?_⟩
    · have := hempty hdata
      omega
    · cases hl : q.limit <;>
        simp only [Query.slice, hl, List.length_take, List.length_drop] at hlt <;> omega
    · intro limit hl
      simp only [Query.slice, hl, List.length_take] at hlt
      omega

theorem Replied.outputs_eq {P : Query → Page α → Prop} {received : List (Reply α)}
    (h : Replied P q received) : outputs q received = (items received).map .ok := by
  rcases List.eq_nil_or_concat' received with rfl | ⟨received, reply, rfl⟩
  · rfl
  · obtain ⟨-, -, page, rfl, -⟩ := h.append
    simp [outputs_page, items_append]

theorem Lawful.slice_found (h : Lawful server q t)
    (honest : server.Answers (Page.Honest collection)) (hsize : collection.length < UInt64.size)
    (hclosed : t.closed = true) :
    items t.received = q.slice collection ∧ t.given = (q.slice collection).map .ok := by
  have hpages := h.pages honest
  obtain ⟨-, hne, hstop, given_eq⟩ := h.stopped hclosed
  rw [hpages.goesOn_iff hsize hne] at hstop
  have hitems := (hpages.items_slice hsize).eq_of_length_le (by omega)
  exact ⟨hitems, by rw [given_eq, hpages.outputs_eq, hitems]⟩

variable {arrived : Nat → Bool}

theorem run_stops (h : Lawful server q t) (honest : server.Answers (Page.Honest collection))
    (hsize : collection.length < UInt64.size) (fair : Fair arrived) :
    ∃ m, ∀ n, m ≤ n → (quietRun server arrived t n).closed = true := by
  obtain ⟨m, hm⟩ := h.run_gives fair ((q.slice collection).length + 1)
  have hrun := h.run arrived m
  have hpages := hrun.pages honest
  have hgiven := hrun.given_outputs.length_le
  rw [hpages.outputs_eq, List.length_map] at hgiven
  have hle := (hpages.items_slice hsize).length_le
  exact ⟨m, fun n hn => run_closed hn (hm.resolve_right (by omega))⟩

theorem sent_of_found (h : Lawful server q t) (honest : server.Answers (Page.Honest collection))
    (hsize : collection.length < UInt64.size) {m n : Nat} (hmn : m ≤ n)
    (hne : (quietRun server arrived t m).sent ≠ [])
    (hfound : (quietRun server arrived t m).given = (q.slice collection).map .ok) :
    (quietRun server arrived t n).sent = (quietRun server arrived t m).sent := by
  have hsent : (quietRun server arrived t m).sent <+: (quietRun server arrived t n).sent :=
    run_mono poll_sent hmn
  refine (hsent.eq_of_length_le ?_).symm
  by_contra hmore
  have hrun := h.run arrived m
  have hlater := h.run arrived n
  -- The reply to the last request of the earlier time was not the last one.
  have hgo := hlater.log.follows _ (List.length_pos_iff.2 hne) (Nat.lt_of_not_le hmore)
  rw [((hlater.pages honest).take _).goesOn_iff hsize hgo.ne_nil] at hgo
  have hfull := hrun.given_outputs.length_le
  rw [hfound, (hrun.pages honest).outputs_eq, List.length_map, List.length_map] at hfull
  have hreceived : (quietRun server arrived t m).received <+:
      (quietRun server arrived t n).received := run_mono poll_received hmn
  have hitems := (items_mono (List.prefix_take_iff.2 ⟨hreceived, hrun.length_received.1⟩)).length_le
  omega

theorem Replied.honest {cap : Nat} {received : List (Reply α)}
    (h : Replied (Page.Capped cap collection) q received) (hcap : 1 ≤ cap) :
    Replied (Page.Honest collection) q received := by
  refine ⟨h.due, fun k reply hk => ?_⟩
  obtain ⟨page, hpage, hcapped⟩ := h.page k reply hk
  exact ⟨page, hpage, hcapped.honest hcap⟩

theorem Replied.length_items {cap : Nat} {received : List (Reply α)}
    (h : Replied (Page.Capped cap collection) q received) (hcap : 1 ≤ cap)
    (hsize : collection.length < UInt64.size) :
    (items received).length = min (received.length * cap) (q.slice collection).length := by
  induction received using List.reverseRecOn with
  | nil => simp [items]
  | append_singleton received reply ih =>
      obtain ⟨hreceived, hdue, page, rfl, hpage⟩ := h.append
      have hitems := ih hreceived
      have hword (hne : received ≠ []) : Unwrapped q received :=
        (hreceived.honest hcap).unwrapped hsize (hdue hne)
      rw [items_append, items_page, List.length_append, hpage.data_eq, slice_requestAfter hword,
        List.length_take, List.length_drop, List.length_append, List.length_singleton, Nat.add_mul]
      omega

theorem max_one_ceil {n cap j : Nat} (hcap : 1 ≤ cap) (hle : n ≤ (j + 1) * cap)
    (hlt : 0 < j → j * cap < n) : j + 1 = max 1 ((n + cap - 1) / cap) := by
  rw [Nat.add_mul, Nat.one_mul] at hle
  rcases Nat.eq_zero_or_pos j with rfl | hj
  · have hdiv : (n + cap - 1) / cap ≤ 1 := by
      rw [← Nat.lt_succ_iff, Nat.div_lt_iff_lt_mul hcap]
      omega
    omega
  · have hlt := hlt hj
    have hdiv : (n + cap - 1) / cap = j + 1 := by
      apply Nat.div_eq_of_lt_le
      · rw [Nat.add_mul, Nat.one_mul]; omega
      · rw [Nat.succ_mul, Nat.add_mul, Nat.one_mul]; omega
    omega

theorem Lawful.length_sent {cap : Nat} (hcap : 1 ≤ cap) (h : Lawful server q t)
    (capped : server.Answers (Page.Capped cap collection)) (hsize : collection.length < UInt64.size)
    (hclosed : t.closed = true) :
    t.sent.length = max 1 (((q.slice collection).length + cap - 1) / cap) := by
  have honest : server.Answers (Page.Honest collection) := by
    intro k request
    obtain ⟨page, hpage, hcapped⟩ := capped k request
    exact ⟨page, hpage, hcapped.honest hcap⟩
  obtain ⟨level, hne, -, -⟩ := h.stopped hclosed
  obtain ⟨j, hj⟩ := Nat.exists_eq_add_one_of_ne_zero
    (Nat.ne_of_gt (List.length_pos_iff.2 hne))
  have hall := (h.pages capped).length_items hcap hsize
  rw [(h.slice_found honest hsize hclosed).1, hj] at hall
  rw [level, hj]
  refine max_one_ceil hcap (by omega) fun hpos => ?_
  have hgo := h.log.follows j hpos (by omega)
  rw [((h.pages honest).take j).goesOn_iff hsize hgo.ne_nil,
    ((h.pages capped).take j).length_items hcap hsize, List.length_take_of_le (by omega)] at hgo
  omega

/-- A count asks for no items of all that the filters find, whatever the window of the search. -/
theorem countQuery_eq [Resource α] (search : Search α) :
    search.countQuery = { search.query with limit := some 0, skip := none } := rfl

/-- Against an honest server, a search ends and has given out its slice of the collection, item by
item and nothing else, whatever the page sizes and however late the replies. It sends nothing once
it has given out the slice, so that pages of `cap` items cost as many requests as it takes to cut
the slice into such pages, and at least one. The count is that of the whole collection. -/
theorem search_finds_slice [Resource α] (search : Search α) (collection : List α)
    (hsize : collection.length < UInt64.size) (server : Server α)
    (honest : server.Answers (Page.Honest collection)) (arrived : Nat → Bool)
    (fair : Fair arrived) :
    let found := search.query.slice collection
    let run := quietRun server arrived { stream := search.stream }
    (∃ m, ∀ n, m ≤ n → (run n).closed = true ∧ (run n).given = found.map .ok) ∧
    (∀ m n, m ≤ n → (run m).sent ≠ [] → (run m).given = found.map .ok →
      (run n).sent = (run m).sent) ∧
    (∀ cap, 1 ≤ cap → server.Answers (Page.Capped cap collection) →
      ∃ m, ∀ n, m ≤ n → (run n).sent.length = max 1 ((found.length + cap - 1) / cap)) ∧
    ∀ k, Search.countOf (server k search.countQuery) = .ok collection.length := by
  intro found run
  have h : Lawful server search.query { stream := search.stream } :=
    start_lawful server (Resource.name α) search.query
  obtain ⟨m, hclosed⟩ := run_stops h honest hsize fair
  refine ⟨⟨m, ?_⟩, ?_, ?_, ?_⟩
  · intro n hn
    exact ⟨hclosed n hn, ((h.run arrived n).slice_found honest hsize (hclosed n hn)).2⟩
  · intro m n hmn hne hfound
    exact sent_of_found h honest hsize hmn hne hfound
  · intro cap hcap capped
    exact ⟨m, fun n hn => (h.run arrived n).length_sent hcap capped hsize (hclosed n hn)⟩
  · intro k
    obtain ⟨page, hreply, htotal, -⟩ := honest k search.countQuery
    simp [Search.countOf, hreply, htotal]

/-- Three of five item sets, on pages of one and of two sets in turn, with every third poll finding
its reply, and the count of all five by a request that brings none of them. -/
theorem three_of_five_found :
    let sets : List ItemSet := [{ id := some 1 }, { id := some 2 }, { id := some 3 },
      { id := some 4 }, { id := some 5 }]
    let server := Server.paged (fun k => k % 2 + 1) sets
    let search : Search ItemSet := ⟨{ limit := some 3, skip := some 1 }⟩
    sets.length < UInt64.size ∧ server.Answers (Page.Honest sets) ∧ Fair (fun n => n % 3 == 0) ∧
      (∃ m, ∀ n, m ≤ n →
        (quietRun server (fun n => n % 3 == 0) { stream := search.stream } n).given =
          [.ok { id := some 2 }, .ok { id := some 3 }, .ok { id := some 4 }]) ∧
      server 0 search.countQuery = .ok ⟨5, 0, 0, []⟩ ∧
      Search.countOf (server 0 search.countQuery) = .ok 5 := by
  intro sets server search
  have hsize : sets.length < UInt64.size := by decide
  have honest : server.Answers (Page.Honest sets) := Page.paged_honest (by simp) sets
  have fair : Fair (fun n => n % 3 == 0) := fun n => ⟨3 * n, by omega, by simp⟩
  obtain ⟨⟨m, hm⟩, -, -, hcount⟩ := search_finds_slice search sets hsize server honest _ fair
  exact ⟨hsize, honest, fair, ⟨m, fun n hn => (hm n hn).2⟩, rfl, hcount 0⟩

end Session

end Catalogue
