import Catalogue.Proofs.CompileMeaning
import Catalogue.Search
import Mathlib.Data.List.Forall2
import Mathlib.Data.List.Induction

namespace Catalogue

namespace Entries

variable {β : Type}

def ofMentions (mentions : List (String × β)) : Entries β :=
  mentions.foldl (fun es mention => put mention.1 mention.2 es) []

def latest? (mentions : List (String × β)) (name : String) : Option β :=
  mentions.reverse.lookup name

theorem ofMentions_concat (mentions : List (String × β)) (mention : String × β) :
    ofMentions (mentions ++ [mention]) = put mention.1 mention.2 (ofMentions mentions) :=
  List.foldl_concat _ _ _ _

theorem names_ofMentions (mentions : List (String × β)) :
    (ofMentions mentions).names = (mentions.map Prod.fst).eraseDups := by
  induction mentions using List.reverseRecOn with
  | nil => rfl
  | append_singleton mentions mention ih =>
      rw [ofMentions_concat, names_put, ih, List.map_append, List.eraseDups_append]
      simp only [List.mem_eraseDups]
      by_cases hmem : mention.1 ∈ mentions.map Prod.fst
      · simp [hmem, List.removeAll]
      · simp [hmem, List.removeAll, List.eraseDups_cons]

theorem nodup_ofMentions (mentions : List (String × β)) : (ofMentions mentions).names.Nodup := by
  induction mentions using List.reverseRecOn with
  | nil => exact List.nodup_nil
  | append_singleton mentions mention ih =>
      rw [ofMentions_concat]
      exact nodup_put mention.1 mention.2 ih

theorem lookup_ofMentions (mentions : List (String × β)) (name : String) :
    (ofMentions mentions).lookup name = latest? mentions name := by
  induction mentions using List.reverseRecOn with
  | nil => rfl
  | append_singleton mentions mention ih =>
      rw [ofMentions_concat, lookup_put, ih, latest?, latest?, List.reverse_concat,
        List.lookup_cons]
      by_cases hname : name = mention.1
      · simp [hname]
      · have hother : (name == mention.1) = false := by simpa using hname
        simp [hname, hother]

end Entries

namespace Query

inductive Kind
  | limit | skip | sort | select | predicates
  deriving DecidableEq

abbrev Kind.Argument : Kind → Type
  | limit => Nat
  | skip => Nat
  | sort => String × Direction
  | select => String
  | predicates => Predicate

inductive Call
  | limit (n : Nat)
  | skip (n : Nat)
  | sort (path : String) (direction : Direction)
  | select (path : String)
  | predicate (p : Predicate)

namespace Call

def kind : Call → Kind
  | limit _ => .limit
  | skip _ => .skip
  | sort _ _ => .sort
  | select _ => .select
  | predicate _ => .predicates

def apply (q : Query) : Call → Query
  | limit n => q.withLimit n
  | skip n => q.withSkip n
  | sort path direction => q.withSort path direction
  | select path => q.withSelect path
  | predicate p => q.withPredicate p

def argument? : (k : Kind) → Call → Option k.Argument
  | .limit, limit n => some n
  | .skip, skip n => some n
  | .sort, sort path direction => some (path, direction)
  | .select, select path => some path
  | .predicates, predicate p => some p
  | _, _ => none

theorem argument?_eq_none {k : Kind} {call : Call} (h : call.kind ≠ k) : argument? k call = none := by
  cases k <;> cases call <;> simp_all [kind, argument?]

end Call

def arguments (k : Kind) (calls : List Call) : List k.Argument := calls.filterMap (Call.argument? k)

def ofCalls (calls : List Call) : Query := calls.foldl Call.apply {}

/-- What a query has after some calls: of its window what was asked for last, each path of a sort
once, in the order of first mention and with its last direction, and all paths and filters in the
order of the calls. -/
structure Settled (q : Query) (calls : List Call) : Prop where
  limit : q.limit = (arguments .limit calls).getLast?
  skip : q.skip = (arguments .skip calls).getLast?
  sort_once : q.sort.names.Nodup
  sort_order : q.sort.names = ((arguments .sort calls).map Prod.fst).eraseDups
  sort_latest : ∀ path, q.sort.lookup path = Entries.latest? (arguments .sort calls) path
  select : q.select = arguments .select calls
  predicates : q.predicates = arguments .predicates calls

/-- The calls of each kind are the same ones in the same order. -/
def SameByKind {C : Type*} (kind : C → Kind) (calls others : List C) : Prop :=
  ∀ k, calls.filter (kind · = k) = others.filter (kind · = k)

section Kinds

variable {calls others : List Call}

theorem arguments_concat (k : Kind) (calls : List Call) (call : Call) :
    arguments k (calls ++ [call]) = arguments k calls ++ (call.argument? k).toList := by
  rw [arguments, List.filterMap_append, arguments]
  cases h : call.argument? k <;> simp [h]

theorem ofCalls_eq (calls : List Call) :
    ofCalls calls = {
      limit := (arguments .limit calls).getLast?
      skip := (arguments .skip calls).getLast?
      sort := Entries.ofMentions (arguments .sort calls)
      select := arguments .select calls
      predicates := arguments .predicates calls } := by
  induction calls using List.reverseRecOn with
  | nil => rfl
  | append_singleton calls call ih =>
      have hconcat : ofCalls (calls ++ [call]) = call.apply (ofCalls calls) :=
        List.foldl_concat _ _ _ _
      rw [hconcat, ih]
      simp only [arguments_concat]
      cases call with
      | limit n => simp [Call.apply, withLimit, Call.argument?]
      | skip n => simp [Call.apply, withSkip, Call.argument?]
      | sort path direction => simp [Call.apply, withSort, Call.argument?, Entries.ofMentions_concat]
      | select path => simp [Call.apply, withSelect, Call.argument?]
      | predicate p => simp [Call.apply, withPredicate, Call.argument?]

theorem settled_ofCalls (calls : List Call) : (ofCalls calls).Settled calls := by
  rw [ofCalls_eq]
  exact ⟨rfl, rfl, Entries.nodup_ofMentions _, Entries.names_ofMentions _,
    Entries.lookup_ofMentions _, rfl, rfl⟩

theorem arguments_congr (h : SameByKind Call.kind calls others) (k : Kind) :
    arguments k calls = arguments k others := by
  have hfilter (list : List Call) : arguments k list = arguments k (list.filter (·.kind = k)) := by
    rw [arguments, arguments, List.filterMap_filter]
    congr 1
    funext call
    by_cases hcall : call.kind = k
    · simp [hcall]
    · simp [hcall, Call.argument?_eq_none hcall]
  rw [hfilter, h k, ← hfilter]

theorem ofCalls_congr (h : SameByKind Call.kind calls others) : ofCalls calls = ofCalls others := by
  rw [ofCalls_eq, ofCalls_eq]
  simp only [arguments_congr h]

end Kinds

end Query

namespace Search

open Query (Kind SameByKind Settled)

/-- A call on a search, with what it is given. Whether a path or a filter can be compiled is only
found out when the call is made. -/
inductive Call (α : Type) [Resource α] : Type 1
  | take (count : Nat)
  | skip (count : Nat)
  | sortBy {V : Type} [View V] (direction : Direction) (selector : Resource.View α → V)
  | select {V : Type} [View V] (selector : Resource.View α → V)
  | filter (condition : Resource.View α → Expr)
  | predicate (p : Predicate)

variable {α : Type} [Resource α]

namespace Call

def kind : Call α → Kind
  | take _ => .limit
  | skip _ => .skip
  | sortBy _ _ => .sort
  | select _ => .select
  | filter _ | predicate _ => .predicates

def run (s : Search α) : Call α → Except Error (Search α)
  | take count => pure (s.take count)
  | skip count => pure (s.skip count)
  | sortBy direction selector => s.sortBy direction selector
  | select selector => s.select selector
  | filter condition => s.filter condition
  | predicate p => pure (s.predicate p)

def compiled : Call α → Except Error Query.Call
  | take count => pure (.limit count)
  | skip count => pure (.skip count)
  | sortBy direction selector => (.sort · direction) <$> (lambda selector).propertyPath
  | select selector => .select <$> (lambda selector).propertyPath
  | filter condition => .predicate <$> (lambda condition).predicate
  | predicate p => pure (.predicate p)

theorem run_eq (s : Search α) (call : Call α) :
    call.run s = (fun made => ⟨made.apply s.query⟩) <$> call.compiled := by
  cases call with
  | take count => rfl
  | skip count => rfl
  | predicate p => rfl
  | sortBy direction selector =>
      rw [run, Search.sortBy, compiled]
      cases (lambda selector).propertyPath <;> rfl
  | select selector =>
      rw [run, Search.select, compiled]
      cases (lambda selector).propertyPath <;> rfl
  | filter condition =>
      rw [run, Search.filter, compiled]
      cases (lambda condition).predicate <;> rfl

theorem kind_compiled {call : Call α} {made : Query.Call} (h : call.compiled = .ok made) :
    made.kind = call.kind := by
  cases call with
  | take count => cases h; rfl
  | skip count => cases h; rfl
  | predicate p => cases h; rfl
  | sortBy direction selector => obtain ⟨path, -, rfl⟩ := Except.map_eq_ok.1 h; rfl
  | select selector => obtain ⟨path, -, rfl⟩ := Except.map_eq_ok.1 h; rfl
  | filter condition => obtain ⟨p, -, rfl⟩ := Except.map_eq_ok.1 h; rfl

end Call

def ofCalls (calls : List (Call α)) : Except Error (Search α) :=
  calls.foldlM (fun s call => call.run s) {}

/-- The calls succeed, and this is what they come down to. -/
def Compiled (calls : List (Call α)) (made : List Query.Call) : Prop :=
  List.Forall₂ (fun call made => call.compiled = .ok made) calls made

section Calls

variable {calls others : List (Call α)}

theorem foldlM_run_eq_ok {s t : Search α} :
    calls.foldlM (fun s call => call.run s) t = .ok s ↔
      ∃ made, Compiled calls made ∧ s.query = made.foldl Query.Call.apply t.query := by
  induction calls generalizing t with
  | nil =>
      simp only [List.foldlM_nil, Compiled, List.forall₂_nil_left_iff, exists_eq_left,
        List.foldl_nil]
      exact ⟨fun h => by cases h; rfl, fun h => by cases s; cases t; cases h; rfl⟩
  | cons call calls ih =>
      simp only [List.foldlM_cons, Except.bind_eq_ok, ih]
      simp only [Call.run_eq, Except.map_eq_ok]
      constructor
      · rintro ⟨t', ⟨m, hm, rfl⟩, made, hmade, hquery⟩
        exact ⟨m :: made, .cons hm hmade, hquery⟩
      · rintro ⟨_, hmade, hquery⟩
        obtain ⟨m, made, hm, hcalls, rfl⟩ := List.forall₂_cons_left_iff.1 hmade
        exact ⟨_, ⟨m, hm, rfl⟩, made, hcalls, hquery⟩

theorem ofCalls_eq_ok {s : Search α} :
    ofCalls calls = .ok s ↔ ∃ made, Compiled calls made ∧ s.query = Query.ofCalls made :=
  foldlM_run_eq_ok

theorem compiled_filter {made : List Query.Call} (h : Compiled calls made) (k : Kind) :
    Compiled (calls.filter (·.kind = k)) (made.filter (·.kind = k)) :=
  List.rel_filter (fun _ _ hcall => by simp [Call.kind_compiled hcall]) h

theorem compiled_unique {made made' : List Query.Call} (h : Compiled calls made)
    (h' : Compiled calls made') : made = made' :=
  Relator.RightUnique.forall₂ (fun _ _ _ hb hc => by simpa [hb] using hc) h h'

theorem exists_compiled :
    (∃ made, Compiled calls made) ↔ ∀ call ∈ calls, ∃ m, call.compiled = .ok m := by
  induction calls with
  | nil => simp [Compiled]
  | cons call calls ih =>
      rw [List.forall_mem_cons, ← ih]
      simp only [Compiled, List.forall₂_cons_left_iff]
      constructor
      · rintro ⟨_, m, made, hm, hmade, rfl⟩
        exact ⟨⟨m, hm⟩, made, hmade⟩
      · rintro ⟨⟨m, hm⟩, made, hmade⟩
        exact ⟨_, m, made, hm, hmade, rfl⟩

theorem ofCalls_congr (h : SameByKind Call.kind calls others) {s : Search α}
    (hs : ofCalls calls = .ok s) : ofCalls others = .ok s := by
  obtain ⟨made, hmade, hquery⟩ := ofCalls_eq_ok.1 hs
  obtain ⟨made', hmade'⟩ : ∃ made', Compiled others made' := by
    refine exists_compiled.2 fun call hcall => exists_compiled.1 ⟨made, hmade⟩ call ?_
    have hkind : call ∈ others.filter (·.kind = call.kind) := List.mem_filter.2 ⟨hcall, by simp⟩
    rw [← h call.kind] at hkind
    exact List.mem_of_mem_filter hkind
  have hsame : SameByKind Query.Call.kind made made' := by
    intro k
    have hothers := compiled_filter hmade' k
    rw [← h k] at hothers
    exact compiled_unique (compiled_filter hmade k) hothers
  exact ofCalls_eq_ok.2 ⟨made', hmade', hquery.trans (Query.ofCalls_congr hsame)⟩

end Calls

end Search

/-- However the kinds of calls are mixed, a query has the last count that was asked for, every path
and filter in order, and each path of the sort once, where it was mentioned first and as it was
mentioned last. The same holds of a search whose calls all succeed. -/
theorem calls_settle_query :
    (∀ calls : List Query.Call, (Query.ofCalls calls).Settled calls ∧
      ∀ others, Query.SameByKind Query.Call.kind calls others →
        Query.ofCalls others = Query.ofCalls calls ∧
          (Query.ofCalls others).text = (Query.ofCalls calls).text) ∧
    ∀ (α : Type) [Resource α] (calls : List (Search.Call α)) (s : Search α),
      Search.ofCalls calls = .ok s →
        (∃ made, Search.Compiled calls made ∧ s.query.Settled made) ∧
        ∀ others, Query.SameByKind Search.Call.kind calls others →
          Search.ofCalls others = .ok s := by
  refine ⟨fun calls => ⟨Query.settled_ofCalls calls, fun others hothers => ?_⟩,
    fun α _ calls s hs => ⟨?_, fun others hothers => Search.ofCalls_congr hothers hs⟩⟩
  · have hquery := (Query.ofCalls_congr hothers).symm
    exact ⟨hquery, congrArg Query.text hquery⟩
  · obtain ⟨made, hmade, hquery⟩ := Search.ofCalls_eq_ok.1 hs
    exact ⟨made, hmade, hquery ▸ Query.settled_ofCalls made⟩

namespace Search

def hats : List (Call Item) := [
  .sortBy .ascending fun item : ItemView => item.level,
  .take 5,
  .filter fun item : ItemView => item.typeId.compare .eq (16 : Int32),
  .sortBy .descending fun item : ItemView => item.name.en,
  .select fun item : ItemView => item.name.fr,
  .sortBy .unordered fun item : ItemView => item.level,
  .predicate (.compare .gte "level" "100"),
  .take 20,
  .sortBy .descending fun item : ItemView => item.level]

def hatsInOrder : List (Call Item) := [
  .take 5,
  .take 20,
  .select fun item : ItemView => item.name.fr,
  .filter fun item : ItemView => item.typeId.compare .eq (16 : Int32),
  .predicate (.compare .gte "level" "100"),
  .sortBy .ascending fun item : ItemView => item.level,
  .sortBy .descending fun item : ItemView => item.name.en,
  .sortBy .unordered fun item : ItemView => item.level,
  .sortBy .descending fun item : ItemView => item.level]

def hatsQuery : Query where
  limit := some 20
  sort := [("level", .descending), ("name.en", .descending)]
  select := ["name.fr"]
  predicates := [.compare .eq "typeId" "16", .compare .gte "level" "100"]

theorem ofCalls_hats : ofCalls hats = .ok ⟨hatsQuery⟩ := rfl

theorem hats_settled :
    Query.SameByKind Query.Call.kind
        [.sort "level" .ascending, .limit 5, .sort "level" .unordered, .limit 20]
        [.limit 5, .limit 20, .sort "level" .ascending, .sort "level" .unordered] ∧
      Query.ofCalls [.limit 5, .limit 20, .sort "level" .ascending, .sort "level" .unordered] =
        { limit := some 20, sort := [("level", .unordered)] } ∧
      ofCalls hats = .ok ⟨hatsQuery⟩ ∧ Query.SameByKind Call.kind hats hatsInOrder ∧
      ofCalls hatsInOrder = .ok ⟨hatsQuery⟩ := by
  obtain ⟨hqueries, hsearches⟩ := calls_settle_query
  have hplain : Query.SameByKind Query.Call.kind
      [.sort "level" .ascending, .limit 5, .sort "level" .unordered, .limit 20]
      [.limit 5, .limit 20, .sort "level" .ascending, .sort "level" .unordered] := by
    intro k
    cases k <;> rfl
  have hkinds : Query.SameByKind Call.kind hats hatsInOrder := by
    intro k
    cases k <;> rfl
  exact ⟨hplain, ((hqueries _).2 _ hplain).1, ofCalls_hats, hkinds,
    (hsearches Item hats _ ofCalls_hats).2 hatsInOrder hkinds⟩

end Search

end Catalogue
