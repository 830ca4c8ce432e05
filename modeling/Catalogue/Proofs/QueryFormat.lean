import Catalogue.Client
import Catalogue.Proofs.QueryEntries

namespace Catalogue

/-- A leaf of a predicate, with the connectives above it and the positions below them that lead to
it, the outermost first. -/
structure Occurrence where
  route : List (Connective × Nat)
  field : String
  operator : List String
  values : List String

namespace Occurrence

def below (op : Connective) (i : Nat) (o : Occurrence) : Occurrence :=
  { o with route := (op, i) :: o.route }

def routeTokens (route : List (Connective × Nat)) : List String :=
  route.flatMap fun step => [step.1.operator, toString step.2]

def brackets (tokens : List String) : String := String.join (tokens.map fun t => "[" ++ t ++ "]")

def key (o : Occurrence) : String :=
  match o.route with
  | [] => Path.camelPath o.field ++ brackets o.operator
  | (op, i) :: route =>
    op.operator ++ brackets (toString i :: routeTokens route) ++
      brackets (Path.camelSegments o.field) ++ brackets o.operator

def entries (o : Occurrence) : List (String × String) := o.values.map fun value => (o.key, value)

end Occurrence

namespace Predicate

mutual

def occurrences : Predicate → List Occurrence
  | compare op field value => [⟨[], field, [op.operator], [value]⟩]
  | among op field values => [⟨[], field, [op.operator, ""], values⟩]
  | join op children => occurrencesFrom op 0 children

def occurrencesFrom (op : Connective) (i : Nat) : List Predicate → List Occurrence
  | [] => []
  | child :: children =>
    child.occurrences.map (Occurrence.below op i) ++ occurrencesFrom op (i + 1) children

end

/-- A position counts all children before it, also those that are not written. -/
theorem occurrences_join (op : Connective) (children : List Predicate) :
    (join op children).occurrences =
      children.zipIdx.flatMap fun c => c.1.occurrences.map (Occurrence.below op c.2) := by
  rw [occurrences]
  generalize 0 = i
  induction children generalizing i with
  | nil => rfl
  | cons child children ih => rw [occurrencesFrom, ih, List.zipIdx_cons, List.flatMap_cons]

def entries (p : Predicate) : List (String × String) := p.occurrences.flatMap Occurrence.entries

end Predicate

namespace Query

def countEntries (key : String) (n : Option Nat) : List (String × String) :=
  n.toList.map fun n => (key, toString n)

def sortEntry? (entry : String × Direction) : Option (String × String) :=
  entry.2.wire?.map fun value => ("$sort[" ++ Path.camelPath entry.1 ++ "]", value)

def selectEntry (path : String) : String × String := ("$select[]", Path.camelPath path)

/-- What a query is to say: window, order, projection and filters, in this order. -/
def entries (q : Query) : List (String × String) :=
  countEntries "$limit" q.limit ++ countEntries "$skip" q.skip ++ q.sort.filterMap sortEntry? ++
    q.select.map selectEntry ++ q.predicates.flatMap Predicate.entries

def entryText (entry : String × String) : String := entry.1 ++ "=" ++ Text.Form.encode entry.2

end Query

namespace Row

def plain (row : Row) : String × String := (row.key, row.value)

end Row

namespace Occurrence

theorem brackets_append (tokens more : List String) :
    brackets (tokens ++ more) = brackets tokens ++ brackets more := by
  rw [brackets, List.map_append, String.join_append]
  rfl

theorem brackets_cons (t : String) (tokens : List String) :
    brackets (t :: tokens) = "[" ++ t ++ "]" ++ brackets tokens := by
  rw [brackets, List.map_cons, String.join_cons]
  rfl

theorem bracketed_cons (token : String) (tokens : List String) :
    Query.bracketed (token :: tokens) = token ++ brackets tokens := by
  induction tokens generalizing token with
  | nil => exact String.append_empty.symm
  | cons t tokens ih =>
      have hfold : Query.bracketed (token :: t :: tokens) =
          Query.bracketed ((token ++ "[" ++ t ++ "]") :: tokens) := rfl
      rw [hfold, ih, brackets_cons]
      simp only [String.append_assoc]

def tokens (top : String → List String) (o : Occurrence) : List String :=
  routeTokens o.route ++
    ((if o.route.isEmpty then top o.field else Path.camelSegments o.field) ++ o.operator)

def rows (top : String → List String) (o : Occurrence) : List Row :=
  o.values.map (Row.mk (o.tokens top))

theorem tokens_below (top : String → List String) (op : Connective) (i : Nat) (o : Occurrence) :
    (o.below op i).tokens top = op.operator :: toString i :: o.tokens Path.camelSegments := by
  simp [below, tokens, routeTokens]

theorem rows_below (top : String → List String) (op : Connective) (i : Nat) (o : Occurrence) :
    (o.below op i).rows top = (o.rows Path.camelSegments).map (Row.under op.operator i) := by
  rw [rows, tokens_below, rows, List.map_map]
  rfl

theorem key_eq (o : Occurrence) :
    Query.bracketed (o.tokens fun field => [Path.camelPath field]) = o.key := by
  obtain ⟨route, field, operator, values⟩ := o
  cases route with
  | nil => exact bracketed_cons _ _
  | cons step route =>
      have htokens : tokens (fun field => [Path.camelPath field])
            ⟨step :: route, field, operator, values⟩ =
          step.1.operator :: (toString step.2 :: routeTokens route ++
            Path.camelSegments field ++ operator) := by
        simp [tokens, routeTokens]
      rw [htokens, bracketed_cons, brackets_append, brackets_append]
      simp only [key, String.append_assoc]

theorem map_plain_rows (o : Occurrence) :
    (o.rows fun field => [Path.camelPath field]).map Row.plain = o.entries := by
  rw [rows, List.map_map, entries, ← key_eq]
  rfl

end Occurrence

namespace Predicate

theorem rowsWith_eq_occurrences (p : Predicate) (top : String → List String) :
    p.rowsWith top = p.occurrences.flatMap (Occurrence.rows top) := by
  induction p using tree_induction generalizing top with
  | compare op field value => rfl
  | among op field values =>
      rw [occurrences, List.flatMap_singleton]
      rfl
  | join op children ih =>
      rw [rowsWith, occurrences]
      -- The children after the first are counted on from its position.
      generalize 0 = i
      induction children generalizing i with
      | nil => rfl
      | cons child children ihrest =>
          rw [List.forall_mem_cons] at ih
          rw [childRows, occurrencesFrom, List.flatMap_append, ihrest ih.2, ih.1, List.map_flatMap,
            List.flatMap_map]
          simp only [Occurrence.rows_below]

theorem map_plain_rows (p : Predicate) : p.rows.map Row.plain = p.entries := by
  rw [rows, rowsWith_eq_occurrences, List.map_flatMap]
  simp only [Occurrence.map_plain_rows]
  rfl

end Predicate

namespace Query

theorem map_plain_countRows (key : String) (n : Option Nat) :
    (countRows key n).map Row.plain = countEntries key n := by
  cases n with
  | none => rfl
  | some n => rfl

theorem plain_sortRow? (entry : String × Direction) :
    (sortRow? entry).map Row.plain = sortEntry? entry := by
  rw [sortRow?, Option.map_map]
  rfl

theorem map_plain_rows (q : Query) : q.rows.map Row.plain = q.entries := by
  have hsort : (q.sort.filterMap sortRow?).map Row.plain = q.sort.filterMap sortEntry? := by
    rw [List.map_filterMap]
    simp only [plain_sortRow?]
  have hselect : (q.select.map selectRow).map Row.plain = q.select.map selectEntry := by
    rw [List.map_map]
    rfl
  have hpredicates : (q.predicates.flatMap Predicate.rows).map Row.plain =
      q.predicates.flatMap Predicate.entries := by
    rw [List.map_flatMap]
    simp only [Predicate.map_plain_rows]
  rw [rows, List.map_append, List.map_append, List.map_append, List.map_append,
    map_plain_countRows, map_plain_countRows, hsort, hselect, hpredicates, entries]

theorem text_eq_entries (q : Query) : q.text = "&".intercalate (q.entries.map entryText) := by
  rw [text_eq, ← map_plain_rows, List.map_map]
  rfl

theorem text_eq_empty_iff_entries (q : Query) : q.text = "" ↔ q.entries = [] := by
  rw [text_eq_empty, ← map_plain_rows, List.map_eq_nil_iff]

/-- The query string is the documented list of entries, and the URL of a search has a question mark
only if that of the collection has one already or there are entries to put after it. -/
theorem text_follows_format (q : Query) :
    q.text = "&".intercalate (q.entries.map entryText) ∧ (q.text = "" ↔ q.entries = []) ∧
      ∀ (α : Type) [Resource α] (c : Client),
        '?' ∈ (c.searchUrl α q).toList ↔ '?' ∈ (c.resourceUrl α).toList ∨ q.entries ≠ [] := by
  refine ⟨q.text_eq_entries, q.text_eq_empty_iff_entries, ?_⟩
  intro α _ c
  have hempty : q.text.isEmpty = true ↔ q.entries = [] := by
    rw [String.isEmpty_iff, text_eq_empty_iff_entries]
  by_cases hnil : q.entries = []
  · simp [Client.searchUrl, hempty, hnil]
  · simp [Client.searchUrl, hempty, hnil]

/-- An address with a query of its own is taken as a base, and then nothing asked for has a question
mark all the same. -/
theorem queriedBase_has_mark :
    ∃ c, Client.ofAddress "http://a/b?q=1" = .ok c ∧
      c.searchUrl Item {} = "http://a/b/?q=1items/" ∧ entries {} = [] ∧
      ¬ ('?' ∈ (c.searchUrl Item {}).toList ↔ entries {} ≠ []) := by
  refine ⟨⟨"http", "", none, some (.domain "a"), none, .segments ["b", ""], some "q=1", none⟩,
    ?_, ?_, rfl, ?_⟩
  · decide +kernel
  · rfl
  · decide

end Query

end Catalogue
