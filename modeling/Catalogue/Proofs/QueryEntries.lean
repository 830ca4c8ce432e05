import Catalogue.Proofs.QueryDecoding

namespace Catalogue

namespace Row

def entry (row : Row) : String × String := (row.key, Text.Form.encode row.value)

theorem decode?_entry (row : Row) : Text.Form.decode? row.entry.2 = some row.value := by
  rw [entry, Text.Form.decode?_encode]

end Row

namespace Query

def entryOf (piece : List Char) : String × String :=
  (String.ofList (piece.takeWhile (· != '=')), String.ofList (piece.dropWhile (· != '=')).tail)

/-- The keys of a query string, each with the text behind its equals sign. -/
def entriesOf (text : String) : List (String × String) :=
  (text.toList.splitOn '&').map entryOf

theorem entryOf_text {row : Row} (h : row.Unbroken) : entryOf row.text.toList = row.entry := by
  have htext : row.text.toList = row.key.toList ++ '=' :: (Text.Form.encode row.value).toList := by
    simp [Row.text]
  have hkey : '=' ∉ row.key.toList := h.notMem_key (by decide)
  rw [entryOf, htext, takeWhile_append_cons hkey, dropWhile_append_cons hkey, List.tail_cons,
    String.ofList_toList, String.ofList_toList]
  rfl

theorem entriesOf_join {rows : List Row} (hne : rows ≠ []) (h : ∀ row ∈ rows, row.Unbroken) :
    entriesOf ("&".intercalate (rows.map Row.text)) = rows.map Row.entry := by
  have hpieces := List.splitOn_intercalate '&' (Row.notMem_texts h) (by simpa using hne)
  rw [entriesOf, String.toList_intercalate]
  change (List.splitOn '&' (['&'].intercalate _)).map entryOf = _
  rw [hpieces, List.map_map, List.map_map]
  apply List.map_congr_left
  intro row hrow
  exact entryOf_text (h row hrow)

end Query

namespace Predicate

def leafFields : Predicate → List String
  | compare _ field _ => [field]
  | among _ field _ => [field]
  | join _ _ => []

def leafValues : Predicate → List String
  | compare _ _ value => [value]
  | among _ _ values => values
  | join _ _ => []

def fields (p : Predicate) : List String := p.leaves.flatMap leafFields

def values (p : Predicate) : List String := p.leaves.flatMap leafValues

mutual

/-- What is left of a predicate when no value can be read in it. -/
def withoutValues : Predicate → Predicate
  | compare op field _ => compare op field ""
  | among op field values => among op field (values.map fun _ => "")
  | join op children => join op (withoutValuesAll children)

def withoutValuesAll : List Predicate → List Predicate
  | [] => []
  | child :: children => child.withoutValues :: withoutValuesAll children

end

theorem withoutValuesAll_eq_map (children : List Predicate) :
    withoutValuesAll children = children.map withoutValues := by
  induction children with
  | nil => rfl
  | cons child children ih => rw [withoutValuesAll, ih, List.map_cons]

theorem fields_join (op : Connective) (children : List Predicate) :
    (join op children).fields = children.flatMap fields := by
  rw [fields, leaves_join, List.flatMap_assoc]
  rfl

theorem values_join (op : Connective) (children : List Predicate) :
    (join op children).values = children.flatMap values := by
  rw [values, leaves_join, List.flatMap_assoc]
  rfl

section Rows

variable {tokens : String → List String}

theorem unbroken_rowsWith
    (htokens : ∀ field, Path.Unbroken field → ∀ token ∈ tokens field, Path.Unbroken token)
    {p : Predicate} (h : ∀ field ∈ p.fields, Path.Unbroken field) :
    ∀ row ∈ p.rowsWith tokens, row.Unbroken := by
  induction p using tree_induction generalizing tokens with
  | compare op field value =>
      have hfield : Path.Unbroken field := h field (List.mem_singleton.2 rfl)
      have hsuffix : ∀ token ∈ [op.operator], Path.Unbroken token := by cases op <;> decide
      intro row hrow
      rw [List.mem_singleton.1 hrow]
      exact List.forall_mem_append.2 ⟨htokens field hfield, hsuffix⟩
  | among op field values =>
      have hfield : Path.Unbroken field := h field (List.mem_singleton.2 rfl)
      have hsuffix : ∀ token ∈ [op.operator, ""], Path.Unbroken token := by cases op <;> decide
      intro row hrow
      obtain ⟨value, _, rfl⟩ := List.mem_map.1 hrow
      exact List.forall_mem_append.2 ⟨htokens field hfield, hsuffix⟩
  | join op children ih =>
      intro row hrow
      rw [fields_join] at h
      obtain ⟨j, _, child, hchild, nested, hnested, rfl⟩ := eq_under_of_mem_childRows hrow
      have hunbroken := ih child hchild (fun field hfield => Path.Unbroken.camelSegments hfield)
        (fun field hfield => h field (List.mem_flatMap_of_mem hchild hfield)) nested hnested
      have hop : Path.Unbroken op.operator := by cases op <;> decide
      unfold Row.Unbroken
      rw [Row.tokens_under, List.forall_mem_cons, List.forall_mem_cons]
      exact ⟨hop, (clear_toString j).unbroken, hunbroken⟩

theorem map_value_rowsWith (p : Predicate) : (p.rowsWith tokens).map Row.value = p.values := by
  induction p using tree_induction generalizing tokens with
  | compare op field value => simp [rowsWith, values, leaves, leafValues]
  | among op field values =>
      simp [rowsWith, Predicate.values, leaves, leafValues, Function.comp_def]
  | join op children ih =>
      rw [rowsWith, values_join]
      -- The position of the first child plays no part.
      generalize 0 = i
      induction children generalizing i with
      | nil => rfl
      | cons child children ihrest =>
          rw [List.forall_mem_cons] at ih
          have hunder : Row.value ∘ Row.under op.operator i = Row.value := rfl
          rw [childRows, List.map_append, List.map_map, hunder, ih.1, ihrest ih.2,
            List.flatMap_cons]

theorem map_tokens_withoutValues (p : Predicate) :
    (p.withoutValues.rowsWith tokens).map Row.tokens = (p.rowsWith tokens).map Row.tokens := by
  induction p using tree_induction generalizing tokens with
  | compare op field value => rfl
  | among op field values => simp [withoutValues, rowsWith, Function.comp_def]
  | join op children ih =>
      rw [withoutValues, withoutValuesAll_eq_map, rowsWith, rowsWith]
      generalize 0 = i
      induction children generalizing i with
      | nil => rfl
      | cons child children ihrest =>
          rw [List.forall_mem_cons] at ih
          have hunder : Row.tokens ∘ Row.under op.operator i =
              (op.operator :: toString i :: ·) ∘ Row.tokens := rfl
          rw [List.map_cons, childRows, childRows, List.map_append, List.map_append, ihrest ih.2,
            List.map_map, List.map_map, hunder, ← List.map_map, ← List.map_map, ih.1]

end Rows

end Predicate

namespace Query

def values (q : Query) : List String :=
  q.limit.toList.map toString ++ q.skip.toList.map toString ++
    q.sort.filterMap (·.2.wire?) ++ q.select.map Path.camelPath ++
    q.predicates.flatMap Predicate.values

def withoutValues (q : Query) : Query :=
  { q with predicates := q.predicates.map Predicate.withoutValues }

/-- What is asked of the names in a query for its entries to be told apart. -/
structure Unbroken (q : Query) : Prop where
  sort : ∀ entry ∈ q.sort, Path.Unbroken entry.1
  predicates : ∀ p ∈ q.predicates, ∀ field ∈ p.fields, Path.Unbroken field

theorem map_value_countRows (key : String) (n : Option Nat) :
    (countRows key n).map Row.value = n.toList.map toString := by
  cases n with
  | none => rfl
  | some n => rfl

theorem map_value_rows (q : Query) : q.rows.map Row.value = q.values := by
  have hsort : (q.sort.filterMap sortRow?).map Row.value = q.sort.filterMap (·.2.wire?) := by
    rw [List.map_filterMap]
    congr 1
    funext entry
    simp [sortRow?, Function.comp_def]
  have hselect : (q.select.map selectRow).map Row.value = q.select.map Path.camelPath := by
    simp [selectRow]
  have hpredicates : (q.predicates.flatMap Predicate.rows).map Row.value =
      q.predicates.flatMap Predicate.values := by
    rw [List.map_flatMap]
    congr 1
    funext p
    exact p.map_value_rowsWith
  rw [rows, List.map_append, List.map_append, List.map_append, List.map_append,
    map_value_countRows, map_value_countRows, hsort, hselect, hpredicates, values]

theorem map_tokens_withoutValues (q : Query) :
    q.withoutValues.rows.map Row.tokens = q.rows.map Row.tokens := by
  have hpredicates : (q.withoutValues.predicates.flatMap Predicate.rows).map Row.tokens =
      (q.predicates.flatMap Predicate.rows).map Row.tokens := by
    rw [withoutValues, List.flatMap_map, List.map_flatMap, List.map_flatMap]
    congr 1
    funext p
    exact p.map_tokens_withoutValues
  rw [rows, List.map_append, hpredicates, ← List.map_append]
  rfl

theorem Unbroken.row {q : Query} (h : q.Unbroken) : ∀ row ∈ q.rows, row.Unbroken := by
  have hcount {name : String} (hname : Path.Unbroken name) (n : Option Nat) :
      ∀ row ∈ countRows name n, row.Unbroken := by
    cases n <;> simp [countRows, Row.Unbroken, hname]
  intro row hrow
  simp only [rows, List.mem_append] at hrow
  obtain (((hrow | hrow) | hrow) | hrow) | hrow := hrow
  · exact hcount (by decide) q.limit row hrow
  · exact hcount (by decide) q.skip row hrow
  · obtain ⟨entry, hentry, hsort⟩ := List.mem_filterMap.1 hrow
    obtain ⟨direction, _, rfl⟩ := Option.map_eq_some_iff.1 hsort
    unfold Row.Unbroken
    rw [List.forall_mem_cons, List.forall_mem_singleton]
    exact ⟨by decide, (h.sort entry hentry).camelPath⟩
  · obtain ⟨path, _, rfl⟩ := List.mem_map.1 hrow
    have htokens : ∀ token ∈ ["$select", ""], Path.Unbroken token := by decide
    exact htokens
  · obtain ⟨p, hp, hrow⟩ := List.mem_flatMap.1 hrow
    apply Predicate.unbroken_rowsWith _ (h.predicates p hp) row hrow
    intro field hfield token htoken
    rw [List.mem_singleton.1 htoken]
    exact hfield.camelPath

theorem entriesOf_text {q : Query} (h : ∀ row ∈ q.rows, row.Unbroken) (hne : q.text ≠ "") :
    entriesOf q.text = q.rows.map Row.entry := by
  rw [text_eq] at hne ⊢
  exact entriesOf_join (fun hnil => hne (Row.join_eq_empty.2 hnil)) h

theorem text_eq_empty {q : Query} : q.text = "" ↔ q.rows = [] := by
  rw [text_eq, Row.join_eq_empty]

theorem map_key_congr {rows others : List Row}
    (h : rows.map Row.tokens = others.map Row.tokens) : rows.map Row.key = others.map Row.key := by
  have hkey : Row.key = bracketed ∘ Row.tokens := rfl
  rw [hkey, ← List.map_map, h, List.map_map]

theorem tokens_congr {q other : Query} (h : other.withoutValues = q.withoutValues) :
    other.rows.map Row.tokens = q.rows.map Row.tokens := by
  rw [← map_tokens_withoutValues, h, map_tokens_withoutValues]

theorem map_fst_entriesOf {q : Query} (h : ∀ row ∈ q.rows, row.Unbroken) (hne : q.text ≠ "") :
    (entriesOf q.text).map Prod.fst = q.rows.map Row.key := by
  rw [entriesOf_text h hne, List.map_map]
  rfl

theorem map_fst_entriesOf_congr {q other : Query} (h : q.Unbroken)
    (hsame : other.withoutValues = q.withoutValues) :
    (entriesOf other.text).map Prod.fst = (entriesOf q.text).map Prod.fst := by
  have htokens := tokens_congr hsame
  by_cases hempty : q.text = ""
  · have hnil : other.rows = [] := by simpa [text_eq_empty.1 hempty] using htokens
    rw [hempty, text_eq_empty.2 hnil]
  · have hother : ∀ row ∈ other.rows, row.Unbroken := by
      intro row hrow
      have hmem : row.tokens ∈ q.rows.map Row.tokens := htokens ▸ List.mem_map_of_mem hrow
      obtain ⟨twin, htwin, heq⟩ := List.mem_map.1 hmem
      unfold Row.Unbroken
      rw [← heq]
      exact h.row twin htwin
    have hne : other.text ≠ "" := by
      intro hnil
      rw [text_eq_empty.1 hnil] at htokens
      exact hempty (text_eq_empty.2 (by simpa using htokens.symm))
    rw [map_fst_entriesOf hother hne, map_fst_entriesOf h.row hempty, map_key_congr htokens]

/-- A value stays within its entry and is read there as it was. -/
theorem entries_read {q : Query} (h : q.Unbroken) :
    q.text = q.rows.foldl pushRow "" ∧
      (q.text ≠ "" →
        entriesOf q.text = q.rows.map Row.entry ∧
        (∀ entry ∈ entriesOf q.text, ∀ c ∈ entry.2.toList, Text.Form.isCode c) ∧
        (entriesOf q.text).map (Text.Form.decode? ·.2) = q.values.map some) ∧
      ∀ other : Query, other.withoutValues = q.withoutValues →
        other.rows.map Row.key = q.rows.map Row.key ∧
        (entriesOf other.text).map Prod.fst = (entriesOf q.text).map Prod.fst := by
  refine ⟨q.text_eq_foldl, ?_, ?_⟩
  · intro hne
    rw [entriesOf_text h.row hne]
    refine ⟨rfl, ?_, ?_⟩
    · intro entry hentry c hc
      obtain ⟨row, _, rfl⟩ := List.mem_map.1 hentry
      exact Text.Form.isCode_encode hc
    · rw [← map_value_rows, List.map_map, List.map_map]
      apply List.map_congr_left
      intro row _
      rw [Function.comp_apply, Row.decode?_entry, Function.comp_apply]
  · intro other hsame
    exact ⟨map_key_congr (tokens_congr hsame), map_fst_entriesOf_congr h hsame⟩

def hostile : Query where
  limit := some 10
  sort := [("Level", .descending)]
  select := ["Éclat&$skip=0"]
  predicates := [.join .or [.compare .eq "name.fr" "Coiffe & Cape=1",
    .among .isIn "TypeId" ["1&$limit=0", "50%+x"]]]

def harmless : Query :=
  { hostile with
    predicates := [.join .or [.compare .eq "name.fr" "Coiffe",
      .among .isIn "TypeId" ["1", "82"]]] }

theorem hostile_unbroken : hostile.Unbroken where
  sort := by decide
  predicates := by decide

theorem hostile_entries_read :
    hostile.Unbroken ∧
      (entriesOf hostile.text).map (Text.Form.decode? ·.2) =
        [some "10", some "-1", some "éclat&$skip=0", some "Coiffe & Cape=1", some "1&$limit=0",
          some "50%+x"] ∧
      (entriesOf harmless.text).map Prod.fst = (entriesOf hostile.text).map Prod.fst := by
  have hne : hostile.text ≠ "" := by
    rw [ne_eq, text_eq_empty]
    decide
  have hvalues : hostile.values = ["10", "-1", "éclat&$skip=0", "Coiffe & Cape=1", "1&$limit=0",
      "50%+x"] := by
    decide +kernel
  obtain ⟨_, hread, hkeys⟩ := entries_read hostile_unbroken
  refine ⟨hostile_unbroken, ?_, (hkeys harmless rfl).2⟩
  rw [(hread hne).2.2, hvalues]
  rfl

end Query

end Catalogue
