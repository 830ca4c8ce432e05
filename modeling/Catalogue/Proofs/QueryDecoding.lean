import Catalogue.Proofs.PredicateReading
import Mathlib.Data.List.Chain

namespace Catalogue

namespace Predicate

/-- The last entry of a filter and the first one of the next have the same key, that of a set. -/
def RunsInto (p q : Predicate) : Prop :=
  ∃ key, p.keys.getLast? = some (key ++ "[]") ∧ q.keys.head? = some (key ++ "[]")

theorem key_of_set {row : Row} {tokens : List String} (hne : tokens ≠ [])
    (h : row.tokens = tokens ++ [""]) : row.key = Query.bracketed tokens ++ "[]" := by
  obtain ⟨token, rest, rfl⟩ := List.exists_cons_of_ne_nil hne
  simp [Row.key, h, Query.bracketed, String.append_assoc]

theorem Meets.runsInto {p q : Predicate}
    (h : Meets (fun field => [Path.camelPath field]) p q) : p.RunsInto q := by
  obtain ⟨last, first, hlast, hfirst, key, hne, hkey, hkey'⟩ := h
  refine ⟨Query.bracketed key, ?_, ?_⟩
  · rw [keys, List.getLast?_map, rows, hlast, Option.map_some, key_of_set hne hkey]
  · rw [keys, List.head?_map, rows, hfirst, Option.map_some, key_of_set hne hkey']

theorem Continues.runsInto {p q : Predicate} (h : p.Continues q) (hp : p.Legible)
    (hq : q.Legible) : p.RunsInto q :=
  (h.meets hp hq).runsInto

theorem eq_nil_of_rows_append {p whole : Predicate} {ps : List Predicate} {more rest : List Row}
    (hwhole : whole.Legible) (hp : p.Legible) (hps : ∀ q ∈ ps, q.Legible)
    (hchain : (p :: ps).IsChain fun p q => ¬ p.Continues q) (h : whole.rows = p.rows ++ more)
    (hmore : ps.flatMap rows = more ++ rest) : more = [] := by
  cases more with
  | nil => rfl
  | cons first more =>
      cases ps with
      | nil => cases hmore
      | cons q ps =>
          rw [List.forall_mem_cons] at hps
          obtain ⟨row, _, hrow⟩ := List.exists_cons_of_ne_nil
            (hps.1.rowsWith_ne_nil fun field => [Path.camelPath field])
          rw [List.flatMap_cons, rows, hrow] at hmore
          obtain rfl := (List.cons.inj hmore).1
          have hcontinues := continues_of_rowsWith_append spelling_path hwhole hp hps.1 h rfl
            (by rw [hrow]; rfl)
          exact absurd hcontinues (List.isChain_cons_cons.1 hchain).1

theorem flatMap_rows_inj_of_not_continues {ps qs : List Predicate} (hps : ∀ p ∈ ps, p.Legible)
    (hqs : ∀ q ∈ qs, q.Legible) (hchain : ps.IsChain fun p q => ¬ p.Continues q)
    (hchain' : qs.IsChain fun p q => ¬ p.Continues q) (h : ps.flatMap rows = qs.flatMap rows) :
    ps = qs := by
  induction ps generalizing qs with
  | nil =>
      cases qs with
      | nil => rfl
      | cons q qs =>
          rw [List.forall_mem_cons] at hqs
          have hnil := (List.append_eq_nil_iff.1 h.symm).1
          exact absurd hnil (hqs.1.rowsWith_ne_nil _)
  | cons p ps ih =>
      cases qs with
      | nil =>
          rw [List.forall_mem_cons] at hps
          have hnil := (List.append_eq_nil_iff.1 h).1
          exact absurd hnil (hps.1.rowsWith_ne_nil _)
      | cons q qs =>
          rw [List.forall_mem_cons] at hps hqs
          have hfirst : p.rows = q.rows ∧ ps.flatMap rows = qs.flatMap rows := by
            obtain ⟨more, hq, hmore⟩ | ⟨more, hp, hmore⟩ := List.append_eq_append_iff.1 h
            · obtain rfl := eq_nil_of_rows_append hqs.1 hps.1 hps.2 hchain hq hmore
              exact ⟨by rw [hq, List.append_nil], hmore⟩
            · obtain rfl := eq_nil_of_rows_append hps.1 hqs.1 hqs.2 hchain' hp hmore
              exact ⟨by rw [hp, List.append_nil], hmore.symm⟩
          rw [hps.1.rowsWith_inj spelling_path hqs.1 hfirst.1,
            ih hps.2 hqs.2 hchain.tail hchain'.tail hfirst.2]

theorem isChain_not_continues {ps : List Predicate} (hps : ∀ p ∈ ps, p.Legible)
    (h : ps.IsChain fun p q => ¬ p.RunsInto q) : ps.IsChain fun p q => ¬ p.Continues q :=
  List.IsChain.imp_of_mem_imp
    (fun p q hp hq hapart hcontinues => hapart (hcontinues.runsInto (hps p hp) (hps q hq))) h

theorem flatMap_rows_inj {ps qs : List Predicate} (hps : ∀ p ∈ ps, p.Legible)
    (hqs : ∀ q ∈ qs, q.Legible) (hchain : ps.IsChain fun p q => ¬ p.RunsInto q)
    (hchain' : qs.IsChain fun p q => ¬ p.RunsInto q) (h : ps.flatMap rows = qs.flatMap rows) :
    ps = qs :=
  flatMap_rows_inj_of_not_continues hps hqs (isChain_not_continues hps hchain)
    (isChain_not_continues hqs hchain') h

theorem clear_toString (n : Nat) : Path.Clear (toString n) := by
  intro c hc hmark
  have hdigits : c ∈ Nat.toDigits 10 n := by simpa using hc
  have hdigit := Nat.isDigit_of_mem_toDigits (by decide) (by decide) hdigits
  simp only [List.mem_cons, List.not_mem_nil, or_false] at hmark
  obtain rfl | rfl | rfl | rfl := hmark
  all_goals exact absurd hdigit (by decide)

theorem legible_leaf {tokens : String → List String} (ht : Spelling tokens) {field : String}
    (hfield : Path.Plain field) {suffix : List String}
    (hsuffix : ∀ token ∈ suffix, Path.Clear token) (value : String) :
    Row.Legible ⟨tokens field ++ suffix, value⟩ where
  ne_nil := by
    obtain ⟨first, rest, hfirst, _⟩ := ht.head hfield
    simp [hfirst]
  clear := by
    intro token htoken
    obtain hmem | hmem := List.mem_append.1 htoken
    · exact ht.clear hfield token hmem
    · exact hsuffix token hmem

theorem Legible.row_legible {p : Predicate} {tokens : String → List String} (ht : Spelling tokens)
    (hp : p.Legible) : ∀ row ∈ p.rowsWith tokens, row.Legible := by
  induction hp generalizing tokens with
  | @compare op field value hfield =>
      intro row hrow
      rw [List.mem_singleton.1 hrow]
      exact legible_leaf ht hfield (by cases op <;> decide) value
  | @among op field values hfield hne =>
      intro row hrow
      obtain ⟨value, _, rfl⟩ := List.mem_map.1 hrow
      exact legible_leaf ht hfield (by cases op <;> decide) value
  | @join op children hne hchildren ih =>
      intro row hrow
      obtain ⟨j, _, child, hchild, nested, hnested, rfl⟩ := eq_under_of_mem_childRows hrow
      have hlegible := ih child hchild spelling_segments nested hnested
      have hop : Path.Clear op.operator := by cases op <;> decide
      constructor
      · simp
      · simp only [Row.tokens_under, List.forall_mem_cons]
        exact ⟨hop, clear_toString j, hlegible.clear⟩

end Predicate

namespace Query

structure Readable (q : Query) : Prop where
  sort : ∀ entry ∈ q.sort, Path.Clear (Path.camelPath entry.1)
  predicates : ∀ p ∈ q.predicates, p.Legible

/-- What is asked of a query for it to be found again in its text. -/
structure Legible (q : Query) : Prop where
  sort : ∀ entry ∈ q.sort, Path.Plain entry.1
  select : ∀ path ∈ q.select, Path.camelPath path = path
  predicates : ∀ p ∈ q.predicates, p.Legible
  apart : q.predicates.IsChain fun p q => ¬ p.RunsInto q

theorem Legible.readable {q : Query} (h : q.Legible) : q.Readable where
  sort := by
    intro entry hentry
    have hpath : Path.Plain entry.1 := h.sort entry hentry
    rw [hpath.fixed]
    exact hpath.clear_path
  predicates := h.predicates

def named (name : String) (row : Row) : Bool := row.tokens.head? == some name

theorem filter_named {rows : List Row} {name : String}
    (h : ∀ row ∈ rows, row.tokens.head? = some name) (other : String) :
    rows.filter (named other) = if name = other then rows else [] := by
  split
  · rename_i heq
    apply List.filter_eq_self.2
    intro row hrow
    simp [named, h row hrow, heq]
  · rename_i hne
    apply List.filter_eq_nil_iff.2
    intro row hrow
    simp [named, h row hrow, hne]

theorem head?_countRows (key : String) (n : Option Nat) :
    ∀ row ∈ countRows key n, row.tokens.head? = some key := by
  cases n <;> simp [countRows]

theorem head?_sortRows (sort : Entries Direction) :
    ∀ row ∈ sort.filterMap sortRow?, row.tokens.head? = some "$sort" := by
  intro row hrow
  obtain ⟨⟨path, direction⟩, _, hentry⟩ := List.mem_filterMap.1 hrow
  obtain ⟨value, _, rfl⟩ := Option.map_eq_some_iff.1 hentry
  rfl

theorem head?_selectRows (select : List String) :
    ∀ row ∈ select.map selectRow, row.tokens.head? = some "$select" := by
  simp [selectRow]

theorem head?_predicateRows {p : Predicate} (hp : p.Legible) {row : Row} (hrow : row ∈ p.rows) :
    ∃ name, row.tokens.head? = some name ∧
      name ∉ ["$limit", "$skip", "$sort", "$select"] := by
  have leaf {field : String} {suffix : List String} (hfield : Path.Plain field) (value : String) :
      ∃ name, (Row.mk ([Path.camelPath field] ++ suffix) value).tokens.head? = some name ∧
        name ∉ ["$limit", "$skip", "$sort", "$select"] := by
    refine ⟨Path.camelPath field, rfl, ?_⟩
    have hhead := hfield.head?_ne
    rw [← hfield.fixed] at hhead
    have hsettings : ∀ name ∈ ["$limit", "$skip", "$sort", "$select"],
        name.toList.head? = some '$' := by decide
    exact fun hmem => hhead (hsettings _ hmem)
  cases hp with
  | compare value hfield =>
      rw [List.mem_singleton.1 hrow]
      exact leaf hfield value
  | among hfield _ =>
      obtain ⟨value, _, rfl⟩ := List.mem_map.1 hrow
      exact leaf hfield value
  | @join op children _ _ =>
      obtain ⟨j, _, _, _, nested, _, rfl⟩ := Predicate.eq_under_of_mem_childRows hrow
      refine ⟨op.operator, rfl, ?_⟩
      cases op <;> decide

theorem Readable.row_legible {q : Query} (h : q.Readable) : ∀ row ∈ q.rows, row.Legible := by
  have count {key : String} (hkey : Path.Clear key) (n : Option Nat) :
      ∀ row ∈ countRows key n, row.Legible := by
    cases n with
    | none => simp [countRows]
    | some n =>
        simp only [countRows, List.forall_mem_singleton]
        exact ⟨by simp, by simpa using hkey⟩
  intro row hrow
  simp only [rows, List.mem_append] at hrow
  obtain (((hrow | hrow) | hrow) | hrow) | hrow := hrow
  · exact count (by decide) q.limit row hrow
  · exact count (by decide) q.skip row hrow
  · obtain ⟨⟨path, direction⟩, hentry, hvalue⟩ := List.mem_filterMap.1 hrow
    obtain ⟨value, _, rfl⟩ := Option.map_eq_some_iff.1 hvalue
    have hpath : Path.Clear (Path.camelPath path) := h.sort (path, direction) hentry
    have hsort : Path.Clear "$sort" := by decide
    constructor
    · simp
    · simp only [List.forall_mem_cons]
      exact ⟨hsort, hpath, by simp⟩
  · obtain ⟨path, _, rfl⟩ := List.mem_map.1 hrow
    have hselect : ∀ token ∈ ["$select", ""], Path.Clear token := by decide
    exact ⟨by simp [selectRow], hselect⟩
  · obtain ⟨p, hp, hrow⟩ := List.mem_flatMap.1 hrow
    exact (h.predicates p hp).row_legible spelling_path row hrow

theorem Legible.row_legible {q : Query} (h : q.Legible) : ∀ row ∈ q.rows, row.Legible :=
  h.readable.row_legible

theorem Readable.filter_rows {q : Query} (h : q.Readable) {name : String}
    (hname : name ∈ ["$limit", "$skip", "$sort", "$select"]) :
    q.rows.filter (named name) = (if "$limit" = name then countRows "$limit" q.limit else []) ++
      (if "$skip" = name then countRows "$skip" q.skip else []) ++
      (if "$sort" = name then q.sort.filterMap sortRow? else []) ++
      (if "$select" = name then q.select.map selectRow else []) := by
  have hpredicates : (q.predicates.flatMap Predicate.rows).filter (named name) = [] := by
    apply List.filter_eq_nil_iff.2
    intro row hrow
    obtain ⟨p, hp, hrow⟩ := List.mem_flatMap.1 hrow
    obtain ⟨own, hown, hne⟩ := head?_predicateRows (h.predicates p hp) hrow
    have hdiff : own ≠ name := fun heq => hne (heq ▸ hname)
    simp [named, hown, hdiff]
  simp only [rows, List.filter_append, hpredicates, List.append_nil,
    filter_named (head?_countRows _ _), filter_named (head?_sortRows _),
    filter_named (head?_selectRows _)]

theorem Readable.parts_eq {q q' : Query} (h : q.Readable) (h' : q'.Readable)
    (hrows : q.rows = q'.rows) :
    countRows "$limit" q.limit = countRows "$limit" q'.limit ∧
      countRows "$skip" q.skip = countRows "$skip" q'.skip ∧
      q.sort.filterMap sortRow? = q'.sort.filterMap sortRow? ∧
      q.select.map selectRow = q'.select.map selectRow ∧
      q.predicates.flatMap Predicate.rows = q'.predicates.flatMap Predicate.rows := by
  have hpart (name : String) (hname : name ∈ ["$limit", "$skip", "$sort", "$select"]) :=
    (h.filter_rows hname).symm.trans ((congrArg (List.filter (named name)) hrows).trans
      (h'.filter_rows hname))
  have hlimit : countRows "$limit" q.limit = countRows "$limit" q'.limit := by
    simpa using hpart "$limit" (by simp)
  have hskip : countRows "$skip" q.skip = countRows "$skip" q'.skip := by
    simpa using hpart "$skip" (by simp)
  have hsort : q.sort.filterMap sortRow? = q'.sort.filterMap sortRow? := by
    simpa using hpart "$sort" (by simp)
  have hselect : q.select.map selectRow = q'.select.map selectRow := by
    simpa using hpart "$select" (by simp)
  rw [rows, rows, hlimit, hskip, hsort, hselect] at hrows
  exact ⟨hlimit, hskip, hsort, hselect, List.append_cancel_left hrows⟩

theorem Legible.parts_eq {q q' : Query} (h : q.Legible) (h' : q'.Legible)
    (hrows : q.rows = q'.rows) :
    countRows "$limit" q.limit = countRows "$limit" q'.limit ∧
      countRows "$skip" q.skip = countRows "$skip" q'.skip ∧
      q.sort.filterMap sortRow? = q'.sort.filterMap sortRow? ∧
      q.select.map selectRow = q'.select.map selectRow ∧
      q.predicates.flatMap Predicate.rows = q'.predicates.flatMap Predicate.rows :=
  h.readable.parts_eq h'.readable hrows

theorem countRows_inj {key : String} {n m : Option Nat} (h : countRows key n = countRows key m) :
    n = m := by
  cases n with
  | none =>
      cases m with
      | none => rfl
      | some m => cases h
  | some n =>
      cases m with
      | none => cases h
      | some m =>
          have hvalue := (Row.mk.inj (List.cons.inj h).1).2
          rw [toString_nat_inj hvalue]

def sortEntry (row : Row) : String × Direction :=
  (row.tokens.getLastD "", if row.value = "1" then .ascending else .descending)

theorem map_sortEntry {sort : Entries Direction} (h : ∀ entry ∈ sort, Path.Plain entry.1) :
    (sort.filterMap sortRow?).map sortEntry = sort.filter (·.2 ≠ .unordered) := by
  induction sort with
  | nil => rfl
  | cons entry sort ih =>
      rw [List.forall_mem_cons] at h
      obtain ⟨path, direction⟩ := entry
      have hfixed : Path.camelPath path = path := h.1.fixed
      cases direction with
      | ascending => simp [sortRow?, Direction.wire?, sortEntry, hfixed, ih h.2]
      | descending => simp [sortRow?, Direction.wire?, sortEntry, hfixed, ih h.2]
      | unordered =>
          rw [List.filterMap_cons_none rfl]
          simpa using ih h.2

theorem map_selectValue {select : List String} (h : ∀ path ∈ select, Path.camelPath path = path) :
    (select.map selectRow).map Row.value = select := by
  rw [List.map_map]
  exact (List.map_congr_left h).trans (List.map_id select)

/-- Queries with the same text ask for the same window, order, projection and filters. -/
theorem text_determines {q q' : Query} (h : q.Legible) (h' : q'.Legible)
    (htext : q.text = q'.text) :
    q.limit = q'.limit ∧ q.skip = q'.skip ∧
      q.sort.filter (·.2 ≠ .unordered) = q'.sort.filter (·.2 ≠ .unordered) ∧
      q.select = q'.select ∧ q.predicates = q'.predicates := by
  rw [text_eq, text_eq] at htext
  have hrows := Row.join_inj h.row_legible h'.row_legible htext
  obtain ⟨hlimit, hskip, hsort, hselect, hpredicates⟩ := h.parts_eq h' hrows
  refine ⟨countRows_inj hlimit, countRows_inj hskip, ?_, ?_, ?_⟩
  · rw [← map_sortEntry h.sort, ← map_sortEntry h'.sort, hsort]
  · rw [← map_selectValue h.select, ← map_selectValue h'.select, hselect]
  · exact Predicate.flatMap_rows_inj h.predicates h'.predicates h.apart h'.apart hpredicates

def ringsBy (sort : Entries Direction) : Query where
  limit := some 10
  sort := sort
  select := ["id"]
  predicates := [.among .isIn "typeId" ["1", "16"],
    .join .or [.compare .gte "level" "50", .compare .eq "name.fr" "a&b"]]

theorem ringsBy_legible {sort : Entries Direction} (h : ∀ entry ∈ sort, Path.Plain entry.1) :
    (ringsBy sort).Legible where
  sort := h
  select := by
    have hselect : ∀ path ∈ ["id"], Path.camelPath path = path := by decide
    exact hselect
  predicates := by
    simp only [ringsBy, List.forall_mem_cons, List.not_mem_nil, false_imp_iff, implies_true,
      and_true]
    constructor
    · exact .among (by decide) (by simp)
    · apply Predicate.Legible.join (by simp)
      simp only [List.forall_mem_cons, List.not_mem_nil, false_imp_iff, implies_true, and_true]
      exact ⟨.compare _ (by decide), .compare _ (by decide)⟩
  apart := by
    apply List.IsChain.cons_cons
    · rintro ⟨key, hlast, hfirst⟩
      have hkey : "typeId[$in][]" = key ++ "[]" := Option.some.inj hlast
      have hkey' : "$or[0][level][$gte]" = key ++ "[]" := Option.some.inj hfirst
      exact absurd (hkey.trans hkey'.symm) (by decide)
    · exact .singleton _

/-- An entry without a direction is not sent, and the rest is found again. -/
theorem ringsBy_text_determines :
    let q := ringsBy [("name.fr", .unordered), ("level", .descending)]
    let q' := ringsBy [("level", .descending)]
    q.Legible ∧ q'.Legible ∧ q.text = q'.text ∧
      q.limit = q'.limit ∧ q.skip = q'.skip ∧
      q.sort.filter (·.2 ≠ .unordered) = q'.sort.filter (·.2 ≠ .unordered) ∧
      q.select = q'.select ∧ q.predicates = q'.predicates := by
  intro q q'
  have hq : q.Legible := ringsBy_legible (by decide)
  have hq' : q'.Legible := ringsBy_legible (by decide)
  have htext : q.text = q'.text := rfl
  exact ⟨hq, hq', htext, text_determines hq hq' htext⟩

end Query

end Catalogue
