import Catalogue.Query.Text

namespace Catalogue

@[ext]
structure Row where
  tokens : List String
  value : String
  deriving Repr, DecidableEq

namespace Row

def key (row : Row) : String := Query.bracketed row.tokens

def text (row : Row) : String := row.key ++ "=" ++ Text.Form.encode row.value

def behind (route : List String) (row : Row) : Row := ⟨route ++ row.tokens, row.value⟩

def under (operator : String) (i : Nat) : Row → Row := behind [operator, toString i]

@[simp] theorem tokens_under (operator : String) (i : Nat) (row : Row) :
    (under operator i row).tokens = operator :: toString i :: row.tokens := rfl

theorem behind_nil : behind [] = id := rfl

theorem behind_under (route : List String) (operator : String) (i : Nat) (row : Row) :
    behind route (under operator i row) = behind (route ++ [operator, toString i]) row := by
  simp [behind, under]

theorem text_ne_empty (row : Row) : row.text ≠ "" := by
  intro h
  have hmem : '=' ∈ row.text.toList := by simp [text]
  rw [h] at hmem
  cases hmem

end Row

namespace Predicate

mutual

/-- The rows of a predicate whose own field is written as `tokens` says. Below a connective a field
has one token for each segment. -/
def rowsWith (tokens : String → List String) : Predicate → List Row
  | compare op field value => [⟨tokens field ++ [op.operator], value⟩]
  | among op field values => values.map (Row.mk (tokens field ++ [op.operator, ""]))
  | join op children => childRows op.operator 0 children

def childRows (operator : String) (i : Nat) : List Predicate → List Row
  | [] => []
  | child :: children =>
    (child.rowsWith Path.camelSegments).map (Row.under operator i) ++
      childRows operator (i + 1) children

end

def nestedRows (p : Predicate) : List Row := p.rowsWith Path.camelSegments

def rows (p : Predicate) : List Row := p.rowsWith fun field => [Path.camelPath field]

def keys (p : Predicate) : List String := p.rows.map Row.key

theorem childRows_eq_nil_iff {operator : String} {i : Nat} {children : List Predicate} :
    childRows operator i children = [] ↔ ∀ child ∈ children, child.nestedRows = [] := by
  induction children generalizing i with
  | nil => simp [childRows]
  | cons child children ih => simp [childRows, ih, nestedRows]

end Predicate

namespace Query

def countRows (key : String) : Option Nat → List Row
  | none => []
  | some n => [⟨[key], toString n⟩]

def sortRow? : String × Direction → Option Row
  | (path, direction) => direction.wire?.map (Row.mk ["$sort", Path.camelPath path])

def selectRow (path : String) : Row := ⟨["$select", ""], Path.camelPath path⟩

def rows (q : Query) : List Row :=
  countRows "$limit" q.limit ++ countRows "$skip" q.skip ++ q.sort.filterMap sortRow? ++
    q.select.map selectRow ++ q.predicates.flatMap Predicate.rows

def pushRow (text : String) (row : Row) : String := push text row.key row.value

section Pushing

variable (text : String)

theorem pushCount_eq (key : String) (n : Option Nat) :
    pushCount text key n = (countRows key n).foldl pushRow text := by
  cases n with
  | none => rfl
  | some n => rfl

theorem pushSort_some {entry : String × Direction} {row : Row} (h : sortRow? entry = some row) :
    pushSort text entry = pushRow text row := by
  obtain ⟨path, direction⟩ := entry
  have hkey : "$sort[" ++ Path.camelPath path ++ "]" =
      "$sort" ++ "[" ++ Path.camelPath path ++ "]" := rfl
  simp only [sortRow?, Option.map_eq_some_iff] at h
  obtain ⟨value, hvalue, rfl⟩ := h
  simp only [pushSort, hvalue, pushRow, hkey]
  rfl

theorem pushSort_none {entry : String × Direction} (h : sortRow? entry = none) :
    pushSort text entry = text := by
  obtain ⟨path, direction⟩ := entry
  simp only [sortRow?, Option.map_eq_none_iff] at h
  simp only [pushSort, h]

theorem foldl_pushSort (sort : Entries Direction) :
    sort.foldl pushSort text = (sort.filterMap sortRow?).foldl pushRow text := by
  induction sort generalizing text with
  | nil => rfl
  | cons entry sort ih =>
      rw [List.foldl_cons, ih]
      cases hrow : sortRow? entry with
      | none => rw [pushSort_none text hrow, List.filterMap_cons_none hrow]
      | some row => rw [pushSort_some text hrow, List.filterMap_cons_some hrow, List.foldl_cons]

theorem foldl_pushSelect (select : List String) :
    select.foldl pushSelect text = (select.map selectRow).foldl pushRow text := by
  rw [List.foldl_map]
  rfl

end Pushing

section Predicates

def fieldTokens (route : List String) : String → List String :=
  if route.isEmpty then fun field => [Path.camelPath field] else Path.camelSegments

theorem leafKey_eq (route : List String) (field : String) (operator : List String) :
    leafKey route field operator = bracketed (route ++ (fieldTokens route field ++ operator)) := by
  unfold leafKey fieldTokens
  cases route with
  | nil => rfl
  | cons token tokens => simp

def Writer.pushRow (w : Writer) (row : Row) : Writer := w.push row.key row.value

theorem Writer.foldl_pushRow (w : Writer) (rows : List Row) :
    rows.foldl Writer.pushRow w = { w with text := rows.foldl Query.pushRow w.text } := by
  induction rows generalizing w with
  | nil => rfl
  | cons row rows ih => rw [List.foldl_cons, ih]; rfl

theorem Writer.leave_enter (w : Writer) (operator : String) (i : Nat) (text : String) :
    leave { w.enter operator i with text := text } = { w with text := text } := by
  simp [leave, enter]

theorem foldl_push_values (w : Writer) (tokens values : List String) :
    values.foldl (fun w v => w.push (bracketed tokens) v) w =
      (values.map (Row.mk tokens)).foldl Writer.pushRow w := by
  rw [List.foldl_map]
  rfl

mutual

/-- The induction is on the predicate with any stack before it, which is found again after it. -/
theorem pushPredicate_eq (w : Writer) : (p : Predicate) → pushPredicate w p =
      ((p.rowsWith (fieldTokens w.route)).map (Row.behind w.route)).foldl Writer.pushRow w
  | .compare op field value => by
      rw [pushPredicate, leafKey_eq]
      rfl
  | .among op field values => by
      rw [pushPredicate, leafKey_eq, foldl_push_values, Predicate.rowsWith, List.map_map]
      rfl
  | .join op children => by
      rw [pushPredicate, Predicate.rowsWith]
      exact pushChildren_eq w op.operator 0 children

theorem pushChildren_eq (w : Writer) (operator : String) (i : Nat) :
    (children : List Predicate) → pushChildren w operator i children =
      ((Predicate.childRows operator i children).map (Row.behind w.route)).foldl Writer.pushRow w
  | [] => rfl
  | child :: children => by
      have hnested : fieldTokens (w.enter operator i).route = Path.camelSegments :=
        if_neg (by simp [Writer.enter])
      have hroute : Row.behind (w.enter operator i).route =
          Row.behind w.route ∘ Row.under operator i := by
        funext row
        exact (Row.behind_under w.route operator i row).symm
      rw [pushChildren, pushPredicate_eq (w.enter operator i) child, hnested, hroute,
        ← List.map_map, Writer.foldl_pushRow, Writer.leave_enter, pushChildren_eq,
        Predicate.childRows, List.map_append, List.foldl_append, Writer.foldl_pushRow w]
      rfl

end

theorem foldl_pushPredicate (text : String) (predicates : List Predicate) :
    predicates.foldl pushPredicate ⟨text, []⟩ =
      ⟨(predicates.flatMap Predicate.rows).foldl pushRow text, []⟩ := by
  induction predicates generalizing text with
  | nil => rfl
  | cons p predicates ih =>
      have hp : pushPredicate ⟨text, []⟩ p = ⟨p.rows.foldl pushRow text, []⟩ := by
        rw [pushPredicate_eq, Row.behind_nil, List.map_id, Writer.foldl_pushRow]
        rfl
      rw [List.foldl_cons, hp, ih, List.flatMap_cons, List.foldl_append]

end Predicates

theorem text_eq_foldl (q : Query) : q.text = q.rows.foldl pushRow "" := by
  simp only [text, rows, List.foldl_append, pushCount_eq, foldl_pushSort, foldl_pushSelect,
    foldl_pushPredicate]

theorem pushRow_of_ne {text : String} (h : text ≠ "") (row : Row) :
    pushRow text row = text ++ "&" ++ row.text := by
  have hne : ¬ text.isEmpty := by simpa using h
  simp [pushRow, push, hne, Row.text, String.append_assoc]

theorem pushRow_empty (row : Row) : pushRow "" row = row.text := by
  simp [pushRow, push, Row.text]

theorem foldl_pushRow_of_ne {text : String} (h : text ≠ "") (rows : List Row) :
    rows.foldl pushRow text = "&".intercalate (text :: rows.map Row.text) := by
  induction rows generalizing text with
  | nil => simp
  | cons row rows ih =>
      have hne : text ++ "&" ++ row.text ≠ "" := by
        intro hempty
        exact h (String.append_eq_empty_iff.1 (String.append_eq_empty_iff.1 hempty).1).1
      rw [List.foldl_cons, pushRow_of_ne h, ih hne, List.map_cons, String.intercalate_cons_append,
        String.intercalate_cons_cons]

theorem foldl_pushRow (rows : List Row) :
    rows.foldl pushRow "" = "&".intercalate (rows.map Row.text) := by
  cases rows with
  | nil => simp
  | cons row rows =>
      rw [List.foldl_cons, pushRow_empty, foldl_pushRow_of_ne row.text_ne_empty, List.map_cons]

/-- The query string is its rows written one behind the other. -/
theorem text_eq (q : Query) : q.text = "&".intercalate (q.rows.map Row.text) := by
  rw [text_eq_foldl, foldl_pushRow]

end Query

end Catalogue
