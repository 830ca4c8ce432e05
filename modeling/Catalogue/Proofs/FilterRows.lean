import Catalogue.Proofs.CompileMeaning
import Catalogue.Proofs.QueryRows

namespace Catalogue

namespace Predicate

inductive Blank : Predicate → Prop
  | among (op : Membership) (field : String) : Blank (.among op field [])
  | join (op : Connective) {children : List Predicate} :
      (∀ child ∈ children, Blank child) → Blank (.join op children)

theorem not_blank_compare (op : Comparison) (field value : String) :
    ¬ (compare op field value).Blank := by
  rintro ⟨⟩

theorem blank_among {op : Membership} {field : String} {values : List String} :
    (among op field values).Blank ↔ values = [] := by
  constructor
  · rintro ⟨⟩
    rfl
  · rintro rfl
    exact .among op field

theorem blank_join {op : Connective} {children : List Predicate} :
    (join op children).Blank ↔ ∀ child ∈ children, child.Blank := by
  constructor
  · rintro ⟨⟩
    assumption
  · exact .join op

theorem blank_negate (p : Predicate) : p.negate.Blank ↔ p.Blank := by
  induction p using tree_induction with
  | compare op field value => simp [negate, not_blank_compare]
  | among op field values => rw [negate, blank_among, blank_among]
  | join op children ih =>
      rw [negate, blank_join, blank_join, negateAll_eq_map, List.forall_mem_map]
      exact forall₂_congr ih

theorem rowsWith_eq_nil (tokens : String → List String) (p : Predicate) :
    p.rowsWith tokens = [] ↔ p.Blank := by
  induction p using tree_induction generalizing tokens with
  | compare op field value => simp [rowsWith, not_blank_compare]
  | among op field values => rw [rowsWith, List.map_eq_nil_iff, blank_among]
  | join op children ih =>
      rw [rowsWith, childRows_eq_nil_iff, blank_join]
      exact forall₂_congr fun child hchild => ih child hchild Path.camelSegments

end Predicate

namespace Query

theorem length_pushRow (text : String) (row : Row) : text.length < (pushRow text row).length := by
  have hmark : "=".length = 1 := rfl
  unfold pushRow push
  split <;> simp only [String.length_append, hmark] <;> omega

theorem foldl_pushRow_eq_self {text : String} {rows : List Row} :
    rows.foldl pushRow text = text ↔ rows = [] := by
  have hgrows (rows : List Row) (text : String) :
      text.length ≤ (rows.foldl pushRow text).length := by
    induction rows generalizing text with
    | nil => exact Nat.le_refl _
    | cons row rows ih => exact Nat.le_trans (Nat.le_of_lt (length_pushRow text row)) (ih _)
  constructor
  · intro h
    cases rows with
    | nil => rfl
    | cons row rows =>
        have hlength := hgrows rows (pushRow text row)
        rw [← List.foldl_cons, h] at hlength
        exact absurd (length_pushRow text row) (Nat.not_lt.2 hlength)
  · rintro rfl
    rfl

theorem rows_withPredicate (q : Query) (p : Predicate) :
    (q.withPredicate p).rows = q.rows ++ p.rows := by
  simp [rows, withPredicate]

theorem text_withPredicate (q : Query) (p : Predicate) :
    (q.withPredicate p).text = q.text ↔ p.Blank := by
  rw [text_eq_foldl, text_eq_foldl, rows_withPredicate, List.foldl_append, foldl_pushRow_eq_self,
    Predicate.rows, Predicate.rowsWith_eq_nil]

end Query

namespace Expr

/-- Every condition asks for a member of an empty collection. -/
def AsksNothing : Expr → Prop
  | binary (.logical _) left right => left.AsksNothing ∧ right.AsksNothing
  | not e => e.AsksNothing
  | call target _ _ => Denotes target (.list [])
  | _ => False

theorem blank_spliced (op : Connective) (p : Predicate) :
    (∀ child ∈ spliced op p, child.Blank) ↔ p.Blank := by
  obtain ⟨children, rfl, hspliced⟩ | hspliced := spliced_cases op p
  · rw [hspliced, Predicate.blank_join]
  · rw [hspliced, List.forall_mem_singleton]

theorem collectionTexts_eq_nil {target : Expr} {texts : List String}
    (h : collectionTexts target = .ok texts) : texts = [] ↔ Denotes target (.list []) := by
  obtain ⟨items, hitems, htexts⟩ := collectionTexts_eq_ok.1 h
  constructor
  · rintro rfl
    rw [List.map_nil, List.map_eq_nil_iff] at htexts
    exact htexts ▸ hitems
  · intro hnil
    cases hitems.unique hnil
    exact List.map_eq_nil_iff.1 htexts.symm

theorem Compiles.blank_iff {root : String} {e : Expr} {p : Predicate} (h : Compiles root e p) :
    p.Blank ↔ e.AsksNothing := by
  induction h with
  | logical op _ _ ihl ihr =>
      rw [Predicate.blank_join, List.forall_mem_append, blank_spliced, blank_spliced, ihl, ihr,
        AsksNothing]
  | compare op _ _ => simp [Predicate.not_blank_compare, AsksNothing]
  | contains _ _ htexts => rw [Predicate.blank_among, collectionTexts_eq_nil htexts, AsksNothing]
  | not _ ih => rw [Predicate.blank_negate, ih, AsksNothing]

end Expr

namespace Lambda

theorem predicate_eq_ok {l : Lambda} {p : Predicate} :
    l.predicate = .ok p ↔ Expr.predicate l.parameter l.body = .ok p :=
  Except.mapError_eq_ok

/-- A compiled filter is lost in the query string exactly if all its conditions ask for a member of
an empty collection. -/
theorem filter_lost_iff {l : Lambda} {p : Predicate} (h : l.predicate = .ok p) (q : Query) :
    (q.withPredicate p).text = q.text ↔ l.body.AsksNothing := by
  rw [Query.text_withPredicate]
  exact (Expr.compiles_of_predicate (predicate_eq_ok.1 h)).blank_iff

def noLevels : Expr :=
  .contains (.captured "levels" (.list [])) ((Expr.parameter "i").path ["Level"])

theorem predicate_noLevels :
    Expr.predicate "i" noLevels = .ok (.among .isIn "level" []) :=
  predicate_contains rfl rfl

/-- A filter that holds of no record, and that asks for all of them. -/
theorem noLevels_lost :
    (Lambda.mk "i" noLevels).predicate = .ok (.among .isIn "level" []) ∧
      (∀ r, ¬ (Predicate.among .isIn "level" []).Holds r) ∧
      (({ limit := some 5 } : Query).withPredicate (.among .isIn "level" [])).text =
        ({ limit := some 5 } : Query).text := by
  refine ⟨predicate_eq_ok.2 predicate_noLevels, ?_, ?_⟩
  · intro r
    simp [Record.Belongs]
  · rw [Query.text_withPredicate]
    exact .among .isIn "level"

/-- One set with values is enough for a filter to be sent. -/
theorem noLevels_or_listed_sent :
    let l : Lambda := ⟨"i", .or noLevels ofListedType⟩
    let p : Predicate := .join .or [.among .isIn "level" [], .among .isIn "typeId" ["1", "16"]]
    let q : Query := { limit := some 5 }
    l.predicate = .ok p ∧ ((q.withPredicate p).text = q.text ↔ l.body.AsksNothing) ∧
      ¬ l.body.AsksNothing := by
  intro l p q
  have hp : l.predicate = .ok p := by
    rw [predicate_eq_ok]
    change Expr.predicate "i" (.or noLevels ofListedType) = .ok p
    rw [Expr.or, Expr.predicate, predicate_noLevels, predicate_ofListedType]
    rfl
  refine ⟨hp, filter_lost_iff hp q, ?_⟩
  rintro ⟨-, hlisted⟩
  cases hlisted

end Lambda

end Catalogue
