import Catalogue.Proofs.CompileGrammar
import Catalogue.Proofs.CompileShape
import Catalogue.Search

namespace Catalogue

/-- A view gives back the expression it was made of. -/
class LawfulView (V : Type) [View V] : Prop where
  expr_ofExpr (e : Expr) : View.expr (View.ofExpr e : V) = e

instance : LawfulView Expr := ⟨fun _ => rfl⟩
instance {α : Type} : LawfulView (Field α) := ⟨fun _ => rfl⟩
instance : LawfulView TranslationsView := ⟨fun _ => rfl⟩
instance : LawfulView ItemSuperTypeView := ⟨fun _ => rfl⟩
instance : LawfulView ItemTypeView := ⟨fun _ => rfl⟩
instance : LawfulView ItemView := ⟨fun _ => rfl⟩
instance : LawfulView ItemSetView := ⟨fun _ => rfl⟩

namespace Value

def wireText (value : Value) : String := value.wire?.getD ""

theorem wire?_eq_wireText {value : Value} (h : ¬ value.IsList) :
    value.wire? = some value.wireText := by
  obtain ⟨text, htext⟩ := exists_wire.2 h
  rw [wireText, htext, Option.getD_some]

end Value

/-- A condition is compiled to the same leaves in the same order as another one, and holds of the
same records. -/
structure Predicate.Renders (p written : Predicate) : Prop where
  leaves_eq : p.leaves = written.leaves
  holds_iff : ∀ r, p.Holds r ↔ written.Holds r

namespace Expr

def sentPath (names : List String) : String := ".".intercalate (names.map Path.camelSegment)

inductive Reached (root : String) : {V : Type} → [View V] → V → List String → Prop
  | subject {V : Type} [View V] [LawfulView V] :
      Reached root (View.ofExpr (.parameter root) : V) []
  | inside {V W : Type} [View V] [View W] [LawfulView W] {v : V} {names : List String}
      (name : String) : Reached root v names →
        Reached root (View.inside v name : W) (names ++ [name])
  | widen {α : Type} (β : Type) [Widens α β] {f : Field α} {names : List String} :
      Reached root f names → Reached root (f.widen β) names

/-- A filter that is written with typed fields, and what it says. -/
inductive Written (root : String) : Expr → Predicate → Prop
  | compare {α : Type} [ToValue α] (op : Comparison) {f : Field α} {names : List String}
      (value : α) : Reached root f names → ¬ (toValue value).IsList →
        Written root (f.compare op value) (.compare op (sentPath names) (toValue value).wireText)
  | isIn {α : Type} [ToValue α] {f : Field α} {names : List String} (values : List α) :
      Reached root f names → (∀ value ∈ values, ¬ (toValue value).IsList) →
        Written root (f.isIn values)
          (.among .isIn (sentPath names) (values.map fun value => (toValue value).wireText))
  | logical (op : Connective) {left right : Expr} {p q : Predicate} :
      Written root left p → Written root right q →
        Written root (.binary (.logical op) left right) (.join op [p, q])
  | not {e : Expr} {p : Predicate} : Written root e p → Written root (.not e) p.negate

section Typed

variable {root : String} {names : List String}

theorem Reached.follows {V : Type} [View V] {v : V} (h : Reached root v names) :
    Follows root (View.expr v) names := by
  induction h with
  | @subject V _ _ =>
      rw [LawfulView.expr_ofExpr]
      exact .subject
  | @inside V W _ _ _ v names name _ ih =>
      rw [View.inside, LawfulView.expr_ofExpr]
      exact .member name ih
  | widen β _ ih => exact .convert ih

theorem Reached.propertyPath_eq {V : Type} [View V] {v : V} (h : Reached root v names) :
    propertyPath root (View.expr v) = .ok (sentPath names) :=
  propertyPath_eq_ok.2 ⟨names, h.follows, rfl⟩

theorem collectionTexts_isIn {α : Type} [ToValue α] {values : List α}
    (h : ∀ value ∈ values, ¬ (toValue value).IsList) :
    collectionTexts (captured "values" (toValue values)) =
      .ok (values.map fun value => (toValue value).wireText) := by
  refine collectionTexts_eq_ok.2 ⟨values.map toValue, .captured "values" _, ?_⟩
  rw [List.map_map, List.map_map]
  exact List.map_congr_left fun value hvalue => Value.wire?_eq_wireText (h value hvalue)

theorem Written.exists_compiles {e : Expr} {p : Predicate} (h : Written root e p) :
    ∃ q, Compiles root e q ∧ q.Renders p := by
  induction h with
  | compare op value hfield hvalue =>
      refine ⟨_, .compare op (propertyPath_eq_ok.1 hfield.propertyPath_eq) ?_, rfl, fun _ => .rfl⟩
      exact ⟨_, .constant _, Value.wire?_eq_wireText hvalue⟩
  | isIn values hfield hvalues =>
      refine ⟨_, .contains isContains_contains (propertyPath_eq_ok.1 hfield.propertyPath_eq)
        (collectionTexts_isIn hvalues), rfl, fun _ => .rfl⟩
  | logical op _ _ ihl ihr =>
      obtain ⟨p', hp, hleavesp, hholdsp⟩ := ihl
      obtain ⟨q', hq, hleavesq, hholdsq⟩ := ihr
      refine ⟨_, .logical op hp hq, ?_, fun r => ?_⟩
      · rw [leaves_join_spliced, hleavesp, hleavesq, Predicate.leaves_join]
        simp
      · rw [holds_join_spliced]
        cases op with
        | and => simp [hholdsp, hholdsq]
        | or => simp [hholdsp, hholdsq]
  | not _ ih =>
      obtain ⟨q, hq, hleaves, hholds⟩ := ih
      refine ⟨_, .not hq, ?_, fun r => ?_⟩
      · rw [Predicate.leaves_negate, Predicate.leaves_negate, hleaves]
      · rw [Predicate.holds_negate, Predicate.holds_negate, hholds]

end Typed

end Expr

namespace Search

open Catalogue.Expr

def shown (α : Type) [Resource α] : Resource.View α := View.ofExpr (.parameter subject)

theorem predicate_of_written {root : String} {e : Expr} {p : Predicate} (h : Written root e p) :
    ∃ q, (Lambda.mk root e).predicate = .ok q ∧ q.Renders p := by
  obtain ⟨q, hcompiles, hrenders⟩ := h.exists_compiles
  exact ⟨q, Except.mapError_eq_ok.2 (predicate_eq_ok.2 hcompiles), hrenders⟩

theorem propertyPath_of_reached {root : String} {V : Type} [View V] {v : V} {names : List String}
    (h : Reached root v names) :
    (Lambda.mk root (View.expr v)).propertyPath = .ok (sentPath names) :=
  Except.mapError_eq_ok.2 h.propertyPath_eq

/-- What is written with typed fields is accepted: a filter with its fields and values where they
were written, a sort and a projection with the path of their field. -/
theorem typed_accepted :
    (∀ root e p, Written root e p →
      ∃ q, (Lambda.mk root e).predicate = .ok q ∧ q.Renders p) ∧
    (∀ (root : String) (V : Type) [View V] (v : V) (names : List String), Reached root v names →
      (Lambda.mk root (View.expr v)).propertyPath = .ok (sentPath names)) ∧
    ∀ (α : Type) [Resource α] (s : Search α),
      (∀ condition p, Written subject (condition (shown α)) p →
        ∃ q, s.filter condition = .ok (s.predicate q) ∧ q.Renders p) ∧
      ∀ (V : Type) [View V] (selector : Resource.View α → V) (names : List String),
        Reached subject (selector (shown α)) names →
          (∀ direction, s.sortBy direction selector =
            .ok ⟨s.query.withSort (sentPath names) direction⟩) ∧
          s.select selector = .ok ⟨s.query.withSelect (sentPath names)⟩ := by
  refine ⟨fun root e p h => predicate_of_written h,
    fun root V _ v names h => propertyPath_of_reached h, fun α _ s => ⟨?_, ?_⟩⟩
  · intro condition p h
    obtain ⟨q, hq, hrenders⟩ := predicate_of_written h
    have hlambda : (lambda condition).predicate = .ok q := hq
    refine ⟨q, ?_, hrenders⟩
    rw [filter, hlambda]
    rfl
  · intro V _ selector names h
    have hpath : (lambda selector).propertyPath = .ok (sentPath names) := propertyPath_of_reached h
    constructor
    · intro direction
      rw [sortBy, hpath]
      rfl
    · rw [select, hpath]
      rfl

def lowOrListed (item : ItemView) : Expr :=
  .or (.and (item.level.compare .lt 60) (.not (item.name.fr.compare .eq "Anneau")))
    ((item.typeId.widen Int64).isIn [1, 16])

def lowOrListedPredicate : Predicate :=
  .join .or [.join .and [.compare .lt "level" "60", .compare .neq "name.fr" "Anneau"],
    .among .isIn "typeId" ["1", "16"]]

theorem written_lowOrListed : Written subject (lowOrListed (shown Item)) lowOrListedPredicate := by
  have hitem : Reached subject (shown Item) [] := .subject (V := ItemView)
  have hlevel : Reached subject (ItemView.level (shown Item)) ["level"] := .inside "level" hitem
  have hname : Reached subject (ItemView.name (shown Item)) ["name"] := .inside "name" hitem
  have hfr : Reached subject (ItemView.name (shown Item)).fr ["name", "fr"] := .inside "fr" hname
  have htype : Reached subject (ItemView.typeId (shown Item)) ["typeId"] := .inside "typeId" hitem
  have hlow : Written subject ((ItemView.level (shown Item)).compare .lt 60)
      (.compare .lt "level" "60") := .compare .lt 60 hlevel (by simp [toValue, Value.IsList])
  have hring : Written subject ((ItemView.name (shown Item)).fr.compare .eq "Anneau")
      (.compare .eq "name.fr" "Anneau") :=
    .compare .eq "Anneau" hfr (by simp [toValue, Value.IsList])
  have hlisted : Written subject (((ItemView.typeId (shown Item)).widen Int64).isIn [1, 16])
      (.among .isIn "typeId" ["1", "16"]) :=
    .isIn [1, 16] (.widen Int64 htype) (by simp [toValue, Value.IsList])
  exact .logical .or (.logical .and hlow (.not hring)) hlisted

theorem lowOrListed_accepted :
    Written subject (lowOrListed (shown Item)) lowOrListedPredicate ∧
      (∃ q, filter ({} : Search Item) lowOrListed = .ok ⟨({} : Query).withPredicate q⟩ ∧
        q.leaves = [.compare .lt "level" "60", .compare .neq "name.fr" "Anneau",
          .among .isIn "typeId" ["1", "16"]]) ∧
      sortBy ({} : Search Item) .descending (fun item : ItemView => item.level) =
        .ok ⟨({} : Query).withSort "level" .descending⟩ := by
  obtain ⟨q, hfilter, hrenders⟩ :=
    (typed_accepted.2.2 Item {}).1 lowOrListed lowOrListedPredicate written_lowOrListed
  have hitem : Reached subject (shown Item) [] := .subject (V := ItemView)
  have hsort := ((typed_accepted.2.2 Item {}).2 (Field Int32) (fun item : ItemView => item.level)
    ["level"] (.inside "level" hitem)).1 .descending
  exact ⟨written_lowOrListed, ⟨q, hfilter, hrenders.leaves_eq⟩, hsort⟩

end Search

end Catalogue
