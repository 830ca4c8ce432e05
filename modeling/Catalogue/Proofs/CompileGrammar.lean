import Catalogue.Proofs.CompileMeaning

namespace Catalogue

def Value.IsList (value : Value) : Prop := ∃ items, value = .list items

theorem Value.exists_wire {value : Value} : (∃ text, value.wire? = some text) ↔ ¬ value.IsList := by
  cases value <;> simp [Value.wire?, Value.IsList]

namespace Expr

inductive IsPath (root : String) : Expr → Prop
  | subject : IsPath root (.parameter root)
  | convert {e : Expr} : IsPath root e → IsPath root (.convert e)
  | member {e : Expr} (name : String) : IsPath root e → IsPath root (.member e name)
  | static (name : String) : IsPath root (.static name)

inductive IsScalar : Expr → Prop
  | convert {e : Expr} : IsScalar e → IsScalar (.convert e)
  | constant {value : Value} : ¬ value.IsList → IsScalar (.constant value)
  | captured (name : String) {value : Value} : ¬ value.IsList → IsScalar (.captured name value)

inductive IsCollection : Expr → Prop
  | convert {e : Expr} : IsCollection e → IsCollection (.convert e)
  | constant {items : List Value} :
      (∀ item ∈ items, ¬ item.IsList) → IsCollection (.constant (.list items))
  | captured (name : String) {items : List Value} :
      (∀ item ∈ items, ¬ item.IsList) → IsCollection (.captured name (.list items))

inductive IsCondition (root : String) : Expr → Prop
  | logical (op : Connective) {left right : Expr} :
      IsCondition root left → IsCondition root right →
        IsCondition root (.binary (.logical op) left right)
  | not {e : Expr} : IsCondition root e → IsCondition root (.not e)
  | compare (op : Comparison) {left right : Expr} :
      IsPath root left → IsScalar right → IsCondition root (.binary (.compare op) left right)
  | contains {collection item : Expr} {method : String} :
      IsCollection collection → SameLetters method "contains" → IsPath root item →
        IsCondition root (.call collection method [item])

section Accepted

variable {root : String} {e : Expr}

theorem exists_follows : (∃ names, Follows root e names) ↔ IsPath root e := by
  constructor
  · rintro ⟨names, h⟩
    induction h with
    | subject => exact .subject
    | static name => exact .static name
    | member name _ ih => exact .member name ih
    | convert _ ih => exact .convert ih
  · intro h
    induction h with
    | subject => exact ⟨[], .subject⟩
    | convert _ ih =>
        obtain ⟨names, hnames⟩ := ih
        exact ⟨names, .convert hnames⟩
    | member name _ ih =>
        obtain ⟨names, hnames⟩ := ih
        exact ⟨names ++ [name], .member name hnames⟩
    | static name => exact ⟨[name], .static name⟩

theorem exists_reads : (∃ field, Reads root e field) ↔ IsPath root e := by
  simp only [Reads, ← exists_follows]
  constructor
  · rintro ⟨_, names, hnames, _⟩
    exact ⟨names, hnames⟩
  · rintro ⟨names, hnames⟩
    exact ⟨_, names, hnames, rfl⟩

theorem exists_propertyPath : (∃ field, propertyPath root e = .ok field) ↔ IsPath root e := by
  simp only [propertyPath_eq_ok, exists_reads]

theorem exists_denotes_scalar : (∃ value, Denotes e value ∧ ¬ value.IsList) ↔ IsScalar e := by
  constructor
  · rintro ⟨value, h, hvalue⟩
    induction h with
    | constant value => exact .constant hvalue
    | captured name value => exact .captured name hvalue
    | convert _ ih => exact .convert (ih hvalue)
  · intro h
    induction h with
    | convert _ ih =>
        obtain ⟨value, h, hvalue⟩ := ih
        exact ⟨value, .convert h, hvalue⟩
    | constant hvalue => exact ⟨_, .constant _, hvalue⟩
    | captured name hvalue => exact ⟨_, .captured name _, hvalue⟩

theorem exists_spells : (∃ text, Spells e text) ↔ IsScalar e := by
  simp only [Spells, ← exists_denotes_scalar, ← Value.exists_wire]
  constructor
  · rintro ⟨text, value, h, hwire⟩
    exact ⟨value, h, text, hwire⟩
  · rintro ⟨value, h, text, hwire⟩
    exact ⟨text, value, h, hwire⟩

theorem exists_valueText : (∃ text, valueText e = .ok text) ↔ IsScalar e := by
  simp only [valueText_eq_ok, exists_spells]

theorem exists_denotes_list :
    (∃ items, Denotes e (.list items) ∧ ∀ item ∈ items, ¬ item.IsList) ↔ IsCollection e := by
  constructor
  · rintro ⟨items, h, hitems⟩
    generalize hvalue : Value.list items = value at h
    induction h with
    | constant value =>
        subst hvalue
        exact .constant hitems
    | captured name value =>
        subst hvalue
        exact .captured name hitems
    | convert _ ih => exact .convert (ih hvalue)
  · intro h
    induction h with
    | convert _ ih =>
        obtain ⟨items, h, hitems⟩ := ih
        exact ⟨items, .convert h, hitems⟩
    | constant hitems => exact ⟨_, .constant _, hitems⟩
    | captured name hitems => exact ⟨_, .captured name _, hitems⟩

theorem exists_wireTexts {items : List Value} :
    (∃ texts : List String, items.map Value.wire? = texts.map some) ↔
      ∀ item ∈ items, ¬ item.IsList := by
  simp only [← Value.exists_wire]
  induction items with
  | nil => exact ⟨by simp, fun _ => ⟨[], rfl⟩⟩
  | cons item items ih =>
      rw [List.forall_mem_cons, ← ih]
      constructor
      · rintro ⟨texts, h⟩
        cases texts with
        | nil => cases h
        | cons text texts =>
            rw [List.map_cons, List.map_cons, List.cons.injEq] at h
            exact ⟨⟨text, h.1⟩, ⟨texts, h.2⟩⟩
      · rintro ⟨⟨text, htext⟩, ⟨texts, htexts⟩⟩
        exact ⟨text :: texts, by rw [List.map_cons, List.map_cons, htext, htexts]⟩

theorem exists_collectionTexts : (∃ texts, collectionTexts e = .ok texts) ↔ IsCollection e := by
  simp only [collectionTexts_eq_ok, ← exists_denotes_list, ← exists_wireTexts]
  constructor
  · rintro ⟨texts, items, h, htexts⟩
    exact ⟨items, h, texts, htexts⟩
  · rintro ⟨items, h, texts, htexts⟩
    exact ⟨texts, items, h, htexts⟩

theorem Compiles.isCondition {p : Predicate} (h : Compiles root e p) : IsCondition root e := by
  induction h with
  | logical op _ _ ihl ihr => exact .logical op ihl ihr
  | compare op hleft hright =>
      exact .compare op (exists_reads.1 ⟨_, hleft⟩) (exists_spells.1 ⟨_, hright⟩)
  | contains hmethod hitem htexts =>
      exact .contains (exists_collectionTexts.1 ⟨_, htexts⟩) (isContains_iff.1 hmethod)
        (exists_reads.1 ⟨_, hitem⟩)
  | not _ ih => exact .not ih

theorem IsCondition.exists_compiles (h : IsCondition root e) : ∃ p, Compiles root e p := by
  induction h with
  | logical op _ _ ihl ihr =>
      obtain ⟨p, hp⟩ := ihl
      obtain ⟨q, hq⟩ := ihr
      exact ⟨_, .logical op hp hq⟩
  | not _ ih =>
      obtain ⟨p, hp⟩ := ih
      exact ⟨_, .not hp⟩
  | compare op hleft hright =>
      obtain ⟨field, hfield⟩ := exists_reads.2 hleft
      obtain ⟨text, htext⟩ := exists_spells.2 hright
      exact ⟨_, .compare op hfield htext⟩
  | contains hcollection hmethod hitem =>
      obtain ⟨field, hfield⟩ := exists_reads.2 hitem
      obtain ⟨texts, htexts⟩ := exists_collectionTexts.2 hcollection
      exact ⟨_, .contains (isContains_iff.2 hmethod) hfield htexts⟩

theorem exists_predicate : (∃ p, predicate root e = .ok p) ↔ IsCondition root e := by
  simp only [predicate_eq_ok]
  exact ⟨fun ⟨_, h⟩ => h.isCondition, fun h => h.exists_compiles⟩

end Accepted

end Expr

structure Accepts {α : Type} (result : Except Error α) (accepted : Prop) : Prop where
  succeeds : (∃ a, result = .ok a) ↔ accepted
  fails : ∀ error, result = .error error →
    ∃ expression reason, error = .invalidExpression expression reason

theorem accepts_of_blame {α : Type} {result : Except Expr.Blame α} {accepted : Prop}
    (h : (∃ a, result = .ok a) ↔ accepted) :
    Accepts (result.mapError Expr.Blame.toError) accepted where
  succeeds := by simp only [Except.mapError_eq_ok, h]
  fails error herror := by
    obtain ⟨blame, _, rfl⟩ := Except.mapError_eq_error.1 herror
    exact ⟨blame.expr.text, blame.reason.text, rfl⟩

namespace Lambda

/-- A comparison is built by `leaf` from its kind, field and value. It is of a kind that `leaf` takes,
so this step does not fail. -/
theorem predicate_comparison (root : String) (op : Comparison) (left right : Expr) :
    (Lambda.mk root (.binary (.compare op) left right)).predicate = (do
      let field ← (Lambda.mk root left).propertyPath
      let value ← right.value
      Predicate.leaf (.comparison op) field value) := by
  unfold predicate propertyPath Expr.value
  rw [Expr.predicate]
  cases Expr.propertyPath root left with
  | error blame => rfl
  | ok field =>
      cases Expr.valueText right with
      | error blame => rfl
      | ok text => rfl

/-- Each of the four ways to compile an expression accepts its grammar and nothing else. -/
theorem compiles_grammar (root : String) (e : Expr) :
    Accepts (Lambda.mk root e).predicate (e.IsCondition root) ∧
      Accepts (Lambda.mk root e).propertyPath (e.IsPath root) ∧
      Accepts e.value e.IsScalar ∧ Accepts e.collection e.IsCollection :=
  ⟨accepts_of_blame Expr.exists_predicate, accepts_of_blame Expr.exists_propertyPath,
    accepts_of_blame Expr.exists_valueText, accepts_of_blame Expr.exists_collectionTexts⟩

end Lambda

end Catalogue
