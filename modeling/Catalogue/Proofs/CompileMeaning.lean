import Catalogue.Expr.Compile
import Catalogue.Proofs.PredicateMeaning
import Catalogue.Proofs.Preliminaries

namespace Catalogue

namespace Expr

/-- The names on the way from the subject to a member. A member of nothing starts at itself, and
conversions are not seen. -/
inductive Follows (root : String) : Expr → List String → Prop
  | subject : Follows root (.parameter root) []
  | static (name : String) : Follows root (.static name) [name]
  | member {e : Expr} {names : List String} (name : String) :
      Follows root e names → Follows root (.member e name) (names ++ [name])
  | convert {e : Expr} {names : List String} :
      Follows root e names → Follows root (.convert e) names

def Reads (root : String) (e : Expr) (field : String) : Prop :=
  ∃ names, Follows root e names ∧ ".".intercalate (names.map Path.camelSegment) = field

inductive Denotes : Expr → Value → Prop
  | constant (value : Value) : Denotes (.constant value) value
  | captured (name : String) (value : Value) : Denotes (.captured name value) value
  | convert {e : Expr} {value : Value} : Denotes e value → Denotes (.convert e) value

def Spells (e : Expr) (text : String) : Prop := ∃ value, Denotes e value ∧ value.wire? = some text

def Contains (r : Record) (collection : Expr) (field : String) : Prop :=
  ∃ items, Denotes collection (.list items) ∧
    ∃ item ∈ items, ∃ text, item.wire? = some text ∧ r.equals field text

def Holds (root : String) (r : Record) : Expr → Prop
  | binary (.logical .and) left right => left.Holds root r ∧ right.Holds root r
  | binary (.logical .or) left right => left.Holds root r ∨ right.Holds root r
  | binary (.compare op) left right =>
    ∃ field text, Reads root left field ∧ Spells right text ∧ r.Compares field text op
  | not e => ¬ e.Holds root r
  | call target method [item] =>
    isContains method ∧ ∃ field, Reads root item field ∧ Contains r target field
  | _ => False

section Leaves

variable {root : String} {e : Expr}

theorem chain_eq_ok {segments : List String} :
    chain root e = .ok segments ↔
      ∃ names, Follows root e names ∧ names.map Path.camelSegment = segments := by
  constructor
  · intro h
    fun_induction chain root e generalizing segments with
    | case1 =>
        cases h
        exact ⟨[], Follows.subject, rfl⟩
    | case2 name hname => cases h
    | case3 e name ih =>
        obtain ⟨before, hbefore, rfl⟩ := Except.map_eq_ok.1 h
        obtain ⟨names, hnames, rfl⟩ := ih hbefore
        exact ⟨names ++ [name], Follows.member name hnames, by simp⟩
    | case4 name =>
        cases h
        exact ⟨[name], Follows.static name, rfl⟩
    | case5 e ih =>
        obtain ⟨names, hnames, hsegments⟩ := ih h
        exact ⟨names, Follows.convert hnames, hsegments⟩
    | case6 => cases h
  · rintro ⟨names, hnames, rfl⟩
    induction hnames with
    | subject => simp [chain]
    | static name => simp [chain]
    | member name _ ih =>
        rw [chain, ih]
        exact Except.map_eq_ok.2 ⟨_, rfl, by simp⟩
    | convert _ ih => simpa [chain] using ih

theorem propertyPath_eq_ok {field : String} :
    propertyPath root e = .ok field ↔ Reads root e field := by
  unfold propertyPath Reads
  rw [Except.map_eq_ok]
  constructor
  · rintro ⟨segments, hsegments, rfl⟩
    obtain ⟨names, hnames, rfl⟩ := chain_eq_ok.1 hsegments
    exact ⟨names, hnames, rfl⟩
  · rintro ⟨names, hnames, rfl⟩
    exact ⟨_, chain_eq_ok.2 ⟨names, hnames, rfl⟩, rfl⟩

theorem scalar_eq_ok {value : Value} {text : String} :
    scalar e value = .ok text ↔ value.wire? = some text := by
  unfold scalar
  cases value.wire? <;> simp

theorem valueText_eq_ok {text : String} : valueText e = .ok text ↔ Spells e text := by
  constructor
  · intro h
    fun_induction valueText e with
    | case1 e ih =>
        obtain ⟨value, hvalue, hwire⟩ := ih h
        exact ⟨value, Denotes.convert hvalue, hwire⟩
    | case2 value => exact ⟨value, Denotes.constant value, scalar_eq_ok.1 h⟩
    | case3 name value => exact ⟨value, Denotes.captured name value, scalar_eq_ok.1 h⟩
    | case4 => cases h
  · rintro ⟨value, hvalue, hwire⟩
    induction hvalue with
    | constant value => exact scalar_eq_ok.2 hwire
    | captured name value => exact scalar_eq_ok.2 hwire
    | convert _ ih => exact ih hwire

theorem mapM_scalar_eq_ok {items : List Value} {texts : List String} :
    items.mapM (scalar e) = .ok texts ↔ items.map Value.wire? = texts.map some := by
  induction items generalizing texts with
  | nil => cases texts <;> simp [pure, Except.pure]
  | cons item items ih =>
      simp only [List.mapM_cons, Except.bind_eq_ok, scalar_eq_ok, ih, List.map_cons]
      constructor
      · rintro ⟨text, hitem, rest, hitems, hpure⟩
        cases hpure
        rw [hitem, hitems, List.map_cons]
      · intro h
        cases texts with
        | nil => cases h
        | cons text rest =>
            rw [List.map_cons, List.cons.injEq] at h
            exact ⟨text, h.1, rest, h.2, rfl⟩

theorem collectionTexts_eq_ok {texts : List String} :
    collectionTexts e = .ok texts ↔
      ∃ items, Denotes e (.list items) ∧ items.map Value.wire? = texts.map some := by
  constructor
  · intro h
    fun_induction collectionTexts e with
    | case1 e ih =>
        obtain ⟨items, hitems, htexts⟩ := ih h
        exact ⟨items, Denotes.convert hitems, htexts⟩
    | case2 items => exact ⟨items, Denotes.constant _, mapM_scalar_eq_ok.1 h⟩
    | case3 name items => exact ⟨items, Denotes.captured name _, mapM_scalar_eq_ok.1 h⟩
    | case4 => cases h
  · rintro ⟨items, hitems, htexts⟩
    generalize hvalue : Value.list items = value at hitems
    induction hitems with
    | constant value =>
        subst hvalue
        exact mapM_scalar_eq_ok.2 htexts
    | captured name value =>
        subst hvalue
        exact mapM_scalar_eq_ok.2 htexts
    | convert _ ih => exact ih hvalue

theorem isContains_iff {method : String} :
    isContains method ↔ SameLetters method "contains" := by
  have hlower : "contains".toLower = "contains" := by
    rw [← String.toList_inj, toList_toLower]
    decide
  rw [← toLower_eq_iff, hlower, isContains, beq_iff_eq]

theorem isContains_contains : isContains "Contains" = true := isContains_iff.2 (by decide)

end Leaves

/-- What a condition is compiled to. A negation is compiled to the negated predicate. -/
inductive Compiles (root : String) : Expr → Predicate → Prop
  | logical (op : Connective) {left right : Expr} {p q : Predicate} :
      Compiles root left p → Compiles root right q →
        Compiles root (.binary (.logical op) left right) (.join op (spliced op p ++ spliced op q))
  | compare (op : Comparison) {left right : Expr} {field text : String} :
      Reads root left field → Spells right text →
        Compiles root (.binary (.compare op) left right) (.compare op field text)
  | contains {target item : Expr} {method field : String} {texts : List String} :
      isContains method → Reads root item field → collectionTexts target = .ok texts →
        Compiles root (.call target method [item]) (.among .isIn field texts)
  | not {e : Expr} {p : Predicate} : Compiles root e p → Compiles root (.not e) p.negate

theorem compiles_of_predicate {root : String} {e : Expr} {p : Predicate}
    (h : predicate root e = .ok p) : Compiles root e p := by
  fun_induction predicate root e generalizing p with
  | case1 op left right ihl ihr =>
      obtain ⟨q, hq, h⟩ := Except.bind_eq_ok.1 h
      obtain ⟨q', hq', h⟩ := Except.bind_eq_ok.1 h
      cases h
      exact .logical op (ihl hq) (ihr hq')
  | case2 op left right =>
      obtain ⟨field, hfield, h⟩ := Except.bind_eq_ok.1 h
      obtain ⟨text, htext, h⟩ := Except.bind_eq_ok.1 h
      cases h
      exact .compare op (propertyPath_eq_ok.1 hfield) (valueText_eq_ok.1 htext)
  | case4 target method hmethod item =>
      obtain ⟨field, hfield, h⟩ := Except.bind_eq_ok.1 h
      obtain ⟨texts, htexts, h⟩ := Except.bind_eq_ok.1 h
      cases h
      exact .contains hmethod (propertyPath_eq_ok.1 hfield) htexts
  | case8 e ih =>
      obtain ⟨q, hq, rfl⟩ := Except.map_eq_ok.1 h
      exact .not (ih hq)
  | case3 | case5 | case6 | case7 | case9 => cases h

theorem predicate_eq_ok {root : String} {e : Expr} {p : Predicate} :
    predicate root e = .ok p ↔ Compiles root e p := by
  refine ⟨compiles_of_predicate, fun h => ?_⟩
  induction h with
  | logical op _ _ ihl ihr =>
      rw [predicate, ihl, ihr]
      rfl
  | compare op hleft hright =>
      rw [predicate, propertyPath_eq_ok.2 hleft, valueText_eq_ok.2 hright]
      rfl
  | contains hmethod hitem htexts =>
      rw [predicate, if_pos hmethod, propertyPath_eq_ok.2 hitem, htexts]
      rfl
  | not _ ih =>
      rw [predicate, ih]
      rfl

theorem spliced_cases (op : Connective) (p : Predicate) :
    (∃ children, p = .join op children ∧ spliced op p = children) ∨ spliced op p = [p] := by
  unfold spliced
  split
  · split
    · rename_i op' children hop
      subst hop
      exact .inl ⟨children, rfl, rfl⟩
    · exact .inr rfl
  · exact .inr rfl

section Conditions

variable {root : String} {r : Record}

theorem holds_spliced_and (p : Predicate) :
    (∀ child ∈ spliced .and p, child.Holds r) ↔ p.Holds r := by
  obtain ⟨children, rfl, hspliced⟩ | hspliced := spliced_cases .and p
  · rw [hspliced, Predicate.holds_and]
  · rw [hspliced, List.forall_mem_singleton]

theorem holds_spliced_or (p : Predicate) :
    (∃ child ∈ spliced .or p, child.Holds r) ↔ p.Holds r := by
  obtain ⟨children, rfl, hspliced⟩ | hspliced := spliced_cases .or p
  · rw [hspliced, Predicate.holds_or]
  · simp [hspliced]

theorem holds_join_spliced (op : Connective) (p q : Predicate) :
    (Predicate.join op (spliced op p ++ spliced op q)).Holds r ↔
      match op with
      | .and => p.Holds r ∧ q.Holds r
      | .or => p.Holds r ∨ q.Holds r := by
  cases op with
  | and =>
      rw [Predicate.holds_and, List.forall_mem_append, holds_spliced_and, holds_spliced_and]
  | or =>
      rw [Predicate.holds_or]
      simp only [List.mem_append, or_and_right, exists_or]
      rw [holds_spliced_or, holds_spliced_or]

theorem holds_comparison {left right : Expr} {field text : String} (op : Comparison)
    (hleft : Reads root left field) (hright : Spells right text) :
    r.Compares field text op ↔ (binary (.compare op) left right).Holds root r := by
  rw [Holds]
  constructor
  · intro h
    exact ⟨field, text, hleft, hright, h⟩
  · rintro ⟨field', text', hleft', hright', h⟩
    have hfield := (propertyPath_eq_ok.2 hleft').symm.trans (propertyPath_eq_ok.2 hleft)
    have htext := (valueText_eq_ok.2 hright').symm.trans (valueText_eq_ok.2 hright)
    cases hfield
    cases htext
    exact h

theorem Denotes.unique {e : Expr} {value other : Value} (h : Denotes e value)
    (h' : Denotes e other) : value = other := by
  induction h with
  | constant value =>
      cases h'
      rfl
  | captured name value =>
      cases h'
      rfl
  | convert _ ih =>
      cases h' with
      | convert h' => exact ih h'

theorem contains_iff {target : Expr} {texts : List String} (field : String)
    (h : collectionTexts target = .ok texts) :
    Contains r target field ↔ ∃ text ∈ texts, r.equals field text := by
  obtain ⟨items, hitems, htexts⟩ := collectionTexts_eq_ok.1 h
  have found (text : String) : (∃ item ∈ items, item.wire? = some text) ↔ text ∈ texts := by
    rw [← List.mem_map, htexts, List.mem_map]
    simp
  constructor
  · rintro ⟨others, hothers, item, hitem, text, htext, hr⟩
    cases hitems.unique hothers
    exact ⟨text, (found text).1 ⟨item, hitem, htext⟩, hr⟩
  · rintro ⟨text, htext, hr⟩
    obtain ⟨item, hitem, hwire⟩ := (found text).2 htext
    exact ⟨items, hitems, item, hitem, text, hwire, hr⟩

/-- A compiled condition means what the expression does, whatever the record. The induction is on
how it is compiled; a negation is moved through the tree that its operand was compiled to. -/
theorem Compiles.holds_iff {e : Expr} {p : Predicate} (h : Compiles root e p) :
    p.Holds r ↔ e.Holds root r := by
  induction h with
  | logical op _ _ ihl ihr =>
      rw [holds_join_spliced]
      cases op with
      | and => rw [Holds, ihl, ihr]
      | or => rw [Holds, ihl, ihr]
  | compare op hleft hright =>
      rw [Predicate.holds_compare]
      exact holds_comparison op hleft hright
  | @contains target item method field texts hmethod hitem htexts =>
      rw [Predicate.holds_among, Record.Belongs, ← contains_iff field htexts, Holds]
      constructor
      · intro hr
        exact ⟨hmethod, field, hitem, hr⟩
      · rintro ⟨-, field', hfield', hr⟩
        have hunique := (propertyPath_eq_ok.2 hfield').symm.trans (propertyPath_eq_ok.2 hitem)
        cases hunique
        exact hr
  | not _ ih => rw [Predicate.holds_negate, ih, Holds]

theorem holds_of_predicate {e : Expr} {p : Predicate} (h : predicate root e = .ok p) :
    p.Holds r ↔ e.Holds root r :=
  (compiles_of_predicate h).holds_iff

end Conditions

end Expr

namespace Lambda

def Holds (l : Lambda) (r : Record) : Prop := l.body.Holds l.parameter r

theorem predicate_keeps_meaning {l : Lambda} {p : Predicate} (h : l.predicate = .ok p)
    (r : Record) : p.Holds r ↔ l.Holds r := by
  unfold Lambda.predicate at h
  cases hp : Expr.predicate l.parameter l.body with
  | error blame =>
      rw [hp] at h
      cases h
  | ok q =>
      rw [hp] at h
      cases h
      exact Expr.holds_of_predicate hp

def ofLevelBelowSixty : Expr := .compare .lt ((Expr.parameter "i").path ["Level"]) (.int 60)

def namedRing : Expr := .compare .eq ((Expr.parameter "i").path ["Name", "Fr"]) (.str "Ring")

def ofListedType : Expr :=
  .contains (.captured "types" (.list [.int 1, .int 16]))
    (.convert ((Expr.parameter "i").path ["TypeId"]))

def lowLevelOthers : Lambda := ⟨"i", .and ofLevelBelowSixty (.not (.or namedRing ofListedType))⟩

def lowLevelPredicate : Predicate :=
  .join .and [.compare .lt "level" "60", .compare .neq "name.fr" "Ring",
    .among .notIn "typeId" ["1", "16"]]

theorem predicate_contains {root field : String} {target item : Expr} {texts : List String}
    (hfield : Expr.propertyPath root item = .ok field)
    (htexts : Expr.collectionTexts target = .ok texts) :
    Expr.predicate root (.contains target item) = .ok (.among .isIn field texts) := by
  rw [Expr.contains, Expr.predicate, if_pos Expr.isContains_contains, hfield, htexts]
  rfl

theorem predicate_ofListedType :
    Expr.predicate "i" ofListedType = .ok (.among .isIn "typeId" ["1", "16"]) :=
  predicate_contains rfl rfl

theorem predicate_lowLevelOthers : lowLevelOthers.predicate = .ok lowLevelPredicate := by
  have hor : Expr.predicate "i" (.or namedRing ofListedType) =
      .ok (.join .or [.compare .eq "name.fr" "Ring", .among .isIn "typeId" ["1", "16"]]) := by
    rw [Expr.or, Expr.predicate, predicate_ofListedType]
    rfl
  have hbody : Expr.predicate "i" lowLevelOthers.body = .ok lowLevelPredicate := by
    rw [lowLevelOthers, Expr.and, Expr.predicate, Expr.predicate, hor]
    rfl
  change (Expr.predicate "i" lowLevelOthers.body).mapError _ = _
  rw [hbody]
  rfl

def ringOfLevelSixty : Record where
  equals field value := (field, value) ∈ [("level", "60"), ("name.fr", "Ring"), ("typeId", "9")]
  exceeds _ _ := False
  reaches field value := (field, value) = ("level", "60")

theorem lowLevelOthers_keeps_meaning :
    lowLevelOthers.predicate = .ok lowLevelPredicate ∧
      (lowLevelPredicate.Holds ringOfLevelSixty ↔ lowLevelOthers.Holds ringOfLevelSixty) :=
  ⟨predicate_lowLevelOthers, predicate_keeps_meaning predicate_lowLevelOthers ringOfLevelSixty⟩

end Lambda

end Catalogue
