import Catalogue.Proofs.CompileGrammar

namespace Catalogue

namespace Except

variable {ε ε' α β : Type}

theorem mapError_bind (g : ε → ε') (x : Except ε α) (f : α → Except ε β) :
    (x >>= f).mapError g = x.mapError g >>= fun a => (f a).mapError g := by
  cases x <;> rfl

theorem mapError_map (g : ε → ε') (f : α → β) (x : Except ε α) :
    (f <$> x).mapError g = f <$> x.mapError g := by
  cases x <;> rfl

end Except

namespace Expr

inductive Literal (value : Value) : Expr → Prop
  | constant : Literal value (.constant value)
  | captured (name : String) : Literal value (.captured name value)

/-- How the names of parameters, the variables from outside and the conversions of an expression are
written instead. -/
structure Respelling where
  parameter : String → String := id
  captured : String → Value → Expr := .captured
  convert : Expr → Expr := .convert

mutual

def respell (f : Respelling) : Expr → Expr
  | parameter name => parameter (f.parameter name)
  | member target name => member (target.respell f) name
  | static name => static name
  | convert e => f.convert (e.respell f)
  | constant value => constant value
  | captured name value => f.captured name value
  | binary op left right => binary op (left.respell f) (right.respell f)
  | not e => not (e.respell f)
  | call target method args => call (target.respell f) method (respellAll f args)
  | apply method args => apply method (respellAll f args)

def respellAll (f : Respelling) : List Expr → List Expr
  | [] => []
  | arg :: args => arg.respell f :: respellAll f args

end

mutual

def parameters : Expr → List String
  | parameter name => [name]
  | member target _ => target.parameters
  | static _ => []
  | convert e => e.parameters
  | constant _ => []
  | captured _ _ => []
  | binary _ left right => left.parameters ++ right.parameters
  | not e => e.parameters
  | call target _ args => target.parameters ++ parametersAll args
  | apply _ args => parametersAll args

def parametersAll : List Expr → List String
  | [] => []
  | arg :: args => arg.parameters ++ parametersAll args

end

def Reason.respell (f : Respelling) : Reason → Reason
  | notMemberChain root => notMemberChain (f.parameter root)
  | reason => reason

def Blame.respell (f : Respelling) (b : Blame) : Blame := ⟨b.expr.respell f, b.reason.respell f⟩

namespace Respelling

def unconverted : Respelling := { convert := id }

def uncaptured : Respelling := { captured := fun _ value => .constant value }

def renamed (root name : String) : Respelling where
  parameter other := if other = root then name else other

/-- No value is changed, and no other parameter of an expression is taken for its subject. -/
structure Keeps (f : Respelling) (root : String) (names : List String) : Prop where
  subject : ∀ name ∈ names, f.parameter name = f.parameter root → name = root
  captured : ∀ name value, Literal value (f.captured name value)
  convert : f.convert = id ∨ f.convert = .convert

variable {f : Respelling} {root : String}

theorem Keeps.mono {names others : List String} (h : f.Keeps root names)
    (hsub : ∀ name ∈ others, name ∈ names) : f.Keeps root others :=
  ⟨fun name hname => h.subject name (hsub name hname), h.captured, h.convert⟩

theorem keeps_unconverted (root : String) (names : List String) : unconverted.Keeps root names :=
  ⟨fun _ _ h => h, fun name _ => .captured name, .inl rfl⟩

theorem keeps_uncaptured (root : String) (names : List String) : uncaptured.Keeps root names :=
  ⟨fun _ _ h => h, fun _ _ => .constant, .inr rfl⟩

theorem keeps_renamed {name : String} {names : List String} (h : name ∉ names) :
    (renamed root name).Keeps root names where
  subject other hother heq := by
    by_contra hne
    have hname : other = name := by simpa [renamed, hne] using heq
    exact h (hname ▸ hother)
  captured name _ := .captured name
  convert := .inr rfl

end Respelling

section Compiled

variable {f : Respelling} {root : String}

theorem chain_literal {value : Value} {e : Expr} (h : Literal value e) (root : String) :
    chain root e = .error ⟨e, .notMemberChain root⟩ := by
  cases h <;> rfl

theorem valueText_literal {value : Value} {e : Expr} (h : Literal value e) :
    valueText e = scalar e value := by
  cases h <;> rfl

theorem collectionTexts_literal {value : Value} {e : Expr} (h : Literal value e) :
    collectionTexts e = match value with
      | .list items => items.mapM (scalar e)
      | _ => .error ⟨e, .notCollection⟩ := by
  cases h <;> cases value <;> rfl

theorem predicate_literal {value : Value} {e : Expr} (h : Literal value e) (root : String) :
    predicate root e = .error ⟨e, .notPredicate⟩ := by
  cases h <;> simp [predicate]

theorem respell_captured {names : List String} (h : f.Keeps root names) (name : String)
    (value : Value) : Literal value ((captured name value).respell f) := by
  rw [respell]
  exact h.captured name value

theorem chain_respell (e : Expr) (h : f.Keeps root e.parameters) :
    chain (f.parameter root) (e.respell f) = (chain root e).mapError (Blame.respell f) := by
  match e with
  | parameter name =>
      rw [respell, chain, chain]
      by_cases hname : name = root
      · rw [if_pos hname, if_pos (congrArg f.parameter hname)]
        rfl
      · have hother : f.parameter name ≠ f.parameter root :=
          fun heq => hname (h.subject name (List.mem_singleton.2 rfl) heq)
        rw [if_neg hname, if_neg hother]
        rfl
  | member target name =>
      rw [respell, chain, chain, chain_respell target h, Except.mapError_map]
  | convert e =>
      have ih := chain_respell e h
      rw [respell, chain]
      obtain hc | hc := h.convert
      · rwa [hc]
      · rwa [hc, chain]
  | captured name value =>
      rw [chain_literal (respell_captured h name value), chain_literal (.captured name)]
      rfl
  | static _ | constant _ | binary .. | not _ | call .. | apply .. => rfl

theorem propertyPath_respell (e : Expr) (h : f.Keeps root e.parameters) :
    propertyPath (f.parameter root) (e.respell f) =
      (propertyPath root e).mapError (Blame.respell f) := by
  rw [propertyPath, propertyPath, chain_respell e h, Except.mapError_map]

theorem scalar_respell (f : Respelling) (e : Expr) (value : Value) :
    scalar (e.respell f) value = (scalar e value).mapError (Blame.respell f) := by
  unfold scalar
  cases value.wire? <;> rfl

theorem mapM_scalar_respell (f : Respelling) (e : Expr) (items : List Value) :
    items.mapM (scalar (e.respell f)) =
      (items.mapM (scalar e)).mapError (Blame.respell f) := by
  induction items with
  | nil => rfl
  | cons item items ih =>
      simp only [List.mapM_cons, scalar_respell, ih, Except.mapError_bind]
      rfl

theorem valueText_respell (e : Expr) (h : f.Keeps root e.parameters) :
    valueText (e.respell f) = (valueText e).mapError (Blame.respell f) := by
  match e with
  | convert e =>
      have ih := valueText_respell e h
      rw [respell, valueText]
      obtain hc | hc := h.convert
      · rwa [hc]
      · rwa [hc, valueText]
  | constant value => exact scalar_respell f (constant value) value
  | captured name value =>
      rw [valueText_literal (respell_captured h name value), valueText_literal (.captured name),
        scalar_respell]
  | parameter _ | member .. | static _ | binary .. | not _ | call .. | apply .. => rfl

theorem collectionTexts_respell (e : Expr) (h : f.Keeps root e.parameters) :
    collectionTexts (e.respell f) = (collectionTexts e).mapError (Blame.respell f) := by
  match e with
  | convert e =>
      have ih := collectionTexts_respell e h
      rw [respell, collectionTexts]
      obtain hc | hc := h.convert
      · rwa [hc]
      · rwa [hc, collectionTexts]
  | constant value =>
      cases value with
      | list items => exact mapM_scalar_respell f (constant (.list items)) items
      | _ => rfl
  | captured name value =>
      rw [collectionTexts_literal (respell_captured h name value),
        collectionTexts_literal (.captured name)]
      cases value with
      | list items => exact mapM_scalar_respell f (captured name (.list items)) items
      | _ => rfl
  | parameter _ | member .. | static _ | binary .. | not _ | call .. | apply .. => rfl

theorem predicate_call {target : Expr} {method : String} {args : List Expr}
    (h : ¬ (isContains method ∧ args.length = 1)) :
    predicate root (call target method args) =
      .error ⟨call target method args,
        if isContains method then .notOneArgument else .notPredicate⟩ := by
  unfold predicate
  by_cases hmethod : isContains method
  · rw [if_pos hmethod, if_pos hmethod]
    split
    · exact absurd ⟨hmethod, rfl⟩ h
    · rfl
  · rw [if_neg hmethod, if_neg hmethod]

theorem length_respellAll (f : Respelling) (args : List Expr) :
    (respellAll f args).length = args.length := by
  induction args with
  | nil => rfl
  | cons arg args ih => rw [respellAll, List.length_cons, ih, List.length_cons]

theorem mapError_respell {α : Type} (f : Respelling) (e : Expr) (reason : Reason) :
    (Except.error ⟨e, reason⟩ : Except Blame α).mapError (Blame.respell f) =
      .error ⟨e.respell f, reason.respell f⟩ := rfl

/-- A condition is compiled alike, or refused for what is written in the place of what was blamed.
A conversion can only be left out where no condition is converted. -/
theorem predicate_respell (e : Expr) (h : f.Keeps root e.parameters)
    (hconvert : f.convert = .convert ∨ e.IsCondition root) :
    predicate (f.parameter root) (e.respell f) =
      (predicate root e).mapError (Blame.respell f) := by
  match e with
  | binary (.logical op) left right =>
      have hleft : f.convert = .convert ∨ left.IsCondition root := by
        refine hconvert.imp_right fun hcondition => ?_
        cases hcondition with
        | logical _ hleft _ => exact hleft
      have hright : f.convert = .convert ∨ right.IsCondition root := by
        refine hconvert.imp_right fun hcondition => ?_
        cases hcondition with
        | logical _ _ hright => exact hright
      rw [respell, predicate, predicate,
        predicate_respell left (h.mono fun _ => List.mem_append_left _) hleft,
        predicate_respell right (h.mono fun _ => List.mem_append_right _) hright]
      simp only [Except.mapError_bind]
      rfl
  | binary (.compare op) left right =>
      rw [respell, predicate, predicate,
        propertyPath_respell left (h.mono fun _ => List.mem_append_left _),
        valueText_respell right (h.mono fun _ => List.mem_append_right _)]
      simp only [Except.mapError_bind]
      rfl
  | not e =>
      have hinner : f.convert = .convert ∨ e.IsCondition root := by
        refine hconvert.imp_right fun hcondition => ?_
        cases hcondition with
        | not hinner => exact hinner
      rw [respell, predicate, predicate, predicate_respell e h hinner, Except.mapError_map]
  | convert e =>
      obtain hc | hcondition := hconvert
      · have himage : (convert e).respell f = convert (e.respell f) := by rw [respell, hc]
        rw [himage]
        exact congrArg (fun e => Except.error (Blame.mk e .notPredicate)) himage.symm
      · cases hcondition
  | call target method args =>
      by_cases hcontains : isContains method ∧ args.length = 1
      · obtain ⟨hmethod, hone⟩ := hcontains
        obtain ⟨item, rfl⟩ := List.length_eq_one_iff.1 hone
        have hitem : f.Keeps root item.parameters :=
          h.mono fun _ hname => by simp [parameters, parametersAll, hname]
        rw [respell, respellAll, respellAll, predicate, predicate, if_pos hmethod, if_pos hmethod,
          propertyPath_respell item hitem,
          collectionTexts_respell target (h.mono fun _ => List.mem_append_left _)]
        simp only [Except.mapError_bind]
        rfl
      · rw [predicate_call hcontains, respell,
          predicate_call (by rwa [length_respellAll]), mapError_respell, respell]
        split <;> rfl
  | captured name value =>
      rw [predicate_literal (respell_captured h name value), predicate_literal (.captured name)]
      rfl
  | apply method args =>
      rw [respell, predicate, predicate, mapError_respell, respell]
      split <;> rfl
  | parameter _ | member .. | static _ | constant _ | binary (.arithmetic _) .. => rfl

end Compiled

end Expr

namespace Lambda

open Catalogue.Expr

def unconverted (l : Lambda) : Lambda := ⟨l.parameter, l.body.respell .unconverted⟩

def uncaptured (l : Lambda) : Lambda := ⟨l.parameter, l.body.respell .uncaptured⟩

def rename (l : Lambda) (name : String) : Lambda :=
  ⟨name, l.body.respell (.renamed l.parameter name)⟩

/-- The results are the same, or they are refusals for the same reason, the second one of what is
written in the place of what the first one refuses. -/
inductive Matches {α : Type} (f : Respelling) : Except Error α → Except Error α → Prop
  | ok (a : α) : Matches f (.ok a) (.ok a)
  | error (b : Blame) : Matches f (.error b.toError) (.error (b.respell f).toError)

section Matching

variable {α : Type} {f : Respelling} {l : Lambda}

theorem matches_mapError (f : Respelling) (x : Except Blame α) :
    Matches f (x.mapError Blame.toError)
      ((x.mapError (Blame.respell f)).mapError Blame.toError) := by
  cases x with
  | error b => exact .error b
  | ok a => exact .ok a

theorem Matches.eq_ok {a : α} {result : Except Error α} (h : Matches f (.ok a) result) :
    result = .ok a := by
  cases h
  rfl

theorem matches_propertyPath (h : f.Keeps l.parameter l.body.parameters) :
    Matches f l.propertyPath
      (Lambda.mk (f.parameter l.parameter) (l.body.respell f)).propertyPath := by
  rw [propertyPath, propertyPath, propertyPath_respell l.body h]
  exact matches_mapError f _

theorem matches_predicate (h : f.Keeps l.parameter l.body.parameters)
    (hconvert : f.convert = .convert ∨ l.body.IsCondition l.parameter) :
    Matches f l.predicate (Lambda.mk (f.parameter l.parameter) (l.body.respell f)).predicate := by
  rw [predicate, predicate, predicate_respell l.body h hconvert]
  exact matches_mapError f _

end Matching

/-- Conversions, variables from outside and the name of the subject make no difference to what a
lambda is compiled to. Only in the place of a condition a conversion is refused. -/
theorem spelling_ignored (l : Lambda) :
    (∀ p, l.predicate = .ok p → l.unconverted.predicate = .ok p) ∧
    Matches .unconverted l.propertyPath l.unconverted.propertyPath ∧
    Matches .uncaptured l.predicate l.uncaptured.predicate ∧
    Matches .uncaptured l.propertyPath l.uncaptured.propertyPath ∧
    ∀ name, name ∉ l.body.parameters →
      Matches (.renamed l.parameter name) l.predicate (l.rename name).predicate ∧
      Matches (.renamed l.parameter name) l.propertyPath (l.rename name).propertyPath := by
  have hconversions := Respelling.keeps_unconverted l.parameter l.body.parameters
  have hcaptures := Respelling.keeps_uncaptured l.parameter l.body.parameters
  refine ⟨?_, matches_propertyPath hconversions, matches_predicate hcaptures (.inl rfl),
    matches_propertyPath hcaptures, ?_⟩
  · intro p hp
    have hcondition := exists_predicate.1 ⟨p, Except.mapError_eq_ok.1 hp⟩
    have hmatches := matches_predicate hconversions (.inr hcondition)
    rw [hp] at hmatches
    exact hmatches.eq_ok
  · intro name hname
    have hrenamed : (Respelling.renamed l.parameter name).Keeps l.parameter l.body.parameters :=
      Respelling.keeps_renamed hname
    have hsubject : (Respelling.renamed l.parameter name).parameter l.parameter = name :=
      if_pos rfl
    have hpredicate := matches_predicate hrenamed (.inl rfl)
    have hpath := matches_propertyPath hrenamed
    rw [hsubject] at hpredicate hpath
    exact ⟨hpredicate, hpath⟩

example : (Lambda.mk "i" (.convert (.compare .eq (.parameter "i") (.int 1)))).predicate =
    .error (.invalidExpression "Convert((i == 1))" "could not extract a predicate") := rfl

def lowOfOtherTypes : Lambda where
  parameter := "i"
  body := .and
    (.binary (.compare .lt) (.convert ((Expr.parameter "i").path ["Level"]))
      (.convert (.captured "bound" (.int 60))))
    (.not (.contains (.convert (.captured "types" (.list [.int 1, .int 16])))
      ((Expr.convert (.parameter "i")).path ["TypeId"])))

def lowOfOtherTypesPredicate : Predicate :=
  .join .and [.compare .lt "level" "60", .among .notIn "typeId" ["1", "16"]]

theorem predicate_lowOfOtherTypes : lowOfOtherTypes.predicate = .ok lowOfOtherTypesPredicate := by
  have hlisted : Expr.predicate "i" (.contains
      (.convert (.captured "types" (.list [.int 1, .int 16])))
      ((Expr.convert (.parameter "i")).path ["TypeId"])) =
        .ok (.among .isIn "typeId" ["1", "16"]) := predicate_contains rfl rfl
  have hbody : Expr.predicate "i" lowOfOtherTypes.body = .ok lowOfOtherTypesPredicate := by
    rw [lowOfOtherTypes, Expr.and, Expr.predicate, Expr.predicate, Expr.predicate, hlisted]
    rfl
  exact Except.mapError_eq_ok.2 hbody

/-- What is left without conversions, with the bound and the types written down, and with another
name for the subject is the same filter. -/
theorem lowOfOtherTypes_alike :
    lowOfOtherTypes.predicate = .ok lowOfOtherTypesPredicate ∧
      lowOfOtherTypes.unconverted.predicate = .ok lowOfOtherTypesPredicate ∧
      lowOfOtherTypes.uncaptured.predicate = .ok lowOfOtherTypesPredicate ∧
      "bound" ∉ lowOfOtherTypes.body.parameters ∧
      (lowOfOtherTypes.rename "bound").predicate = .ok lowOfOtherTypesPredicate := by
  have hpredicate := predicate_lowOfOtherTypes
  have hfresh : "bound" ∉ lowOfOtherTypes.body.parameters := by decide
  obtain ⟨hconversions, -, hcaptures, -, hrenamed⟩ := spelling_ignored lowOfOtherTypes
  have hname := (hrenamed "bound" hfresh).1
  rw [hpredicate] at hcaptures hname
  exact ⟨hpredicate, hconversions _ hpredicate, hcaptures.eq_ok, hfresh, hname.eq_ok⟩

end Lambda

end Catalogue
