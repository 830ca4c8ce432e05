import Catalogue.Proofs.PredicateMeaning
import Catalogue.Proofs.QueryDecoding

namespace Catalogue

namespace Predicate

variable {p q whole x : Predicate} {r : Record}

/-- `whole` is written as `p` and `q` are one behind the other. -/
inductive Fuses : Predicate → Predicate → Predicate → Prop
  | among (op : Membership) (field : String) (values others : List String) :
      Fuses (.among op field values) (.among op field others) (.among op field (values ++ others))
  | join (op : Connective) {p q whole : Predicate} (rest : List Predicate) :
      Fuses p q whole → Fuses (.join op [p]) (.join op (q :: rest)) (.join op (whole :: rest))

/-- `q` goes on with a set of `p` that means something else as one set: its values are to be chosen
from, or there are alternatives beside it. -/
inductive Blurs : Predicate → Predicate → Prop
  | isIn (field : String) (values others : List String) :
      Blurs (.among .isIn field values) (.among .isIn field others)
  | or {p q : Predicate} {rest : List Predicate} :
      p.Continues q → rest ≠ [] → Blurs (.join .or [p]) (.join .or (q :: rest))
  | join (op : Connective) {p q : Predicate} (rest : List Predicate) :
      Blurs p q → Blurs (.join op [p]) (.join op (q :: rest))

theorem Continues.exists_fuses (h : p.Continues q) : ∃ whole, Fuses p q whole := by
  induction h with
  | among op field values others => exact ⟨_, .among op field values others⟩
  | join op rest _ ih =>
      obtain ⟨whole, hwhole⟩ := ih
      exact ⟨_, .join op rest hwhole⟩

namespace Fuses

theorem continues (h : Fuses p q whole) : p.Continues q := by
  induction h with
  | among op field values others => exact .among op field values others
  | join op rest _ ih => exact .join op rest ih

theorem rowsWith_eq (h : Fuses p q whole) (tokens : String → List String) :
    whole.rowsWith tokens = p.rowsWith tokens ++ q.rowsWith tokens := by
  induction h generalizing tokens with
  | among op field values others => simp [rowsWith]
  | join op rest _ ih => simp [rowsWith, childRows, ih]

theorem legible (h : Fuses p q whole) (hp : p.Legible) (hq : q.Legible) : whole.Legible := by
  induction h with
  | among op field values others =>
      cases hp with | among hfield hne =>
      exact .among hfield (List.append_ne_nil_of_left_ne_nil hne others)
  | join op rest _ ih =>
      cases hp with | join _ hp =>
      cases hq with | join _ hq =>
      rw [List.forall_mem_cons] at hp hq
      exact .join (by simp) (List.forall_mem_cons.2 ⟨ih hp.1 hq.1, hq.2⟩)

theorem holds_iff (h : Fuses p q whole) (hclear : ¬ p.Blurs q) :
    whole.Holds r ↔ p.Holds r ∧ q.Holds r := by
  induction h with
  | among op field values others =>
      cases op with
      | isIn => exact absurd (.isIn field values others) hclear
      | notIn => simp [Record.Belongs, or_imp, forall_and]
  | join op rest hfuses ih =>
      have hwhole := ih fun hblurs => hclear (.join op rest hblurs)
      cases op with
      | and => simp [hwhole, and_assoc]
      | or =>
          have hrest : rest = [] := by
            by_contra hne
            exact hclear (.or hfuses.continues hne)
          simp [hrest, hwhole]

theorem continues_right (h : Fuses p q whole) (hx : whole.Continues x) : q.Continues x := by
  induction h generalizing x with
  | among op field values others =>
      cases hx with | among _ _ _ more =>
      exact .among op field others more
  | join op rest _ ih =>
      cases hx with | join _ more hx =>
      exact .join op more (ih hx)

theorem blurs_left (h : Fuses p q whole) (hclear : ¬ p.Blurs q) (hx : x.Blurs whole) :
    x.Blurs p := by
  induction h generalizing x with
  | among op field values others =>
      cases hx with | isIn _ before =>
      exact .isIn field before values
  | join op rest hfuses ih =>
      cases hx with
      | or _ hne => exact absurd (.or hfuses.continues hne) hclear
      | join _ _ hx => exact .join op [] (ih (fun hblurs => hclear (.join op rest hblurs)) hx)

end Fuses

/-- `qs` is written and to be met like `ps`, and none of it goes on with the set of the one before. -/
structure Condenses (ps qs : List Predicate) : Prop where
  legible : ∀ q ∈ qs, q.Legible
  apart : qs.IsChain fun p q => ¬ p.Continues q
  rows_eq : qs.flatMap rows = ps.flatMap rows
  holds_iff : ∀ r, (∀ q ∈ qs, q.Holds r) ↔ ∀ p ∈ ps, p.Holds r

namespace Condenses

variable {ps qs : List Predicate}

theorem cons (h : Condenses ps qs) (hp : p.Legible) (hclear : ∀ q ∈ qs.head?, ¬ p.Continues q) :
    Condenses (p :: ps) (p :: qs) where
  legible := List.forall_mem_cons.2 ⟨hp, h.legible⟩
  apart := List.isChain_cons.2 ⟨hclear, h.apart⟩
  rows_eq := by rw [List.flatMap_cons, List.flatMap_cons, h.rows_eq]
  holds_iff r := by rw [List.forall_mem_cons, List.forall_mem_cons, h.holds_iff r]

theorem fuse (h : Condenses ps (q :: qs)) (hp : p.Legible) (hfuses : Fuses p q whole)
    (hclear : ¬ p.Blurs q) : Condenses (p :: ps) (whole :: qs) where
  legible := by
    have hlegible := List.forall_mem_cons.1 h.legible
    exact List.forall_mem_cons.2 ⟨hfuses.legible hp hlegible.1, hlegible.2⟩
  apart := by
    have hchain := List.isChain_cons.1 h.apart
    apply List.isChain_cons.2
    exact ⟨fun x hx hmore => hchain.1 x hx (hfuses.continues_right hmore), hchain.2⟩
  rows_eq := by
    rw [List.flatMap_cons, List.flatMap_cons, ← h.rows_eq, List.flatMap_cons, ← List.append_assoc]
    exact congrArg (· ++ _) (hfuses.rowsWith_eq _)
  holds_iff r := by
    rw [List.forall_mem_cons, List.forall_mem_cons, ← h.holds_iff r, List.forall_mem_cons,
      hfuses.holds_iff hclear, and_assoc]

end Condenses

/-- The induction goes from the last filter to the first. A filter in front blurs with the first of
the condensed ones only if it did so before. -/
theorem exists_condenses {ps : List Predicate} (hps : ∀ p ∈ ps, p.Legible)
    (hapart : ps.IsChain fun p q => ¬ p.Blurs q) :
    ∃ qs, Condenses ps qs ∧
      ∀ x : Predicate, (∃ q ∈ qs.head?, x.Blurs q) → ∃ p ∈ ps.head?, x.Blurs p := by
  induction ps with
  | nil => exact ⟨[], ⟨by simp, .nil, rfl, by simp⟩, fun _ h => h⟩
  | cons p ps ih =>
      rw [List.forall_mem_cons] at hps
      rw [List.isChain_cons] at hapart
      obtain ⟨qs, hqs, hhead⟩ := ih hps.2 hapart.2
      have hclear : ¬ ∃ q ∈ qs.head?, p.Blurs q := by
        intro hblurs
        obtain ⟨next, hnext, hblurs⟩ := hhead p hblurs
        exact hapart.1 next hnext hblurs
      by_cases hcontinues : ∃ q ∈ qs.head?, p.Continues q
      · obtain ⟨q, hq, hcontinues⟩ := hcontinues
        obtain ⟨whole, hwhole⟩ := hcontinues.exists_fuses
        have hpq : ¬ p.Blurs q := fun hblurs => hclear ⟨q, hq, hblurs⟩
        obtain ⟨qs, rfl⟩ := List.head?_eq_some_iff.1 hq
        refine ⟨whole :: qs, hqs.fuse hps.1 hwhole hpq, ?_⟩
        rintro x ⟨_, ⟨⟩, hx⟩
        exact ⟨p, rfl, hwhole.blurs_left hpq hx⟩
      · refine ⟨p :: qs, hqs.cons hps.1 fun q hq hmore => hcontinues ⟨q, hq, hmore⟩, ?_⟩
        exact fun _ h => h

theorem holds_iff_of_flatMap_rows {ps qs : List Predicate} (hps : ∀ p ∈ ps, p.Legible)
    (hqs : ∀ q ∈ qs, q.Legible) (hapart : ps.IsChain fun p q => ¬ p.Blurs q)
    (hapart' : qs.IsChain fun p q => ¬ p.Blurs q) (h : ps.flatMap rows = qs.flatMap rows) :
    (∀ p ∈ ps, p.Holds r) ↔ ∀ q ∈ qs, q.Holds r := by
  obtain ⟨ps', hps', _⟩ := exists_condenses hps hapart
  obtain ⟨qs', hqs', _⟩ := exists_condenses hqs hapart'
  have hrows : ps'.flatMap rows = qs'.flatMap rows := by
    rw [hps'.rows_eq, hqs'.rows_eq, h]
  have heq := flatMap_rows_inj_of_not_continues hps'.legible hqs'.legible hps'.apart hqs'.apart
    hrows
  rw [← hps'.holds_iff r, ← hqs'.holds_iff r, heq]

end Predicate

namespace Query

def Admits (q : Query) (r : Record) : Prop := ∀ p ∈ q.predicates, p.Holds r

theorem text_eq_of_fuses {p p' whole : Predicate} (h : Predicate.Fuses p p' whole) (q : Query)
    (before after : List Predicate) :
    { q with predicates := before ++ p :: p' :: after : Query }.text =
      { q with predicates := before ++ whole :: after : Query }.text := by
  have hrows : whole.rows = p.rows ++ p'.rows := h.rowsWith_eq _
  rw [text_eq, text_eq]
  simp only [rows, List.flatMap_append, List.flatMap_cons, hrows, List.append_assoc]

/-- Queries with the same text ask for the same records, where no filter goes on with a set of the
one before that would mean something else as one set. -/
theorem text_determines_records {q q' : Query} (h : q.Readable) (h' : q'.Readable)
    (hapart : q.predicates.IsChain fun p q => ¬ p.Blurs q)
    (hapart' : q'.predicates.IsChain fun p q => ¬ p.Blurs q) (htext : q.text = q'.text)
    (r : Record) : q.Admits r ↔ q'.Admits r := by
  rw [text_eq, text_eq] at htext
  have hrows := Row.join_inj h.row_legible h'.row_legible htext
  obtain ⟨_, _, _, _, hpredicates⟩ := h.parts_eq h' hrows
  exact Predicate.holds_iff_of_flatMap_rows h.predicates h'.predicates hapart hapart' hpredicates

def othersThan (types : List String) : Predicate := .among .notIn "typeId" types

def lowOthers : Query where
  predicates := [.join .and [othersThan ["1"]],
    .join .and [othersThan ["16"], .compare .lt "level" "50"]]

def lowOthersAtOnce : Query where
  predicates := [.join .and [othersThan ["1", "16"], .compare .lt "level" "50"]]

theorem othersThan_legible {types : List String} (h : types ≠ []) : (othersThan types).Legible :=
  .among (by decide) h

theorem lowOthers_readable : lowOthers.Readable where
  sort := by simp [lowOthers]
  predicates := by
    rw [lowOthers, List.forall_mem_cons, List.forall_mem_singleton]
    constructor
    · apply Predicate.Legible.join (by simp)
      rw [List.forall_mem_singleton]
      exact othersThan_legible (by simp)
    · apply Predicate.Legible.join (by simp)
      rw [List.forall_mem_cons, List.forall_mem_singleton]
      exact ⟨othersThan_legible (by simp), .compare _ (by decide)⟩

theorem lowOthersAtOnce_readable : lowOthersAtOnce.Readable where
  sort := by simp [lowOthersAtOnce]
  predicates := by
    rw [lowOthersAtOnce, List.forall_mem_singleton]
    apply Predicate.Legible.join (by simp)
    rw [List.forall_mem_cons, List.forall_mem_singleton]
    exact ⟨othersThan_legible (by simp), .compare _ (by decide)⟩

/-- Sets of types to leave out are put together without harm, also inside conjunctions. -/
theorem lowOthers_admits_iff :
    let ring := Record.ofText fun field => if field = "typeId" then "9" else "12"
    lowOthers.Readable ∧ lowOthersAtOnce.Readable ∧ lowOthers.text = lowOthersAtOnce.text ∧
      (lowOthers.Admits ring ↔ lowOthersAtOnce.Admits ring) := by
  have htext : lowOthers.text = lowOthersAtOnce.text :=
    text_eq_of_fuses (.join .and _ (.among .notIn "typeId" ["1"] ["16"])) {} [] []
  have hapart : lowOthers.predicates.IsChain fun p q => ¬ p.Blurs q := by
    apply List.IsChain.cons_cons
    · intro hblurs
      cases hblurs with | join _ _ hblurs =>
      cases hblurs
    · exact .singleton _
  refine ⟨lowOthers_readable, lowOthersAtOnce_readable, htext, ?_⟩
  exact text_determines_records lowOthers_readable lowOthersAtOnce_readable hapart (.singleton _)
    htext _

/-- Two sets to choose a type from are sent as one, and a record of the first type that the two
leave out is then asked for. -/
theorem types_apart_sent_as_one :
    let apart : Query := { predicates := [.among .isIn "typeId" ["1"], .among .isIn "typeId" ["16"]] }
    let together : Query := { predicates := [.among .isIn "typeId" ["1", "16"]] }
    let amulet := Record.ofText fun _ => "1"
    apart.Readable ∧ together.Readable ∧ apart.text = together.text ∧ together.Admits amulet ∧
      ¬ apart.Admits amulet := by
  have hset {types : List String} (h : types ≠ []) :
      (Predicate.among .isIn "typeId" types).Legible := .among (by decide) h
  refine ⟨⟨by simp, ?_⟩, ⟨by simp, ?_⟩, ?_, ?_, ?_⟩
  · rw [List.forall_mem_cons, List.forall_mem_singleton]
    exact ⟨hset (by simp), hset (by simp)⟩
  · rw [List.forall_mem_singleton]
    exact hset (by simp)
  · exact text_eq_of_fuses (.among .isIn "typeId" ["1"] ["16"]) {} [] []
  · simp [Admits, Record.Belongs, Record.ofText]
  · simp [Admits, Record.Belongs, Record.ofText]

end Query

end Catalogue
