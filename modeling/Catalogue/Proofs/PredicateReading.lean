import Catalogue.Proofs.QueryReading

namespace Catalogue

theorem toString_nat_inj {m n : Nat} (h : toString m = toString n) : m = n := by
  have hdigits : Nat.toDigits 10 m = Nat.toDigits 10 n := by
    simpa using congrArg String.toList h
  have hnumbers := congrArg (Nat.ofDigitChars 10 · 0) hdigits
  rwa [Nat.ofDigitChars_ten_toDigits, Nat.ofDigitChars_ten_toDigits] at hnumbers

theorem append_inj_of_forall {α : Type} {p : α → Bool} {xs ys xs' ys' : List α}
    (hxs : ∀ x ∈ xs, p x) (hys : ∀ y ∈ ys, ¬ p y) (hxs' : ∀ x ∈ xs', p x) (hys' : ∀ y ∈ ys', ¬ p y)
    (h : xs ++ ys = xs' ++ ys') : xs = xs' ∧ ys = ys' := by
  have hfilter := congrArg (List.filter p) h
  rw [List.filter_append, List.filter_append, List.filter_eq_self.2 hxs,
    List.filter_eq_nil_iff.2 hys, List.filter_eq_self.2 hxs', List.filter_eq_nil_iff.2 hys',
    List.append_nil, List.append_nil] at hfilter
  subst hfilter
  exact ⟨rfl, List.append_cancel_left h⟩

namespace Row

def connective? (row : Row) : Option Connective :=
  match row.tokens.head? with
  | some "$and" => some .and
  | some "$or" => some .or
  | _ => none

def position? (row : Row) : Option String := row.tokens[1]?

theorem connective?_under (op : Connective) (i : Nat) (row : Row) :
    (under op.operator i row).connective? = some op := by
  cases op with
  | and => rfl
  | or => rfl

theorem connective?_eq_none {row : Row} {first : String} {rest : List String}
    (h : row.tokens = first :: rest) (hfirst : first.toList.head? ≠ some '$') :
    row.connective? = none := by
  unfold connective?
  rw [h, List.head?_cons]
  split
  · rename_i heq
    cases heq
    exact absurd rfl hfirst
  · rename_i heq
    cases heq
    exact absurd rfl hfirst
  · rfl

theorem position?_under (operator : String) (i : Nat) (row : Row) :
    (under operator i row).position? = some (toString i) := rfl

theorem under_injective {operator : String} {i : Nat} {row other : Row}
    (h : under operator i row = under operator i other) : row = other := by
  simp only [under, behind, Row.mk.injEq, List.append_cancel_left_eq] at h
  exact Row.ext h.1 h.2

end Row

theorem Comparison.operator_inj {op other : Comparison} (h : op.operator = other.operator) :
    op = other := by
  cases op <;> cases other <;> first | rfl | exact absurd h (by decide)

theorem Membership.operator_inj {op other : Membership} (h : op.operator = other.operator) :
    op = other := by
  cases op <;> cases other <;> first | rfl | exact absurd h (by decide)

structure Spelling (tokens : String → List String) : Prop where
  inj : ∀ {field other}, Path.Plain field → Path.Plain other → tokens field = tokens other →
    field = other
  head : ∀ {field}, Path.Plain field → ∃ first rest, tokens field = first :: rest ∧
    first.toList.head? ≠ some '$'
  clear : ∀ {field}, Path.Plain field → ∀ token ∈ tokens field, Path.Clear token

theorem spelling_path : Spelling fun field => [Path.camelPath field] where
  inj h h' heq := by
    rw [← h.fixed, ← h'.fixed]
    exact (List.cons.inj heq).1
  head {field} h := ⟨Path.camelPath field, [], rfl, h.fixed.symm ▸ h.head?_ne⟩
  clear h token htoken := by
    rw [List.mem_singleton.1 htoken, h.fixed]
    exact h.clear_path

theorem spelling_segments : Spelling Path.camelSegments where
  inj h h' heq := h.camelSegments_inj h' heq
  head {field} h := by
    obtain ⟨first, rest, hsegments⟩ := List.exists_cons_of_ne_nil (Path.camelSegments_ne_nil field)
    have hmem : first ∈ Path.segments field := by
      rw [← Path.camelSegments_eq h.fixed, hsegments]
      exact List.mem_cons_self
    exact ⟨first, rest, hsegments, h.unmarked first hmem⟩
  clear h token htoken := h.clear token (Path.camelSegments_eq h.fixed ▸ htoken)

namespace Predicate

/-- Every field can be read back, and every set and list of children has a row. -/
inductive Legible : Predicate → Prop
  | compare {op : Comparison} {field : String} (value : String) :
      Path.Plain field → Legible (.compare op field value)
  | among {op : Membership} {field : String} {values : List String} :
      Path.Plain field → values ≠ [] → Legible (.among op field values)
  | join {op : Connective} {children : List Predicate} :
      children ≠ [] → (∀ child ∈ children, Legible child) → Legible (.join op children)

def connective? : Predicate → Option Connective
  | join op _ => some op
  | _ => none

section Children

variable {operator : String} {i : Nat} {children others : List Predicate}

theorem eq_under_of_mem_childRows {row : Row} (h : row ∈ childRows operator i children) :
    ∃ j ≥ i, ∃ child ∈ children, ∃ nested ∈ child.nestedRows, row = nested.under operator j := by
  induction children generalizing i with
  | nil => cases h
  | cons child children ih =>
      obtain hrow | hrow := List.mem_append.1 h
      · obtain ⟨nested, hnested, rfl⟩ := List.mem_map.1 hrow
        exact ⟨i, Nat.le_refl i, child, List.mem_cons_self, nested, hnested, rfl⟩
      · obtain ⟨j, hj, other, hother, nested, hnested, rfl⟩ := ih hrow
        exact ⟨j, Nat.le_of_succ_le hj, other, List.mem_cons_of_mem child hother, nested, hnested,
          rfl⟩

theorem position?_later {row : Row} (h : row ∈ childRows operator (i + 1) children) :
    row.position? ≠ some (toString i) := by
  obtain ⟨j, hj, _, _, nested, _, rfl⟩ := eq_under_of_mem_childRows h
  rw [Row.position?_under]
  intro heq
  have hji : j = i := toString_nat_inj (Option.some.inj heq)
  omega

theorem position?_first {rows : List Row} {row : Row} (h : row ∈ rows.map (Row.under operator i)) :
    row.position? = some (toString i) := by
  obtain ⟨nested, _, rfl⟩ := List.mem_map.1 h
  exact Row.position?_under operator i nested

theorem Legible.rowsWith_ne_nil {p : Predicate} (hp : p.Legible) (tokens : String → List String) :
    p.rowsWith tokens ≠ [] := by
  induction hp generalizing tokens with
  | compare value _ => simp [rowsWith]
  | among _ hne => simpa [rowsWith] using hne
  | join hne _ ih =>
      obtain ⟨child, hchild⟩ := List.exists_mem_of_ne_nil _ hne
      rw [rowsWith, ne_eq, childRows_eq_nil_iff]
      intro hnil
      exact ih child hchild _ (hnil child hchild)

theorem childRows_eq_nil (h : ∀ child ∈ children, child.Legible) :
    childRows operator i children = [] ↔ children = [] := by
  rw [childRows_eq_nil_iff, List.eq_nil_iff_forall_not_mem]
  exact forall₂_congr fun child hchild => iff_false_intro ((h child hchild).rowsWith_ne_nil _)

theorem childRows_inj
    (hinj : ∀ child ∈ children, ∀ other, other.Legible → child.nestedRows = other.nestedRows →
      child = other)
    (hchildren : ∀ child ∈ children, child.Legible) (hothers : ∀ other ∈ others, other.Legible)
    (h : childRows operator i children = childRows operator i others) : children = others := by
  induction children generalizing i others with
  | nil => exact ((childRows_eq_nil hothers).1 h.symm).symm
  | cons child children ih =>
      cases others with
      | nil => exact (childRows_eq_nil hchildren).1 h
      | cons other others =>
          rw [List.forall_mem_cons] at hinj hchildren hothers
          obtain ⟨hfirst, hlater⟩ := append_inj_of_forall
            (p := fun row => row.position? == some (toString i))
            (fun row hrow => by simpa using position?_first hrow)
            (fun row hrow => by simpa using position?_later hrow)
            (fun row hrow => by simpa using position?_first hrow)
            (fun row hrow => by simpa using position?_later hrow) h
          have hnested : child.nestedRows = other.nestedRows :=
            (List.map_inj_right fun _ _ => Row.under_injective).1 hfirst
          rw [hinj.1 other hothers.1 hnested, ih hinj.2 hchildren.2 hothers.2 hlater]

end Children

section Reading

variable {tokens : String → List String} {p q : Predicate}

theorem connective?_row (ht : Spelling tokens) (hp : p.Legible) {row : Row}
    (h : row ∈ p.rowsWith tokens) : row.connective? = p.connective? := by
  have leaf {field : String} {suffix : List String} {value : String} (hfield : Path.Plain field) :
      (Row.mk (tokens field ++ suffix) value).connective? = none := by
    obtain ⟨first, rest, hfirst, hhead⟩ := ht.head hfield
    have htokens : tokens field ++ suffix = first :: (rest ++ suffix) := by
      rw [hfirst]
      rfl
    exact Row.connective?_eq_none htokens hhead
  cases hp with
  | compare value hfield =>
      rw [List.mem_singleton.1 h]
      exact leaf hfield
  | among hfield _ =>
      obtain ⟨value, _, rfl⟩ := List.mem_map.1 h
      exact leaf hfield
  | join _ _ =>
      obtain ⟨j, _, _, _, nested, _, rfl⟩ := eq_under_of_mem_childRows h
      exact Row.connective?_under _ j nested

theorem connective?_eq (ht : Spelling tokens) (hp : p.Legible) (hq : q.Legible)
    (h : p.rowsWith tokens = q.rowsWith tokens) : p.connective? = q.connective? := by
  obtain ⟨row, rows, hrow⟩ := List.exists_cons_of_ne_nil (hp.rowsWith_ne_nil tokens)
  have hmem : row ∈ p.rowsWith tokens := by simp [hrow]
  rw [← connective?_row ht hp hmem, connective?_row ht hq (h ▸ hmem)]

theorem leaf_inj (ht : Spelling tokens) {field other : String} {suffix suffix' : List String}
    (hfield : Path.Plain field) (hother : Path.Plain other)
    (h : tokens field ++ suffix = tokens other ++ suffix')
    (hlength : suffix.length = suffix'.length) :
    field = other ∧ suffix = suffix' := by
  obtain ⟨htokens, hsuffix⟩ := List.append_inj' h hlength
  exact ⟨ht.inj hfield hother htokens, hsuffix⟩

/-- The key of a set ends with an empty token, which no operator is. -/
theorem compare_tokens_ne_among {op : Comparison} {op' : Membership} {front front' : List String} :
    front ++ [op.operator] ≠ front' ++ [op'.operator, ""] := by
  intro h
  have hlast := congrArg List.getLast? h
  have hempty : op.operator ≠ "" := by cases op <;> decide
  simp only [List.getLast?_append, List.getLast?_cons_cons, List.getLast?_singleton,
    Option.some_or, Option.some.injEq] at hlast
  exact hempty hlast

theorem rowsWith_compare_ne_among {op : Comparison} {op' : Membership} {field other value : String}
    {values : List String} :
    (compare op field value).rowsWith tokens ≠ (among op' other values).rowsWith tokens := by
  intro h
  have hmem : Row.mk (tokens field ++ [op.operator]) value ∈
      (among op' other values).rowsWith tokens := by
    rw [← h]
    exact List.mem_singleton_self _
  obtain ⟨value', _, hrow⟩ := List.mem_map.1 hmem
  exact compare_tokens_ne_among (Row.mk.inj hrow).1.symm

/-- The induction is on the first predicate; below a connective fields are written in segments, so
the way of writing them has to be free. -/
theorem Legible.rowsWith_inj (ht : Spelling tokens) (hp : p.Legible) (hq : q.Legible)
    (h : p.rowsWith tokens = q.rowsWith tokens) : p = q := by
  induction hp generalizing tokens q with
  | @compare op field value hfield =>
      have hconnective := connective?_eq ht (.compare value hfield) hq h
      cases hq with
      | compare value' hfield' =>
          obtain ⟨htokens, rfl⟩ := Row.mk.inj (List.cons.inj h).1
          obtain ⟨rfl, hop⟩ := leaf_inj ht hfield hfield' htokens rfl
          rw [Comparison.operator_inj (List.cons.inj hop).1]
      | among _ _ => exact absurd h rowsWith_compare_ne_among
      | join _ _ => cases hconnective
  | @among op field values hfield hne =>
      have hconnective := connective?_eq ht (.among hfield hne) hq h
      cases hq with
      | compare value _ => exact absurd h.symm rowsWith_compare_ne_among
      | among hfield' hne' =>
          obtain ⟨value, rest, rfl⟩ := List.exists_cons_of_ne_nil hne
          obtain ⟨value', rest', rfl⟩ := List.exists_cons_of_ne_nil hne'
          have htokens := (Row.mk.inj (List.cons.inj h).1).1
          obtain ⟨rfl, hop⟩ := leaf_inj ht hfield hfield' htokens rfl
          rw [Membership.operator_inj (List.cons.inj hop).1] at h ⊢
          rw [(List.map_inj_right fun _ _ heq => (Row.mk.inj heq).2).1 h]
      | join _ _ => cases hconnective
  | join hne hchildren ih =>
      have hconnective := connective?_eq ht (.join hne hchildren) hq h
      cases hq with
      | compare _ _ => cases hconnective
      | among _ _ => cases hconnective
      | join _ hothers =>
          cases hconnective
          have hinj : ∀ child ∈ _, ∀ other : Predicate, other.Legible →
              child.nestedRows = other.nestedRows → child = other :=
            fun child hchild _ hother => ih child hchild spelling_segments hother
          rw [childRows_inj hinj hchildren hothers h]

end Reading

/-- A set of `p` ends where `p` does, and `q` starts with a set of the same field and operator, each
below the same connectives in the first place. -/
inductive Continues : Predicate → Predicate → Prop
  | among (op : Membership) (field : String) (values others : List String) :
      Continues (.among op field values) (.among op field others)
  | join (op : Connective) {p q : Predicate} (rest : List Predicate) :
      Continues p q → Continues (.join op [p]) (.join op (q :: rest))

def Meets (tokens : String → List String) (p q : Predicate) : Prop :=
  ∃ last first, (p.rowsWith tokens).getLast? = some last ∧
    (q.rowsWith tokens).head? = some first ∧
    ∃ key, key ≠ [] ∧ last.tokens = key ++ [""] ∧ first.tokens = key ++ [""]

section Boundaries

variable {tokens : String → List String} {p q whole : Predicate} {more : List Row}

theorem eq_join_of_row (ht : Spelling tokens) (hp : p.Legible) {op : Connective} {row : Row}
    (hrow : row ∈ p.rowsWith tokens) (h : row.connective? = some op) :
    ∃ child rest, p = join op (child :: rest) ∧ child.Legible ∧ ∀ c ∈ rest, c.Legible := by
  rw [connective?_row ht hp hrow] at h
  cases hp with
  | compare _ _ => cases h
  | among _ _ => cases h
  | join hne hchildren =>
      cases h
      obtain ⟨child, rest, rfl⟩ := List.exists_cons_of_ne_nil hne
      rw [List.forall_mem_cons] at hchildren
      exact ⟨child, rest, rfl, hchildren⟩

theorem head?_childRows {operator : String} {i : Nat} {child : Predicate} {rest : List Predicate}
    {first : Row} (hchild : child.Legible)
    (h : (childRows operator i (child :: rest)).head? = some first) :
    ∃ nested, child.nestedRows.head? = some nested ∧ first = nested.under operator i := by
  obtain ⟨nested, _, hnested⟩ :=
    List.exists_cons_of_ne_nil (hchild.rowsWith_ne_nil Path.camelSegments)
  refine ⟨nested, by simp [nestedRows, hnested], ?_⟩
  simpa [childRows, hnested] using h.symm

theorem among_of_row (ht : Spelling tokens) (hp : p.Legible) {op : Membership} {field : String}
    (hfield : Path.Plain field) {row : Row} (hrow : row ∈ p.rowsWith tokens)
    (h : row.tokens = tokens field ++ [op.operator, ""]) : ∃ values, p = .among op field values := by
  have hconnective : p.connective? = none := by
    obtain ⟨first, rest, hfirst, hhead⟩ := ht.head hfield
    rw [← connective?_row ht hp hrow]
    exact Row.connective?_eq_none (h.trans (congrArg (· ++ _) hfirst)) hhead
  cases hp with
  | compare _ _ =>
      obtain rfl := List.mem_singleton.1 hrow
      exact absurd h compare_tokens_ne_among
  | @among _ _ values hfield' _ =>
      obtain ⟨value, _, rfl⟩ := List.mem_map.1 hrow
      obtain ⟨rfl, hop⟩ := leaf_inj ht hfield' hfield h rfl
      rw [Membership.operator_inj (List.cons.inj hop).1]
      exact ⟨values, rfl⟩
  | join _ _ => cases hconnective

theorem continues_of_among (ht : Spelling tokens) {op : Membership} {field : String}
    {values : List String} (hfield : Path.Plain field) (hp : p.Legible) (hq : q.Legible)
    {first : Row} (h : (among op field values).rowsWith tokens = p.rowsWith tokens ++ more)
    (hmore : more.head? = some first) (hfirst : (q.rowsWith tokens).head? = some first) :
    p.Continues q := by
  have halike {row : Row} (hrow : row ∈ p.rowsWith tokens ++ more) :
      row.tokens = tokens field ++ [op.operator, ""] := by
    rw [← h] at hrow
    obtain ⟨value, _, rfl⟩ := List.mem_map.1 hrow
    rfl
  obtain ⟨row, hrow⟩ := List.exists_mem_of_ne_nil _ (hp.rowsWith_ne_nil tokens)
  obtain ⟨values, rfl⟩ := among_of_row ht hp hfield hrow (halike (List.mem_append_left more hrow))
  obtain ⟨others, rfl⟩ := among_of_row ht hq hfield (List.mem_of_mem_head? hfirst)
    (halike (List.mem_append_right _ (List.mem_of_mem_head? hmore)))
  exact .among op field values others

theorem childRows_append {operator : String} {i : Nat} {child child' : Predicate}
    {rest rest' : List Predicate} {first : Row} (hrest : ∀ c ∈ rest, c.Legible)
    (h : childRows operator i (child' :: rest') = childRows operator i (child :: rest) ++ more)
    (hmore : more.head? = some (first.under operator i)) :
    rest = [] ∧ ∃ later, child'.nestedRows = child.nestedRows ++ later ∧
      later.head? = some first := by
  have hfirst := List.mem_of_mem_head? hmore
  have hposition := Row.position?_under operator i first
  obtain ⟨extra, _, hextra⟩ | ⟨extra, hextra, hlater⟩ := List.append_eq_append_iff.1 h
  · have hmem : first.under operator i ∈ childRows operator (i + 1) rest' := by
      simp [hextra, hfirst]
    exact absurd hposition (position?_later hmem)
  · have hnone : childRows operator (i + 1) rest = [] := by
      apply List.eq_nil_iff_forall_not_mem.2
      intro row hrow
      have hmem : row ∈ (child'.rowsWith Path.camelSegments).map (Row.under operator i) := by
        rw [hextra, childRows]
        simp [hrow]
      exact position?_later hrow (position?_first hmem)
    obtain rfl := (childRows_eq_nil hrest).1 hnone
    rw [childRows, childRows, List.append_nil] at hextra
    obtain ⟨before, later, hnested, hbefore, hextra⟩ := List.map_eq_append_iff.1 hextra
    have hsame := (List.map_inj_right fun _ _ => Row.under_injective).1 hbefore
    subst hsame
    refine ⟨rfl, later, hnested, ?_⟩
    cases later with
    | nil =>
        subst hextra
        change more = childRows operator (i + 1) rest' at hlater
        exact absurd hposition (position?_later (hlater ▸ hfirst))
    | cons row later =>
        subst hlater hextra
        exact congrArg some (Row.under_injective (Option.some.inj hmore))

/-- Rows that are those of one predicate and then go on with the first row of another one are the
rows of a predicate only where a set goes on. -/
theorem continues_of_rowsWith_append (ht : Spelling tokens) (hwhole : whole.Legible) (hp : p.Legible)
    (hq : q.Legible) {first : Row} (h : whole.rowsWith tokens = p.rowsWith tokens ++ more)
    (hmore : more.head? = some first) (hfirst : (q.rowsWith tokens).head? = some first) :
    p.Continues q := by
  induction hwhole generalizing tokens p q more first with
  | compare value hfield =>
      have hlength := congrArg List.length h
      have hpos := List.length_pos_iff.2 (hp.rowsWith_ne_nil tokens)
      have hpos' := List.length_pos_of_mem (List.mem_of_mem_head? hmore)
      simp only [rowsWith, List.length_singleton, List.length_append] at hlength
      omega
  | among hfield _ => exact continues_of_among ht hfield hp hq h hmore hfirst
  | @join op children hne hchildren ih =>
      -- Every row starts with the connective of the whole, so `p` and `q` have that connective too.
      have hconnective {row : Row} (hmem : row ∈ p.rowsWith tokens ++ more) :
          row.connective? = some op := connective?_row ht (.join hne hchildren) (h ▸ hmem)
      obtain ⟨row, hrow⟩ := List.exists_mem_of_ne_nil _ (hp.rowsWith_ne_nil tokens)
      obtain ⟨c, ps, rfl, hc, hps⟩ :=
        eq_join_of_row ht hp hrow (hconnective (List.mem_append_left more hrow))
      obtain ⟨d, qs, rfl, hd, _⟩ := eq_join_of_row ht hq (List.mem_of_mem_head? hfirst)
        (hconnective (List.mem_append_right _ (List.mem_of_mem_head? hmore)))
      obtain ⟨child, rest, rfl⟩ := List.exists_cons_of_ne_nil hne
      obtain ⟨nested, hnested, rfl⟩ := head?_childRows hd hfirst
      obtain ⟨rfl, later, happend, hlater⟩ := childRows_append hps h hmore
      exact .join op _ (ih child List.mem_cons_self spelling_segments hc hd happend hlater hnested)

theorem Continues.meets (h : p.Continues q) (hp : p.Legible) (hq : q.Legible) :
    Meets tokens p q := by
  induction h generalizing tokens with
  | among op field values others =>
      cases hp with | among _ hne =>
      cases hq with | among _ hne' =>
      obtain ⟨value, rest, rfl⟩ := List.exists_cons_of_ne_nil hne'
      refine ⟨_, _, List.getLast?_eq_some_getLast (by simpa [rowsWith] using hne), rfl,
        tokens field ++ [op.operator], by simp, ?_, by simp⟩
      simp [rowsWith]
  | @join op p q rest _ ih =>
      cases hp with | join _ hp =>
      cases hq with | join _ hq =>
      obtain ⟨last, first, hlast, hfirst, key, hne, hkey, hkey'⟩ :=
        @ih Path.camelSegments (hp p List.mem_cons_self) (hq q List.mem_cons_self)
      refine ⟨last.under op.operator 0, first.under op.operator 0, ?_, ?_,
        op.operator :: toString 0 :: key, by simp, by simp [hkey], by simp [hkey']⟩
      · simp [rowsWith, childRows, hlast]
      · simp [rowsWith, childRows, List.head?_append, hfirst]

end Boundaries

end Predicate

end Catalogue
