import Catalogue.Proofs.Preliminaries
import Catalogue.Proofs.RecordProjection

namespace Catalogue

namespace Json

theorem demand_eq_ok {condition : Bool} {u : Unit} : demand condition = .ok u ↔ condition := by
  cases condition <;> simp [demand]

/-! ## What is kept -/

/-- What a tree is kept as, if that many levels of nesting are allowed. -/
inductive Kept (depth : Nat) : Tree → Json → Prop
  | null : Kept depth .null .null
  | bool (b : Bool) : Kept depth (.bool b) (.bool b)
  | number (n : Number) : Kept depth (.number (some n)) (.number n)
  | text (s : String) : Kept depth (.text (some s)) (.text s)
  | array {inner : Nat} {items : List Tree} {js : List Json} (entered : enter depth = .ok inner)
      (kept : keepItems inner items = .ok js) : Kept depth (.array items true) (.array js)
  | object {inner : Nat} {members : List (Option String × Tree)} {js : List (String × Json)}
      (entered : enter depth = .ok inner) (kept : keepMembers inner members = .ok js) :
      Kept depth (.object members true) (.object js)

theorem keep_eq_ok {depth : Nat} {t : Tree} {j : Json} : keep depth t = .ok j ↔ Kept depth t j := by
  constructor
  · intro h
    cases t with
    | null => cases h; exact .null
    | bool b => cases h; exact .bool b
    | number value =>
        cases value with
        | none => cases h
        | some n => cases h; exact .number n
    | text value =>
        cases value with
        | none => cases h
        | some s => cases h; exact .text s
    | array items closed =>
        simp only [keep, Except.bind_eq_ok, demand_eq_ok] at h
        obtain ⟨inner, hinner, js, hjs, _, rfl, h⟩ := h
        cases h
        exact .array hinner hjs
    | object members closed =>
        simp only [keep, Except.bind_eq_ok, demand_eq_ok] at h
        obtain ⟨inner, hinner, js, hjs, _, rfl, h⟩ := h
        cases h
        exact .object hinner hjs
    | broken => cases h
  · intro h
    cases h with
    | null | bool | number | text => rfl
    | array entered kept =>
        rw [keep, entered]
        change (keepItems _ _ >>= _) = _
        rw [kept]
        rfl
    | object entered kept =>
        rw [keep, entered]
        change (keepMembers _ _ >>= _) = _
        rw [kept]
        rfl

theorem keepItems_cons {depth : Nat} {item : Tree} {items : List Tree} {js : List Json} :
    keepItems depth (item :: items) = .ok js ↔
      ∃ j rest, Kept depth item j ∧ keepItems depth items = .ok rest ∧ js = j :: rest := by
  simp only [keepItems, Except.bind_eq_ok, keep_eq_ok, pure, Except.pure, Except.ok.injEq]
  constructor
  · rintro ⟨j, hj, rest, hrest, rfl⟩
    exact ⟨j, rest, hj, hrest, rfl⟩
  · rintro ⟨j, rest, hj, hrest, rfl⟩
    exact ⟨j, hj, rest, hrest, rfl⟩

theorem keepMembers_cons {depth : Nat} {key : String} {t : Tree}
    {members : List (Option String × Tree)} {js : List (String × Json)} :
    keepMembers depth ((some key, t) :: members) = .ok js ↔
      ∃ j rest, Kept depth t j ∧ keepMembers depth members = .ok rest ∧ js = (key, j) :: rest := by
  simp only [keepMembers, keepMember, Except.bind_eq_ok, keep_eq_ok, pure, Except.pure,
    Except.ok.injEq]
  constructor
  · rintro ⟨_, ⟨j, hj, rfl⟩, rest, hrest, rfl⟩
    exact ⟨j, rest, hj, hrest, rfl⟩
  · rintro ⟨j, rest, hj, hrest, rfl⟩
    exact ⟨_, ⟨j, hj, rfl⟩, rest, hrest, rfl⟩

namespace Codec

variable {α : Type}

/-- Reading one of these trees comes to the same as reading what it is kept as. -/
def Agrees (c : Codec α) (known : Tree → Prop) : Prop :=
  ∀ depth t a, known t → (c.read depth t = .ok a ↔ ∃ j, Kept depth t j ∧ c.ofJson j = some a)

theorem Agrees.mono {c : Codec α} {known known' : Tree → Prop} (h : c.Agrees known)
    (himp : ∀ t, known' t → known t) : c.Agrees known' :=
  fun depth t a ht => h depth t a (himp t ht)

theorem agrees_integer {name : String} {least greatest : Int} {ofInt : Int → α} {toInt : α → Int} :
    (integer name least greatest ofInt toInt).Agrees fun _ => True := by
  intro depth t a _
  constructor
  · intro h
    unfold integer at h
    dsimp only at h
    split at h
    · next n =>
      refine ⟨.number n, .number n, ?_⟩
      split at h
      · next k hk =>
        split at h
        · next hrange =>
          cases h
          simp [integer, hk, hrange]
        · cases h
      · cases h
    · cases h
  · rintro ⟨j, hkept, hj⟩
    cases hkept with
    | number n =>
        obtain ⟨k, hk, hj⟩ := Option.bind_eq_some_iff.1 hj
        split at hj
        · next hrange =>
          cases hj
          simp [integer, hk, hrange]
        · cases hj
    | null | bool | text | array | object => cases hj

theorem agrees_bool : bool.Agrees fun _ => True := by
  intro depth t a _
  constructor
  · intro h
    cases t <;> cases h
    exact ⟨.bool a, .bool a, rfl⟩
  · rintro ⟨j, hkept, hj⟩
    cases hkept <;> cases hj
    rfl

theorem agrees_string : string.Agrees fun _ => True := by
  intro depth t a _
  constructor
  · intro h
    cases t with
    | text value =>
        cases value <;> cases h
        exact ⟨.text a, .text a, rfl⟩
    | null | bool | number | array | object | broken => cases h
  · rintro ⟨j, hkept, hj⟩
    cases hkept <;> cases hj
    rfl

theorem Agrees.option {c : Codec α} {known : Tree → Prop} (h : c.Agrees known) :
    c.option.Agrees known := by
  intro depth t v ht
  by_cases hnull : t = .null
  · subst hnull
    constructor
    · intro hv
      exact ⟨.null, .null, by cases hv; rfl⟩
    · rintro ⟨j, hkept, hj⟩
      cases hkept
      cases hj
      rfl
  · have hne (j : Json) (hkept : Kept depth t j) : j ≠ .null := by
      rintro rfl
      cases hkept
      exact hnull rfl
    rw [option_read hnull, Except.map_eq_ok]
    constructor
    · rintro ⟨a, ha, rfl⟩
      obtain ⟨j, hkept, hj⟩ := (h depth t a ht).1 ha
      exact ⟨j, hkept, by rw [option_ofJson (hne j hkept), hj]; rfl⟩
    · rintro ⟨j, hkept, hj⟩
      rw [option_ofJson (hne j hkept)] at hj
      obtain ⟨a, ha, rfl⟩ := Option.map_eq_some_iff.1 hj
      exact ⟨a, (h depth t a ht).2 ⟨j, hkept, ha⟩, rfl⟩

end Codec

/-! ## Records -/

variable {ρ : Type} {inside : String → Tree → Prop} {depth : Nat}

/-- An object has no members but those of the record, and what stands in the place of a field is one
of the trees that may be inside of it. -/
def Shape.Familiar (s : Shape ρ) (inside : String → Tree → Prop) : Tree → Prop
  | .object members _ =>
    ∀ key t, (some key, t) ∈ members → key ∈ s.slots.map Slot.key ∧ inside key t
  | .array items _ => ∀ slot t, (slot, t) ∈ s.slots.zip items → inside slot.key t
  | _ => True

theorem Slot.read_iff {slot : Slot ρ} (h : slot.codec.Agrees (inside slot.key)) {t : Tree}
    (ht : inside slot.key t) {f : ρ → ρ} :
    slot.read depth t = .ok f ↔ ∃ j, Kept depth t j ∧ slot.ofJson j = some f := by
  rw [Slot.read, Except.map_eq_ok]
  constructor
  · rintro ⟨v, hv, rfl⟩
    obtain ⟨j, hkept, hj⟩ := (h depth t v ht).1 hv
    exact ⟨j, hkept, by rw [Slot.ofJson, hj]; rfl⟩
  · rintro ⟨j, hkept, hj⟩
    obtain ⟨v, hv, rfl⟩ := Option.map_eq_some_iff.1 hj
    exact ⟨v, (h depth t v ht).2 ⟨j, hkept, hv⟩, rfl⟩

namespace Shape

theorem exists_slot? {slots : List (Slot ρ)} {key : String} (h : key ∈ slots.map Slot.key) :
    ∃ slot, slot? slots key = some slot := by
  obtain ⟨slot, hslot, rfl⟩ := List.mem_map.1 h
  exact Option.isSome_iff_exists.1 (List.find?_isSome.2 ⟨slot, hslot, by simp⟩)

theorem readMembers_iff {slots : List (Slot ρ)}
    (hslots : ∀ slot ∈ slots, slot.codec.Agrees (inside slot.key))
    {members : List (Option String × Tree)}
    (hmembers : ∀ key t, (some key, t) ∈ members → key ∈ slots.map Slot.key ∧ inside key t)
    {seen : List String} {r r' : ρ} :
    readMembers slots depth seen r members = .ok r' ↔
      ∃ js, keepMembers depth members = .ok js ∧ ofMembers slots seen r js = some r' := by
  induction members generalizing seen r with
  | nil => simp [readMembers, keepMembers, ofMembers]
  | cons member members ih =>
      obtain ⟨_ | key, t⟩ := member
      · constructor
        · intro h
          cases h
        · rintro ⟨js, hjs, -⟩
          cases hjs
      replace ih := @ih fun key t ht => hmembers key t (List.mem_cons_of_mem _ ht)
      obtain ⟨hkey, ht⟩ := hmembers key t List.mem_cons_self
      obtain ⟨slot, hslot⟩ := exists_slot? hkey
      obtain ⟨hmem, rfl⟩ := slot?_eq_some hslot
      have hread := @Slot.read_iff ρ inside depth slot (hslots slot hmem) t ht
      rw [readMembers]
      simp only [hslot]
      by_cases hseen : seen.contains slot.key
      · rw [if_pos hseen]
        constructor
        · intro h
          cases h
        · rintro ⟨js, hjs, hof⟩
          obtain ⟨j, rest, -, -, rfl⟩ := keepMembers_cons.1 hjs
          simp only [ofMembers, hslot, if_pos hseen] at hof
          cases hof
      · rw [if_neg hseen, Except.bind_eq_ok]
        constructor
        · rintro ⟨f, hf, hrest⟩
          obtain ⟨j, hkept, hj⟩ := hread.1 hf
          obtain ⟨js, hjs, hof⟩ := ih.1 hrest
          refine ⟨(slot.key, j) :: js, keepMembers_cons.2 ⟨j, js, hkept, hjs, rfl⟩, ?_⟩
          simp only [ofMembers, hslot, if_neg hseen, hj]
          exact hof
        · rintro ⟨js, hjs, hof⟩
          obtain ⟨j, rest, hkept, hrest, rfl⟩ := keepMembers_cons.1 hjs
          simp only [ofMembers, hslot, if_neg hseen] at hof
          obtain ⟨f, hj, hof⟩ := Option.bind_eq_some_iff.1 hof
          exact ⟨f, hread.2 ⟨j, hkept, hj⟩, ih.2 ⟨rest, hrest, hof⟩⟩

theorem readItems_iff {s : Shape ρ} {closed : Bool} {slots : List (Slot ρ)}
    (hslots : ∀ slot ∈ slots, slot.codec.Agrees (inside slot.key)) {items : List Tree}
    (hitems : ∀ slot t, (slot, t) ∈ slots.zip items → inside slot.key t) {i : Nat} {r r' : ρ} :
    readItems s depth closed i r slots items = .ok r' ↔
      closed ∧ ∃ js, keepItems depth items = .ok js ∧ s.ofItems r slots js = some r' := by
  induction items generalizing slots i r with
  | nil =>
      cases closed <;> by_cases hfull : s.full && !slots.isEmpty <;>
        simp [readItems, keepItems, ofItems, demand, hfull, bind, Except.bind, pure, Except.pure]
  | cons item items ih =>
      cases slots with
      | nil =>
          constructor
          · intro h
            cases h
          · rintro ⟨-, js, hjs, hof⟩
            obtain ⟨j, rest, -, -, rfl⟩ := keepItems_cons.1 hjs
            cases hof
      | cons slot slots =>
          rw [List.forall_mem_cons] at hslots
          have hread := @Slot.read_iff ρ inside depth slot hslots.1 item
            (hitems slot item List.mem_cons_self)
          replace ih := @ih slots hslots.2 fun slot t ht =>
            hitems slot t (List.mem_cons_of_mem _ ht)
          rw [readItems, Except.bind_eq_ok]
          constructor
          · rintro ⟨f, hf, hrest⟩
            obtain ⟨j, hkept, hj⟩ := hread.1 hf
            obtain ⟨hclosed, js, hjs, hof⟩ := ih.1 hrest
            refine ⟨hclosed, j :: js, keepItems_cons.2 ⟨j, js, hkept, hjs, rfl⟩, ?_⟩
            rw [ofItems, hj]
            exact hof
          · rintro ⟨hclosed, js, hjs, hof⟩
            obtain ⟨j, rest, hkept, hrest, rfl⟩ := keepItems_cons.1 hjs
            obtain ⟨f, hj, hof⟩ := Option.bind_eq_some_iff.1 hof
            exact ⟨f, hread.2 ⟨j, hkept, hj⟩, ih.2 ⟨hclosed, rest, hrest, hof⟩⟩

end Shape

theorem Codec.agrees_shape {s : Shape ρ}
    (hslots : ∀ slot ∈ s.slots, slot.codec.Agrees (inside slot.key)) :
    s.codec.Agrees (s.Familiar inside) := by
  intro depth t r ht
  constructor
  · intro h
    cases t with
    | array items closed =>
        obtain ⟨inner, hinner, h⟩ := Except.bind_eq_ok.1 h
        obtain ⟨rfl, js, hjs, hof⟩ := (Shape.readItems_iff hslots ht).1 h
        exact ⟨.array js, .array hinner hjs, hof⟩
    | object members closed =>
        obtain ⟨inner, hinner, h⟩ := Except.bind_eq_ok.1 h
        obtain ⟨r', hr', h⟩ := Except.bind_eq_ok.1 h
        obtain ⟨_, hclosed, h⟩ := Except.bind_eq_ok.1 h
        obtain rfl := demand_eq_ok.1 hclosed
        obtain rfl : r' = r := Except.ok.inj h
        obtain ⟨js, hjs, hof⟩ := (Shape.readMembers_iff hslots ht).1 hr'
        exact ⟨.object js, .object hinner hjs, hof⟩
    | null | bool | number | text | broken => cases h
  · rintro ⟨j, hkept, hj⟩
    cases hkept with
    | array entered kept =>
        exact Except.bind_eq_ok.2 ⟨_, entered, (Shape.readItems_iff hslots ht).2 ⟨rfl, _, kept, hj⟩⟩
    | object entered kept =>
        refine Except.bind_eq_ok.2 ⟨_, entered, Except.bind_eq_ok.2 ⟨r, ?_, rfl⟩⟩
        exact (Shape.readMembers_iff hslots ht).2 ⟨_, kept, hj⟩
    | null | bool | number | text => cases hj

end Json

end Catalogue
