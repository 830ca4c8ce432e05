import Catalogue.Proofs.KeptReading
import Catalogue.Proofs.RecordInsertion
import Catalogue.Proofs.ResourceProjection

namespace Catalogue

open Json

namespace Json.Codec

variable {α : Type} {c : Codec α}

theorem orFalse_read_absent {depth : Nat} {t : Tree} :
    c.orFalse.read depth t = .ok .absent ↔ t = .bool false := by
  constructor
  · intro h
    obtain ⟨j, hkept, h⟩ := Except.bind_eq_ok.1 h
    cases keep_eq_ok.1 hkept with
    | bool b =>
        cases b
        · rfl
        · cases h
    | null | number | text | array | object =>
        dsimp only at h
        split at h <;> cases h
  · rintro rfl
    rfl

theorem orFalse_read_value {known : Tree → Prop} (hagrees : c.Agrees known)
    (hbool : ∀ b, c.ofJson (.bool b) = none) {depth : Nat} {t : Tree} (ht : known t) {a : α} :
    c.orFalse.read depth t = .ok (.value a) ↔ c.read depth t = .ok a := by
  rw [hagrees depth t a ht]
  constructor
  · intro h
    obtain ⟨j, hkept, h⟩ := Except.bind_eq_ok.1 h
    refine ⟨j, keep_eq_ok.1 hkept, ?_⟩
    split at h
    · cases h
    · cases h
    · split at h
      · next b hb =>
        cases h
        exact hb
      · cases h
  · rintro ⟨j, hkept, hj⟩
    refine orFalse_read (keep_eq_ok.2 hkept) (fun b hb => ?_) hj
    rw [hb, hbool] at hj
    cases hj

theorem decodeSource_eq_ok {source : List (Option Char)} {a : α} :
    c.decodeSource source = .ok a ↔
      c.read nesting (document source).tree = .ok a ∧ (document source).clean := by
  rw [decodeSource, Except.bind_eq_ok]
  constructor
  · rintro ⟨b, hb, h⟩
    obtain ⟨_, hclean, h⟩ := Except.bind_eq_ok.1 h
    cases h
    exact ⟨hb, demand_eq_ok.1 hclean⟩
  · rintro ⟨ha, hclean⟩
    exact ⟨a, ha, Except.bind_eq_ok.2 ⟨(), demand_eq_ok.2 hclean, rfl⟩⟩

/-- The text is read as one of two: a bare `false`, or what is read of it where nothing else may
stand. A bare `true` is neither. -/
structure Splits (c : Codec α) (source : List (Option Char)) : Prop where
  absent : c.orFalse.decodeSource source = .ok .absent ↔ document source = ⟨.bool false, true⟩
  value (a : α) : c.orFalse.decodeSource source = .ok (.value a) ↔ c.decodeSource source = .ok a
  fails : (∃ fault, c.orFalse.decodeSource source = .error fault) ↔
    document source ≠ ⟨.bool false, true⟩ ∧ ∀ a, c.decodeSource source ≠ .ok a
  bareTrue : document source = ⟨.bool true, true⟩ →
    c.orFalse.decodeSource source = .error .bareTrue

theorem Agrees.splits {known : Tree → Prop} (hagrees : c.Agrees known)
    (hbool : ∀ b, c.ofJson (.bool b) = none) {source : List (Option Char)}
    (hknown : known (document source).tree) : c.Splits source := by
  have habsent : c.orFalse.decodeSource source = .ok .absent ↔
      document source = ⟨.bool false, true⟩ := by
    rw [decodeSource_eq_ok, orFalse_read_absent]
    cases document source
    simp
  have hvalue (a : α) :
      c.orFalse.decodeSource source = .ok (.value a) ↔ c.decodeSource source = .ok a := by
    rw [decodeSource_eq_ok, decodeSource_eq_ok, orFalse_read_value hagrees hbool hknown]
  refine ⟨habsent, hvalue, ?_, ?_⟩
  · simp only [← hvalue, ne_eq, ← habsent]
    cases c.orFalse.decodeSource source with
    | error fault => simp
    | ok v => cases v <;> simp
  · intro htrue
    rw [decodeSource, htrue]
    rfl

end Json.Codec

def Translations.Familiar : Tree → Prop := Translations.shape.Familiar fun _ _ => True

def ItemSetSummary.Familiar : Tree → Prop :=
  ItemSetSummary.shape.Familiar fun key t => key = "name" → Translations.Familiar t

theorem Translations.agrees : Translations.codec.Agrees Translations.Familiar := by
  have htext := Codec.agrees_string.option
  apply Codec.agrees_shape
  repeat' first | refine List.forall_mem_cons.2 ⟨htext, ?_⟩ | exact nofun

theorem ItemSetSummary.agrees : ItemSetSummary.codec.Agrees ItemSetSummary.Familiar := by
  have hnumber : Codec.int32.option.Agrees fun _ => True := Codec.agrees_integer.option
  have hbool := Codec.agrees_bool.option
  apply Codec.agrees_shape
  refine List.forall_mem_cons.2 ⟨hnumber.mono fun _ _ => trivial, ?_⟩
  refine List.forall_mem_cons.2 ⟨Translations.agrees.option.mono fun _ ht => ht rfl, ?_⟩
  refine List.forall_mem_cons.2 ⟨hnumber.mono fun _ _ => trivial, ?_⟩
  refine List.forall_mem_cons.2 ⟨hbool.mono fun _ _ => trivial, ?_⟩
  refine List.forall_mem_cons.2 ⟨hbool.mono fun _ _ => trivial, ?_⟩
  exact nofun

/-! ## Items -/

namespace Item

def setSlot : Slot Item :=
  .of "itemSet" ItemSetSummary.codec.orFalse.option (·.itemSet) fun v r => { r with itemSet := v }

theorem setSlot_mem : setSlot ∈ Item.shape.slots := List.mem_of_getElem? (i := 15) rfl

/-- What an item has of its set, by the value that stands in the member for it. -/
inductive SetTold : Tree → Option (OrFalse ItemSetSummary) → Prop
  | null : SetTold .null none
  | absent : SetTold (.bool false) (some .absent)
  | value {t : Tree} {s : ItemSetSummary}
      (read : ItemSetSummary.codec.read (nesting - 1) t = .ok s) : SetTold t (some (.value s))

theorem setSlot_read {t : Tree} (ht : ItemSetSummary.Familiar t)
    {v : Option (OrFalse ItemSetSummary)} :
    setSlot.codec.read (nesting - 1) t = .ok v ↔ SetTold t v := by
  have hvalue {s : ItemSetSummary} :
      ItemSetSummary.codec.orFalse.read (nesting - 1) t = .ok (.value s) ↔
        ItemSetSummary.codec.read (nesting - 1) t = .ok s :=
    Codec.orFalse_read_value ItemSetSummary.agrees (fun _ => rfl) ht
  change ItemSetSummary.codec.orFalse.option.read (nesting - 1) t = .ok v ↔ _
  by_cases hnull : t = .null
  · subst hnull
    constructor
    · intro h
      cases h
      exact .null
    · intro h
      cases h with
      | null => rfl
      | value read => cases read
  rw [Codec.option_read hnull, Except.map_eq_ok]
  constructor
  · rintro ⟨w, hw, rfl⟩
    cases w with
    | absent =>
        obtain rfl := Codec.orFalse_read_absent.1 hw
        exact .absent
    | value s => exact .value (hvalue.1 hw)
  · intro h
    cases h with
    | null => exact absurd rfl hnull
    | absent => exact ⟨.absent, rfl, rfl⟩
    | value read => exact ⟨.value _, hvalue.2 read, rfl⟩

theorem itemSet_told {source : List (Option Char)} {members : List (Option String × Tree)}
    {x : Item} (hsource : Lists source members) (hx : Item.codec.decodeSource source = .ok x) :
    ((∀ t, (some "itemSet", t) ∉ members) → x.itemSet = none) ∧
      ∀ t, (some "itemSet", t) ∈ members → ItemSetSummary.Familiar t → SetTold t x.itemSet := by
  change Item.shape.codec.decodeSource source = .ok x at hx
  rw [Shape.decodeSource_object hsource, Shape.readMembers_eq_ok] at hx
  refine ⟨fun hmissing => ?_, fun t hmem ht => ?_⟩
  · exact hx.get_of_notMem shape_lawful.apart setSlot_mem (.inr hmissing)
  · exact (setSlot_read ht).1 (hx.read_of_mem shape_lawful.keys shape_lawful.apart setSlot_mem hmem)

theorem decodes_insert {source source' : List (Option Char)}
    {before after : List (Option String × Tree)} {t : Tree}
    (hsource : Lists source (before ++ after))
    (hsource' : Lists source' (before ++ (some "itemSet", t) :: after))
    (hmissing : ∀ t, (some "itemSet", t) ∉ before ++ after) (ht : ItemSetSummary.Familiar t)
    (y : Item) :
    Item.codec.decodeSource source' = .ok y ↔ ∃ x v, Item.codec.decodeSource source = .ok x ∧
      SetTold t v ∧ y = { x with itemSet := v } := by
  change Item.shape.codec.decodeSource source' = .ok y ↔
    ∃ x v, Item.shape.codec.decodeSource source = .ok x ∧ _
  simp only [Shape.decodeSource_object hsource, Shape.decodeSource_object hsource',
    Shape.readMembers_eq_ok, ← setSlot_read ht]
  exact Shape.reading_insert shape_lawful setSlot_mem hmissing List.not_mem_nil

end Item

/-- Where `false` may stand in its place, a value is read of just the texts it is read of elsewhere.
So an item has no set without a member for it, and with one it has what that member tells and is
otherwise as without it. -/
theorem orFalse_told_apart :
    ((∀ source, Codec.uint32.Splits source) ∧ (∀ source, Codec.string.Splits source) ∧
      ∀ source, ItemSetSummary.Familiar (document source).tree →
        ItemSetSummary.codec.Splits source) ∧
    (∀ source members x, Lists source members → Item.codec.decodeSource source = .ok x →
      ((∀ t, (some "itemSet", t) ∉ members) → x.itemSet = none) ∧
        ∀ t, (some "itemSet", t) ∈ members → ItemSetSummary.Familiar t →
          Item.SetTold t x.itemSet) ∧
    ∀ source source' before after t, Lists source (before ++ after) →
      Lists source' (before ++ (some "itemSet", t) :: after) →
      (∀ t', (some "itemSet", t') ∉ before ++ after) → ItemSetSummary.Familiar t →
      ∀ y, Item.codec.decodeSource source' = .ok y ↔
        ∃ x v, Item.codec.decodeSource source = .ok x ∧ Item.SetTold t v ∧
          y = { x with itemSet := v } := by
  refine ⟨⟨fun source => ?_, fun source => ?_, fun source hknown => ?_⟩, ?_, ?_⟩
  · exact Codec.Agrees.splits Codec.agrees_integer (fun _ => rfl) trivial
  · exact Codec.agrees_string.splits (fun _ => rfl) trivial
  · exact ItemSetSummary.agrees.splits (fun _ => rfl) hknown
  · exact fun source members x hsource hx => Item.itemSet_told hsource hx
  · intro source source' before after t hsource hsource' hmissing ht y
    exact Item.decodes_insert hsource hsource' hmissing ht y

def shortSet : Tree :=
  .array [.number (some (.nat 12)), .object [(some "fr", .text (some "Gelano"))] true, .null] true

def shortSetText : String := "[12, \x7b\"fr\": \"Gelano\"\x7d, null]"

def gelanoSet : ItemSetSummary where
  id := some 12
  name := some { fr := some "Gelano" }

theorem shortSet_familiar : ItemSetSummary.Familiar shortSet := by
  intro slot t hmem hname
  simp only [ItemSetSummary.shape, ItemSetSummary.slots, List.zip_cons_cons, List.zip_nil_right,
    List.mem_cons, List.not_mem_nil, or_false, Prod.mk.injEq] at hmem
  obtain ⟨rfl, rfl⟩ | ⟨rfl, rfl⟩ | ⟨rfl, rfl⟩ := hmem
  · exact absurd hname (by decide)
  · intro key t ht
    obtain ⟨⟩ := List.mem_singleton.1 ht
    exact ⟨by decide, trivial⟩
  · exact absurd hname (by decide)

def plainText : String := "\x7b\"id\": 7, \"season\": []\x7d"

def wornText : String := "\x7b\"id\": 7, \"itemSet\": " ++ shortSetText ++ ", \"season\": []\x7d"

theorem shortSet_told_apart :
    document (source shortSetText) = ⟨shortSet, true⟩ ∧ ItemSetSummary.Familiar shortSet ∧
      ItemSetSummary.codec.decode shortSetText = .ok gelanoSet ∧
      ItemSetSummary.codec.orFalse.decode shortSetText = .ok (.value gelanoSet) ∧
      Item.codec.decode plainText = .ok { id := some 7 } ∧
      Item.codec.decode wornText = .ok { id := some 7, itemSet := some (.value gelanoSet) } := by
  obtain ⟨⟨-, -, hset⟩, -, hitem⟩ := orFalse_told_apart
  have hsetText : ItemSetSummary.codec.decode shortSetText = .ok gelanoSet := rfl
  have hplainText : Item.codec.decode plainText = .ok { id := some 7 } := rfl
  have hsplits := hset (source shortSetText) shortSet_familiar
  refine ⟨rfl, shortSet_familiar, hsetText, (hsplits.value gelanoSet).2 hsetText, hplainText, ?_⟩
  exact (hitem (source plainText) (source wornText) [idMember] [(some "season", .array [] true)]
    shortSet rfl rfl (by simp [idMember]) shortSet_familiar _).2
    ⟨_, _, hplainText, .value rfl, rfl⟩

end Catalogue
