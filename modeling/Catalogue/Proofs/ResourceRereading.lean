import Catalogue.Proofs.RecordRereading
import Catalogue.Resource.Item

namespace Catalogue

open Json

namespace Json

@[simp] theorem Slot.rereads_of {ρ α : Type} {key : String} {codec : Codec α} {get : ρ → α}
    {set : α → ρ → ρ} {n : Nat} {x : ρ} :
    (Slot.of key codec get set).Rereads n x ↔ codec.Rereads n (get x) := Iff.rfl

namespace Codec

@[simp] theorem present_int32s (n : Nat) (v : List Int32) : int32.list.Present (n + 1) v :=
  present_list fun a _ => (present_int32 n a).toRereads

@[simp] theorem present_int32Pairs (n : Nat) (v : List (Int32 × Int32)) :
    (int32.pair int32).list.Present (n + 2) v := by
  apply present_list
  intro p _
  exact (present_pair (present_int32 n p.1).toRereads (present_int32 n p.2).toRereads).toRereads

end Codec

end Json

section Shapes

theorem Translations.shape_whole : shape.Whole where
  keys := by decide
  copied x := by simp only [shape, slots, List.foldl_cons, List.foldl_nil, Slot.copy]

theorem ItemSuperType.shape_whole : shape.Whole where
  keys := by decide
  copied x := by simp only [shape, slots, List.foldl_cons, List.foldl_nil, Slot.copy]

theorem ItemType.shape_whole : shape.Whole where
  keys := by decide
  copied x := by simp only [shape, slots, List.foldl_cons, List.foldl_nil, Slot.copy]

theorem ItemEffect.shape_whole : shape.Whole where
  keys := by decide
  copied x := by simp only [shape, slots, List.foldl_cons, List.foldl_nil, Slot.copy]

theorem ItemSetSummary.shape_whole : shape.Whole where
  keys := by decide
  copied x := by simp only [shape, slots, List.foldl_cons, List.foldl_nil, Slot.copy]

theorem Item.shape_whole : shape.Whole where
  keys := by decide +kernel
  copied x := by simp only [shape, slots, List.foldl_cons, List.foldl_nil, Slot.copy]

theorem ItemSet.shape_whole : shape.Whole where
  keys := by decide
  copied x := by simp only [shape, slots, List.foldl_cons, List.foldl_nil, Slot.copy]

end Shapes

@[simp] theorem Translations.present (n : Nat) (x : Translations) : codec.Present (n + 1) x := by
  apply shape_whole.present
  simp [shape, slots]

@[simp] theorem ItemEffect.present (n : Nat) (x : ItemEffect) : codec.Present (n + 1) x := by
  apply shape_whole.present
  simp [shape, slots]

@[simp] theorem ItemEffect.present_list (n : Nat) (v : List ItemEffect) :
    codec.list.Present (n + 2) v :=
  Codec.present_list fun e _ => (present n e).toRereads

@[simp] theorem ItemSetSummary.present (n : Nat) (x : ItemSetSummary) :
    codec.Present (n + 2) x := by
  apply shape_whole.present
  simp [shape, slots]

structure ItemSuperType.Exact (x : ItemSuperType) : Prop where
  createdAt : ∀ t ∈ x.createdAt, t.Rereads
  updatedAt : ∀ t ∈ x.updatedAt, t.Rereads

theorem ItemSuperType.Exact.present {x : ItemSuperType} (h : x.Exact) (n : Nat) :
    codec.Present (n + 2) x := by
  apply shape_whole.present
  simpa [shape, slots] using ⟨h.createdAt, h.updatedAt⟩

structure ItemType.Exact (x : ItemType) : Prop where
  superType : ∀ s ∈ x.superType, s.Exact
  createdAt : ∀ t ∈ x.createdAt, t.Rereads
  updatedAt : ∀ t ∈ x.updatedAt, t.Rereads

theorem ItemType.Exact.present {x : ItemType} (h : x.Exact) (n : Nat) :
    codec.Present (n + 3) x := by
  apply shape_whole.present
  have hsuper : ∀ s ∈ x.superType, ItemSuperType.codec.Present (n + 2) s :=
    fun s hs => (h.superType s hs).present n
  simpa [shape, slots] using ⟨hsuper, h.createdAt, h.updatedAt⟩

structure Item.Exact (x : Item) : Prop where
  itemType : ∀ t ∈ x.itemType, t.Exact
  createdAt : ∀ t ∈ x.createdAt, t.Rereads
  updatedAt : ∀ t ∈ x.updatedAt, t.Rereads
  craftXpRatio : x.craftXpRatio = none
  recyclingNuggets : x.recyclingNuggets = none

theorem Item.Exact.present {x : Item} (h : x.Exact) (n : Nat) : codec.Present (n + 4) x := by
  apply shape_whole.present
  have htype : ∀ t ∈ x.itemType, ItemType.codec.Present (n + 3) t :=
    fun t ht => (h.itemType t ht).present n
  have hset (v : OrFalse ItemSetSummary) : ItemSetSummary.codec.orFalse.Present (n + 3) v :=
    Codec.present_orFalse (fun _ => rfl) fun s _ => ItemSetSummary.present (n + 1) s
  simpa [shape, slots, h.craftXpRatio, h.recyclingNuggets, hset]
    using ⟨htype, h.createdAt, h.updatedAt⟩

structure ItemSet.Exact (x : ItemSet) : Prop where
  items : ∀ items ∈ x.items, ∀ item ∈ items, item.Exact
  createdAt : ∀ t ∈ x.createdAt, t.Rereads
  updatedAt : ∀ t ∈ x.updatedAt, t.Rereads

theorem ItemSet.Exact.present {x : ItemSet} (h : x.Exact) (n : Nat) : codec.Present (n + 6) x := by
  apply shape_whole.present
  have hitems : ∀ items ∈ x.items, Item.codec.list.Present (n + 5) items := by
    intro items hitems
    apply Codec.present_list
    intro item hitem
    exact ((h.items items hitems item hitem).present n).toRereads
  have heffects (v : List (List ItemEffect)) : ItemEffect.codec.list.list.Present (n + 5) v := by
    apply Codec.present_list
    intro effects _
    exact (ItemEffect.present_list (n + 2) effects).toRereads
  simpa [shape, slots, heffects] using ⟨hitems, h.createdAt, h.updatedAt⟩

/-- The counts fit 64 bits, and all resources of the page are found again in their text. -/
structure Page.Exact {α : Type} (exact : α → Prop) (p : Page α) : Prop where
  total : p.total < UInt64.size
  limit : p.limit < UInt64.size
  skip : p.skip < UInt64.size
  data : ∀ a ∈ p.data, exact a

theorem Page.Exact.rereads {α : Type} {exact : α → Prop} {c : Codec α} {n : Nat} {p : Page α}
    (h : p.Exact exact) (hc : ∀ a, exact a → c.Present n a) : (codec c).Rereads (n + 2) p :=
  rereads_codec h.total h.limit h.skip fun a ha => (hc a (h.data a ha)).toRereads

def Json.Codec.RoundTrips {α : Type} (c : Codec α) (exact : α → Prop) : Prop :=
  ∀ a, exact a → c.decode (c.encode a) = .ok a

namespace Json.Codec

variable {α : Type} {c : Codec α} {exact : α → Prop}

theorem roundTrips_of_rereads (n : Nat) (hn : n < nesting) (h : ∀ a, exact a → c.Rereads n a) :
    c.RoundTrips exact :=
  fun a ha => (h a ha).decode_encode hn

theorem roundTrips_of_present (n : Nat) (hn : n < nesting) (h : ∀ a, exact a → c.Present n a) :
    c.RoundTrips exact :=
  roundTrips_of_rereads n hn fun a ha => (h a ha).toRereads

theorem roundTrips_orFalse (hbool : ∀ b, c.ofJson (.bool b) = none) (n : Nat) (hn : n < nesting)
    (h : ∀ a, c.Present n a) : c.orFalse.RoundTrips fun _ => True :=
  roundTrips_of_present n hn fun _ _ => present_orFalse hbool fun a _ => h a

theorem roundTrips_page (n : Nat) (hn : n + 2 < nesting) (h : ∀ a, exact a → c.Present n a) :
    (Page.codec c).RoundTrips (Page.Exact exact) :=
  roundTrips_of_rereads (n + 2) hn fun _ hp => hp.rereads h

end Json.Codec

/-- Every value of the service is decoded as it was encoded, whatever of it is absent. The set of an
item may be absent, `false` or there, and is found as it was. -/
theorem values_roundTrip :
    (Item.codec.RoundTrips Item.Exact ∧ ItemType.codec.RoundTrips ItemType.Exact ∧
      ItemSuperType.codec.RoundTrips ItemSuperType.Exact ∧ ItemSet.codec.RoundTrips ItemSet.Exact) ∧
    (ItemEffect.codec.RoundTrips (fun _ => True) ∧
      ItemSetSummary.codec.RoundTrips (fun _ => True) ∧
      Translations.codec.RoundTrips (fun _ => True)) ∧
    (ItemSetSummary.codec.orFalse.RoundTrips (fun _ => True) ∧
      Codec.uint32.orFalse.RoundTrips (fun _ => True) ∧
      Codec.string.orFalse.RoundTrips (fun _ => True)) ∧
    ((Page.codec Item.codec).RoundTrips (Page.Exact Item.Exact) ∧
      (Page.codec ItemType.codec).RoundTrips (Page.Exact ItemType.Exact) ∧
      (Page.codec ItemSuperType.codec).RoundTrips (Page.Exact ItemSuperType.Exact) ∧
      (Page.codec ItemSet.codec).RoundTrips (Page.Exact ItemSet.Exact)) ∧
    ∀ x : Item, x.Exact → ∀ itemSet : Option (OrFalse ItemSetSummary),
      Item.itemSet <$> Item.codec.decode (Item.codec.encode { x with itemSet }) = .ok itemSet := by
  have hitem : Item.codec.RoundTrips Item.Exact :=
    Codec.roundTrips_of_present 4 (by decide) fun x hx => hx.present 0
  refine ⟨⟨hitem, ?_, ?_, ?_⟩, ⟨?_, ?_, ?_⟩, ⟨?_, ?_, ?_⟩, ⟨?_, ?_, ?_, ?_⟩, ?_⟩
  · exact Codec.roundTrips_of_present 3 (by decide) fun x hx => hx.present 0
  · exact Codec.roundTrips_of_present 2 (by decide) fun x hx => hx.present 0
  · exact Codec.roundTrips_of_present 6 (by decide) fun x hx => hx.present 0
  · exact Codec.roundTrips_of_present 1 (by decide) fun x _ => ItemEffect.present 0 x
  · exact Codec.roundTrips_of_present 2 (by decide) fun x _ => ItemSetSummary.present 0 x
  · exact Codec.roundTrips_of_present 1 (by decide) fun x _ => Translations.present 0 x
  · exact Codec.roundTrips_orFalse (fun _ => rfl) 2 (by decide) (ItemSetSummary.present 0)
  · exact Codec.roundTrips_orFalse (fun _ => rfl) 0 (by decide) (Codec.present_uint32 0)
  · exact Codec.roundTrips_orFalse (fun _ => rfl) 0 (by decide) (Codec.present_string 0)
  · exact Codec.roundTrips_page 4 (by decide) fun x hx => hx.present 0
  · exact Codec.roundTrips_page 3 (by decide) fun x hx => hx.present 0
  · exact Codec.roundTrips_page 2 (by decide) fun x hx => hx.present 0
  · exact Codec.roundTrips_page 6 (by decide) fun x hx => hx.present 0
  · intro x hx itemSet
    have hsame : Item.Exact { x with itemSet } :=
      ⟨hx.itemType, hx.createdAt, hx.updatedAt, hx.craftXpRatio, hx.recyclingNuggets⟩
    rw [hitem _ hsame]
    rfl

def ring : ItemType where
  id := some 9
  superType := some { id := some 3, positions := some [], updatedAt := some ⟨-1, 1500000000⟩ }
  rawZone := some ""
  createdAt := some ⟨1700000000, 120000000⟩

def gelano : Item where
  id := some (-2147483648)
  itemType := some ring
  name := some { fr := some "Gel\"ano\n\x01", pt := some "𝔊\\/" }
  itemSet := some (.value { id := some 47, bonusIsSecret := some false })
  effects := some [{ least := some (-1) }, {}]
  resourcesBySubarea := some [(1, -2), (3, 4)]
  flags := some 9223372036854775807
  updatedAt := some ⟨253402300800, 7⟩

theorem gelano_exact : gelano.Exact where
  itemType := by
    rintro _ ⟨⟩
    refine ⟨?_, ?_, nofun⟩
    · rintro _ ⟨⟩
      exact ⟨nofun, by rintro _ ⟨⟩; rfl⟩
    · rintro _ ⟨⟩
      rfl
  createdAt := nofun
  updatedAt := by
    rintro _ ⟨⟩
    rfl
  craftXpRatio := rfl
  recyclingNuggets := rfl

theorem gelano_roundTrip :
    gelano.Exact ∧ Item.codec.decode (Item.codec.encode gelano) = .ok gelano ∧
      Item.itemSet <$>
          Item.codec.decode (Item.codec.encode { gelano with itemSet := some .absent }) =
        .ok (some .absent) ∧
      Item.itemSet <$> Item.codec.decode (Item.codec.encode { gelano with itemSet := none }) =
        .ok none := by
  obtain ⟨⟨hitem, -⟩, -, -, -, hset⟩ := values_roundTrip
  exact ⟨gelano_exact, hitem gelano gelano_exact, hset gelano gelano_exact (some .absent),
    hset gelano gelano_exact none⟩

end Catalogue
