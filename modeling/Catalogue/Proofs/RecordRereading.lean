import Catalogue.Page.Json
import Catalogue.Proofs.CodecRereading

namespace Catalogue

namespace Json

variable {ρ : Type} {slots : List (Slot ρ)} {x : ρ}

def Slot.copy (x r : ρ) (slot : Slot ρ) : ρ := slot.set (slot.get x) r

def Slot.Rereads (slot : Slot ρ) (n : Nat) (x : ρ) : Prop := slot.codec.Rereads n (slot.get x)

namespace Slot.Rereads

variable {slot : Slot ρ} {n : Nat}

theorem within (h : slot.Rereads n x) : Within n (slot.write x) := Codec.Rereads.within h

theorem read (h : slot.Rereads n x) {depth : Nat} (hdepth : n < depth) :
    slot.read depth (slot.write x).tree = .ok (slot.set (slot.get x)) := by
  change slot.set <$> slot.codec.read depth (slot.codec.write (slot.get x)).tree = _
  rw [Codec.Rereads.read h depth hdepth]
  rfl

theorem ofJson (h : slot.Rereads n x) :
    slot.ofJson (slot.write x) = some (slot.set (slot.get x)) := by
  change slot.set <$> slot.codec.ofJson (slot.codec.write (slot.get x)) = _
  rw [Codec.Rereads.ofJson h]
  rfl

end Slot.Rereads

namespace Shape

theorem slot?_of_mem (hkeys : (slots.map Slot.key).Nodup) {slot : Slot ρ} (h : slot ∈ slots) :
    slot? slots slot.key = some slot := by
  induction slots with
  | nil => cases h
  | cons first slots ih =>
      rw [List.map_cons, List.nodup_cons] at hkeys
      obtain rfl | hmem := List.mem_cons.1 h
      · simp [slot?]
      · have hne : (first.key == slot.key) = false := by
          rw [beq_eq_false_iff_ne]
          intro heq
          exact hkeys.1 (heq ▸ List.mem_map_of_mem hmem)
        rw [slot?, List.find?_cons, hne]
        exact ih hkeys.2 hmem

theorem later_unseen {slot : Slot ρ} {rest : List (Slot ρ)} {seen : List String}
    (hslot : slot.key ∉ rest.map Slot.key) (hseen : ∀ later ∈ rest, later.key ∉ seen) :
    ∀ later ∈ rest, later.key ∉ slot.key :: seen := by
  intro later hlater hmem
  obtain heq | hmem := List.mem_cons.1 hmem
  · exact hslot (heq ▸ List.mem_map_of_mem hlater)
  · exact hseen later hlater hmem

section Written

variable {n : Nat} {rest : List (Slot ρ)} {seen : List String}

/-- The members written for some of the slots are read into the fields of these. -/
theorem readMembers_written (hkeys : (slots.map Slot.key).Nodup)
    (h : ∀ slot ∈ slots, slot.Rereads n x) {depth : Nat} (hdepth : n < depth)
    (hrest : rest ⊆ slots) (hnodup : (rest.map Slot.key).Nodup)
    (hseen : ∀ slot ∈ rest, slot.key ∉ seen) (r : ρ) :
    readMembers slots depth seen r (rest.map fun slot => (some slot.key, (slot.write x).tree)) =
      .ok (rest.foldl (Slot.copy x) r) := by
  induction rest generalizing seen r with
  | nil => rfl
  | cons slot rest ih =>
      rw [List.map_cons, List.nodup_cons] at hnodup
      rw [List.forall_mem_cons] at hseen
      rw [List.cons_subset] at hrest
      have hnot : seen.contains slot.key = false := by simpa using hseen.1
      rw [List.map_cons, readMembers, slot?_of_mem hkeys hrest.1]
      simp only [hnot, Bool.false_eq_true, if_false, (h slot hrest.1).read hdepth]
      exact ih hrest.2 hnodup.2 (later_unseen hnodup.1 hseen.2) _

theorem ofMembers_written (hkeys : (slots.map Slot.key).Nodup)
    (h : ∀ slot ∈ slots, slot.Rereads n x) (hrest : rest ⊆ slots)
    (hnodup : (rest.map Slot.key).Nodup) (hseen : ∀ slot ∈ rest, slot.key ∉ seen) (r : ρ) :
    ofMembers slots seen r (rest.map fun slot => (slot.key, slot.write x)) =
      some (rest.foldl (Slot.copy x) r) := by
  induction rest generalizing seen r with
  | nil => rfl
  | cons slot rest ih =>
      rw [List.map_cons, List.nodup_cons] at hnodup
      rw [List.forall_mem_cons] at hseen
      rw [List.cons_subset] at hrest
      have hnot : seen.contains slot.key = false := by simpa using hseen.1
      rw [List.map_cons, ofMembers, slot?_of_mem hkeys hrest.1]
      simp only [hnot, Bool.false_eq_true, if_false, (h slot hrest.1).ofJson]
      exact ih hrest.2 hnodup.2 (later_unseen hnodup.1 hseen.2) _

end Written

theorem present {s : Shape ρ} (hkeys : (s.slots.map Slot.key).Nodup)
    (hwhole : s.slots.foldl (Slot.copy x) s.blank = x) {n : Nat}
    (h : ∀ slot ∈ s.slots, slot.Rereads n x) : s.codec.Present (n + 1) x := by
  have hnone : ∀ slot ∈ s.slots, slot.key ∉ ([] : List String) := fun _ _ => List.not_mem_nil
  refine ⟨⟨.object ?_, fun depth hdepth => ?_, ?_⟩, nofun⟩
  · intro member hmember
    obtain ⟨slot, hslot, rfl⟩ := List.mem_map.1 hmember
    exact (h slot hslot).within
  · obtain ⟨inner, henter, hinner⟩ := enter_succ hdepth
    have htree : (s.write x).tree =
        .object (s.slots.map fun slot => (some slot.key, (slot.write x).tree)) true := by
      rw [Shape.write, tree, treeMembers_eq_map, List.map_map]
      rfl
    have hread := readMembers_written hkeys h hinner (List.Subset.refl _) hkeys hnone s.blank
    change s.read depth (s.write x).tree = _
    rw [htree, Shape.read, henter]
    change (readMembers s.slots inner [] s.blank _ >>= _) = _
    rw [hread, hwhole]
    rfl
  · have hread := ofMembers_written hkeys h (List.Subset.refl _) hkeys hnone s.blank
    rw [hwhole] at hread
    exact hread

/-- No two slots share a key, and the slots hold all of a record. -/
structure Whole (s : Shape ρ) : Prop where
  keys : (s.slots.map Slot.key).Nodup
  copied : ∀ x, s.slots.foldl (Slot.copy x) s.blank = x

theorem Whole.present {s : Shape ρ} (hs : s.Whole) {n : Nat}
    (h : ∀ slot ∈ s.slots, slot.Rereads n x) : s.codec.Present (n + 1) x :=
  Shape.present hs.keys (hs.copied x) h

end Shape

end Json

open Json

namespace Page

variable {α : Type}

theorem rereads_codec {c : Codec α} {n : Nat} {p : Page α} (htotal : p.total < UInt64.size)
    (hlimit : p.limit < UInt64.size) (hskip : p.skip < UInt64.size)
    (hdata : ∀ a ∈ p.data, c.Rereads n a) :
    (codec c).Rereads (n + 2) p := by
  have hkeys : ((PageDraft.slots c).map Slot.key).Nodup := by
    change ["total", "limit", "skip", "data"].Nodup
    decide
  have hslots : ∀ slot ∈ PageDraft.slots c, slot.Rereads (n + 1) p.toDraft := by
    simp only [PageDraft.slots, List.forall_mem_cons, List.not_mem_nil, false_implies,
      implies_true, and_true]
    refine ⟨?_, ?_, ?_, ?_⟩
    · exact (Codec.present_count (n + 1) htotal).toRereads
    · exact (Codec.present_count (n + 1) hlimit).toRereads
    · exact (Codec.present_count (n + 1) hskip).toRereads
    · exact (Codec.present_list hdata).toRereads
  have hdraft : (PageDraft.shape c).codec.Present (n + 2) p.toDraft :=
    Shape.present (s := PageDraft.shape c) hkeys rfl hslots
  refine ⟨hdraft.within, fun depth hdepth => ?_, ?_⟩
  · change ((PageDraft.shape c).codec.read depth
      ((PageDraft.shape c).codec.write p.toDraft).tree >>= fun d => d.finish) = _
    rw [hdraft.read depth hdepth]
    rfl
  · change ((PageDraft.shape c).codec.ofJson ((PageDraft.shape c).codec.write p.toDraft) >>=
      fun d => d.finish.toOption) = _
    rw [hdraft.ofJson]
    rfl

end Page

end Catalogue
