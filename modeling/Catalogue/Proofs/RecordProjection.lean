import Catalogue.Proofs.RecordRereading
import Mathlib.Data.List.Nodup
import Mathlib.Data.List.Perm.Basic

namespace Catalogue.Json

def Lists (source : List (Option Char)) (members : List (Option String × Tree)) : Prop :=
  document source = ⟨.object members true, true⟩

theorem Lists.complete {source : List (Option Char)} {members : List (Option String × Tree)}
    (h : Lists source members) : ∀ member ∈ members, member.2.complete := by
  have hobject := document_complete h
  rw [Tree.complete, Bool.true_and] at hobject
  exact completeMembers_iff.1 hobject

variable {ρ : Type}

section Fields

def fields (slots : List (Slot ρ)) (r : ρ) : List (Σ α : Type, α) :=
  slots.map fun slot => ⟨slot.α, slot.get r⟩

/-- A value put in by one of the slots, the first of them at position `i` of all, takes the place of
its own field and of no other. -/
def Apart (all : List (Slot ρ)) : Nat → List (Slot ρ) → Prop
  | _, [] => True
  | i, slot :: rest =>
    (∀ v r, fields all (slot.set v r) = (fields all r).set i ⟨slot.α, v⟩) ∧ Apart all (i + 1) rest

theorem Apart.fields_set {all rest : List (Slot ρ)} {i : Nat} (h : Apart all i rest) {j : Nat}
    {slot : Slot ρ} (hslot : rest[j]? = some slot) (v : slot.α) (r : ρ) :
    fields all (slot.set v r) = (fields all r).set (i + j) ⟨slot.α, v⟩ := by
  induction rest generalizing i j with
  | nil => cases hslot
  | cons first rest ih =>
      cases j with
      | zero =>
          cases hslot
          exact h.1 v r
      | succ j =>
          have hrest := ih h.2 hslot
          rw [hrest, Nat.add_right_comm, Nat.add_assoc]

variable {slots : List (Slot ρ)}

theorem getElem?_fields {i : Nat} {slot : Slot ρ} (hslot : slots[i]? = some slot) (r : ρ) :
    (fields slots r)[i]? = some ⟨slot.α, slot.get r⟩ := by
  rw [fields, List.getElem?_map, hslot]
  rfl

theorem get_set (h : Apart slots 0 slots) {slot : Slot ρ} (hslot : slot ∈ slots) (v : slot.α)
    (r : ρ) : slot.get (slot.set v r) = v := by
  obtain ⟨i, hi⟩ := List.mem_iff_getElem?.1 hslot
  have hlt : i < (fields slots r).length := by
    have := (List.getElem?_eq_some_iff.1 hi).1
    simpa [fields] using this
  have hread := getElem?_fields hi (slot.set v r)
  rw [h.fields_set hi, Nat.zero_add, List.getElem?_set_self hlt] at hread
  exact (eq_of_heq (Sigma.mk.inj (Option.some.inj hread)).2).symm

theorem get_set_other (h : Apart slots 0 slots) {slot other : Slot ρ} (hslot : slot ∈ slots)
    (hother : other ∈ slots) (hne : slot.key ≠ other.key) (v : slot.α) (r : ρ) :
    other.get (slot.set v r) = other.get r := by
  obtain ⟨i, hi⟩ := List.mem_iff_getElem?.1 hslot
  obtain ⟨j, hj⟩ := List.mem_iff_getElem?.1 hother
  have hij : i ≠ j := by
    rintro rfl
    rw [hi] at hj
    cases hj
    exact hne rfl
  have hread := getElem?_fields hj (slot.set v r)
  rw [h.fields_set hi, Nat.zero_add, List.getElem?_set_ne hij, getElem?_fields hj] at hread
  exact (eq_of_heq (Sigma.mk.inj (Option.some.inj hread)).2).symm

end Fields

namespace Shape

variable {slots : List (Slot ρ)} {depth : Nat}

theorem slot?_eq_some {key : String} {slot : Slot ρ} (h : slot? slots key = some slot) :
    slot ∈ slots ∧ slot.key = key := by
  refine ⟨List.mem_of_find?_eq_some h, ?_⟩
  simpa using List.find?_some h

/-- What reading some members makes of `r`, if the keys in `seen` have come before. -/
inductive Reading (slots : List (Slot ρ)) (depth : Nat) :
    List String → ρ → List (Option String × Tree) → ρ → Prop
  | nil (seen : List String) (r : ρ) : Reading slots depth seen r [] r
  | skip {seen : List String} {r r' : ρ} {key : String} {t : Tree}
      {members : List (Option String × Tree)} (unknown : slot? slots key = none)
      (complete : t.complete) (rest : Reading slots depth seen r members r') :
      Reading slots depth seen r ((some key, t) :: members) r'
  | take {seen : List String} {r r' : ρ} {slot : Slot ρ} {t : Tree}
      {members : List (Option String × Tree)} {v : slot.α}
      (known : slot? slots slot.key = some slot) (unseen : slot.key ∉ seen)
      (read : slot.codec.read depth t = .ok v)
      (rest : Reading slots depth (slot.key :: seen) (slot.set v r) members r') :
      Reading slots depth seen r ((some slot.key, t) :: members) r'

variable {seen : List String} {r r' : ρ} {members : List (Option String × Tree)}

theorem reading_of_readMembers (h : readMembers slots depth seen r members = .ok r') :
    Reading slots depth seen r members r' := by
  induction members generalizing seen r with
  | nil =>
      cases h
      exact .nil seen _
  | cons member members ih =>
      obtain ⟨_ | key, t⟩ := member
      · cases h
      rw [readMembers] at h
      cases hslot : slot? slots key with
      | none =>
          simp only [hslot] at h
          by_cases ht : t.complete
          · rw [if_pos ht] at h
            exact .skip hslot ht (ih h)
          · rw [if_neg ht] at h
            cases h
      | some slot =>
          obtain ⟨-, rfl⟩ := slot?_eq_some hslot
          simp only [hslot] at h
          by_cases hseen : seen.contains slot.key
          · rw [if_pos hseen] at h
            cases h
          · rw [if_neg hseen] at h
            cases hread : slot.codec.read depth t with
            | error e =>
                rw [Slot.read, hread] at h
                cases h
            | ok v =>
                rw [Slot.read, hread] at h
                exact .take hslot (by simpa using hseen) hread (ih h)

theorem Reading.readMembers_eq (h : Reading slots depth seen r members r') :
    readMembers slots depth seen r members = .ok r' := by
  induction h with
  | nil => rfl
  | skip unknown complete _ ih =>
      rw [readMembers]
      simp only [unknown]
      rw [if_pos complete, ih]
  | take known unseen read _ ih =>
      rw [readMembers]
      simp only [known]
      rw [if_neg (by simpa using unseen), Slot.read, read]
      exact ih

inductive Readable (slots : List (Slot ρ)) (depth : Nat) : Option String × Tree → Prop
  | unknown {key : String} {t : Tree} (h : slot? slots key = none) (complete : t.complete) :
      Readable slots depth (some key, t)
  | known {slot : Slot ρ} {t : Tree} {v : slot.α} (h : slot? slots slot.key = some slot)
      (read : slot.codec.read depth t = .ok v) : Readable slots depth (some slot.key, t)

def Differ (slots : List (Slot ρ)) (member other : Option String × Tree) : Prop :=
  ∀ key, member.1 = some key → other.1 = some key → slot? slots key = none

theorem Reading.readable (h : Reading slots depth seen r members r') :
    ∀ member ∈ members, Readable slots depth member := by
  induction h with
  | nil => nofun
  | skip unknown complete _ ih => exact List.forall_mem_cons.2 ⟨.unknown unknown complete, ih⟩
  | take known _ read _ ih => exact List.forall_mem_cons.2 ⟨.known known read, ih⟩

theorem exists_reading (hmembers : ∀ member ∈ members, Readable slots depth member)
    (hdiffer : members.Pairwise (Differ slots))
    (hseen : ∀ member ∈ members, ∀ key ∈ seen, member.1 = some key → slot? slots key = none)
    (r : ρ) : ∃ r', Reading slots depth seen r members r' := by
  induction members generalizing seen r with
  | nil => exact ⟨r, .nil seen r⟩
  | cons member members ih =>
      rw [List.forall_mem_cons] at hmembers hseen
      rw [List.pairwise_cons] at hdiffer
      cases hmembers.1 with
      | unknown h complete =>
          obtain ⟨r', hr'⟩ := ih hmembers.2 hdiffer.2 hseen.2 r
          exact ⟨r', .skip h complete hr'⟩
      | @known slot t v h read =>
          have hnew : slot.key ∉ seen := by
            intro hmem
            have hnone := hseen.1 slot.key hmem rfl
            rw [hnone] at h
            cases h
          -- The key just read may not come again, which is what `Differ` says of those after it.
          have hlater : ∀ later ∈ members, ∀ key ∈ slot.key :: seen, later.1 = some key →
              slot? slots key = none := by
            intro later hlater key hkey heq
            obtain rfl | hkey := List.mem_cons.1 hkey
            · exact hdiffer.1 later hlater slot.key rfl heq
            · exact hseen.2 later hlater key hkey heq
          obtain ⟨r', hr'⟩ := ih hmembers.2 hdiffer.2 hlater (slot.set v r)
          exact ⟨r', .take h hnew read hr'⟩

section Lawful

variable (hkeys : (slots.map Slot.key).Nodup) (hapart : Apart slots 0 slots)

include hkeys in
theorem eq_of_slot? {slot other : Slot ρ} (hslot : slot ∈ slots)
    (h : slot? slots slot.key = some other) : other = slot := by
  rw [slot?_of_mem hkeys hslot] at h
  exact (Option.some.inj h).symm

include hapart in
theorem Reading.get_of_notMem (h : Reading slots depth seen r members r') {slot : Slot ρ}
    (hslot : slot ∈ slots) (hnot : slot.key ∈ seen ∨ ∀ t, (some slot.key, t) ∉ members) :
    slot.get r' = slot.get r := by
  induction h with
  | nil => rfl
  | skip _ _ _ ih => exact ih (hnot.imp_right fun hnot t ht => hnot t (List.mem_cons_of_mem _ ht))
  | @take seen r r' first t members v known unseen _ _ ih =>
      have hne : first.key ≠ slot.key := by
        intro heq
        rcases hnot with hmem | hnot
        · exact unseen (heq ▸ hmem)
        · exact hnot t (heq ▸ List.mem_cons_self)
      rw [ih, get_set_other hapart (slot?_eq_some known).1 hslot hne]
      rcases hnot with hmem | hnot
      · exact .inl (List.mem_cons_of_mem _ hmem)
      · exact .inr fun t ht => hnot t (List.mem_cons_of_mem _ ht)

include hkeys hapart in
theorem Reading.read_of_mem (h : Reading slots depth seen r members r') {slot : Slot ρ}
    (hslot : slot ∈ slots) {t : Tree} (hmem : (some slot.key, t) ∈ members) :
    slot.codec.read depth t = .ok (slot.get r') := by
  induction h with
  | nil => cases hmem
  | skip unknown _ _ ih =>
      obtain heq | hmem := List.mem_cons.1 hmem
      · cases heq
        rw [slot?_of_mem hkeys hslot] at unknown
        cases unknown
      · exact ih hmem
  | @take seen r r' first t' members v known _ read rest ih =>
      obtain heq | hmem := List.mem_cons.1 hmem
      · obtain ⟨hkey, rfl⟩ : slot.key = first.key ∧ t = t' := by simpa using heq
        rw [← hkey] at known
        obtain rfl := eq_of_slot? hkeys hslot known
        rw [rest.get_of_notMem hapart hslot (.inl List.mem_cons_self), get_set hapart hslot]
        exact read
      · exact ih hmem

theorem get_copies (hkeys : (slots.map Slot.key).Nodup) (hapart : Apart slots 0 slots)
    {rest : List (Slot ρ)} (hrest : rest ⊆ slots) {slot : Slot ρ} (hslot : slot ∈ slots) (x r : ρ) :
    slot.get (rest.foldl (Slot.copy x) r) =
      if slot.key ∈ rest.map Slot.key then slot.get x else slot.get r := by
  induction rest generalizing r with
  | nil => rfl
  | cons first rest ih =>
      rw [List.cons_subset] at hrest
      rw [List.foldl_cons, ih hrest.2, List.map_cons]
      by_cases heq : slot.key = first.key
      · obtain rfl := eq_of_slot? hkeys hrest.1 (heq ▸ slot?_of_mem hkeys hslot)
        rw [if_pos List.mem_cons_self, Slot.copy, get_set hapart hslot, ite_self]
      · rw [Slot.copy, get_set_other hapart hrest.1 hslot (Ne.symm heq)]
        simp only [List.mem_cons, heq, false_or]

end Lawful

variable {s : Shape ρ}

theorem Whole.ext (hs : s.Whole) {x y : ρ} (h : ∀ slot ∈ s.slots, slot.get x = slot.get y) :
    x = y := by
  have hcopy : ∀ r, ∀ slot ∈ s.slots, Slot.copy x r slot = Slot.copy y r slot := by
    intro r slot hslot
    rw [Slot.copy, Slot.copy, h slot hslot]
  calc
    x = s.slots.foldl (Slot.copy x) s.blank := (hs.copied x).symm
    _ = s.slots.foldl (Slot.copy y) s.blank := List.foldl_ext _ _ _ hcopy
    _ = y := hs.copied y

/-- The slots hold all of a record, each a part of its own, and a blank record has none of them. -/
structure Lawful (s : Shape ρ) : Prop extends s.Whole where
  apart : Apart s.slots 0 s.slots
  absent : ∀ slot ∈ s.slots, slot.write s.blank = .null

def without (s : Shape ρ) (keys : List (Option String)) (x : ρ) : ρ :=
  (s.slots.filter fun slot => some slot.key ∈ keys).foldl (Slot.copy s.blank) x

theorem get_without (hs : s.Lawful) (keys : List (Option String)) {slot : Slot ρ}
    (hslot : slot ∈ s.slots) (x : ρ) :
    slot.get (s.without keys x) =
      if some slot.key ∈ keys then slot.get s.blank else slot.get x := by
  have hmem : slot.key ∈ (s.slots.filter fun slot => some slot.key ∈ keys).map Slot.key ↔
      some slot.key ∈ keys := by
    rw [List.mem_map]
    constructor
    · rintro ⟨other, hother, hkey⟩
      rw [← hkey]
      simpa using List.of_mem_filter hother
    · intro h
      exact ⟨slot, List.mem_filter.2 ⟨hslot, by simpa using h⟩, rfl⟩
  rw [without, get_copies hs.keys hs.apart (List.filter_subset_self _) hslot]
  simp only [hmem]

def Unknown (slots : List (Slot ρ)) (member : Option String × Tree) : Prop :=
  ∃ key, member.1 = some key ∧ slot? slots key = none

theorem Unknown.readable {member : Option String × Tree} (h : Unknown slots member)
    (hcomplete : member.2.complete) : Readable slots depth member := by
  obtain ⟨key, t⟩ := member
  obtain ⟨key, rfl, hkey⟩ := h
  exact .unknown hkey hcomplete

theorem Unknown.differ {member other : Option String × Tree} (h : Unknown slots member) :
    Differ slots member other := by
  obtain ⟨key, hmember, hkey⟩ := h
  intro key' hmember' _
  rw [hmember] at hmember'
  cases hmember'
  exact hkey

theorem Differ.symm {member other : Option String × Tree} (h : Differ slots member other) :
    Differ slots other member := fun key hother hmember => h key hmember hother

/-- Of some members those in `gone` are taken away; the others, which are `kept`, come in any order,
among members that are `added` to them and that the record does not know. -/
structure Projected (slots : List (Slot ρ))
    (members kept gone added members' : List (Option String × Tree)) : Prop where
  distinct : (members.map Prod.fst).Nodup
  split : members.Perm (kept ++ gone)
  unknown : ∀ member ∈ added, Unknown slots member
  joined : members'.Perm (kept ++ added)

namespace Projected

variable {kept gone added members' : List (Option String × Tree)} {member : Option String × Tree}

theorem mem_iff (h : Projected slots members kept gone added members') :
    member ∈ members ↔ member ∈ kept ∨ member ∈ gone := by
  rw [h.split.mem_iff, List.mem_append]

theorem mem_iff' (h : Projected slots members kept gone added members') :
    member ∈ members' ↔ member ∈ kept ∨ member ∈ added := by
  rw [h.joined.mem_iff, List.mem_append]

theorem nodup (h : Projected slots members kept gone added members') :
    (kept.map Prod.fst ++ gone.map Prod.fst).Nodup := by
  rw [← List.map_append, ← (h.split.map Prod.fst).nodup_iff]
  exact h.distinct

theorem notMem_gone (h : Projected slots members kept gone added members')
    (hmember : member ∈ kept) : member.1 ∉ gone.map Prod.fst :=
  List.disjoint_of_nodup_append h.nodup (List.mem_map_of_mem hmember)

theorem mem_kept (h : Projected slots members kept gone added members')
    (hkeys : (slots.map Slot.key).Nodup) {slot : Slot ρ} (hslot : slot ∈ slots) {t : Tree}
    (ht : (some slot.key, t) ∈ members') : (some slot.key, t) ∈ kept := by
  refine (h.mem_iff'.1 ht).resolve_right fun hadded => ?_
  obtain ⟨key, hkey, hnone⟩ := h.unknown _ hadded
  cases hkey
  rw [slot?_of_mem hkeys hslot] at hnone
  cases hnone

theorem pairwise_differ (h : Projected slots members kept gone added members') :
    members'.Pairwise (Differ slots) := by
  rw [h.joined.pairwise_iff Differ.symm, List.pairwise_append]
  refine ⟨?_, ?_, ?_⟩
  · refine (List.pairwise_map.1 h.nodup.of_append_left).imp fun hne key hmember hother => ?_
    exact absurd (hmember.trans hother.symm) hne
  · apply List.pairwise_of_forall_mem_list
    exact fun member hmember _ _ => (h.unknown member hmember).differ
  · exact fun _ _ other hother => (h.unknown other hother).differ.symm

theorem readable (h : Projected slots members kept gone added members') {seen : List String}
    {r r' : ρ} (hread : Reading slots depth seen r members r')
    (hcomplete : ∀ member ∈ members', member.2.complete) :
    ∀ member ∈ members', Readable slots depth member := by
  intro member hmember
  obtain hkept | hadded := h.mem_iff'.1 hmember
  · exact hread.readable member (h.mem_iff.2 (.inl hkept))
  · exact (h.unknown member hadded).readable (hcomplete member hmember)

theorem reading (h : Projected s.slots members kept gone added members') (hs : s.Lawful)
    {x : ρ} (hread : Reading s.slots depth [] s.blank members x)
    (hcomplete : ∀ member ∈ members', member.2.complete) :
    Reading s.slots depth [] s.blank members' (s.without (gone.map Prod.fst) x) := by
  obtain ⟨y, hy⟩ := exists_reading (h.readable hread hcomplete) h.pairwise_differ
    (fun _ _ _ hkey => absurd hkey List.not_mem_nil) s.blank
  suffices hsame : y = s.without (gone.map Prod.fst) x from hsame ▸ hy
  apply hs.toWhole.ext
  intro slot hslot
  rw [get_without hs _ hslot]
  by_cases hmem : ∃ t, (some slot.key, t) ∈ members'
  · -- Read from the same tree both times.
    obtain ⟨t, ht⟩ := hmem
    have hkept := h.mem_kept hs.keys hslot ht
    have hfield := hread.read_of_mem hs.keys hs.apart hslot (h.mem_iff.2 (.inl hkept))
    rw [hy.read_of_mem hs.keys hs.apart hslot ht] at hfield
    rw [if_neg (h.notMem_gone hkept)]
    exact Except.ok.inj hfield
  · rw [not_exists] at hmem
    rw [hy.get_of_notMem hs.apart hslot (.inr hmem)]
    by_cases hgone : some slot.key ∈ gone.map Prod.fst
    · rw [if_pos hgone]
    · -- It was blank before.
      have hbefore : ∀ t, (some slot.key, t) ∉ members := by
        intro t ht
        obtain hkept | hlost := h.mem_iff.1 ht
        · exact hmem t (h.mem_iff'.2 (.inl hkept))
        · exact hgone (List.mem_map_of_mem hlost)
      rw [if_neg hgone, hread.get_of_notMem hs.apart hslot (.inr hbefore)]

end Projected

theorem decodeSource_object {source : List (Option Char)} (h : Lists source members) :
    s.codec.decodeSource source = readMembers s.slots (nesting - 1) [] s.blank members := by
  rw [Codec.decodeSource, h]
  change ((readMembers s.slots (nesting - 1) [] s.blank members >>= pure) >>= pure) = _
  cases readMembers s.slots (nesting - 1) [] s.blank members <;> rfl

/-- Whatever members are taken away from a text, in whatever order the others come, and whatever
unknown ones are added: what is read of the new text is what was read of the old, without the fields
of the members that are gone. -/
structure Projects (s : Shape ρ) : Prop where
  absent : ∀ slot ∈ s.slots, slot.write s.blank = .null
  decodes : ∀ {source source' : List (Option Char)}
    {members kept gone added members' : List (Option String × Tree)} {x : ρ},
    Lists source members → Lists source' members' →
    Projected s.slots members kept gone added members' →
    s.codec.decodeSource source = .ok x →
    s.codec.decodeSource source' = .ok (s.without (gone.map Prod.fst) x)

theorem Lawful.projects (hs : s.Lawful) : s.Projects where
  absent := hs.absent
  decodes := by
    intro source source' members kept gone added members' x hsource hsource' hprojected hx
    rw [decodeSource_object hsource] at hx
    rw [decodeSource_object hsource']
    have hread := hprojected.reading hs (reading_of_readMembers hx) hsource'.complete
    exact hread.readMembers_eq

end Shape

end Catalogue.Json
