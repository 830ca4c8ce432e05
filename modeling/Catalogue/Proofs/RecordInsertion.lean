import Catalogue.Proofs.RecordProjection

namespace Catalogue

namespace Json.Shape

variable {ρ : Type} {s : Shape ρ} {depth : Nat}

theorem readMembers_eq_ok {slots : List (Slot ρ)} {seen : List String} {r r' : ρ}
    {members : List (Option String × Tree)} :
    readMembers slots depth seen r members = .ok r' ↔ Reading slots depth seen r members r' :=
  ⟨reading_of_readMembers, Reading.readMembers_eq⟩

theorem set_comm (hs : s.Lawful) {slot other : Slot ρ} (hslot : slot ∈ s.slots)
    (hother : other ∈ s.slots) (hne : slot.key ≠ other.key) (v : slot.α) (w : other.α) (r : ρ) :
    slot.set v (other.set w r) = other.set w (slot.set v r) := by
  apply hs.toWhole.ext
  intro third hthird
  by_cases hfirst : slot.key = third.key
  · obtain rfl := eq_of_slot? hs.keys hslot (hfirst ▸ slot?_of_mem hs.keys hthird)
    rw [get_set hs.apart hslot, get_set_other hs.apart hother hslot hne.symm,
      get_set hs.apart hslot]
  rw [get_set_other hs.apart hslot hthird hfirst]
  by_cases hsecond : other.key = third.key
  · obtain rfl := eq_of_slot? hs.keys hother (hsecond ▸ slot?_of_mem hs.keys hthird)
    rw [get_set hs.apart hother, get_set hs.apart hother]
  · rw [get_set_other hs.apart hother hthird hsecond, get_set_other hs.apart hother hthird hsecond,
      get_set_other hs.apart hslot hthird hfirst]

theorem Reading.set (hs : s.Lawful) {slot : Slot ρ} (hslot : slot ∈ s.slots) (v : slot.α)
    {members : List (Option String × Tree)} {seen : List String} {r x : ρ}
    (h : Reading s.slots depth seen r members x) (hmembers : ∀ t, (some slot.key, t) ∉ members)
    {seen' : List String} (hseen : ∀ key ∈ seen', key ≠ slot.key → key ∈ seen) :
    Reading s.slots depth seen' (slot.set v r) members (slot.set v x) := by
  induction h generalizing seen' with
  | nil => exact .nil _ _
  | skip unknown complete _ ih =>
      exact .skip unknown complete (ih (fun t ht => hmembers t (List.mem_cons_of_mem _ ht)) hseen)
  | @take seen r x other t members w known unseen read _ ih =>
      have hne : other.key ≠ slot.key := fun heq => hmembers t (heq ▸ List.mem_cons_self)
      refine .take known (fun hmem => unseen (hseen other.key hmem hne)) read ?_
      rw [← set_comm hs hslot (slot?_eq_some known).1 hne.symm]
      refine ih (fun t ht => hmembers t (List.mem_cons_of_mem _ ht)) fun key hkey hother => ?_
      obtain rfl | hkey := List.mem_cons.1 hkey
      · exact List.mem_cons_self
      · exact List.mem_cons_of_mem _ (hseen key hkey hother)

theorem Reading.unset (hs : s.Lawful) {slot : Slot ρ} (hslot : slot ∈ s.slots) {v : slot.α}
    {members : List (Option String × Tree)} {seen' : List String} {r y : ρ}
    (h : Reading s.slots depth seen' (slot.set v r) members y)
    (hmembers : ∀ t, (some slot.key, t) ∉ members) {seen : List String} (hseen : seen ⊆ seen') :
    ∃ x, Reading s.slots depth seen r members x ∧ y = slot.set v x := by
  generalize hr : slot.set v r = r' at h
  induction h generalizing seen r with
  | nil => exact ⟨r, .nil seen r, hr.symm⟩
  | skip unknown complete _ ih =>
      obtain ⟨x, hx, hy⟩ := ih (fun t ht => hmembers t (List.mem_cons_of_mem _ ht)) hseen hr
      exact ⟨x, .skip unknown complete hx, hy⟩
  | @take seen' r' y other t members w known unseen read _ ih =>
      have hne : other.key ≠ slot.key := fun heq => hmembers t (heq ▸ List.mem_cons_self)
      subst hr
      obtain ⟨x, hx, hy⟩ := ih (fun t ht => hmembers t (List.mem_cons_of_mem _ ht))
        (List.cons_subset_cons other.key hseen)
        (set_comm hs hslot (slot?_eq_some known).1 hne.symm v w r)
      exact ⟨x, .take known (fun hmem => unseen (hseen hmem)) read hx, hy⟩

theorem Reading.cons_known {slots : List (Slot ρ)} {slot : Slot ρ} {t : Tree}
    {members : List (Option String × Tree)} {seen : List String} {r y : ρ}
    (h : Reading slots depth seen r ((some slot.key, t) :: members) y)
    (hslot : slot? slots slot.key = some slot) :
    slot.key ∉ seen ∧ ∃ v, slot.codec.read depth t = .ok v ∧
      Reading slots depth (slot.key :: seen) (slot.set v r) members y := by
  generalize hall : (some slot.key, t) :: members = all at h
  cases h with
  | nil => cases hall
  | skip unknown =>
      cases hall
      rw [hslot] at unknown
      cases unknown
  | @take _ _ _ other _ _ v known unseen read rest =>
      obtain ⟨⟨hkey, rfl⟩, rfl⟩ : (slot.key = other.key ∧ t = _) ∧ members = _ := by
        simpa using hall
      rw [← hkey, hslot] at known
      obtain rfl := Option.some.inj known
      exact ⟨unseen, v, read, rest⟩

/-- A member for a field comes to the value of that field, and to nothing else. -/
theorem reading_insert (hs : s.Lawful) {slot : Slot ρ} (hslot : slot ∈ s.slots)
    {before after : List (Option String × Tree)}
    (hmembers : ∀ t, (some slot.key, t) ∉ before ++ after) {seen : List String}
    (hseen : slot.key ∉ seen) {t : Tree} {r y : ρ} :
    Reading s.slots depth seen r (before ++ (some slot.key, t) :: after) y ↔
      ∃ x v, Reading s.slots depth seen r (before ++ after) x ∧
        slot.codec.read depth t = .ok v ∧ y = slot.set v x := by
  have hknown := slot?_of_mem hs.keys hslot
  induction before generalizing seen r with
  | nil =>
      constructor
      · intro h
        obtain ⟨-, v, hv, hrest⟩ := h.cons_known hknown
        obtain ⟨x, hx, hy⟩ := hrest.unset hs hslot hmembers (List.subset_cons_self slot.key seen)
        exact ⟨x, v, hx, hv, hy⟩
      · rintro ⟨x, v, hx, hv, rfl⟩
        refine .take hknown hseen hv (hx.set hs hslot v hmembers fun key hkey hne => ?_)
        exact (List.mem_cons.1 hkey).resolve_left hne
  | cons member before ih =>
      have hlater : ∀ t, (some slot.key, t) ∉ before ++ after :=
        fun t ht => hmembers t (List.mem_cons_of_mem member ht)
      rw [List.cons_append, List.cons_append]
      constructor
      · intro h
        cases h with
        | skip unknown complete rest =>
            obtain ⟨x, v, hx, hv, hy⟩ := (ih hlater hseen).1 rest
            exact ⟨x, v, .skip unknown complete hx, hv, hy⟩
        | @take _ _ _ other t' _ w known unseen read rest =>
            have hne : slot.key ≠ other.key := fun heq => hmembers t' (heq ▸ List.mem_cons_self)
            obtain ⟨x, v, hx, hv, hy⟩ :=
              (ih hlater fun hmem => hseen ((List.mem_cons.1 hmem).resolve_left hne)).1 rest
            exact ⟨x, v, .take known unseen read hx, hv, hy⟩
      · rintro ⟨x, v, hx, hv, rfl⟩
        cases hx with
        | skip unknown complete rest =>
            exact .skip unknown complete ((ih hlater hseen).2 ⟨x, v, rest, hv, rfl⟩)
        | @take _ _ _ other t' _ w known unseen read rest =>
            have hne : slot.key ≠ other.key := fun heq => hmembers t' (heq ▸ List.mem_cons_self)
            have hseen' : slot.key ∉ other.key :: seen :=
              fun hmem => hseen ((List.mem_cons.1 hmem).resolve_left hne)
            exact .take known unseen read ((ih hlater hseen').2 ⟨x, v, rest, hv, rfl⟩)

end Json.Shape

end Catalogue
