import Mathlib.Data.List.Forall2

namespace Catalogue

namespace Except

variable {ε ε' α β : Type}

theorem bind_eq_ok {x : Except ε α} {f : α → Except ε β} {b : β} :
    (x >>= f) = .ok b ↔ ∃ a, x = .ok a ∧ f a = .ok b := by
  cases x with
  | error e => simp [bind, Except.bind]
  | ok a => simp [bind, Except.bind]

theorem bind_eq_error {x : Except ε α} {f : α → Except ε β} {e : ε} :
    (x >>= f) = .error e ↔ x = .error e ∨ ∃ a, x = .ok a ∧ f a = .error e := by
  cases x with
  | error e => simp [bind, Except.bind]
  | ok a => simp [bind, Except.bind]

theorem map_eq_ok {x : Except ε α} {f : α → β} {b : β} :
    f <$> x = .ok b ↔ ∃ a, x = .ok a ∧ f a = b := by
  cases x with
  | error e => simp [Functor.map, Except.map]
  | ok a => simp [Functor.map, Except.map]

theorem mapError_eq_ok {x : Except ε α} {f : ε → ε'} {a : α} :
    x.mapError f = .ok a ↔ x = .ok a := by
  cases x with
  | error e => exact ⟨nofun, nofun⟩
  | ok b => constructor <;> (intro h; cases h; rfl)

theorem mapError_eq_error {x : Except ε α} {f : ε → ε'} {e : ε'} :
    x.mapError f = .error e ↔ ∃ cause, x = .error cause ∧ f cause = e := by
  cases x with
  | error cause =>
      constructor
      · intro h
        exact ⟨cause, rfl, Except.error.inj h⟩
      · rintro ⟨_, ⟨⟩, rfl⟩
        rfl
  | ok a => exact ⟨nofun, by rintro ⟨_, ⟨⟩, _⟩⟩

end Except

/-- Equal but for the case of ASCII letters. -/
def SameLetters (s t : String) : Prop :=
  List.Forall₂ (fun c d => c = d ∨ c = d.toUpper ∨ c.toUpper = d) s.toList t.toList

instance (s t : String) : Decidable (SameLetters s t) :=
  inferInstanceAs (Decidable (List.Forall₂ _ s.toList t.toList))

theorem toNat_toLower (c : Char) :
    c.toLower.toNat = if 65 ≤ c.toNat ∧ c.toNat ≤ 90 then c.toNat + 32 else c.toNat := by
  have hA : 'A'.val.toNat = 65 := rfl
  have hZ : 'Z'.val.toNat = 90 := rfl
  have hshift : ('a'.val - 'A'.val).toNat = 32 := rfl
  unfold Char.toLower Char.toNat
  simp only [UInt32.le_iff_toNat_le, ge_iff_le, hA, hZ]
  split
  · simp only [UInt32.toNat_add, hshift]
    omega
  · rfl

theorem toNat_toUpper (c : Char) :
    c.toUpper.toNat = if 97 ≤ c.toNat ∧ c.toNat ≤ 122 then c.toNat - 32 else c.toNat := by
  have ha : 'a'.val.toNat = 97 := rfl
  have hz : 'z'.val.toNat = 122 := rfl
  -- The shift goes down by 32, modulo the width of a word.
  have hshift : ('A'.val - 'a'.val).toNat = 4294967264 := rfl
  unfold Char.toUpper Char.toNat
  simp only [UInt32.le_iff_toNat_le, ha, hz]
  split
  · simp only [UInt32.toNat_add, hshift]
    omega
  · rfl

theorem toLower_eq_toLower {c d : Char} :
    c.toLower = d.toLower ↔ c = d ∨ c = d.toUpper ∨ c.toUpper = d := by
  simp only [← Char.toNat_inj, toNat_toLower, toNat_toUpper]
  split <;> split <;> split <;> split <;> omega

theorem toList_toLower (s : String) : s.toLower.toList = s.toList.map Char.toLower := by
  change (s.map Char.toLower).toList = _
  rw [String.toList_map]

theorem toLower_eq_iff {s t : String} : s.toLower = t.toLower ↔ SameLetters s t := by
  rw [← String.toList_inj, toList_toLower, toList_toLower, ← List.forall₂_eq_eq_eq,
    List.forall₂_map_left_iff, List.forall₂_map_right_iff]
  simp only [SameLetters, toLower_eq_toLower]

variable {sep : Char}

theorem intercalate_inj {pieces others : List (List Char)} (hpieces : ∀ piece ∈ pieces, sep ∉ piece)
    (hothers : ∀ piece ∈ others, sep ∉ piece) (hne : pieces ≠ []) (hne' : others ≠ [])
    (h : [sep].intercalate pieces = [sep].intercalate others) : pieces = others := by
  have hcut := congrArg (List.splitOn sep) h
  rwa [List.splitOn_intercalate sep hpieces hne, List.splitOn_intercalate sep hothers hne'] at hcut

theorem takeWhile_append_cons {before : List Char} (h : sep ∉ before) (after : List Char) :
    (before ++ sep :: after).takeWhile (· != sep) = before := by
  rw [List.takeWhile_append_of_pos]
  · simp
  · intro c hc
    simpa using fun hsep : c = sep => h (hsep ▸ hc)

theorem dropWhile_append_cons {before : List Char} (h : sep ∉ before) (after : List Char) :
    (before ++ sep :: after).dropWhile (· != sep) = sep :: after := by
  have hwhole := List.takeWhile_append_dropWhile (p := (· != sep)) (l := before ++ sep :: after)
  rw [takeWhile_append_cons h] at hwhole
  exact List.append_cancel_left hwhole

theorem append_cons_inj {before before' after after' : List Char} (h : sep ∉ before)
    (h' : sep ∉ before') (heq : before ++ sep :: after = before' ++ sep :: after') :
    before = before' ∧ after = after' := by
  have hbefore : before = before' := by
    rw [← takeWhile_append_cons h after, heq, takeWhile_append_cons h' after']
  subst hbefore
  exact ⟨rfl, (List.cons.inj (List.append_cancel_left heq)).2⟩

theorem mem_intercalate {piece : List Char} {pieces : List (List Char)} {c : Char}
    (hpiece : piece ∈ pieces) (hc : c ∈ piece) : c ∈ [sep].intercalate pieces := by
  induction pieces with
  | nil => cases hpiece
  | cons first pieces ih =>
      cases pieces with
      | nil => simpa [List.mem_singleton.1 hpiece] using hc
      | cons next pieces =>
          rw [List.intercalate_cons_cons, List.mem_append]
          obtain rfl | hmem := List.mem_cons.1 hpiece
          · exact .inl (List.mem_append_left [sep] hc)
          · exact .inr (ih hmem)

theorem mem_of_mem_intercalate {pieces : List (List Char)} {c : Char}
    (h : c ∈ [sep].intercalate pieces) : c = sep ∨ ∃ piece ∈ pieces, c ∈ piece := by
  induction pieces with
  | nil => cases h
  | cons piece pieces ih =>
      cases pieces with
      | nil => exact .inr ⟨piece, by simp, by simpa using h⟩
      | cons next pieces =>
          rw [List.intercalate_cons_cons, List.mem_append, List.mem_append] at h
          obtain (hc | hc) | hc := h
          · exact .inr ⟨piece, by simp, hc⟩
          · exact .inl (List.mem_singleton.1 hc)
          obtain hsep | ⟨p, hp, hc⟩ := ih hc
          · exact .inl hsep
          · exact .inr ⟨p, List.mem_cons_of_mem piece hp, hc⟩

theorem head?_intercalate {piece : List Char} (h : piece ≠ []) (pieces : List (List Char)) :
    ([sep].intercalate (piece :: pieces)).head? = piece.head? := by
  obtain ⟨c, cs, rfl⟩ := List.exists_cons_of_ne_nil h
  cases pieces with
  | nil => rw [List.intercalate_singleton]
  | cons next pieces =>
      rw [List.intercalate_cons_cons]
      rfl

theorem count_intercalate (piece : List Char) (pieces : List (List Char)) :
    ([sep].intercalate (piece :: pieces)).count sep =
      pieces.length + (piece :: pieces).flatten.count sep := by
  induction pieces generalizing piece with
  | nil => simp
  | cons next pieces ih =>
      rw [List.intercalate_cons_cons, List.count_append, List.count_append, ih]
      simp only [List.flatten_cons, List.count_append, List.count_singleton_self, List.length_cons]
      omega

theorem notMem_of_count_eq {pieces others : List (List Char)} (hne : pieces ≠ [])
    (hlength : others.length = pieces.length) (hpieces : ∀ piece ∈ pieces, sep ∉ piece)
    (h : ([sep].intercalate others).count sep = ([sep].intercalate pieces).count sep) :
    ∀ piece ∈ others, sep ∉ piece := by
  obtain ⟨piece, rest, rfl⟩ := List.exists_cons_of_ne_nil hne
  have hnone : (piece :: rest).flatten.count sep = 0 := by
    apply List.count_eq_zero.2
    intro hmem
    obtain ⟨p, hp, hsep⟩ := List.mem_flatten.1 hmem
    exact hpieces p hp hsep
  cases others with
  | nil => cases hlength
  | cons other others =>
      rw [count_intercalate, count_intercalate, hnone] at h
      rw [List.length_cons, List.length_cons] at hlength
      have hzero : (other :: others).flatten.count sep = 0 := by omega
      intro p hp hsep
      exact List.count_eq_zero.1 hzero (List.mem_flatten.2 ⟨p, hp, hsep⟩)

end Catalogue
