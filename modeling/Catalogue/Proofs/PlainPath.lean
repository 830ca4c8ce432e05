import Catalogue.Path
import Catalogue.Proofs.Preliminaries

namespace Catalogue.Path

/-- A token that cannot be confused with what stands around it in a key. -/
def Clear (token : String) : Prop := ∀ c ∈ token.toList, c ∉ ['[', ']', '=', '&']

instance (token : String) : Decidable (Clear token) :=
  List.decidableBAll _ token.toList

def Unbroken (text : String) : Prop := ∀ c ∈ text.toList, c ∉ ['&', '=']

instance (text : String) : Decidable (Unbroken text) :=
  List.decidableBAll _ text.toList

theorem Clear.unbroken {token : String} (h : Clear token) : Unbroken token := by
  intro c hc hsep
  apply h c hc
  simp only [List.mem_cons, List.not_mem_nil, or_false] at hsep ⊢
  exact .inr (.inr hsep.symm)

structure Plain (path : String) : Prop where
  fixed : camelPath path = path
  filled : ∀ s ∈ segments path, s ≠ ""
  unmarked : ∀ s ∈ segments path, s.toList.head? ≠ some '$'
  clear : ∀ s ∈ segments path, Clear s

instance (path : String) : Decidable (Plain path) :=
  decidable_of_iff (camelPath path = path ∧
      ∀ s ∈ segments path, s ≠ "" ∧ s.toList.head? ≠ some '$' ∧ Clear s)
    ⟨fun h => ⟨h.1, fun s hs => (h.2 s hs).1, fun s hs => (h.2 s hs).2.1,
        fun s hs => (h.2 s hs).2.2⟩,
      fun h => ⟨h.fixed, fun s hs => ⟨h.filled s hs, h.unmarked s hs, h.clear s hs⟩⟩⟩

theorem camelSegments_eq_map (path : String) :
    camelSegments path = ((cutAt '.' path.toList).map camelChars).map String.ofList := by
  rw [camelSegments, segments, List.map_map, List.map_map]
  apply List.map_congr_left
  intro piece _
  simp [camelSegment]

theorem toList_camelPath (path : String) :
    (camelPath path).toList = ['.'].intercalate ((cutAt '.' path.toList).map camelChars) := by
  have hlists (pieces : List (List Char)) :
      (pieces.map String.ofList).map String.toList = pieces := by
    simp [Function.comp_def]
  rw [camelPath, String.toList_intercalate, camelSegments_eq_map, hlists]
  rfl

/-- A path that is its own camel case has segments that are: writing one in camel case adds no dot,
or the path would have more of them than before. -/
theorem camelSegments_eq {path : String} (h : camelPath path = path) :
    camelSegments path = segments path := by
  have hjoin : ['.'].intercalate ((cutAt '.' path.toList).map camelChars) =
      ['.'].intercalate (cutAt '.' path.toList) := by
    rw [← toList_camelPath, h, intercalate_cutAt]
  have hne := cutAt_ne_nil '.' path.toList
  have hclear : ∀ piece ∈ (cutAt '.' path.toList).map camelChars, '.' ∉ piece :=
    notMem_of_count_eq hne (List.length_map _) (fun _ hpiece => notMem_of_mem_cutAt hpiece)
      (congrArg (List.count '.') hjoin)
  have hsegments := intercalate_inj hclear (fun _ hpiece => notMem_of_mem_cutAt hpiece)
    (by simpa using hne) hne hjoin
  rw [camelSegments_eq_map, hsegments, segments]

theorem camelSegments_ne_nil (path : String) : camelSegments path ≠ [] := by
  simp [camelSegments, segments, cutAt_ne_nil]

theorem lt_of_mem_separators {c : Char} (h : c ∈ ['&', '=']) : c.toNat < 0x61 := by
  simp only [List.mem_cons, List.not_mem_nil, or_false] at h
  obtain rfl | rfl := h <;> decide

theorem mem_camelChars {segment : List Char} {c : Char} (h : c ∈ camelChars segment) :
    c ∈ segment ∨ 0x61 ≤ c.toNat := by
  unfold camelChars at h
  split at h
  · cases h
  cases segment with
  | nil => cases h
  | cons first rest =>
      obtain hlower | hrest := List.mem_append.1 h
      · obtain rfl | hle := Text.mem_lower hlower
        · exact .inl List.mem_cons_self
        · exact .inr hle
      · exact .inl (List.mem_cons_of_mem first hrest)

theorem unbroken_camelChars {segment : List Char} (h : ∀ c ∈ segment, c ∉ ['&', '=']) :
    ∀ c ∈ camelChars segment, c ∉ ['&', '='] := by
  intro c hc hsep
  obtain hmem | hle := mem_camelChars hc
  · exact h c hmem hsep
  · have hlt := lt_of_mem_separators hsep
    omega

namespace Unbroken

variable {path : String}

theorem camelSegments (h : Unbroken path) : ∀ s ∈ camelSegments path, Unbroken s := by
  rw [camelSegments_eq_map]
  intro s hs
  obtain ⟨camel, hcamel, rfl⟩ := List.mem_map.1 hs
  obtain ⟨piece, hpiece, rfl⟩ := List.mem_map.1 hcamel
  unfold Unbroken
  rw [String.toList_ofList]
  apply unbroken_camelChars
  intro c hc
  apply h c
  rw [← intercalate_cutAt '.' path.toList]
  exact mem_intercalate hpiece hc

theorem camelPath (h : Unbroken path) : Unbroken (camelPath path) := by
  intro c hc
  rw [Path.camelPath, String.toList_intercalate] at hc
  obtain rfl | ⟨piece, hpiece, hc⟩ := mem_of_mem_intercalate hc
  · decide
  · obtain ⟨s, hs, rfl⟩ := List.mem_map.1 hpiece
    exact h.camelSegments s hs c hc

end Unbroken

namespace Plain

variable {path other : String}

theorem clear_path (h : Plain path) : Clear path := by
  intro c hc
  rw [← intercalate_cutAt '.' path.toList] at hc
  obtain rfl | ⟨piece, hpiece, hc⟩ := mem_of_mem_intercalate hc
  · decide
  · apply h.clear (String.ofList piece) (List.mem_map_of_mem hpiece) c
    rwa [String.toList_ofList]

theorem head?_ne (h : Plain path) : path.toList.head? ≠ some '$' := by
  obtain ⟨piece, pieces, hcut⟩ := List.exists_cons_of_ne_nil (cutAt_ne_nil '.' path.toList)
  have hmem : String.ofList piece ∈ segments path := by
    rw [segments, hcut]
    exact List.mem_cons_self
  have hne : piece ≠ [] := by
    rintro rfl
    exact h.filled _ hmem rfl
  have hunmarked := h.unmarked _ hmem
  rw [String.toList_ofList] at hunmarked
  rwa [← intercalate_cutAt '.' path.toList, hcut, head?_intercalate hne]

theorem camelSegments_inj (h : Plain path) (h' : Plain other)
    (heq : camelSegments path = camelSegments other) : path = other := by
  rw [← h.fixed, ← h'.fixed, camelPath, camelPath, heq]

end Plain

end Catalogue.Path
