namespace Catalogue

abbrev Entries (β : Type) := List (String × β)

namespace Entries

variable {β : Type}

def names (es : Entries β) : List String := es.map Prod.fst

def put (key : String) (b : β) : Entries β → Entries β
  | [] => [(key, b)]
  | (k, c) :: es => if k = key then (key, b) :: es else (k, c) :: put key b es

theorem lookup_put (key k : String) (b : β) (es : Entries β) :
    (put key b es).lookup k = if k = key then some b else es.lookup k := by
  induction es with
  | nil =>
    by_cases h : k = key
    · simp [put, h]
    · have hb : (k == key) = false := by simpa using h
      simp [put, List.lookup_cons, h, hb]
  | cons entry es ih =>
    obtain ⟨l, c⟩ := entry
    unfold put
    by_cases h : l = key
    · subst h
      by_cases hk : k = l
      · simp [hk]
      · have hb : (k == l) = false := by simpa using hk
        simp [List.lookup_cons, hk, hb]
    · by_cases hk : k = l
      · subst hk
        simp [h]
      · have hb : (k == l) = false := by simpa using hk
        simp [List.lookup_cons, h, hb, ih]

theorem names_put (key : String) (b : β) (es : Entries β) :
    (put key b es).names = if key ∈ es.names then es.names else es.names ++ [key] := by
  induction es with
  | nil => rfl
  | cons entry es ih =>
    obtain ⟨l, c⟩ := entry
    unfold put
    by_cases h : l = key
    · subst h
      simp [names]
    · have hk : ¬ key = l := fun e => h e.symm
      simp only [names, h, if_false, List.map_cons, List.mem_cons, hk, false_or] at ih ⊢
      by_cases hm : key ∈ es.map Prod.fst
      · simp [ih, hm]
      · simp [ih, hm]

theorem nodup_put (key : String) (b : β) {es : Entries β} (h : es.names.Nodup) :
    (put key b es).names.Nodup := by
  rw [names_put]
  split
  · exact h
  · rename_i hk
    rw [List.nodup_append]
    refine ⟨h, by simp, ?_⟩
    intro a ha c hc
    rw [List.mem_singleton] at hc
    rintro rfl
    exact hk (hc ▸ ha)

end Entries

end Catalogue
