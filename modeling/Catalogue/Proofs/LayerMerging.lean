import Catalogue.Settings.Variable
import Mathlib.Data.List.Nodup

namespace Catalogue

namespace Entries

variable {β : Type}

theorem lookup_of_notMem {key : String} {es : Entries β} (h : key ∉ es.names) :
    es.lookup key = none := by
  rw [List.lookup_eq_none_iff]
  intro entry hentry
  rw [bne_iff_ne]
  rintro rfl
  exact h (List.mem_map_of_mem hentry)

theorem put_of_notMem {key : String} (b : β) {es : Entries β} (h : key ∉ es.names) :
    put key b es = es ++ [(key, b)] := by
  induction es with
  | nil => rfl
  | cons entry es ih =>
      obtain ⟨k, c⟩ := entry
      rw [names, List.map_cons, List.mem_cons, not_or] at h
      rw [put, if_neg (Ne.symm h.1), ih h.2, List.cons_append]

theorem foldl_put_of_nodup {es : Entries β} (h : es.names.Nodup) (before : Entries β)
    (hnew : ∀ key ∈ es.names, key ∉ before.names) :
    es.foldl (fun all entry => put entry.1 entry.2 all) before = before ++ es := by
  induction es generalizing before with
  | nil => rw [List.foldl_nil, List.append_nil]
  | cons entry es ih =>
      rw [names, List.map_cons, List.nodup_cons] at h
      rw [List.foldl_cons, put_of_notMem entry.2 (hnew entry.1 List.mem_cons_self),
        ih h.2, List.append_assoc, List.singleton_append]
      intro key hkey
      rw [names, List.map_append, List.mem_append, not_or]
      refine ⟨hnew key (List.mem_cons_of_mem _ hkey), ?_⟩
      rw [List.map_singleton, List.mem_singleton]
      rintro rfl
      exact h.1 hkey

end Entries

namespace Layer

/-- What a name has when a layer in which it has `upper` is put over one in which it has `under`. -/
def overlay (under upper : Option Setting) : Option Setting :=
  match under, upper with
  | some (.table entries), some (.table entries') => some (.table (mergeEntries entries entries'))
  | under, none => under
  | _, some s => some s

def Mingle (under upper : Option Setting) : Prop :=
  ∃ entries entries', under = some (.table entries) ∧ upper = some (.table entries')

theorem overlay_none (under : Option Setting) : overlay under none = under := by
  unfold overlay
  split
  · rename_i heq
    cases heq
  · rfl
  · rename_i heq
    cases heq

theorem overlay_of_not_mingle {under upper : Option Setting} (h : ¬ Mingle under upper) :
    overlay under upper = upper.or under := by
  unfold overlay
  split
  · exact absurd ⟨_, _, rfl, rfl⟩ h
  · rw [Option.none_or]
  · rw [Option.some_or]

theorem Mingle.overlay {under upper : Option Setting} (h : Mingle under upper) :
    ∃ entries, Layer.overlay under upper = some (.table entries) := by
  obtain ⟨entries, entries', rfl, rfl⟩ := h
  exact ⟨_, rfl⟩

theorem mergeEntry_eq (lower : Layer) (key : String) (s : Setting) :
    ∃ s', overlay (lower.lookup key) (some s) = some s' ∧
      mergeEntry lower (key, s) = lower.put key s' := by
  by_cases h : ∃ entries, s = .table entries
  · obtain ⟨entries, rfl⟩ := h
    rw [mergeEntry]
    split
    · rename_i under hunder
      exact ⟨.table (mergeEntries under entries), by rw [hunder, overlay], rfl⟩
    · rename_i hother
      refine ⟨.table entries, ?_, rfl⟩
      rw [overlay_of_not_mingle, Option.some_or]
      rintro ⟨under, _, hunder, -⟩
      exact hother under hunder
  · rw [not_exists] at h
    refine ⟨s, ?_, by rw [mergeEntry]; exact h⟩
    rw [overlay_of_not_mingle, Option.some_or]
    rintro ⟨_, entries, -, heq⟩
    exact h entries (Option.some.inj heq)

theorem lookup_mergeEntry (lower : Layer) (key name : String) (s : Setting) :
    (mergeEntry lower (key, s)).lookup name =
      if name = key then overlay (lower.lookup key) (some s) else lower.lookup name := by
  obtain ⟨s', hoverlay, hmerge⟩ := mergeEntry_eq lower key s
  rw [hmerge, Entries.lookup_put, hoverlay]

theorem nodup_mergeEntries {lower : Layer} (h : lower.names.Nodup)
    (upper : List (String × Setting)) : (Entries.names (mergeEntries lower upper)).Nodup := by
  induction upper generalizing lower with
  | nil => rwa [mergeEntries]
  | cons entry upper ih =>
      obtain ⟨s', -, hmerge⟩ := mergeEntry_eq lower entry.1 entry.2
      rw [mergeEntries]
      apply ih
      rw [hmerge]
      exact Entries.nodup_put entry.1 s' h

theorem lookup_mergeEntries {upper : Layer} (h : upper.names.Nodup) (lower : Layer) (name : String) :
    (mergeEntries lower upper).lookup name = overlay (lower.lookup name) (upper.lookup name) := by
  induction upper generalizing lower with
  | nil => rw [mergeEntries, List.lookup_nil, overlay_none]
  | cons entry upper ih =>
      obtain ⟨key, s⟩ := entry
      rw [Entries.names, List.map_cons, List.nodup_cons] at h
      rw [mergeEntries, ih h.2, lookup_mergeEntry, List.lookup_cons]
      by_cases hname : name = key
      · subst hname
        have hlater : upper.lookup name = none := Entries.lookup_of_notMem h.1
        rw [hlater, overlay_none, if_pos rfl, BEq.rfl]
      · have hother : (name == key) = false := by simpa using hname
        rw [if_neg hname, hother]

theorem lookup_merge {upper : Layer} (h : upper.names.Nodup) (lower : Layer) (name : String) :
    (lower.merge upper).lookup name = overlay (lower.lookup name) (upper.lookup name) :=
  lookup_mergeEntries h lower name

end Layer

end Catalogue
