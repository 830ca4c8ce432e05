import Catalogue.Proofs.QueryCalls
import Catalogue.Proofs.QueryFormat
import Mathlib.Data.List.Nodup

namespace Catalogue

namespace Entries

variable {β : Type}

theorem mem_iff_lookup {es : Entries β} (h : es.names.Nodup) {name : String} {b : β} :
    (name, b) ∈ es ↔ es.lookup name = some b := by
  induction es with
  | nil => simp
  | cons entry es ih =>
      obtain ⟨k, c⟩ := entry
      rw [names, List.map_cons, List.nodup_cons] at h
      rw [List.mem_cons, List.lookup_cons]
      by_cases hname : name = k
      · subst hname
        have hnot : (name, b) ∉ es := fun hmem => h.1 (List.mem_map.2 ⟨_, hmem, rfl⟩)
        simp [hnot, eq_comm]
      · have hother : (name == k) = false := by simpa using hname
        simp [hname, hother, ih h.2]

end Entries

namespace Query

def sorted (mentions : List (String × Direction)) : Query :=
  mentions.foldl (fun q mention => q.withSort mention.1 mention.2) {}

def sortKey (path : String) : String := "$sort[" ++ Path.camelPath path ++ "]"

/-- A path that the service is sent a direction for: the last one it was mentioned with. -/
def Sent (mentions : List (String × Direction)) (path : String) : Prop :=
  ∃ direction, Entries.latest? mentions path = some direction ∧ direction ≠ .unordered

/-- No field is written in two ways among the paths that are sent. -/
def OneSpelling (mentions : List (String × Direction)) : Prop :=
  ∀ path other, Sent mentions path → Sent mentions other →
    Path.camelPath path = Path.camelPath other → path = other

theorem sorted_eq (mentions : List (String × Direction)) :
    sorted mentions = { sort := Entries.ofMentions mentions } := by
  induction mentions using List.reverseRecOn with
  | nil => rfl
  | append_singleton mentions mention ih =>
      have hconcat : sorted (mentions ++ [mention]) =
          (sorted mentions).withSort mention.1 mention.2 := List.foldl_concat _ _ _ _
      rw [hconcat, ih, withSort, Entries.ofMentions_concat]

theorem sortKey_inj {path other : String} :
    sortKey path = sortKey other ↔ Path.camelPath path = Path.camelPath other := by
  simp [sortKey]

def sentPaths (mentions : List (String × Direction)) : List String :=
  Entries.names ((Entries.ofMentions mentions).filter (·.2 ≠ .unordered))

theorem nodup_sentPaths (mentions : List (String × Direction)) : (sentPaths mentions).Nodup :=
  (Entries.nodup_ofMentions mentions).sublist (List.filter_sublist.map Prod.fst)

theorem mem_sentPaths {mentions : List (String × Direction)} {path : String} :
    path ∈ sentPaths mentions ↔ Sent mentions path := by
  have hnodup := Entries.nodup_ofMentions mentions
  simp [sentPaths, Entries.names, Sent, Entries.mem_iff_lookup hnodup, Entries.lookup_ofMentions]

theorem oneSpelling_iff (mentions : List (String × Direction)) :
    (∀ path ∈ sentPaths mentions, ∀ other ∈ sentPaths mentions,
      Path.camelPath path = Path.camelPath other → path = other) ↔ OneSpelling mentions := by
  simp only [mem_sentPaths]
  exact ⟨fun h path other hpath hother => h path hpath other hother,
    fun h path hpath other hother => h path other hpath hother⟩

instance (mentions : List (String × Direction)) : Decidable (OneSpelling mentions) :=
  decidable_of_iff _ (oneSpelling_iff mentions)

theorem map_fst_sortEntries (es : Entries Direction) :
    (es.filterMap sortEntry?).map Prod.fst =
      (Entries.names (es.filter (·.2 ≠ .unordered))).map sortKey := by
  induction es with
  | nil => rfl
  | cons entry es ih =>
      obtain ⟨path, direction⟩ := entry
      rw [Entries.names, List.map_map] at ih ⊢
      cases direction <;>
        simpa [List.filterMap_cons, sortEntry?, Direction.wire?, sortKey] using ih

theorem map_fst_entries_sorted (mentions : List (String × Direction)) :
    (sorted mentions).entries.map Prod.fst = (sentPaths mentions).map sortKey := by
  rw [sorted_eq]
  simp [entries, countEntries, map_fst_sortEntries, sentPaths]

theorem unbroken_sorted {mentions : List (String × Direction)}
    (h : ∀ mention ∈ mentions, Path.Unbroken mention.1) : (sorted mentions).Unbroken := by
  rw [sorted_eq]
  refine ⟨fun entry hentry => ?_, by simp⟩
  have hname : entry.1 ∈ (Entries.ofMentions mentions).names := List.mem_map_of_mem hentry
  rw [Entries.names_ofMentions, List.mem_eraseDups] at hname
  obtain ⟨mention, hmention, heq⟩ := List.mem_map.1 hname
  exact heq ▸ h mention hmention

theorem nodup_entriesOf_iff {q : Query} (h : q.Unbroken) :
    ((entriesOf q.text).map Prod.fst).Nodup ↔ (q.entries.map Prod.fst).Nodup := by
  by_cases hempty : q.text = ""
  · rw [q.text_eq_empty_iff_entries.1 hempty, hempty]
    simp [entriesOf]
  · rw [map_fst_entriesOf h.row hempty, ← map_plain_rows, List.map_map]
    rfl

/-- The keys of a sort are told apart exactly if no field is written in two ways among the paths
that are sent. -/
theorem sort_keys_distinct_iff (mentions : List (String × Direction)) :
    (sorted mentions).text = "&".intercalate ((sorted mentions).entries.map entryText) ∧
      (((sorted mentions).entries.map Prod.fst).Nodup ↔ OneSpelling mentions) ∧
      ((∀ mention ∈ mentions, Path.Unbroken mention.1) →
        (((entriesOf (sorted mentions).text).map Prod.fst).Nodup ↔ OneSpelling mentions)) := by
  have hkeys : ((sorted mentions).entries.map Prod.fst).Nodup ↔ OneSpelling mentions := by
    rw [map_fst_entries_sorted, List.nodup_map_iff_inj_on (nodup_sentPaths mentions),
      ← oneSpelling_iff]
    simp only [sortKey_inj]
  refine ⟨text_eq_entries _, hkeys, fun h => ?_⟩
  rw [nodup_entriesOf_iff (unbroken_sorted h), hkeys]

def levelTakenBack : List (String × Direction) :=
  [("level", .ascending), ("name.en", .descending), ("level", .unordered), ("Level", .descending)]

theorem levelTakenBack_keys_distinct :
    (∀ mention ∈ levelTakenBack, Path.Unbroken mention.1) ∧ OneSpelling levelTakenBack ∧
      ((entriesOf (sorted levelTakenBack).text).map Prod.fst).Nodup := by
  have hunbroken : ∀ mention ∈ levelTakenBack, Path.Unbroken mention.1 := by decide
  have hspelling : OneSpelling levelTakenBack := by decide
  exact ⟨hunbroken, hspelling,
    ((sort_keys_distinct_iff levelTakenBack).2.2 hunbroken).2 hspelling⟩

/-- A level that is sorted by in two spellings is sent with both directions. -/
theorem levelSpelledTwice_sent :
    (sorted [("Level", .ascending), ("level", .descending)]).text =
        "$sort[level]=1&$sort[level]=-1" ∧
      ¬ ((entriesOf (sorted [("Level", .ascending), ("level", .descending)]).text).map
        Prod.fst).Nodup := by
  refine ⟨rfl, ?_⟩
  decide +kernel

end Query

end Catalogue
