import Catalogue.Proofs.LayerMerging
import Catalogue.Proofs.Preliminaries

namespace Catalogue

namespace Text

theorem isBlank_toLower (c : Char) : isBlank c.toLower = isBlank c := by
  simp only [isBlank, blankRuns, List.any_cons, List.any_nil, toNat_toLower]
  rw [Bool.eq_iff_iff]
  simp only [Bool.or_eq_true, Bool.and_eq_true, decide_eq_true_eq, Bool.false_eq_true, or_false]
  split <;> omega

theorem dropBlank_of_forall {cs : List Char} (h : ∀ c ∈ cs, isBlank c = false) :
    dropBlank cs = cs := by
  cases cs with
  | nil => rfl
  | cons c cs => rw [dropBlank, List.dropWhile_cons, h c List.mem_cons_self, if_neg nofun]

theorem trim_of_forall {cs : List Char} (h : ∀ c ∈ cs, isBlank c = false) : trim cs = cs := by
  rw [trim, dropBlank_of_forall h, dropBlank_of_forall, List.reverse_reverse]
  intro c hc
  exact h c (List.mem_reverse.1 hc)

end Text

theorem cutAt_of_notMem {sep : Char} {cs : List Char} (h : sep ∉ cs) : cutAt sep cs = [cs] := by
  induction cs with
  | nil => rfl
  | cons c cs ih =>
      rw [List.mem_cons, not_or] at h
      rw [cutAt, if_neg (Ne.symm h.1), ih h.2]

namespace Variable

/-- A name without dots and blanks. -/
def Whole (name : String) : Prop := ∀ c ∈ name.toList, c ≠ '.' ∧ Text.isBlank c = false

instance (name : String) : Decidable (Whole name) :=
  List.decidableBAll _ _

theorem whole_toLower {name : String} (h : Whole name) : Whole name.toLower := by
  intro c hc
  rw [toList_toLower, List.mem_map] at hc
  obtain ⟨d, hd, rfl⟩ := hc
  refine ⟨?_, by rw [Text.isBlank_toLower, (h d hd).2]⟩
  intro hdot
  refine (h d hd).1 ?_
  have hsame : d.toLower = '.'.toLower := hdot
  rcases toLower_eq_toLower.1 hsame with heq | heq | heq
  · exact heq
  · exact heq
  · have hnat := congrArg Char.toNat heq
    have hperiod : '.'.toNat = 46 := rfl
    rw [toNat_toUpper, hperiod] at hnat
    rw [← Char.toNat_inj, hperiod]
    split at hnat <;> omega

theorem path?_of_marked {name key : String} (h : Whole name) (hname : name.toLower = mark ++ key) :
    path? name = if key = "" then none else some [key] := by
  have hkey : Whole key := by
    intro c hc
    apply whole_toLower h c
    rw [hname, String.toList_append]
    exact List.mem_append_right _ hc
  have hcut : cutAt '.' (Text.trim key.toList) = [key.toList] := by
    rw [Text.trim_of_forall fun c hc => (hkey c hc).2]
    exact cutAt_of_notMem fun hdot => (hkey '.' hdot).1 rfl
  have hmark : mark.length = mark.toList.length := rfl
  rw [path?, Text.trim_of_forall fun c hc => (h c hc).2, ← toList_toLower, hname,
    String.toList_append]
  simp only [List.isPrefixOf_iff_prefix, List.prefix_append, if_true, hmark, List.drop_left, hcut,
    List.map_singleton, String.ofList_toList, List.contains_iff_mem, List.mem_singleton,
    @eq_comm String "" key]

theorem path?_of_unmarked {name : String} (h : Whole name)
    (hname : ¬ mark.toList <+: name.toLower.toList) : path? name = none := by
  rw [path?, Text.trim_of_forall fun c hc => (h c hc).2, ← toList_toLower]
  exact if_neg (by rwa [List.isPrefixOf_iff_prefix])

theorem path?_eq_some {name : String} (h : Whole name) {path : List String} :
    path? name = some path ↔ ∃ key, key ≠ "" ∧ name.toLower = mark ++ key ∧ path = [key] := by
  by_cases hmarked : mark.toList <+: name.toLower.toList
  · obtain ⟨rest, hrest⟩ := hmarked
    have hname : name.toLower = mark ++ String.ofList rest := by
      rw [← String.toList_inj, ← hrest, String.toList_append, String.toList_ofList]
    rw [path?_of_marked h hname, hname]
    simp only [String.append_right_inj]
    constructor
    · intro hpath
      split at hpath
      · cases hpath
      · rename_i hne
        exact ⟨_, hne, rfl, (Option.some.inj hpath).symm⟩
    · rintro ⟨key, hne, rfl, rfl⟩
      rw [if_neg hne]
  · rw [path?_of_unmarked h hmarked]
    refine ⟨nofun, ?_⟩
    rintro ⟨key, -, hname, -⟩
    refine absurd ⟨key.toList, ?_⟩ hmarked
    rw [hname, String.toList_append]

/-- Variables whose names are whole and differ in more than case. -/
structure Apart (bindings : List (String × String)) : Prop where
  nodup : (bindings.map fun binding => binding.1.toLower).Nodup
  whole : ∀ binding ∈ bindings, Whole binding.1

/-- The text of the variable for a name, which may be written in any case. -/
def text? (bindings : List (String × String)) (key : String) : Option String :=
  (bindings.find? fun binding => binding.1.toLower == mark ++ key).map Prod.snd

theorem enter_eq {name : String} (h : Whole name) (text : String) {key : String} (hne : key ≠ "")
    (hname : name.toLower = mark ++ key) (lower : Layer) :
    enter lower (name, text) = lower.merge [(key, setting text)] := by
  have hpath : path? name = some [key] := (path?_eq_some h).2 ⟨key, hne, hname, rfl⟩
  rw [enter, hpath]
  rfl

theorem lookup_enter (lower : Layer) {name : String} (h : Whole name) (text : String) {key : String}
    (hne : key ≠ "") :
    (enter lower (name, text)).lookup key =
      if name.toLower = mark ++ key then Layer.overlay (lower.lookup key) (some (setting text))
      else lower.lookup key := by
  split
  · rename_i hname
    rw [enter_eq h text hne hname, Layer.lookup_merge (by simp [Entries.names]),
      List.lookup_cons, BEq.rfl]
  · rename_i hname
    cases hpath : path? name with
    | none => rw [enter, hpath]
    | some path =>
        obtain ⟨other, hother, hmarked, rfl⟩ := (path?_eq_some h).1 hpath
        have hkey : (key == other) = false := by
          rw [beq_eq_false_iff_ne]
          rintro rfl
          exact hname hmarked
        rw [enter_eq h text hother hmarked, Layer.lookup_merge (by simp [Entries.names]),
          List.lookup_cons, hkey, List.lookup_nil, Layer.overlay_none]

theorem nodup_enter {lower : Layer} (h : lower.names.Nodup) (binding : String × String) :
    (enter lower binding).names.Nodup := by
  rw [enter.eq_def]
  split
  split
  · split
    · exact Layer.nodup_mergeEntries h _
    · exact h
  · exact h

theorem nodup_layer (bindings : List (String × String)) : (layer bindings).names.Nodup := by
  suffices h : ∀ es : List (String × String), ∀ lower : Layer, lower.names.Nodup →
      (es.foldl enter lower).names.Nodup from h _ [] List.nodup_nil
  intro es
  induction es with
  | nil => exact fun _ h => h
  | cons binding es ih => exact fun lower h => ih _ (nodup_enter h binding)

namespace Apart

variable {bindings : List (String × String)}

theorem environment_eq (h : Apart bindings) : environment bindings = bindings := by
  have hnodup : (bindings.map Prod.fst).Nodup := by
    refine List.Nodup.of_map String.toLower ?_
    rw [List.map_map]
    exact h.nodup
  exact Entries.foldl_put_of_nodup hnodup [] fun _ _ => List.not_mem_nil

theorem foldl_enter (h : Apart bindings) (lower : Layer) {key : String} (hne : key ≠ "") :
    (bindings.foldl enter lower).lookup key =
      Layer.overlay (lower.lookup key) ((text? bindings key).map setting) := by
  induction bindings generalizing lower with
  | nil => exact (Layer.overlay_none _).symm
  | cons binding bindings ih =>
      obtain ⟨name, text⟩ := binding
      have hnodup := h.nodup
      rw [List.map_cons, List.nodup_cons] at hnodup
      have hrest : Apart bindings :=
        ⟨hnodup.2, fun binding hmem => h.whole binding (List.mem_cons_of_mem _ hmem)⟩
      rw [List.foldl_cons, ih hrest, lookup_enter lower (h.whole _ List.mem_cons_self) text hne,
        text?, text?, List.find?_cons]
      by_cases hname : name.toLower = mark ++ key
      · have hlater : bindings.find? (fun binding => binding.1.toLower == mark ++ key) = none := by
          rw [List.find?_eq_none]
          intro binding hmem heq
          refine hnodup.1 ?_
          rw [hname, ← beq_iff_eq.1 heq]
          exact List.mem_map_of_mem hmem
        rw [if_pos hname, hlater]
        simp [hname, Layer.overlay_none]
      · have hother : (name.toLower == mark ++ key) = false := by simpa using hname
        rw [if_neg hname]
        simp only [hother]

theorem lookup_layer (h : Apart bindings) {key : String} (hne : key ≠ "") :
    (layer bindings).lookup key = (text? bindings key).map setting := by
  rw [layer, h.environment_eq, h.foldl_enter [] hne, List.lookup_nil, Layer.overlay_of_not_mingle,
    Option.or_none]
  rintro ⟨_, _, hnone, -⟩
  cases hnone

end Apart

end Variable

end Catalogue
