import Catalogue.Proofs.CompileMeaning
import Catalogue.Proofs.PlainPath
import Catalogue.Proofs.QueryRows

namespace Catalogue

namespace Text

abbrev LowercaseRun := Nat × Nat × Nat × Int

def forms (run : LowercaseRun) : Nat × Nat × Nat :=
  ((run.1 + run.2.2.2).toNat, (run.2.1 + run.2.2.2).toNat,
    if run.1 = run.2.1 then 2 else run.2.2.1)

def misses (run : LowercaseRun) : Nat × Nat × Nat → Bool
  | (first, last, step) =>
    Nat.blt last run.1 || (Nat.blt run.2.1 first ||
      (Nat.beq step 2 && (Nat.beq run.2.2.1 2 && !Nat.beq (first % 2) (run.1 % 2))))

-- All pairs of runs are gone through, so numbers are compared as the kernel computes with them.
theorem runs_miss_forms :
    (lowercaseRuns.map forms).all (fun form => lowercaseRuns.all (misses · form)) = true := by
  decide +kernel

theorem forms_nonneg : ∀ run ∈ lowercaseRuns, 0 ≤ run.1 + run.2.2.2 := by
  decide +kernel

theorem forms_not_blank : ∀ run ∈ lowercaseRuns, ∀ other ∈ (0x130, 0x130) :: blankRuns,
    run.2.1 + run.2.2.2 < other.1 ∨ other.2 < run.1 + run.2.2.2 := by
  decide +kernel

theorem exists_run {n m : Nat} (h : lowerCode? n = some m) :
    ∃ run ∈ lowercaseRuns, run.1 ≤ n ∧ n ≤ run.2.1 ∧ (n - run.1) % run.2.2.1 = 0 ∧
      (m : Int) = n + run.2.2.2 := by
  have hle := (le_of_lowerCode? h).1
  obtain ⟨⟨first, last, step, shift⟩, hfind, rfl⟩ := Option.map_eq_some_iff.1 h
  have hrun := List.find?_some hfind
  simp only [Bool.and_eq_true, decide_eq_true_eq, beq_iff_eq] at hrun
  refine ⟨_, List.mem_of_find?_eq_some hfind, hrun.1.1, hrun.1.2, hrun.2, ?_⟩
  simp only at hle ⊢
  omega

theorem lowerCode?_form {n m : Nat} (h : lowerCode? n = some m) : lowerCode? m = none := by
  obtain ⟨⟨first, last, step, shift⟩, hmem, hfirst, hlast, hstep, hm⟩ := exists_run h
  rw [lowerCode?, Option.map_eq_none_iff, List.find?_eq_none]
  rintro ⟨first', last', step', shift'⟩ hother hin
  have hmiss := List.all_eq_true.1 (List.all_eq_true.1 runs_miss_forms _ (List.mem_map_of_mem hmem))
    _ hother
  have hnonneg := forms_nonneg _ hmem
  simp only [Bool.and_eq_true, decide_eq_true_eq, beq_iff_eq] at hin
  simp only [misses, forms, Bool.or_eq_true, Bool.and_eq_true, Nat.blt_eq, Nat.beq_eq,
    Bool.not_eq_true'] at hmiss hfirst hlast hstep hm hnonneg
  rcases hmiss with hbefore | hbehind | ⟨htwo, htwo', hparity⟩
  · omega
  · omega
  · -- The forms have the other parity than the characters of the run they lie in.
    have hne := Nat.ne_of_beq_eq_false hparity
    subst htwo'
    split at htwo
    · omega
    · subst htwo
      omega

theorem lower_cases (c : Char) :
    lower c = ['i', '\u0307'] ∨ (∃ d, lower c = [d] ∧ lowerCode? c.toNat = some d.toNat) ∨
      lower c = [c] := by
  by_cases hdot : c = '\u0130'
  · exact .inl (if_pos hdot)
  cases hcode : lowerCode? c.toNat with
  | none =>
      refine .inr (.inr ?_)
      rw [lower, if_neg hdot, hcode]
  | some n =>
      obtain ⟨-, hvalid⟩ := le_of_lowerCode? hcode
      have htoNat : (Char.ofNat n).toNat = n := by
        rw [Char.ofNat, dif_pos hvalid]
        rfl
      refine .inr (.inl ⟨Char.ofNat n, ?_, ?_⟩)
      · rw [lower, if_neg hdot, hcode]
      · rw [htoNat]

theorem lower_of_lower {c d : Char} {rest : List Char} (h : lower c = d :: rest) :
    lower d = [d] := by
  obtain hc | ⟨form, hc, hcode⟩ | hc := lower_cases c
  · rw [hc] at h
    cases h
    decide
  · rw [hc] at h
    cases h
    obtain ⟨run, hmem, hbounds⟩ := exists_run hcode
    have hdot := forms_not_blank run hmem (0x130, 0x130) List.mem_cons_self
    have hne : d ≠ '\u0130' := by
      rintro rfl
      simp only [Char.reduceToNat] at hbounds
      omega
    rw [lower, if_neg hne, lowerCode?_form hcode]
  · rw [hc] at h
    cases h
    exact hc

theorem lower_ne_nil (c : Char) : lower c ≠ [] := by
  obtain hc | ⟨form, hc, hcode⟩ | hc := lower_cases c <;> simp [hc]

theorem isBlank_of_lower {c d : Char} {rest : List Char} (h : lower c = d :: rest)
    (hc : isBlank c = false) : isBlank d = false := by
  obtain hform | ⟨form, hform, hcode⟩ | hform := lower_cases c
  · rw [hform] at h
    cases h
    decide
  · rw [hform] at h
    cases h
    obtain ⟨run, hmem, hfirst, hlast, -, hm⟩ := exists_run hcode
    simp only [isBlank, List.any_eq_false, Bool.and_eq_true, decide_eq_true_eq, not_and]
    intro other hother hlow hhigh
    have hmiss := forms_not_blank run hmem other (List.mem_cons_of_mem _ hother)
    omega
  · rw [hform] at h
    cases h
    exact hc

end Text

namespace Path

/-- A segment in camel case is empty, or starts with a lowercase form and is not blank. -/
theorem camelChars_camelChars (segment : List Char) :
    camelChars (camelChars segment) = camelChars segment := by
  by_cases hblank : Text.allBlank segment
  · have hempty : camelChars segment = [] := if_pos hblank
    rw [hempty]
    rfl
  cases segment with
  | nil => rfl
  | cons first rest =>
      have hcamel : camelChars (first :: rest) = Text.lower first ++ rest := if_neg hblank
      obtain ⟨head, tail, hlower⟩ := List.exists_cons_of_ne_nil (Text.lower_ne_nil first)
      have hfilled : ¬ Text.allBlank (head :: (tail ++ rest)) := by
        intro hall
        apply hblank
        rw [Text.allBlank, List.all_cons, Bool.and_eq_true] at hall ⊢
        rw [List.all_append, Bool.and_eq_true] at hall
        refine ⟨?_, hall.2.2⟩
        by_contra hfirst
        have hhead := Text.isBlank_of_lower hlower (Bool.eq_false_iff.2 hfirst)
        rw [hhead] at hall
        cases hall.1
      rw [hcamel, hlower, List.cons_append, camelChars, if_neg hfilled]
      simp only [Text.lower_of_lower hlower, List.singleton_append]

theorem camelSegment_camelSegment (segment : String) :
    camelSegment (camelSegment segment) = camelSegment segment := by
  simp only [camelSegment, String.toList_ofList, camelChars_camelChars]

theorem notMem_camelChars {segment : List Char} (h : '.' ∉ segment) : '.' ∉ camelChars segment := by
  intro hdot
  obtain hmem | hle := mem_camelChars hdot
  · exact h hmem
  · exact absurd hle (by decide)

theorem segments_intercalate {names : List String} (hne : names ≠ [])
    (h : ∀ name ∈ names, '.' ∉ name.toList) : segments (".".intercalate names) = names := by
  have hcut : cutAt '.' (['.'].intercalate (names.map String.toList)) = names.map String.toList :=
    intercalate_inj (fun _ hpiece => notMem_of_mem_cutAt hpiece) (by simpa using h)
      (cutAt_ne_nil '.' _) (by simpa using hne) (intercalate_cutAt '.' _)
  have hdot : ".".toList = ['.'] := rfl
  rw [segments, String.toList_intercalate, hdot, hcut]
  simp

theorem notMem_camelSegments {path name : String} (h : name ∈ camelSegments path) :
    '.' ∉ name.toList := by
  rw [camelSegments_eq_map] at h
  obtain ⟨camel, hcamel, rfl⟩ := List.mem_map.1 h
  obtain ⟨piece, hpiece, rfl⟩ := List.mem_map.1 hcamel
  rw [String.toList_ofList]
  exact notMem_camelChars (notMem_of_mem_cutAt hpiece)

theorem segments_camelPath (path : String) : segments (camelPath path) = camelSegments path :=
  segments_intercalate (camelSegments_ne_nil path) fun _ hname => notMem_camelSegments hname

theorem camelSegments_camelPath (path : String) :
    camelSegments (camelPath path) = camelSegments path := by
  have hsettled : camelSegment ∘ camelSegment = camelSegment := funext camelSegment_camelSegment
  rw [camelSegments, segments_camelPath, camelSegments, List.map_map, hsettled]

theorem camelPath_camelPath (path : String) : camelPath (camelPath path) = camelPath path := by
  rw [camelPath, camelSegments_camelPath, camelPath]

theorem camelPath_intercalate {names : List String} (h : ∀ name ∈ names, '.' ∉ name.toList) :
    camelPath (".".intercalate names) = ".".intercalate (names.map camelSegment) := by
  cases names with
  | nil => rfl
  | cons name names => rw [camelPath, camelSegments, segments_intercalate (List.cons_ne_nil _ _) h]

end Path

namespace Predicate

mutual

def mapFields (f : String → String) : Predicate → Predicate
  | compare op field value => compare op (f field) value
  | among op field values => among op (f field) values
  | join op children => join op (mapFieldsAll f children)

def mapFieldsAll (f : String → String) : List Predicate → List Predicate
  | [] => []
  | child :: children => child.mapFields f :: mapFieldsAll f children

end

mutual

theorem mapFields_mapFields (f g : String → String) :
    (p : Predicate) → (p.mapFields g).mapFields f = p.mapFields (f ∘ g)
  | compare op field value => rfl
  | among op field values => rfl
  | join op children => by
      rw [mapFields, mapFields, mapFields, mapFieldsAll_mapFieldsAll f g children]

theorem mapFieldsAll_mapFieldsAll (f g : String → String) :
    (children : List Predicate) → mapFieldsAll f (mapFieldsAll g children) =
      mapFieldsAll (f ∘ g) children
  | [] => rfl
  | child :: children => by
      rw [mapFieldsAll, mapFieldsAll, mapFieldsAll, mapFields_mapFields f g child,
        mapFieldsAll_mapFieldsAll f g children]

end

mutual

theorem rowsWith_camelPath {tokens : String → List String}
    (h : ∀ field, tokens (Path.camelPath field) = tokens field) :
    (p : Predicate) → (p.mapFields Path.camelPath).rowsWith tokens = p.rowsWith tokens
  | compare op field value => by
      rw [mapFields, rowsWith, rowsWith, h]
  | among op field values => by
      rw [mapFields, rowsWith, rowsWith, h]
  | join op children => by
      rw [mapFields, rowsWith, rowsWith, childRows_camelPath op.operator 0 children]

theorem childRows_camelPath (operator : String) (i : Nat) :
    (children : List Predicate) → childRows operator i (mapFieldsAll Path.camelPath children) =
      childRows operator i children
  | [] => rfl
  | child :: children => by
      rw [mapFieldsAll, childRows, childRows, childRows_camelPath operator (i + 1) children,
        rowsWith_camelPath Path.camelSegments_camelPath child]

end

theorem rows_camelPath (p : Predicate) : (p.mapFields Path.camelPath).rows = p.rows :=
  rowsWith_camelPath (fun field => by rw [Path.camelPath_camelPath]) p

end Predicate

namespace Query

def mapPaths (f : String → String) (q : Query) : Query :=
  { q with
    sort := q.sort.map fun entry => (f entry.1, entry.2)
    select := q.select.map f
    predicates := q.predicates.map (Predicate.mapFields f) }

def fill (slot path : String) : Query → Query :=
  mapPaths fun held => if held = slot then path else held

theorem mapPaths_mapPaths (f g : String → String) (q : Query) :
    (q.mapPaths g).mapPaths f = q.mapPaths (f ∘ g) := by
  simp [mapPaths, Function.comp_def, Predicate.mapFields_mapFields]

theorem sortRow?_camelPath (entry : String × Direction) :
    sortRow? (Path.camelPath entry.1, entry.2) = sortRow? entry := by
  rw [sortRow?, sortRow?, Path.camelPath_camelPath]

theorem selectRow_camelPath (path : String) : selectRow (Path.camelPath path) = selectRow path := by
  rw [selectRow, selectRow, Path.camelPath_camelPath]

theorem rows_camelPath (q : Query) : (q.mapPaths Path.camelPath).rows = q.rows := by
  simp [rows, mapPaths, List.filterMap_map, List.flatMap_map, Function.comp_def, sortRow?_camelPath,
    selectRow_camelPath, Predicate.rows_camelPath]

theorem text_camelPath (q : Query) : (q.mapPaths Path.camelPath).text = q.text := by
  rw [text_eq, rows_camelPath, ← text_eq]

theorem text_mapPaths_congr {f g : String → String}
    (h : ∀ path, Path.camelPath (f path) = Path.camelPath (g path)) (q : Query) :
    (q.mapPaths f).text = (q.mapPaths g).text := by
  have hcomp : Path.camelPath ∘ f = Path.camelPath ∘ g := funext h
  rw [← text_camelPath, mapPaths_mapPaths, hcomp, ← mapPaths_mapPaths, text_camelPath]

theorem text_fill_congr {path other : String} (h : Path.camelPath path = Path.camelPath other)
    (slot : String) (q : Query) : (q.fill slot path).text = (q.fill slot other).text := by
  apply text_mapPaths_congr
  intro held
  split
  · exact h
  · rfl

end Query

namespace Expr

/-- The names of the members an expression goes through, as they are written, the one nearest to the
root first. Conversions are looked through. -/
def memberNames : Expr → List String
  | member target name => target.memberNames ++ [name]
  | static name => [name]
  | convert e => e.memberNames
  | _ => []

theorem Follows.memberNames_eq {root : String} {e : Expr} {names : List String}
    (h : Follows root e names) : e.memberNames = names := by
  induction h with
  | subject => rfl
  | static name => rfl
  | member name _ ih => rw [memberNames, ih]
  | convert _ ih => exact ih

theorem propertyPath_eq_camelPath {root path : String} {e : Expr}
    (h : propertyPath root e = .ok path) (hnames : ∀ name ∈ e.memberNames, '.' ∉ name.toList) :
    path = Path.camelPath (".".intercalate e.memberNames) := by
  obtain ⟨names, hfollows, rfl⟩ := propertyPath_eq_ok.1 h
  rw [hfollows.memberNames_eq] at hnames ⊢
  exact (Path.camelPath_intercalate hnames).symm

end Expr

namespace Query

/-- Writing in camel case is done once. A query is sent as it would be with all its paths in camel
case, and a path that was compiled as the path of the same names written by hand. -/
theorem camelCase_once :
    (∀ q : Query, (q.mapPaths Path.camelPath).text = q.text) ∧
    ∀ (l : Lambda) (path : String), l.propertyPath = .ok path →
      (∀ name ∈ l.body.memberNames, '.' ∉ name.toList) →
        path = Path.camelPath (".".intercalate l.body.memberNames) ∧
        Path.camelPath path = path ∧
        ∀ (slot : String) (q : Query),
          (q.fill slot path).text = (q.fill slot (".".intercalate l.body.memberNames)).text := by
  refine ⟨text_camelPath, fun l path hpath hnames => ?_⟩
  have hcamel := Expr.propertyPath_eq_camelPath (Except.mapError_eq_ok.1 hpath) hnames
  have hfixed : Path.camelPath path = path := by rw [hcamel, Path.camelPath_camelPath]
  exact ⟨hcamel, hfixed, text_fill_congr (hfixed.trans hcamel)⟩

def dottedCapital : Lambda := ⟨"i", (Expr.parameter "i").path ["İsim", " ", "Fr"]⟩

def everywhere : Query where
  sort := [("?", .ascending)]
  select := ["?"]
  predicates := [.compare .eq "?" "x", .join .or [.among .isIn "?" ["x", "y"]]]

theorem dottedCapital_sent :
    dottedCapital.propertyPath = .ok "i̇sim..fr" ∧
      (everywhere.fill "?" "i̇sim..fr").text = (everywhere.fill "?" "İsim. .Fr").text := by
  have hpath : dottedCapital.propertyPath = .ok "i̇sim..fr" := rfl
  obtain ⟨-, -, hsent⟩ := camelCase_once.2 dottedCapital "i̇sim..fr" hpath (by decide)
  exact ⟨hpath, hsent "?" everywhere⟩

end Query

end Catalogue
