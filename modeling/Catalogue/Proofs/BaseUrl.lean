import Catalogue.Client
import Catalogue.Proofs.UrlStem

namespace Catalogue

namespace Url

theorem endsWith_slash {s : String} : s.endsWith "/" ↔ s.toList.getLast? = some '/' := by
  rw [← String.endsWith_toSlice, String.Slice.endsWith_string_iff, String.copy_toSlice]
  exact List.singleton_suffix_iff_getLast?_eq_some

theorem endsWith_append (s : String) {t : String} (ht : t ≠ "") :
    (s ++ t).endsWith "/" ↔ t.endsWith "/" := by
  have hchars : t.toList ≠ [] := fun hnil => ht (String.toList_eq_nil_iff.1 hnil)
  rw [endsWith_slash, endsWith_slash, String.toList_append, List.getLast?_append_of_ne_nil _ hchars]

theorem endsWith_marked {mark : String} (hne : mark ≠ "") (hmark : ¬ mark.endsWith "/")
    (s t : String) : (s ++ (mark ++ t)).endsWith "/" ↔ t.endsWith "/" := by
  by_cases ht : t = ""
  · rw [ht, String.append_empty, endsWith_append s hne, iff_false_left hmark, endsWith_slash]
    exact nofun
  · rw [← String.append_assoc, endsWith_append _ ht]

/-! ## The slash at the end -/

theorem UrlPath.endsWith_segments {names : List String} (h : names.getLast? = some "") :
    (segments names).text.endsWith "/" := by
  obtain ⟨before, rfl⟩ := List.getLast?_eq_some_iff.1 h
  simp [endsWith_slash, UrlPath.text]

theorem UrlPath.getLast?_eq_some {names : List String} (hclean : (segments names).Clean)
    (h : (segments names).text.endsWith "/") : names.getLast? = some "" := by
  obtain rfl | ⟨before, name, rfl⟩ := List.eq_nil_or_concat names
  · simp [endsWith_slash, UrlPath.text] at h
  · have hname : IsSegment name := hclean name (by simp)
    have hempty : name = "" := by
      by_contra hne
      have hchars : name.toList ≠ [] := fun hnil => hne (String.toList_eq_nil_iff.1 hnil)
      have hlast : name.toList.getLast? = some '/' := by
        simpa [endsWith_slash, UrlPath.text, List.getLast?_append,
          List.getLast?_cons_of_ne_nil hchars, hne] using h
      exact hname.undivided (List.mem_of_getLast? hlast)
    simp [hempty]

theorem UrlPath.endsWith_withSlash (file : Bool) {path : UrlPath} (h : path ≠ .undivided "") :
    (path.withSlash file).text.endsWith "/" := by
  cases path with
  | undivided text =>
      have htext : text ≠ "" := fun hempty => h (congrArg UrlPath.undivided hempty)
      simp [UrlPath.withSlash, UrlPath.text, endsWith_slash, htext]
  | segments names =>
      exact UrlPath.endsWith_segments
        (getLast?_segmentsFrom file [] false (names.map String.toList))

theorem UrlPath.Clean.withSlash {path : UrlPath} (h : path.Clean) (file : Bool) :
    (path.withSlash file).Clean := by
  cases path with
  | undivided text =>
      change Unmarked (if text.isEmpty then "%2F" else text ++ "/")
      split
      · decide
      · exact unmarked_append.2 ⟨h, by decide⟩
  | segments names =>
      refine clean_segments.2 (isSegment_segmentsFrom (by simp) fun piece hpiece => ?_)
      obtain hpiece | hpiece := List.mem_append.1 hpiece
      · obtain ⟨name, hname, rfl⟩ := List.mem_map.1 hpiece
        exact (h name hname).undivided
      · obtain rfl := List.mem_singleton.1 hpiece
        exact List.not_mem_nil

theorem Clean.withTrailingSlash {v : Url} (h : v.Clean) : v.withTrailingSlash.Clean := by
  unfold Url.withTrailingSlash
  split
  · exact h
  · exact { h with path := h.path.withSlash _ }

/-- Only where there is no path at all, the slash is not there afterwards. -/
theorem path_withTrailingSlash (v : Url) :
    v.path = .undivided "" ∧ v.withTrailingSlash.path = .undivided "%2F" ∨
      v.path ≠ .undivided "" ∧ v.withTrailingSlash.path.text.endsWith "/" := by
  unfold withTrailingSlash
  by_cases hpath : v.path = .undivided ""
  · exact .inl ⟨hpath, by simp [hpath, UrlPath.text, UrlPath.withSlash, endsWith_slash]⟩
  · refine .inr ⟨hpath, ?_⟩
    split
    · next hslash => exact hslash
    · exact UrlPath.endsWith_withSlash _ hpath

theorem path_text_ne_empty (v : Url) : v.withTrailingSlash.path.text ≠ "" := by
  intro hempty
  obtain ⟨-, hpath⟩ | ⟨-, hslash⟩ := path_withTrailingSlash v
  · rw [hpath] at hempty
    exact absurd hempty (by decide)
  · rw [hempty, endsWith_slash] at hslash
    cases hslash

theorem query_withTrailingSlash (v : Url) :
    v.withTrailingSlash.query = v.query ∧ v.withTrailingSlash.fragment = v.fragment := by
  unfold withTrailingSlash
  split <;> exact ⟨rfl, rfl⟩

/-! ## What is put after the text -/

def UrlPath.below (more : String) : UrlPath → UrlPath
  | undivided text => undivided (text ++ more)
  | segments names => segments (names.dropLast ++ (cutAt '/' more.toList).map String.ofList)

/-- The URL in which the last part goes on with more text. -/
def continued (u : Url) (more : String) : Url :=
  match u.fragment, u.query with
  | some fragment, _ => { u with fragment := some (fragment ++ more) }
  | none, some query => { u with query := some (query ++ more) }
  | none, none => { u with path := u.path.below more }

theorem flatten_slashed {pieces : List (List Char)} (h : pieces ≠ []) :
    (pieces.map ('/' :: ·)).flatten = '/' :: ['/'].intercalate pieces := by
  induction pieces with
  | nil => exact absurd rfl h
  | cons piece pieces ih =>
      cases pieces with
      | nil => simp
      | cons next pieces =>
          rw [List.map_cons, List.flatten_cons, ih (List.cons_ne_nil _ _),
            List.intercalate_cons_cons]
          simp

theorem UrlPath.text_segments_below (before : List String) (more : String) :
    ((segments (before ++ [""])).below more).text = (segments (before ++ [""])).text ++ more := by
  have hpieces := flatten_slashed (cutAt_ne_nil '/' more.toList)
  rw [intercalate_cutAt] at hpieces
  rw [← String.toList_inj]
  simp [UrlPath.below, UrlPath.text, String.toList_join, List.flatMap_def, Function.comp_def,
    hpieces]

theorem startsWith_append {text more : String} (htext : text ≠ "")
    (hmore : more.toList.head? ≠ some '/') :
    (text ++ more).startsWith "//" = text.startsWith "//" := by
  rw [Bool.eq_iff_iff, String.startsWith_string_iff, String.startsWith_string_iff,
    String.toList_append]
  have hchars : text.toList ≠ [] := fun hnil => htext (String.toList_eq_nil_iff.1 hnil)
  obtain ⟨c, cs, hcs⟩ := List.exists_cons_of_ne_nil hchars
  rw [hcs]
  cases cs with
  | nil =>
    cases hm : more.toList with
    | nil => simp
    | cons d ds =>
      have hd : d ≠ '/' := by simpa [hm] using hmore
      simp [hd.symm]
  | cons d cs => simp

theorem path_text_below {v : Url} (hclean : v.Clean) (more : String) :
    (v.withTrailingSlash.path.below more).text = v.withTrailingSlash.path.text ++ more := by
  obtain ⟨-, hpath⟩ | ⟨-, hslash⟩ := path_withTrailingSlash v
  · rw [hpath]
    rfl
  · cases hpath : v.withTrailingSlash.path with
    | undivided text => rfl
    | segments names =>
        have hnames : (UrlPath.segments names).Clean := hpath ▸ hclean.withTrailingSlash.path
        rw [hpath] at hslash
        obtain ⟨before, rfl⟩ :=
          List.getLast?_eq_some_iff.1 (UrlPath.getLast?_eq_some hnames hslash)
        exact UrlPath.text_segments_below before more

theorem text_continued {v : Url} (hclean : v.Clean) {more : String}
    (hmore : more.toList.head? ≠ some '/') :
    (v.withTrailingSlash.continued more).text = v.withTrailingSlash.text ++ more := by
  have hbelow := path_text_below hclean more
  have hstarts := startsWith_append (path_text_ne_empty v) hmore
  unfold continued
  split
  · next fragment hfragment =>
    simp [text, authorityText, credentialsText, hfragment, String.append_assoc]
  · next query hfragment hquery =>
    simp [text, authorityText, credentialsText, hfragment, hquery, String.append_assoc]
  · next hfragment hquery =>
    simp [text, authorityText, credentialsText, hfragment, hquery, hbelow,
      hstarts, String.append_assoc]

theorem endsWith_text {u : Url} (hne : u.path.text ≠ "") :
    u.text.endsWith "/" ↔
      (u.fragment.or u.query).elim (u.path.text.endsWith "/" = true) (·.endsWith "/" = true) := by
  rw [text_eq_stem]
  cases hfragment : u.fragment with
  | some fragment => exact endsWith_marked (by decide) (by simp [endsWith_slash]) _ fragment
  | none =>
      rw [Option.elim_none, String.append_empty]
      cases hquery : u.query with
      | some query => exact endsWith_marked (by decide) (by simp [endsWith_slash]) _ query
      | none =>
          rw [Option.elim_none, String.append_empty]
          exact endsWith_append _ hne

theorem endsWith_base (v : Url) :
    v.withTrailingSlash.text.endsWith "/" ↔
      (v.fragment.or v.query).elim (v.path ≠ .undivided "") (·.endsWith "/" = true) := by
  obtain ⟨hquery, hfragment⟩ := query_withTrailingSlash v
  obtain ⟨hpath, hlost⟩ | ⟨hpath, hslash⟩ := path_withTrailingSlash v
  · rw [endsWith_text (path_text_ne_empty v), hquery, hfragment, hlost]
    simp [hpath, UrlPath.text, endsWith_slash]
  · rw [endsWith_text (path_text_ne_empty v), hquery, hfragment]
    simp only [hslash, hpath, ne_eq, not_false_eq_true]

theorem mark_mem_text {u : Url} (h : u.Clean) :
    '?' ∈ u.text.toList ↔ u.query.isSome ∨ ∃ fragment ∈ u.fragment, '?' ∈ fragment.toList := by
  have hstem : '?' ∉ u.stem.toList := h.unmarked_stem
  cases hfragment : u.fragment <;> cases hquery : u.query <;>
    simp [text_eq_stem, hfragment, hquery, hstem]

end Url

namespace Client

theorem base_of_ofSettings {s : Settings} {base : Url} {c : Client} (hbase : s.base = .ok base)
    (h : ofSettings s = .ok c) : ⟨base⟩ = c := by
  rw [ofSettings, hbase] at h
  simp only [bind, Except.bind] at h
  split at h
  · exact Except.ok.inj h
  · cases h

/-- An address is a base whatever it holds after its path. Its text ends with a slash exactly if its
last part does, collections are put after that part, and so they are below its path if there is
nothing after the path; no question mark comes before them but one that the address has there. -/
theorem collections_continue_base {raw : String} {v : Url} (h : Url.parse raw = .ok v) :
    ∃ c, ofAddress raw = .ok c ∧
      (∀ s : Settings, s.address.getD s.environment.address = raw →
        s.base = .ok c.base ∧ ∀ c', ofSettings s = .ok c' → c' = c) ∧
      c.base.query = v.query ∧ c.base.fragment = v.fragment ∧
      (c.base.text.endsWith "/" ↔
        (v.fragment.or v.query).elim (v.path ≠ .undivided "") (·.endsWith "/")) ∧
      ∀ (α : Type) [Resource α],
        c.resourceUrl α = c.base.text ++ Resource.path α ∧
        ((Resource.path α).toList.head? ≠ some '/' →
          c.resourceUrl α = (c.base.continued (Resource.path α)).text) ∧
        ('?' ∈ (c.resourceUrl α).toList ↔
          v.query.isSome ∨ (∃ fragment ∈ v.fragment, '?' ∈ fragment.toList) ∨
            '?' ∈ (Resource.path α).toList) ∧
        ∀ q : Query, q.text ≠ "" → c.searchUrl α q = c.resourceUrl α ++ "?" ++ q.text := by
  have hclean := Url.clean_parse h
  have hbase : Url.parseBase raw = .ok v.withTrailingSlash := by rw [Url.parseBase, h]
  obtain ⟨hquery, hfragment⟩ := Url.query_withTrailingSlash v
  have hmark := Url.mark_mem_text hclean.withTrailingSlash
  rw [hquery, hfragment] at hmark
  refine ⟨⟨v.withTrailingSlash⟩, ?_, ?_, hquery, hfragment, ?_, fun α _ => ⟨rfl, ?_, ?_, ?_⟩⟩
  · rw [ofAddress, hbase]
    rfl
  · rintro s rfl
    exact ⟨hbase, fun c' hc' => (base_of_ofSettings hbase hc').symm⟩
  · exact Url.endsWith_base v
  · exact fun hpath => (Url.text_continued hclean hpath).symm
  · rw [resourceUrl, String.toList_append, List.mem_append, hmark, or_assoc]
  · intro q hq
    rw [searchUrl, if_neg (by simpa using hq)]

def loopbackV1 : Url :=
  ⟨"http", "me", none, some (.ipv6 [0, 0, 0, 0, 0, 0, 0, 1]), none, .segments ["a", "v1"], none,
    none⟩

theorem loopbackV1_continued :
    Url.parse "HTTP://me@[::1]:80/a/./b/../v1" = .ok loopbackV1 ∧
      ∃ c, ofAddress "HTTP://me@[::1]:80/a/./b/../v1" = .ok c ∧ c.base.text.endsWith "/" ∧
        c.resourceUrl ItemSet =
          ({ loopbackV1 with path := .segments ["a", "v1", "item-sets", ""] } : Url).text ∧
        '?' ∉ (c.resourceUrl ItemSet).toList := by
  have hparse : Url.parse "HTTP://me@[::1]:80/a/./b/../v1" = .ok loopbackV1 := by decide +kernel
  obtain ⟨c, hc, -, -, -, hslash, hcollections⟩ := collections_continue_base hparse
  obtain ⟨-, hcontinued, hmark, -⟩ := hcollections ItemSet
  obtain rfl : ⟨{ loopbackV1 with path := .segments ["a", "v1", ""] }⟩ = c := by
    have hmade : ofAddress "HTTP://me@[::1]:80/a/./b/../v1" =
        .ok ⟨{ loopbackV1 with path := .segments ["a", "v1", ""] }⟩ := by decide +kernel
    exact Except.ok.inj (hmade.symm.trans hc)
  have hpath : loopbackV1.path ≠ .undivided "" := nofun
  refine ⟨hparse, _, hc, hslash.2 hpath, hcontinued (by decide), fun hmem => ?_⟩
  exact absurd (hmark.1 hmem) (by decide)

/-- A query in the address is kept, so that the base does not end with a slash, the collections are
no paths below it, and a search has two question marks. -/
theorem frenchBase_takes_in_items :
    ∃ c, ofAddress "https://api.dofusdb.fr/?lang=fr" = .ok c ∧ ¬ c.base.text.endsWith "/" ∧
      c.resourceUrl Item = "https://api.dofusdb.fr/?lang=fritems/" ∧
      '?' ∈ (c.resourceUrl Item).toList ∧
      c.searchUrl Item (({} : Query).withLimit 5) =
        "https://api.dofusdb.fr/?lang=fritems/?$limit=5" := by
  refine ⟨⟨⟨"https", "", none, some (.domain "api.dofusdb.fr"), none, .segments [""],
    some "lang=fr", none⟩⟩, by decide +kernel, ?_, rfl, by decide, rfl⟩
  rw [Url.endsWith_slash]
  decide

end Client

end Catalogue
