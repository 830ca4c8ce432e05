import Catalogue.Proofs.Preliminaries
import Catalogue.Proofs.UrlHost
import Catalogue.Url.Parser
import Mathlib.Data.List.TakeWhile

namespace Catalogue.Url

/-! ## Paths -/

structure IsSegment (name : String) : Prop where
  unmarked : Unmarked name
  undivided : '/' ∉ name.toList

theorem isSegment_empty : IsSegment "" := ⟨by decide, by decide⟩

theorem isSegment_escaped {cs : List Char} (h : '/' ∉ cs) : IsSegment (escaped escapesPath cs) := by
  refine ⟨unmarked_escaped (by decide) cs, ?_⟩
  rw [escaped, String.toList_ofList]
  exact fun hmem => h (mem_of_mem_encode (by decide) hmem).1

theorem isSegment_drive {c : Char} (h : c.isAlpha) : IsSegment (String.ofList [c, ':']) := by
  have hne {d : Char} (hd : d.isAlpha = false) : d ≠ c := by
    rintro rfl
    rw [hd] at h
    cases h
  refine ⟨?_, ?_⟩
  · rw [unmarked_ofList]
    simpa using hne (d := '?') (by decide)
  · rw [String.toList_ofList]
    simpa using hne (d := '/') (by decide)

theorem withoutBreaks_subset (cs : List Char) : withoutBreaks cs ⊆ cs :=
  List.filter_sublist.subset

theorem isSegment_driveLetter {cs : List Char} (h : isDriveLetter cs) :
    IsSegment (String.ofList (cs.take 1 ++ [':'])) := by
  unfold isDriveLetter at h
  split at h
  · exact isSegment_drive (Bool.and_eq_true_iff.1 h).1
  · cases h

theorem isSegment_cutAfterDrive {piece drive rest : List Char} (hpiece : '/' ∉ piece)
    (h : cutAfterDrive? piece = some (drive, rest)) :
    IsSegment (String.ofList drive) ∧ IsSegment (escaped escapesPath rest) := by
  unfold cutAfterDrive? at h
  split at h
  · next c d more hplain =>
    split at h
    · next hcut =>
      cases h
      refine ⟨isSegment_drive (Bool.and_eq_true_iff.1 hcut).1, isSegment_escaped fun hmem => ?_⟩
      apply hpiece
      apply withoutBreaks_subset piece
      rw [hplain]
      exact List.mem_cons_of_mem c (List.mem_cons_of_mem ':' hmem)
    · cases h
  · cases h

theorem leave_subset (above : List String) : leave above ⊆ above := by
  cases above with
  | nil => exact List.Subset.refl []
  | cons name above =>
      rw [leave]
      split
      · exact List.Subset.refl (name :: above)
      · exact List.subset_cons_self name above

/-- A piece changes what is above the pieces after it, and what it adds are segments. -/
theorem segmentsFrom_cons (file : Bool) (above : List String) (hasDrive : Bool)
    (piece : List Char) (pieces : List (List Char)) :
    ∃ above' hasDrive', segmentsFrom file above hasDrive (piece :: pieces) =
        segmentsFrom file above' hasDrive' pieces ∧
      ('/' ∉ piece → ∀ name ∈ above', name ∈ above ∨ IsSegment name) := by
  have hplain (h : '/' ∉ piece) : IsSegment (escaped escapesPath (withoutBreaks piece)) :=
    isSegment_escaped fun hmem => h (withoutBreaks_subset piece hmem)
  have hended {more : List String} (hmore : more ⊆ above) :
      ∀ name ∈ (if pieces.isEmpty then "" :: more else more), name ∈ above ∨ IsSegment name := by
    intro name hname
    split at hname
    · obtain rfl | hname := List.mem_cons.1 hname
      · exact .inr isSegment_empty
      · exact .inl (hmore hname)
    · exact .inl (hmore hname)
  rw [segmentsFrom]
  split
  · exact ⟨_, _, rfl, fun _ => hended (leave_subset above)⟩
  · exact ⟨_, _, rfl, fun _ => hended (List.Subset.refl above)⟩
  split
  · split
    · next hdrive =>
      refine ⟨_, _, rfl, fun _ name hname => .inr ?_⟩
      obtain rfl := List.mem_singleton.1 hname
      exact isSegment_driveLetter hdrive
    split
    · next hcut =>
      refine ⟨_, _, rfl, fun hpiece name hname => .inr ?_⟩
      obtain ⟨hdrive, hrest⟩ := isSegment_cutAfterDrive hpiece hcut
      obtain rfl | hname := List.mem_cons.1 hname
      · exact hrest
      · obtain rfl := List.mem_singleton.1 hname
        exact hdrive
    · refine ⟨_, _, rfl, fun hpiece name hname => .inr ?_⟩
      obtain rfl := List.mem_singleton.1 hname
      exact hplain hpiece
  · refine ⟨_, _, rfl, fun hpiece name hname => ?_⟩
    obtain rfl | hname := List.mem_cons.1 hname
    · exact .inr (hplain hpiece)
    · exact .inl hname

theorem isSegment_segmentsFrom {file : Bool} {above : List String} {hasDrive : Bool}
    {pieces : List (List Char)} (habove : ∀ name ∈ above, IsSegment name)
    (hpieces : ∀ piece ∈ pieces, '/' ∉ piece) :
    ∀ name ∈ (segmentsFrom file above hasDrive pieces).names, IsSegment name := by
  induction pieces generalizing above hasDrive with
  | nil => simpa [segmentsFrom] using habove
  | cons piece pieces ih =>
      obtain ⟨hpiece, hpieces⟩ := List.forall_mem_cons.1 hpieces
      obtain ⟨above', hasDrive', heq, hnames⟩ := segmentsFrom_cons file above hasDrive piece pieces
      rw [heq]
      exact ih (fun name hname => (hnames hpiece name hname).elim (habove name) id) hpieces

theorem getLast?_segmentsFrom (file : Bool) (above : List String) (hasDrive : Bool)
    (pieces : List (List Char)) :
    (segmentsFrom file above hasDrive (pieces ++ [[]])).names.getLast? = some "" := by
  induction pieces generalizing above hasDrive with
  | nil =>
      have hnone : escaped escapesPath [] = "" := rfl
      by_cases hfirst : file && above.isEmpty
      · simp [segmentsFrom, withoutBreaks, plainDots, isDriveLetter, cutAfterDrive?, hfirst, hnone]
      · simp [segmentsFrom, withoutBreaks, plainDots, hfirst, hnone]
  | cons piece pieces ih =>
      obtain ⟨above', hasDrive', heq, -⟩ :=
        segmentsFrom_cons file above hasDrive piece (pieces ++ [[]])
      rw [List.cons_append, heq]
      exact ih above' hasDrive'

theorem isSegment_readSegments (scheme : String) (cs : List Char) :
    ∀ name ∈ (readSegments scheme cs).1.names, IsSegment name :=
  isSegment_segmentsFrom (by simp) fun _ hpiece => notMem_of_mem_cutAt hpiece

theorem isSegment_readPath (scheme : String) (cs : List Char) :
    ∀ name ∈ (readPath scheme cs).1.names, IsSegment name := by
  unfold readPath
  split
  · exact isSegment_readSegments scheme _
  · exact isSegment_readSegments scheme _
  all_goals
    first
    | exact isSegment_readSegments scheme _
    | split
      · exact isSegment_readSegments scheme _
      · simp

theorem isSegment_withoutLeadingEmpty {names : List String} (h : ∀ name ∈ names, IsSegment name) :
    ∀ name ∈ withoutLeadingEmpty names, IsSegment name := by
  intro name hname
  unfold withoutLeadingEmpty at hname
  dsimp only at hname
  split at hname
  · obtain rfl := List.mem_singleton.1 hname
    exact isSegment_empty
  · exact h name ((List.dropWhile_sublist _).subset hname)

def UrlPath.Clean : UrlPath → Prop
  | undivided text => Unmarked text
  | segments names => ∀ name ∈ names, IsSegment name

theorem UrlPath.clean_segments {names : List String} :
    (segments names).Clean ↔ ∀ name ∈ names, IsSegment name := Iff.rfl

theorem UrlPath.Clean.unmarked {path : UrlPath} (h : path.Clean) : Unmarked path.text := by
  cases path with
  | undivided text => exact h
  | segments names =>
      have hnames (name : String) (hname : name ∈ names) : '?' ∉ name.toList :=
        (h name hname).unmarked
      simpa [Unmarked, UrlPath.text, String.toList_join] using hnames

/-! ## Parts -/

/-- No part before the query holds a question mark. -/
structure Clean (u : Url) : Prop where
  scheme : Unmarked u.scheme
  username : Unmarked u.username
  password : ∀ password ∈ u.password, Unmarked password
  host : ∀ host ∈ u.host, Unmarked host.text
  path : u.path.Clean

/-- What stands before the query. -/
def stem (u : Url) : String := u.scheme ++ ":" ++ u.authorityText ++ u.path.text

theorem text_eq_stem (u : Url) :
    u.text = u.stem ++ u.query.elim "" ("?" ++ ·) ++ u.fragment.elim "" ("#" ++ ·) := rfl

theorem Clean.unmarked_stem {u : Url} (h : u.Clean) : Unmarked u.stem := by
  have hcredentials : Unmarked u.credentialsText := by
    unfold credentialsText
    split
    · next password hpassword =>
      simp only [unmarked_append]
      exact ⟨⟨⟨h.username, by decide⟩, h.password password hpassword⟩, by decide⟩
    split
    · decide
    · rw [unmarked_append]
      exact ⟨h.username, by decide⟩
  have hauthority : Unmarked u.authorityText := by
    unfold authorityText
    split
    · next host hhost =>
      have hport : Unmarked (u.port.elim "" fun p => ":" ++ toString p) := by
        cases u.port with
        | none => decide
        | some p => exact unmarked_append.2 ⟨by decide, unmarked_toString p⟩
      simp only [unmarked_append]
      exact ⟨⟨⟨by decide, hcredentials⟩, h.host host hhost⟩, hport⟩
    · split <;> decide
  simp only [stem, unmarked_append]
  exact ⟨⟨⟨h.scheme, by decide⟩, hauthority⟩, h.path.unmarked⟩

theorem Clean.finish {u : Url} (h : u.Clean) (cs : List Char) : (finish u cs).Clean := by
  obtain ⟨hscheme, husername, hpassword, hhost, hpath⟩ := h
  unfold Url.finish
  dsimp only
  split <;> split <;> exact ⟨hscheme, husername, hpassword, hhost, hpath⟩

theorem unmarked_scheme {cs rest : List Char} {scheme : String}
    (h : scheme? cs = some (scheme, rest)) : Unmarked scheme := by
  unfold scheme? at h
  dsimp only at h
  split at h
  · cases h
    rw [unmarked_ofList]
    intro hmem
    obtain ⟨c, hc, hlower⟩ := List.mem_map.1 hmem
    have hmark : c = '?' := by
      have hnat := congrArg Char.toNat hlower
      rw [toNat_toLower] at hnat
      apply Char.toNat_inj.1
      change _ = 63 at hnat
      change _ = 63
      split at hnat <;> omega
    have hpart := List.mem_takeWhile_imp hc
    subst hmark
    exact absurd hpart (by decide)
  · cases h

theorem unmarked_password {cs : List Char} {password : String}
    (h : password ∈ passwordOf? cs) : Unmarked password := by
  unfold passwordOf? at h
  split at h
  · cases h
    exact unmarked_escaped (by decide) _
  · cases h

theorem clean_build {scheme username : String} {password : Option String} {host : Option Host}
    (hscheme : Unmarked scheme) (husername : Unmarked username)
    (hpassword : ∀ p ∈ password, Unmarked p) (hhost : ∀ h ∈ host, Unmarked h.text)
    {path : UrlPath} (hpath : path.Clean) (port : Option Nat) (rest : List Char) :
    (build scheme username password host port path rest).Clean := by
  have hclean : (⟨scheme, username, password, host, port, path, none, none⟩ : Url).Clean :=
    ⟨hscheme, husername, hpassword, hhost, hpath⟩
  exact hclean.finish rest

theorem clean_parseAuthority {scheme : String} {cs : List Char} {u : Url} (hs : Unmarked scheme)
    (h : parseAuthority scheme cs = .ok u) : u.Clean := by
  have hbuild {host : Host} (hhost : Unmarked host.text) (userinfo : List Char) (port : Option Nat)
      (path rest : List Char) : (build scheme (usernameOf userinfo) (passwordOf? userinfo)
        (some host) port (.segments (readPath scheme path).1.names) rest).Clean := by
    refine clean_build hs (unmarked_escaped (by decide) _) (fun _ => unmarked_password) ?_
      (UrlPath.clean_segments.2 (isSegment_readPath scheme path)) port rest
    rintro _ ⟨⟩
    exact hhost
  simp only [parseAuthority, bind, Except.bind, throw, throwThe, MonadExceptOf.throw, pure,
    Except.pure] at h
  -- Every check either fails the whole or leaves the rest to be done.
  iterate 2
    split at h
    · cases h
  split at h
  · split at h
    · cases h
    · next host hhost =>
      iterate 4
        split at h
        · cases h
      cases h
      exact hbuild (Host.unmarked_parse hhost) _ _ _ _
  · split at h
    · cases h
    · next host hhost =>
      iterate 4
        split at h
        · cases h
      cases h
      exact hbuild (Host.unmarked_parseOther hhost) _ _ _ _

theorem clean_onHost {host : Host} (hhost : Unmarked host.text) {read : Segments × List Char}
    (hnames : ∀ name ∈ read.1.names, IsSegment name) : (onHost host read).Clean := by
  refine clean_build (by decide) (by decide) (by simp) ?_
    (UrlPath.clean_segments.2 (isSegment_withoutLeadingEmpty hnames)) none _
  rintro h ⟨⟩
  split
  · decide
  · exact hhost

theorem clean_parseFileHost {cs : List Char} {u : Url} (h : parseFileHost cs = .ok u) :
    u.Clean := by
  have hnone : Unmarked (Host.domain "").text := by decide
  simp only [parseFileHost, bind, Except.bind, pure, Except.pure] at h
  split at h
  · cases h
    exact clean_onHost hnone (isSegment_readSegments _ _)
  split at h
  · cases h
    exact clean_onHost hnone (isSegment_readSegments _ _)
  split at h
  · cases h
  · next host hhost =>
    cases h
    refine clean_onHost ?_ (isSegment_readPath _ _)
    split
    · exact hnone
    · exact Host.unmarked_parse hhost

theorem clean_parseFile {cs : List Char} {u : Url} (h : parseFile cs = .ok u) : u.Clean := by
  have hnone : Unmarked (Host.domain "").text := by decide
  unfold parseFile at h
  split at h
  · cases h
    exact clean_onHost hnone (isSegment_readSegments _ _)
  split at h
  · cases h
    exact clean_onHost hnone (isSegment_readSegments _ _)
  · exact clean_parseFileHost h

theorem clean_parseRest {scheme : String} {cs : List Char} {u : Url} (hs : Unmarked scheme)
    (h : parseRest scheme cs = .ok u) : u.Clean := by
  unfold parseRest at h
  split at h
  · exact clean_parseAuthority hs h
  split at h
  · exact clean_parseAuthority hs h
  · cases h
    exact clean_build hs (by decide) (by simp) (by simp)
      (UrlPath.clean_segments.2 (isSegment_readSegments scheme _)) none _
  · cases h
    refine clean_build hs (by decide) (by simp) (by simp) ?_ none _
    refine unmarked_escaped_of_notMem _ fun hmem => ?_
    exact absurd (List.mem_takeWhile_imp hmem) (by decide)

theorem clean_parse {raw : String} {u : Url} (h : parse raw = .ok u) : u.Clean := by
  unfold parse at h
  dsimp only at h
  split at h
  · cases h
  · next scheme rest hscheme =>
    split at h
    · exact clean_parseFile h
    · exact clean_parseRest (unmarked_scheme hscheme) h

end Catalogue.Url
