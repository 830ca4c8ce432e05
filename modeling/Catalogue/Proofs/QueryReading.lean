import Catalogue.Proofs.FormReading
import Catalogue.Proofs.PlainPath
import Catalogue.Proofs.QueryRows

namespace Catalogue

namespace Query

theorem bracketed_eq (token : String) (tokens : List String) :
    bracketed (token :: tokens) = "[".intercalate (token :: tokens.map (· ++ "]")) := by
  induction tokens generalizing token with
  | nil => simp [bracketed]
  | cons next tokens ih =>
      have hfold : bracketed (token :: next :: tokens) =
          bracketed ((token ++ "[" ++ (next ++ "]")) :: tokens) := by
        simp [bracketed, String.append_assoc]
      rw [hfold, ih, String.intercalate_cons_append, List.map_cons, String.intercalate_cons_cons]

def closed (token : String) (tokens : List String) : List (List Char) :=
  token.toList :: tokens.map fun t => t.toList ++ [']']

theorem toList_bracketed (token : String) (tokens : List String) :
    (bracketed (token :: tokens)).toList = ['['].intercalate (closed token tokens) := by
  rw [bracketed_eq, String.toList_intercalate, List.map_cons, List.map_map, closed]
  congr 3
  funext t
  simp

theorem notMem_closed {token : String} {tokens : List String}
    (h : ∀ t ∈ token :: tokens, '[' ∉ t.toList) : ∀ piece ∈ closed token tokens, '[' ∉ piece := by
  intro piece hpiece
  obtain rfl | hmem := List.mem_cons.1 hpiece
  · exact h token List.mem_cons_self
  · obtain ⟨t, ht, rfl⟩ := List.mem_map.1 hmem
    have hclear := h t (List.mem_cons_of_mem token ht)
    simp [hclear]

theorem closed_inj {token other : String} {tokens others : List String}
    (h : closed token tokens = closed other others) : token :: tokens = other :: others := by
  obtain ⟨hhead, htail⟩ := List.cons.inj h
  have hinj (s t : String) (h : s.toList ++ [']'] = t.toList ++ [']']) : s = t :=
    String.toList_inj.1 (List.append_cancel_right h)
  rw [String.toList_inj.1 hhead, (List.map_inj_right hinj).1 htail]

theorem bracketed_inj {tokens others : List String} (hne : tokens ≠ []) (hne' : others ≠ [])
    (htokens : ∀ t ∈ tokens, '[' ∉ t.toList) (hothers : ∀ t ∈ others, '[' ∉ t.toList)
    (h : bracketed tokens = bracketed others) : tokens = others := by
  obtain ⟨token, rest, rfl⟩ := List.exists_cons_of_ne_nil hne
  obtain ⟨other, rest', rfl⟩ := List.exists_cons_of_ne_nil hne'
  have hlists := congrArg String.toList h
  rw [toList_bracketed, toList_bracketed] at hlists
  apply closed_inj
  exact intercalate_inj (notMem_closed htokens) (notMem_closed hothers) (by simp [closed])
    (by simp [closed]) hlists

theorem mem_bracketed {token : String} {tokens : List String} {c : Char}
    (h : c ∈ (bracketed (token :: tokens)).toList) :
    c = '[' ∨ c = ']' ∨ ∃ t ∈ token :: tokens, c ∈ t.toList := by
  induction tokens generalizing token with
  | nil => exact .inr (.inr ⟨token, List.mem_cons_self, h⟩)
  | cons next tokens ih =>
      change c ∈ (bracketed ((token ++ "[" ++ next ++ "]") :: tokens)).toList at h
      obtain hc | hc | ⟨t, ht, hc⟩ := ih h
      · exact .inl hc
      · exact .inr (.inl hc)
      obtain rfl | hmem := List.mem_cons.1 ht
      · simp only [String.toList_append, List.mem_append] at hc
        obtain ((hc | hc) | hc) | hc := hc
        · exact .inr (.inr ⟨token, by simp, hc⟩)
        · exact .inl (by simpa using hc)
        · exact .inr (.inr ⟨next, by simp, hc⟩)
        · exact .inr (.inl (by simpa using hc))
      · exact .inr (.inr ⟨t, by simp [hmem], hc⟩)

end Query

/-- The key of a row can be told from what is around it. -/
structure Row.Legible (row : Row) : Prop where
  ne_nil : row.tokens ≠ []
  clear : ∀ token ∈ row.tokens, Path.Clear token

namespace Row

theorem mem_key {row : Row} {c : Char} (h : c ∈ row.key.toList) :
    c = '[' ∨ c = ']' ∨ ∃ token ∈ row.tokens, c ∈ token.toList := by
  obtain ⟨tokens, value⟩ := row
  cases tokens with
  | nil => cases h
  | cons token tokens => exact Query.mem_bracketed h

def Unbroken (row : Row) : Prop := ∀ token ∈ row.tokens, Path.Unbroken token

namespace Unbroken

variable {row : Row}

theorem notMem_key (h : row.Unbroken) {sep : Char} (hsep : sep ∈ ['&', '=']) :
    sep ∉ row.key.toList := by
  intro hmem
  obtain rfl | rfl | ⟨token, htoken, hc⟩ := mem_key hmem
  · exact absurd hsep (by decide)
  · exact absurd hsep (by decide)
  · exact h token htoken sep hc hsep

theorem notMem_text (h : row.Unbroken) : '&' ∉ row.text.toList := by
  have hcode : '&' ∉ (Text.Form.encode row.value).toList := by
    intro hmem
    exact absurd (Text.Form.isCode_encode hmem) (by decide)
  simp [text, h.notMem_key, hcode]

end Unbroken

namespace Legible

variable {row : Row}

theorem unbroken (h : row.Legible) : row.Unbroken :=
  fun token htoken => (h.clear token htoken).unbroken

theorem text_inj {other : Row} (h : row.Legible) (h' : other.Legible)
    (htext : row.text = other.text) : row = other := by
  have hlists := congrArg String.toList htext
  simp only [text, String.toList_append, List.append_assoc] at hlists
  obtain ⟨hkey, hvalue⟩ := append_cons_inj (h.unbroken.notMem_key (by decide))
    (h'.unbroken.notMem_key (by decide)) hlists
  have htokens := Query.bracketed_inj h.ne_nil h'.ne_nil
    (fun t ht hc => h.clear t ht _ hc (by decide))
    (fun t ht hc => h'.clear t ht _ hc (by decide)) (String.toList_inj.1 hkey)
  have hvalues := Text.Form.encode_injective (String.toList_inj.1 hvalue)
  exact Row.ext htokens hvalues

end Legible

theorem join_eq_empty {rows : List Row} : "&".intercalate (rows.map text) = "" ↔ rows = [] := by
  constructor
  · intro h
    match rows with
    | [] => rfl
    | [row] => exact absurd h (by simpa using row.text_ne_empty)
    | row :: next :: rows => exact absurd h (by simp)
  · rintro rfl
    rfl

theorem map_text_inj {rows others : List Row} (hrows : ∀ row ∈ rows, row.Legible)
    (hothers : ∀ row ∈ others, row.Legible) (h : rows.map text = others.map text) :
    rows = others := by
  induction rows generalizing others with
  | nil => exact (List.map_eq_nil_iff.1 h.symm).symm
  | cons row rows ih =>
      cases others with
      | nil => cases h
      | cons other others =>
          obtain ⟨hhead, htail⟩ := List.cons.inj h
          rw [List.forall_mem_cons] at hrows hothers
          rw [hrows.1.text_inj hothers.1 hhead, ih hrows.2 hothers.2 htail]

theorem notMem_texts {rows : List Row} (h : ∀ row ∈ rows, row.Unbroken) :
    ∀ piece ∈ (rows.map text).map String.toList, '&' ∉ piece := by
  intro piece hpiece
  obtain ⟨_, htext, rfl⟩ := List.mem_map.1 hpiece
  obtain ⟨row, hrow, rfl⟩ := List.mem_map.1 htext
  exact (h row hrow).notMem_text

/-- Rows with legible keys are found again in their text. -/
theorem join_inj {rows others : List Row} (hrows : ∀ row ∈ rows, row.Legible)
    (hothers : ∀ row ∈ others, row.Legible)
    (h : "&".intercalate (rows.map text) = "&".intercalate (others.map text)) : rows = others := by
  by_cases hempty : "&".intercalate (rows.map text) = ""
  · rw [join_eq_empty.1 hempty, join_eq_empty.1 (h.symm.trans hempty)]
  · have hne : rows ≠ [] := fun hnil => hempty (join_eq_empty.2 hnil)
    have hne' : others ≠ [] := fun hnil => hempty (h.trans (join_eq_empty.2 hnil))
    have hlists := congrArg String.toList h
    rw [String.toList_intercalate, String.toList_intercalate] at hlists
    have hpieces := intercalate_inj (notMem_texts fun row hrow => (hrows row hrow).unbroken)
      (notMem_texts fun row hrow => (hothers row hrow).unbroken) (by simpa using hne)
      (by simpa using hne') hlists
    apply map_text_inj hrows hothers
    exact (List.map_inj_right fun _ _ => String.toList_inj.1).1 hpieces

end Row

end Catalogue
