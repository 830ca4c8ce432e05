import Catalogue.Proofs.FormReading
import Catalogue.Proofs.Preliminaries
import Catalogue.Url.Host
import Catalogue.Url.Path

namespace Catalogue

open Text

namespace Url

def Unmarked (s : String) : Prop := '?' ∉ s.toList

instance (s : String) : Decidable (Unmarked s) := inferInstanceAs (Decidable ('?' ∉ s.toList))

theorem unmarked_append {s t : String} : Unmarked (s ++ t) ↔ Unmarked s ∧ Unmarked t := by
  simp [Unmarked]

theorem unmarked_ofList {cs : List Char} : Unmarked (String.ofList cs) ↔ '?' ∉ cs := by
  rw [Unmarked, String.toList_ofList]

theorem unmarked_intercalate (sep : Char) {texts : List String} (hsep : sep ≠ '?')
    (h : ∀ s ∈ texts, Unmarked s) : Unmarked ((String.singleton sep).intercalate texts) := by
  rw [Unmarked, String.toList_intercalate, String.toList_singleton]
  intro hmem
  obtain hmark | ⟨piece, hpiece, hmark⟩ := mem_of_mem_intercalate hmem
  · exact hsep hmark.symm
  · obtain ⟨s, hs, rfl⟩ := List.mem_map.1 hpiece
    exact h s hs hmark

theorem unmarked_toDigits {b : Nat} (hb : 1 < b) (n : Nat) :
    Unmarked (String.ofList (Nat.toDigits b n)) := by
  have hdigit (d : Nat) : '?' ≠ d.digitChar := (Nat.digitChar_ne '?' rfl).symm
  rw [unmarked_ofList]
  induction n using Nat.strongRecOn with
  | ind n ih =>
      by_cases hn : n < b
      · simp [Nat.toDigits_of_lt_base hn, hdigit]
      · have hmany : b ≤ n := by omega
        have hless : n / b < n := Nat.div_lt_self (by omega) hb
        simp [Nat.toDigits_of_base_le hb hmany, ih (n / b) hless, hdigit]

theorem unmarked_toString (n : Nat) : Unmarked (toString n) := by
  rw [Nat.toString_eq_ofList_toDigits]
  exact unmarked_toDigits (by decide) n

theorem mem_of_mem_encode {escapes : Char → Bool} {cs : List Char} {c : Char} (hc : ¬ Form.isCode c)
    (h : c ∈ Percent.encode escapes cs) : c ∈ cs ∧ escapes c = false := by
  obtain ⟨d, hd, hmem⟩ := List.mem_flatMap.1 h
  split at hmem
  · obtain ⟨b, _, hcode⟩ := List.mem_flatMap.1 hmem
    exact absurd (Form.isCode_byte hcode) hc
  · next hplain =>
    obtain rfl := List.mem_singleton.1 hmem
    exact ⟨hd, by simp_all⟩

theorem unmarked_escaped {escapes : Char → Bool} (h : escapes '?' = true) (cs : List Char) :
    Unmarked (escaped escapes cs) := by
  rw [escaped, unmarked_ofList]
  intro hmem
  rw [(mem_of_mem_encode (by decide) hmem).2] at h
  cases h

theorem unmarked_escaped_of_notMem (escapes : Char → Bool) {cs : List Char} (h : '?' ∉ cs) :
    Unmarked (escaped escapes cs) := by
  rw [escaped, unmarked_ofList]
  exact fun hmem => h (mem_of_mem_encode (by decide) hmem).1

/-! ## Hosts -/

theorem unmarked_ipv4 (address : Nat) : Unmarked (Ipv4.text address) := by
  refine unmarked_intercalate '.' (by decide) fun s hs => ?_
  obtain ⟨i, _, rfl⟩ := List.mem_map.1 hs
  exact unmarked_toString _

theorem unmarked_ipv6 (pieces : List Nat) : Unmarked (Ipv6.text pieces) := by
  have hshown (ns : List Nat) : Unmarked (":".intercalate (ns.map Ipv6.hexText)) := by
    refine unmarked_intercalate ':' (by decide) fun s hs => ?_
    obtain ⟨n, _, rfl⟩ := List.mem_map.1 hs
    exact unmarked_toDigits (by decide) n
  rw [Ipv6.text]
  split
  · exact hshown _
  · rw [unmarked_append, unmarked_append]
    exact ⟨⟨hshown _, by decide⟩, hshown _⟩

namespace Punycode

theorem digitChar_ne_mark {d : Nat} (h : d < 36) : digitChar d ≠ '?' := by
  have hall : ∀ d < 36, digitChar d ≠ '?' := by decide
  exact hall d h

theorem mark_notMem_writeDigits (bias k q : Nat) : '?' ∉ writeDigits bias k q := by
  have hthreshold (k : Nat) : threshold k bias ≤ 26 := by
    unfold threshold
    omega
  fun_induction writeDigits bias k q with
  | case1 k q t hq =>
      have hdigit : q < 36 := by
        have := hthreshold k
        omega
      simpa using (digitChar_ne_mark hdigit).symm
  | case2 k q t hq ih =>
      have hdigit : t + (q - t) % (36 - t) < 36 := by
        have := hthreshold k
        have := Nat.mod_lt (q - t) (show 0 < 36 - t by omega)
        omega
      simpa using ⟨(digitChar_ne_mark hdigit).symm, ih⟩

theorem mark_notMem_writePoint (basic point : Nat) (s : State) (cs : List Nat) :
    '?' ∉ (writePoint basic point s cs).1 := by
  induction cs generalizing s with
  | nil => exact List.not_mem_nil
  | cons c cs ih =>
      rw [writePoint]
      split
      · exact ih _
      split
      · rw [List.mem_append, not_or]
        exact ⟨mark_notMem_writeDigits _ _ _, ih _⟩
      · exact ih s

theorem mark_notMem_writePoints (basic : Nat) (cs : List Nat) (s : State) (points : List Nat) :
    '?' ∉ writePoints basic cs s points := by
  induction points generalizing s with
  | nil => exact List.not_mem_nil
  | cons point points ih =>
      rw [writePoints, List.mem_append, not_or]
      exact ⟨mark_notMem_writePoint _ _ _ _, ih _⟩

theorem mark_notMem_encode {cs : List Char} (h : '?' ∉ cs) : '?' ∉ encode cs := by
  have hbasic : '?' ∉ cs.filter (·.toNat < 0x80) := fun hmem => h (List.mem_filter.1 hmem).1
  rw [encode, List.mem_append, not_or]
  refine ⟨?_, mark_notMem_writePoints _ _ _ _⟩
  split
  · exact List.not_mem_nil
  · simpa using hbasic

theorem mem_of_mem_insertAt {cs : List Char} {i : Nat} {c d : Char} (h : d ∈ insertAt cs i c) :
    d = c ∨ d ∈ cs := by
  rw [insertAt, List.mem_append, List.mem_cons] at h
  obtain hd | rfl | hd := h
  · exact .inr (List.mem_of_mem_take hd)
  · exact .inl rfl
  · exact .inr (List.mem_of_mem_drop hd)

theorem ofNat_ne_mark {n : Nat} (h : 0x80 ≤ n) : Char.ofNat n ≠ '?' := by
  intro hmark
  have hn : (Char.ofNat n).toNat = 63 := congrArg Char.toNat hmark
  by_cases hvalid : n.isValidChar
  · rw [Char.ofNat, dif_pos hvalid] at hn
    change n = 63 at hn
    omega
  · rw [Char.ofNat, dif_neg hvalid] at hn
    cases hn

/-- The characters that are inserted are above those of ASCII. -/
theorem mark_notMem_readPoints {fuel point i bias : Nat} {out cs chars : List Char}
    (hpoint : 0x80 ≤ point) (hout : '?' ∉ out)
    (h : readPoints fuel point i bias out cs = some chars) : '?' ∉ chars := by
  induction fuel generalizing point i bias out cs with
  | zero =>
      cases cs with
      | nil =>
          cases h
          exact hout
      | cons => cases h
  | succ fuel ih =>
      cases cs with
      | nil =>
          cases h
          exact hout
      | cons c cs =>
          simp only [readPoints] at h
          split at h
          · cases h
          · next j rest _ =>
            split at h
            · cases h
            have hpoint' : 0x80 ≤ point + j / (out.length + 1) := Nat.le_add_right_of_le hpoint
            refine ih hpoint' (fun hmem => ?_) h
            exact (mem_of_mem_insertAt hmem).elim (ofNat_ne_mark hpoint').symm hout

theorem cutLastHyphen_subset (cs : List Char) : (cutLastHyphen cs).1 ⊆ cs := by
  rw [cutLastHyphen]
  split
  · exact List.nil_subset cs
  · exact List.take_subset _ cs

theorem mark_notMem_decode {cs chars : List Char} (h : '?' ∉ cs) (hd : decode cs = some chars) :
    '?' ∉ chars := by
  rw [decode] at hd
  dsimp only at hd
  split at hd
  · exact mark_notMem_readPoints (Nat.le_refl _) (fun hmem => h (cutLastHyphen_subset cs hmem)) hd
  · cases hd

end Punycode

theorem mark_notMem_labelChars {label cs : List Char} (h : '?' ∉ label)
    (hc : Domain.labelChars? label = some cs) : '?' ∉ cs := by
  unfold Domain.labelChars? at hc
  split at hc
  · dsimp only at hc
    split at hc
    · cases hc
    split at hc
    · next decoded hdecoded =>
      split at hc
      · cases hc
        exact Punycode.mark_notMem_decode (fun hmem => h (List.mem_of_mem_drop hmem)) hdecoded
      · cases hc
    · cases hc
  split at hc
  · cases hc
    exact h
  · cases hc

theorem mark_notMem_labelAscii {cs : List Char} (h : '?' ∉ cs) : '?' ∉ Domain.labelAscii cs := by
  rw [Domain.labelAscii]
  split
  · exact h
  · rw [List.mem_append, not_or]
    exact ⟨by decide, Punycode.mark_notMem_encode h⟩

theorem exists_of_mem_mapM {α β : Type} {f : α → Option β} {xs : List α} {ys : List β} {y : β}
    (h : xs.mapM f = some ys) (hy : y ∈ ys) : ∃ x ∈ xs, f x = some y := by
  induction xs generalizing ys with
  | nil =>
      cases h
      cases hy
  | cons x xs ih =>
      rw [List.mapM_cons] at h
      obtain ⟨z, hz, h⟩ := Option.bind_eq_some_iff.1 h
      obtain ⟨zs, hzs, h⟩ := Option.bind_eq_some_iff.1 h
      cases h
      obtain rfl | hy := List.mem_cons.1 hy
      · exact ⟨x, List.mem_cons_self, hz⟩
      · obtain ⟨x', hx', hf⟩ := ih hzs hy
        exact ⟨x', List.mem_cons_of_mem x hx', hf⟩

theorem mark_notMem_toAscii {cs name : List Char} (h : Domain.toAscii? cs = some name) :
    '?' ∉ name := by
  unfold Domain.toAscii? at h
  dsimp only at h
  split at h
  · cases h
  · next hallowed =>
    obtain ⟨labels, hread, h⟩ := Option.bind_eq_some_iff.1 h
    split at h
    · cases h
    cases h
    intro hmem
    obtain hsep | ⟨piece, hpiece, hmem⟩ := mem_of_mem_intercalate hmem
    · exact absurd hsep (by decide)
    obtain ⟨chars, hchars, rfl⟩ := List.mem_map.1 hpiece
    obtain ⟨label, hlabel, hread⟩ := exists_of_mem_mapM hread hchars
    refine mark_notMem_labelAscii (mark_notMem_labelChars (fun hmark => hallowed ?_) hread) hmem
    exact List.any_eq_true.2 ⟨label, hlabel, List.any_eq_true.2 ⟨'?', hmark, by decide⟩⟩

theorem Host.unmarked_bracketed {cs : List Char} {host : Host}
    (h : Host.bracketed? cs = some (.ok host)) : Unmarked host.text := by
  unfold Host.bracketed? at h
  split at h
  · split at h
    · next rest _ =>
      replace h := Option.some.inj h
      cases hparse : Ipv6.parse rest.dropLast with
      | error fault =>
        rw [hparse] at h
        cases h
      | ok pieces =>
        rw [hparse] at h
        cases h
        rw [Host.text, unmarked_append, unmarked_append]
        exact ⟨⟨by decide, unmarked_ipv6 pieces⟩, by decide⟩
    · cases h
  · cases h

theorem Host.unmarked_parse {cs : List Char} {host : Host} (h : Host.parse cs = .ok host) :
    Unmarked host.text := by
  unfold Host.parse at h
  split at h
  · next hbracketed =>
    subst h
    exact Host.unmarked_bracketed hbracketed
  split at h
  · cases h
  · cases h
  · next name _ hname =>
    split at h
    · cases hparse : Ipv4.parse name with
      | error fault =>
        rw [hparse] at h
        cases h
      | ok address =>
        rw [hparse] at h
        cases h
        exact unmarked_ipv4 address
    · cases h
      obtain ⟨cs', _, hname⟩ := Option.bind_eq_some_iff.1 hname
      rw [Host.text, unmarked_ofList]
      exact mark_notMem_toAscii hname

theorem Host.unmarked_parseOther {cs : List Char} {host : Host}
    (h : Host.parseOther cs = .ok host) : Unmarked host.text := by
  unfold Host.parseOther at h
  split at h
  · next hbracketed =>
    subst h
    exact Host.unmarked_bracketed hbracketed
  split at h
  · cases h
  · next hforbidden =>
    cases h
    refine unmarked_escaped_of_notMem _ fun hmem => hforbidden ?_
    exact List.any_eq_true.2 ⟨'?', hmem, by decide⟩

end Url

end Catalogue
