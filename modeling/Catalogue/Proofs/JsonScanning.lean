import Catalogue.Json.Token
import Catalogue.Json.Value
import Mathlib.Data.List.Forall2
import Mathlib.Data.List.TakeWhile

namespace Catalogue.Json

section Scanning

variable {s : Scan} {c : Option Char} {cs rest : List (Option Char)}

theorem broken_of_scanIdle {c : Char} (h : (scanIdle c).2 = none) : .broken ∈ (scanIdle c).1 := by
  unfold scanIdle at h ⊢
  split at h <;> first | cases h | skip
  split at h
  · cases h
  · simp_all

theorem broken_of_scanText {pieces : List Piece} (h : (scanText pieces c).2 = none) :
    .broken ∈ (scanText pieces c).1 := by
  unfold scanText at h ⊢
  split at h <;> first | cases h | skip
  split at h
  · simp_all
  · cases h

/-- Wherever scanning stops, the text is broken. -/
theorem broken_of_scan (h : (scan s c).2 = none) : .broken ∈ (scan s c).1 := by
  cases s with
  | text pieces => exact broken_of_scanText h
  | idle =>
      rcases c with _ | c
      · exact List.mem_singleton.2 rfl
      · exact broken_of_scanIdle h
  | number run =>
      rcases c with _ | c
      · simp [scan]
      by_cases hc : isNumberChar c = true
      · simp [scan, hc] at h
      · simp only [scan, hc, Bool.false_eq_true, if_false] at h ⊢
        exact List.mem_append_right _ (broken_of_scanIdle h)
  | literal expected token =>
      rcases c with _ | c
      · simp [scan]
      rcases expected with _ | ⟨e, expected⟩
      · simp [scan]
      by_cases hc : c = e
      · cases expected <;> simp [scan, hc] at h
      · simp [scan, hc]
  | escape pieces =>
      rcases c with _ | c
      · simp [scan]
      by_cases hu : c = 'u'
      · simp [scan, hu] at h
      · cases he : escaped? c with
        | none => simp [scan, hu, he]
        | some e => simp [scan, hu, he] at h
  | code pieces missing bits =>
      rcases c with _ | c
      · simp [scan]
      cases hd : Text.hexValue? c with
      | none => simp [scan, hd]
      | some d => by_cases hlast : missing ≤ 1 <;> simp [scan, hd, hlast] at h

theorem tokensFrom_cons (s : Scan) (c : Option Char) (cs : List (Option Char)) :
    tokensFrom s (c :: cs) = (scan s c).1 ++ ((scan s c).2.map (tokensFrom · cs)).getD [] := by
  rw [tokensFrom]
  split
  · next tokens next heq => rw [heq]; rfl
  · next tokens heq => rw [heq]; exact (List.append_nil _).symm

theorem tokensFrom_append {c : Char} (hc : isNumberChar c = false)
    (h : .broken ∉ tokensFrom s cs) :
    tokensFrom s (cs ++ some c :: rest) = tokensFrom s cs ++ tokensFrom .idle (some c :: rest) := by
  induction cs generalizing s with
  | nil =>
      rw [List.nil_append]
      cases s with
      | idle => rfl
      | number run =>
          -- Only a number is ended by what comes after it.
          have hscan : scan (.number run) (some c) =
              (numberTokens run.reverse ++ (scanIdle c).1, (scanIdle c).2) := by
            simp [scan, hc]
          rw [tokensFrom_cons, tokensFrom_cons, hscan, List.append_assoc]
          rfl
      | literal | text | escape | code => simp [tokensFrom, scanEnd] at h
  | cons d cs ih =>
      rw [tokensFrom_cons] at h
      rw [List.cons_append, tokensFrom_cons, tokensFrom_cons s d cs]
      cases hnext : (scan s d).2 with
      | none => simp [hnext, broken_of_scan hnext] at h
      | some next =>
          simp only [hnext, Option.map_some, Option.getD_some, List.mem_append, not_or] at h ⊢
          rw [ih h.2, List.append_assoc]

end Scanning

section Strings

inductive Spells : Piece → Char → Prop
  | plain (c : Char) : Spells (.char c) c
  | code (c : Char) (h : c.toNat < 0x20) : Spells (.unit c.toNat) c

theorem joinPieces_unit {n : Nat} (h : n < 0xD800) (pieces : List Piece) :
    joinPieces (.unit n :: pieces) = (Char.ofNat n :: ·) <$> joinPieces pieces := by
  have hhigh : ¬ (0xD800 ≤ n ∧ n ≤ 0xDBFF) := by omega
  have hlow : ¬ (0xDC00 ≤ n ∧ n ≤ 0xDFFF) := by omega
  have hboth : ¬ (0xD800 ≤ n ∧ n ≤ 0xDFFF) := by omega
  rcases pieces with _ | ⟨_ | _ | low, pieces⟩
  · simp [joinPieces, hboth]
  · simp [joinPieces, hboth]
  · simp [joinPieces, hboth]
  · rw [joinPieces, if_neg hhigh, if_neg hlow]

theorem joinPieces_of_spells {pieces : List Piece} {cs : List Char}
    (h : List.Forall₂ Spells pieces cs) : joinPieces pieces = some cs := by
  induction h with
  | nil => rfl
  | cons hpiece _ ih =>
      cases hpiece with
      | plain c => rw [joinPieces, ih]; rfl
      | code c hc =>
          rw [joinPieces_unit (by omega), ih, Char.ofNat_toNat]
          rfl

theorem tokensFrom_code {pieces : List Piece} {n : Nat} (h : n < 0x20) (rest : List (Option Char)) :
    tokensFrom (.text pieces) (['\\', 'u', '0', '0', Text.hexDigit false (n / 16),
      Text.hexDigit false (n % 16)].map some ++ rest) =
        tokensFrom (.text (.unit n :: pieces)) rest := by
  have hhigh := Text.hexValue?_hexDigit false (show n / 16 < 16 by omega)
  have hlow := Text.hexValue?_hexDigit false (show n % 16 < 16 by omega)
  have hzero : Text.hexValue? '0' = some 0 := by decide
  have hn : n / 16 * 16 + n % 16 = n := by omega
  simp [tokensFrom_cons, scan, scanText, hzero, hhigh, hlow, hn]

theorem exists_spells (c : Char) : ∃ piece, Spells piece c ∧ ∀ pieces rest,
    tokensFrom (.text pieces) ((escapeChar c).map some ++ rest) =
      tokensFrom (.text (piece :: pieces)) rest := by
  unfold escapeChar
  split
  · exact ⟨_, .plain _, fun _ _ => rfl⟩
  · exact ⟨_, .plain _, fun _ _ => rfl⟩
  · exact ⟨_, .plain _, fun _ _ => rfl⟩
  · exact ⟨_, .plain _, fun _ _ => rfl⟩
  · exact ⟨_, .plain _, fun _ _ => rfl⟩
  · exact ⟨_, .plain _, fun _ _ => rfl⟩
  · exact ⟨_, .plain _, fun _ _ => rfl⟩
  · next hquote hslash _ _ _ _ _ =>
    split
    · next hcode => exact ⟨_, .code c hcode, fun pieces rest => tokensFrom_code hcode rest⟩
    · next hcode =>
      refine ⟨_, .plain c, fun pieces rest => ?_⟩
      have hscan : scanText pieces (some c) = ([], some (.text (.char c :: pieces))) := by
        unfold scanText
        split <;> simp_all
      simp [tokensFrom_cons, scan, hscan]

theorem exists_pieces (cs : List Char) (pieces : List Piece) (rest : List (Option Char)) :
    ∃ more, List.Forall₂ Spells more cs ∧
      tokensFrom (.text pieces) ((cs.flatMap escapeChar).map some ++ rest) =
        tokensFrom (.text (more.reverse ++ pieces)) rest := by
  induction cs generalizing pieces with
  | nil => exact ⟨[], .nil, rfl⟩
  | cons c cs ih =>
      obtain ⟨piece, hpiece, htokens⟩ := exists_spells c
      obtain ⟨more, hmore, hrest⟩ := ih (piece :: pieces)
      refine ⟨piece :: more, .cons hpiece hmore, ?_⟩
      rw [List.flatMap_cons, List.map_append, List.append_assoc, htokens, hrest, List.reverse_cons,
        List.append_assoc]
      rfl

theorem tokens_quote (s : String) : tokens ((quote s).toList.map some) = [.text (some s)] := by
  obtain ⟨pieces, hpieces, htokens⟩ := exists_pieces s.toList [] [some '"']
  have hquote : (quote s).toList.map some =
      some '"' :: ((s.toList.flatMap escapeChar).map some ++ [some '"']) := by
    simp [quote]
  have hopen : tokens (some '"' :: ((s.toList.flatMap escapeChar).map some ++ [some '"'])) =
      tokensFrom (.text []) ((s.toList.flatMap escapeChar).map some ++ [some '"']) := rfl
  rw [hquote, hopen, htokens]
  simp [scan, scanText, joinPieces_of_spells hpieces, tokensFrom, scanEnd]

end Strings

section Numbers

def decimals (n : Nat) : List Nat := (Nat.toDigits 10 n).map Text.digitValue

theorem isDigit_toDigits {n : Nat} {c : Char} (h : c ∈ Nat.toDigits 10 n) : Text.isDigit c :=
  Nat.isDigit_of_mem_toDigits (by decide) (by decide) h

theorem decimals_ne_nil (n : Nat) : decimals n ≠ [] := by
  simp [decimals, Nat.toDigits_ne_nil]

theorem foldl_decimals (n : Nat) : (decimals n).foldl (fun n d => n * 10 + d) 0 = n := by
  have hvalue := Nat.ofDigitChars_ten_toDigits (n := n)
  rw [Nat.ofDigitChars_eq_foldl] at hvalue
  simp only [Nat.mul_comm 10] at hvalue
  rw [decimals, List.foldl_map]
  exact hvalue

theorem head?_decimals {n : Nat} (h : n ≠ 0) : (decimals n).head? ≠ some 0 := by
  induction n using Nat.strongRecOn with
  | ind n ih =>
      by_cases hsmall : n < 10
      · have hall : ∀ n < 10, n ≠ 0 → (decimals n).head? ≠ some 0 := by decide
        exact hall n hsmall h
      · have hsplit : decimals n = decimals (n / 10) ++ [Text.digitValue (n % 10).digitChar] := by
          rw [decimals, Nat.toDigits_of_base_le (by decide) (by omega), List.map_append]
          rfl
        rw [hsplit, List.head?_append_of_ne_nil _ (decimals_ne_nil (n / 10))]
        exact ih (n / 10) (by omega) (by omega)

theorem digitsOf_toDigits (n : Nat) : digitsOf (Nat.toDigits 10 n) = (decimals n, []) := by
  have hall : ∀ c ∈ Nat.toDigits 10 n, Text.isDigit c := fun c => isDigit_toDigits
  rw [digitsOf, List.takeWhile_eq_self_iff.2 hall, List.dropWhile_eq_nil_iff.2 hall, decimals]

theorem spelling?_toDigits (n : Nat) :
    spelling? (Nat.toDigits 10 n) = some (⟨false, decimals n, none, none⟩, []) ∧
      spelling? ('-' :: Nat.toDigits 10 n) = some (⟨true, decimals n, none, none⟩, []) := by
  have hlead : ((decimals n).isEmpty ||
      ((decimals n).head? == some 0 && decide (1 < (decimals n).length))) = false := by
    by_cases hzero : n = 0
    · subst hzero
      rfl
    · simp [decimals_ne_nil, head?_decimals hzero]
  have hminus : ∀ rest, Nat.toDigits 10 n ≠ '-' :: rest := by
    intro rest hcons
    have hdigit := isDigit_toDigits (n := n) (c := '-') (by simp [hcons])
    cases hdigit
  have hdigits := digitsOf_toDigits n
  generalize Nat.toDigits 10 n = cs at hminus hdigits ⊢
  constructor
  · simp [spelling?, hdigits, hlead]
  · simp [spelling?, hdigits, hlead]

theorem le_foldl_digits (digits : List Nat) (n : Nat) :
    n ≤ digits.foldl (fun n d => n * 10 + d) n := by
  induction digits generalizing n with
  | nil => exact Nat.le_refl n
  | cons d digits ih =>
      rw [List.foldl_cons]
      have hmore := ih (n * 10 + d)
      omega

theorem Number.gather_of_le {bound : Nat} {digits : List Nat} {n : Nat}
    (h : digits.foldl (fun n d => n * 10 + d) n ≤ bound) :
    gather bound n digits = (digits.foldl (fun n d => n * 10 + d) n, []) := by
  induction digits generalizing n with
  | nil => rfl
  | cons d digits ih =>
      rw [List.foldl_cons] at h ⊢
      have hfits := le_foldl_digits digits (n * 10 + d)
      rw [gather, if_neg (by omega), ih h]

theorem Number.ofSpelling_decimals {n : Nat} (h : n ≤ greatest) (negative : Bool) :
    ofSpelling ⟨negative, decimals n, none, none⟩ =
      if !negative then some (nat (UInt64.ofNat n))
      else if 0 < n ∧ n ≤ 0x8000000000000000 then some (neg (Int64.ofInt (-n)))
      else some (float (-(UInt64.ofNat n).toFloat)) := by
  have hgather : gather greatest 0 (decimals n) = (n, []) := by
    have hvalue := foldl_decimals n
    rw [gather_of_le (by omega), hvalue]
  simp [ofSpelling, hgather]

theorem tokensFrom_number {cs : List Char} (h : ∀ c ∈ cs, isNumberChar c) (run : List Char) :
    tokensFrom (.number run) (cs.map some) = numberTokens (run.reverse ++ cs) := by
  induction cs generalizing run with
  | nil => simp [tokensFrom, scanEnd]
  | cons c cs ih =>
      rw [List.forall_mem_cons] at h
      have hscan : scan (.number run) (some c) = ([], some (.number (c :: run))) := by
        simp [scan, h.1]
      rw [List.map_cons, tokensFrom_cons, hscan]
      simp [ih h.2]

theorem scanIdle_number {c : Char} (h : Text.isDigit c ∨ c = '-') :
    scanIdle c = ([], some (.number [c])) := by
  unfold scanIdle
  split
  all_goals first
    | exact absurd h (by decide)
    | simp [h]

/-- A whole number of up to 64 bits that is not a float. -/
def Number.Exact : Number → Prop
  | nat _ => True
  | neg n => n.toInt < 0
  | float _ => False

theorem isNumberChar_toDigits {n : Nat} {c : Char} (h : c ∈ Nat.toDigits 10 n) :
    isNumberChar c := by
  simp [isNumberChar, isDigit_toDigits h]

theorem tokens_numeral {c : Char} {cs : List Char} (hc : Text.isDigit c ∨ c = '-')
    (hcs : ∀ d ∈ cs, isNumberChar d) : tokens ((c :: cs).map some) = numberTokens (c :: cs) := by
  have hscan : scan .idle (some c) = ([], some (.number [c])) := scanIdle_number hc
  rw [tokens, List.map_cons, tokensFrom_cons, hscan]
  exact tokensFrom_number hcs [c]

theorem tokens_nat {n : Nat} (h : n ≤ Number.greatest) :
    tokens ((Nat.toDigits 10 n).map some) = [.number (some (.nat (UInt64.ofNat n)))] := by
  have hread : numberTokens (Nat.toDigits 10 n) = [.number (some (.nat (UInt64.ofNat n)))] := by
    rw [numberTokens, (spelling?_toDigits n).1]
    simp [Number.ofSpelling_decimals h]
  have hchars : ∀ c ∈ Nat.toDigits 10 n, Text.isDigit c := fun c => isDigit_toDigits
  have hnumber : ∀ c ∈ Nat.toDigits 10 n, isNumberChar c := fun c => isNumberChar_toDigits
  obtain ⟨c, cs, hcons⟩ := List.exists_cons_of_ne_nil (Nat.toDigits_ne_nil (n := n) (b := 10))
  rw [hcons, List.forall_mem_cons] at hchars hnumber
  rw [hcons] at hread ⊢
  rw [tokens_numeral (.inl hchars.1) hnumber.2, hread]

theorem tokens_neg {n : Nat} (hpos : 0 < n) (h : n ≤ 0x8000000000000000) :
    tokens (('-' :: Nat.toDigits 10 n).map some) = [.number (some (.neg (Int64.ofInt (-n))))] := by
  have hgreatest : n ≤ Number.greatest := by
    unfold Number.greatest
    omega
  rw [tokens_numeral (.inr rfl) fun c => isNumberChar_toDigits, numberTokens,
    (spelling?_toDigits n).2]
  simp [Number.ofSpelling_decimals hgreatest, hpos, h]

theorem tokens_number {n : Number} (h : n.Exact) :
    tokens (n.text.toList.map some) = [.number (some n)] := by
  cases n with
  | nat n =>
      have htext : (Number.nat n).text.toList = Nat.toDigits 10 n.toNat := by
        simp [Number.text]
      have hlt := n.toNat_lt
      have hfits : n.toNat ≤ Number.greatest := by
        unfold Number.greatest
        omega
      rw [htext, tokens_nat hfits, UInt64.ofNat_toNat]
  | neg n =>
      have hneg : n.toInt < 0 := h
      have hleast := n.le_toInt
      have htext : (Number.neg n).text.toList = '-' :: Nat.toDigits 10 n.toInt.natAbs := by
        have habs : (-n.toInt).toNat = n.toInt.natAbs := by omega
        rw [Number.text, Int.toString_eq_repr, Int.repr_eq_if, if_neg (by omega), habs]
        simp
      have hvalue : -((n.toInt.natAbs : Nat) : Int) = n.toInt := by omega
      rw [htext, tokens_neg (by omega) (by omega), hvalue, Int64.ofInt_toInt]
  | float x => cases h

end Numbers

end Catalogue.Json
