import Catalogue.Text.Encoding

namespace Catalogue.Text.Utf8

theorem decodeFrom_opened {b : UInt8} {o : Open} {bs : List UInt8} (h : lead b = .opened o) :
    decodeFrom none (b :: bs) = decodeFrom (some o) bs := by
  simp only [decodeFrom, h]

section Following

variable {b least greatest : UInt8} {bits : Nat} {bs : List UInt8}

theorem decodeFrom_last (h : least.toNat ≤ b.toNat ∧ b.toNat ≤ greatest.toNat) :
    decodeFrom (some ⟨1, least, greatest, bits⟩) (b :: bs) =
      some (Char.ofNat (bits * 64 + (b.toNat - 0x80))) :: decodeFrom none bs := by
  have hb : least ≤ b ∧ b ≤ greatest := h
  simp only [decodeFrom]
  rw [if_pos hb]

theorem decodeFrom_more {n : Nat} (h : least.toNat ≤ b.toNat ∧ b.toNat ≤ greatest.toNat) :
    decodeFrom (some ⟨n + 2, least, greatest, bits⟩) (b :: bs) =
      decodeFrom (some ⟨n + 1, 0x80, 0xBF, bits * 64 + (b.toNat - 0x80)⟩) bs := by
  have hb : least ≤ b ∧ b ≤ greatest := h
  simp only [decodeFrom]
  rw [if_pos hb]

end Following

section Leads

variable {b : UInt8}

theorem lead_one (h : b.toNat < 0x80) : lead b = .whole (Char.ofNat b.toNat) := by
  unfold lead
  rw [if_pos (UInt8.lt_iff_toNat_lt.2 h)]

theorem lead_two (h : 0xC2 ≤ b.toNat ∧ b.toNat < 0xE0) :
    lead b = .opened ⟨1, 0x80, 0xBF, b.toNat - 0xC0⟩ := by
  simp only [lead, UInt8.lt_iff_toNat_lt, UInt8.reduceToNat]
  rw [if_neg (by omega), if_neg (by omega), if_pos h.2]

theorem lead_three (h : 0xE0 ≤ b.toNat ∧ b.toNat < 0xF0) :
    lead b = .opened ⟨2, if b = 0xE0 then 0xA0 else 0x80, if b = 0xED then 0x9F else 0xBF,
      b.toNat - 0xE0⟩ := by
  simp only [lead, UInt8.lt_iff_toNat_lt, UInt8.reduceToNat]
  rw [if_neg (by omega), if_neg (by omega), if_neg (by omega), if_pos h.2]

theorem lead_four (h : 0xF0 ≤ b.toNat ∧ b.toNat < 0xF5) :
    lead b = .opened ⟨3, if b = 0xF0 then 0x90 else 0x80, if b = 0xF4 then 0x8F else 0xBF,
      b.toNat - 0xF0⟩ := by
  simp only [lead, UInt8.lt_iff_toNat_lt, UInt8.reduceToNat]
  rw [if_neg (by omega), if_neg (by omega), if_neg (by omega), if_neg (by omega), if_pos h.2]

end Leads

theorem toNat_tail (n : Nat) : (UInt8.ofNat (n % 64 + 0x80)).toNat = n % 64 + 0x80 :=
  UInt8.toNat_ofNat_of_lt' (by change _ < 256; omega)

section Lengths

variable {v : Nat} (rest : List UInt8)

theorem decodeFrom_one (h : v ≤ 0x7F) :
    decodeFrom none (UInt8.ofNat v :: rest) = some (Char.ofNat v) :: decodeFrom none rest := by
  have hb : (UInt8.ofNat v).toNat = v := UInt8.toNat_ofNat_of_lt' (by change _ < 256; omega)
  have hlead := lead_one (b := UInt8.ofNat v) (by omega)
  simp only [decodeFrom, hlead, hb]

theorem decodeFrom_two (h : 0x7F < v ∧ v ≤ 0x7FF) :
    decodeFrom none (UInt8.ofNat (v / 64 % 0x20 + 0xC0) :: UInt8.ofNat (v % 64 + 0x80) :: rest) =
      some (Char.ofNat v) :: decodeFrom none rest := by
  have hb : (UInt8.ofNat (v / 64 % 0x20 + 0xC0)).toNat = v / 64 % 0x20 + 0xC0 :=
    UInt8.toNat_ofNat_of_lt' (by change _ < 256; omega)
  rw [decodeFrom_opened (lead_two (by omega)), decodeFrom_last (by rw [toNat_tail]; simp; omega),
    hb, toNat_tail]
  have hbits : (v / 64 % 0x20 + 0xC0 - 0xC0) * 64 + (v % 64 + 0x80 - 0x80) = v := by omega
  rw [hbits]

/-- The narrowed ranges of the second byte hold exactly the code points that are characters. -/
theorem decodeFrom_three (h : 0x7FF < v ∧ v ≤ 0xFFFF) (hvalid : v < 0xD800 ∨ 0xDFFF < v) :
    decodeFrom none (UInt8.ofNat (v / 4096 % 0x10 + 0xE0) :: UInt8.ofNat (v / 64 % 64 + 0x80) ::
      UInt8.ofNat (v % 64 + 0x80) :: rest) = some (Char.ofNat v) :: decodeFrom none rest := by
  have hb : (UInt8.ofNat (v / 4096 % 0x10 + 0xE0)).toNat = v / 4096 % 0x10 + 0xE0 :=
    UInt8.toNat_ofNat_of_lt' (by change _ < 256; omega)
  have hrange : (if UInt8.ofNat (v / 4096 % 0x10 + 0xE0) = 0xE0 then (0xA0 : UInt8) else 0x80).toNat
      ≤ v / 64 % 64 + 0x80 ∧ v / 64 % 64 + 0x80 ≤
      (if UInt8.ofNat (v / 4096 % 0x10 + 0xE0) = 0xED then (0x9F : UInt8) else 0xBF).toNat := by
    simp only [← UInt8.toNat_inj, hb, UInt8.reduceToNat]
    constructor <;> split <;> simp <;> omega
  rw [decodeFrom_opened (lead_three (by omega)), decodeFrom_more (by rw [toNat_tail]; exact hrange),
    decodeFrom_last (by rw [toNat_tail]; simp; omega), hb, toNat_tail, toNat_tail]
  have hbits : ((v / 4096 % 0x10 + 0xE0 - 0xE0) * 64 + (v / 64 % 64 + 0x80 - 0x80)) * 64 +
      (v % 64 + 0x80 - 0x80) = v := by omega
  rw [hbits]

theorem decodeFrom_four (h : 0xFFFF < v ∧ v < 0x110000) :
    decodeFrom none (UInt8.ofNat (v / 262144 % 0x08 + 0xF0) :: UInt8.ofNat (v / 4096 % 64 + 0x80) ::
      UInt8.ofNat (v / 64 % 64 + 0x80) :: UInt8.ofNat (v % 64 + 0x80) :: rest) =
      some (Char.ofNat v) :: decodeFrom none rest := by
  have hb : (UInt8.ofNat (v / 262144 % 0x08 + 0xF0)).toNat = v / 262144 % 0x08 + 0xF0 :=
    UInt8.toNat_ofNat_of_lt' (by change _ < 256; omega)
  have hrange :
      (if UInt8.ofNat (v / 262144 % 0x08 + 0xF0) = 0xF0 then (0x90 : UInt8) else 0x80).toNat ≤
        v / 4096 % 64 + 0x80 ∧ v / 4096 % 64 + 0x80 ≤
        (if UInt8.ofNat (v / 262144 % 0x08 + 0xF0) = 0xF4 then (0x8F : UInt8) else 0xBF).toNat := by
    simp only [← UInt8.toNat_inj, hb, UInt8.reduceToNat]
    constructor <;> split <;> simp <;> omega
  rw [decodeFrom_opened (lead_four (by omega)), decodeFrom_more (by rw [toNat_tail]; exact hrange),
    decodeFrom_more (by rw [toNat_tail]; simp; omega),
    decodeFrom_last (by rw [toNat_tail]; simp; omega), hb, toNat_tail, toNat_tail, toNat_tail]
  have hbits : (((v / 262144 % 0x08 + 0xF0 - 0xF0) * 64 + (v / 4096 % 64 + 0x80 - 0x80)) * 64 +
      (v / 64 % 64 + 0x80 - 0x80)) * 64 + (v % 64 + 0x80 - 0x80) = v := by omega
  rw [hbits]

end Lengths

theorem decodeFrom_encodeChar (c : Char) (rest : List UInt8) :
    decodeFrom none (String.utf8EncodeChar c ++ rest) = some c :: decodeFrom none rest := by
  have hvalid : c.val.toNat < 0xD800 ∨ 0xDFFF < c.val.toNat ∧ c.val.toNat < 0x110000 := c.valid
  have hchar : Char.ofNat c.val.toNat = c := Char.ofNat_toNat c
  fun_cases String.utf8EncodeChar c with
  | case1 v h => rw [← hchar]; exact decodeFrom_one rest h
  | case2 v _ h => rw [← hchar]; exact decodeFrom_two rest (by omega)
  | case3 v _ _ h => rw [← hchar]; exact decodeFrom_three rest (by omega) (by omega)
  | case4 v _ _ h => rw [← hchar]; exact decodeFrom_four rest (by omega)

theorem decode_encode (cs : List Char) : decode (encode cs) = cs.map some := by
  unfold decode encode
  induction cs with
  | nil => rfl
  | cons c cs ih => rw [List.flatMap_cons, decodeFrom_encodeChar, ih, List.map_cons]

theorem decode?_encode (cs : List Char) : decode? (encode cs) = some cs := by
  unfold decode?
  rw [decode_encode]
  induction cs with
  | nil => rfl
  | cons c cs ih => simp [List.mapM_cons, ih]

end Catalogue.Text.Utf8
