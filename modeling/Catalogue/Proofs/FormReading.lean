import Catalogue.Proofs.Utf8Reading
import Catalogue.Text.Encoding

namespace Catalogue.Text

namespace Percent

theorem decode_byte (b : UInt8) (rest : List Char) :
    decode (byte b ++ rest) = b :: decode rest := by
  have hb : b.toNat < 256 := b.toNat_lt
  have hnumber : b.toNat / 16 * 16 + b.toNat % 16 = b.toNat := by omega
  simp only [byte, List.cons_append, List.nil_append, decode]
  rw [hexValue?_hexDigit true (by omega), hexValue?_hexDigit true (by omega)]
  simp only [hnumber, UInt8.ofNat_toNat]

theorem decode_flatMap_byte (bs : List UInt8) (rest : List Char) :
    decode (bs.flatMap byte ++ rest) = bs ++ decode rest := by
  induction bs with
  | nil => rfl
  | cons b bs ih => rw [List.flatMap_cons, List.append_assoc, decode_byte, ih, List.cons_append]

theorem decode_cons_of_ne {c : Char} (h : c ≠ '%') (rest : List Char) :
    decode (c :: rest) = String.utf8EncodeChar c ++ decode rest := by
  rw [decode]
  intro _ _ _ hc
  exact absurd hc h

end Percent

namespace Form

def isCode (c : Char) : Bool := isPlain c || c == '+' || c == '%'

theorem isPlain_hexDigit {n : Nat} (h : n < 16) : isPlain (hexDigit true n) := by
  have hall : ∀ n < 16, isPlain (hexDigit true n) := by decide
  exact hall n h

theorem isCode_byte {b : UInt8} {c : Char} (h : c ∈ Percent.byte b) : isCode c := by
  have hb : b.toNat < 256 := b.toNat_lt
  unfold isCode
  simp only [Percent.byte, List.mem_cons, List.not_mem_nil, or_false] at h
  obtain rfl | rfl | rfl := h
  · rfl
  · rw [isPlain_hexDigit (by omega)]
    rfl
  · rw [isPlain_hexDigit (by omega)]
    rfl

theorem isCode_encodeChar {c d : Char} (h : d ∈ encodeChar c) : isCode d := by
  unfold encodeChar at h
  split at h
  · rw [List.mem_singleton.1 h]
    rfl
  split at h
  · rename_i hplain
    rw [List.mem_singleton.1 h, isCode, hplain]
    rfl
  · obtain ⟨b, _, hd⟩ := List.mem_flatMap.1 h
    exact isCode_byte hd

theorem isCode_encode {value : String} {c : Char} (h : c ∈ (encode value).toList) : isCode c := by
  rw [encode, String.toList_ofList] at h
  obtain ⟨d, _, hc⟩ := List.mem_flatMap.1 h
  exact isCode_encodeChar hc

def unplus (c : Char) : Char := if c = '+' then ' ' else c

theorem unplus_of_isPlain {c : Char} (h : isPlain c) : unplus c = c := by
  apply if_neg
  rintro rfl
  exact absurd h (by decide)

theorem map_unplus_flatMap_byte (bs : List UInt8) :
    (bs.flatMap Percent.byte).map unplus = bs.flatMap Percent.byte := by
  rw [List.map_flatMap]
  congr 1
  funext b
  have hb : b.toNat < 256 := b.toNat_lt
  simp only [Percent.byte, List.map_cons, List.map_nil]
  rw [unplus_of_isPlain (isPlain_hexDigit (by omega)),
    unplus_of_isPlain (isPlain_hexDigit (by omega))]
  rfl

theorem decode_encodeChar (c : Char) (rest : List Char) :
    Percent.decode ((encodeChar c).map unplus ++ rest) =
      String.utf8EncodeChar c ++ Percent.decode rest := by
  unfold encodeChar
  split
  · rename_i hblank
    subst hblank
    exact Percent.decode_cons_of_ne (by decide) rest
  split
  · rename_i hplain
    have hne : c ≠ '%' := by
      rintro rfl
      exact absurd hplain (by decide)
    rw [List.map_singleton, unplus_of_isPlain hplain]
    exact Percent.decode_cons_of_ne hne rest
  · rw [Percent.char, map_unplus_flatMap_byte, Percent.decode_flatMap_byte]

theorem decode?_encode (value : String) : decode? (encode value) = some value := by
  have hbytes (cs : List Char) :
      Percent.decode ((cs.flatMap encodeChar).map unplus) = Utf8.encode cs := by
    induction cs with
    | nil => rfl
    | cons c cs ih =>
        rw [List.flatMap_cons, List.map_append, decode_encodeChar, ih, Utf8.encode, Utf8.encode,
          List.flatMap_cons]
  change (Utf8.decode? (Percent.decode ((encode value).toList.map unplus))).map String.ofList = _
  rw [encode, String.toList_ofList, hbytes, Utf8.decode?_encode, Option.map_some,
    String.ofList_toList]

theorem encode_injective {value other : String} (h : encode value = encode other) :
    value = other := by
  have hvalue := decode?_encode value
  rw [h, decode?_encode] at hvalue
  exact (Option.some.inj hvalue).symm

end Form

end Catalogue.Text
