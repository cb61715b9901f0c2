import LineCoverage.Proofs.Text.Decoding
/-! Strict reading inverts the encoding of text.

The bytes of a string are the UTF-8 encodings of its characters, one after the other. Each
encoding is one piece of the stream, the scalar it encodes: its first byte is a lead byte whose
promised continuation bytes follow, the first of them inside the narrowed range the lead byte
allows. So the pieces of a string's bytes are its characters, none broken, and strict reading
gives the string back.
-/

set_option autoImplicit false

namespace LineCoverage.Text.Utf8

theorem toList_eq_data (b : ByteArray) : b.toList = b.data.toList := by
  have loop : ∀ i r, ByteArray.toList.loop b i r = r.reverse ++ b.data.toList.drop i := by
    intro i r
    fun_induction ByteArray.toList.loop b i r with
    | case1 i r lt ih =>
      have inside : i < b.data.toList.length := by rw [Array.length_toList]; exact lt
      rw [ih, List.reverse_cons, List.append_assoc, List.drop_eq_getElem_cons inside]
      simp [ByteArray.get!, getElem!_pos b.data i lt]
    | case2 i r ge =>
      have beyond : b.data.toList.length ≤ i := by
        rw [Array.length_toList]
        exact Nat.le_of_not_lt ge
      rw [List.drop_eq_nil_of_le beyond, List.append_nil]
  exact (loop 0 []).trans (by simp)

theorem toUTF8_toList (s : String) : s.toUTF8.toList = s.toList.flatMap String.utf8EncodeChar := by
  have encoded := @String.toByteArray_ofList s.toList
  rw [String.ofList_toList] at encoded
  rw [toList_eq_data, String.toUTF8_eq_toByteArray, encoded, List.utf8Encode,
    List.toList_data_toByteArray]

theorem toNat_byte {n : Nat} (h : n < 256) : (UInt8.ofNat n).toNat = n :=
  UInt8.toNat_ofNat_of_lt' h

/-! ## One encoded character is one piece

One lemma for each length of an encoding, over the scalar value `v` it encodes. -/

theorem piece_two (v : Nat) (low : 0x80 ≤ v) (high : v ≤ 0x7FF) (rest : List UInt8) :
    piece (UInt8.ofNat (v / 64 % 32 + 192)) (UInt8.ofNat (v % 64 + 128) :: rest) =
      .scalar (Char.ofNat v) 2 := by
  have b0 : (UInt8.ofNat (v / 64 % 32 + 192)).toNat = v / 64 + 192 := by
    rw [toNat_byte (by omega)]
    omega
  have b1 : (UInt8.ofNat (v % 64 + 128)).toNat = v % 64 + 128 := toNat_byte (by omega)
  have leads : lead (v / 64 + 192) = some ⟨1, 0x80, 0xBF⟩ := by
    unfold lead
    rw [if_pos (by omega)]
  have value : (v / 64 + 192) % 2 ^ (6 - 1) * 64 + (v % 64 + 128) % 64 = v := by omega
  simp only [piece, b0, b1, leads, continuation, close, if_neg (by omega : ¬ v / 64 + 192 < 0x80),
    if_pos (by omega : 0x80 ≤ v % 64 + 128 ∧ v % 64 + 128 ≤ 0xBF), value]
  rfl

/-- Three bytes. The lead bytes `E0` and `ED` narrow the first continuation byte, which keeps
out overlong forms and surrogates; a scalar value below `0x1000` or in `0xD000 ..< 0xD800`
meets exactly that narrowing. -/
theorem piece_three (v : Nat) (low : 0x800 ≤ v) (high : v ≤ 0xFFFF)
    (scalar : v < 0xD800 ∨ 0xDFFF < v) (rest : List UInt8) :
    piece (UInt8.ofNat (v / 4096 % 16 + 224))
        (UInt8.ofNat (v / 64 % 64 + 128) :: UInt8.ofNat (v % 64 + 128) :: rest) =
      .scalar (Char.ofNat v) 3 := by
  have b0 : (UInt8.ofNat (v / 4096 % 16 + 224)).toNat = v / 4096 + 224 := by
    rw [toNat_byte (by omega)]
    omega
  have b1 : (UInt8.ofNat (v / 64 % 64 + 128)).toNat = v / 64 % 64 + 128 := toNat_byte (by omega)
  have b2 : (UInt8.ofNat (v % 64 + 128)).toNat = v % 64 + 128 := toNat_byte (by omega)
  obtain ⟨lo, hi, leads, above, below⟩ : ∃ lo hi, lead (v / 4096 + 224) = some ⟨2, lo, hi⟩ ∧
      lo ≤ v / 64 % 64 + 128 ∧ v / 64 % 64 + 128 ≤ hi := by
    unfold lead
    by_cases e0 : v < 0x1000
    · exact ⟨0xA0, 0xBF, by rw [if_neg (by omega), if_pos (by omega)], by omega, by omega⟩
    by_cases ed : 0xD000 ≤ v ∧ v < 0xE000
    · exact ⟨0x80, 0x9F, by rw [if_neg (by omega), if_neg (by omega), if_pos (by omega)],
        by omega, by omega⟩
    · exact ⟨0x80, 0xBF, by
        rw [if_neg (by omega), if_neg (by omega), if_neg (by omega), if_pos (by omega)],
        by omega, by omega⟩
  have value : ((v / 4096 + 224) % 2 ^ (6 - 2) * 64 + (v / 64 % 64 + 128) % 64) * 64 +
      (v % 64 + 128) % 64 = v := by omega
  simp only [piece, b0, b1, b2, leads, continuation, close,
    if_neg (by omega : ¬ v / 4096 + 224 < 0x80), if_pos (And.intro above below),
    if_pos (by omega : 0x80 ≤ v % 64 + 128 ∧ v % 64 + 128 ≤ 0xBF), value]
  rfl

/-- Four bytes. The lead bytes `F0` and `F4` narrow the first continuation byte, which keeps
out overlong forms and values above `0x10FFFF`. -/
theorem piece_four (v : Nat) (low : 0x10000 ≤ v) (high : v < 0x110000) (rest : List UInt8) :
    piece (UInt8.ofNat (v / 262144 % 8 + 240))
        (UInt8.ofNat (v / 4096 % 64 + 128) :: UInt8.ofNat (v / 64 % 64 + 128) ::
          UInt8.ofNat (v % 64 + 128) :: rest) =
      .scalar (Char.ofNat v) 4 := by
  have b0 : (UInt8.ofNat (v / 262144 % 8 + 240)).toNat = v / 262144 + 240 := by
    rw [toNat_byte (by omega)]
    omega
  have b1 : (UInt8.ofNat (v / 4096 % 64 + 128)).toNat = v / 4096 % 64 + 128 :=
    toNat_byte (by omega)
  have b2 : (UInt8.ofNat (v / 64 % 64 + 128)).toNat = v / 64 % 64 + 128 := toNat_byte (by omega)
  have b3 : (UInt8.ofNat (v % 64 + 128)).toNat = v % 64 + 128 := toNat_byte (by omega)
  obtain ⟨lo, hi, leads, above, below⟩ : ∃ lo hi, lead (v / 262144 + 240) = some ⟨3, lo, hi⟩ ∧
      lo ≤ v / 4096 % 64 + 128 ∧ v / 4096 % 64 + 128 ≤ hi := by
    unfold lead
    have early : ¬ (0xC2 ≤ v / 262144 + 240 ∧ v / 262144 + 240 ≤ 0xDF) ∧
        v / 262144 + 240 ≠ 0xE0 ∧ v / 262144 + 240 ≠ 0xED ∧
        ¬ (0xE1 ≤ v / 262144 + 240 ∧ v / 262144 + 240 ≤ 0xEF) := by omega
    rw [if_neg early.1, if_neg early.2.1, if_neg early.2.2.1, if_neg early.2.2.2]
    by_cases f0 : v < 0x40000
    · exact ⟨0x90, 0xBF, by rw [if_pos (by omega)], by omega, by omega⟩
    by_cases f4 : 0x100000 ≤ v
    · exact ⟨0x80, 0x8F, by rw [if_neg (by omega), if_pos (by omega)], by omega, by omega⟩
    · exact ⟨0x80, 0xBF, by rw [if_neg (by omega), if_neg (by omega), if_pos (by omega)],
        by omega, by omega⟩
  have value : (((v / 262144 + 240) % 2 ^ (6 - 3) * 64 + (v / 4096 % 64 + 128) % 64) * 64 +
      (v / 64 % 64 + 128) % 64) * 64 + (v % 64 + 128) % 64 = v := by omega
  simp only [piece, b0, b1, b2, b3, leads, continuation, close,
    if_neg (by omega : ¬ v / 262144 + 240 < 0x80), if_pos (And.intro above below),
    if_pos (by omega : 0x80 ≤ v / 64 % 64 + 128 ∧ v / 64 % 64 + 128 ≤ 0xBF),
    if_pos (by omega : 0x80 ≤ v % 64 + 128 ∧ v % 64 + 128 ≤ 0xBF), value]
  rfl

theorem pieces_utf8EncodeChar (c : Char) (rest : List UInt8) :
    pieces (String.utf8EncodeChar c ++ rest) =
      .scalar c (String.utf8EncodeChar c).length :: pieces rest := by
  have valid : c.toNat < 0xD800 ∨ (0xDFFF < c.toNat ∧ c.toNat < 0x110000) := c.valid
  have back : Char.ofNat c.toNat = c := Char.ofNat_toNat c
  have toNat : c.val.toNat = c.toNat := rfl
  unfold String.utf8EncodeChar
  dsimp only
  rw [toNat]
  split_ifs with one two three
  · have ascii : (UInt8.ofNat c.toNat).toNat = c.toNat := toNat_byte (by omega)
    rw [List.singleton_append, pieces_cons]
    simp only [piece, ascii, if_pos (by omega : c.toNat < 0x80), back, Piece.width, Nat.sub_self,
      List.drop_zero, List.length_singleton]
  · rw [List.cons_append, pieces_cons, List.singleton_append, piece_two _ (by omega) two, back]
    rfl
  · rw [List.cons_append, pieces_cons, List.cons_append, List.singleton_append,
      piece_three _ (by omega) three (by omega), back]
    rfl
  · rw [List.cons_append, pieces_cons, List.cons_append, List.cons_append, List.singleton_append,
      piece_four _ (by omega) (by omega), back]
    rfl

theorem pieces_encode (cs : List Char) :
    pieces (cs.flatMap String.utf8EncodeChar) =
      cs.map fun c => .scalar c (String.utf8EncodeChar c).length := by
  induction cs with
  | nil => simp [pieces]
  | cons c cs ih => rw [List.flatMap_cons, pieces_utf8EncodeChar, ih, List.map_cons]

theorem firstFault_scalars (cs : List Char) (offset : Nat) :
    firstFault (cs.map fun c => .scalar c (String.utf8EncodeChar c).length) offset = none := by
  induction cs generalizing offset with
  | nil => rfl
  | cons c cs ih => exact ih _

theorem decode_toUTF8 (s : String) : decode s.toUTF8.toList = .ok s := by
  rw [decode, toUTF8_toList, pieces_encode, firstFault_scalars, decodeLossy, pieces_encode,
    List.map_map]
  simp [Function.comp_def, Piece.char]

end LineCoverage.Text.Utf8
