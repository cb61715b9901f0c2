import LineCoverage.Text.Utf8
/-! Bytes held as text, one character per byte.

The shell and its utilities work on bytes, as they do in the C locale: a length counts bytes,
`?` matches one byte, and a byte of a multibyte character is translated on its own. Holding
each byte as the character of the same number keeps every text operation bytewise, and the
order of such texts is the order of their bytes. Names that the rest of the program keeps as
UTF-8 text are turned into such byte texts on the way in and back on the way out.
-/

set_option autoImplicit false

namespace LineCoverage.Text.Bytewise

def encode (s : String) : List UInt8 := s.toList.map fun c => c.toNat.toUInt8

def decode (bs : List UInt8) : String := String.ofList (bs.map fun b => Char.ofNat b.toNat)

def ofText (s : String) : String := decode s.toUTF8.toList

def toText (s : String) : String := Utf8.decodeLossy (encode s)

theorem toNat_ofNat_byte (n : Nat) (h : n < 256) : (Char.ofNat n).toNat = n := by
  have hv : n.isValidChar := Or.inl (by omega)
  rw [Char.ofNat, dif_pos hv]
  exact UInt32.toNat_ofNatLT

theorem encode_decode (bs : List UInt8) : encode (decode bs) = bs := by
  simp only [encode, decode, String.toList_ofList, List.map_map]
  conv => rhs; rw [← List.map_id bs]
  apply List.map_congr_left
  intro b _
  simp only [Function.comp_apply, id]
  rw [toNat_ofNat_byte b.toNat b.toNat_lt]
  exact UInt8.ofNat_toNat

example : (ofText "é").length = 2 := by decide +kernel
example : toText (ofText "é") = "é" := by decide +kernel

end LineCoverage.Text.Bytewise
