/-! UTF-8 byte streams read as text.

A stream is cut into pieces: the well-formed encoding of one scalar value, or a maximal
subpart of one that breaks off, either at a byte that cannot continue it or at the end
of the stream. Lossy reading writes U+FFFD for every broken piece; strict reading reports
the first one with its byte offset.
-/

set_option autoImplicit false

-- Powers are the core's `Nat.pow` and `Int.pow`, also where Mathlib's monoid powers are in scope.
attribute [local instance (high)] instPowNat

namespace LineCoverage.Text.Utf8

/-- What a lead byte promises: the number of continuation bytes after it, and the range
the first of them must lie in (later ones lie in `0x80 ..= 0xBF`). -/
structure Lead where
  tail : Nat
  lo : Nat
  hi : Nat

/-- The lead bytes of well-formed sequences. The narrowed ranges after `E0`, `ED`, `F0`
and `F4` keep out overlong forms, surrogates and values above U+10FFFF. -/
def lead (b : Nat) : Option Lead :=
  if 0xC2 ≤ b ∧ b ≤ 0xDF then some ⟨1, 0x80, 0xBF⟩
  else if b = 0xE0 then some ⟨2, 0xA0, 0xBF⟩
  else if b = 0xED then some ⟨2, 0x80, 0x9F⟩
  else if 0xE1 ≤ b ∧ b ≤ 0xEF then some ⟨2, 0x80, 0xBF⟩
  else if b = 0xF0 then some ⟨3, 0x90, 0xBF⟩
  else if b = 0xF4 then some ⟨3, 0x80, 0x8F⟩
  else if 0xF1 ≤ b ∧ b ≤ 0xF3 then some ⟨3, 0x80, 0xBF⟩
  else none

inductive Piece where
  | scalar (c : Char) (width : Nat)
  /-- A maximal invalid subpart of `width` bytes, followed by a byte that cannot go on. -/
  | broken (width : Nat)
  /-- A maximal invalid subpart of `width` bytes, ended by the end of the stream. -/
  | cut (width : Nat)
  deriving Repr, DecidableEq

def Piece.width : Piece → Nat
  | .scalar _ w => w
  | .broken w => w
  | .cut w => w

def Piece.char : Piece → Char
  | .scalar c _ => c
  | _ => '�'

/-- Accepts up to `n` continuation bytes, the first in `[lo, hi]` and the others in
`[0x80, 0xBF]`, and returns how many were accepted and the value with their payload bits. -/
def continuation (lo hi : Nat) : Nat → List UInt8 → Nat → Nat × Nat
  | 0, _, acc => (0, acc)
  | _ + 1, [], acc => (0, acc)
  | n + 1, b :: rest, acc =>
    if lo ≤ b.toNat ∧ b.toNat ≤ hi then
      let r := continuation 0x80 0xBF n rest (acc * 64 + b.toNat % 64)
      (r.1 + 1, r.2)
    else (0, acc)

def close (l : Lead) (left : Nat) (r : Nat × Nat) : Piece :=
  if r.1 = l.tail then .scalar (Char.ofNat r.2) (r.1 + 1)
  else if r.1 = left then .cut (r.1 + 1)
  else .broken (r.1 + 1)

def piece (b : UInt8) (rest : List UInt8) : Piece :=
  if b.toNat < 0x80 then .scalar (Char.ofNat b.toNat) 1
  else match lead b.toNat with
    | none => .broken 1
    | some l => close l rest.length (continuation l.lo l.hi l.tail rest (b.toNat % 2 ^ (6 - l.tail)))

theorem close_width (l : Lead) (left : Nat) (r : Nat × Nat) : (close l left r).width = r.1 + 1 := by
  unfold close
  split
  · rfl
  · split <;> rfl

theorem continuation_fst_le (lo hi : Nat) :
    ∀ (n : Nat) (bs : List UInt8) (acc : Nat), (continuation lo hi n bs acc).1 ≤ bs.length
  | 0, _, _ => by simp [continuation]
  | _ + 1, [], _ => by simp [continuation]
  | n + 1, b :: rest, acc => by
    have ih := continuation_fst_le 0x80 0xBF n rest (acc * 64 + b.toNat % 64)
    simp only [continuation]
    split
    · simp only [List.length_cons]
      omega
    · simp

theorem piece_width_pos (b : UInt8) (rest : List UInt8) : 1 ≤ (piece b rest).width := by
  unfold piece
  split
  · simp [Piece.width]
  · split
    · simp [Piece.width]
    · simp [close_width]

theorem piece_width_le (b : UInt8) (rest : List UInt8) : (piece b rest).width ≤ rest.length + 1 := by
  unfold piece
  split
  · simp [Piece.width]
  · split
    · simp [Piece.width]
    · rename_i l _
      have h := continuation_fst_le l.lo l.hi l.tail rest (b.toNat % 2 ^ (6 - l.tail))
      simp [close_width]
      omega

def pieces : List UInt8 → List Piece
  | [] => []
  | b :: rest =>
    let p := piece b rest
    p :: pieces (rest.drop (p.width - 1))
termination_by bs => bs.length
decreasing_by simp only [List.length_drop, List.length_cons]; omega

def decodeLossy (bs : List UInt8) : String :=
  String.ofList ((pieces bs).map Piece.char)

/-- The first broken piece of a stream: its byte offset, and its width unless the end
of the stream cut it off. -/
structure Fault where
  offset : Nat
  width : Option Nat
  deriving Repr, DecidableEq

def firstFault : List Piece → Nat → Option Fault
  | [], _ => none
  | .scalar _ w :: rest, offset => firstFault rest (offset + w)
  | .broken w :: _, offset => some ⟨offset, some w⟩
  | .cut _ :: _, offset => some ⟨offset, none⟩

def Fault.message (f : Fault) : String :=
  match f.width with
  | some w => "invalid utf-8 sequence of " ++ toString w ++ " bytes from index " ++ toString f.offset
  | none => "incomplete utf-8 byte sequence from index " ++ toString f.offset

def decode (bs : List UInt8) : Except Fault String :=
  match firstFault (pieces bs) 0 with
  | some f => .error f
  | none => .ok (decodeLossy bs)

end LineCoverage.Text.Utf8
