/-! Bytes, 32-bit words and blocks, as the message digests use them. -/

set_option autoImplicit false

-- Powers are the core's `Nat.pow` and `Int.pow`, also where Mathlib's monoid powers are in scope.
attribute [local instance (high)] instPowNat

namespace LineCoverage.Digest

def blocks (bs : List UInt8) : List (List UInt8) :=
  if _h : bs.length ≤ 64 then [bs] else bs.take 64 :: blocks (bs.drop 64)
termination_by bs.length
decreasing_by simp only [List.length_drop]; omega

def wordBig (a b c d : UInt8) : UInt32 :=
  (a.toUInt32 <<< 24) ||| (b.toUInt32 <<< 16) ||| (c.toUInt32 <<< 8) ||| d.toUInt32

def wordsBig : List UInt8 → List UInt32
  | a :: b :: c :: d :: rest => wordBig a b c d :: wordsBig rest
  | _ => []

def wordsLittle : List UInt8 → List UInt32
  | a :: b :: c :: d :: rest => wordBig d c b a :: wordsLittle rest
  | _ => []

def bytesBig (w : UInt32) : List UInt8 :=
  [(w >>> 24).toUInt8, (w >>> 16).toUInt8, (w >>> 8).toUInt8, w.toUInt8]

def bytesLittle (w : UInt32) : List UInt8 := (bytesBig w).reverse

def countBig (n : Nat) : List UInt8 :=
  (List.range 8).reverse.map fun i => (n / 2 ^ (8 * i) % 256).toUInt8

/-- Padding of the digests of this family: a one bit, zeros up to 56 bytes modulo 64, and
the length in bits in eight bytes. -/
def pad (msg : List UInt8) (lengthBytes : List UInt8) : List UInt8 :=
  let zeros := (119 - msg.length % 64) % 64
  msg ++ [0x80] ++ List.replicate zeros 0 ++ lengthBytes

def rotl (x : UInt32) (n : UInt32) : UInt32 := (x <<< n) ||| (x >>> (32 - n))

def rotr (x : UInt32) (n : UInt32) : UInt32 := (x >>> n) ||| (x <<< (32 - n))

def hexDigit (n : Nat) : Char := if n < 10 then Char.ofNat (48 + n) else Char.ofNat (87 + n)

def hex (bs : List UInt8) : String :=
  String.ofList (bs.flatMap fun b => [hexDigit (b.toNat / 16), hexDigit (b.toNat % 16)])

example : (pad [] (countBig 0)).length = 64 := by simp [pad, countBig]
example : (pad (List.replicate 56 0) (countBig 0)).length = 128 := by simp [pad, countBig]

end LineCoverage.Digest
