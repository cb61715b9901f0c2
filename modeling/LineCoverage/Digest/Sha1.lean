import LineCoverage.Digest.Words
/-! SHA-1. -/

set_option autoImplicit false

namespace LineCoverage.Digest

def sha1Start : List UInt32 := [0x67452301, 0xEFCDAB89, 0x98BADCFE, 0x10325476, 0xC3D2E1F0]

def sha1Schedule (block : List UInt8) : Array UInt32 :=
  (List.range 64).foldl (fun (w : Array UInt32) i =>
    let t := i + 16
    w.push (rotl (w[t - 3]! ^^^ w[t - 8]! ^^^ w[t - 14]! ^^^ w[t - 16]!) 1)) (wordsBig block).toArray

def sha1Mix (i : Nat) (b c d : UInt32) : UInt32 × UInt32 :=
  if i < 20 then ((b &&& c) ||| (~~~b &&& d), 0x5A827999)
  else if i < 40 then (b ^^^ c ^^^ d, 0x6ED9EBA1)
  else if i < 60 then ((b &&& c) ||| (b &&& d) ||| (c &&& d), 0x8F1BBCDC)
  else (b ^^^ c ^^^ d, 0xCA62C1D6)

def sha1Block (h : List UInt32) (block : List UInt8) : List UInt32 :=
  let w := sha1Schedule block
  let st := (List.range 80).foldl (fun st i =>
    match st with
    | [a, b, c, d, e] =>
      let (f, k) := sha1Mix i b c d
      [rotl a 5 + f + e + k + w[i]!, a, rotl b 30, c, d]
    | st => st) h
  List.zipWith (· + ·) h st

def sha1 (msg : List UInt8) : List UInt8 :=
  ((blocks (pad msg (countBig (8 * msg.length)))).foldl sha1Block sha1Start).flatMap bytesBig

end LineCoverage.Digest
