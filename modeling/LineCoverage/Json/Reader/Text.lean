import LineCoverage.Json.Cursor
import LineCoverage.Text.Utf8
/-! Reading a JSON string after its opening quote.

Bytes below 0x20 may not stand in a string. A backslash starts an escape: one of
`" \ / b f n r t`, or `u` with four hex digits. A `\u` escape of a high surrogate must be
followed by a `\u` escape of a low one, and the pair stands for one character; a low
surrogate alone is refused. The string's bytes, escapes written as UTF-8, must form UTF-8.

Skipping a string checks the same escapes, without the surrogate pairing and without UTF-8.
-/

set_option autoImplicit false

namespace LineCoverage.Json

def hexValue (b : UInt8) : Option Nat :=
  let n := b.toNat
  if 48 ≤ n ∧ n ≤ 57 then some (n - 48)
  else if 65 ≤ n ∧ n ≤ 70 then some (n - 55)
  else if 97 ≤ n ∧ n ≤ 102 then some (n - 87)
  else none

/-- The four hex digits of a `\u` escape, taken together: fewer than four bytes left is the
end of the text, and four that are not all hex digits are refused after the last of them. -/
def hexEscape (c : Cursor) : Step Nat :=
  match c.rest with
  | a :: b :: d :: e :: _ =>
    match hexValue a, hexValue b, hexValue d, hexValue e with
    | some w, some x, some y, some z => .ok (((w * 16 + x) * 16 + y) * 16 + z, c.advanceBy 4)
    | _, _, _, _ => failHere .invalidEscape (c.advanceBy 4)
  | _ => failHere .eofInString (c.advanceBy c.rest.length)

def lowSurrogate (hi : Nat) (c : Cursor) : Step Char :=
  match c.rest with
  | [] => failHere .eofInString c
  | b :: _ =>
    if b ≠ 92 then failHere .hexEscapeCut c.advance
    else
      let c := c.advance
      match c.rest with
      | [] => failHere .eofInString c
      | u :: _ =>
        if u ≠ 117 then failHere .hexEscapeCut c.advance
        else
          match hexEscape c.advance with
          | .error e => .error e
          | .ok (lo, c) =>
            if lo < 0xDC00 ∨ lo > 0xDFFF then failHere .loneSurrogate c
            else .ok (Char.ofNat ((hi - 0xD800) * 0x400 + (lo - 0xDC00) + 0x10000), c)

def readEscape (c : Cursor) : Step Char :=
  match c.rest with
  | [] => failHere .eofInString c
  | e :: _ =>
    let c := c.advance
    match e with
    | 34 => .ok ('"', c)
    | 92 => .ok ('\\', c)
    | 47 => .ok ('/', c)
    | 98 => .ok ('\x08', c)
    | 102 => .ok ('\x0c', c)
    | 110 => .ok ('\n', c)
    | 114 => .ok ('\r', c)
    | 116 => .ok ('\t', c)
    | 117 =>
      match hexEscape c with
      | .error err => .error err
      | .ok (n, c) =>
        if 0xDC00 ≤ n ∧ n ≤ 0xDFFF then failHere .loneSurrogate c
        else if 0xD800 ≤ n ∧ n ≤ 0xDBFF then lowSurrogate n c
        else .ok (Char.ofNat n, c)
    | _ => failHere .invalidEscape c

/-- The bytes of a string up to its closing quote, which is taken too; an escape adds the
UTF-8 bytes of its character. The bytes are checked as UTF-8 only at the closing quote, so a
broken escape or a control character after an invalid byte is the problem reported. An
invalid sequence is placed back from the closing quote by as many bytes as were collected
from its start on. Every round takes at least one byte, so `fuel` above the number of bytes
left is enough. -/
def stringBytes (acc : List UInt8) (c : Cursor) : Nat → Step String
  | 0 => failHere .eofInString c
  | fuel + 1 =>
    match c.rest with
    | [] => failHere .eofInString c
    | b :: _ =>
      if b = 34 then
        let d := c.advance
        let bs := acc.reverse
        match Text.Utf8.decode bs with
        | .ok s => .ok (s, d)
        | .error f => failAt ⟨d.line, d.index - (bs.length - f.offset) - d.lineStart⟩ .invalidCodePoint d
      else if b = 92 then
        match readEscape c.advance with
        | .error e => .error e
        | .ok (x, d) => stringBytes ((String.singleton x).toUTF8.toList.reverse ++ acc) d fuel
      else if b.toNat < 0x20 then failHere .controlCharacter c.advance
      else stringBytes (b :: acc) c.advance fuel

def readString (c : Cursor) : Step String := stringBytes [] c (c.rest.length + 1)

def skipEscape (c : Cursor) : Step Unit :=
  match c.rest with
  | [] => failHere .eofInString c
  | e :: _ =>
    let c := c.advance
    if e = 34 ∨ e = 92 ∨ e = 47 ∨ e = 98 ∨ e = 102 ∨ e = 110 ∨ e = 114 ∨ e = 116 then .ok ((), c)
    else if e = 117 then
      match hexEscape c with
      | .error err => .error err
      | .ok (_, c) => .ok ((), c)
    else failHere .invalidEscape c

def skipChars (c : Cursor) : Nat → Step Unit
  | 0 => failHere .eofInString c
  | fuel + 1 =>
    match c.rest with
    | [] => failHere .eofInString c
    | b :: _ =>
      if b = 34 then .ok ((), c.advance)
      else if b = 92 then
        match skipEscape c.advance with
        | .error e => .error e
        | .ok ((), d) => skipChars d fuel
      else if b.toNat < 0x20 then failHere .controlCharacter c
      else skipChars c.advance fuel

def skipString (c : Cursor) : Step Unit := skipChars c (c.rest.length + 1)

end LineCoverage.Json
