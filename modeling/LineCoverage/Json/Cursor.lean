import LineCoverage.Json.Error
/-! A place in a JSON text, and the reader's steps over it.

The cursor holds the bytes still to read with the count of those before them, and the line
they are on. A problem is placed either *here*, after the bytes read so far, or *ahead*,
one byte further on: a reader that looked at a byte without taking it reports the place
after that byte.
-/

set_option autoImplicit false

namespace LineCoverage.Json

/-- The bytes still to read, how many came before, the line (from one), and the offset at
which that line starts. -/
structure Cursor where
  rest : List UInt8
  index : Nat
  line : Nat
  lineStart : Nat

def Cursor.start (bs : List UInt8) : Cursor := ⟨bs, 0, 1, 0⟩

def Cursor.here (c : Cursor) : Position := ⟨c.line, c.index - c.lineStart⟩

/-- The place one byte further on; at the end of the text, the place here. -/
def Cursor.ahead (c : Cursor) : Position :=
  match c.rest with
  | [] => c.here
  | b :: _ => if b = 10 then ⟨c.line + 1, 0⟩ else ⟨c.line, c.index + 1 - c.lineStart⟩

def Cursor.advance (c : Cursor) : Cursor :=
  match c.rest with
  | [] => c
  | b :: rest =>
    if b = 10 then ⟨rest, c.index + 1, c.line + 1, c.index + 1⟩
    else ⟨rest, c.index + 1, c.line, c.lineStart⟩

def Cursor.advanceBy (c : Cursor) : Nat → Cursor
  | 0 => c
  | n + 1 => c.advance.advanceBy n

def Cursor.peekOrNull (c : Cursor) : UInt8 := c.rest.headD 0

theorem Cursor.advance_rest (c : Cursor) : c.advance.rest = c.rest.tail := by
  unfold Cursor.advance
  split
  · simp_all
  · split <;> simp_all

def isBlankByte (b : UInt8) : Bool := b = 32 || b = 10 || b = 9 || b = 13

def isDigitByte (b : UInt8) : Bool := 48 ≤ b.toNat && b.toNat ≤ 57

def Cursor.skipBlanks (c : Cursor) : Cursor :=
  match _h : c.rest with
  | [] => c
  | b :: _ => if isBlankByte b then c.advance.skipBlanks else c
termination_by c.rest.length
decreasing_by rw [Cursor.advance_rest, _h]; simp

def Cursor.skipDigits (c : Cursor) : Cursor :=
  match _h : c.rest with
  | [] => c
  | b :: _ => if isDigitByte b then c.advance.skipDigits else c
termination_by c.rest.length
decreasing_by rw [Cursor.advance_rest, _h]; simp

abbrev Step (α : Type) := Except (ReadError × Cursor) (α × Cursor)

abbrev Failing (β : Type) := Except (ReadError × Cursor) β

def failAt {β : Type} (p : Position) (s : Flaw) (c : Cursor) : Failing β :=
  .error (⟨.malformed s, some p⟩, c)

def failHere {β : Type} (s : Flaw) (c : Cursor) : Failing β := failAt c.here s c

def failAhead {β : Type} (s : Flaw) (c : Cursor) : Failing β := failAt c.ahead s c

/-- A data problem; it gets its place from the value around it. -/
def failData {β : Type} (p : Problem) (c : Cursor) : Failing β := .error (⟨p, none⟩, c)

def expectWord (c : Cursor) : List UInt8 → Step Unit
  | [] => .ok ((), c)
  | w :: ws =>
    match c.rest with
    | [] => failHere .eofInValue c
    | b :: _ => if b = w then expectWord c.advance ws else failHere .expectedIdent c.advance

end LineCoverage.Json
