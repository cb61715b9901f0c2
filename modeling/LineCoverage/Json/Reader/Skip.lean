import LineCoverage.Json.Reader.Text
/-! Skipping a JSON value.

A value that nobody keeps is still read through, with a stack of the arrays and objects
around the place instead of recursion, so it has no depth limit. Its numbers and strings are
checked for form only: the digits of a number are not gathered and the bytes of a string
need not be UTF-8.
-/

set_option autoImplicit false

namespace LineCoverage.Json

def skipExponent (c : Cursor) : Step Unit :=
  let c := c.advance
  let c := match c.rest with
    | 43 :: _ | 45 :: _ => c.advance
    | _ => c
  match c.rest with
  | b :: _ => if isDigitByte b then .ok ((), c.advance.skipDigits) else failHere .invalidNumber c.advance
  | [] => failHere .invalidNumber c

def skipFraction (c : Cursor) : Step Unit :=
  let c := c.advance
  if isDigitByte c.peekOrNull then
    let c := c.skipDigits
    match c.rest with
    | 101 :: _ | 69 :: _ => skipExponent c
    | _ => .ok ((), c)
  else failAhead .invalidNumber c

def skipNumber (c : Cursor) : Step Unit :=
  let first : Except (ReadError × Cursor) Cursor :=
    match c.rest with
    | [] => failHere .invalidNumber c
    | b :: _ =>
      if b = 48 then
        if isDigitByte c.advance.peekOrNull then failAhead .invalidNumber c.advance
        else .ok c.advance
      else if isDigitByte b then .ok c.advance.skipDigits
      else failHere .invalidNumber c.advance
  match first with
  | .error e => .error e
  | .ok c =>
    match c.rest with
    | 46 :: _ => skipFraction c
    | 101 :: _ | 69 :: _ => skipExponent c
    | _ => .ok ((), c)

/-- Skips a scalar value at its first byte: a keyword, a number or a string. `none` when
the byte starts an array or an object or no value at all. -/
def skipScalar (c : Cursor) : Option (Step Unit) :=
  match c.rest with
  | 110 :: _ => some (expectWord c.advance [117, 108, 108])
  | 116 :: _ => some (expectWord c.advance [114, 117, 101])
  | 102 :: _ => some (expectWord c.advance [97, 108, 115, 101])
  | 45 :: _ => some (skipNumber c.advance)
  | 34 :: _ => some (skipString c.advance)
  | b :: _ => if isDigitByte b then some (skipNumber c) else none
  | [] => none

def eofIn (isObject : Bool) : Flaw := if isObject then .eofInObject else .eofInList

/-- After a value inside containers: closes the containers that end here. Gives the
innermost container still open, the ones around it and the place of its next value, or
`none` when the outermost one closed. -/
def closeFrames (frame acceptComma : Bool) (outer : List Bool) (c : Cursor) :
    Nat → Except (ReadError × Cursor) (Option (Bool × List Bool) × Cursor)
  | 0 => failHere (eofIn frame) c
  | fuel + 1 =>
    let c := c.skipBlanks
    match c.rest with
    | [] => failAhead (eofIn frame) c
    | b :: _ =>
      if b = 44 ∧ acceptComma then .ok (some (frame, outer), c.advance)
      else if (b = 93 ∧ !frame) ∨ (b = 125 ∧ frame) then
        match outer with
        | [] => .ok (none, c.advance)
        | f :: rest => closeFrames f true rest c.advance fuel
      else if acceptComma then
        failAhead (if frame then .expectedObjectCommaOrEnd else .expectedListCommaOrEnd) c
      else .ok (some (frame, outer), c)

def skipKey (c : Cursor) : Step Unit :=
  let c := c.skipBlanks
  match c.rest with
  | [] => failAhead .eofInValue c
  | 34 :: _ =>
    match skipString c.advance with
    | .error e => .error e
    | .ok ((), c) =>
      let c := c.skipBlanks
      match c.rest with
      | 58 :: _ => .ok ((), c.advance)
      | _ :: _ => failAhead .expectedColon c
      | [] => failAhead .eofInObject c
  | _ :: _ => failAhead .keyNotString c

def skipLoop (enclosing : Option Bool) (outer : List Bool) (c : Cursor) : Nat → Step Unit
  | 0 => failHere .eofInValue c
  | fuel + 1 =>
    let c := c.skipBlanks
    let opened : Except (ReadError × Cursor) (Option Bool × List Bool × Cursor) :=
      match skipScalar c with
      | some step =>
        match step with
        | .error e => .error e
        | .ok ((), d) => .ok (none, outer, d)
      | none =>
        match c.rest with
        | 91 :: _ => .ok (some false, enclosing.toList ++ outer, c.advance)
        | 123 :: _ => .ok (some true, enclosing.toList ++ outer, c.advance)
        | [] => failAhead .eofInValue c
        | _ => failAhead .expectedValue c
    match opened with
    | .error e => .error e
    | .ok (opened, outer, d) =>
      let state : Option (Bool × Bool × List Bool) :=
        match opened, enclosing with
        | some f, _ => some (f, false, outer)
        | none, some f => some (f, true, outer)
        | none, none => none
      match state with
      | none => .ok ((), d)
      | some (frame, acceptComma, outer) =>
        match closeFrames frame acceptComma outer d (d.rest.length + 1) with
        | .error e => .error e
        | .ok (none, e) => .ok ((), e)
        | .ok (some (frame, outer), e) =>
          if frame then
            match skipKey e with
            | .error err => .error err
            | .ok ((), e) => skipLoop (some frame) outer e fuel
          else skipLoop (some frame) outer e fuel

def skipValue (c : Cursor) : Step Unit := skipLoop none [] c (c.rest.length + 1)

end LineCoverage.Json
