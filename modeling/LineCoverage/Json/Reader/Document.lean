import LineCoverage.Json.Reader.Number
import LineCoverage.Json.Reader.Skip
import LineCoverage.Json.Shape
/-! Reading a JSON text against a shape.

The reader follows the shape as it goes, so the first problem in the text wins, whether of
syntax or of data. A data problem that belongs to an array or object (a missing or repeated
field, too few items) is placed where the reader stands after trying to close that array or
object. At most 127 arrays and objects may be open at once. After the value only blanks may
follow.
-/

set_option autoImplicit false

namespace LineCoverage.Json

/-- How many arrays and objects may be open at once, plus one. -/
def depthLimit : Nat := 128

def endList (c : Cursor) : Step Unit :=
  let c := c.skipBlanks
  match c.rest with
  | 93 :: _ => .ok ((), c.advance)
  | 44 :: _ =>
    let d := c.advance.skipBlanks
    match d.rest with
    | 93 :: _ => failAhead .trailingComma d
    | _ => failAhead .trailingCharacters d
  | _ :: _ => failAhead .trailingCharacters c
  | [] => failAhead .eofInList c

def endObject (c : Cursor) : Step Unit :=
  let c := c.skipBlanks
  match c.rest with
  | 125 :: _ => .ok ((), c.advance)
  | 44 :: _ => failAhead .trailingComma c
  | _ :: _ => failAhead .trailingCharacters c
  | [] => failAhead .eofInObject c

/-- Closes a container after its contents. The closing is tried also when the contents
failed; a problem without a place then gets the place where that attempt left the reader. -/
def closeWith {α : Type} (contents : Step α) (close : Cursor → Step Unit) : Step α :=
  match contents with
  | .ok (v, c) =>
    match close c with
    | .ok ((), d) => .ok (v, d)
    | .error e => .error e
  | .error (e, c) =>
    let d := match close c with
      | .ok ((), d) => d
      | .error (_, d) => d
    .error (e.placeAt d.here, d)

def enter (depth : Nat) (c : Cursor) : Failing Nat :=
  if depth ≤ 1 then failAhead .tooDeep c else .ok (depth - 1)

def wrongForm {α : Type} (c : Cursor) (expecting : String) : Step α :=
  let named (f : Found) (d : Cursor) : Step α := .error (⟨.wrongType f expecting, some d.here⟩, d)
  match c.rest with
  | 110 :: _ =>
    match expectWord c.advance [117, 108, 108] with
    | .error e => .error e
    | .ok ((), d) => named .null d
  | 116 :: _ =>
    match expectWord c.advance [114, 117, 101] with
    | .error e => .error e
    | .ok ((), d) => named (.bool true) d
  | 102 :: _ =>
    match expectWord c.advance [97, 108, 115, 101] with
    | .error e => .error e
    | .ok ((), d) => named (.bool false) d
  | 45 :: _ =>
    match readNumber false c.advance with
    | .error e => .error e
    | .ok (n, d) => named n.found d
  | 34 :: _ =>
    match readString c.advance with
    | .error e => .error e
    | .ok (s, d) => named (.string s) d
  | 91 :: _ => named .seq c
  | 123 :: _ => named .map c
  | b :: _ =>
    if isDigitByte b then
      match readNumber true c with
      | .error e => .error e
      | .ok (n, d) => named n.found d
    else failAhead .expectedValue c
  | [] => failAhead .expectedValue c

/-- A number where a count is expected: a natural number below 2^64 is taken, a negative
integer or a double is refused after it is read. -/
def countOf (n : Number) (d : Cursor) : Step Value :=
  match n with
  | .nat k => .ok (.number (.nat k), d)
  | .int i => .error (⟨.wrongValue (.signed i) "u64", some d.here⟩, d)
  | .float x => .error (⟨.wrongType (.float x) "u64", some d.here⟩, d)

def nextItem (first : Bool) (b : UInt8) (c : Cursor) : Failing Cursor :=
  if b = 44 ∧ !first then
    let d := c.advance.skipBlanks
    match d.rest with
    | 93 :: _ => failAhead .trailingComma d
    | [] => failAhead .eofInValue d
    | _ => .ok d
  else if first then .ok c
  else failAhead .expectedListCommaOrEnd c

def nextKey (first : Bool) (b : UInt8) (c : Cursor) : Failing Cursor :=
  if b = 44 ∧ !first then
    let d := c.advance.skipBlanks
    match d.rest with
    | 34 :: _ => .ok d
    | 125 :: _ => failAhead .trailingComma d
    | [] => failAhead .eofInValue d
    | _ => failAhead .keyNotString d
  else if first then
    if b = 34 then .ok c else failAhead .keyNotString c
  else failAhead .expectedObjectCommaOrEnd c

def colon (c : Cursor) : Failing Cursor :=
  let c := c.skipBlanks
  match c.rest with
  | 58 :: _ => .ok c.advance
  | _ :: _ => failAhead .expectedColon c
  | [] => failAhead .eofInObject c

mutual
/-- Reads a value of shape `s`. `depth` is how many more arrays and objects may open; the
fuel bounds the calls and is never the limit for a text shorter than it. -/
def readShape (fuel depth : Nat) (s : Shape) (c : Cursor) : Step Value :=
  match fuel with
  | 0 => failHere .eofInValue c
  | fuel + 1 =>
    let c := c.skipBlanks
    match s with
    | .skip =>
      match skipValue c with
      | .error e => .error e
      | .ok ((), d) => .ok (.null, d)
    | .optional inner =>
      match c.rest with
      | 110 :: _ =>
        match expectWord c.advance [117, 108, 108] with
        | .error e => .error e
        | .ok ((), d) => .ok (.null, d)
      | _ => readShape fuel depth inner c
    | .any =>
      match c.rest with
      | 110 :: _ =>
        match expectWord c.advance [117, 108, 108] with
        | .error e => .error e
        | .ok ((), d) => .ok (.null, d)
      | 116 :: _ =>
        match expectWord c.advance [114, 117, 101] with
        | .error e => .error e
        | .ok ((), d) => .ok (.bool true, d)
      | 102 :: _ =>
        match expectWord c.advance [97, 108, 115, 101] with
        | .error e => .error e
        | .ok ((), d) => .ok (.bool false, d)
      | 45 :: _ =>
        match readNumber false c.advance with
        | .error e => .error e
        | .ok (n, d) => .ok (.number n, d)
      | 34 :: _ =>
        match readString c.advance with
        | .error e => .error e
        | .ok (s, d) => .ok (.string s, d)
      | 91 :: _ =>
        match enter depth c with
        | .error e => .error e
        | .ok inner =>
          match closeWith (readItems fuel inner .any [] true c.advance) endList with
          | .error e => .error e
          | .ok (items, d) => .ok (.array items, d)
      | 123 :: _ =>
        match enter depth c with
        | .error e => .error e
        | .ok inner =>
          match closeWith (readEntries fuel inner [] true c.advance) endObject with
          | .error e => .error e
          | .ok (fields, d) => .ok (.object fields, d)
      | b :: _ =>
        if isDigitByte b then
          match readNumber true c with
          | .error e => .error e
          | .ok (n, d) => .ok (.number n, d)
        else failAhead .expectedValue c
      | [] => failAhead .eofInValue c
    | .text =>
      match c.rest with
      | 34 :: _ =>
        match readString c.advance with
        | .error e => .error e
        | .ok (s, d) => .ok (.string s, d)
      | [] => failAhead .eofInValue c
      | _ => wrongForm c "a string"
    | .count =>
      match c.rest with
      | 45 :: _ =>
        match readNumber false c.advance with
        | .error e => .error e
        | .ok (n, d) => countOf n d
      | b :: _ =>
        if isDigitByte b then
          match readNumber true c with
          | .error e => .error e
          | .ok (n, d) => countOf n d
        else wrongForm c "u64"
      | [] => failAhead .eofInValue c
    | .list item =>
      match c.rest with
      | 91 :: _ =>
        match enter depth c with
        | .error e => .error e
        | .ok inner =>
          match closeWith (readItems fuel inner item [] true c.advance) endList with
          | .error e => .error e
          | .ok (items, d) => .ok (.array items, d)
      | [] => failAhead .eofInValue c
      | _ => wrongForm c "a sequence"
    | .record name fields =>
      match c.rest with
      | 91 :: _ =>
        match enter depth c with
        | .error e => .error e
        | .ok inner =>
          match closeWith (readRecordSeq fuel inner name fields.length fields 0 [] true c.advance)
              endList with
          | .error e => .error e
          | .ok (got, d) => .ok (.object got, d)
      | 123 :: _ =>
        match enter depth c with
        | .error e => .error e
        | .ok inner =>
          match closeWith (readRecordMap fuel inner fields [] true c.advance) endObject with
          | .error e => .error e
          | .ok (got, d) => .ok (.object (fillFields fields got), d)
      | [] => failAhead .eofInValue c
      | _ => wrongForm c ("struct " ++ name)

def readItems (fuel depth : Nat) (item : Shape) (acc : List Value) (first : Bool) (c : Cursor) :
    Step (List Value) :=
  match fuel with
  | 0 => failHere .eofInList c
  | fuel + 1 =>
    let c := c.skipBlanks
    match c.rest with
    | [] => failAhead .eofInList c
    | 93 :: _ => .ok (acc.reverse, c)
    | b :: _ =>
      match nextItem first b c with
      | .error e => .error e
      | .ok d =>
        match readShape fuel depth item d with
        | .error e => .error e
        | .ok (v, e) => readItems fuel depth item (v :: acc) false e

/-- The entries of an object of any values after its brace, up to (not with) the closing
brace. A later entry under a key replaces an earlier one. -/
def readEntries (fuel depth : Nat) (acc : List (String × Value)) (first : Bool) (c : Cursor) :
    Step (List (String × Value)) :=
  match fuel with
  | 0 => failHere .eofInObject c
  | fuel + 1 =>
    let c := c.skipBlanks
    match c.rest with
    | [] => failAhead .eofInObject c
    | 125 :: _ => .ok (acc, c)
    | b :: _ =>
      match nextKey first b c with
      | .error e => .error e
      | .ok d =>
        match readString d.advance with
        | .error e => .error e
        | .ok (k, e) =>
          match colon e with
          | .error err => .error err
          | .ok e =>
            match readShape fuel depth .any e with
            | .error err => .error err
            | .ok (v, e) => readEntries fuel depth (insertField k v acc) false e

/-- The fields of a record written as an object, after its brace, up to (not with) the
closing brace. Unknown keys are skipped; a repeated field is refused right after its key;
a missing required field is refused at the end. -/
def readRecordMap (fuel depth : Nat) (fields : List (String × Bool × Shape))
    (got : List (String × Value)) (first : Bool) (c : Cursor) : Step (List (String × Value)) :=
  match fuel with
  | 0 => failHere .eofInObject c
  | fuel + 1 =>
    let c := c.skipBlanks
    match c.rest with
    | [] => failAhead .eofInObject c
    | 125 :: _ =>
      match firstMissing fields got with
      | some name => failData (.missingField name) c
      | none => .ok (got, c)
    | b :: _ =>
      match nextKey first b c with
      | .error e => .error e
      | .ok d =>
        match readString d.advance with
        | .error e => .error e
        | .ok (k, e) =>
          match fields.find? (·.1 == k) with
          | some (_, _, s) =>
            if (got.find? (·.1 == k)).isSome then failData (.duplicateField k) e
            else
              match colon e with
              | .error err => .error err
              | .ok e =>
                match readShape fuel depth s e with
                | .error err => .error err
                | .ok (v, e) => readRecordMap fuel depth fields ((k, v) :: got) false e
          | none =>
            match colon e with
            | .error err => .error err
            | .ok e =>
              match skipValue e with
              | .error err => .error err
              | .ok ((), e) => readRecordMap fuel depth fields got false e

def readRecordSeq (fuel depth : Nat) (name : String) (total : Nat)
    (fields : List (String × Bool × Shape)) (index : Nat) (got : List (String × Value))
    (first : Bool) (c : Cursor) : Step (List (String × Value)) :=
  match fuel with
  | 0 => failHere .eofInList c
  | fuel + 1 =>
    match fields with
    | [] => .ok (got.reverse, c)
    | (fname, required, s) :: rest =>
      let c := c.skipBlanks
      match c.rest with
      | [] => failAhead .eofInList c
      | 93 :: _ =>
        if required then failData (.wrongLength index (recordLength name total)) c
        else readRecordSeq fuel depth name total rest (index + 1) ((fname, s.default) :: got) first c
      | b :: _ =>
        match nextItem first b c with
        | .error e => .error e
        | .ok d =>
          match readShape fuel depth s d with
          | .error e => .error e
          | .ok (v, e) =>
            readRecordSeq fuel depth name total rest (index + 1) ((fname, v) :: got) false e
end

def readDocument (s : Shape) (bs : List UInt8) : Except ReadError Value :=
  match readShape (8 * bs.length + 64) depthLimit s (Cursor.start bs) with
  | .error (e, d) => .error (e.placeAt d.here)
  | .ok (v, d) =>
    let d := d.skipBlanks
    match d.rest with
    | [] => .ok v
    | _ :: _ => .error ⟨.malformed .trailingCharacters, some d.ahead⟩

end LineCoverage.Json
