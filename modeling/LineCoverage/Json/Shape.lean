import LineCoverage.Json.Error
/-! The forms a JSON reader expects, and checking a built value against one.

A shape says what may stand at a place: any value, a string, a natural number below 2^64,
`null` or an inner shape, an array of one shape, or a record. A record is written as an
object keyed by field name, unknown keys ignored, or as an array holding the fields in
order. A field is required or falls back to the default of its shape when it is absent.

Checking gives back the value in normal form: every record as an object holding all its
fields, in declaration order.
-/

set_option autoImplicit false

namespace LineCoverage.Json

inductive Shape where
  | any
  | skip
  | text
  /-- A natural number below 2^64. -/
  | count
  | optional (inner : Shape)
  | list (item : Shape)
  /-- A record: its name, and its fields with a flag saying whether each is required. -/
  | record (name : String) (fields : List (String × Bool × Shape))

def Shape.expecting : Shape → String
  | .any => "any valid JSON value"
  | .skip => "anything at all"
  | .text => "a string"
  | .count => "u64"
  | .optional _ => "option"
  | .list _ => "a sequence"
  | .record name _ => "struct " ++ name

mutual
def Shape.default : Shape → Value
  | .any => .null
  | .skip => .null
  | .text => .string ""
  | .count => .number (.nat 0)
  | .optional _ => .null
  | .list _ => .array []
  | .record _ fields => .object (defaultFields fields)

def defaultFields : List (String × Bool × Shape) → List (String × Value)
  | [] => []
  | (name, _, s) :: rest => (name, s.default) :: defaultFields rest
end

def Value.found : Value → Found
  | .null => .null
  | .bool b => .bool b
  | .number (.nat n) => .unsigned n
  | .number (.int i) => .signed i
  | .number (.float x) => .float x
  | .string s => .string s
  | .array _ => .seq
  | .object _ => .map

def recordLength (name : String) (n : Nat) : String :=
  "struct " ++ name ++ " with " ++ toString n ++ " elements"

def firstMissing (fields : List (String × Bool × Shape)) (got : List (String × Value)) :
    Option String :=
  (fields.find? fun (name, required, _) => required && (got.find? (·.1 == name)).isNone).map (·.1)

def fillFields (fields : List (String × Bool × Shape)) (got : List (String × Value)) :
    List (String × Value) :=
  fields.map fun (name, _, s) => (name, ((got.find? (·.1 == name)).map (·.2)).getD s.default)

def restDefaults (name : String) (total : Nat) :
    List (String × Bool × Shape) → Nat → List (String × Value) →
      Except Problem (List (String × Value))
  | [], _, got => .ok got
  | (fname, required, s) :: rest, index, got =>
    if required then .error (.wrongLength index (recordLength name total))
    else restDefaults name total rest (index + 1) ((fname, s.default) :: got)

mutual
def Shape.check (s : Shape) (v : Value) : Except Problem Value :=
  match s, v with
  | .any, v => .ok v
  | .skip, _ => .ok .null
  | .text, .string t => .ok (.string t)
  | .text, v => .error (.wrongType v.found "a string")
  | .count, .number (.nat n) => .ok (.number (.nat n))
  | .count, .number (.int i) => .error (.wrongValue (.signed i) "u64")
  | .count, v => .error (.wrongType v.found "u64")
  | .optional _, .null => .ok .null
  | .optional s, v => s.check v
  | .list s, .array items => (checkItems s items).map .array
  | .list _, v => .error (.wrongType v.found "a sequence")
  | .record name fields, .array items =>
    match checkPositional name fields.length fields 0 [] items with
    | .error e => .error e
    | .ok (got, left) =>
      if left = 0 then .ok (.object got)
      else .error (.wrongLength items.length "fewer elements in array")
  | .record _ fields, .object entries =>
    match checkEntries fields [] entries with
    | .error e => .error e
    | .ok got =>
      match firstMissing fields got with
      | some name => .error (.missingField name)
      | none => .ok (.object (fillFields fields got))
  | .record name _, v => .error (.wrongType v.found ("struct " ++ name))
termination_by (sizeOf v, sizeOf s)

def checkItems (s : Shape) (items : List Value) : Except Problem (List Value) :=
  match items with
  | [] => .ok []
  | v :: rest =>
    match s.check v, checkItems s rest with
    | .error e, _ => .error e
    | .ok _, .error e => .error e
    | .ok w, .ok ws => .ok (w :: ws)
termination_by (sizeOf items, 0)

def checkPositional (name : String) (total : Nat) (fields : List (String × Bool × Shape))
    (index : Nat) (got : List (String × Value)) (items : List Value) :
    Except Problem (List (String × Value) × Nat) :=
  match fields, items with
  | [], items => .ok (got.reverse, items.length)
  | fields, [] => (restDefaults name total fields index got).map fun g => (g.reverse, 0)
  | (fname, _, s) :: rest, item :: more =>
    match s.check item with
    | .error e => .error e
    | .ok w => checkPositional name total rest (index + 1) ((fname, w) :: got) more
termination_by (sizeOf items, 0)

def checkEntries (fields : List (String × Bool × Shape)) (got : List (String × Value))
    (entries : List (String × Value)) : Except Problem (List (String × Value)) :=
  match entries with
  | [] => .ok got
  | (k, v) :: rest =>
    match fields.find? (·.1 == k) with
    | none => checkEntries fields got rest
    | some (_, _, s) =>
      match s.check v with
      | .error e => .error e
      | .ok w => checkEntries fields ((k, w) :: got) rest
termination_by (sizeOf entries, 0)
end

end LineCoverage.Json
