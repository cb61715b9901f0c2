import LineCoverage.Decimal.Shortest
/-! JSON values and their compact text.

Numbers keep the form they were read in: a natural number below 2^64, a negative integer
not below -2^63, or a double. Objects keep one entry per key, ordered by key. The compact
text has no blanks; strings escape the quote, the backslash and the control characters,
and write everything else as it is.
-/

set_option autoImplicit false

namespace LineCoverage.Json

inductive Number where
  /-- A natural number below 2^64. -/
  | nat (n : Nat)
  | int (i : Int)
  | float (x : Float)

inductive Value where
  | null
  | bool (b : Bool)
  | number (n : Number)
  | string (s : String)
  | array (items : List Value)
  /-- Entries ordered by key, one per key. -/
  | object (fields : List (String × Value))

instance : Inhabited Value := ⟨.null⟩

def insertField (k : String) (v : Value) : List (String × Value) → List (String × Value)
  | [] => [(k, v)]
  | (k2, v2) :: rest =>
    if k < k2 then (k, v) :: (k2, v2) :: rest
    else if k = k2 then (k, v) :: rest
    else (k2, v2) :: insertField k v rest

def Value.field? (v : Value) (k : String) : Option Value :=
  match v with
  | .object fs => (fs.find? (·.1 == k)).map (·.2)
  | _ => none

/-- Doubles are written with the fewest digits that read back: plainly while the decimal
point stands at most sixteen places after the first digit and at most four zeros follow
the point, and otherwise as `d.ddd` with an exponent that carries its sign. -/
def floatLayout : Decimal.Layout := ⟨-4, 16, true, .toEven⟩

def floatText (x : Float) : String := Decimal.floatText floatLayout x

def hexDigit (n : Nat) : Char :=
  if n < 10 then Char.ofNat (48 + n) else Char.ofNat (87 + n)

def escapeChar (c : Char) : List Char :=
  match c with
  | '"' => ['\\', '"']
  | '\\' => ['\\', '\\']
  | '\n' => ['\\', 'n']
  | '\r' => ['\\', 'r']
  | '\t' => ['\\', 't']
  | '\x08' => ['\\', 'b']
  | '\x0c' => ['\\', 'f']
  | c =>
    if c.toNat < 0x20 then
      ['\\', 'u', '0', '0', hexDigit (c.toNat / 16), hexDigit (c.toNat % 16)]
    else [c]

def quote (s : String) : String :=
  String.ofList ('"' :: (s.toList.flatMap escapeChar ++ ['"']))

def Number.render : Number → String
  | .nat n => toString n
  | .int i => toString i
  | .float x =>
    let b := x.toBits
    if Decimal.nonFiniteBits b then "null" else floatText x

mutual
def Value.render : Value → String
  | .null => "null"
  | .bool true => "true"
  | .bool false => "false"
  | .number n => n.render
  | .string s => quote s
  | .array items => "[" ++ renderItems items ++ "]"
  | .object fields => "\x7b" ++ renderFields fields ++ "\x7d"

def renderItems : List Value → String
  | [] => ""
  | [v] => v.render
  | v :: rest => v.render ++ "," ++ renderItems rest

def renderFields : List (String × Value) → String
  | [] => ""
  | [(k, v)] => quote k ++ ":" ++ v.render
  | (k, v) :: rest => quote k ++ ":" ++ v.render ++ "," ++ renderFields rest
end

end LineCoverage.Json
