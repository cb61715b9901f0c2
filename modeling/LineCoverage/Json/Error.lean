import LineCoverage.Json.Value
import LineCoverage.Text.Printable
/-! Why reading JSON failed.

A read fails on the text (a syntax problem, with the position where it was seen) or on the
data (a value of the wrong form for what was expected, a missing or repeated field). A data
problem found while reading text gets the position of the reader at the moment the value
around it was closed; one found in an already built value has no position.
-/

set_option autoImplicit false

namespace LineCoverage.Json

structure Position where
  line : Nat
  column : Nat
  deriving Repr, DecidableEq

inductive Flaw where
  | eofInList
  | eofInObject
  | eofInString
  | eofInValue
  | expectedColon
  | expectedListCommaOrEnd
  | expectedObjectCommaOrEnd
  | expectedIdent
  | expectedValue
  | invalidEscape
  | invalidNumber
  | numberOutOfRange
  | invalidCodePoint
  | controlCharacter
  | keyNotString
  | loneSurrogate
  | trailingComma
  | trailingCharacters
  | hexEscapeCut
  | tooDeep
  deriving Repr, DecidableEq

def Flaw.message : Flaw → String
  | .eofInList => "EOF while parsing a list"
  | .eofInObject => "EOF while parsing an object"
  | .eofInString => "EOF while parsing a string"
  | .eofInValue => "EOF while parsing a value"
  | .expectedColon => "expected `:`"
  | .expectedListCommaOrEnd => "expected `,` or `]`"
  | .expectedObjectCommaOrEnd => "expected `,` or `\x7d`"
  | .expectedIdent => "expected ident"
  | .expectedValue => "expected value"
  | .invalidEscape => "invalid escape"
  | .invalidNumber => "invalid number"
  | .numberOutOfRange => "number out of range"
  | .invalidCodePoint => "invalid unicode code point"
  | .controlCharacter => "control character (\\u0000-\\u001F) found while parsing a string"
  | .keyNotString => "key must be a string"
  | .loneSurrogate => "lone leading surrogate in hex escape"
  | .trailingComma => "trailing comma"
  | .trailingCharacters => "trailing characters"
  | .hexEscapeCut => "unexpected end of hex escape"
  | .tooDeep => "recursion limit exceeded"

inductive Found where
  | bool (b : Bool)
  | unsigned (n : Nat)
  | signed (i : Int)
  | float (x : Float)
  | string (s : String)
  | null
  | seq
  | map

/-- A character as a quoted debugging text writes it: the usual backslash escapes, a
grapheme extender or an unprintable character as its code point in hex between braces, and
every other character as it is. -/
def debugChar (c : Char) : List Char :=
  match c with
  | '\x00' => ['\\', '0']
  | '\t' => ['\\', 't']
  | '\r' => ['\\', 'r']
  | '\n' => ['\\', 'n']
  | '\\' => ['\\', '\\']
  | '"' => ['\\', '"']
  | c =>
    if Text.isGraphemeExtend c || !Text.isPrintable c then
      ['\\', 'u', '\x7b'] ++ (Nat.toDigits 16 c.toNat) ++ ['\x7d']
    else [c]

def debugQuote (s : String) : String :=
  String.ofList ('"' :: (s.toList.flatMap debugChar ++ ['"']))

def Found.describe : Found → String
  | .bool b => "boolean `" ++ (if b then "true" else "false") ++ "`"
  | .unsigned n => "integer `" ++ toString n ++ "`"
  | .signed i => "integer `" ++ toString i ++ "`"
  | .float x => "floating point `" ++ floatText x ++ "`"
  | .string s => "string " ++ debugQuote s
  | .null => "null"
  | .seq => "sequence"
  | .map => "map"

inductive Problem where
  | malformed (s : Flaw)
  | wrongType (found : Found) (expected : String)
  | wrongValue (found : Found) (expected : String)
  | wrongLength (n : Nat) (expected : String)
  | missingField (name : String)
  | duplicateField (name : String)

def Problem.message : Problem → String
  | .malformed s => s.message
  | .wrongType f e => "invalid type: " ++ f.describe ++ ", expected " ++ e
  | .wrongValue f e => "invalid value: " ++ f.describe ++ ", expected " ++ e
  | .wrongLength n e => "invalid length " ++ toString n ++ ", expected " ++ e
  | .missingField n => "missing field `" ++ n ++ "`"
  | .duplicateField n => "duplicate field `" ++ n ++ "`"

structure ReadError where
  problem : Problem
  position : Option Position := none

def ReadError.message (e : ReadError) : String :=
  match e.position with
  | some p =>
    e.problem.message ++ " at line " ++ toString p.line ++ " column " ++ toString p.column
  | none => e.problem.message

def ReadError.placeAt (e : ReadError) (p : Position) : ReadError :=
  match e.position with
  | some _ => e
  | none => { e with position := some p }

end LineCoverage.Json
