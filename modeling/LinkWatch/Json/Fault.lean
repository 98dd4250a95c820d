import LinkWatch.Decimal.Shortest
import LinkWatch.Text.Quoted

/-! # What can be wrong with a JSON text, and where -/

namespace LinkWatch.Json

open Text

/-! ## Causes -/

/-- A value by its outer form, as messages name it. Floats are held by their bits. -/
inductive Shape where
  | null
  | bool (b : Bool)
  | natural (n : Nat)
  | negative (n : Int)
  | float (bits : UInt64)
  | string (s : String)
  | sequence
  | map
  deriving DecidableEq, Repr

inductive Cause where
  | endInValue
  | endInList
  | endInObject
  | endInString
  | expectedValue
  | expectedWord
  | expectedColon
  | expectedListEnd
  | expectedObjectEnd
  | keyNotString
  | trailingComma
  | trailingText
  | invalidNumber
  | numberTooLarge
  | invalidEscape
  | unpairedEscape
  | loneSurrogate
  | controlCharacter
  | tooDeep
  | wrongType (found : Shape) (expected : String)
  | wrongValue (found : Shape) (expected : String)
  | wrongLength (length : Nat) (expected : String)
  | missingField (name : String)
  | duplicateField (name : String)
  | unknownVariant (found : String) (known : List String)
  deriving DecidableEq, Repr

/-! ## Faults

A fault is noticed at some point of the text. Where it concerns a whole value, its place is only
settled when that value has been closed. -/

/-- A cause, with the number of bytes that were left when its place was settled, or with the text
that is left while it is not. -/
inductive Fault where
  | settled (left : Nat) (cause : Cause)
  | pending (rest : List Char) (cause : Cause)
  deriving DecidableEq, Repr

def byteCount (cs : List Char) : Nat := cs.foldl (fun n c => n + c.utf8Size) 0

namespace Fault

/-- The fault lies before the rest of the text. -/
def here (rest : List Char) (cause : Cause) : Fault := .settled (byteCount rest) cause

/-- The fault lies just after the first byte of the rest, if there is one. -/
def ahead (rest : List Char) (cause : Cause) : Fault := .settled (byteCount rest - 1) cause

/-- Settles the place, once `close` has passed over the end of the enclosing value. -/
def settle (close : List Char → List Char) : Fault → Fault
  | .pending rest cause => here (close rest) cause
  | f => f

def cause : Fault → Cause
  | .settled _ cause => cause
  | .pending _ cause => cause

def left : Fault → Nat
  | .settled left _ => left
  | .pending rest _ => byteCount rest

end Fault

/-! ## Messages -/

/-- Floats of moderate size are written without an exponent. -/
def floatFormat : Decimal.Format := ⟨-5, 15⟩

def Shape.describe : Shape → String
  | .null => "null"
  | .bool b => "boolean `" ++ (if b then "true" else "false") ++ "`"
  | .natural n => "integer `" ++ decimal n ++ "`"
  | .negative n => "integer `-" ++ decimal n.natAbs ++ "`"
  | .float bits => "floating point `" ++ floatFormat.text bits ++ "`"
  | .string s => "string " ++ quoted s
  | .sequence => "sequence"
  | .map => "map"

def alternatives (names : List String) : String :=
  String.intercalate " or " (names.map fun n => "`" ++ n ++ "`")

def Cause.message : Cause → String
  | .endInValue => "EOF while parsing a value"
  | .endInList => "EOF while parsing a list"
  | .endInObject => "EOF while parsing an object"
  | .endInString => "EOF while parsing a string"
  | .expectedValue => "expected value"
  | .expectedWord => "expected ident"
  | .expectedColon => "expected `:`"
  | .expectedListEnd => "expected `,` or `]`"
  | .expectedObjectEnd => "expected `,` or `\x7d`"
  | .keyNotString => "key must be a string"
  | .trailingComma => "trailing comma"
  | .trailingText => "trailing characters"
  | .invalidNumber => "invalid number"
  | .numberTooLarge => "number out of range"
  | .invalidEscape => "invalid escape"
  | .unpairedEscape => "unexpected end of hex escape"
  | .loneSurrogate => "lone leading surrogate in hex escape"
  | .controlCharacter => "control character (\\u0000-\\u001F) found while parsing a string"
  | .tooDeep => "recursion limit exceeded"
  | .wrongType found expected => "invalid type: " ++ found.describe ++ ", expected " ++ expected
  | .wrongValue found expected => "invalid value: " ++ found.describe ++ ", expected " ++ expected
  | .wrongLength length expected =>
    "invalid length " ++ decimal length ++ ", expected " ++ expected
  | .missingField name => "missing field `" ++ name ++ "`"
  | .duplicateField name => "duplicate field `" ++ name ++ "`"
  | .unknownVariant found known =>
    "unknown variant `" ++ found ++ "`, expected " ++ alternatives known

/-- A line, counted from one, and the bytes before the place on that line. -/
structure Place where
  line : Nat := 1
  column : Nat := 0
  deriving DecidableEq, Repr

/-- The place after the first `n` bytes of the text. -/
def Place.after (p : Place) (n : Nat) : List Char → Place
  | [] => p
  | c :: cs =>
    if n = 0 then p
    else if c = '\n' then Place.after ⟨p.line + 1, 0⟩ (n - 1) cs
    else Place.after ⟨p.line, p.column + min n c.utf8Size⟩ (n - c.utf8Size) cs

def Fault.message (text : List Char) (f : Fault) : String :=
  let place := Place.after {} (byteCount text - f.left) text
  f.cause.message ++ " at line " ++ decimal place.line ++ " column " ++ decimal place.column

end LinkWatch.Json
