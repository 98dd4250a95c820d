import LinkWatch.Text.Numeral

/-! # Writing JSON -/

namespace LinkWatch.Json

open Text

/-! ## Values to write -/

inductive Value where
  | null
  | bool (b : Bool)
  | natural (n : Nat)
  | string (s : String)
  | list (items : List Value)
  | object (members : List (String × Value))
  deriving Repr

def Value.optional : Option String → Value
  | none => .null
  | some s => .string s

/-! ## Strings -/

def codeEscape (c : Char) : List Char :=
  ['\\', 'u', '0', '0', Nat.digitChar (c.toNat / 16), Nat.digitChar (c.toNat % 16)]

def escaped (c : Char) : List Char :=
  if c = '"' then ['\\', '"']
  else if c = '\\' then ['\\', '\\']
  else if c = '\x08' then ['\\', 'b']
  else if c = '\t' then ['\\', 't']
  else if c = '\n' then ['\\', 'n']
  else if c = '\x0c' then ['\\', 'f']
  else if c = '\r' then ['\\', 'r']
  else if c < ' ' then codeEscape c
  else [c]

def writeString (s : String) : List Char := '"' :: s.toList.flatMap escaped ++ ['"']

/-! ## Layouts -/

/-- What stands between the tokens, at a depth of nesting. -/
structure Layout where
  lineBreak : Nat → List Char
  afterColon : List Char

/-- Everything on one line, without blanks. -/
def compact : Layout := ⟨fun _ => [], []⟩

/-- One item a line, two blanks more at each level. -/
def indented : Layout := ⟨fun depth => '\n' :: List.replicate (2 * depth) ' ', [' ']⟩

mutual

/-- Writes a value that stands at the given depth. -/
def Value.write (l : Layout) (depth : Nat) : Value → List Char
  | .null => ['n', 'u', 'l', 'l']
  | .bool true => ['t', 'r', 'u', 'e']
  | .bool false => ['f', 'a', 'l', 's', 'e']
  | .natural n => Nat.toDigits 10 n
  | .string s => writeString s
  | .list [] => ['[', ']']
  | .list (v :: vs) =>
    '[' :: l.lineBreak (depth + 1) ++ v.write l (depth + 1) ++ Value.writeItems l (depth + 1) vs ++
      l.lineBreak depth ++ [']']
  | .object [] => ['\x7b', '\x7d']
  | .object ((k, v) :: ms) =>
    '\x7b' :: l.lineBreak (depth + 1) ++ writeString k ++ ':' :: l.afterColon ++
      v.write l (depth + 1) ++ Value.writeMembers l (depth + 1) ms ++ l.lineBreak depth ++ ['\x7d']

def Value.writeItems (l : Layout) (depth : Nat) : List Value → List Char
  | [] => []
  | v :: vs => ',' :: l.lineBreak depth ++ v.write l depth ++ Value.writeItems l depth vs

def Value.writeMembers (l : Layout) (depth : Nat) : List (String × Value) → List Char
  | [] => []
  | (k, v) :: ms =>
    ',' :: l.lineBreak depth ++ writeString k ++ ':' :: l.afterColon ++ v.write l depth ++
      Value.writeMembers l depth ms

end

def Value.render (l : Layout) (v : Value) : String := String.ofList (v.write l 0)

end LinkWatch.Json
