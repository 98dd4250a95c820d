import LinkWatch.Json.Lexeme

/-! # Passing over a JSON value that nobody asked for

The value has to be well formed, but its strings and numbers are not evaluated: escapes may stand
for half of a pair, numbers may be out of range, and there is no limit on nesting. -/

namespace LinkWatch.Json

open Text

/-! ## Strings -/

def skipString : List Char → Except Fault (List Char)
  | [] => .error (.here [] .endInString)
  | c :: cs =>
    if c = '"' then .ok cs
    else if c = '\\' then
      match cs with
      | [] => .error (.here [] .endInString)
      | e :: es =>
        if e = 'u' then
          match es with
          | h₁ :: h₂ :: h₃ :: h₄ :: hs =>
            if (unit? h₁ h₂ h₃ h₄).isSome then skipString hs
            else .error (unitFault (h₁ :: h₂ :: h₃ :: h₄ :: hs))
          | short => .error (unitFault short)
        else if (simpleEscape? e).isSome then skipString es
        else .error (.ahead (e :: es) .invalidEscape)
    else if c < ' ' then .error (.here (c :: cs) .controlCharacter)
    else skipString cs

/-! ## Numbers -/

/-- Passes over an exponent whose letter has been passed. -/
def skipExponent (cs : List Char) : Except Fault (List Char) :=
  let cs := match cs with
    | '+' :: r => r
    | '-' :: r => r
    | r => r
  if startsWithDigit cs then .ok (dropDigits cs) else .error (.ahead cs .invalidNumber)

/-- Passes over what may follow the digits before the point. -/
def skipTail (cs : List Char) : Except Fault (List Char) :=
  match cs with
  | '.' :: r =>
    if startsWithDigit r then
      match dropDigits r with
      | 'e' :: s | 'E' :: s => skipExponent s
      | s => .ok s
    else .error (.ahead r .invalidNumber)
  | 'e' :: r | 'E' :: r => skipExponent r
  | r => .ok r

/-- Passes over a number whose sign has been passed. -/
def skipNumber (cs : List Char) : Except Fault (List Char) :=
  match cs with
  | [] => .error (.ahead [] .invalidNumber)
  | c :: r =>
    if c = '0' then
      if startsWithDigit r then .error (.ahead r .invalidNumber) else skipTail r
    else if isAsciiDigit c then skipTail (dropDigits r)
    else .error (.ahead cs .invalidNumber)

/-! ## Values

The lists and objects that are still open are kept on a stack. -/

inductive Frame where
  | list
  | object
  deriving DecidableEq, Repr

def Frame.closer : Frame → Char
  | .list => ']'
  | .object => '\x7d'

/-- The text ended inside the frame. -/
def Frame.cutShort : Frame → Cause
  | .list => .endInList
  | .object => .endInObject

/-- Neither a comma nor the end of the frame followed. -/
def Frame.unfinished : Frame → Cause
  | .list => .expectedListEnd
  | .object => .expectedObjectEnd

/-- Passes over a key and its colon, in an object, and over nothing in a list. -/
def Frame.skipKey (f : Frame) (cs : List Char) : Except Fault (List Char) :=
  match f with
  | .list => .ok cs
  | .object =>
    match skipSpace cs with
    | [] => .error (.ahead [] .endInObject)
    | c :: r =>
      if c = '"' then
        match skipString r with
        | .error e => .error e
        | .ok s =>
          match skipSpace s with
          | [] => .error (.ahead [] .endInObject)
          | d :: t => if d = ':' then .ok t else .error (.ahead (d :: t) .expectedColon)
      else .error (.ahead (c :: r) .keyNotString)

/-- What is expected next: a value, the first item of the innermost frame or its end, or what may
follow a value there. -/
inductive Expecting where
  | value
  | firstItem
  | afterValue
  deriving DecidableEq, Repr

/-- Passes over a value that is neither a list nor an object. -/
def skipScalar (cs : List Char) : Except Fault (List Char) :=
  match cs with
  | [] => .error (.ahead [] .endInValue)
  | c :: r =>
    if c = 'n' then word ['u', 'l', 'l'] r
    else if c = 't' then word ['r', 'u', 'e'] r
    else if c = 'f' then word ['a', 'l', 's', 'e'] r
    else if c = '-' then skipNumber r
    else if isAsciiDigit c then skipNumber cs
    else if c = '"' then skipString r
    else .error (.ahead cs .expectedValue)

/-- Passes over what completes all open frames, in at most `steps` steps. -/
def skipFrames :
    (steps : Nat) → Expecting → List Frame → List Char → Except Fault (List Char)
  | 0, _, _, cs => .error (.here cs .expectedValue)
  | _ + 1, .afterValue, [], cs => .ok cs
  | _ + 1, .firstItem, [], cs => .ok cs
  | n + 1, .afterValue, f :: fs, cs =>
    match skipSpace cs with
    | [] => .error (.ahead [] f.cutShort)
    | c :: r =>
      if c = ',' then
        match f.skipKey r with
        | .error e => .error e
        | .ok s => skipFrames n .value (f :: fs) s
      else if c = f.closer then skipFrames n .afterValue fs r
      else .error (.ahead (c :: r) f.unfinished)
  | n + 1, .firstItem, f :: fs, cs =>
    match skipSpace cs with
    | [] => .error (.ahead [] f.cutShort)
    | c :: r =>
      if c = f.closer then skipFrames n .afterValue fs r
      else
        match f.skipKey (c :: r) with
        | .error e => .error e
        | .ok s => skipFrames n .value (f :: fs) s
  | n + 1, .value, fs, cs =>
    match skipSpace cs with
    | [] => .error (.ahead [] .endInValue)
    | c :: r =>
      if c = '[' then skipFrames n .firstItem (.list :: fs) r
      else if c = '\x7b' then skipFrames n .firstItem (.object :: fs) r
      else
        match skipScalar (c :: r) with
        | .error e => .error e
        | .ok s => skipFrames n .afterValue fs s

/-- Passes over one value. Each character takes part in at most two steps. -/
def skipValue (cs : List Char) : Except Fault (List Char) :=
  skipFrames (2 * cs.length + 2) .value [] cs

end LinkWatch.Json
