import LinkWatch.Json.Fault

/-! # JSON lexemes: blanks, words, strings and numbers -/

namespace LinkWatch.Json

open Text

/-! ## Blanks and words -/

def isSpace (c : Char) : Bool := c = ' ' || c = '\n' || c = '\t' || c = '\r'

def skipSpace (cs : List Char) : List Char := cs.dropWhile isSpace

def word : (rest : List Char) → List Char → Except Fault (List Char)
  | [], cs => .ok cs
  | _ :: _, [] => .error (.here [] .endInValue)
  | e :: es, c :: cs => if c = e then word es cs else .error (.ahead (c :: cs) .expectedWord)

/-! ## Strings -/

/-- The characters after a backslash that stand for one other character. -/
def simpleEscape? (c : Char) : Option Char :=
  match c with
  | '"' => some '"'
  | '\\' => some '\\'
  | '/' => some '/'
  | 'b' => some '\x08'
  | 'f' => some '\x0c'
  | 'n' => some '\n'
  | 'r' => some '\r'
  | 't' => some '\t'
  | _ => none

def unit? (a b c d : Char) : Option Nat := digits? 16 [a, b, c, d]

/-- The fault of an escape whose next four bytes are not hexadecimal digits. -/
def unitFault (cs : List Char) : Fault :=
  if byteCount cs < 4 then .here [] .endInString else .settled (byteCount cs - 4) .invalidEscape

def isTrailing (n : Nat) : Bool := decide (0xdc00 ≤ n) && decide (n ≤ 0xdfff)

def isLeading (n : Nat) : Bool := decide (0xd800 ≤ n) && decide (n ≤ 0xdbff)

/-- The character that a leading and a trailing unit stand for together. -/
def pairChar (lead trail : Nat) : Char :=
  Char.ofNat ((lead - 0xd800) * 0x400 + (trail - 0xdc00) + 0x10000)

/-- Reads a string up to its closing quote. `acc` holds the characters so far, the last first. -/
def stringFrom (acc : List Char) : List Char → Except Fault (String × List Char)
  | [] => .error (.here [] .endInString)
  | c :: cs =>
    if c = '"' then .ok (String.ofList acc.reverse, cs)
    else if c = '\\' then
      match cs with
      | [] => .error (.here [] .endInString)
      | e :: es =>
        if e = 'u' then
          match es with
          | h₁ :: h₂ :: h₃ :: h₄ :: hs =>
            match unit? h₁ h₂ h₃ h₄ with
            | none => .error (unitFault (h₁ :: h₂ :: h₃ :: h₄ :: hs))
            | some n =>
              if isTrailing n then .error (.here hs .loneSurrogate)
              else if isLeading n then
                match hs with
                | [] => .error (.here [] .endInString)
                | b :: bs =>
                  if b = '\\' then
                    match bs with
                    | [] => .error (.here [] .endInString)
                    | u :: us =>
                      if u = 'u' then
                        match us with
                        | k₁ :: k₂ :: k₃ :: k₄ :: ks =>
                          match unit? k₁ k₂ k₃ k₄ with
                          | none => .error (unitFault (k₁ :: k₂ :: k₃ :: k₄ :: ks))
                          | some m =>
                            if isTrailing m then stringFrom (pairChar n m :: acc) ks
                            else .error (.here ks .loneSurrogate)
                        | short => .error (unitFault short)
                      else .error (.ahead (u :: us) .unpairedEscape)
                  else .error (.ahead (b :: bs) .unpairedEscape)
              else stringFrom (Char.ofNat n :: acc) hs
          | short => .error (unitFault short)
        else
          match simpleEscape? e with
          | some x => stringFrom (x :: acc) es
          | none => .error (.ahead (e :: es) .invalidEscape)
    else if c < ' ' then .error (.ahead (c :: cs) .controlCharacter)
    else stringFrom (c :: acc) cs

def string (cs : List Char) : Except Fault (String × List Char) := stringFrom [] cs

/-! ## Numbers -/

/-- A number as a program holds it: 64 bits without or with a sign, or a float by its bits. -/
inductive Number where
  | natural (n : Nat)
  | negative (n : Int)
  | float (bits : UInt64)
  deriving DecidableEq, Repr

def Number.shape : Number → Shape
  | .natural n => .natural n
  | .negative n => .negative n
  | .float bits => .float bits

def startsWithDigit : List Char → Bool
  | c :: _ => isAsciiDigit c
  | [] => false

def dropDigits (cs : List Char) : List Char := cs.dropWhile isAsciiDigit

/-- Digits gathered into a number that stays below a limit, and how many they were. -/
structure Gathered where
  value : Nat
  count : Nat
  rest : List Char

/-- Gathers digits behind `value` as long as the result stays below `limit`. -/
def gather (limit value count : Nat) : List Char → Gathered
  | [] => ⟨value, count, []⟩
  | c :: cs =>
    match digit? 10 c with
    | some d =>
      if value * 10 + d < limit then gather limit (value * 10 + d) (count + 1) cs
      else ⟨value, count, c :: cs⟩
    | none => ⟨value, count, c :: cs⟩

def signedBits (positive : Bool) (x : Float) : UInt64 := (if positive then x else -x).toBits

/-- Ten to the power `n`, for `n` up to 308. -/
def floatPower (n : Nat) : Float := Float.ofScientific 1 false n

/-- Divides by 1e308 until the exponent is in reach, or nothing is left. -/
def scaleDown : Nat → Float → Nat → Float × Nat
  | 0, x, n => (x, n)
  | steps + 1, x, n =>
    if n ≤ 308 || x == 0.0 then (x, n) else scaleDown steps (x / 1e308) (n - 308)

/-- The float nearest to the digits, scaled once by a power of ten. `rest` is the text after it. -/
def assemble (positive : Bool) (significand : Nat) (exponent : Int) (rest : List Char) :
    Except Fault (Number × List Char) :=
  let x := (UInt64.ofNat significand).toFloat
  if 0 ≤ exponent then
    if exponent ≤ 308 then
      let y := x * floatPower exponent.toNat
      if y.isInf then .error (.here rest .numberTooLarge)
      else .ok (.float (signedBits positive y), rest)
    else if significand = 0 then .ok (.float (signedBits positive x), rest)
    else .error (.here rest .numberTooLarge)
  else
    let (y, n) := scaleDown 4 x (-exponent).toNat
    let z := if n ≤ 308 then y / floatPower n else y
    .ok (.float (signedBits positive z), rest)

/-- The largest exponent that is gathered digit by digit. -/
def exponentLimit : Nat := 0x80000000

/-- Reads an exponent whose letter has been passed. -/
def exponent (positive : Bool) (significand : Nat) (scale : Int) (cs : List Char) :
    Except Fault (Number × List Char) :=
  let (up, cs) := match cs with
    | '+' :: r => (true, r)
    | '-' :: r => (false, r)
    | r => (true, r)
  match cs with
  | [] => .error (.here [] .endInValue)
  | c :: r =>
    if !isAsciiDigit c then .error (.ahead (c :: r) .invalidNumber)
    else
      let g := gather exponentLimit 0 0 cs
      if startsWithDigit g.rest then
        if significand ≠ 0 && up then .error (.here g.rest.tail .numberTooLarge)
        else .ok (.float (signedBits positive 0.0), dropDigits g.rest)
      else assemble positive significand (if up then scale + g.value else scale - g.value) g.rest

def afterFraction (positive : Bool) (significand : Nat) (scale : Int) (cs : List Char) :
    Except Fault (Number × List Char) :=
  match cs with
  | 'e' :: r | 'E' :: r => exponent positive significand scale r
  | _ => assemble positive significand scale cs

/-- The significand is a number of 64 bits. -/
def significandLimit : Nat := 0x10000000000000000

/-- Reads the digits after a point, with at least one of them. -/
def fraction (positive : Bool) (significand : Nat) (scale : Int) (cs : List Char) :
    Except Fault (Number × List Char) :=
  if startsWithDigit cs then
    let g := gather significandLimit significand 0 cs
    afterFraction positive g.value (scale - g.count) (dropDigits g.rest)
  else .error (.ahead cs (if cs.isEmpty then .endInValue else .invalidNumber))

/-- Reads what may follow the digits before the point. -/
def afterDigits (positive : Bool) (significand : Nat) (scale : Int) (cs : List Char) :
    Except Fault (Number × List Char) :=
  match cs with
  | '.' :: r => fraction positive significand scale r
  | _ => afterFraction positive significand scale cs

/-- A number without fraction and exponent. Minus zero, and what is below the signed range, become
floats. -/
def whole (positive : Bool) (n : Nat) : Number :=
  if positive then .natural n
  else if n = 0 || decide (0x8000000000000000 < n) then
    .float (signedBits false (UInt64.ofNat n).toFloat)
  else .negative (-(n : Int))

def startsFloat : List Char → Bool
  | c :: _ => c = '.' || c = 'e' || c = 'E'
  | [] => false

/-- Reads a number whose sign has been passed. -/
def number (positive : Bool) (cs : List Char) : Except Fault (Number × List Char) :=
  match cs with
  | [] => .error (.here [] .endInValue)
  | c :: r =>
    if c = '0' then
      if startsWithDigit r then .error (.ahead r .invalidNumber)
      else if startsFloat r then afterDigits positive 0 0 r
      else .ok (whole positive 0, r)
    else if isAsciiDigit c then
      let g := gather significandLimit 0 0 cs
      if startsWithDigit g.rest then
        let more := dropDigits g.rest
        afterDigits positive g.value ((g.rest.length : Int) - more.length) more
      else if startsFloat g.rest then afterDigits positive g.value 0 g.rest
      else .ok (whole positive g.value, g.rest)
    else .error (.ahead cs .invalidNumber)

end LinkWatch.Json
