/-! # Numerals for bounded natural numbers -/

namespace LinkWatch.Text

/-! ## Digits -/

/-- The value of an ASCII letter or digit read as a digit, before any base is considered. -/
def digitValue? (c : Char) : Option Nat :=
  if '0' ≤ c ∧ c ≤ '9' then some (c.toNat - '0'.toNat)
  else if 'a' ≤ c ∧ c ≤ 'z' then some (c.toNat - 'a'.toNat + 10)
  else if 'A' ≤ c ∧ c ≤ 'Z' then some (c.toNat - 'A'.toNat + 10)
  else none

def digit? (base : Nat) (c : Char) : Option Nat :=
  (digitValue? c).filter (· < base)

def isAsciiDigit (c : Char) : Bool := (digit? 10 c).isSome

/-! ## Reading -/

/-- The number that the digits denote after a leading part worth `acc`. -/
def digitsFrom? (base : Nat) (acc : Nat) : List Char → Option Nat
  | [] => some acc
  | c :: cs => (digit? base c).bind fun d => digitsFrom? base (acc * base + d) cs

def digits? (base : Nat) : List Char → Option Nat
  | [] => none
  | cs => digitsFrom? base 0 cs

/-- One plus sign may stand in front of the digits. -/
def unsigned? (base : Nat) : List Char → Option Nat
  | '+' :: cs => digits? base cs
  | cs => digits? base cs

/-- A numeral that denotes at most `limit`. Leading zeros do not count against it. -/
def bounded? (base limit : Nat) (cs : List Char) : Option Nat :=
  (unsigned? base cs).filter (· ≤ limit)

/-! ## Writing -/

/-- The decimal digits, without leading zeros. -/
def decimal (n : Nat) : String := String.ofList (Nat.toDigits 10 n)

/-- The decimal digits, after a minus sign where there is one. -/
def signed (n : Int) : String := (if n < 0 then "-" else "") ++ decimal n.natAbs

/-- The digits in base sixteen, with small letters and without leading zeros. -/
def hexadecimal (n : Nat) : String := String.ofList (Nat.toDigits 16 n)

/-- Adds zeros in front up to the given width. -/
def padLeft (width : Nat) (s : String) : String :=
  String.ofList (List.replicate (width - s.length) '0') ++ s

end LinkWatch.Text
