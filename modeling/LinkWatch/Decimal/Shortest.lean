import LinkWatch.Text.Numeral

/-! # The shortest decimal that reads back as the same 64-bit float -/

namespace LinkWatch.Decimal

/-! ## Floats by their bits -/

/-- A finite float without its sign: `mantissa` times two to the power `exponent`. -/
structure Binary where
  mantissa : Nat
  exponent : Int
  deriving DecidableEq, Repr

/-- The leading bit of a mantissa, two to the power 52, which is not stored. -/
def leadingBit : Nat := 0x10000000000000

def signBit (bits : UInt64) : Bool := bits.toNat ≥ 0x8000000000000000

def Binary.ofBits (bits : UInt64) : Binary :=
  let biased : Nat := bits.toNat / leadingBit % 0x800
  let fraction : Nat := bits.toNat % leadingBit
  if biased = 0 then ⟨fraction, -1074⟩ else ⟨leadingBit + fraction, (biased : Int) - 1075⟩

/-! ## Exact comparison

All numbers are compared after scaling by four, so that the ends of the interval that rounds to the
float are whole multiples of the same power of two. -/

/-- The interval of numbers that round to the float, in quarters of its last place. -/
def Binary.bounds (b : Binary) : Nat × Nat :=
  let low := if b.mantissa = leadingBit ∧ b.exponent ≠ -1074 then 4 * b.mantissa - 1
    else 4 * b.mantissa - 2
  (low, 4 * b.mantissa + 2)

def twoPower (e : Int) : Nat × Nat :=
  if 0 ≤ e then (Nat.pow 2 e.toNat, 1) else (1, Nat.pow 2 (-e).toNat)

def tenPower (e : Int) : Nat × Nat :=
  if 0 ≤ e then (Nat.pow 10 e.toNat, 1) else (1, Nat.pow 10 (-e).toNat)

structure Digits where
  digits : Nat
  exponent : Int
  deriving DecidableEq, Repr

/-- The given quarters of the float's last place, over the grid unit ten to the power `p`. -/
def Binary.onGrid (b : Binary) (p : Int) (quarters : Nat) : Nat × Nat :=
  let two := twoPower (b.exponent - 2)
  let ten := tenPower p
  (quarters * two.1 * ten.2, two.2 * ten.1)

/-- Of two neighbours on the grid, the one nearer to a fraction between them. A point in the middle
goes to the even one. -/
def nearer (value : Nat × Nat) (below above : Nat) : Nat :=
  let middle := (below + above) * value.2
  if 2 * value.1 < middle then below
  else if middle < 2 * value.1 then above
  else if below % 2 = 0 then below else above

/-- The point of the grid nearest to the float that still rounds to it. -/
def Binary.hit? (b : Binary) (p : Int) : Option Digits :=
  let low := b.onGrid p b.bounds.1
  let high := b.onGrid p b.bounds.2
  let value := b.onGrid p (4 * b.mantissa)
  let closed := b.mantissa % 2 = 0
  let inside (c : Nat) : Bool :=
    if closed then decide (low.1 ≤ c * low.2) && decide (c * high.2 ≤ high.1)
    else decide (low.1 < c * low.2) && decide (c * high.2 < high.1)
  let below := value.1 / value.2
  let above := below + 1
  match inside below, inside above with
  | true, true => some ⟨nearer value below above, p⟩
  | true, false => some ⟨below, p⟩
  | false, true => some ⟨above, p⟩
  | false, false => none

/-- The powers of ten to try, the coarsest first. -/
def gridExponents : List Int := (List.range 640).map fun (i : Nat) => (309 : Int) - (i : Int)

/-- The shortest digits of a float other than zero. -/
def Binary.shortest (b : Binary) : Digits :=
  (gridExponents.findSome? b.hit?).getD ⟨b.mantissa, b.exponent⟩

/-! ## Writing -/

/-- The powers of ten of the leading digit for which a number is written without an exponent. -/
structure Format where
  lowest : Int
  highest : Int
  deriving DecidableEq, Repr

/-- Writes digits with a point, or with one digit before the point and a signed exponent. -/
def Format.write (f : Format) (d : Digits) : String :=
  let ds := Nat.toDigits 10 d.digits
  let n : Int := ds.length
  let lead := d.exponent + n - 1
  if f.lowest ≤ lead ∧ lead ≤ f.highest then
    if 0 ≤ d.exponent then
      String.ofList (ds ++ List.replicate d.exponent.toNat '0') ++ ".0"
    else if 0 ≤ lead then
      String.ofList (ds.take (lead + 1).toNat) ++ "." ++ String.ofList (ds.drop (lead + 1).toNat)
    else
      "0." ++ String.ofList (List.replicate (-lead - 1).toNat '0' ++ ds)
  else
    let tail := if ds.length ≤ 1 then "" else "." ++ String.ofList ds.tail
    let sign := if lead < 0 then "-" else "+"
    String.ofList (ds.take 1) ++ tail ++ "e" ++ sign ++ Text.decimal lead.natAbs

def Format.text (f : Format) (bits : UInt64) : String :=
  let b := Binary.ofBits bits
  (if signBit bits then "-" else "") ++ (if b.mantissa = 0 then "0.0" else f.write b.shortest)

end LinkWatch.Decimal
