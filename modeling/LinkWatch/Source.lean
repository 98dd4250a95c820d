import LinkWatch.Failure

/-! # Byte sources: buffers and the readings that go into them -/

namespace LinkWatch

/-! ## Buffers -/

/-- Room for `capacity` bytes. Those behind `front` have not been written yet, and are zero. -/
structure Buffer where
  capacity : Nat
  front : List UInt8 := []
  fits : front.length ≤ capacity := by simp
  deriving DecidableEq, Repr

namespace Buffer

def blank (capacity : Nat) : Buffer := { capacity := capacity }

/-- Puts bytes at the start, as many as there is room for, and leaves the others as they were. -/
def write (b : Buffer) (written : List UInt8) : Buffer where
  capacity := b.capacity
  front := written.take b.capacity ++ b.front.drop written.length
  fits := by
    have := b.fits
    simp only [List.length_append, List.length_take, List.length_drop]
    omega

/-- The first `count` bytes, or all if there are fewer. -/
def first (b : Buffer) (count : Nat) : List UInt8 :=
  b.front.take count ++ List.replicate (min count b.capacity - b.front.length) 0

end Buffer

/-! ## Readings -/

/-- How one reading of a source into a buffer ended. A source that got bytes wrote them at the start
of the buffer, as many as there was room for. It may claim a count that is not what it wrote. -/
inductive Reading where
  | got (written : List UInt8) (claim : Option Nat := none)
  | failed (failure : IoFailure)
  | crashed
  deriving DecidableEq, Repr

/-- The count that a source reports which was given room for `room` bytes. -/
def reported (room : Nat) (written : List UInt8) (claim : Option Nat) : Nat :=
  claim.getD (min written.length room)

namespace Reading

/-- Nothing got: the source has ended. -/
def endOfInput : Reading := .got []

def failedWith (r : Reading) (kind : IoKind) : Bool :=
  match r with
  | .failed failure => failure.kind == kind
  | _ => false

end Reading

end LinkWatch
