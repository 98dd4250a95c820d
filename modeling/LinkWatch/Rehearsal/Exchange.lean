import LinkWatch.Rehearsal.Wire

/-! # Rehearsals of an exchange over an opened channel -/

namespace LinkWatch.Rehearsal

structure Exchange where
  wire : Wire
  /-- The handles are numbered from zero, and none is given back. -/
  handles : Nat := 1
  deriving DecidableEq, Repr

inductive HandleCue where
  | read (room : Nat)
  | write (bytes : List UInt8)
  | flush
  | close
  | clone
  deriving DecidableEq, Repr

inductive ExchangeCue where
  | send (bytes : List UInt8)
  | hangUp (abruptly : Bool)
  | handle (number : Nat) (cue : HandleCue)
  deriving DecidableEq, Repr

inductive ExchangeResult where
  | ok
  | gone
  | noHandle
  | wouldBlock
  | crashed
  | read (count : Nat) (bytes : List UInt8)
  /-- The count of bytes taken, and the bytes as the far end got them if it is there. -/
  | wrote (count : Nat) (arrived : Option (List UInt8))
  | done
  | handle (number : Nat)
  | failed (failure : IoFailure)
  deriving DecidableEq, Repr

namespace Exchange

def readResult (room : Nat) : Option Reading → ExchangeResult
  | none => .wouldBlock
  | some .crashed => .crashed
  | some (.failed failure) => .failed failure
  | some (.got written claim) =>
    let count := reported room written claim
    .read count (((Buffer.blank room).write written).first count)

def plainResult : Except IoFailure Unit → ExchangeResult
  | .error failure => .failed failure
  | .ok () => .done

def perform (x : Exchange) : HandleCue → ExchangeResult × Exchange
  | .read room =>
    let (reading, wire) := x.wire.read room
    (readResult room reading, { x with wire := wire })
  | .write bytes =>
    let (result, wire) := x.wire.write bytes
    let result := match result with
      | .error failure => .failed failure
      | .ok count => .wrote count (if wire.gone then none else some (bytes.take count))
    (result, { x with wire := wire })
  | .flush => (plainResult x.wire.flush, x)
  | .close =>
    let (result, wire) := x.wire.close
    (plainResult result, { x with wire := wire })
  | .clone => (.handle x.handles, { x with handles := x.handles + 1 })

def follow (x : Exchange) : ExchangeCue → ExchangeResult × Exchange
  | .send bytes =>
    if x.wire.gone then (.gone, x) else (.ok, { x with wire := x.wire.receive bytes })
  | .hangUp abruptly => (.ok, { x with wire := x.wire.hangUp abruptly })
  | .handle number cue => if number < x.handles then x.perform cue else (.noHandle, x)

def play (x : Exchange) : List ExchangeCue → List ExchangeResult
  | [] => []
  | cue :: cues =>
    let (result, x) := x.follow cue
    result :: x.play cues

end Exchange

end LinkWatch.Rehearsal
