import LinkWatch.Log
import LinkWatch.Source

/-! # Serial channels

All handles of a channel share its device and one flag. A device that has nothing to read for a
while times out, and the channel then asks it again, so that a read waits until there is something
to say or a handle has closed the channel. -/

namespace LinkWatch

/-! ## The device -/

/-- What the device does for one read: a handle may close the channel while it waits, and then the
read ends. -/
structure Feed where
  reading : Reading
  closing : Bool := false
  deriving DecidableEq, Repr

/-- What the device does for one write: it takes so many bytes at most, or it fails. -/
inductive Acceptance where
  | takes (count : Nat)
  | fails (failure : IoFailure)
  deriving DecidableEq, Repr

inductive DeviceCall where
  | read (room : Nat)
  | write (bytes : List UInt8)
  | flush
  | clone
  deriving DecidableEq, Repr

/-! ## The channel -/

structure SerialChannel where
  closed : Bool := false
  /-- What the device will do for reads. After that it stays silent. -/
  feeds : List Feed := []
  /-- What the device will do for writes. After that it takes everything. -/
  acceptances : List Acceptance := []
  flushFault : Option SerialFault := none
  cloneFault : Option SerialFault := none
  deriving DecidableEq, Repr

namespace SerialChannel

def channelClosed : IoFailure := ⟨.connectionAborted, "channel closed"⟩

def shortWrite : IoFailure := ⟨.writeZero, "failed to write whole buffer"⟩

/-! ## Reading -/

/-- Reads from a channel with the given flag and device: the result, the flag and the rest. There is
no result while the device is silent. The flag is looked at before each call only. -/
def readFrom (room : Nat) :
    (closed : Bool) → List Feed → Noted DeviceCall (Option Reading × Bool × List Feed)
  | true, feeds => pure (some (.failed channelClosed), true, feeds)
  | false, [] => do
    note (.read room)
    return (none, false, [])
  | false, f :: feeds => do
    note (.read room)
    if f.reading.failedWith .timedOut then readFrom room f.closing feeds
    else return (some f.reading, f.closing, feeds)

def read (c : SerialChannel) (room : Nat) : Noted DeviceCall (Option Reading × SerialChannel) := do
  let (reading, closed, feeds) ← readFrom room c.closed c.feeds
  return (reading, { c with closed := closed, feeds := feeds })

/-! ## Writing -/

def write (c : SerialChannel) (bytes : List UInt8) :
    Noted DeviceCall (Except IoFailure Nat × SerialChannel) :=
  if c.closed then pure (.error channelClosed, c)
  else do
    note (.write bytes)
    match c.acceptances with
    | [] => return (.ok bytes.length, c)
    | .takes count :: rest => return (.ok (min count bytes.length), { c with acceptances := rest })
    | .fails failure :: rest => return (.error failure, { c with acceptances := rest })

/-- Writes to a device until it has taken everything. Interrupted writes are made again, and a write
that takes nothing is a failure. -/
def writeAllTo : List Acceptance → List UInt8 →
    Noted DeviceCall (Except IoFailure Unit × List Acceptance)
  | acceptances, [] => pure (.ok (), acceptances)
  | [], bytes => do
    note (.write bytes)
    return (.ok (), [])
  | .fails failure :: rest, bytes => do
    note (.write bytes)
    if failure.kind = .interrupted then writeAllTo rest bytes else return (.error failure, rest)
  | .takes 0 :: rest, bytes => do
    note (.write bytes)
    return (.error shortWrite, rest)
  | .takes count :: rest, bytes => do
    note (.write bytes)
    writeAllTo rest (bytes.drop count)

def writeAll (c : SerialChannel) (bytes : List UInt8) :
    Noted DeviceCall (Except IoFailure Unit × SerialChannel) :=
  if c.closed && !bytes.isEmpty then pure (.error channelClosed, c)
  else do
    let (result, acceptances) ← writeAllTo c.acceptances bytes
    return (result, { c with acceptances := acceptances })

/-! ## The rest -/

/-- Flushes the device, also after the channel was closed. -/
def flush (c : SerialChannel) : Noted DeviceCall (Except IoFailure Unit) := do
  note .flush
  match c.flushFault with
  | some fault => return .error fault.toIo
  | none => return .ok ()

def clone (c : SerialChannel) : Noted DeviceCall (Except IoFailure Unit) := do
  note .clone
  match c.cloneFault with
  | some fault => return .error fault.asOther
  | none => return .ok ()

def close (c : SerialChannel) : SerialChannel := { c with closed := true }

end SerialChannel

end LinkWatch
