import LinkWatch.Failure.SystemError
import LinkWatch.Line

/-! # The host: what the operating system answers -/

namespace LinkWatch

/-! ## Connections on this machine -/

/-- What becomes of a connection attempt: the system fails it at once, or it has to wait for an
answer, which accepts it or never comes. -/
inductive Reach where
  | accepts
  | fails (failure : IoFailure)
  | silent
  deriving DecidableEq, Repr

/-- No wait may have a limit of zero. -/
def zeroTimeout : IoFailure := ⟨.invalidInput, "cannot set a 0 duration timeout"⟩

def timedOut : IoFailure := ⟨.timedOut, "connection timed out"⟩

/-- Attempts to connect within a number of milliseconds. -/
def Reach.attempt (millis : UInt64) : Reach → Except IoFailure Unit
  -- The limit is looked at only where there is something to wait for.
  | .fails failure => .error failure
  | .accepts => if millis = 0 then .error zeroTimeout else .ok ()
  | .silent => .error (if millis = 0 then zeroTimeout else timedOut)

/-! ## Devices -/

def noSuchDevice : SerialFault := ⟨.noDevice, "No such file or directory"⟩

/-- A name with a NUL in it cannot be handed to the system. -/
def impossibleName : SerialFault := ⟨.invalidInput, "Invalid argument"⟩

/-- The two identity files of a directory for a USB device or interface, where they can be read. -/
structure UsbEntry where
  vendor : Option ByteArray
  product : Option ByteArray

/-- The order in which a set of names gives out its members, of which nothing else is known. -/
structure Arrangement where
  order : List String → List String
  perm : ∀ names, (order names).Perm names

instance : Inhabited Arrangement := ⟨⟨id, fun _ => .refl _⟩⟩

/-- The facts about a machine that probing and opening draw on. -/
structure Host where
  /-- The serial devices that the enumeration reports. -/
  enumerated : Except SerialFault (List String) := .ok []
  deviceNames : Option (List String) := none
  arrangement : Arrangement := default
  usbEntries : Except IoFailure (List UsbEntry) := .error (.ofErrno 2)
  reach : UInt16 → Reach := fun _ => .fails (.ofErrno 111)
  /-- What opening the serial device of a name gives. -/
  device : String → Except SerialFault Refusals := fun _ => .error noSuchDevice

def Host.openDevice (host : Host) (name : String) : Except SerialFault Refusals :=
  if '\x00' ∈ name.toList then .error impossibleName else host.device name

end LinkWatch
