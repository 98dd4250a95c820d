import LinkWatch.Host
import LinkWatch.Probe
import LinkWatch.Text.Segment

/-! # The list of serial devices

The enumeration can miss devices that already have a name in the device directory, so both are
listed, each device once and in the order of their keys. -/

namespace LinkWatch

open Text

/-! ## Order -/

/-- What the order of devices goes by: the family, the number within it, the name. -/
structure DeviceKey where
  family : Nat
  number : Nat
  base : String
  deriving DecidableEq, Repr

/-- The two numbered families, in their order. -/
def families : List String := ["ttyACM", "ttyUSB"]

/-- The largest number a device can have. A suffix that is no number counts as this one. -/
def lastNumber : Nat := 0xffffffffffffffff

def deviceNumber (suffix : List Char) : Nat := (bounded? 10 lastNumber suffix).getD lastNumber

def deviceKey (name : String) : DeviceKey :=
  let base := baseName name
  match dropLead? "ttyACM".toList base.toList with
  | some suffix => ⟨0, deviceNumber suffix, base⟩
  | none =>
    match dropLead? "ttyUSB".toList base.toList with
    | some suffix => ⟨1, deviceNumber suffix, base⟩
    | none => ⟨2, 0, base⟩

def DeviceKey.le (a b : DeviceKey) : Bool :=
  if a.family ≠ b.family then decide (a.family < b.family)
  else if a.number ≠ b.number then decide (a.number < b.number)
  else decide (a.base ≤ b.base)

/-- Devices with the same key, which differ in their directories only, are not ordered. -/
def deviceLe (a b : String) : Bool := (deviceKey a).le (deviceKey b)

/-! ## The list -/

def isFallback (file : String) : Bool := families.any fun f => leads f.toList file.toList

def fallbacks (files : List String) : List String :=
  (files.filter isFallback).map ("/dev/" ++ ·)

/-- All names from both sources, once each, as a set gives them out. -/
def Host.deviceSet (host : Host) (enumerated : List String) : List String :=
  host.arrangement.order (enumerated ++ fallbacks (host.deviceNames.getD [])).eraseDups

/-- The devices by their keys. Those with the same key stay as the set gave them out. -/
def Host.serialDevices (host : Host) : Except ProbeError (List String) :=
  match host.enumerated with
  | .error fault => .error (.serial fault)
  | .ok names => .ok ((host.deviceSet names).mergeSort deviceLe)

end LinkWatch
