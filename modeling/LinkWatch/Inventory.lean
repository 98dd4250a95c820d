import LinkWatch.Endpoint
import LinkWatch.Text.Quoted

/-! # Inventories: what one survey of the hardware found -/

namespace LinkWatch

open Text

/-- The identifiers found, in the order of their discovery, and three states of attached tools.
Two inventories are equal only if they list the same identifiers in the same order. -/
structure Inventory where
  listed : List String := []
  dfu : Bool := false
  stLink : Bool := false
  canAdapter : Bool := false
  deriving DecidableEq, Repr

namespace Inventory

def empty : Inventory := {}

def isEmpty (i : Inventory) : Bool := !i.dfu && !i.stLink && !i.canAdapter && i.listed.isEmpty

/-! ## Serial devices -/

/-- Whether the identifier names a serial device, and not a marker or a TCP number. -/
def namesSerial (id : String) : Bool :=
  match Endpoint.parse id with
  | .ok (.serial _) => true
  | _ => false

/-- The listed identifiers that name serial devices, as they are listed. -/
def serialDevices (i : Inventory) : List String := i.listed.filter namesSerial

/-- The endpoint that the auto-detection marker stands for. -/
def firstSerial (i : Inventory) : Except LinkError Endpoint :=
  match i.serialDevices.head? with
  | some name => .ok (.serial name)
  | none => .error .noSerialDevice

/-! ## For the log -/

def flag (b : Bool) : String := if b then "true" else "false"

/-- The full form for debug records. -/
def describe (i : Inventory) : String :=
  "HardwareSnapshot \x7b ports: " ++ quotedList i.listed ++ ", dfu_found: " ++ flag i.dfu ++
    ", st_link_connected: " ++ flag i.stLink ++ ", can_adapter_connected: " ++ flag i.canAdapter ++
    " \x7d"

/-- The short form for the monitor's records. -/
def summary (i : Inventory) : String :=
  "ports=" ++ quotedList i.listed ++ " dfu=" ++ flag i.dfu ++ " st-link=" ++ flag i.stLink ++
    " can=" ++ flag i.canAdapter

end Inventory

end LinkWatch
