import LinkWatch.Failure

/-! # Probes: five questions about the hardware -/

namespace LinkWatch

/-! ## Questions -/

inductive Probe where
  | serial
  | simulator
  | dfu
  | stLink
  | canAdapter
  deriving DecidableEq, Repr

namespace Probe

/-- What log records call the probe. -/
def title : Probe → String
  | .serial => "serial port"
  | .simulator => "simulator"
  | .dfu => "DFU"
  | .stLink => "ST-Link"
  | .canAdapter => "CAN adapter"

end Probe

/-! ## Answers -/

inductive ProbeError where
  | io (failure : IoFailure)
  | serial (fault : SerialFault)
  | unsupported
  | failed (text : String)
  deriving DecidableEq, Repr

def ProbeError.message : ProbeError → String
  | .io failure => "I/O error: " ++ failure.text
  | .serial fault => "Serial enumeration failed: " ++ fault.text
  | .unsupported => "Probe not supported on this platform"
  | .failed text => "Probe failed: " ++ text

/-- How a probe ended: with an answer, with an error, or by crashing. -/
inductive Outcome (α : Type) where
  | found (a : α)
  | failed (e : ProbeError)
  | crashed
  deriving DecidableEq, Repr

def Outcome.ofExcept {α : Type} : Except ProbeError α → Outcome α
  | .ok a => .found a
  | .error e => .failed e

/-- What each of the probes would answer if it were asked now. -/
structure Answers where
  serial : Outcome (List String) := .found []
  simulator : Outcome (List String) := .found []
  dfu : Outcome Bool := .found false
  stLink : Outcome Bool := .found false
  canAdapter : Outcome Bool := .found false
  deriving DecidableEq, Repr

end LinkWatch
