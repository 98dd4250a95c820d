import LinkWatch.Failure
import LinkWatch.Log

/-! # Serial lines: setting up an opened device -/

namespace LinkWatch

/-! ## Formats -/

inductive DataBits where
  | five
  | six
  | seven
  | eight
  deriving DecidableEq, Repr

inductive Parity where
  | none
  | odd
  | even
  deriving DecidableEq, Repr

inductive StopBits where
  | one
  | two
  deriving DecidableEq, Repr

inductive FlowControl where
  | none
  | software
  | hardware
  deriving DecidableEq, Repr

/-- What both ends of a line have to agree on besides the speed. -/
structure LineFormat where
  dataBits : DataBits := .eight
  parity : Parity := .none
  stopBits : StopBits := .one
  flow : FlowControl := .none
  deriving DecidableEq, Repr

/-! ## Requests -/

/-- One thing asked of a device. -/
inductive LineRequest where
  | dataBits (bits : DataBits)
  | parity (parity : Parity)
  | stopBits (bits : StopBits)
  | flowControl (flow : FlowControl)
  | dtr (high : Bool)
  | rts (high : Bool)
  /-- Discard what is buffered in either direction. -/
  | clear
  deriving DecidableEq, Repr

def LineFormat.requests (format : LineFormat) : List LineRequest :=
  [.dataBits format.dataBits, .parity format.parity, .stopBits format.stopBits,
    .flowControl format.flow]

abbrev Refusals := LineRequest → Option SerialFault

/-- What can be seen while a line is set up. -/
inductive LineNote where
  | requested (request : LineRequest)
  | logged (record : Record)
  deriving DecidableEq, Repr

def LineNote.request? : LineNote → Option LineRequest
  | .requested request => some request
  | .logged _ => none

def LineNote.record? : LineNote → Option Record
  | .requested _ => none
  | .logged record => some record

/-! ## Setting up -/

/-- Makes the requests in turn, up to the first that is refused. -/
def demand (refusals : Refusals) : List LineRequest → Noted LineNote (Except LinkError Unit)
  | [] => pure (.ok ())
  | r :: rs => do
    note (.requested r)
    match refusals r with
    | some fault => return .error (.ofFault fault)
    | none => demand refusals rs

/-- Makes a request that the line can do without. -/
def suggest (refusals : Refusals) (request : LineRequest) (signal : String) :
    Noted LineNote Unit := do
  note (.requested request)
  match refusals request with
  | some fault =>
    note (.logged ⟨.debug, "configure_port: failed to set " ++ signal ++ " high: " ++
      fault.text ++ " (continuing)"⟩)
  | none => pure ()

/-- Sets the format, and then holds both signals high, because dropping them resets some boards. -/
def setUp (refusals : Refusals) (format : LineFormat) :
    Noted LineNote (Except LinkError Unit) := do
  match ← demand refusals format.requests with
  | .error e => return .error e
  | .ok () =>
    suggest refusals (.dtr true) "DTR"
    suggest refusals (.rts true) "RTS"
    return .ok ()

def clearLine (refusals : Refusals) : Noted LineNote (Except LinkError Unit) :=
  demand refusals [.clear]

end LinkWatch
