import LinkWatch.Host
import LinkWatch.Endpoint
import LinkWatch.Settings

/-! # Opening endpoints -/

namespace LinkWatch

open Text

/-! ## Serial devices -/

structure SerialLine where
  name : String
  baud : UInt32
  format : LineFormat
  timeout : Duration
  refusals : Refusals

/-- A speed of zero stands for the default one. -/
def OpenSettings.speed (settings : OpenSettings) : Logged UInt32 := do
  if settings.baud ≠ 0 then return settings.baud
  log .debug ("open_port: baud rate 0, using " ++ decimal defaultBaud.toNat)
  return defaultBaud

def Host.openLine (host : Host) (settings : OpenSettings) (name : String) :
    Logged (Except LinkError SerialLine) := do
  let baud ← settings.speed
  match host.openDevice name with
  | .error fault => return .error (.ofFault fault)
  | .ok refusals =>
    match ← (setUp refusals {}).pickNotes LineNote.record? with
    | .error e => return .error e
    | .ok () => return .ok ⟨name, baud, {}, settings.timeout, refusals⟩

/-! ## Endpoints -/

/-- What a channel was opened to. -/
inductive Link where
  | serial (line : SerialLine)
  | tcp (number : UInt16)

/-- Opens a serial device for a channel, which begins with nothing buffered. -/
def Host.openSerial (host : Host) (settings : OpenSettings) (name : String) :
    Logged (Except LinkError Link) := do
  log .info ("Opening serial port " ++ name ++ " at " ++ decimal settings.baud.toNat ++ " baud")
  match ← host.openLine settings name with
  | .error e => return .error e
  | .ok line =>
    match ← (clearLine line.refusals).pickNotes LineNote.record? with
    | .error e => return .error e
    | .ok () => return .ok (.serial line)

def Host.openTcp (host : Host) (settings : OpenSettings) (number : UInt16) :
    Logged (Except LinkError Link) := do
  log .info ("Connecting to localhost:" ++ decimal number.toNat)
  match (host.reach number).attempt settings.timeoutMillis with
  | .error failure => return .error (.io failure)
  | .ok () => return .ok (.tcp number)

/-- Opens a channel. The auto-detection marker has to be resolved before, and CAN is not spoken. -/
def Host.open (host : Host) (settings : OpenSettings) :
    Endpoint → Logged (Except LinkError Link)
  | .serial name => host.openSerial settings name
  | .tcp number => host.openTcp settings number
  | .autoSerial => pure (.error (.unsupported "auto serial must be resolved to a port first"))
  | .pcan => pure (.error (.unsupported Endpoint.pcan.display))
  | .socketCan => pure (.error (.unsupported Endpoint.socketCan.display))

end LinkWatch
