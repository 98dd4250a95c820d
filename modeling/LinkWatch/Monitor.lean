import LinkWatch.Intake
import LinkWatch.Inventory
import LinkWatch.Opening

/-! # The monitor: one session with the configured endpoint

The monitor keeps the latest inventory. When it lists the target, the monitor opens a channel to
it, hands the channel to an intake and counts what that brings, until it reports the end. -/

namespace LinkWatch

/-! ## States -/

/-- Sessions are numbered from one, with fewer than 2 ^ 64 of them in the life of a monitor: a word
of 64 bits would hold their numbers, and never wrap. -/
abbrev SessionId := Nat

structure Session where
  id : SessionId
  endpoint : Endpoint
  /-- The bytes that have arrived, of which there are fewer than 2 ^ 64 as well. -/
  bytes : Nat := 0
  deriving DecidableEq, Repr

structure Monitor where
  settings : Settings
  target : Option Endpoint
  latest : Inventory := .empty
  session : Option Session := none
  /-- The number of the last session. -/
  lastId : SessionId := 0
  deriving DecidableEq, Repr

inductive MonitorNote where
  | attempted (endpoint : Endpoint)
  | opened (id : SessionId) (endpoint : Endpoint)
  | closed (id : SessionId)
  | logged (record : Record)
  deriving DecidableEq, Repr

def MonitorNote.record? : MonitorNote → Option Record
  | .logged record => some record
  | _ => none

/-! ## Attempts -/

/-- What an attempt to connect meets: the host on which the channel is opened, the results of making
a second handle of it and of starting the intake. -/
structure Attempt where
  host : Host
  cloning : Except IoFailure Unit := .ok ()
  starting : Except IoFailure Unit := .ok ()

/-- Why there is no connection. -/
inductive ConnectError where
  | opening (endpoint : Endpoint) (error : LinkError)
  | channel (failure : IoFailure)
  deriving DecidableEq, Repr

/-- The error, after a colon what it was caused by, and so on. -/
def ConnectError.message : ConnectError → String
  | .opening endpoint error =>
    "Failed to open " ++ endpoint.display ++ ": " ++ error.message ++
      (match error.cause? with
        | some cause => ": " ++ cause
        | none => "")
  | .channel failure => failure.text

/-- How the end of a session goes: closing the channel, and waiting for the intake. -/
structure Closing where
  close : Except IoFailure Unit := .ok ()
  intake : IntakeEnd := .orderly

namespace Monitor

def new (settings : Settings) (target : Option Endpoint) : Monitor :=
  { settings := settings, target := target }

/-! ## The target -/

/-- What the target stands for in the latest inventory, if that lists it. -/
def available (m : Monitor) : Option Endpoint :=
  m.target.bind fun target =>
    if target.display ∈ m.latest.listed then
      match target with
      | .autoSerial => m.latest.firstSerial.toOption
      | other => some other
    else none

/-! ## Events -/

def hardware (m : Monitor) (found : Inventory) : Noted MonitorNote Monitor := do
  note (.logged ⟨.info, "Hardware changed: " ++ found.summary⟩)
  return { m with latest := found }

/-- Attempts to connect. An opened channel without a second handle is given up, and the number is
taken before the intake starts. -/
def connectTo (m : Monitor) (endpoint : Endpoint) (attempt : Attempt) :
    Noted MonitorNote (Except ConnectError Unit × Monitor) := do
  note (.attempted endpoint)
  match ← (attempt.host.open m.settings.opening endpoint).mapNotes .logged with
  | .error e => return (.error (.opening endpoint e), m)
  | .ok _ =>
    match attempt.cloning with
    | .error failure => return (.error (.channel failure), m)
    | .ok () =>
      let id := m.lastId + 1
      match attempt.starting with
      | .error failure => return (.error (.channel failure), { m with lastId := id })
      | .ok () =>
        note (.opened id endpoint)
        note (.logged ⟨.info, "Connected to " ++ endpoint.display⟩)
        return (.ok (), { m with lastId := id, session := some ⟨id, endpoint, 0⟩ })

/-- Connects to the target if it is available and there is no session. -/
def connect (m : Monitor) (attempt : Attempt) :
    Noted MonitorNote (Except ConnectError Unit × Monitor) :=
  match m.session, m.available with
  | none, some endpoint => m.connectTo endpoint attempt
  | _, _ => pure (.ok (), m)

/-- Counts bytes, if they belong to the session. -/
def data (m : Monitor) (id : SessionId) (bytes : List UInt8) : Noted MonitorNote Monitor :=
  match m.session with
  | some s =>
    if s.id = id then do
      let total := s.bytes + bytes.length
      note (.logged ⟨.debug, s.endpoint.display ++ ": " ++ Text.decimal bytes.length ++
        " bytes (total " ++ Text.decimal total ++ ")"⟩)
      return { m with session := some { s with bytes := total } }
    else pure m
  | none => pure m

def closeSession (s : Session) (closing : Closing) : Noted MonitorNote Unit := do
  note (.closed s.id)
  match closing.close with
  | .error failure => note (.logged ⟨.debug, "Close failed: " ++ failure.text⟩)
  | .ok () => pure ()
  if closing.intake = .crashed then
    note (.logged ⟨.warn, "Reader thread for " ++ s.endpoint.display ++ " panicked"⟩)

/-- Ends the session, if it is this one that has been disconnected. -/
def disconnected (m : Monitor) (id : SessionId) (closing : Closing) : Noted MonitorNote Monitor :=
  match m.session with
  | some s =>
    if s.id = id then do
      note (.logged ⟨.warn, "Disconnected from " ++ s.endpoint.display ++ " after " ++
        Text.decimal s.bytes ++ " bytes"⟩)
      closeSession s closing
      return { m with session := none }
    else pure m
  | none => pure m

def shutdown (m : Monitor) (closing : Closing) : Noted MonitorNote Monitor :=
  match m.session with
  | some s => do
    note (.logged ⟨.info, "Closing " ++ s.endpoint.display⟩)
    closeSession s closing
    return { m with session := none }
  | none => pure m

end Monitor

end LinkWatch
