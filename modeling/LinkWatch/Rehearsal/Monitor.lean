import LinkWatch.Rehearsal.Wire
import LinkWatch.Watch

/-! # Rehearsals of the monitor

The events of a rehearsal reach the monitor at once. Only what an intake puts into the queue is
taken from there, after each cue. -/

namespace LinkWatch.Rehearsal

structure Scene where
  watch : Watch
  host : Host
  wire : Option Wire := none

inductive SceneCue where
  | hardware (found : Inventory)
  | change (host : Host → Host)
  | connect
  | data (id : SessionId) (bytes : List UInt8)
  | disconnected (id : SessionId)
  | send (bytes : List UInt8)
  | hangUp (abruptly : Bool)
  | shutdown

inductive SceneResult where
  | ok
  | connected (id : SessionId)
  | refused (error : ConnectError)
  | delivered (bytes : List UInt8)
  | disconnected (id : SessionId)
  | noPeer
  deriving DecidableEq, Repr

namespace Scene

def new (settings : Settings) (target : Option Endpoint) (host : Host) : Scene :=
  { watch := .new settings target, host := host }

def monitor (s : Scene) : Monitor := s.watch.monitor

def withMonitor (s : Scene) (m : Monitor) : Scene :=
  { s with watch := (s.watch.withMonitor m).value }

/-! ## Connecting -/

/-- The scene after a session began: the link is on the wire. -/
def onWire (s : Scene) (endpoint : Endpoint) : Scene :=
  match (s.host.open s.monitor.settings.opening endpoint).value with
  | .ok link => { s with wire := some (.ofLink link), host := afterOpening link s.host }
  | .error _ => s

def connect (s : Scene) : Noted MonitorNote (SceneResult × Scene) := do
  let (result, m) ← s.monitor.connect { host := s.host }
  match result, s.monitor.session, m.session with
  | .error e, _, _ => return (.refused e, s.withMonitor m)
  | .ok (), none, some session =>
    return (.connected session.id, (s.onWire session.endpoint).withMonitor m)
  | .ok (), _, _ => return (.ok, s.withMonitor m)

/-! ## The intake -/

/-- Lets the intake of a session read until there is nothing to read, at most `steps` times. -/
def pump (id : SessionId) : (steps : Nat) → Scene → Scene
  | 0, s => s
  | n + 1, s =>
    match s.wire, s.watch.intake? id with
    | some wire, some i =>
      match wire.read i.buffer.capacity with
      | (none, _) => s
      | (some reading, wire) =>
        match s.watch.read id reading with
        | some x => pump id n { s with watch := x.value, wire := some wire }
        | none => s
    | _, _ => s

/-- How closing the session goes. An intake that has not ended yet ends in order then. -/
def closing (s : Scene) : Closing :=
  let i := s.monitor.session.bind fun session => s.watch.intake? session.id
  { intake := (i.bind Intake.ended).getD .orderly }

def disconnect (s : Scene) (id : SessionId) : Noted MonitorNote Scene := do
  return s.withMonitor (← s.monitor.disconnected id s.closing)

def handle (s : Scene) : Event → Noted MonitorNote Scene
  | .data id bytes => do return s.withMonitor (← s.monitor.data id bytes)
  | .disconnected id => s.disconnect id
  | .hardware found => do return s.withMonitor (← s.monitor.hardware found)

def handleAll : List Event → Scene → Noted MonitorNote Scene
  | [], s => pure s
  | e :: es, s => do
    let s ← s.handle e
    handleAll es s

/-- Empties the queue into the monitor: the events it held. -/
def flush (s : Scene) : Noted MonitorNote (List Event × Scene) := do
  let events := s.watch.queue
  let s ← handleAll events { s with watch := { s.watch with queue := [] } }
  return (events, s)

def bytesOf : Event → List UInt8
  | .data _ bytes => bytes
  | _ => []

/-! ## Cues -/

def send (s : Scene) (session : Session) (wire : Wire) (bytes : List UInt8) :
    Noted MonitorNote (SceneResult × Scene) := do
  let s := pump session.id (bytes.length + 1) { s with wire := some (wire.receive bytes) }
  let (events, s) ← s.flush
  return (.delivered (events.flatMap bytesOf), s)

def hangUp (s : Scene) (session : Session) (wire : Wire) (abruptly : Bool) :
    Noted MonitorNote (SceneResult × Scene) := do
  let s := pump session.id 2 { s with wire := some (wire.hangUp abruptly) }
  let (_, s) ← s.flush
  return (.disconnected session.id, s)

def perform (s : Scene) : SceneCue → Noted MonitorNote (SceneResult × Scene)
  | .hardware found => do return (.ok, s.withMonitor (← s.monitor.hardware found))
  | .change f => pure (.ok, { s with host := f s.host })
  | .connect => s.connect
  | .data id bytes => do return (.ok, s.withMonitor (← s.monitor.data id bytes))
  | .disconnected id => do return (.ok, ← s.disconnect id)
  | .send bytes =>
    match s.monitor.session, s.wire with
    | some session, some wire => s.send session wire bytes
    | _, _ => pure (.noPeer, s)
  | .hangUp abruptly =>
    match s.monitor.session, s.wire with
    | some session, some wire => s.hangUp session wire abruptly
    | _, _ => pure (.noPeer, s)
  | .shutdown => do return (.ok, s.withMonitor (← s.monitor.shutdown s.closing))

/-- Closes the wire of a session that has ended, lets its intake notice, and handles what that left
in the queue. -/
def settle (s : Scene) (before : Option Session) : Noted MonitorNote (List Event × Scene) :=
  match s.monitor.session, before, s.wire with
  | none, some session, some wire => do
    let s := pump session.id 1 { s with wire := some wire.close.2 }
    let (events, s) ← s.flush
    return (events, { s with wire := none })
  | _, _, _ => pure ([], s)

/-- Follows a cue: its result, what was still in the queue, and the scene. -/
def follow (s : Scene) (cue : SceneCue) :
    Noted MonitorNote (SceneResult × List Event × Scene) := do
  let (result, next) ← s.perform cue
  let (queued, last) ← next.settle s.monitor.session
  return (result, queued, last)

end Scene

end LinkWatch.Rehearsal
