import LinkWatch.Monitor
import LinkWatch.Scanner

/-! # The watch: scanner, intakes and monitor around one queue

The first listener of the scanner and the intakes of all sessions put events into one queue, from
which the monitor takes them in their order. The scanner and the intakes act at any time, also
while the monitor handles an event. -/

namespace LinkWatch

/-! ## States -/

inductive Event where
  | hardware (found : Inventory)
  | data (id : SessionId) (bytes : List UInt8)
  | disconnected (id : SessionId)
  deriving DecidableEq, Repr

structure Watch where
  scanner : Scanner
  monitor : Monitor
  /-- The events to handle, the oldest first. -/
  queue : List Event := []
  /-- The intakes of all sessions so far, the last session first. -/
  intakes : List (SessionId × Intake) := []
  /-- Whether the monitor has stopped taking events. -/
  stopped : Bool := false
  deriving DecidableEq, Repr

inductive WatchNote where
  | scanner (note : Scanner.Note)
  | intake (id : SessionId) (note : IntakeNote)
  | monitor (note : MonitorNote)
  | handled (event : Event)
  deriving DecidableEq, Repr

namespace Watch

/-- The listener that puts inventories into the queue. -/
def listener : Listener := 0

def new (settings : Settings) (target : Option Endpoint) : Watch :=
  { scanner := .new settings.scan, monitor := .new settings target }

/-! ## What the parts put into the queue -/

def scannerEvent? : Scanner.Note → Option Event
  | .called l found => if l = listener then some (.hardware found) else none
  | _ => none

def intakeEvent? (id : SessionId) : IntakeNote → Option Event
  | .chunk bytes => some (.data id bytes)
  | .disconnected => some (.disconnected id)
  | _ => none

def scan (w : Watch) (action : Scanner.Action) : Option (Noted WatchNote Watch) :=
  (w.scanner.step action).map fun x =>
    ⟨{ w with scanner := x.value, queue := w.queue ++ x.notes.filterMap scannerEvent? },
      x.notes.map .scanner⟩

def intake? (w : Watch) (id : SessionId) : Option Intake := w.intakes.lookup id

/-- Puts an intake in place of the one of the same session. -/
def putIntake (w : Watch) (id : SessionId) (i : Intake) : Watch :=
  { w with intakes := w.intakes.map fun p => if p.1 = id then (id, i) else p }

/-- Lets the intake of a session take a reading, if it has not ended. -/
def read (w : Watch) (id : SessionId) (reading : Reading) : Option (Noted WatchNote Watch) :=
  match w.intake? id with
  | some i =>
    if i.ended.isSome then none
    else
      let x := i.take reading
      let next := w.putIntake id x.value
      some ⟨{ next with queue := next.queue ++ x.notes.filterMap (intakeEvent? id) },
        x.notes.map (.intake id)⟩
  | none => none

/-! ## What the monitor does -/

/-- The same watch with the monitor as it is now. A new session comes with an intake. -/
def withMonitor (w : Watch) (m : Monitor) : Noted WatchNote Watch :=
  match w.monitor.session, m.session with
  | none, some s => do
    let i ← (Intake.start m.settings.drain {}).mapNotes (.intake s.id)
    return { w with monitor := m, intakes := (s.id, i) :: w.intakes }
  | _, _ => pure { w with monitor := m }

/-- Connects where that is possible. An error is logged, and forgotten. -/
def connect (w : Watch) (attempt : Attempt) : Noted WatchNote Watch := do
  let (result, m) ← (w.monitor.connect attempt).mapNotes .monitor
  match result with
  | .error e => note (.monitor (.logged ⟨.warn, e.message⟩))
  | .ok () => pure ()
  w.withMonitor m

def handle (w : Watch) (attempt : Attempt) (closing : Closing) :
    Event → Noted WatchNote Watch
  | .hardware found => do
    let m ← (w.monitor.hardware found).mapNotes .monitor
    { w with monitor := m }.connect attempt
  | .data id bytes => do
    let m ← (w.monitor.data id bytes).mapNotes .monitor
    return { w with monitor := m }
  | .disconnected id => do
    let m ← (w.monitor.disconnected id closing).mapNotes .monitor
    { w with monitor := m }.connect attempt

/-- Stops taking events and ends the session. -/
def finish (w : Watch) (closing : Closing) : Noted WatchNote Watch := do
  note (.monitor (.logged ⟨.info, "Shutting down"⟩))
  let m ← (w.monitor.shutdown closing).mapNotes .monitor
  return { w with monitor := m, stopped := true }

/-! ## Steps -/

inductive Action where
  | scan (action : Scanner.Action)
  | read (id : SessionId) (reading : Reading)
  /-- The monitor tries again to connect, as it does from time to time. -/
  | retry (attempt : Attempt)
  /-- The monitor takes the oldest event. -/
  | take (attempt : Attempt) (closing : Closing)
  | finish (closing : Closing)

/-- One action, where it is possible. -/
def step (w : Watch) : Action → Option (Noted WatchNote Watch)
  | .scan action => w.scan action
  | .read id reading => w.read id reading
  | .retry attempt => if w.stopped then none else some (w.connect attempt)
  | .take attempt closing =>
    match w.stopped, w.queue with
    | false, event :: rest => some do
      note (.handled event)
      { w with queue := rest }.handle attempt closing event
    | _, _ => none
  | .finish closing => if w.stopped then none else some (w.finish closing)

/-- A sequence of actions, each possible in its turn. -/
def run (w : Watch) (actions : List Action) : Option (Noted WatchNote Watch) :=
  runWith step w actions

end Watch

end LinkWatch
