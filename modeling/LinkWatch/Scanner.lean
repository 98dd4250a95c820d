import LinkWatch.Run
import LinkWatch.Survey

/-! # The scanner: one worker that takes inventories and tells listeners about changes

The worker and the callers take turns in any order. Each action below is one indivisible step of
one of them: the worker replaces the held inventory, copies the list of listeners and calls each of
the copy in separate steps, and a caller enlists a listener and starts the worker in separate steps.
-/

namespace LinkWatch

/-! ## States -/

/-- Listeners are told apart by numbers. -/
abbrev Listener := Nat

inductive Ending where
  | stopped
  | interrupted
  | crashed
  deriving DecidableEq, Repr

/-- Where the worker is. Its first survey is a quick one, all later ones are full. -/
inductive Worker where
  | absent
  /-- It is about to look whether it has been cancelled. -/
  | top (full : Bool)
  /-- It is about to take an inventory and hold it. -/
  | surveying (full : Bool)
  /-- It holds a changed inventory and is about to copy the list of listeners. -/
  | copying (found : Inventory)
  /-- It is calling the listeners of its copy, of which these are left. -/
  | calling (found : Inventory) (left : List Listener)
  /-- It is about to rest. -/
  | finishing
  | resting
  | ended (ending : Ending)
  deriving DecidableEq, Repr

def Worker.alive : Worker → Bool
  | .absent | .ended _ => false
  | _ => true

structure Scanner where
  settings : ScanSettings
  held : Inventory := .empty
  /-- In the order of registration. -/
  listeners : List Listener := []
  cancelled : Bool := false
  worker : Worker := .absent
  /-- Whether the handle of the worker is there to be waited on. -/
  handle : Bool := false
  /-- The callers that have enlisted the first listener and are about to start the worker. -/
  starting : Nat := 0
  /-- The callers that have taken the handle and wait for the worker to end. -/
  waiting : Nat := 0
  deriving DecidableEq, Repr

namespace Scanner

def new (settings : ScanSettings) : Scanner := { settings := settings }

def running (s : Scanner) : Bool := s.handle && s.worker.alive

/-! ## Actions -/

/-- How a rest ended. -/
inductive Waking where
  | rested
  | interrupted
  | crashed
  deriving DecidableEq, Repr

inductive Action where
  /-- A caller adds a listener, and has to start the worker if it is the first. -/
  | enlist (l : Listener)
  /-- A caller starts the worker, where the system may refuse a new thread. -/
  | start (spawns : Bool)
  | cancel
  | takeHandle
  /-- A waiting caller learns that the worker has ended. -/
  | joined
  | look
  | survey (answers : Answers)
  | copy
  /-- The worker calls the next listener, which may crash. -/
  | call (crashes : Bool)
  | rest
  | wake (how : Waking)
  deriving DecidableEq, Repr

inductive Note where
  | enlisted (l : Listener)
  | spawned
  | spawnRefused
  | began (full : Bool)
  | surveyed (note : SurveyNote)
  | held (found : Inventory)
  | copied (listeners : List Listener)
  | called (l : Listener) (found : Inventory)
  | rests (millis : UInt64)
  | ended (ending : Ending)
  | logged (record : Record)
  deriving DecidableEq, Repr

/-- The number of milliseconds between two surveys. -/
def interval (s : Scanner) : UInt64 := s.settings.pollMillis

/-- Takes an inventory and puts it in place of the held one. -/
def takeInventory (s : Scanner) (full : Bool) (answers : Answers) : Noted Note Scanner := do
  let found ← (LinkWatch.survey s.settings full answers).mapNotes .surveyed
  note (.held found)
  if found = s.held then return { s with worker := .finishing }
  note (.logged ⟨.debug, "Hardware changed: " ++ found.describe⟩)
  return { s with held := found, worker := .copying found }

def endWorker (s : Scanner) (ending : Ending) : Noted Note Scanner := do
  note (.ended ending)
  return { s with worker := .ended ending }

/-- Starts the worker unless its handle is there already. -/
def startWorker (s : Scanner) (spawns : Bool) : Noted Note Scanner := do
  let s := { s with starting := s.starting - 1 }
  if s.handle then return s
  if !spawns then
    note .spawnRefused
    return s
  note .spawned
  note (.logged ⟨.info, "Ports scanner started"⟩)
  return { s with worker := .top false, handle := true }

/-- One action, where it is possible. -/
def step (s : Scanner) : Action → Option (Noted Note Scanner)
  | .enlist l => some do
    note (.enlisted l)
    let first := if s.listeners.isEmpty then 1 else 0
    return { s with listeners := s.listeners ++ [l], starting := s.starting + first }
  | .start spawns => if s.starting = 0 then none else some (s.startWorker spawns)
  | .cancel => some (pure { s with cancelled := true })
  | .takeHandle =>
    if s.handle then some (pure { s with handle := false, waiting := s.waiting + 1 })
    else some (pure s)
  | .joined =>
    match s.waiting, s.worker with
    | n + 1, .ended ending => some do
      if ending = .crashed then note (.logged ⟨.error, "Ports scanner thread panicked"⟩)
      return { s with waiting := n }
    | _, _ => none
  | .look =>
    match s.worker with
    | .top full =>
      if s.cancelled then some do
        note (.logged ⟨.info, "Ports scanner stopped"⟩)
        s.endWorker .stopped
      else some do
        note (.began full)
        return { s with worker := .surveying full }
    | _ => none
  | .survey answers =>
    match s.worker with
    | .surveying full => some (s.takeInventory full answers)
    | _ => none
  | .copy =>
    match s.worker with
    | .copying found => some do
      note (.copied s.listeners)
      return { s with worker := .calling found s.listeners }
    | _ => none
  | .call crashes =>
    match s.worker with
    | .calling found (l :: left) => some do
      note (.called l found)
      if crashes then note (.logged ⟨.error, "Hardware listener panicked"⟩)
      return { s with worker := .calling found left }
    | _ => none
  | .rest =>
    match s.worker with
    | .calling _ [] | .finishing => some do
      note (.rests s.interval)
      return { s with worker := .resting }
    | _ => none
  | .wake how =>
    match s.worker, how with
    | .resting, .rested => some (pure { s with worker := .top true })
    | .resting, .interrupted => some do
      note (.logged ⟨.warn, "Ports scanner exiting: Scanner sleep interrupted"⟩)
      s.endWorker .interrupted
    | .resting, .crashed => some (s.endWorker .crashed)
    | _, _ => none

/-- A sequence of actions, each possible in its turn. -/
def run (s : Scanner) (actions : List Action) : Option (Noted Note Scanner) :=
  runWith step s actions

/-! ## Registrations -/

/-- Why a registration fails. -/
inductive RegisterError where
  /-- The system has refused a thread for the worker. -/
  | spawn (failure : IoFailure)
  deriving DecidableEq, Repr

def RegisterError.message : RegisterError → String
  | .spawn failure => "Failed to start scanner thread: " ++ failure.text

/-- A registration from its beginning to its end, with what the caller is told. The system is asked
for a thread if there was no listener yet, and answers `thread`. -/
def register (s : Scanner) (l : Listener) (thread : Except IoFailure Unit) :
    Noted Note (Except RegisterError Unit × Scanner) := do
  note (.enlisted l)
  let enlisted := { s with listeners := s.listeners ++ [l] }
  if !s.listeners.isEmpty then return (.ok (), enlisted)
  let started ← startWorker { enlisted with starting := s.starting + 1 } thread.isOk
  return (if s.handle then .ok () else thread.mapError .spawn, started)

end Scanner

end LinkWatch
