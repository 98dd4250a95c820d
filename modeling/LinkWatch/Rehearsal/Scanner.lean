import LinkWatch.Scanner

/-! # Rehearsals of the scanner

A rehearsal gives the scanner scripted answers, listeners with scripted manners and a rest that
lasts until it is told to end, and runs the worker as far as it goes after each cue. -/

namespace LinkWatch.Rehearsal

/-! ## The stage -/

/-- What a listener does when it is called, besides taking note. -/
inductive Manner where
  | plain
  | crashes
  | crashesOnce
  | enlistsOnce
  | stops
  deriving DecidableEq, Repr

/-- A listener with the number of its calls so far. -/
structure Part where
  manner : Manner
  calls : Nat := 0
  deriving DecidableEq, Repr

structure Stage where
  scanner : Scanner
  answers : Answers := {}
  /-- Listener `i` plays part `i`. -/
  parts : List Part := []
  /-- Whether some cue has asked the worker to end, so that it may be waited for. -/
  ending : Bool := false
  dropped : Bool := false
  deriving DecidableEq, Repr

namespace Stage

def new (settings : ScanSettings) (answers : Answers) : Stage :=
  { scanner := .new settings, answers := answers }

def crashesNow (st : Stage) (l : Listener) : Bool :=
  match st.parts[l]? with
  | some p =>
    match p.manner with
    | .crashes => true
    | .crashesOnce => p.calls = 0
    | _ => false
  | none => false

def act (st : Stage) (a : Scanner.Action) : Noted Scanner.Note Stage :=
  match st.scanner.step a with
  | some x => ⟨{ st with scanner := x.value }, x.notes⟩
  | none => pure st

def enlist (st : Stage) (manner : Manner) : Noted Scanner.Note Stage := do
  let st ← st.act (.enlist st.parts.length)
  return { st with parts := st.parts ++ [⟨manner, 0⟩] }

/-- What the listener does during its call. -/
def respond (st : Stage) (l : Listener) : Noted Scanner.Note Stage :=
  match st.parts[l]? with
  | some p =>
    let st := { st with parts := st.parts.set l { p with calls := p.calls + 1 } }
    match p.manner with
    | .enlistsOnce => if p.calls = 0 then st.enlist .plain else pure st
    | .stops => st.act .cancel
    | _ => pure st
  | none => pure st

def nextAction? (st : Stage) : Option Scanner.Action :=
  match st.scanner.worker with
  | .top _ => some .look
  | .surveying _ => some (.survey st.answers)
  | .copying _ => some .copy
  | .calling _ (l :: _) => some (.call (st.crashesNow l))
  | .calling _ [] | .finishing => some .rest
  | _ => none

def called? (st : Stage) : Option Listener :=
  match st.scanner.worker with
  | .calling _ (l :: _) => some l
  | _ => none

/-- Runs the worker until it rests or has ended, at most `steps` steps. -/
def drive : (steps : Nat) → Stage → Noted Scanner.Note Stage
  | 0, st => pure st
  | n + 1, st =>
    match st.nextAction? with
    | none => pure st
    | some a => do
      let next ← st.act a
      let next ← match st.called? with
        | some l => next.respond l
        | none => pure next
      drive n next

/-- Runs the worker through one cycle: four steps besides the calls, and the look that ends it. -/
def cycle (st : Stage) : Noted Scanner.Note Stage := drive (st.scanner.listeners.length + 5) st

def release (st : Stage) (how : Scanner.Waking) : Noted Scanner.Note Stage := do
  let st ← st.act (.wake how)
  st.cycle

/-- Cancels the worker, and ends its rest. -/
def finish (st : Stage) : Noted Scanner.Note Stage := do
  let st ← st.act .cancel
  st.release .rested

def join (st : Stage) : Noted Scanner.Note Stage := do
  let st ← st.act .takeHandle
  st.act .joined

end Stage

/-! ## Cues -/

inductive Cue where
  | answer (change : Answers → Answers)
  | register (manner : Manner)
  | release (how : Scanner.Waking)
  | stop
  | join
  | shutdown
  | drop

inductive Result where
  | ok
  | slept
  | exited
  | notRunning
  | wouldBlock
  | dropped
  deriving DecidableEq, Repr

/-- How the worker is found after a cue that let it run. -/
def Stage.outcome (st : Stage) : Result := if st.scanner.worker.alive then .slept else .exited

def Stage.follow (st : Stage) (cue : Cue) : Noted Scanner.Note (Result × Stage) :=
  if st.dropped then pure (.dropped, st)
  else
    match cue with
    | .answer change => pure (.ok, { st with answers := change st.answers })
    | .register manner => do
      let st ← st.enlist manner
      if st.scanner.starting = 0 then return (.ok, st)
      let st ← st.act (.start true)
      let st ← st.cycle
      return (st.outcome, st)
    | .release how =>
      if st.scanner.worker.alive then do
        let st ← st.release how
        return (st.outcome, st)
      else pure (.notRunning, st)
    | .stop => do
      let st ← st.act .cancel
      return (.ok, { st with ending := true })
    | .join =>
      if st.scanner.worker.alive && !st.ending then pure (.wouldBlock, st)
      else do
        let st ← if st.scanner.worker.alive then st.finish else pure st
        let st ← st.join
        return (.ok, { st with ending := true })
    | .shutdown => do
      let st ← st.finish
      let st ← st.join
      return (.ok, { st with ending := true })
    | .drop => do
      let st ← st.finish
      return (.exited, { st with dropped := true })

end LinkWatch.Rehearsal
