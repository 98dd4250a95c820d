import LinkWatch.Channel.Drain
import LinkWatch.Channel.Handles

/-! # Rehearsals of byte sources and serial channels

A scripted source does what its script says, and fails after that. The handles of a scripted
channel are numbered from zero, and a script may close the channel through a handle made for that
purpose. -/

namespace LinkWatch.Rehearsal

/-- What a source says after its script. -/
def endOfScript : IoFailure := ⟨.other, "end of script"⟩

def intakeOf (settings : DrainSettings) (consumer : Consumer) (script : List Reading) :
    Noted IntakeNote Intake :=
  intake settings consumer (script ++ [.failed endOfScript])

/-! ## Channels -/

structure SerialStage where
  name : Option String := none
  /-- The channel as it was at the beginning, when it had one handle. -/
  channel : SerialChannel
  handles : SerialHandles := .of channel
  /-- Whether each handle is still there. -/
  there : List Bool := [true]
  /-- Whether the script can close the channel. -/
  armed : Bool := false
  deriving DecidableEq, Repr

inductive SerialCue where
  | name
  | read (room : Nat)
  | write (bytes : List UInt8)
  | writeAll (bytes : List UInt8)
  | flush
  | close
  | clone
  | arm
  | drop
  | drain (settings : DrainSettings) (consumer : Consumer)
  deriving DecidableEq, Repr

inductive SerialResult where
  | noHandle
  | name (name : Option String)
  | noName
  /-- The count that was reported and the bytes that it covers. -/
  | read (count : Nat) (bytes : List UInt8)
  | wrote (count : Nat)
  | done
  | handle (number : Nat)
  | failed (failure : IoFailure)
  | crashed
  | drained (settings : DrainSettings) (outcome : Option IntakeEnd)
  deriving DecidableEq, Repr

namespace SerialStage

/-- Keeps the closings of a script only if it is armed. -/
def effective (armed : Bool) (f : Feed) : Feed := { f with closing := f.closing && armed }

/-- The handles, with the closings of their scripts as they are effective now. -/
def current (st : SerialStage) : SerialHandles :=
  { st.handles with
    ports := st.handles.ports.map fun p => { p with feeds := p.feeds.map (effective st.armed) } }

/-- The stage after its channel has been read: as much of the script is left as of the channel. -/
def used (st : SerialStage) (h : SerialHandle) (after : SerialChannel) : SerialStage :=
  let feeds := (st.handles.port h).feeds
  let left := feeds.drop (feeds.length - after.feeds.length)
  { st with handles := st.handles.used h { after with feeds := left } }

/-- Drains the channel up to the end of its script. -/
def drain (st : SerialStage) (h : SerialHandle) (settings : DrainSettings) (consumer : Consumer) :
    Noted DrainNote (Intake × SerialStage) := do
  let i ← (Intake.start settings consumer).mapNotes .intake
  let (i, after) ← (st.current.channel h).drain i
  if i.ended.isSome then return (i, st.used h after)
  let i ← (i.take (.failed endOfScript)).mapNotes .intake
  return (i, st.used h after)

def readResult (room : Nat) : Reading → SerialResult
  | .crashed => .crashed
  | .failed failure => .failed failure
  | .got written claim =>
    let count := reported room written claim
    .read count (((Buffer.blank room).write written).first count)

/-- The result of a use. A silent device has come to the end of its script. -/
def resultOf (room : Nat) : HandleAnswer → SerialResult
  | .read reading => readResult room (reading.getD (.failed endOfScript))
  | .wrote (.ok count) => .wrote count
  | .done (.ok ()) => .done
  | .wrote (.error failure) | .done (.error failure) => .failed failure

/-- Uses a handle, and keeps what becomes of all of them. -/
def act (st : SerialStage) (h : SerialHandle) (use : HandleUse) :
    Noted DrainNote (SerialResult × SerialStage) := do
  let (answer, handles) ← (st.handles.act h use).mapNotes .called
  return (resultOf 0 answer, { st with handles := handles })

/-- Follows a cue on a handle that is there, by its number. -/
def perform (st : SerialStage) (number : Nat) (h : SerialHandle) :
    SerialCue → Noted DrainNote (SerialResult × SerialStage)
  | .name => pure (if number = 0 then .name st.name else .noName, st)
  | .read room => do
    let (answer, after) ← (st.current.act h (.read room)).mapNotes .called
    return (resultOf room answer, st.used h (after.channel h))
  | .write bytes => st.act h (.write bytes)
  | .writeAll bytes => do
    let (result, after) ← ((st.handles.channel h).writeAll bytes).mapNotes .called
    return (resultOf 0 (.done result), { st with handles := st.handles.used h after })
  | .flush => st.act h .flush
  | .close => st.act h .close
  | .clone => do
    match ← st.act h (.clone none) with
    | (.done, st) => return (.handle st.there.length, { st with there := st.there ++ [true] })
    | (result, st) => return (result, st)
  | .arm => do
    match ← (st.handles.clone h none).mapNotes .called with
    | (.error failure, _) => return (.failed failure, st)
    | (.ok (), _) => return (.done, { st with armed := true })
  | .drop => pure (.done, { st with there := st.there.set number false })
  | .drain settings consumer => do
    let (i, st) ← st.drain h settings consumer
    return (.drained settings i.ended, { st with there := st.there.set number false })

/-- Follows a cue on any handle. -/
def follow (st : SerialStage) (number : Nat) (cue : SerialCue) :
    Noted DrainNote (SerialResult × SerialStage) :=
  match st.there.getD number false, st.handles.handles[number]? with
  | true, some h => st.perform number h cue
  | _, _ => pure (.noHandle, st)

end SerialStage

end LinkWatch.Rehearsal
