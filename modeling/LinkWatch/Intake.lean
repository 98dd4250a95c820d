import LinkWatch.Log
import LinkWatch.Settings
import LinkWatch.Source

/-! # Intakes: draining a byte source

An intake reads its source into one buffer again and again and hands on what each reading brought.
It ends when the source ends or fails or when the consumer crashes, and reports the end once. One
whose buffer cannot be made crashes before it reads anything, and does not report. -/

namespace LinkWatch

/-! ## The consumer -/

/-- Where the consumer crashes: at one of its chunks, counted from zero, or at the report. -/
structure Consumer where
  crashesAt : Option Nat := none
  crashesAtEnd : Bool := false
  deriving DecidableEq, Repr

/-! ## States -/

inductive IntakeEnd where
  | orderly
  | crashed
  deriving DecidableEq, Repr

structure Intake where
  buffer : Buffer
  consumer : Consumer := {}
  handed : Nat := 0
  ended : Option IntakeEnd := none
  deriving DecidableEq, Repr

inductive IntakeNote where
  | asked (room : Nat)
  | chunk (bytes : List UInt8)
  | disconnected
  | logged (record : Record)
  deriving DecidableEq, Repr

/-- The room for one reading: never none, because a reading into no room looks like the end. -/
def DrainSettings.capacity (settings : DrainSettings) : Nat := max 1 settings.bufferSize.toNat

/-- The most bytes that a buffer can hold, half of what can be addressed. -/
def largestBuffer : Nat := 0x7fffffffffffffff

def DrainSettings.describe (settings : DrainSettings) : String :=
  "StreamReader \x7b buffer_size: " ++ Text.decimal settings.capacity ++ " \x7d"

namespace Intake

/-- An intake that has not read anything yet. Without a buffer it has crashed already. -/
def new (settings : DrainSettings) (consumer : Consumer) : Intake :=
  { buffer := .blank settings.capacity
    consumer := consumer
    ended := if settings.capacity ≤ largestBuffer then none else some .crashed }

/-! ## Steps -/

def start (settings : DrainSettings) (consumer : Consumer) : Noted IntakeNote Intake := do
  note (.logged ⟨.info, "Running stream reader loop"⟩)
  return new settings consumer

def report (i : Intake) : Noted IntakeNote Intake := do
  note .disconnected
  return { i with ended := some (if i.consumer.crashesAtEnd then .crashed else .orderly) }

def endOf (i : Intake) (why : String) : Noted IntakeNote Intake := do
  note (.logged ⟨.warn, "End of connection: " ++ why⟩)
  i.report

/-- Hands a chunk to the consumer, and ends if it crashes. -/
def hand (i : Intake) (bytes : List UInt8) : Noted IntakeNote Intake := do
  note (.chunk bytes)
  let next := { i with handed := i.handed + 1 }
  if i.consumer.crashesAt = some i.handed then do
    note (.logged ⟨.error, "Data listener panicked, dropping connection"⟩)
    next.report
  else return next

/-- Takes one reading. An interrupted one is as if it had not been made. -/
def take (i : Intake) (reading : Reading) : Noted IntakeNote Intake := do
  note (.asked i.buffer.capacity)
  match reading with
  | .crashed => return { i with ended := some .crashed }
  | .failed failure =>
    if failure.kind = .interrupted then return i else i.endOf failure.text
  | .got written claim =>
    let next := { i with buffer := i.buffer.write written }
    match reported i.buffer.capacity written claim with
    | 0 => next.endOf "end of input"
    | count => next.hand (next.buffer.first count)

/-- Takes readings until the intake has ended. -/
def drain (i : Intake) : List Reading → Noted IntakeNote Intake
  | [] => pure i
  | r :: rs =>
    if i.ended.isSome then pure i
    else do
      let next ← i.take r
      next.drain rs

end Intake

def intake (settings : DrainSettings) (consumer : Consumer) (readings : List Reading) :
    Noted IntakeNote Intake := do
  let i ← Intake.start settings consumer
  i.drain readings

end LinkWatch
