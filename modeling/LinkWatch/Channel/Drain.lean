import LinkWatch.Channel.Serial
import LinkWatch.Intake

/-! # Draining a serial channel -/

namespace LinkWatch

/-- What can be seen of a channel and the intake that drains it. -/
inductive DrainNote where
  | called (call : DeviceCall)
  | intake (note : IntakeNote)
  deriving DecidableEq, Repr

def DrainNote.call? : DrainNote → Option DeviceCall
  | .called call => some call
  | .intake _ => none

def DrainNote.intake? : DrainNote → Option IntakeNote
  | .called _ => none
  | .intake n => some n

namespace SerialChannel

/-- Lets an intake read the channel until it has ended or the device is silent, at most `steps`
times. -/
def drainFor : (steps : Nat) → SerialChannel → Intake → Noted DrainNote (Intake × SerialChannel)
  | 0, c, i => pure (i, c)
  | n + 1, c, i =>
    if i.ended.isSome then pure (i, c)
    else do
      let (reading, c) ← (c.read i.buffer.capacity).mapNotes .called
      match reading with
      | none => return (i, c)
      | some r => do
        let i ← (i.take r).mapNotes .intake
        drainFor n c i

/-- Drains the channel. Each reading uses up what the device does for one read, but for those that
find the channel closed, which end the intake, or the device silent. -/
def drain (c : SerialChannel) (i : Intake) : Noted DrainNote (Intake × SerialChannel) :=
  drainFor (c.feeds.length + 1) c i

end SerialChannel

end LinkWatch
