import LinkWatch.Inventory
import LinkWatch.Log
import LinkWatch.Probe
import LinkWatch.Settings

/-! # Surveys: asking the probes and taking the inventory

The serial probe is always asked. The others are asked in a full survey only; a quick one takes
their answers for empty. A probe that fails counts as having found nothing. -/

namespace LinkWatch

/-! ## Asking -/

inductive SurveyNote where
  | asked (probe : Probe)
  | logged (record : Record)
  deriving DecidableEq, Repr

/-- Takes the answer, or `nothing` with a record of what went wrong. -/
def Outcome.orNothing {α : Type} (probe : Probe) (nothing : α) : Outcome α → Logged α
  | .found a => pure a
  | .failed e => do
    log .debug (probe.title ++ " probe failed, treating as not detected: " ++ e.message)
    return nothing
  | .crashed => do
    log .warn (probe.title ++ " probe panicked, treating as not detected")
    return nothing

def ask {α : Type} (probe : Probe) (nothing : α) (outcome : Outcome α) :
    Noted SurveyNote α := do
  note (.asked probe)
  (outcome.orNothing probe nothing).mapNotes .logged

/-! ## Taking the inventory -/

/-- What a survey learns from the probes that only a full one asks. -/
structure Extras where
  simulators : List String := []
  dfu : Bool := false
  stLink : Bool := false
  canAdapter : Bool := false
  deriving DecidableEq, Repr

def askExtras (answers : Answers) : Noted SurveyNote Extras := do
  let simulators ← ask .simulator [] answers.simulator
  let dfu ← ask .dfu false answers.dfu
  let stLink ← ask .stLink false answers.stLink
  let canAdapter ← ask .canAdapter false answers.canAdapter
  return ⟨simulators, dfu, stLink, canAdapter⟩

/-- Lists the auto-detection marker if there is a serial device, the devices, the simulators, and
the CAN identifiers. -/
def listing (settings : ScanSettings) (devices : List String) (extras : Extras) : List String :=
  (if devices.isEmpty then [] else [autoSerialId]) ++ devices ++ extras.simulators ++
    (if extras.canAdapter then [pcanId] else []) ++
    (if settings.showSocketCan then [socketCanId] else [])

def survey (settings : ScanSettings) (full : Bool) (answers : Answers) :
    Noted SurveyNote Inventory := do
  let found ← ask .serial [] answers.serial
  let devices := Exclusion.keep settings.exclusions found
  let extras ← if full then askExtras answers else pure {}
  return ⟨listing settings devices extras, extras.dfu, extras.stLink, extras.canAdapter⟩

def SurveyNote.probe? : SurveyNote → Option Probe
  | .asked probe => some probe
  | .logged _ => none

def SurveyNote.record? : SurveyNote → Option Record
  | .asked _ => none
  | .logged record => some record

end LinkWatch
