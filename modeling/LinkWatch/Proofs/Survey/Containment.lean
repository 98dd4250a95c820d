import LinkWatch.Proofs.Survey.Listing
import Mathlib.Data.List.Basic

/-! # What a survey asks, and what becomes of a probe that fails -/

namespace LinkWatch

/-! ## One probe -/

/-- What is logged about a probe that has not answered. -/
def Outcome.complaint? {α : Type} (probe : Probe) : Outcome α → Option Record
  | .found _ => none
  | .failed e =>
    some ⟨.debug, probe.title ++ " probe failed, treating as not detected: " ++ e.message⟩
  | .crashed => some ⟨.warn, probe.title ++ " probe panicked, treating as not detected"⟩

theorem ask_notes {α : Type} (probe : Probe) (nothing : α) (outcome : Outcome α) :
    (ask probe nothing outcome).notes =
      .asked probe :: (outcome.complaint? probe).toList.map .logged := by
  cases outcome with
  | found | failed | crashed => rfl

theorem Outcome.taken_eq_true {outcome : Outcome Bool} :
    outcome.taken false = true ↔ outcome = .found true := by
  cases outcome with
  | found a => simp [taken]
  | failed | crashed => simp [taken]

/-! ## All probes -/

/-- The probes of one cycle. -/
def Scanner.probes (full : Bool) : List Probe :=
  if full then [.serial, .simulator, .dfu, .stLink, .canAdapter] else [.serial]

namespace Answers

def complaint? (answers : Answers) : Probe → Option Record
  | .serial => answers.serial.complaint? .serial
  | .simulator => answers.simulator.complaint? .simulator
  | .dfu => answers.dfu.complaint? .dfu
  | .stLink => answers.stLink.complaint? .stLink
  | .canAdapter => answers.canAdapter.complaint? .canAdapter

/-- The question that is put to a probe, and the complaint about it if there is one. -/
def exchange (answers : Answers) (probe : Probe) : List SurveyNote :=
  .asked probe :: (answers.complaint? probe).toList.map .logged

/-- Instead of failing, each probe has found nothing. -/
def mended (answers : Answers) : Answers where
  serial := .found (answers.serial.taken [])
  simulator := .found (answers.simulator.taken [])
  dfu := .found (answers.dfu.taken false)
  stLink := .found (answers.stLink.taken false)
  canAdapter := .found (answers.canAdapter.taken false)

end Answers

theorem askExtras_mended (answers : Answers) :
    (askExtras answers.mended).value = (askExtras answers).value := by
  rw [askExtras_value, askExtras_value]
  rfl

theorem survey_mended (settings : ScanSettings) (full : Bool) (answers : Answers) :
    (survey settings full answers.mended).value = (survey settings full answers).value := by
  rw [survey_value, survey_value, askExtras_mended]
  rfl

theorem survey_flags (settings : ScanSettings) (full : Bool) (answers : Answers) :
    (survey settings full answers).value.dfu = (full && answers.dfu.taken false) ∧
      (survey settings full answers).value.stLink = (full && answers.stLink.taken false) ∧
      (survey settings full answers).value.canAdapter =
        (full && answers.canAdapter.taken false) := by
  rw [survey_value, askExtras_value]
  cases full with
  | false | true => simp

/-- The probes are asked one after the other, and each complaint comes before the next question. -/
theorem survey_notes (settings : ScanSettings) (full : Bool) (answers : Answers) :
    (survey settings full answers).notes = (Scanner.probes full).flatMap answers.exchange := by
  cases full with
  | false => simp [survey, ask_notes, Scanner.probes, Answers.exchange, Answers.complaint?]
  | true =>
    simp [survey, askExtras, ask_notes, Scanner.probes, Answers.exchange, Answers.complaint?]

theorem probe_exchange (answers : Answers) (probe : Probe) :
    (answers.exchange probe).filterMap SurveyNote.probe? = [probe] := by
  unfold Answers.exchange
  cases answers.complaint? probe with
  | none | some => rfl

theorem record_exchange (answers : Answers) (probe : Probe) :
    (answers.exchange probe).filterMap SurveyNote.record? =
      (answers.complaint? probe).toList := by
  unfold Answers.exchange
  cases answers.complaint? probe with
  | none | some => rfl

theorem Scanner.probe_survey (settings : ScanSettings) (full : Bool) (answers : Answers) :
    (survey settings full answers).notes.filterMap SurveyNote.probe? = probes full := by
  rw [survey_notes, List.filterMap_flatMap]
  simp only [probe_exchange, List.flatMap_singleton']

theorem record_survey (settings : ScanSettings) (full : Bool) (answers : Answers) :
    (survey settings full answers).notes.filterMap SurveyNote.record? =
      (Scanner.probes full).filterMap answers.complaint? := by
  rw [survey_notes, List.filterMap_flatMap]
  simp only [record_exchange]
  exact (List.filterMap_eq_flatMap_toList answers.complaint? (Scanner.probes full)).symm

/-! ## The law -/

/-- What a survey finds, whom it asks for that and what it logs, also where probes fail. -/
structure Contained (settings : ScanSettings) (full : Bool) (answers : Answers)
    (x : Noted SurveyNote Inventory) : Prop where
  /-- A failure changes no more than an answer that nothing is there would have. -/
  mended : x.value = (survey settings full answers.mended).value
  /-- So it does if only some of the failures are answered that way. -/
  alike : ∀ others : Answers, others.mended = answers.mended →
    (survey settings full others).value = x.value
  listed : x.value.listed =
    (if answers.devices settings = [] then [] else [autoSerialId]) ++ answers.devices settings ++
      (if full then answers.simulator.taken [] else []) ++
      (if full ∧ answers.canAdapter = .found true then [pcanId] else []) ++
      (if settings.showSocketCan then [socketCanId] else [])
  dfu : x.value.dfu = true ↔ full = true ∧ answers.dfu = .found true
  stLink : x.value.stLink = true ↔ full = true ∧ answers.stLink = .found true
  canAdapter : x.value.canAdapter = true ↔ full = true ∧ answers.canAdapter = .found true
  /-- The probes are asked in this order and each of them once, whatever fails. -/
  asked : x.notes.filterMap SurveyNote.probe? =
    if full then [.serial, .simulator, .dfu, .stLink, .canAdapter] else [.serial]
  /-- There is one record for each failing probe that was asked, and no other. -/
  logged : x.notes.filterMap SurveyNote.record? =
    (x.notes.filterMap SurveyNote.probe?).filterMap answers.complaint?
  /-- It comes right after the question. -/
  exchanges : x.notes = (x.notes.filterMap SurveyNote.probe?).flatMap answers.exchange

theorem failing_probes_are_contained (settings : ScanSettings) (full : Bool) (answers : Answers) :
    Contained settings full answers (survey settings full answers) := by
  have hasked := Scanner.probe_survey settings full answers
  obtain ⟨hdfu, hstLink, hcanAdapter⟩ := survey_flags settings full answers
  refine ⟨(survey_mended settings full answers).symm, ?_, ?_, ?_, ?_, ?_, hasked, ?_, ?_⟩
  · intro others hsame
    rw [← survey_mended settings full others, hsame, survey_mended]
  · rw [survey_listed, askExtras_value]
    cases full with
    | false => simp [listing]
    | true => simp [listing, Outcome.taken_eq_true]
  · rw [hdfu, Bool.and_eq_true, Outcome.taken_eq_true]
  · rw [hstLink, Bool.and_eq_true, Outcome.taken_eq_true]
  · rw [hcanAdapter, Bool.and_eq_true, Outcome.taken_eq_true]
  · rw [hasked, record_survey]
  · rw [hasked, survey_notes]

/-- The enumeration crashes and another probe fails. -/
def faultyAnswers : Answers where
  serial := .crashed
  dfu := .found true
  stLink := .failed .unsupported
  canAdapter := .found true

example : (survey {} true faultyAnswers).value =
    { listed := ["PCAN", "SocketCAN"], dfu := true, canAdapter := true } := by
  decide

end LinkWatch
