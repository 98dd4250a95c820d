import LinkWatch.Host.Answers
import LinkWatch.Survey
import Mathlib.Tactic.Common

/-! # What a survey of a host lists -/

namespace LinkWatch

/-! ## Answers as they are taken -/

/-- A probe that has not answered counts as having found nothing. -/
def Outcome.taken {α : Type} (nothing : α) : Outcome α → α
  | .found a => a
  | .failed _ | .crashed => nothing

theorem ask_value {α : Type} (probe : Probe) (nothing : α) (outcome : Outcome α) :
    (ask probe nothing outcome).value = outcome.taken nothing := by
  cases outcome with
  | found | failed | crashed => rfl

theorem askExtras_value (answers : Answers) :
    (askExtras answers).value = ⟨answers.simulator.taken [], answers.dfu.taken false,
      answers.stLink.taken false, answers.canAdapter.taken false⟩ := by
  simp [askExtras, ask_value]

/-- The devices that the enumeration has found and no exclusion rejects. -/
def Answers.devices (answers : Answers) (settings : ScanSettings) : List String :=
  Exclusion.keep settings.exclusions (answers.serial.taken [])

theorem survey_value (settings : ScanSettings) (full : Bool) (answers : Answers) :
    (survey settings full answers).value =
      ⟨listing settings (answers.devices settings)
          (if full then (askExtras answers).value else {}),
        (if full then (askExtras answers).value else {}).dfu,
        (if full then (askExtras answers).value else {}).stLink,
        (if full then (askExtras answers).value else {}).canAdapter⟩ := by
  unfold Answers.devices
  cases full with
  | true | false => simp [survey, ask_value]

theorem survey_listed (settings : ScanSettings) (full : Bool) (answers : Answers) :
    (survey settings full answers).value.listed =
      listing settings (answers.devices settings)
        (if full then (askExtras answers).value else {}) := by
  rw [survey_value]

theorem mem_listing {settings : ScanSettings} {devices : List String} {extras : Extras}
    {id : String} :
    id ∈ listing settings devices extras ↔
      (devices ≠ [] ∧ id = autoSerialId) ∨ id ∈ devices ∨ id ∈ extras.simulators ∨
        (extras.canAdapter = true ∧ id = pcanId) ∨
        (settings.showSocketCan = true ∧ id = socketCanId) := by
  unfold listing
  simp only [List.mem_append, List.isEmpty_iff, or_assoc]
  by_cases hdevices : devices = []
  · simp [hdevices]
  · simp [hdevices]

/-! ## Devices -/

/-- The names of serial devices on a host. -/
inductive Host.Names (host : Host) : String → Prop
  | enumerated {names : List String} {name : String} (enumerates : host.enumerated = .ok names)
    (mem : name ∈ names) : host.Names name
  | fallback {names files : List String} {file : String} (enumerates : host.enumerated = .ok names)
    (readable : host.deviceNames = some files) (mem : file ∈ files)
    (family : isFallback file = true) : host.Names ("/dev/" ++ file)

theorem mem_deviceSet {host : Host} {names : List String} {name : String} :
    name ∈ host.deviceSet names ↔ name ∈ names ∨ name ∈ fallbacks (host.deviceNames.getD []) := by
  unfold Host.deviceSet
  rw [(host.arrangement.perm _).mem_iff, List.mem_eraseDups, List.mem_append]

theorem mem_fallbacks {files : List String} {name : String} :
    name ∈ fallbacks files ↔ ∃ file ∈ files, isFallback file = true ∧ "/dev/" ++ file = name := by
  unfold fallbacks
  simp [and_assoc]

theorem mem_serial_iff {host : Host} {settings : ScanSettings} {name : String} :
    name ∈ (host.answers settings).serial.taken [] ↔ host.Names name := by
  unfold Host.answers Host.serialDevices
  cases henumerated : host.enumerated with
  | error fault =>
    refine ⟨fun h => absurd h List.not_mem_nil, fun h => ?_⟩
    cases h with
    | enumerated enumerates | fallback enumerates =>
      exact absurd (henumerated.symm.trans enumerates) (by simp)
  | ok names =>
    simp only [Outcome.ofExcept, Outcome.taken, List.mem_mergeSort, mem_deviceSet, mem_fallbacks]
    constructor
    · rintro (hname | ⟨file, hfile, hfamily, rfl⟩)
      · exact .enumerated henumerated hname
      · cases hfiles : host.deviceNames with
        | none => simp [hfiles] at hfile
        | some files =>
          rw [hfiles] at hfile
          exact .fallback henumerated hfiles hfile hfamily
    · intro h
      cases h with
      | enumerated enumerates mem =>
        rw [← Except.ok.inj (henumerated.symm.trans enumerates)] at mem
        exact Or.inl mem
      | @fallback _ files file enumerates readable mem family =>
        refine Or.inr ⟨file, ?_, family, rfl⟩
        rw [readable]
        exact mem

/-! ## The simulator -/

theorem Reach.attempt_eq_ok {reach : Reach} {millis : UInt64} :
    reach.attempt millis = .ok () ↔ reach = .accepts ∧ millis ≠ 0 := by
  unfold Reach.attempt
  cases reach with
  | fails | silent => simp
  | accepts =>
    by_cases hzero : millis = 0
    · simp [hzero]
    · simp [hzero]

def Host.Simulates (host : Host) (settings : ScanSettings) : Prop :=
  (host.reach settings.simulator).attempt settings.probeMillis = .ok ()

theorem mem_simulators_iff {host : Host} {settings : ScanSettings} {id : String} :
    id ∈ host.simulators settings ↔
      host.Simulates settings ∧ id = Text.decimal settings.simulator.toNat := by
  unfold Host.simulators Host.Simulates
  cases (host.reach settings.simulator).attempt settings.probeMillis with
  | error failure => simp
  | ok done => simp

/-! ## Identifiers -/

/-- A device that no exclusion rejects. -/
def Host.Keeps (host : Host) (settings : ScanSettings) (name : String) : Prop :=
  host.Names name ∧ ∀ rule ∈ settings.exclusions, rule.rejects name = false

/-- The identifiers that a survey of the host lists, each with what makes it do so. -/
inductive Listed (settings : ScanSettings) (full : Bool) (host : Host) : String → Prop
  | autoSerial {name : String} (device : host.Keeps settings name) :
    Listed settings full host autoSerialId
  | device {name : String} (device : host.Keeps settings name) : Listed settings full host name
  | simulator (asked : full = true) (accepts : host.Simulates settings) :
    Listed settings full host (Text.decimal settings.simulator.toNat)
  | pcan (asked : full = true) (found : host.anyUsb UsbId.isCanAdapter = .ok true) :
    Listed settings full host pcanId
  | socketCan (shown : settings.showSocketCan = true) : Listed settings full host socketCanId

theorem mem_keep_iff {host : Host} {settings : ScanSettings} {name : String} :
    name ∈ (host.answers settings).devices settings ↔ host.Keeps settings name := by
  unfold Answers.devices Exclusion.keep Host.Keeps
  rw [List.mem_filter, mem_serial_iff]
  simp

theorem taken_ofExcept {answer : Except ProbeError Bool} :
    (Outcome.ofExcept answer).taken false = true ↔ answer = .ok true := by
  cases answer with
  | error e => simp [Outcome.ofExcept, Outcome.taken]
  | ok found => simp [Outcome.ofExcept, Outcome.taken]

theorem mem_survey_iff {settings : ScanSettings} {full : Bool} {host : Host} {id : String} :
    id ∈ (survey settings full (host.answers settings)).value.listed ↔
      Listed settings full host id := by
  rw [survey_listed, mem_listing, mem_keep_iff]
  constructor
  · rintro (⟨hsome, rfl⟩ | hname | hnumber | ⟨hcan, rfl⟩ | ⟨hshown, rfl⟩)
    · obtain ⟨name, hname⟩ := List.exists_mem_of_ne_nil _ hsome
      exact .autoSerial (mem_keep_iff.mp hname)
    · exact .device hname
    · cases full with
      | false => exact absurd hnumber List.not_mem_nil
      | true =>
        rw [if_pos rfl, askExtras_value] at hnumber
        obtain ⟨haccepts, rfl⟩ := mem_simulators_iff.mp hnumber
        exact .simulator rfl haccepts
    · cases full with
      | false => exact absurd hcan Bool.false_ne_true
      | true =>
        rw [if_pos rfl, askExtras_value] at hcan
        exact .pcan rfl (taken_ofExcept.mp hcan)
    · exact .socketCan hshown
  · intro h
    cases h with
    | autoSerial device => exact Or.inl ⟨List.ne_nil_of_mem (mem_keep_iff.mpr device), rfl⟩
    | device device => exact Or.inr (Or.inl device)
    | simulator asked accepts =>
      refine Or.inr (Or.inr (Or.inl ?_))
      rw [if_pos asked, askExtras_value]
      exact mem_simulators_iff.mpr ⟨accepts, rfl⟩
    | pcan asked found =>
      refine Or.inr (Or.inr (Or.inr (Or.inl ⟨?_, rfl⟩)))
      rw [if_pos asked, askExtras_value]
      exact taken_ofExcept.mpr found
    | socketCan shown => exact Or.inr (Or.inr (Or.inr (Or.inr ⟨shown, rfl⟩)))

end LinkWatch
