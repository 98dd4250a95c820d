import LinkWatch.Watch
import LinkWatch.Proofs.Intake
import LinkWatch.Proofs.Run
import Mathlib.Algebra.GroupWithZero.Nat

/-! # The history of a watch, session by session, as its notes tell it -/

namespace LinkWatch.Watch

/-! ## Reading the notes -/

def handled? : WatchNote → Option Event
  | .handled event => some event
  | _ => none

/-- The event that was put into the queue with the note. -/
def emitted? : WatchNote → Option Event
  | .scanner n => scannerEvent? n
  | .intake id n => intakeEvent? id n
  | _ => none

def closed? : WatchNote → Option SessionId
  | .monitor (.closed id) => some id
  | _ => none

def ofIntake? (id : SessionId) : WatchNote → Option IntakeNote
  | .intake owner n => if owner = id then some n else none
  | _ => none

def chunk? : IntakeNote → Option (List UInt8)
  | .chunk bytes => some bytes
  | _ => none

/-- What the intake of a session has handed on, in its order. -/
def chunks (id : SessionId) (notes : List WatchNote) : List (List UInt8) :=
  (notes.filterMap (ofIntake? id)).filterMap chunk?

/-- How often a session was torn down. -/
def closings (id : SessionId) (notes : List WatchNote) : Nat := (notes.filterMap closed?).count id

def total (chunks : List (List UInt8)) : Nat := chunks.flatten.length

/-! ## Reading the actions -/

def reading? (id : SessionId) : Action → Option Reading
  | .read owner r => if owner = id then some r else none
  | _ => none

/-- What the intake of a session has read, in its order. -/
def readings (id : SessionId) (actions : List Action) : List Reading :=
  actions.filterMap (reading? id)

/-! ## Reading the queue -/

def dataOf? (id : SessionId) : Event → Option (List UInt8)
  | .data owner bytes => if owner = id then some bytes else none
  | _ => none

def ofSession (id : SessionId) : Event → Bool
  | .hardware _ => false
  | .data owner _ => owner = id
  | .disconnected owner => owner = id

theorem filter_emitted (id : SessionId) (notes : List WatchNote) :
    (notes.filterMap emitted?).filter (ofSession id) =
      (notes.filterMap (ofIntake? id)).filterMap (intakeEvent? id) := by
  rw [List.filter_filterMap, List.filterMap_filterMap]
  congr 1
  funext n
  cases n with
  | scanner n =>
    cases n with
    | called l found =>
      by_cases hl : l = listener
      · simp [emitted?, scannerEvent?, hl, ofIntake?, ofSession, Option.filter]
      · simp [emitted?, scannerEvent?, hl, ofIntake?]
    | _ => rfl
  | intake owner n =>
    by_cases ho : owner = id
    · cases n with
      | chunk bytes | disconnected =>
        simp [emitted?, intakeEvent?, ofIntake?, ho, ofSession, Option.filter]
      | asked | logged => simp [emitted?, intakeEvent?, ofIntake?, ho]
    · cases n with
      | chunk bytes | disconnected =>
        simp [emitted?, intakeEvent?, ofIntake?, ho, ofSession, Option.filter]
      | asked | logged => simp [emitted?, intakeEvent?, ofIntake?, ho]
  | monitor | handled => rfl

theorem filterMap_dataOf (id : SessionId) (events : List Event) :
    events.filterMap (dataOf? id) = (events.filter (ofSession id)).filterMap (dataOf? id) := by
  rw [List.filterMap_filter]
  congr 1
  funext e
  cases e with
  | hardware | disconnected => simp [dataOf?]
  | data owner bytes => by_cases ho : owner = id <;> simp [dataOf?, ofSession, ho]

theorem filterMap_dataOf_map (id : SessionId) (chunks : List (List UInt8)) :
    (chunks.map (Event.data id)).filterMap (dataOf? id) = chunks := by
  rw [List.filterMap_map]
  simp [Function.comp_def, dataOf?]

/-! ## Notes that come from no intake -/

theorem filterMap_map_none {α β γ : Type} {f : α → β} {g : β → Option γ}
    (h : ∀ a, g (f a) = none) (as : List α) : (as.map f).filterMap g = [] := by
  rw [List.filterMap_map]
  exact List.filterMap_eq_nil_iff.mpr fun a _ => h a

/-- What notes tell that come from no intake. -/
structure Tells (notes : List WatchNote) (handled emitted : List Event)
    (closed : List SessionId) : Prop where
  handled : notes.filterMap handled? = handled
  emitted : notes.filterMap emitted? = emitted
  closed : notes.filterMap closed? = closed
  silent : ∀ id, notes.filterMap (ofIntake? id) = []

theorem Tells.append {notes more : List WatchNote} {handled handled' emitted emitted' : List Event}
    {closed closed' : List SessionId} (h : Tells notes handled emitted closed)
    (h' : Tells more handled' emitted' closed') :
    Tells (notes ++ more) (handled ++ handled') (emitted ++ emitted') (closed ++ closed') := by
  refine ⟨?_, ?_, ?_, fun id => ?_⟩
  · rw [List.filterMap_append, h.handled, h'.handled]
  · rw [List.filterMap_append, h.emitted, h'.emitted]
  · rw [List.filterMap_append, h.closed, h'.closed]
  · rw [List.filterMap_append, h.silent, h'.silent]
    rfl

theorem tells_nil : Tells [] [] [] [] := ⟨rfl, rfl, rfl, fun _ => rfl⟩

theorem tells_handled (e : Event) : Tells [.handled e] [e] [] [] := ⟨rfl, rfl, rfl, fun _ => rfl⟩

theorem tells_closed (id : SessionId) : Tells [.monitor (.closed id)] [] [] [id] :=
  ⟨rfl, rfl, rfl, fun _ => rfl⟩

theorem tells_logged (r : Record) : Tells [.monitor (.logged r)] [] [] [] :=
  ⟨rfl, rfl, rfl, fun _ => rfl⟩

theorem tells_records (records : List Record) :
    Tells ((records.map MonitorNote.logged).map WatchNote.monitor) [] [] [] := by
  induction records with
  | nil => exact tells_nil
  | cons r records ih => exact (tells_logged r).append ih

theorem tells_scanner (notes : List Scanner.Note) :
    Tells (notes.map .scanner) [] (notes.filterMap scannerEvent?) [] := by
  refine ⟨filterMap_map_none (fun _ => rfl) _, ?_, filterMap_map_none (fun _ => rfl) _,
    fun id => filterMap_map_none (fun _ => rfl) _⟩
  rw [List.filterMap_map]
  rfl

/-! ## What one intake has done -/

/-- The readings and the notes of an intake whose consumer never crashes fit its state. -/
structure Took (capacity : Nat) (readings : List Reading) (notes : List IntakeNote)
    (i : Intake) : Prop where
  room : i.buffer.capacity = capacity
  consumer : i.consumer = {}
  brought : total (notes.filterMap chunk?) = (readings.map (Reading.brings capacity)).sum
  ended : i.ended = some .orderly ↔ ∃ r ∈ readings, r.ends capacity = true
  events : ∀ id, notes.filterMap (intakeEvent? id) =
    (notes.filterMap chunk?).map (Event.data id) ++
      if i.ended = some .orderly then [Event.disconnected id] else []

theorem took_start (settings : DrainSettings) :
    Took settings.capacity [] (Intake.start settings {}).notes
      (Intake.start settings {}).value := by
  have hended : (Intake.start settings {}).value.ended ≠ some .orderly := by
    by_cases h : settings.capacity ≤ largestBuffer
    · simp [Intake.start, Intake.new, h]
    · simp [Intake.start, Intake.new, h]
  refine ⟨rfl, rfl, rfl, ?_, fun id => ?_⟩
  · simpa using hended
  · rw [if_neg hended]
    rfl

theorem Took.add {capacity : Nat} {readings : List Reading} {notes more : List IntakeNote}
    {i j : Intake} {r : Reading} (h : Took capacity readings notes i) (hopen : i.ended = none)
    (hroom : j.buffer.capacity = i.buffer.capacity) (hconsumer : j.consumer = i.consumer)
    (hbrings : total (more.filterMap chunk?) = r.brings capacity)
    (hends : j.ended = some .orderly ↔ r.ends capacity = true)
    (hevents : ∀ id, more.filterMap (intakeEvent? id) =
      (more.filterMap chunk?).map (Event.data id) ++
        if j.ended = some .orderly then [Event.disconnected id] else []) :
    Took capacity (readings ++ [r]) (notes ++ more) j := by
  have hnone : ¬ ∃ r ∈ readings, r.ends capacity = true := by
    rw [← h.ended, hopen]
    simp
  refine ⟨hroom.trans h.room, hconsumer.trans h.consumer, ?_, ?_, fun id => ?_⟩
  · have hbrought := h.brought
    unfold total at hbrought hbrings ⊢
    rw [List.filterMap_append, List.flatten_append, List.length_append, hbrought, hbrings]
    simp
  · rw [hends]
    constructor
    · intro hr
      exact ⟨r, by simp, hr⟩
    · rintro ⟨q, hq, hqends⟩
      rcases List.mem_append.mp hq with hq | hq
      · exact absurd ⟨q, hq, hqends⟩ hnone
      · rw [← List.mem_singleton.mp hq]
        exact hqends
  · have hsofar := h.events id
    rw [hopen] at hsofar
    rw [List.filterMap_append, List.filterMap_append, hsofar, hevents]
    simp

theorem Took.take {capacity : Nat} {readings : List Reading} {notes : List IntakeNote}
    {i : Intake} (h : Took capacity readings notes i) (hopen : i.ended = none) (r : Reading) :
    Took capacity (readings ++ [r]) (notes ++ (i.take r).notes) (i.take r).value := by
  have hlast : i.lastEnd = .orderly := by
    rw [Intake.lastEnd, h.consumer]
    rfl
  have hcapacity : i.buffer.capacity = capacity := h.room
  have hspec := i.take_spec r
  generalize (i.take r).notes = more at hspec ⊢
  generalize (i.take r).value = j at hspec ⊢
  cases hspec with
  | crashed =>
    exact h.add hopen rfl rfl rfl (by simp [Reading.ends]) fun _ => rfl
  | interrupted failure kind =>
    exact h.add hopen rfl rfl rfl (by simp [Reading.ends, kind, hopen]) fun _ => by
      rw [hopen]
      rfl
  | failed failure kind =>
    exact h.add hopen rfl rfl rfl (by simp [Reading.ends, kind, hlast]) fun _ => by
      rw [hlast]
      rfl
  | nothing written claim count =>
    rw [hcapacity] at count
    refine h.add hopen rfl rfl ?_ (by simp [Reading.ends, count, hlast]) fun _ => ?_
    · rw [Reading.brings, count, Nat.zero_min]
      rfl
    · rw [hlast]
      rfl
  | chunk written claim count sound =>
    have hlength := i.length_portion written claim
    rw [hcapacity] at count hlength
    refine h.add hopen rfl rfl ?_ (by simp [Reading.ends, count, hopen]) fun _ => ?_
    · rw [← hlength]
      exact congrArg List.length (List.append_nil _)
    · rw [hopen]
      rfl
  | dropped written claim count crashes =>
    rw [h.consumer] at crashes
    exact absurd crashes (by simp)

end LinkWatch.Watch
