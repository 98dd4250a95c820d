import LinkWatch.Proofs.Scanner.Start
import LinkWatch.Proofs.Survey.Containment

/-! # The course of the worker: whole cycles, one after the other, and the part of the last one -/

namespace LinkWatch.Scanner

/-! ## Deeds -/

/-- What the worker does that others can see. -/
inductive Deed where
  | began (full : Bool)
  | asked (probe : Probe)
  | held (found : Inventory)
  | copied (listeners : List Listener)
  | called (l : Listener) (found : Inventory)
  | rests
  | ended (ending : Ending)
  deriving DecidableEq, Repr

def deed? : Note → Option Deed
  | .began full => some (.began full)
  | .surveyed (.asked probe) => some (.asked probe)
  | .held found => some (.held found)
  | .copied listeners => some (.copied listeners)
  | .called l found => some (.called l found)
  | .rests _ => some .rests
  | .ended ending => some (.ended ending)
  | .surveyed (.logged _) | .enlisted _ | .spawned | .spawnRefused | .logged _ => none

def deeds (notes : List Note) : List Deed := notes.filterMap deed?

theorem deeds_append (notes more : List Note) : deeds (notes ++ more) = deeds notes ++ deeds more :=
  List.filterMap_append

theorem deeds_logged (record : Record) : deeds [.logged record] = [] := rfl

theorem deed?_eq_began {n : Note} {full : Bool} (h : deed? n = some (.began full)) :
    n = .began full := by
  cases n with
  | began k => exact congrArg Note.began (Deed.began.inj (Option.some.inj h))
  | surveyed n =>
    cases n with
    | asked | logged => exact absurd h (by simp [deed?])
  | _ => exact absurd h (by simp [deed?])

theorem mem_deeds_began {notes : List Note} {full : Bool} :
    .began full ∈ deeds notes ↔ .began full ∈ notes := by
  constructor
  · intro h
    obtain ⟨n, hn, hdeed⟩ := List.mem_filterMap.mp h
    rwa [deed?_eq_began hdeed] at hn
  · intro h
    exact List.mem_filterMap.mpr ⟨_, h, rfl⟩

theorem deeds_surveyed (notes : List SurveyNote) :
    deeds (notes.map .surveyed) = (notes.filterMap SurveyNote.probe?).map .asked := by
  rw [deeds, List.filterMap_map, List.map_filterMap]
  congr 1
  funext n
  cases n with
  | asked | logged => rfl

/-! ## Whole cycles -/

/-- What a cycle does until it holds what it has found. -/
def opening (full : Bool) (found : Inventory) : List Deed :=
  .began full :: ((probes full).map .asked ++ [.held found])

/-- What it does about news. -/
def announcing (found : Inventory) (audience called : List Listener) : List Deed :=
  .copied audience :: called.map (.called · found)

theorem deeds_survey (s : Scanner) (full : Bool) (answers : Answers) :
    .began full :: deeds (s.surveyNotes full answers) = opening full (s.found full answers) := by
  rw [surveyNotes, deeds_append, deeds_surveyed, probe_survey]
  rfl

/-- Whole cycles, with the kind of the next one and what the last one holds. The first is a quick
one, all later ones are full, and each that finds news calls its whole audience. -/
inductive Shift : List Deed → Bool → Inventory → Prop
  | start : Shift [] false .empty
  | same {ds : List Deed} {full : Bool} {held : Inventory} (before : Shift ds full held) :
    Shift (ds ++ (opening full held ++ [.rests])) true held
  | news {ds : List Deed} {full : Bool} {held : Inventory} (before : Shift ds full held)
    (found : Inventory) (audience : List Listener) (differs : found ≠ held) :
    Shift (ds ++ (opening full found ++ announcing found audience audience ++ [.rests])) true found

/-! ## The last cycle -/

/-- Whole cycles and the part of one more that fits where the worker is. It ends between cycles
only. -/
inductive Course : List Deed → Inventory → Worker → Prop
  | absent : Course [] .empty .absent
  | top {ds : List Deed} {full : Bool} {held : Inventory} (before : Shift ds full held) :
    Course ds held (.top full)
  | surveying {ds : List Deed} {full : Bool} {held : Inventory} (before : Shift ds full held) :
    Course (ds ++ [.began full]) held (.surveying full)
  | copying {ds : List Deed} {full : Bool} {held : Inventory} (before : Shift ds full held)
    (found : Inventory) (differs : found ≠ held) :
    Course (ds ++ opening full found) found (.copying found)
  | calling {ds : List Deed} {full : Bool} {held : Inventory} (before : Shift ds full held)
    (found : Inventory) (differs : found ≠ held) (called left : List Listener) :
    Course (ds ++ (opening full found ++ announcing found (called ++ left) called)) found
      (.calling found left)
  | finishing {ds : List Deed} {full : Bool} {held : Inventory} (before : Shift ds full held) :
    Course (ds ++ opening full held) held .finishing
  | resting {ds : List Deed} {held : Inventory} (before : Shift ds true held) :
    Course ds held .resting
  | ended {ds : List Deed} {full : Bool} {held : Inventory} (before : Shift ds full held)
    (ending : Ending) : Course (ds ++ [.ended ending]) held (.ended ending)

variable {ds : List Deed} {held : Inventory} {full : Bool}
variable {s t : Scanner} {a : Action} {notes : List Note}

/-! ## Every action keeps to the course -/

theorem Course.absent_nil (h : Course ds held .absent) : ds = [] := by
  cases h with
  | absent => rfl

theorem Course.spawn (h : Course ds held .absent) : Course ds held (.top false) := by
  cases h with
  | absent => exact .top .start

theorem Course.before_top (h : Course ds held (.top full)) : Shift ds full held := by
  cases h with
  | top before => exact before

theorem Course.before_resting (h : Course ds held .resting) : Shift ds true held := by
  cases h with
  | resting before => exact before

theorem Course.survey (h : Course ds held (.surveying full)) (s : Scanner) (answers : Answers) :
    ∃ earlier, Shift earlier full held ∧
      ds ++ deeds (s.surveyNotes full answers) =
        earlier ++ opening full (s.found full answers) := by
  cases h with
  | surveying before =>
    refine ⟨_, before, ?_⟩
    rw [List.append_assoc, List.singleton_append, deeds_survey]

theorem Course.copy {found : Inventory} (h : Course ds held (.copying found))
    (listeners : List Listener) :
    Course (ds ++ [.copied listeners]) held (.calling found listeners) := by
  cases h with
  | copying before _ differs =>
    rw [List.append_assoc]
    exact .calling before held differs [] listeners

theorem Course.call {found : Inventory} {l : Listener} {left : List Listener}
    (h : Course ds held (.calling found (l :: left))) :
    Course (ds ++ [.called l found]) held (.calling found left) := by
  cases h with
  | calling before _ differs called =>
    have hmore := Course.calling before held differs (called ++ [l]) left
    simpa [announcing] using hmore

theorem Course.restAfterCalls {found : Inventory} (h : Course ds held (.calling found [])) :
    Course (ds ++ [.rests]) held .resting := by
  cases h with
  | calling before _ differs called =>
    rw [List.append_nil, List.append_assoc]
    exact .resting (.news before held called differs)

theorem Course.restUnchanged (h : Course ds held .finishing) :
    Course (ds ++ [.rests]) held .resting := by
  cases h with
  | finishing before =>
    rw [List.append_assoc]
    exact .resting (.same before)

theorem Course.step (h : Course ds s.held s.worker) (horderly : Orderly s)
    (hstep : Step s a notes t) : Course (ds ++ deeds notes) t.held t.worker := by
  have hnone : ds ++ [] = ds := List.append_nil ds
  cases hstep with
  | enlist | cancel | takeHandle | takeNothing | startAgain | startRefused => exact hnone.symm ▸ h
  | spawn caller free =>
    rw [horderly.absent caller] at h
    exact hnone.symm ▸ h.spawn
  | joined n ending waits worker =>
    by_cases he : ending = .crashed
    · rw [if_pos he]
      exact hnone.symm ▸ h
    · rw [if_neg he]
      exact hnone.symm ▸ h
  | stop full worker cancelled =>
    rw [worker] at h
    exact .ended h.before_top .stopped
  | begin full worker goes =>
    rw [worker] at h
    exact .surveying h.before_top
  | unchanged full answers worker same =>
    rw [worker] at h
    obtain ⟨earlier, before, hdeeds⟩ := h.survey s answers
    rw [hdeeds, same]
    exact .finishing before
  | changed full answers worker differs =>
    rw [worker] at h
    obtain ⟨earlier, before, hdeeds⟩ := h.survey s answers
    rw [deeds_append, deeds_logged, List.append_nil, hdeeds]
    exact .copying before _ differs
  | copy found worker =>
    rw [worker] at h
    exact h.copy s.listeners
  | call found l left crashes worker =>
    rw [worker] at h
    cases crashes with
    | true | false => exact h.call
  | restAfterCalls found worker =>
    rw [worker] at h
    exact h.restAfterCalls
  | restUnchanged worker =>
    rw [worker] at h
    exact h.restUnchanged
  | wake worker =>
    rw [worker] at h
    exact hnone.symm ▸ .top h.before_resting
  | interrupt worker =>
    rw [worker] at h
    exact .ended h.before_resting .interrupted
  | crash worker =>
    rw [worker] at h
    exact .ended h.before_resting .crashed

theorem run_course {settings : ScanSettings} {actions : List Action} {x : Noted Note Scanner}
    (h : (new settings).run actions = some x) :
    Course (deeds x.notes) x.value.held x.value.worker := by
  have hstart : Course (deeds []) (new settings).held (new settings).worker := .absent
  refine runWith_induction (motive := fun _ notes s => Course (deeds notes) s.held s.worker)
    hstart ?_ h
  intro _ notes s a x hrun hs hstep
  rw [deeds_append]
  exact hs.step (run_orderly hrun) (step_of_eq hstep)

/-! ## Where no cycle has begun -/

theorem Shift.unbegun (h : Shift ds full held) (hno : ∀ k, .began k ∉ ds) :
    ds = [] ∧ full = false ∧ held = .empty := by
  cases h with
  | start => exact ⟨rfl, rfl, rfl⟩
  | @same _ full _ before => exact absurd (by simp [opening]) (hno full)
  | @news _ full _ before found audience differs => exact absurd (by simp [opening]) (hno full)

theorem Course.unbegun {w : Worker} (h : Course ds held w) (hno : ∀ k, .began k ∉ ds) :
    held = .empty ∧ (ds = [] ∨ ∃ ending, ds = [.ended ending]) := by
  cases h with
  | absent => exact ⟨rfl, Or.inl rfl⟩
  | top before =>
    obtain ⟨rfl, -, rfl⟩ := before.unbegun hno
    exact ⟨rfl, Or.inl rfl⟩
  | resting before => exact absurd (before.unbegun hno).2.1 (by simp)
  | @surveying _ full => exact absurd (by simp) (hno full)
  | @copying _ full | @finishing _ full | @calling _ full =>
    exact absurd (by simp [opening]) (hno full)
  | ended before ending =>
    obtain ⟨rfl, -, rfl⟩ := before.unbegun fun k hk => hno k (List.mem_append_left _ hk)
    exact ⟨rfl, Or.inr ⟨ending, rfl⟩⟩

end LinkWatch.Scanner
