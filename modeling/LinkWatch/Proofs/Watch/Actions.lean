import LinkWatch.Watch
import Mathlib.Tactic.Common

/-! # What one action of a watch can do -/

namespace LinkWatch.Watch

variable {w : Watch} {a : Action} {x : Noted WatchNote Watch}

/-- One constructor for each part that can act. -/
inductive Step (w : Watch) : Action → Noted WatchNote Watch → Prop
  | scan (action : Scanner.Action) (y : Noted Scanner.Note Scanner)
    (scanned : w.scanner.step action = some y) :
    Step w (.scan action)
      ⟨{ w with scanner := y.value, queue := w.queue ++ y.notes.filterMap scannerEvent? },
        y.notes.map .scanner⟩
  | read (id : SessionId) (reading : Reading) (i : Intake) (held : w.intake? id = some i)
    (goes : i.ended = none) :
    Step w (.read id reading)
      ⟨{ w.putIntake id (i.take reading).value with
          queue := w.queue ++ (i.take reading).notes.filterMap (intakeEvent? id) },
        (i.take reading).notes.map (.intake id)⟩
  | retry (attempt : Attempt) (goes : w.stopped = false) :
    Step w (.retry attempt) (w.connect attempt)
  | take (attempt : Attempt) (closing : Closing) (e : Event) (rest : List Event)
    (goes : w.stopped = false) (oldest : w.queue = e :: rest) :
    Step w (.take attempt closing)
      ⟨(({ w with queue := rest } : Watch).handle attempt closing e).value,
        .handled e :: (({ w with queue := rest } : Watch).handle attempt closing e).notes⟩
  | finish (closing : Closing) (goes : w.stopped = false) :
    Step w (.finish closing) (w.finish closing)

theorem step_of_eq (h : w.step a = some x) : Step w a x := by
  cases a with
  | scan action =>
    simp only [step, scan, Option.map_eq_some_iff] at h
    obtain ⟨y, hy, rfl⟩ := h
    exact .scan action y hy
  | read id reading =>
    simp only [step, read] at h
    split at h
    · next i hi =>
      split at h
      · exact absurd h (by simp)
      · next hended =>
        obtain rfl := Option.some.inj h
        exact .read id reading i hi (by simpa using hended)
    · exact absurd h (by simp)
  | retry attempt =>
    simp only [step, Option.ite_none_left_eq_some, Option.some.injEq] at h
    obtain ⟨hgoes, rfl⟩ := h
    exact .retry attempt (by simpa using hgoes)
  | take attempt closing =>
    simp only [step] at h
    split at h
    · next e rest hgoes hqueue =>
      obtain rfl := Option.some.inj h
      exact .take attempt closing e rest hgoes hqueue
    · exact absurd h (by simp)
  | finish closing =>
    simp only [step, Option.ite_none_left_eq_some, Option.some.injEq] at h
    obtain ⟨hgoes, rfl⟩ := h
    exact .finish closing (by simpa using hgoes)

theorem eq_of_step (h : Step w a x) : w.step a = some x := by
  cases h with
  | scan action y scanned => simp [step, scan, scanned]
  | read id reading i held goes =>
    simp only [step, read, held, goes]
    rfl
  | retry attempt goes => simp [step, goes]
  | take attempt closing e rest goes oldest =>
    simp only [step, goes, oldest]
    rfl
  | finish closing goes => simp [step, goes]

end LinkWatch.Watch
