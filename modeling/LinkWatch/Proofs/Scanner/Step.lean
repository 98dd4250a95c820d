import LinkWatch.Scanner
import Mathlib.Tactic.Common

/-! # What one action of the scanner can do -/

namespace LinkWatch.Scanner

/-- The inventory that a cycle of the given kind finds. -/
def found (s : Scanner) (full : Bool) (answers : Answers) : Inventory :=
  (survey s.settings full answers).value

/-- What is noted while a cycle takes its inventory. -/
def surveyNotes (s : Scanner) (full : Bool) (answers : Answers) : List Note :=
  (survey s.settings full answers).notes.map .surveyed ++ [.held (s.found full answers)]

/-- The scanner after `l` was added to its listeners. -/
def withListener (s : Scanner) (l : Listener) : Scanner :=
  { s with
    listeners := s.listeners ++ [l]
    starting := s.starting + if s.listeners.isEmpty then 1 else 0 }

/-- One constructor for each thing that an action can do. -/
inductive Step (s : Scanner) : Action → List Note → Scanner → Prop
  | enlist (l : Listener) : Step s (.enlist l) [.enlisted l] (s.withListener l)
  | startAgain (spawns : Bool) (caller : s.starting ≠ 0) (there : s.handle = true) :
    Step s (.start spawns) [] { s with starting := s.starting - 1 }
  | startRefused (caller : s.starting ≠ 0) (free : s.handle = false) :
    Step s (.start false) [.spawnRefused] { s with starting := s.starting - 1 }
  | spawn (caller : s.starting ≠ 0) (free : s.handle = false) :
    Step s (.start true) [.spawned, .logged ⟨.info, "Ports scanner started"⟩]
      { s with starting := s.starting - 1, worker := .top false, handle := true }
  | cancel : Step s .cancel [] { s with cancelled := true }
  | takeHandle (there : s.handle = true) :
    Step s .takeHandle [] { s with handle := false, waiting := s.waiting + 1 }
  | takeNothing (free : s.handle = false) : Step s .takeHandle [] s
  | joined (n : Nat) (ending : Ending) (waits : s.waiting = n + 1)
    (worker : s.worker = .ended ending) :
    Step s .joined
      (if ending = .crashed then [.logged ⟨.error, "Ports scanner thread panicked"⟩] else [])
      { s with waiting := n }
  | stop (full : Bool) (worker : s.worker = .top full) (cancelled : s.cancelled = true) :
    Step s .look [.logged ⟨.info, "Ports scanner stopped"⟩, .ended .stopped]
      { s with worker := .ended .stopped }
  | begin (full : Bool) (worker : s.worker = .top full) (goes : s.cancelled = false) :
    Step s .look [.began full] { s with worker := .surveying full }
  | unchanged (full : Bool) (answers : Answers) (worker : s.worker = .surveying full)
    (same : s.found full answers = s.held) :
    Step s (.survey answers) (s.surveyNotes full answers) { s with worker := .finishing }
  | changed (full : Bool) (answers : Answers) (worker : s.worker = .surveying full)
    (differs : s.found full answers ≠ s.held) :
    Step s (.survey answers)
      (s.surveyNotes full answers ++
        [.logged ⟨.debug, "Hardware changed: " ++ (s.found full answers).describe⟩])
      { s with held := s.found full answers, worker := .copying (s.found full answers) }
  | copy (found : Inventory) (worker : s.worker = .copying found) :
    Step s .copy [.copied s.listeners] { s with worker := .calling found s.listeners }
  | call (found : Inventory) (l : Listener) (left : List Listener) (crashes : Bool)
    (worker : s.worker = .calling found (l :: left)) :
    Step s (.call crashes)
      (.called l found ::
        if crashes then [.logged ⟨.error, "Hardware listener panicked"⟩] else [])
      { s with worker := .calling found left }
  | restAfterCalls (found : Inventory) (worker : s.worker = .calling found []) :
    Step s .rest [.rests s.interval] { s with worker := .resting }
  | restUnchanged (worker : s.worker = .finishing) :
    Step s .rest [.rests s.interval] { s with worker := .resting }
  | wake (worker : s.worker = .resting) : Step s (.wake .rested) [] { s with worker := .top true }
  | interrupt (worker : s.worker = .resting) :
    Step s (.wake .interrupted)
      [.logged ⟨.warn, "Ports scanner exiting: Scanner sleep interrupted"⟩, .ended .interrupted]
      { s with worker := .ended .interrupted }
  | crash (worker : s.worker = .resting) :
    Step s (.wake .crashed) [.ended .crashed] { s with worker := .ended .crashed }

/-! ## The relation and the function agree -/

theorem takeInventory_same {s : Scanner} {full : Bool} {answers : Answers}
    (h : s.found full answers = s.held) :
    s.takeInventory full answers =
      ⟨{ s with worker := .finishing }, s.surveyNotes full answers⟩ := by
  unfold found at h
  unfold takeInventory
  simp [surveyNotes, found, note, h, bind, pure]

theorem takeInventory_differs {s : Scanner} {full : Bool} {answers : Answers}
    (h : s.found full answers ≠ s.held) :
    s.takeInventory full answers =
      ⟨{ s with held := s.found full answers, worker := .copying (s.found full answers) },
        s.surveyNotes full answers ++
          [.logged ⟨.debug, "Hardware changed: " ++ (s.found full answers).describe⟩]⟩ := by
  unfold found at h
  unfold takeInventory
  simp [surveyNotes, found, note, h, bind, pure]

theorem step_of_eq {s : Scanner} {a : Action} {x : Noted Note Scanner}
    (h : s.step a = some x) : Step s a x.notes x.value := by
  cases a with
  | enlist l =>
    simp only [step, Option.some.injEq] at h
    subst h
    exact .enlist l
  | start spawns =>
    simp only [step, Option.ite_none_left_eq_some, Option.some.injEq] at h
    obtain ⟨hcaller, rfl⟩ := h
    cases hh : s.handle with
    | true => simpa [startWorker, hh] using Step.startAgain spawns hcaller hh
    | false =>
      cases spawns with
      | true => simpa [startWorker, hh, note, bind, pure] using Step.spawn hcaller hh
      | false => simpa [startWorker, hh, note, bind, pure] using Step.startRefused hcaller hh
  | cancel =>
    simp only [step, Option.some.injEq] at h
    subst h
    exact .cancel
  | takeHandle =>
    cases hh : s.handle with
    | true =>
      simp only [step, hh, if_true, Option.some.injEq] at h
      subst h
      exact .takeHandle hh
    | false =>
      simp only [step, hh, Bool.false_eq_true, if_false, Option.some.injEq] at h
      subst h
      exact .takeNothing hh
  | joined =>
    simp only [step] at h
    split at h
    · rename_i n ending hwaits hworker
      simp only [Option.some.injEq] at h
      subst h
      have := Step.joined n ending hwaits hworker
      by_cases he : ending = .crashed
      · simpa [he, note, bind, pure] using this
      · simpa [he, note, bind, pure] using this
    · exact absurd h (by simp)
  | look =>
    simp only [step] at h
    split at h
    · rename_i full hworker
      cases hc : s.cancelled with
      | true =>
        simp only [hc, if_true, Option.some.injEq] at h
        subst h
        exact .stop full hworker hc
      | false =>
        simp only [hc, Bool.false_eq_true, if_false, Option.some.injEq] at h
        subst h
        simpa [hc, note, bind, pure] using Step.begin full hworker hc
    · exact absurd h (by simp)
  | survey answers =>
    simp only [step] at h
    split at h
    · rename_i full hworker
      simp only [Option.some.injEq] at h
      subst h
      by_cases hsame : s.found full answers = s.held
      · rw [takeInventory_same hsame]
        exact .unchanged full answers hworker hsame
      · rw [takeInventory_differs hsame]
        exact .changed full answers hworker hsame
    · exact absurd h (by simp)
  | copy =>
    simp only [step] at h
    split at h
    · rename_i found hworker
      simp only [Option.some.injEq] at h
      subst h
      exact .copy found hworker
    · exact absurd h (by simp)
  | call crashes =>
    simp only [step] at h
    split at h
    · rename_i found l left hworker
      simp only [Option.some.injEq] at h
      subst h
      have := Step.call found l left crashes hworker
      cases crashes with
      | true => simpa [note, bind, pure] using this
      | false => simpa [note, bind, pure] using this
    · exact absurd h (by simp)
  | rest =>
    simp only [step] at h
    split at h
    · rename_i found hworker
      simp only [Option.some.injEq] at h
      subst h
      exact .restAfterCalls found hworker
    · rename_i hworker
      simp only [Option.some.injEq] at h
      subst h
      exact .restUnchanged hworker
    · exact absurd h (by simp)
  | wake how =>
    simp only [step] at h
    split at h
    · rename_i hworker
      simp only [Option.some.injEq] at h
      subst h
      exact .wake hworker
    · rename_i hworker
      simp only [Option.some.injEq] at h
      subst h
      exact .interrupt hworker
    · rename_i hworker
      simp only [Option.some.injEq] at h
      subst h
      exact .crash hworker
    · exact absurd h (by simp)

theorem eq_of_step {s t : Scanner} {a : Action} {notes : List Note} (h : Step s a notes t) :
    s.step a = some ⟨t, notes⟩ := by
  cases h with
  | enlist l => rfl
  | startAgain spawns hcaller hthere => simp [step, startWorker, hcaller, hthere, pure]
  | startRefused hcaller hfree => simp [step, startWorker, hcaller, hfree, note, bind, pure]
  | spawn hcaller hfree => simp [step, startWorker, hcaller, hfree, note, bind, pure]
  | cancel => rfl
  | takeHandle hthere => simp [step, hthere, pure]
  | takeNothing hfree => simp [step, hfree, pure]
  | joined n ending hwaits hworker =>
    by_cases he : ending = .crashed
    · simp [step, hwaits, hworker, he, note, bind, pure]
    · simp [step, hwaits, hworker, he, pure]
  | stop full hworker hc => simp [step, hworker, hc, endWorker, note, bind, pure]
  | begin full hworker hc => simp [step, hworker, hc, note, bind, pure]
  | unchanged full answers hworker hsame => simp [step, hworker, takeInventory_same hsame]
  | changed full answers hworker hdiffers => simp [step, hworker, takeInventory_differs hdiffers]
  | copy found hworker => simp [step, hworker, note, bind, pure]
  | call found l left crashes hworker =>
    cases crashes with
    | true => simp [step, hworker, note, bind, pure]
    | false => simp [step, hworker, note, bind, pure]
  | restAfterCalls found hworker => simp [step, hworker, note, bind, pure]
  | restUnchanged hworker => simp [step, hworker, note, bind, pure]
  | wake hworker => simp [step, hworker, pure]
  | interrupt hworker => simp [step, hworker, endWorker, note, bind, pure]
  | crash hworker => simp [step, hworker, endWorker, note, bind, pure]

end LinkWatch.Scanner
