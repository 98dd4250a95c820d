import LinkWatch.Proofs.Run
import LinkWatch.Proofs.Scanner.Step

/-! # Starting the worker: one caller, and only before there is a worker -/

namespace LinkWatch.Scanner

/-- Only the caller of the first registration starts the worker, and nobody did before it. -/
structure Orderly (s : Scanner) : Prop where
  unheard : s.listeners = [] → s.starting = 0 ∧ s.worker = .absent
  single : s.starting ≤ 1
  absent : s.starting ≠ 0 → s.worker = .absent

theorem orderly_new (settings : ScanSettings) : Orderly (new settings) :=
  ⟨fun _ => ⟨rfl, rfl⟩, Nat.zero_le 1, fun h => absurd rfl h⟩

theorem Orderly.go_on {s t : Scanner} (h : Orderly s) (hworker : s.worker ≠ .absent)
    (hlisteners : t.listeners = s.listeners) (hstarting : t.starting = s.starting) :
    Orderly t := by
  have hnone : s.starting = 0 := by
    by_contra hne
    exact hworker (h.absent hne)
  have hheard : s.listeners ≠ [] := fun he => hworker (h.unheard he).2
  refine ⟨?_, by omega, ?_⟩
  · intro he
    rw [hlisteners] at he
    exact absurd he hheard
  · intro hne
    omega

theorem Orderly.started {s t : Scanner} (h : Orderly s) (hcaller : s.starting ≠ 0)
    (hlisteners : t.listeners = s.listeners) (hstarting : t.starting = s.starting - 1) :
    Orderly t := by
  have hsingle := h.single
  refine ⟨?_, by omega, ?_⟩
  · intro he
    rw [hlisteners] at he
    exact absurd (h.unheard he).1 hcaller
  · intro hne
    omega

theorem Orderly.step {s t : Scanner} {a : Action} {notes : List Note} (h : Orderly s)
    (hstep : Step s a notes t) : Orderly t := by
  have hsingle := h.single
  cases hstep with
  | enlist l =>
    refine ⟨fun he => absurd he (by simp [withListener]), ?_, ?_⟩
    · by_cases he : s.listeners = []
      · have := (h.unheard he).1
        simp [withListener, he, this]
      · simpa [withListener, he] using hsingle
    · intro hne
      by_cases he : s.listeners = []
      · exact (h.unheard he).2
      · exact h.absent (by simpa [withListener, he] using hne)
  | startAgain spawns hcaller hthere => exact h.started hcaller rfl rfl
  | startRefused hcaller hfree => exact h.started hcaller rfl rfl
  | spawn hcaller hfree => exact h.started hcaller rfl rfl
  | cancel => exact ⟨h.unheard, h.single, h.absent⟩
  | takeHandle hthere => exact ⟨h.unheard, h.single, h.absent⟩
  | takeNothing hfree => exact h
  | joined n ending hwaits hworker => exact ⟨h.unheard, h.single, h.absent⟩
  | stop full hworker hc => exact h.go_on (by simp [hworker]) rfl rfl
  | begin full hworker hc => exact h.go_on (by simp [hworker]) rfl rfl
  | unchanged full answers hworker hsame => exact h.go_on (by simp [hworker]) rfl rfl
  | changed full answers hworker hdiffers => exact h.go_on (by simp [hworker]) rfl rfl
  | copy found hworker => exact h.go_on (by simp [hworker]) rfl rfl
  | call found l left crashes hworker => exact h.go_on (by simp [hworker]) rfl rfl
  | restAfterCalls found hworker => exact h.go_on (by simp [hworker]) rfl rfl
  | restUnchanged hworker => exact h.go_on (by simp [hworker]) rfl rfl
  | wake hworker => exact h.go_on (by simp [hworker]) rfl rfl
  | interrupt hworker => exact h.go_on (by simp [hworker]) rfl rfl
  | crash hworker => exact h.go_on (by simp [hworker]) rfl rfl

theorem run_orderly {settings : ScanSettings} {actions : List Action} {x : Noted Note Scanner}
    (h : (new settings).run actions = some x) : Orderly x.value :=
  runWith_induction (motive := fun _ _ s => Orderly s) (orderly_new settings)
    (fun _ _ _ _ _ _ hs hstep => hs.step (step_of_eq hstep)) h

end LinkWatch.Scanner
