import LinkWatch.Proofs.Scanner.Audience
import LinkWatch.Proofs.Scanner.Cycles
import Mathlib.Data.List.Destutter

/-! # What one listener hears: every change since the first survey -/

namespace LinkWatch

/-! ## Lists without repetitions in a row -/

section Destutter

variable {α : Type} [DecidableEq α]

theorem destutter'_concat (l : List α) (a b : α) :
    (l ++ [b]).destutter' (· ≠ ·) a =
      l.destutter' (· ≠ ·) a ++ if l.getLastD a = b then [] else [b] := by
  induction l generalizing a with
  | nil =>
    by_cases hab : a = b
    · simp [List.destutter', hab]
    · simp [List.destutter', hab]
  | cons c l ih =>
    rw [List.cons_append, List.getLastD_cons]
    by_cases hac : a = c
    · subst hac
      rw [List.destutter'_cons_neg _ (by simp), List.destutter'_cons_neg _ (by simp), ih]
    · rw [List.destutter'_cons_pos _ hac, List.destutter'_cons_pos _ hac, ih, List.cons_append]

theorem destutter_concat {l : List α} {last : α} (h : l.getLast? = some last) (b : α) :
    (l ++ [b]).destutter (· ≠ ·) = l.destutter (· ≠ ·) ++ if last = b then [] else [b] := by
  cases l with
  | nil => exact absurd h (by simp)
  | cons a l =>
    have hlast : l.getLastD a = last := by
      rw [List.getLast?_cons, Option.some.injEq] at h
      rw [← h, List.getLastD_eq_getLast?]
    rw [List.cons_append, List.destutter_cons', List.destutter_cons', destutter'_concat, hlast]

theorem getLast?_destutter (l : List α) : (l.destutter (· ≠ ·)).getLast? = l.getLast? := by
  induction l using List.reverseRecOn with
  | nil => rfl
  | append_singleton l b ih =>
    cases h : l.getLast? with
    | none =>
      rw [List.getLast?_eq_none_iff.mp h]
      rfl
    | some last =>
      rw [destutter_concat h, List.getLast?_concat]
      by_cases hb : last = b
      · rw [if_pos hb, List.append_nil, ih, h, hb]
      · rw [if_neg hb, List.getLast?_concat]

end Destutter

namespace Scanner

variable {settings : ScanSettings} {actions : List Action} {notes : List Note}
variable {s t : Scanner} {a : Action} {l : Listener}

/-! ## What a listener is given -/

/-- The listener registers before all others, and once. -/
def Leads (l : Listener) (ls : List Listener) : Prop := ∃ others, l ∉ others ∧ ls <+: l :: others

theorem Leads.of_prefix {ks ls : List Listener} (h : Leads l ls) (hks : ks <+: ls) :
    Leads l ks := by
  obtain ⟨others, hothers, hls⟩ := h
  exact ⟨others, hothers, hks.trans hls⟩

theorem Leads.count {ls : List Listener} (h : Leads l ls) (hsome : ls ≠ []) : ls.count l = 1 := by
  obtain ⟨others, hothers, hls⟩ := h
  rcases List.prefix_cons_iff.mp hls with hnil | ⟨ks, rfl, hks⟩
  · exact absurd hnil hsome
  · have hnone : l ∉ ks := fun hmem => hothers (hks.subset hmem)
    rw [List.count_cons_self, List.count_eq_zero_of_not_mem hnone]

/-- What a listener has been given, in its order. -/
def given (l : Listener) (notes : List Note) : List Inventory :=
  ((calls notes).filter fun call => call.1 = l).map Prod.snd

/-- What the worker is about to give it in this cycle. -/
def due (l : Listener) : Worker → List Inventory
  | .copying found => [found]
  | .calling found left => List.replicate (left.count l) found
  | _ => []

theorem given_append (notes more : List Note) :
    given l (notes ++ more) = given l notes ++ given l more := by
  unfold given
  rw [calls_append, List.filter_append, List.map_append]

theorem given_silent (h : calls notes = []) : given l notes = [] := by
  unfold given
  rw [h]
  rfl

theorem given_call (k : Listener) (found : Inventory) (crashes : Bool) (record : Record) :
    given l (.called k found :: if crashes then [.logged record] else []) =
      if k = l then [found] else [] := by
  unfold given calls
  rw [called_call]
  by_cases hk : k = l
  · simp [hk]
  · simp [hk]

theorem calls_surveyNotes (full : Bool) (answers : Answers) (more : List Note) :
    calls (s.surveyNotes full answers ++ more) = calls more := by
  unfold calls
  rw [List.filterMap_append, called_surveyNotes, List.nil_append]

/-! ## One step -/

theorem Step.held (h : Step s a notes t) (ha : answers? a = none) : t.held = s.held := by
  cases h with
  | unchanged | changed => exact absurd ha (by simp [answers?])
  | _ => rfl

theorem given_unmoved (hno : calls notes = []) (hheld : t.held = s.held)
    (hdue : due l t.worker = due l s.worker) :
    given l notes ++ due l t.worker =
      due l s.worker ++ if s.held = t.held then [] else [t.held] := by
  rw [given_silent hno, hdue, if_pos hheld.symm, List.nil_append, List.append_nil]

/-- A listener that leads is given what was due, or it is still due, and news are due as well. -/
theorem Step.given (h : Step s a notes t) (horderly : Orderly s) (hleads : Leads l s.listeners) :
    given l notes ++ due l t.worker =
      due l s.worker ++ if s.held = t.held then [] else [t.held] := by
  cases h with
  | enlist | startAgain | startRefused | cancel | takeHandle | takeNothing =>
    exact given_unmoved rfl rfl rfl
  | spawn caller free => exact given_unmoved rfl rfl (by simp [horderly.absent caller, due])
  | joined n ending waits worker =>
    refine given_unmoved ?_ rfl rfl
    by_cases he : ending = .crashed
    · rw [if_pos he]
      rfl
    · rw [if_neg he]
      rfl
  | stop full worker | begin full worker | wake worker | interrupt worker | crash worker
  | restUnchanged worker | restAfterCalls found worker =>
    exact given_unmoved rfl rfl (by simp [worker, due])
  | unchanged full answers worker same =>
    refine given_unmoved ?_ rfl (by simp [worker, due])
    rw [← List.append_nil (s.surveyNotes full answers), calls_surveyNotes]
    rfl
  | changed full answers worker differs =>
    have hdiffers : s.held ≠ s.found full answers := Ne.symm differs
    rw [given_silent (calls_surveyNotes full answers _), worker, if_neg hdiffers]
    rfl
  | copy found worker =>
    have hsome : s.listeners ≠ [] := by
      intro hnone
      have habsent := (horderly.unheard hnone).2
      simp [worker] at habsent
    have hone := hleads.count hsome
    rw [given_silent rfl, worker, if_pos rfl]
    simp [due, hone]
  | call found k left crashes worker =>
    rw [given_call, worker]
    by_cases hk : k = l
    · simp [hk, due, List.replicate_succ]
    · simp [hk, due]

/-! ## Runs -/

/-- There is nothing in the beginning, and then what each survey finds. -/
def findings (settings : ScanSettings) (actions : List Action) : List Inventory :=
  .empty :: surveys settings (actions.filterMap answers?)

theorem findings_concat (h : answers? a = none) :
    findings settings (actions ++ [a]) = findings settings actions := by
  unfold findings
  rw [answers_concat h]

theorem findings_survey (settings : ScanSettings) (actions : List Action) (answers : Answers) :
    ∃ found, findings settings (actions ++ [.survey answers]) =
      findings settings actions ++ [found] := by
  have hone : [Action.survey answers].filterMap answers? = [answers] := rfl
  unfold findings surveys
  rw [List.filterMap_append, hone, List.mapIdx_concat]
  exact ⟨_, rfl⟩

theorem Told.last (h : Told settings actions notes s) :
    (findings settings actions).getLast? = some s.held := by
  unfold findings
  rw [← h.surveyed, h.held]
  cases (history notes).cycles with
  | nil => rfl
  | cons c older =>
    rw [List.reverse_cons, List.map_append, ← List.cons_append]
    exact List.getLast?_concat

theorem Told.news (h : Told settings actions notes s) {more : List Note}
    (hnext : Told settings (actions ++ [a]) (notes ++ more) t)
    (hheld : answers? a = none → t.held = s.held) :
    (findings settings (actions ++ [a])).destutter (· ≠ ·) =
      (findings settings actions).destutter (· ≠ ·) ++ if s.held = t.held then [] else [t.held] := by
  have hlast := hnext.last
  cases a with
  | survey answers =>
    obtain ⟨found, hfound⟩ := findings_survey settings actions answers
    rw [hfound] at hlast ⊢
    rw [List.getLast?_concat, Option.some.injEq] at hlast
    rw [destutter_concat h.last, hlast]
  | _ => rw [findings_concat rfl, if_pos (hheld rfl).symm, List.append_nil]

/-- Whoever leads the listeners is told all that the surveys find, but nothing twice in a row. -/
theorem run_given {x : Noted Note Scanner} (h : (new settings).run actions = some x)
    (hleads : Leads l (registered actions)) :
    .empty :: (given l x.notes ++ due l x.value.worker) =
      (findings settings actions).destutter (· ≠ ·) := by
  refine runWith_induction (motive := fun actions notes s => Leads l (registered actions) →
    .empty :: (given l notes ++ due l s.worker) =
      (findings settings actions).destutter (· ≠ ·)) ?_ ?_ h hleads
  · intro _
    rfl
  · intro actions notes s a x hrun ih hx hlead
    have hstep := step_of_eq hx
    have htold := run_told hrun
    have hbefore : Leads l (registered actions) := by
      rw [registered_append] at hlead
      exact hlead.of_prefix (List.prefix_append _ _)
    have hgiven := hstep.given (run_orderly hrun) ((run_roster hrun).listeners ▸ hbefore)
    have hnews := htold.news (htold.step (run_orderly hrun) hstep) hstep.held
    rw [hnews, ← ih hbefore, given_append, List.append_assoc, hgiven, List.cons_append,
      List.append_assoc]

end Scanner

end LinkWatch
