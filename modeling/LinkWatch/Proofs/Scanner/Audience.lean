import LinkWatch.Proofs.Scanner.History
import LinkWatch.Proofs.Scanner.Registering

/-! # Who is called: all that had registered before the copy, in their order, and nobody else -/

namespace LinkWatch.Scanner

variable {settings : ScanSettings} {s t : Scanner} {a : Action} {notes : List Note}
variable {found : Inventory} {left : List Listener}

def calls (notes : List Note) : List (Listener × Inventory) := notes.filterMap called?

theorem calls_append (notes more : List Note) : calls (notes ++ more) = calls notes ++ calls more :=
  List.filterMap_append

theorem registered_append (as bs : List Action) :
    registered (as ++ bs) = registered as ++ registered bs := List.filterMap_append

theorem registered_cons_none (h : enlists? a = none) (as : List Action) :
    registered (a :: as) = registered as := List.filterMap_cons_none h

theorem count_registered (as : List Action) (l : Listener) :
    (registered as).count l = as.count (.enlist l) := by
  induction as with
  | nil => rfl
  | cons a as ih =>
    unfold registered at ih ⊢
    cases a with
    | enlist k =>
      by_cases hk : k = l
      · simp [enlists?, hk, ih]
      · simp [enlists?, hk, ih]
    | _ =>
      rw [List.filterMap_cons_none rfl, ih]
      simp

/-! ## While the worker calls -/

theorem Step.calling (h : Step s a notes t) (horderly : Orderly s)
    (hworker : s.worker = .calling found left) (hno : a ≠ .rest) :
    ∃ called rest, left = called ++ rest ∧ t.worker = .calling found rest ∧
      calls notes = called.map (·, found) := by
  cases h with
  | enlist | startAgain | startRefused | cancel | takeHandle | takeNothing =>
    exact ⟨[], left, rfl, hworker, rfl⟩
  | spawn caller free => exact absurd (horderly.absent caller) (by simp [hworker])
  | call found' l rest crashes worker =>
    obtain ⟨rfl, rfl⟩ := Worker.calling.inj (hworker.symm.trans worker)
    exact ⟨[l], rest, rfl, rfl, called_call l found crashes _⟩
  | restAfterCalls | restUnchanged => exact absurd rfl hno
  | joined n ending waits worker => exact absurd (hworker.symm.trans worker) (by simp)
  | stop _ worker | begin _ worker | unchanged _ _ worker | changed _ _ worker | copy _ worker
  | wake worker | interrupt worker | crash worker =>
    exact absurd (hworker.symm.trans worker) (by simp)

theorem run_calling {during : List Action} {z : Noted Note Scanner} (horderly : Orderly s)
    (hworker : s.worker = .calling found left) (hno : .rest ∉ during)
    (h : s.run during = some z) :
    ∃ called rest, left = called ++ rest ∧ z.value.worker = .calling found rest ∧
      calls z.notes = called.map (·, found) := by
  induction during generalizing s left z with
  | nil =>
    obtain rfl := Option.some.inj h
    exact ⟨[], left, rfl, hworker, rfl⟩
  | cons a during ih =>
    obtain ⟨x, y, hx, hy, rfl⟩ := runWith_cons_iff.mp h
    have hstep := step_of_eq hx
    rw [List.mem_cons, not_or] at hno
    obtain ⟨called, rest, rfl, hnext, hcalls⟩ := hstep.calling horderly hworker (Ne.symm hno.1)
    obtain ⟨later, last, rfl, hend, hmore⟩ := ih (horderly.step hstep) hnext hno.2 hy
    refine ⟨called ++ later, last, by simp, hend, ?_⟩
    rw [calls_append, hcalls, hmore, List.map_append]

theorem Step.rested (h : Step s .rest notes t) (hworker : s.worker = .calling found left) :
    left = [] := by
  cases h with
  | restAfterCalls found' worker =>
    exact (Worker.calling.inj (hworker.symm.trans worker)).2
  | restUnchanged worker => exact absurd (hworker.symm.trans worker) (by simp)

/-! ## When the worker calls -/

theorem Step.calling_before (h : Step s a notes t) (hworker : t.worker = .calling found left) :
    a = .copy ∨ a ≠ .rest ∧ ∃ rest, s.worker = .calling found rest := by
  cases h with
  | copy => exact Or.inl rfl
  | enlist | startAgain | startRefused | cancel | takeHandle | takeNothing | joined =>
    exact Or.inr ⟨by simp, left, hworker⟩
  | call found' l rest crashes worker =>
    obtain ⟨rfl, rfl⟩ := Worker.calling.inj hworker
    exact Or.inr ⟨by simp, _, worker⟩
  | spawn | stop | begin | unchanged | changed | restAfterCalls | restUnchanged | wake | interrupt
  | crash => exact absurd hworker (by simp)

theorem run_calling_since {actions : List Action} {y : Noted Note Scanner}
    (h : (new settings).run actions = some y) (hworker : y.value.worker = .calling found left) :
    ∃ before during, actions = before ++ .copy :: during ∧ .rest ∉ during := by
  refine runWith_induction (motive := fun actions _ s => ∀ left, s.worker = .calling found left →
    ∃ before during, actions = before ++ .copy :: during ∧ .rest ∉ during) ?_ ?_ h left hworker
  · intro left hcalling
    exact absurd hcalling (by simp [new])
  · intro actions notes s a x _ ih hstep left hcalling
    rcases (step_of_eq hstep).calling_before hcalling with rfl | ⟨hno, rest, hold⟩
    · exact ⟨actions, [], rfl, List.not_mem_nil⟩
    · obtain ⟨before, during, rfl, hduring⟩ := ih rest hold
      refine ⟨before, during ++ [a], by simp, ?_⟩
      simpa [hduring] using Ne.symm hno

/-! ## The law -/

/-- The notes of a copy that comes right after these actions. -/
def copyAfter (settings : ScanSettings) (before : List Action) : Option (List Note) :=
  ((new settings).run before).bind fun y => (y.value.step .copy).map Noted.notes

/-- The calls that are made in a stretch of a run. -/
def callsIn (settings : ScanSettings) (before during : List Action) :
    Option (List (Listener × Inventory)) :=
  ((new settings).run before).bind fun y => (y.value.run during).map fun z => calls z.notes

/-- How registrations and calls fit together, wherever a run is cut. A registration counts from the
moment when the longer list is in place, also if its caller could not start the worker then. -/
structure InTurn (settings : ScanSettings) (actions : List Action) : Prop where
  /-- A copy has every registration before it, as often as it was made. -/
  copied : ∀ before after, actions = before ++ .copy :: after →
    copyAfter settings before = some [.copied (registered before)] ∧
      ∀ l, (registered before).count l = before.count (.enlist l)
  /-- A later copy begins with the earlier one, and goes on with who has come since. -/
  grown : ∀ before between after, actions = before ++ .copy :: between ++ .copy :: after →
    copyAfter settings (before ++ .copy :: between) =
      some [.copied (registered before ++ registered between)]
  /-- After a copy and until its rest, the worker calls those of the copy in their order. -/
  calling : ∀ before during after, actions = before ++ .copy :: during ++ after → .rest ∉ during →
    ∃ found called left, registered before = called ++ left ∧
      callsIn settings (before ++ [.copy]) during = some (called.map (·, found))
  /-- When it rests it has called all of them, and nobody who has come since. -/
  called : ∀ before during after, actions = before ++ .copy :: during ++ .rest :: after →
    .rest ∉ during → ∃ found,
      callsIn settings (before ++ [.copy]) during = some ((registered before).map (·, found))
  /-- Who has come during the calls or after them is called in the next cycle with news. -/
  next : ∀ before during between later after,
    actions = before ++ .copy :: during ++ .rest :: between ++ .copy :: later ++ .rest :: after →
    .rest ∉ later → ∃ found,
      callsIn settings (before ++ .copy :: during ++ .rest :: between ++ [.copy]) later =
        some ((registered before ++ registered during ++ registered between).map (·, found))
  /-- There are no other calls. -/
  only : ∀ before crashes after, actions = before ++ .call crashes :: after →
    ∃ earlier during, before = earlier ++ .copy :: during ∧ .rest ∉ during

variable {actions before during after : List Action} {x : Noted Note Scanner}

/-- A copy is of all that have registered, and they are called from then on. -/
theorem run_to_copy (h : (new settings).run (before ++ .copy :: after) = some x) :
    ∃ y u z found, (new settings).run before = some y ∧ y.value.step .copy = some u ∧
      u.notes = [.copied (registered before)] ∧ Orderly u.value ∧
      u.value.worker = .calling found (registered before) ∧ u.value.run after = some z := by
  obtain ⟨y, z, hy, hz, -⟩ := runWith_append_iff.mp h
  obtain ⟨⟨next, notes⟩, v, hu, hv, -⟩ := runWith_cons_iff.mp hz
  have hstep := step_of_eq hu
  have horderly := (run_orderly hy).step hstep
  have hlisteners := (run_roster hy).listeners
  cases hstep with
  | copy found worker =>
    exact ⟨y, _, v, found, hy, hu, by rw [hlisteners], horderly, by rw [hlisteners], hv⟩

theorem copyAfter_eq (h : (new settings).run (before ++ .copy :: after) = some x) :
    copyAfter settings before = some [.copied (registered before)] := by
  obtain ⟨y, u, z, found, hy, hcopy, hnotes, -, -, -⟩ := run_to_copy h
  simp [copyAfter, hy, hcopy, hnotes]

theorem callsIn_eq (h : (new settings).run (before ++ .copy :: during ++ after) = some x)
    (hno : .rest ∉ during) :
    ∃ (s : Scanner) (z : Noted Note Scanner) (found : Inventory) (called left : List Listener),
      registered before = called ++ left ∧
      callsIn settings (before ++ [.copy]) during = some (called.map (·, found)) ∧
      s.worker = .calling found left ∧ s.run after = some z := by
  rw [List.append_assoc, List.cons_append] at h
  obtain ⟨y, u, z, found, hy, hcopy, -, horderly, hworker, hz⟩ := run_to_copy h
  obtain ⟨v, w, hv, hw, -⟩ := runWith_append_iff.mp hz
  obtain ⟨called, left, hall, hend, hcalls⟩ := run_calling horderly hworker hno hv
  refine ⟨v.value, w, found, called, left, hall, ?_, hend, hw⟩
  have hreached : (new settings).run (before ++ [.copy]) = some ⟨u.value, y.notes ++ u.notes⟩ :=
    runWith_append_iff.mpr ⟨y, u, hy, (runWith_singleton _ _).trans hcopy, rfl⟩
  rw [callsIn, hreached, Option.bind_some, ← hcalls]
  exact congrArg (Option.map _) hv

theorem callsIn_rested
    (h : (new settings).run (before ++ .copy :: during ++ .rest :: after) = some x)
    (hno : .rest ∉ during) :
    ∃ found, callsIn settings (before ++ [.copy]) during =
      some ((registered before).map (·, found)) := by
  obtain ⟨s, z, found, called, left, hall, hcalls, hworker, hz⟩ := callsIn_eq h hno
  obtain ⟨u, v, hu, -, -⟩ := runWith_cons_iff.mp hz
  have hleft := (step_of_eq hu).rested hworker
  rw [hall, hleft, List.append_nil]
  exact ⟨found, hcalls⟩

theorem run_inTurn (h : (new settings).run actions = some x) : InTurn settings actions := by
  refine ⟨?_, ?_, ?_, ?_, ?_, ?_⟩
  · rintro before after rfl
    exact ⟨copyAfter_eq h, count_registered before⟩
  · rintro before between after rfl
    have hcopy := copyAfter_eq h
    rwa [registered_append, registered_cons_none rfl] at hcopy
  · rintro before during after rfl hno
    obtain ⟨s, z, found, called, left, hall, hcalls, -, -⟩ := callsIn_eq h hno
    exact ⟨found, called, left, hall, hcalls⟩
  · rintro before during after rfl hno
    exact callsIn_rested h hno
  · rintro before during between later after rfl hno
    obtain ⟨found, hcalls⟩ := callsIn_rested h hno
    rw [registered_append, registered_append, registered_cons_none rfl,
      registered_cons_none rfl] at hcalls
    exact ⟨found, hcalls⟩
  · rintro before crashes after rfl
    obtain ⟨y, z, hy, hz, -⟩ := runWith_append_iff.mp h
    obtain ⟨⟨next, notes⟩, v, hu, -, -⟩ := runWith_cons_iff.mp hz
    cases step_of_eq hu with
    | call found l left _ worker => exact run_calling_since hy worker

/-- However callers and the worker interleave: locked registrations amount to whole ones, whole ones
are never kept from being made, and everybody is called in turn. -/
theorem registrations_take_their_turn (settings : ScanSettings) :
    (∀ moves x, (Guarded.new settings).run moves = some x →
      (new settings).run (Move.actions moves) = some ⟨x.value.scanner, x.notes⟩ ∧
        InTurn settings (Move.actions moves)) ∧
      ∀ actions y, (new settings).run actions = some y →
        (Guarded.new settings).run (actions.flatMap movesOf) =
          some ⟨{ scanner := y.value }, y.notes⟩ ∧ InTurn settings actions := by
  refine ⟨fun moves x h => ?_, fun actions y h => ⟨run_guarded h, run_inTurn h⟩⟩
  have hrun := guarded_run h
  exact ⟨hrun, run_inTurn hrun⟩

/-- One registers between the survey and the copy, and one while the first cycle calls. -/
def lateComers : List Move :=
  [.lock 1, .read, .publish 1, .act (.start true), .act .look, .lock 2,
    .act (.survey { serial := .found ["COM1"] }), .read, .publish 2, .act .copy, .lock 3,
    .act (.call true), .read, .publish 3, .act (.call false), .act .rest, .act (.wake .rested),
    .act .look, .act (.survey { serial := .crashed }), .act .copy, .act (.call false),
    .act (.call false), .act (.call false), .act .rest]

theorem registrations_take_their_turn_when_late :
    ∃ x, (Guarded.new {}).run lateComers = some x ∧ InTurn {} (Move.actions lateComers) ∧
      calls x.notes =
        [(1, { listed := ["Auto Serial", "COM1", "SocketCAN"] }),
          (2, { listed := ["Auto Serial", "COM1", "SocketCAN"] }),
          (1, { listed := ["SocketCAN"] }), (2, { listed := ["SocketCAN"] }),
          (3, { listed := ["SocketCAN"] })] := by
  have hrun : ((Guarded.new {}).run lateComers).map (fun x => calls x.notes) =
      some [(1, { listed := ["Auto Serial", "COM1", "SocketCAN"] }),
        (2, { listed := ["Auto Serial", "COM1", "SocketCAN"] }),
        (1, { listed := ["SocketCAN"] }), (2, { listed := ["SocketCAN"] }),
        (3, { listed := ["SocketCAN"] })] := by
    decide +kernel
  obtain ⟨x, hx, hcalls⟩ := Option.map_eq_some_iff.mp hrun
  exact ⟨x, hx, ((registrations_take_their_turn {}).1 lateComers x hx).2, hcalls⟩

end LinkWatch.Scanner
