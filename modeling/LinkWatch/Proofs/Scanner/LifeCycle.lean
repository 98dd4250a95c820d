import LinkWatch.Proofs.Scanner.Course

/-! # The life of the worker: it starts once, ends between cycles, and stays ended -/

namespace LinkWatch.Scanner

variable {settings : ScanSettings} {actions : List Action} {notes : List Note}
variable {s t : Scanner} {a : Action}

/-! ## The start -/

def enlists? : Action → Option Listener
  | .enlist l => some l
  | _ => none

/-- Who has been registered, in their order. -/
def registered (actions : List Action) : List Listener := actions.filterMap enlists?

/-- Only the first registration starts the worker. -/
structure Roster (actions : List Action) (notes : List Note) (s : Scanner) : Prop where
  listeners : s.listeners = registered actions
  /-- The first has started a worker, or the system has refused one, or it is about to start it. -/
  first : notes.count .spawned + actions.count (.start false) + s.starting =
    min 1 (registered actions).length
  absent : s.worker = .absent → s.handle = false

theorem registered_concat (h : enlists? a = none) :
    registered (actions ++ [a]) = registered actions := by
  rw [registered, List.filterMap_append, List.filterMap_cons_none h, List.filterMap_nil,
    List.append_nil, registered]

theorem roster_new (settings : ScanSettings) : Roster [] [] (new settings) :=
  ⟨rfl, rfl, fun _ => rfl⟩

theorem Roster.go_on {more : List Note} (h : Roster actions notes s) (hnobody : enlists? a = none)
    (hstart : a ≠ .start false) (hquiet : .spawned ∉ more) (hlisteners : t.listeners = s.listeners)
    (hstarting : t.starting = s.starting) (habsent : t.worker = .absent → t.handle = false) :
    Roster (actions ++ [a]) (notes ++ more) t := by
  refine ⟨?_, ?_, habsent⟩
  · rw [registered_concat hnobody, hlisteners, h.listeners]
  · rw [registered_concat hnobody, List.count_append, List.count_append, hstarting,
      List.count_eq_zero_of_not_mem hquiet, List.count_eq_zero_of_not_mem (l := [a]) (by
        simpa using hstart.symm), ← h.first]
    rfl

theorem Roster.enlist (h : Roster actions notes s) (l : Listener) :
    Roster (actions ++ [.enlist l]) (notes ++ [.enlisted l]) (s.withListener l) := by
  have hmore : registered (actions ++ [.enlist l]) = registered actions ++ [l] := by
    rw [registered, List.filterMap_append]
    rfl
  have hfirst := h.first
  refine ⟨?_, ?_, h.absent⟩
  · rw [hmore, ← h.listeners]
    rfl
  · have hstarting : (s.withListener l).starting =
        s.starting + if (registered actions).isEmpty then 1 else 0 := by
      rw [← h.listeners]
      rfl
    have hnote : [Note.enlisted l].count .spawned = 0 := rfl
    have haction : [Action.enlist l].count (.start false) = 0 := rfl
    rw [hmore, hstarting, List.count_append, List.count_append, hnote, haction,
      List.length_append, List.length_singleton]
    cases hsome : registered actions with
    | nil =>
      rw [hsome, List.length_nil] at hfirst
      rw [List.isEmpty_nil, if_pos rfl, List.length_nil]
      omega
    | cons k ks =>
      rw [hsome, List.length_cons] at hfirst
      rw [List.isEmpty_cons, if_neg Bool.false_ne_true, List.length_cons]
      omega

theorem Roster.started {spawns : Bool} {more : List Note} (h : Roster actions notes s)
    (hcaller : s.starting ≠ 0) (hlisteners : t.listeners = s.listeners)
    (hstarting : t.starting = s.starting - 1)
    (hone : more.count .spawned + [Action.start spawns].count (.start false) = 1)
    (habsent : t.worker = .absent → t.handle = false) :
    Roster (actions ++ [.start spawns]) (notes ++ more) t := by
  refine ⟨?_, ?_, habsent⟩
  · rw [registered_concat rfl, hlisteners, h.listeners]
  · rw [registered_concat rfl, List.count_append, List.count_append, hstarting, ← h.first]
    omega

theorem Roster.step {more : List Note} (h : Roster actions notes s) (horderly : Orderly s)
    (hstep : Step s a more t) : Roster (actions ++ [a]) (notes ++ more) t := by
  cases hstep with
  | enlist l => exact h.enlist l
  | startAgain spawns caller there =>
    exact absurd (h.absent (horderly.absent caller)) (by simp [there])
  | startRefused caller free => exact h.started caller rfl rfl rfl h.absent
  | spawn caller free => exact h.started caller rfl rfl rfl fun hw => absurd hw (by simp)
  | cancel => exact h.go_on rfl (by simp) (by simp) rfl rfl h.absent
  | takeHandle there => exact h.go_on rfl (by simp) (by simp) rfl rfl fun _ => rfl
  | takeNothing free => exact h.go_on rfl (by simp) (by simp) rfl rfl h.absent
  | joined => exact h.go_on rfl (by simp) (by simp) rfl rfl h.absent
  | stop | begin | unchanged | changed | copy | call | restAfterCalls | restUnchanged | wake
  | interrupt | crash =>
    exact h.go_on rfl (by simp) (by simp [surveyNotes]) rfl rfl fun hw => absurd hw (by simp)

theorem run_roster {x : Noted Note Scanner} (h : (new settings).run actions = some x) :
    Roster actions x.notes x.value :=
  runWith_induction (roster_new settings)
    (fun _ _ _ _ _ hrun hs hstep => hs.step (run_orderly hrun) (step_of_eq hstep)) h

theorem Step.copied {ls : List Listener} (h : Step s a notes t) (hls : .copied ls ∈ notes) :
    ls = s.listeners := by
  cases h with
  | copy found worker => exact Note.copied.inj (List.mem_singleton.mp hls)
  | _ => exact absurd hls (by simp [surveyNotes])

/-! ## Cancelling -/

theorem Step.cancelled (h : Step s a notes t) (hc : s.cancelled = true) :
    t.cancelled = true ∧ ∀ full, .began full ∉ notes := by
  cases h with
  | cancel => exact ⟨rfl, by simp⟩
  | begin full worker goes => exact absurd hc (by simp [goes])
  | _ => exact ⟨hc, by simp [surveyNotes]⟩

theorem run_cancelled {y : Noted Note Scanner} (hc : s.cancelled = true)
    (h : s.run actions = some y) : y.value.cancelled = true ∧ ∀ full, .began full ∉ y.notes := by
  refine runWith_induction
    (motive := fun _ notes t => t.cancelled = true ∧ ∀ full, .began full ∉ notes) ?_ ?_ h
  · exact ⟨hc, fun _ => List.not_mem_nil⟩
  · rintro _ notes t a x - ⟨hcancelled, hno⟩ hstep
    obtain ⟨hstays, hnone⟩ := (step_of_eq hstep).cancelled hcancelled
    refine ⟨hstays, fun full hmem => ?_⟩
    rcases List.mem_append.mp hmem with hold | hnew
    · exact hno full hold
    · exact hnone full hnew

theorem run_cancel {x : Noted Note Scanner} {before after : List Action}
    (h : s.run (before ++ .cancel :: after) = some x) :
    x.value.cancelled = true ∧ ∃ y, s.run before = some y ∧
      ∀ full, .began full ∈ x.notes → .began full ∈ y.notes := by
  obtain ⟨y, z, hy, hz, rfl⟩ := runWith_append_iff.mp h
  obtain ⟨u, v, hu, hv, rfl⟩ := runWith_cons_iff.mp hz
  obtain rfl := Option.some.inj hu
  obtain ⟨hcancelled, hno⟩ := run_cancelled (s := { y.value with cancelled := true }) rfl hv
  refine ⟨hcancelled, y, hy, fun full hmem => ?_⟩
  rcases List.mem_append.mp hmem with hold | hnew
  · exact hold
  · exact absurd hnew (hno full)

/-! ## The end -/

/-- Nothing more comes of the worker. -/
structure Still (s : Scanner) (more : List Note) (t : Scanner) : Prop where
  deeds : deeds more = []
  unstarted : .spawned ∉ more
  held : t.held = s.held
  worker : t.worker = s.worker

theorem Step.still {ending : Ending} (h : Step s a notes t) (horderly : Orderly s)
    (hworker : s.worker = .ended ending) : Still s notes t := by
  cases h with
  | enlist | cancel | takeHandle | takeNothing | startAgain | startRefused =>
    exact ⟨rfl, by simp, rfl, rfl⟩
  | spawn caller free => exact absurd (horderly.absent caller) (by simp [hworker])
  | joined n ending waits worker =>
    by_cases he : ending = .crashed
    · rw [if_pos he]
      exact ⟨rfl, by simp, rfl, rfl⟩
    · rw [if_neg he]
      exact ⟨rfl, by simp, rfl, rfl⟩
  | stop _ worker | begin _ worker | unchanged _ _ worker | changed _ _ worker | copy _ worker
  | call _ _ _ _ worker | restAfterCalls _ worker | restUnchanged worker | wake worker
  | interrupt worker | crash worker => exact absurd (worker.symm.trans hworker) (by simp)

theorem run_still {ending : Ending} {y : Noted Note Scanner} (horderly : Orderly s)
    (hworker : s.worker = .ended ending) (h : s.run actions = some y) :
    Still s y.notes y.value := by
  have hboth : Orderly y.value ∧ Still s y.notes y.value := by
    refine runWith_induction (motive := fun _ more t => Orderly t ∧ Still s more t)
      ⟨horderly, rfl, List.not_mem_nil, rfl, rfl⟩ ?_ h
    rintro _ more t a x - ⟨hordered, hstill⟩ hstep
    have hnext := step_of_eq hstep
    have hlast := hnext.still hordered (hstill.worker.trans hworker)
    refine ⟨hordered.step hnext, ?_, ?_, hlast.held.trans hstill.held,
      hlast.worker.trans hstill.worker⟩
    · rw [deeds_append, hstill.deeds, hlast.deeds]
      rfl
    · intro hmem
      rcases List.mem_append.mp hmem with hold | hnew
      · exact hstill.unstarted hold
      · exact hlast.unstarted hnew
  exact hboth.2

/-! ## Cycles under way -/

/-- What the worker does next within a cycle, whatever its probes answer and its listeners do. -/
inductive Next : Worker → Action → Prop
  | survey (full : Bool) (answers : Answers) : Next (.surveying full) (.survey answers)
  | copy (found : Inventory) : Next (.copying found) .copy
  | call (found : Inventory) (l : Listener) (left : List Listener) (crashes : Bool) :
    Next (.calling found (l :: left)) (.call crashes)
  | restAfterCalls (found : Inventory) : Next (.calling found []) .rest
  | rest : Next .finishing .rest

/-- Whatever it meets, the worker can go on with its cycle, and comes to its rest. -/
inductive Completes : Scanner → Prop
  | resting {s : Scanner} (worker : s.worker = .resting) : Completes s
  | next {s : Scanner} (busy : ∃ a, Next s.worker a)
    (possible : ∀ a, Next s.worker a → (s.step a).isSome)
    (goesOn : ∀ a x, Next s.worker a → s.step a = some x → Completes x.value) : Completes s

theorem Completes.of_steps {w : Worker} (hworker : s.worker = w) {a₀ : Action} (busy : Next w a₀)
    (h : ∀ a, Next w a → ∃ x, s.step a = some x ∧ Completes x.value) : Completes s := by
  subst hworker
  refine .next ⟨a₀, busy⟩ (fun a ha => ?_) fun a x ha hx => ?_
  · obtain ⟨x, hx, -⟩ := h a ha
    rw [hx]
    rfl
  · obtain ⟨y, hy, hcompletes⟩ := h a ha
    obtain rfl := Option.some.inj (hy.symm.trans hx)
    exact hcompletes

theorem completes_finishing (hworker : s.worker = .finishing) : Completes s := by
  refine .of_steps hworker .rest fun a ha => ?_
  cases ha with
  | rest => exact ⟨_, eq_of_step (.restUnchanged hworker), .resting rfl⟩

theorem completes_calling {found : Inventory} {left : List Listener}
    (hworker : s.worker = .calling found left) : Completes s := by
  induction left generalizing s with
  | nil =>
    refine .of_steps hworker (.restAfterCalls found) fun a ha => ?_
    cases ha with
    | restAfterCalls => exact ⟨_, eq_of_step (.restAfterCalls found hworker), .resting rfl⟩
  | cons l left ih =>
    refine .of_steps hworker (.call found l left false) fun a ha => ?_
    cases ha with
    | call _ _ _ crashes => exact ⟨_, eq_of_step (.call found l left crashes hworker), ih rfl⟩

theorem completes_copying {found : Inventory} (hworker : s.worker = .copying found) :
    Completes s := by
  refine .of_steps hworker (.copy found) fun a ha => ?_
  cases ha with
  | copy => exact ⟨_, eq_of_step (.copy found hworker), completes_calling rfl⟩

theorem completes_surveying {full : Bool} (hworker : s.worker = .surveying full) :
    Completes s := by
  refine .of_steps hworker (.survey full {}) fun a ha => ?_
  cases ha with
  | survey _ answers =>
    by_cases hsame : s.found full answers = s.held
    · exact ⟨_, eq_of_step (.unchanged full answers hworker hsame), completes_finishing rfl⟩
    · exact ⟨_, eq_of_step (.changed full answers hworker hsame), completes_copying rfl⟩

def underWay : Worker → Bool
  | .surveying _ | .copying _ | .calling _ _ | .finishing => true
  | .absent | .top _ | .resting | .ended _ => false

theorem completes_of_underWay (h : underWay s.worker = true) : Completes s := by
  cases hworker : s.worker with
  | surveying full => exact completes_surveying hworker
  | copying found => exact completes_copying hworker
  | calling found left => exact completes_calling hworker
  | finishing => exact completes_finishing hworker
  | absent | top | resting | ended => exact absurd h (by simp [hworker, underWay])

/-! ## The law -/

/-- What holds of the worker after a run, and from then on. -/
structure LifeCycle (actions : List Action) (x : Noted Note Scanner) : Prop where
  /-- The first registration has started the worker, or the system has refused it, or it is about
  to start it. Nothing else has started one. -/
  first : x.notes.count .spawned + actions.count (.start false) + x.value.starting =
    min 1 (registered actions).length
  /-- Another registration only adds its listener. -/
  further : registered actions ≠ [] → ∀ l, x.value.step (.enlist l) =
    some ⟨{ x.value with listeners := x.value.listeners ++ [l] }, [.enlisted l]⟩
  /-- The worker has made whole cycles and is in another one or between two, or it has ended
  there. A whole cycle asks all its probes and calls all its audience. -/
  course : Course (deeds x.notes) x.value.held x.value.worker
  /-- The audience of a cycle are all that are registered when it copies their list. -/
  audience : ∀ a y ls, x.value.step a = some y → .copied ls ∈ y.notes → ls = registered actions
  /-- Once it has been cancelled no cycle begins. -/
  stopped : .cancel ∈ actions → ∀ later y, x.value.run later = some y →
    ∀ full, .began full ∉ y.notes
  /-- But a cycle under way is completed, cancelled or not. -/
  completes : underWay x.value.worker = true → Completes x.value
  /-- An interrupted rest is the end. -/
  interrupted : ∀ y, x.value.step (.wake .interrupted) = some y →
    y.value.worker = .ended .interrupted ∧ deeds y.notes = [.ended .interrupted] ∧
      ∀ later z, y.value.run later = some z → Still y.value z.notes z.value
  /-- Nothing wakes the worker once it has ended. -/
  finished : ∀ ending, x.value.worker = .ended ending → x.value.running = false ∧
    ∀ later y, x.value.run later = some y → Still x.value y.notes y.value
  /-- Cancelled before the first registration, it makes no cycle at all. -/
  stillborn : ∀ before after, actions = before ++ .cancel :: after → registered before = [] →
    x.value.held = .empty ∧ (deeds x.notes = [] ∨ ∃ ending, deeds x.notes = [.ended ending])

theorem unbegun_of_stillborn {x : Noted Note Scanner} {before after : List Action}
    (h : (new settings).run (before ++ .cancel :: after) = some x)
    (hnobody : registered before = []) : ∀ full, .began full ∉ deeds x.notes := by
  obtain ⟨-, y, hy, hearlier⟩ := run_cancel h
  -- Nobody was registered until then, so there was no worker that could have begun anything.
  have habsent : y.value.worker = .absent :=
    ((run_orderly hy).unheard ((run_roster hy).listeners.trans hnobody)).2
  have hcourse := run_course hy
  rw [habsent] at hcourse
  intro full hmem
  have hbegan := mem_deeds_began.mpr (hearlier full (mem_deeds_began.mp hmem))
  rw [hcourse.absent_nil] at hbegan
  exact absurd hbegan List.not_mem_nil

theorem the_worker_lives_once {x : Noted Note Scanner} (h : (new settings).run actions = some x) :
    LifeCycle actions x := by
  have hroster := run_roster h
  have horderly := run_orderly h
  refine ⟨hroster.first, ?_, run_course h, ?_, ?_, completes_of_underWay, ?_, ?_, ?_⟩
  · intro hsome l
    have hheard : x.value.listeners.isEmpty = false := by
      rw [hroster.listeners]
      exact List.isEmpty_eq_false_iff.mpr hsome
    have henlist := eq_of_step (.enlist (s := x.value) l)
    rwa [withListener, hheard] at henlist
  · intro a y ls hy hls
    exact ((step_of_eq hy).copied hls).trans hroster.listeners
  · intro hcancel later y hy
    obtain ⟨before, after, rfl⟩ := List.append_of_mem hcancel
    exact (run_cancelled (run_cancel h).1 hy).2
  · intro y hy
    have hstep := step_of_eq hy
    have hafter := horderly.step hstep
    have hended : y.value.worker = .ended .interrupted ∧ deeds y.notes = [.ended .interrupted] := by
      obtain ⟨t, more⟩ := y
      cases hstep with
      | interrupt worker => exact ⟨rfl, rfl⟩
    exact ⟨hended.1, hended.2, fun later z hz => run_still hafter hended.1 hz⟩
  · intro ending hworker
    refine ⟨by simp [running, hworker, Worker.alive], fun later y hy => ?_⟩
    exact run_still horderly hworker hy
  · rintro before after rfl hnobody
    exact (run_course h).unbegun (unbegun_of_stillborn h hnobody)

/-- The worker is cancelled in its first cycle, and waited for before another registration. -/
def cancelledLife : List Action :=
  [.enlist 1, .start true, .look, .cancel, .survey { serial := .found ["COM1"] }, .copy,
    .call true, .rest, .wake .rested, .takeHandle, .look, .joined, .enlist 2, .cancel]

theorem the_worker_lives_once_when_cancelled :
    ∃ x found, (new {}).run cancelledLife = some x ∧ LifeCycle cancelledLife x ∧
      x.notes.count .spawned = 1 ∧ deeds x.notes = [.began false, .asked .serial, .held found,
        .copied [1], .called 1 found, .rests, .ended .stopped] := by
  have hrun : ((new {}).run cancelledLife).map (fun x => (x.notes.count .spawned, deeds x.notes)) =
      some (1, [.began false, .asked .serial,
        .held { listed := ["Auto Serial", "COM1", "SocketCAN"] }, .copied [1],
        .called 1 { listed := ["Auto Serial", "COM1", "SocketCAN"] }, .rests,
        .ended .stopped]) := by
    decide +kernel
  obtain ⟨x, hx, hsummary⟩ := Option.map_eq_some_iff.mp hrun
  obtain ⟨hspawned, hdeeds⟩ := Prod.mk.inj hsummary
  exact ⟨x, _, hx, the_worker_lives_once hx, hspawned, hdeeds⟩

end LinkWatch.Scanner
