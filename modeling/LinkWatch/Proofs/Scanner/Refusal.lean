import LinkWatch.Failure.SystemError
import LinkWatch.Proofs.Scanner.Audience

/-! # Registrations, where the system may refuse a thread for the worker -/

namespace LinkWatch.Scanner

variable {settings : ScanSettings} {s t : Scanner} {a : Action} {l : Listener}
variable {actions later : List Action} {notes : List Note} {x z : Noted Note Scanner}

/-! ## One registration -/

theorem register_further (h : s.listeners ≠ []) (l : Listener) (thread : Except IoFailure Unit) :
    s.register l thread =
      ⟨(.ok (), { s with listeners := s.listeners ++ [l] }), [.enlisted l]⟩ := by
  have hheard : s.listeners.isEmpty = false := List.isEmpty_eq_false_iff.mpr h
  simp [register, hheard, note, bind, pure]

theorem register_refused (h : s.listeners = []) (hfree : s.handle = false) (l : Listener)
    (failure : IoFailure) :
    s.register l (.error failure) =
      ⟨(.error (.spawn failure), { s with listeners := [l] }), [.enlisted l, .spawnRefused]⟩ := by
  simp [register, startWorker, h, hfree, note, bind, pure, Except.isOk, Except.toBool,
    Except.mapError]

theorem register_granted (h : s.listeners = []) (hfree : s.handle = false) (l : Listener) :
    s.register l (.ok ()) =
      ⟨(.ok (), { s with listeners := [l], worker := .top false, handle := true }),
        [.enlisted l, .spawned, .logged ⟨.info, "Ports scanner started"⟩]⟩ := by
  simp [register, startWorker, h, hfree, note, bind, pure, Except.isOk, Except.toBool,
    Except.mapError]

theorem register_listeners (s : Scanner) (l : Listener) (thread : Except IoFailure Unit) :
    (s.register l thread).value.2.listeners = s.listeners ++ [l] := by
  unfold register startWorker
  cases hlisteners : s.listeners.isEmpty with
  | false => rfl
  | true =>
    cases hhandle : s.handle with
    | true => simp
    | false =>
      cases thread with
      | error | ok => rfl

/-- The actions of a registration that nobody interrupts. -/
def registering (s : Scanner) (l : Listener) (thread : Except IoFailure Unit) : List Action :=
  .enlist l :: if s.listeners.isEmpty then [.start thread.isOk] else []

theorem run_register (s : Scanner) (l : Listener) (thread : Except IoFailure Unit) :
    s.run (s.registering l thread) =
      some ⟨(s.register l thread).value.2, (s.register l thread).notes⟩ := by
  cases hlisteners : s.listeners with
  | nil => simp [registering, register, run, runWith, step, hlisteners, note]
  | cons k ks => simp [registering, register, run, runWith, step, hlisteners, note]

theorem registered_registering (s : Scanner) (l : Listener) (thread : Except IoFailure Unit) :
    registered (s.registering l thread) = [l] := by
  unfold registering registered
  cases s.listeners.isEmpty with
  | true | false => rfl

/-! ## One registration after the other -/

structure Registration where
  listener : Listener
  /-- What the system says if it is asked for a thread. -/
  thread : Except IoFailure Unit

/-- The registrations with what their callers are told. -/
def registerAll (s : Scanner) :
    List Registration → Noted Note (List (Except RegisterError Unit) × Scanner)
  | [] => pure ([], s)
  | r :: rs => do
    let first ← s.register r.listener r.thread
    let rest ← first.2.registerAll rs
    return (first.1 :: rest.1, rest.2)

def registeringAll (s : Scanner) : List Registration → List Action
  | [] => []
  | r :: rs =>
    s.registering r.listener r.thread ++
      (s.register r.listener r.thread).value.2.registeringAll rs

def enrolled (rs : List Registration) : List Listener := rs.map Registration.listener

variable {r : Registration} {rs : List Registration} {i : Nat}
variable {y : Noted Note (List (Except RegisterError Unit) × Scanner)}

theorem run_registerAll (s : Scanner) (rs : List Registration) :
    s.run (s.registeringAll rs) =
      some ⟨(s.registerAll rs).value.2, (s.registerAll rs).notes⟩ := by
  induction rs generalizing s with
  | nil => rfl
  | cons r rs ih =>
    refine runWith_append_iff.mpr ⟨_, _, run_register s r.listener r.thread, ih _, ?_⟩
    simp [registerAll]

theorem registered_registeringAll (s : Scanner) (rs : List Registration) :
    registered (s.registeringAll rs) = enrolled rs := by
  induction rs generalizing s with
  | nil => rfl
  | cons r rs ih =>
    rw [registeringAll, registered_append, registered_registering, ih]
    rfl

/-- Where somebody is registered, all further registrations succeed, and only enlist. -/
theorem registerAll_further (h : s.listeners ≠ []) (rs : List Registration) :
    s.registerAll rs =
      ⟨(rs.map fun _ => .ok (), { s with listeners := s.listeners ++ enrolled rs }),
        (enrolled rs).map .enlisted⟩ := by
  induction rs generalizing s with
  | nil => simp [registerAll, enrolled, pure]
  | cons r rs ih =>
    have hmore := register_further h r.listener r.thread
    have hrest := @ih { s with listeners := s.listeners ++ [r.listener] } (by simp)
    simp [registerAll, hmore, hrest, enrolled, bind, pure]

/-- The first registration of all is granted a thread or refused it. All others only enlist. -/
inductive Enrols (s : Scanner) :
    List Registration → Noted Note (List (Except RegisterError Unit) × Scanner) → Prop
  | nobody : Enrols s [] ⟨([], s), []⟩
  | further {rs : List Registration} (heard : s.listeners ≠ []) :
    Enrols s rs ⟨(rs.map fun _ => .ok (), { s with listeners := s.listeners ++ enrolled rs }),
      (enrolled rs).map .enlisted⟩
  | refused {r : Registration} {rs : List Registration} {failure : IoFailure}
    (unheard : s.listeners = []) (refuses : r.thread = .error failure) :
    Enrols s (r :: rs)
      ⟨(.error (.spawn failure) :: rs.map fun _ => .ok (),
          { s with listeners := r.listener :: enrolled rs }),
        .enlisted r.listener :: .spawnRefused :: (enrolled rs).map .enlisted⟩
  | granted {r : Registration} {rs : List Registration} (unheard : s.listeners = [])
    (grants : r.thread = .ok ()) :
    Enrols s (r :: rs)
      ⟨(.ok () :: rs.map fun _ => .ok (),
          { s with
            listeners := r.listener :: enrolled rs
            worker := .top false
            handle := true }),
        .enlisted r.listener :: .spawned :: .logged ⟨.info, "Ports scanner started"⟩ ::
          (enrolled rs).map .enlisted⟩

theorem registerAll_enrols (hfree : s.listeners = [] → s.handle = false)
    (rs : List Registration) : Enrols s rs (s.registerAll rs) := by
  by_cases hunheard : s.listeners = []
  · cases rs with
    | nil => exact .nobody
    | cons r rs =>
      cases hthread : r.thread with
      | error failure =>
        have hfirst := register_refused hunheard (hfree hunheard) r.listener failure
        have hrest := @registerAll_further { s with listeners := [r.listener] } (by simp) rs
        have hall : Enrols s (r :: rs) _ := .refused hunheard hthread
        simpa [registerAll, hthread, hfirst, hrest, bind, pure] using hall
      | ok done =>
        have hfirst := register_granted hunheard (hfree hunheard) r.listener
        have hrest := @registerAll_further
          { s with listeners := [r.listener], worker := .top false, handle := true } (by simp) rs
        have hall : Enrols s (r :: rs) _ := .granted hunheard hthread
        simpa [registerAll, hthread, hfirst, hrest, bind, pure] using hall
  · rw [registerAll_further hunheard]
    exact .further hunheard

theorem Enrols.starting (h : Enrols s rs y) : y.value.2.starting = s.starting := by
  cases h with
  | nobody | further | refused | granted => rfl

theorem getElem?_successes (h : rs[i]? = some r) :
    (rs.map fun _ => (.ok () : Except RegisterError Unit))[i]? = some (.ok ()) := by
  rw [List.getElem?_map, h]
  rfl

theorem Enrols.results (h : Enrols s rs y) (hr : rs[i]? = some r) :
    y.value.1[i]? =
      some (if i = 0 ∧ s.listeners = [] then r.thread.mapError .spawn else .ok ()) := by
  cases h with
  | nobody => exact absurd hr (by simp)
  | further heard =>
    rw [if_neg fun hfirst => heard hfirst.2]
    exact getElem?_successes hr
  | refused unheard refuses =>
    cases i with
    | zero =>
      obtain rfl := Option.some.inj hr
      simp [unheard, refuses, Except.mapError]
    | succ i =>
      rw [if_neg fun hfirst => absurd hfirst.1 (by simp)]
      exact getElem?_successes hr
  | granted unheard grants =>
    cases i with
    | zero =>
      obtain rfl := Option.some.inj hr
      simp [unheard, grants, Except.mapError]
    | succ i =>
      rw [if_neg fun hfirst => absurd hfirst.1 (by simp)]
      exact getElem?_successes hr

theorem Enrols.unchanged (h : Enrols s rs y) (hnone : .spawned ∉ y.notes) :
    y.value.2 = { s with listeners := s.listeners ++ enrolled rs } := by
  cases h with
  | nobody => simp [enrolled]
  | further => rfl
  | refused unheard => simp [unheard, enrolled]
  | granted => exact absurd hnone (by simp)

theorem registeringAll_further (h : s.listeners ≠ []) (rs : List Registration) :
    s.registeringAll rs = (enrolled rs).map .enlist := by
  induction rs generalizing s with
  | nil => rfl
  | cons r rs ih =>
    have hheard : s.listeners.isEmpty = false := List.isEmpty_eq_false_iff.mpr h
    have hrest := @ih { s with listeners := s.listeners ++ [r.listener] } (by simp)
    simp [registeringAll, registering, hheard, register_further h, hrest, enrolled]

theorem registeringAll_first (h : s.listeners = []) (r : Registration) (rs : List Registration) :
    s.registeringAll (r :: rs) =
      .enlist r.listener :: .start r.thread.isOk :: (enrolled rs).map .enlist := by
  have hheard : (s.register r.listener r.thread).value.2.listeners ≠ [] := by
    simp [register_listeners]
  rw [registeringAll, registeringAll_further hheard]
  simp [registering, h]

theorem Enrols.refused_iff (h : Enrols s rs y) :
    .start false ∈ s.registeringAll rs ↔ ∃ e, .error e ∈ y.value.1 := by
  cases h with
  | nobody => simp [registeringAll]
  | further heard => simp [registeringAll_further heard]
  | refused unheard refuses =>
    simp [registeringAll_first unheard, refuses, Except.isOk, Except.toBool]
  | granted unheard grants =>
    simp [registeringAll_first unheard, grants, Except.isOk, Except.toBool]

/-! ## After a refusal -/

/-- Somebody is registered, but there is no worker, and nobody who would start it. -/
structure Deserted (s : Scanner) : Prop where
  heard : s.listeners ≠ []
  worker : s.worker = .absent
  handle : s.handle = false
  starting : s.starting = 0

/-- All that can happen to it are registrations, and they change nothing about it. -/
theorem Step.deserted (h : Step s a notes t) (hs : Deserted s) :
    Deserted t ∧ notes = (enlists? a).toList.map .enlisted := by
  obtain ⟨hheard, hworker, hhandle, hstarting⟩ := id hs
  cases h with
  | enlist l =>
    have hlisteners : s.listeners.isEmpty = false := List.isEmpty_eq_false_iff.mpr hheard
    refine ⟨⟨by simp [withListener], hworker, hhandle, ?_⟩, rfl⟩
    simp [withListener, hlisteners, hstarting]
  | startAgain _ caller | startRefused caller | spawn caller => exact absurd hstarting caller
  | cancel => exact ⟨⟨hheard, hworker, hhandle, hstarting⟩, rfl⟩
  | takeHandle there => exact absurd (hhandle.symm.trans there) (by simp)
  | takeNothing => exact ⟨hs, rfl⟩
  | joined _ _ _ worker | stop _ worker | begin _ worker | unchanged _ _ worker
  | changed _ _ worker | copy _ worker | call _ _ _ _ worker | restAfterCalls _ worker
  | restUnchanged worker | wake worker | interrupt worker | crash worker =>
    exact absurd (hworker.symm.trans worker) (by simp)

theorem run_deserted (hs : Deserted s) (h : s.run later = some z) :
    Deserted z.value ∧ z.notes = (registered later).map .enlisted := by
  refine runWith_induction (motive := fun later notes t =>
    Deserted t ∧ notes = (registered later).map .enlisted) ⟨hs, rfl⟩ ?_ h
  rintro later notes t a x - ⟨hdeserted, rfl⟩ hstep
  obtain ⟨hnext, hnotes⟩ := (step_of_eq hstep).deserted hdeserted
  refine ⟨hnext, ?_⟩
  have hlast : registered [a] = (enlists? a).toList := by
    unfold registered
    cases hl : enlists? a with
    | none | some => simp [hl]
  rw [registered_append, List.map_append, hnotes, hlast]

theorem Step.refused (h : Step s (.start false) notes t) (horderly : Orderly s)
    (habsent : s.worker = .absent → s.handle = false) : Deserted t := by
  cases h with
  | startAgain _ caller there =>
    exact absurd (habsent (horderly.absent caller)) (by simp [there])
  | startRefused caller free =>
    have hsingle := horderly.single
    refine ⟨fun hnobody => caller (horderly.unheard hnobody).1, horderly.absent caller, free, ?_⟩
    show s.starting - 1 = 0
    omega

theorem run_refused (h : (new settings).run actions = some x) (hrefused : .start false ∈ actions) :
    Deserted x.value := by
  obtain ⟨before, after, rfl⟩ := List.append_of_mem hrefused
  obtain ⟨y, z, hy, hz, rfl⟩ := runWith_append_iff.mp h
  obtain ⟨u, v, hu, hv, rfl⟩ := runWith_cons_iff.mp hz
  have hdeserted := (step_of_eq hu).refused (run_orderly hy) (run_roster hy).absent
  exact (run_deserted hdeserted hv).1

/-! ## The law -/

/-- What comes of registrations, one after the other, on a scanner with this history. -/
structure Enrolment (settings : ScanSettings) (actions : List Action) (x : Noted Note Scanner)
    (rs : List Registration) (y : Noted Note (List (Except RegisterError Unit) × Scanner)) :
    Prop where
  /-- Only the first of all can fail, and it does if the system refuses the thread. -/
  results : ∀ i r, rs[i]? = some r → y.value.1[i]? =
    some (if i = 0 ∧ registered actions = [] then r.thread.mapError .spawn else .ok ())
  /-- All listeners are enlisted, also one whose registration fails. -/
  listeners : y.value.2.listeners = registered actions ++ enrolled rs
  /-- Nothing else changes where no worker is started. -/
  unchanged : .spawned ∉ y.notes →
    y.value.2 = { x.value with listeners := registered actions ++ enrolled rs }
  /-- From then on the worker copies a list with all of them, and calls them in their turn. -/
  copied : ∀ later z, y.value.2.run later = some z →
    (∀ u ls, z.value.step .copy = some u → .copied ls ∈ u.notes →
      ls = registered actions ++ enrolled rs ++ registered later) ∧
    InTurn settings (actions ++ x.value.registeringAll rs ++ later)
  /-- The worker is there, if no thread has been refused: it has been started, or the caller that
  registered first is about to start it. -/
  served : .start false ∉ actions → (∀ e, .error e ∉ y.value.1) →
    registered actions ++ enrolled rs ≠ [] →
    (x.notes ++ y.notes).count .spawned + x.value.starting = 1
  /-- But a refusal is for good: no worker has been started or ever will be, nobody is called, and
  all further registrations succeed. -/
  lost : .start false ∈ actions ∨ (∃ e, .error e ∈ y.value.1) →
    .spawned ∉ x.notes ++ y.notes ∧ ∀ later z, y.value.2.run later = some z →
      z.notes = (registered later).map .enlisted ∧ z.value.worker = .absent ∧
        ∀ l thread, (z.value.register l thread).value.1 = .ok ()

theorem registrations_are_served_unless_a_start_was_refused
    (h : (new settings).run actions = some x) (rs : List Registration) :
    Enrolment settings actions x rs (x.value.registerAll rs) := by
  have hroster := run_roster h
  have horderly := run_orderly h
  have hfree : x.value.listeners = [] → x.value.handle = false :=
    fun hnobody => hroster.absent (horderly.unheard hnobody).2
  have hwhole : (new settings).run (actions ++ x.value.registeringAll rs) =
      some ⟨(x.value.registerAll rs).value.2, x.notes ++ (x.value.registerAll rs).notes⟩ :=
    runWith_append_iff.mpr ⟨x, _, h, run_registerAll x.value rs, rfl⟩
  have hregistered : registered (actions ++ x.value.registeringAll rs) =
      registered actions ++ enrolled rs := by
    rw [registered_append, registered_registeringAll]
  have hmore := run_roster hwhole
  have henrols := registerAll_enrols hfree rs
  refine ⟨?_, ?_, ?_, ?_, ?_, ?_⟩
  · intro i r hr
    rw [← hroster.listeners]
    exact henrols.results hr
  · rw [← hregistered]
    exact hmore.listeners
  · rw [← hroster.listeners]
    exact henrols.unchanged
  · intro later z hz
    have hall : (new settings).run (actions ++ x.value.registeringAll rs ++ later) = _ :=
      runWith_append_iff.mpr ⟨_, z, hwhole, hz, rfl⟩
    refine ⟨fun u ls hu hls => ?_, run_inTurn hall⟩
    rw [(step_of_eq hu).copied hls, (run_roster hall).listeners, registered_append, hregistered]
  · intro hbefore hnone hsome
    have hstart : .start false ∉ actions ++ x.value.registeringAll rs := by
      rw [List.mem_append, henrols.refused_iff]
      rintro (hold | ⟨e, he⟩)
      · exact hbefore hold
      · exact hnone e he
    have hfirst := hmore.first
    rw [List.count_eq_zero_of_not_mem hstart, hregistered,
      Nat.min_eq_left (List.length_pos_iff.mpr hsome)] at hfirst
    rw [← henrols.starting]
    exact hfirst
  · intro hrefused
    have hstart : .start false ∈ actions ++ x.value.registeringAll rs := by
      rw [List.mem_append, henrols.refused_iff]
      exact hrefused
    have hdeserted := run_refused hwhole hstart
    have hfirst := hmore.first
    have hcount := List.count_pos_iff.mpr hstart
    dsimp only at hfirst
    refine ⟨List.count_eq_zero.mp (by omega), fun later z hz => ?_⟩
    obtain ⟨hafter, hnotes⟩ := run_deserted hdeserted hz
    refine ⟨hnotes, hafter.worker, fun l thread => ?_⟩
    rw [register_further hafter.heard]

theorem registrations_are_served_during_a_cycle :
    ∃ x, (new {}).run [.enlist 1, .start true, .look] = some x ∧
      Enrolment {} [.enlist 1, .start true, .look] x [⟨2, .error (.ofErrno 11)⟩, ⟨3, .ok ()⟩]
        (x.value.registerAll [⟨2, .error (.ofErrno 11)⟩, ⟨3, .ok ()⟩]) ∧
      x.value.starting = 0 ∧
      (x.value.registerAll [⟨2, .error (.ofErrno 11)⟩, ⟨3, .ok ()⟩]).value.1 =
        [.ok (), .ok ()] :=
  ⟨_, rfl, registrations_are_served_unless_a_start_was_refused rfl _, rfl, rfl⟩

/-- A worker that has found nothing is interrupted and waited for. -/
def interruptedLife : List Action :=
  [.enlist 1, .start true, .look, .survey {}, .rest, .wake .interrupted, .takeHandle, .joined]

/-- The first caller is refused a thread. The second succeeds without one, and is never called. The
same comes of the second where an interrupted worker has left its scanner in that state. -/
theorem a_refused_start_is_never_made_up_for :
    (new {}).registerAll [⟨1, .error (.ofErrno 11)⟩, ⟨2, .ok ()⟩] =
        ⟨([.error (.spawn (.ofErrno 11)), .ok ()], { new {} with listeners := [1, 2] }),
          [.enlisted 1, .spawnRefused, .enlisted 2]⟩ ∧
      (RegisterError.spawn (.ofErrno 11)).message =
        "Failed to start scanner thread: Resource temporarily unavailable (os error 11)" ∧
      (∀ later z, ({ new {} with listeners := [1, 2] } : Scanner).run later = some z →
        z.notes = (registered later).map .enlisted ∧ z.value.worker = .absent) ∧
      ∃ x, (new { showSocketCan := false }).run interruptedLife = some x ∧
        { x.value with worker := .absent } =
          ((new { showSocketCan := false }).register 1 (.error (.ofErrno 11))).value.2 ∧
        x.value.register 2 (.ok ()) =
          ⟨(.ok (), { x.value with listeners := [1, 2] }), [.enlisted 2]⟩ ∧
        ∀ later z, ({ x.value with listeners := [1, 2] } : Scanner).run later = some z →
          deeds z.notes = [] ∧ .spawned ∉ z.notes := by
  have hdeserted : Deserted { new {} with listeners := [1, 2] } :=
    ⟨List.cons_ne_nil 1 [2], rfl, rfl, rfl⟩
  refine ⟨rfl, by decide +kernel, fun later z hz => ?_, _, rfl, rfl, rfl, fun later z hz => ?_⟩
  · obtain ⟨hafter, hnotes⟩ := run_deserted hdeserted hz
    exact ⟨hnotes, hafter.worker⟩
  · have hstill := run_still ⟨fun hnobody => absurd hnobody (by simp), Nat.zero_le 1,
      fun hcaller => absurd rfl hcaller⟩ rfl hz
    exact ⟨hstill.deeds, hstill.unstarted⟩

end LinkWatch.Scanner
