import LinkWatch.Proofs.Watch.Inputs

/-! # Tries that fail and events of no concern leave the monitor as it was -/

namespace LinkWatch.Monitor

variable {m : Monitor} {attempt : Attempt} {e : ConnectError} {s : Session}

/-! ## Tries that fail -/

/-- A try that ends before a number is taken: no channel is opened, or no second handle made. -/
inductive GivesUp (m : Monitor) (attempt : Attempt) : ConnectError → Prop
  | unopened {endpoint : Endpoint} {error : LinkError} (there : m.available = some endpoint)
    (refused : (m.opening endpoint attempt).value = .error error) :
    GivesUp m attempt (.opening endpoint error)
  | uncloned {endpoint : Endpoint} {link : Link} {failure : IoFailure}
    (there : m.available = some endpoint) (opened : (m.opening endpoint attempt).value = .ok link)
    (refused : attempt.cloning = .error failure) : GivesUp m attempt (.channel failure)

/-- A try that ends with its number taken, as the intake does not start. -/
inductive Unstarted (m : Monitor) (attempt : Attempt) : ConnectError → Prop
  | unstarted {endpoint : Endpoint} {link : Link} {failure : IoFailure}
    (there : m.available = some endpoint) (opened : (m.opening endpoint attempt).value = .ok link)
    (cloned : attempt.cloning = .ok ()) (refused : attempt.starting = .error failure) :
    Unstarted m attempt (.channel failure)

theorem GivesUp.connect (h : GivesUp m attempt e) (free : m.session = none) :
    (m.connect attempt).value = (.error e, m) := by
  unfold Monitor.connect
  cases h with
  | unopened there refused =>
    unfold opening at refused
    rw [free, there]
    simp [connectTo, refused]
  | uncloned there opened refused =>
    unfold opening at opened
    rw [free, there]
    simp [connectTo, opened, refused]

theorem connect_error (h : (m.connect attempt).value.1 = .error e) :
    m.session = none ∧ (GivesUp m attempt e ∨
      Unstarted m attempt e ∧ (m.connect attempt).value.2 = { m with lastId := m.lastId + 1 }) := by
  have hspec := m.connect_spec attempt
  rw [h] at hspec
  generalize (m.connect attempt).notes = notes at hspec
  generalize (m.connect attempt).value.2 = next at hspec ⊢
  cases hspec with
  | unopened endpoint error free there refused => exact ⟨free, Or.inl (.unopened there refused)⟩
  | uncloned endpoint link failure free there opened refused =>
    exact ⟨free, Or.inl (.uncloned there opened refused)⟩
  | unstarted endpoint link failure free there opened cloned refused =>
    exact ⟨free, Or.inr ⟨.unstarted there opened cloned refused, rfl⟩⟩

theorem Moves.unchanged {next : Monitor} {cs : List Change} (h : Moves m cs next)
    (same : next.session = m.session) : cs = [] := by
  cases h with
  | stays => rfl
  | opens endpoint free there streams =>
    rw [free] at same
    exact absurd same (by simp)
  | closes s held =>
    rw [held] at same
    exact absurd same (by simp)

theorem GivesUp.pursue (h : GivesUp m attempt e) (free : m.session = none) :
    (m.pursue attempt).value = m ∧ changes (m.pursue attempt).notes = [] := by
  have hvalue : (m.pursue attempt).value = m := by rw [pursue_value, h.connect free]
  have hmoves := m.pursue_moves attempt
  rw [hvalue] at hmoves
  exact ⟨hvalue, hmoves.unchanged rfl⟩

/-! ## Runs with such a try -/

theorem respondAll_append (m : Monitor) (inputs more : List Input) :
    m.respondAll (inputs ++ more) =
      ⟨((m.respondAll inputs).value.respondAll more).value,
        (m.respondAll inputs).notes ++ ((m.respondAll inputs).value.respondAll more).notes⟩ := by
  induction inputs generalizing m with
  | nil => rfl
  | cons input inputs ih => simp [respondAll, ih, bind]

/-- A retry that gives up can be left out of a run. -/
theorem GivesUp.forgotten {before after : List Input}
    (free : (m.respondAll before).value.session = none)
    (h : GivesUp (m.respondAll before).value attempt e) :
    (m.respondAll (before ++ .retry attempt :: after)).value =
        (m.respondAll (before ++ after)).value ∧
      changes (m.respondAll (before ++ .retry attempt :: after)).notes =
        changes (m.respondAll (before ++ after)).notes := by
  obtain ⟨hvalue, hchanges⟩ := h.pursue free
  have hretry : (m.respondAll before).value.respond (.retry attempt) =
      (m.respondAll before).value.pursue attempt := rfl
  rw [respondAll_append, respondAll_append]
  simp only [respondAll, hretry, Noted.value_bind, Noted.notes_bind, hvalue, changes_append,
    hchanges, List.nil_append, and_self]

/-! ## Events of no concern to a live session -/

/-- Neither the end of the session nor anything that it counts. -/
def Input.Foreign (id : SessionId) : Input → Prop
  | .hardware _ _ | .retry _ => True
  | .data other _ | .disconnected other _ _ => other ≠ id
  | .shutdown _ => False

/-- What is noted of an input while a session is live. -/
def announcement : Input → List MonitorNote
  | .hardware found _ => [.logged ⟨.info, "Hardware changed: " ++ found.summary⟩]
  | .retry _ | .data _ _ | .disconnected _ _ _ | .shutdown _ => []

theorem pursue_busy (h : m.session = some s) (attempt : Attempt) : m.pursue attempt = pure m := by
  have hconnect : m.connect attempt = pure (.ok (), m) := by
    unfold connect
    rw [h]
  unfold pursue
  rw [hconnect]
  rfl

theorem respond_busy {input : Input} (h : m.session = some s) (hforeign : input.Foreign s.id) :
    m.respond input = ⟨m.hears input, announcement input⟩ := by
  have hstranger : ∀ id, id ≠ s.id → ∀ s' ∈ m.session, s'.id ≠ id := by
    intro id hid s' hs'
    rw [h, Option.mem_some_iff] at hs'
    rw [← hs']
    exact hid.symm
  cases input with
  | hardware found attempt =>
    have hpursue := @pursue_busy { m with latest := found } s h attempt
    simp [respond, hardware, hpursue, note, bind, hears, hear, announcement]
  | retry attempt => exact pursue_busy h attempt
  | data id bytes => exact data_stranger (hstranger id hforeign) bytes
  | disconnected id closing attempt =>
    have hnothing := disconnected_stranger (hstranger id hforeign) closing
    simp [respond, hnothing, pursue_busy h attempt, hears, hear, announcement, pure, bind]
  | shutdown closing => exact hforeign.elim

theorem respondAll_busy {inputs : List Input} (h : m.session = some s)
    (hforeign : ∀ input ∈ inputs, input.Foreign s.id) :
    m.respondAll inputs =
      ⟨{ m with latest := inputs.foldl hear m.latest }, inputs.flatMap announcement⟩ := by
  induction inputs generalizing m with
  | nil => rfl
  | cons input inputs ih =>
    have hfirst := respond_busy h (hforeign input List.mem_cons_self)
    have hrest := ih (m := m.hears input) h fun i hi => hforeign i (List.mem_cons_of_mem _ hi)
    simp only [respondAll, bind, hfirst, hrest, List.foldl_cons, List.flatMap_cons]
    rfl

theorem logged_of_announced {inputs : List Input} {n : MonitorNote}
    (h : n ∈ inputs.flatMap announcement) : ∃ record, n = .logged record := by
  obtain ⟨input, -, hnote⟩ := List.mem_flatMap.mp h
  cases input with
  | hardware found attempt => exact ⟨_, List.mem_singleton.mp hnote⟩
  | retry | data | disconnected | shutdown => exact absurd hnote List.not_mem_nil

theorem not_attempted_announced {inputs : List Input} {endpoint : Endpoint} :
    .attempted endpoint ∉ inputs.flatMap announcement := by
  intro hmem
  obtain ⟨record, hlogged⟩ := logged_of_announced hmem
  exact absurd hlogged (by simp)

theorem changes_announced (inputs : List Input) : changes (inputs.flatMap announcement) = [] := by
  unfold changes
  rw [List.filterMap_eq_nil_iff]
  intro n hn
  obtain ⟨record, rfl⟩ := logged_of_announced hn
  rfl

/-! ## The law -/

/-- What does not change a monitor, in whatever state it is. -/
structure Undisturbed (m : Monitor) : Prop where
  /-- A try can fail only without a session. Only if the intake does not start, a number is lost. -/
  fails : ∀ attempt e, (m.connect attempt).value.1 = .error e →
    m.session = none ∧ (GivesUp m attempt e ∨
      Unstarted m attempt e ∧ (m.connect attempt).value.2 = { m with lastId := m.lastId + 1 })
  /-- In all other cases nothing has changed. -/
  givesUp : ∀ attempt e, m.session = none → GivesUp m attempt e →
    (m.connect attempt).value = (.error e, m)
  hardware : ∀ found attempt e, m.session = none → GivesUp { m with latest := found } attempt e →
    (m.respond (.hardware found attempt)).value = { m with latest := found }
  disconnected : ∀ s closing attempt e, m.session = some s →
    GivesUp { m with session := none } attempt e →
    (m.respond (.disconnected s.id closing attempt)).value = { m with session := none }
  /-- So a run goes on as if the retry had not been. -/
  forgotten : ∀ before attempt e after, (m.respondAll before).value.session = none →
    GivesUp (m.respondAll before).value attempt e →
    (m.respondAll (before ++ .retry attempt :: after)).value =
        (m.respondAll (before ++ after)).value ∧
      changes (m.respondAll (before ++ .retry attempt :: after)).notes =
        changes (m.respondAll (before ++ after)).notes
  /-- While a session is live, events of no concern to it change the latest inventory at most, and
  nothing is attempted. -/
  busy : ∀ s inputs, m.session = some s → (∀ input ∈ inputs, input.Foreign s.id) →
    m.respondAll inputs =
        ⟨{ m with latest := inputs.foldl hear m.latest }, inputs.flatMap announcement⟩ ∧
      ∀ endpoint, .attempted endpoint ∉ (m.respondAll inputs).notes

theorem undisturbed (m : Monitor) : Undisturbed m where
  fails := fun _ _ => connect_error
  givesUp := fun _ _ free h => h.connect free
  hardware := fun _ _ _ free h => (h.pursue free).1
  disconnected := by
    intro s closing attempt e held h
    have hended : (m.disconnected s.id closing).value = { m with session := none } := by
      rw [disconnected_own held]
    simp only [respond, Noted.value_bind, hended]
    exact (h.pursue rfl).1
  forgotten := fun _ _ _ _ free h => h.forgotten free
  busy := by
    intro s inputs held hforeign
    have hbusy := respondAll_busy held hforeign
    refine ⟨hbusy, fun endpoint => ?_⟩
    rw [hbusy]
    exact not_attempted_announced

/-- The monitor of a watch, too, heeds nothing that does not concern its session. -/
theorem only_its_own_events_disturb_a_monitor :
    (∀ m, Undisturbed m) ∧
      ∀ (w : Watch) s action x, w.monitor.session = some s →
        (∀ input ∈ w.input? action, input.Foreign s.id) → w.step action = some x →
        x.value.monitor = { w.monitor with
            latest := (w.input? action).toList.foldl hear w.monitor.latest } ∧
          Watch.changes x.notes = [] := by
  refine ⟨undisturbed, fun w s action x held hforeign hstep => ?_⟩
  obtain ⟨hmonitor, hchanges⟩ := Watch.step_responds hstep
  have hinputs : ∀ input ∈ (w.input? action).toList, input.Foreign s.id := by
    intro input hinput
    exact hforeign input (Option.mem_toList.mp hinput)
  rw [respondAll_busy held hinputs] at hmonitor hchanges
  exact ⟨hmonitor, hchanges.trans (changes_announced _)⟩

/-- A session counts, while its device is no longer listed. -/
def counting : Monitor :=
  { new {} (some (.serial "COM1")) with
    latest := { listed := ["COM1"] }, session := some ⟨3, .serial "COM1", 17⟩, lastId := 3 }

def goneWhileCounting : Watch :=
  { Watch.new {} none with monitor := counting, queue := [.hardware {}] }

/-- A number of this machine is listed, but refuses connections. -/
def waiting : Monitor :=
  { new {} (some (.tcp 80)) with latest := { listed := ["80"] }, lastId := 3 }

theorem only_its_own_events_disturb_a_monitor_that_counts :
    (counting.session = some ⟨3, .serial "COM1", 17⟩ ∧
        (counting.respondAll [.hardware {} { host := {} }, .data 2 [1, 2], .retry { host := {} },
          .disconnected 2 {} { host := {} }]).value = { counting with latest := {} }) ∧
      (∃ x, goneWhileCounting.step (.take { host := {} } {}) = some x ∧
        x.value.monitor = { counting with latest := {} }) ∧
      (waiting.connect { host := {} }).value =
        (.error (.opening (.tcp 80) (.io (.ofErrno 111))), waiting) := by
  obtain ⟨hmonitor, hwatch⟩ := only_its_own_events_disturb_a_monitor
  refine ⟨⟨rfl, ?_⟩, ⟨_, rfl, ?_⟩, ?_⟩
  · have hforeign : ∀ input ∈ [.hardware {} { host := {} }, .data 2 [1, 2], .retry { host := {} },
        .disconnected 2 {} { host := {} }], Input.Foreign 3 input := by
      simp [Input.Foreign]
    rw [((hmonitor counting).busy _ _ rfl hforeign).1]
    rfl
  · have hforeign : ∀ input ∈ goneWhileCounting.input? (.take { host := {} } {}),
        input.Foreign 3 := by
      intro input hinput
      obtain rfl := Option.some.inj hinput
      trivial
    exact (hwatch goneWhileCounting _ _ _ rfl hforeign rfl).1
  · have hthere : waiting.available = some (.tcp 80) := by decide +kernel
    exact (hmonitor waiting).givesUp _ _ rfl (.unopened hthere rfl)

end LinkWatch.Monitor
