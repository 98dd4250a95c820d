import LinkWatch.Proofs.Monitor

/-! # The monitor as a machine: inputs, and how one changes the session -/

namespace LinkWatch

/-- A byte stream can be opened to a serial device and to a TCP number. -/
inductive Endpoint.Streams : Endpoint → Prop
  | serial (name : String) : Endpoint.Streams (.serial name)
  | tcp (number : UInt16) : Endpoint.Streams (.tcp number)

theorem Host.open_streams {host : Host} {settings : OpenSettings} {endpoint : Endpoint}
    {link : Link} (h : (host.open settings endpoint).value = .ok link) : endpoint.Streams := by
  cases endpoint with
  | serial name => exact .serial name
  | tcp number => exact .tcp number
  | autoSerial | pcan | socketCan => exact absurd h (by simp [Host.open])

theorem Inventory.firstSerial_serial {found : Inventory} {endpoint : Endpoint}
    (h : found.firstSerial = .ok endpoint) : ∃ name, endpoint = .serial name := by
  unfold Inventory.firstSerial at h
  split at h
  · next name _ => exact ⟨name, (Except.ok.inj h).symm⟩
  · exact absurd h (by simp)

/-- What tells a session from others, whatever it has counted. -/
def Session.key (s : Session) : SessionId × Endpoint := (s.id, s.endpoint)

namespace Monitor

/-! ## The target -/

/-- What a target stands for in an inventory that lists it: a marker for the first serial device,
anything else for itself. -/
inductive StandsFor (found : Inventory) : Endpoint → Endpoint → Prop
  | itself {target : Endpoint} (plain : target ≠ .autoSerial)
    (listed : target.display ∈ found.listed) : StandsFor found target target
  | first {name : String} (listed : Endpoint.autoSerial.display ∈ found.listed)
    (resolved : found.firstSerial = .ok (.serial name)) : StandsFor found .autoSerial (.serial name)

theorem available_standsFor {m : Monitor} {endpoint : Endpoint} (h : m.available = some endpoint) :
    ∃ target, m.target = some target ∧ StandsFor m.latest target endpoint := by
  simp only [available, Option.bind_eq_some_iff] at h
  obtain ⟨target, haim, h⟩ := h
  refine ⟨target, haim, ?_⟩
  split at h
  · next hlisted =>
    split at h
    · have hresolved : m.latest.firstSerial = .ok endpoint := by
        cases hfirst : m.latest.firstSerial with
        | error e => simp [hfirst, Except.toOption] at h
        | ok found => rw [hfirst] at h; exact congrArg _ (Option.some.inj h)
      obtain ⟨name, rfl⟩ := Inventory.firstSerial_serial hresolved
      exact .first hlisted hresolved
    · next hplain =>
      obtain rfl := Option.some.inj h
      exact .itself hplain hlisted
  · exact absurd h (by simp)

/-! ## Inputs -/

/-- All that makes the monitor do something, with what an attempt or a closing would then meet. -/
inductive Input where
  | hardware (found : Inventory) (attempt : Attempt)
  | retry (attempt : Attempt)
  | data (id : SessionId) (bytes : List UInt8)
  | disconnected (id : SessionId) (closing : Closing) (attempt : Attempt)
  | shutdown (closing : Closing)

/-- Connects where that is possible, and logs the error. -/
def pursue (m : Monitor) (attempt : Attempt) : Noted MonitorNote Monitor := do
  let (result, next) ← m.connect attempt
  match result with
  | .error e => note (.logged ⟨.warn, e.message⟩)
  | .ok () => pure ()
  return next

def respond (m : Monitor) : Input → Noted MonitorNote Monitor
  | .hardware found attempt => do
    let m ← m.hardware found
    m.pursue attempt
  | .retry attempt => m.pursue attempt
  | .data id bytes => m.data id bytes
  | .disconnected id closing attempt => do
    let m ← m.disconnected id closing
    m.pursue attempt
  | .shutdown closing => m.shutdown closing

def respondAll (m : Monitor) : List Input → Noted MonitorNote Monitor
  | [] => pure m
  | input :: inputs => do
    let m ← m.respond input
    m.respondAll inputs

theorem respondAll_concat (m : Monitor) (inputs : List Input) (input : Input) :
    m.respondAll (inputs ++ [input]) =
      ⟨((m.respondAll inputs).value.respond input).value,
        (m.respondAll inputs).notes ++ ((m.respondAll inputs).value.respond input).notes⟩ := by
  induction inputs generalizing m with
  | nil => simp [respondAll, bind]
  | cons first inputs ih => simp [respondAll, ih, bind]

/-- The latest inventory after an input. -/
def hear (latest : Inventory) : Input → Inventory
  | .hardware found _ => found
  | .retry _ | .data _ _ | .disconnected _ _ _ | .shutdown _ => latest

def hears (m : Monitor) (input : Input) : Monitor := { m with latest := hear m.latest input }

def heard (inputs : List Input) : Inventory := inputs.foldl hear .empty

theorem heard_concat (inputs : List Input) (input : Input) :
    heard (inputs ++ [input]) = hear (heard inputs) input := by
  rw [heard, List.foldl_append, heard, List.foldl_cons, List.foldl_nil]

/-! ## Changes of the session -/

inductive Change where
  | opened (id : SessionId) (endpoint : Endpoint)
  | closed (id : SessionId)
  deriving DecidableEq, Repr

def change? : MonitorNote → Option Change
  | .opened id endpoint => some (.opened id endpoint)
  | .closed id => some (.closed id)
  | .attempted _ | .logged _ => none

def changes (notes : List MonitorNote) : List Change := notes.filterMap change?

theorem changes_append (notes more : List MonitorNote) :
    changes (notes ++ more) = changes notes ++ changes more := List.filterMap_append

theorem changes_cons (n : MonitorNote) (notes : List MonitorNote) :
    changes (n :: notes) = (change? n).toList ++ changes notes := by
  cases h : change? n with
  | none => exact List.filterMap_cons_none h
  | some c => exact List.filterMap_cons_some h

theorem changes_logged (records : List Record) : changes (records.map .logged) = [] := by
  unfold changes
  rw [List.filterMap_map, List.filterMap_eq_nil_iff]
  exact fun _ _ => rfl

theorem mem_changes_opened {notes : List MonitorNote} {id : SessionId} {endpoint : Endpoint} :
    .opened id endpoint ∈ changes notes ↔ .opened id endpoint ∈ notes := by
  unfold changes
  rw [List.mem_filterMap]
  constructor
  · rintro ⟨n, hn, hchange⟩
    cases n with
    | opened id' endpoint' =>
      obtain ⟨rfl, rfl⟩ := Change.opened.inj (Option.some.inj hchange)
      exact hn
    | closed => exact absurd (Option.some.inj hchange) (by simp)
    | attempted | logged => exact absurd hchange (by simp [change?])
  · intro h
    exact ⟨_, h, rfl⟩

theorem changes_opening (m : Monitor) (endpoint : Endpoint) (attempt : Attempt) :
    changes (m.openingNotes endpoint attempt) = [] := by
  rw [openingNotes, changes_cons, changes_logged]
  rfl

/-! ## Moves -/

/-- How one operation changes the session, with what it then reports. -/
inductive Moves (m : Monitor) : List Change → Monitor → Prop
  | stays (next : Monitor) (sameTarget : next.target = m.target)
    (sameLatest : next.latest = m.latest)
    (sameSession : next.session.map Session.key = m.session.map Session.key)
    (later : m.lastId ≤ next.lastId) (sameNumber : m.session ≠ none → next.lastId = m.lastId) :
    Moves m [] next
  | opens (endpoint : Endpoint) (free : m.session = none) (there : m.available = some endpoint)
    (streams : endpoint.Streams) :
    Moves m [.opened (m.lastId + 1) endpoint]
      { m with lastId := m.lastId + 1, session := some ⟨m.lastId + 1, endpoint, 0⟩ }
  | closes (s : Session) (held : m.session = some s) :
    Moves m [.closed s.id] { m with session := none }

theorem Moves.refl (m : Monitor) : Moves m [] m :=
  .stays m rfl rfl rfl (Nat.le_refl _) fun _ => rfl

theorem Moves.keeps {m next : Monitor} {cs : List Change} (h : Moves m cs next) :
    next.target = m.target ∧ next.latest = m.latest := by
  cases h with
  | stays next sameTarget sameLatest => exact ⟨sameTarget, sameLatest⟩
  | opens | closes => exact ⟨rfl, rfl⟩

theorem Moves.opened {m next : Monitor} {cs : List Change} (h : Moves m cs next) {id : SessionId}
    {endpoint : Endpoint} (hc : .opened id endpoint ∈ cs) :
    endpoint.Streams ∧ ∃ target, m.target = some target ∧ StandsFor m.latest target endpoint := by
  cases h with
  | stays => exact absurd hc List.not_mem_nil
  | closes s held => exact absurd (List.mem_singleton.mp hc) (by simp)
  | opens endpoint' free there streams =>
    obtain ⟨-, rfl⟩ := Change.opened.inj (List.mem_singleton.mp hc)
    exact ⟨streams, available_standsFor there⟩

theorem data_moves (m : Monitor) (id : SessionId) (bytes : List UInt8) :
    Moves m (changes (m.data id bytes).notes) (m.data id bytes).value := by
  by_cases hown : ∀ s ∈ m.session, s.id ≠ id
  · rw [data_stranger hown]
    exact .refl m
  · push Not at hown
    obtain ⟨s, hs, rfl⟩ := hown
    rw [data_own hs]
    refine .stays _ rfl rfl ?_ (Nat.le_refl _) fun _ => rfl
    rw [hs]
    rfl

theorem disconnected_moves (m : Monitor) (id : SessionId) (closing : Closing) :
    Moves m (changes (m.disconnected id closing).notes) (m.disconnected id closing).value := by
  by_cases hown : ∀ s ∈ m.session, s.id ≠ id
  · rw [disconnected_stranger hown]
    exact .refl m
  · push Not at hown
    obtain ⟨s, hs, rfl⟩ := hown
    rw [disconnected_own hs, changes_cons, changes_cons, changes_logged]
    exact .closes s hs

theorem shutdown_moves (m : Monitor) (closing : Closing) :
    Moves m (changes (m.shutdown closing).notes) (m.shutdown closing).value := by
  cases hs : m.session with
  | none =>
    rw [shutdown_idle hs]
    exact .refl m
  | some s =>
    rw [shutdown_own hs, changes_cons, changes_cons, changes_logged]
    exact .closes s hs

theorem connect_moves (m : Monitor) (attempt : Attempt) :
    Moves m (changes (m.connect attempt).notes) (m.connect attempt).value.2 := by
  have hspec := m.connect_spec attempt
  generalize (m.connect attempt).notes = notes at hspec ⊢
  generalize (m.connect attempt).value.1 = result at hspec
  generalize (m.connect attempt).value.2 = next at hspec ⊢
  cases hspec with
  | idle why => exact .refl m
  | unopened endpoint e free there refused =>
    rw [changes_opening]
    exact .refl m
  | uncloned endpoint link failure free there opened refused =>
    rw [changes_opening]
    exact .refl m
  | unstarted endpoint link failure free there opened cloned refused =>
    rw [changes_opening]
    -- The number is gone although no session bears it.
    exact .stays _ rfl rfl rfl (Nat.le_succ _) fun hs => absurd free hs
  | connected endpoint link free there opened cloned started =>
    rw [changes_append, changes_opening]
    exact .opens endpoint free there (Host.open_streams opened)

theorem pursue_value (m : Monitor) (attempt : Attempt) :
    (m.pursue attempt).value = (m.connect attempt).value.2 := by
  unfold pursue
  obtain ⟨⟨result, next⟩, notes⟩ := m.connect attempt
  cases result with
  | error e => rfl
  | ok done => rfl

theorem changes_pursue (m : Monitor) (attempt : Attempt) :
    changes (m.pursue attempt).notes = changes (m.connect attempt).notes := by
  unfold pursue
  obtain ⟨⟨result, next⟩, notes⟩ := m.connect attempt
  cases result with
  | error e => simp [changes, change?, note]
  | ok done => simp

theorem pursue_moves (m : Monitor) (attempt : Attempt) :
    Moves m (changes (m.pursue attempt).notes) (m.pursue attempt).value := by
  rw [pursue_value, changes_pursue]
  exact m.connect_moves attempt

/-! ## One input -/

/-- After what it hears, an input is one operation, or two in a row. -/
theorem respond_moves (m : Monitor) (input : Input) :
    ∃ first second via, Moves (m.hears input) first via ∧
      Moves via second (m.respond input).value ∧
      changes (m.respond input).notes = first ++ second := by
  cases input with
  | hardware found attempt => exact ⟨_, _, _, .refl _, pursue_moves _ attempt, rfl⟩
  | retry attempt => exact ⟨_, _, _, .refl m, m.pursue_moves attempt, rfl⟩
  | data id bytes => exact ⟨_, _, _, .refl m, m.data_moves id bytes, rfl⟩
  | shutdown closing => exact ⟨_, _, _, .refl m, m.shutdown_moves closing, rfl⟩
  | disconnected id closing attempt =>
    exact ⟨_, _, _, m.disconnected_moves id closing, pursue_moves _ attempt, changes_append ..⟩

theorem respond_keeps (m : Monitor) (input : Input) :
    (m.respond input).value.target = m.target ∧
      (m.respond input).value.latest = hear m.latest input := by
  obtain ⟨first, second, via, hfirst, hsecond, -⟩ := m.respond_moves input
  obtain ⟨htarget, hlatest⟩ := hfirst.keeps
  obtain ⟨htarget', hlatest'⟩ := hsecond.keeps
  exact ⟨htarget'.trans htarget, hlatest'.trans hlatest⟩

theorem respond_opened {m : Monitor} {input : Input} {id : SessionId} {endpoint : Endpoint}
    (h : .opened id endpoint ∈ (m.respond input).notes) :
    endpoint.Streams ∧
      ∃ target, m.target = some target ∧ StandsFor (hear m.latest input) target endpoint := by
  obtain ⟨first, second, via, hfirst, hsecond, hchanges⟩ := m.respond_moves input
  rw [← mem_changes_opened, hchanges, List.mem_append] at h
  rcases h with hopened | hopened
  · exact hfirst.opened hopened
  · obtain ⟨htarget, hlatest⟩ := hfirst.keeps
    have hstands := hsecond.opened hopened
    rwa [htarget, hlatest] at hstands

end Monitor

end LinkWatch
