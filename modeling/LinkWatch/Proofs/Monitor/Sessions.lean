import LinkWatch.Proofs.Watch.Inputs

/-! # Sessions of the monitor never overlap, and their numbers only grow -/

namespace LinkWatch.Monitor

variable {settings : Settings} {target : Option Endpoint} {m next : Monitor}
variable {cs ds : List Change} {live : Option (SessionId × Endpoint)}

/-! ## Taking turns -/

/-- Sessions are opened and closed by turns, and each is closed that was opened last. -/
inductive Alternate : List Change → Option (SessionId × Endpoint) → Prop
  | start : Alternate [] none
  | opened {cs : List Change} (id : SessionId) (endpoint : Endpoint) (free : Alternate cs none) :
    Alternate (cs ++ [.opened id endpoint]) (some (id, endpoint))
  | closed {cs : List Change} {id : SessionId} {endpoint : Endpoint}
    (held : Alternate cs (some (id, endpoint))) : Alternate (cs ++ [.closed id]) none

def opened? : Change → Option SessionId
  | .opened id _ => some id
  | .closed _ => none

def closed? : Change → Option SessionId
  | .closed id => some id
  | .opened _ _ => none

def openedIds (cs : List Change) : List SessionId := cs.filterMap opened?

def closedIds (cs : List Change) : List SessionId := cs.filterMap closed?

theorem openedIds_append : openedIds (cs ++ ds) = openedIds cs ++ openedIds ds :=
  List.filterMap_append

theorem closedIds_append : closedIds (cs ++ ds) = closedIds cs ++ closedIds ds :=
  List.filterMap_append

theorem Alternate.closings (h : Alternate cs live) :
    openedIds cs = closedIds cs ++ (live.map Prod.fst).toList := by
  induction h with
  | start => rfl
  | opened id endpoint free ih =>
    rw [openedIds_append, closedIds_append, ih]
    simp [openedIds, closedIds, opened?, closed?]
  | closed held ih =>
    rw [openedIds_append, closedIds_append, ih]
    simp [openedIds, closedIds, opened?, closed?]

theorem Alternate.mem_live {id : SessionId} {endpoint : Endpoint}
    (h : Alternate cs (some (id, endpoint))) : .opened id endpoint ∈ cs := by
  cases h with
  | opened => exact List.mem_concat_self

/-! ## The tally of a run -/

/-- The changes so far, and the monitor that they have led to. -/
structure Tally (cs : List Change) (m : Monitor) : Prop where
  numbered : ∀ s ∈ m.session, s.id = m.lastId
  alternate : Alternate cs (m.session.map Session.key)
  bounded : ∀ id ∈ openedIds cs, id ≤ m.lastId
  increasing : (openedIds cs).Pairwise (· < ·)

theorem tally_new (settings : Settings) (target : Option Endpoint) :
    Tally [] (new settings target) where
  numbered := fun _ hs => absurd hs (by simp [new])
  alternate := .start
  bounded := fun _ hid => absurd hid List.not_mem_nil
  increasing := List.Pairwise.nil

theorem Tally.stays (h : Tally cs m)
    (sameSession : next.session.map Session.key = m.session.map Session.key)
    (later : m.lastId ≤ next.lastId) (sameNumber : m.session ≠ none → next.lastId = m.lastId) :
    Tally cs next where
  numbered := by
    intro s hs
    have hkey : m.session.map Session.key = some s.key := by
      rw [← sameSession, Option.mem_def.mp hs, Option.map_some]
    obtain ⟨s', hs', hsame⟩ := Option.map_eq_some_iff.mp hkey
    have hid : s'.id = s.id := congrArg Prod.fst hsame
    have hkept : next.lastId = m.lastId := sameNumber (by simp [hs'])
    rw [← hid, hkept, h.numbered s' hs']
  alternate := sameSession ▸ h.alternate
  bounded := fun id hid => Nat.le_trans (h.bounded id hid) later
  increasing := h.increasing

theorem Tally.opens (h : Tally cs m) (free : m.session = none) (endpoint : Endpoint) :
    Tally (cs ++ [.opened (m.lastId + 1) endpoint])
      { m with lastId := m.lastId + 1, session := some ⟨m.lastId + 1, endpoint, 0⟩ } where
  numbered := by
    intro s hs
    obtain rfl := Option.some.inj hs
    rfl
  alternate := by
    have hidle := h.alternate
    rw [free] at hidle
    exact .opened _ endpoint hidle
  bounded := by
    intro id hid
    rw [openedIds_append] at hid
    rcases List.mem_append.mp hid with hold | hnew
    · exact Nat.le_succ_of_le (h.bounded id hold)
    · exact Nat.le_of_eq (List.mem_singleton.mp hnew)
  increasing := by
    rw [openedIds_append]
    refine List.pairwise_append.mpr ⟨h.increasing, List.pairwise_singleton .., ?_⟩
    intro id hold id' hnew
    rw [List.mem_singleton.mp hnew]
    exact Nat.lt_succ_of_le (h.bounded id hold)

theorem Tally.closes (h : Tally cs m) {s : Session} (held : m.session = some s) :
    Tally (cs ++ [.closed s.id]) { m with session := none } := by
  have hsame : openedIds (cs ++ [.closed s.id]) = openedIds cs := by
    rw [openedIds_append]
    exact List.append_nil _
  refine ⟨fun _ hs => absurd hs (by simp), ?_, ?_, ?_⟩
  · have hlive := h.alternate
    rw [held] at hlive
    exact .closed hlive
  · rw [hsame]
    exact h.bounded
  · rw [hsame]
    exact h.increasing

theorem Tally.moves (h : Tally cs m) (hmoves : Moves m ds next) : Tally (cs ++ ds) next := by
  cases hmoves with
  | stays next sameTarget sameLatest sameSession later sameNumber =>
    rw [List.append_nil]
    exact h.stays sameSession later sameNumber
  | opens endpoint free there streams => exact h.opens free endpoint
  | closes s held => exact h.closes held

theorem Tally.hears (h : Tally cs m) (input : Input) : Tally cs (m.hears input) :=
  ⟨h.numbered, h.alternate, h.bounded, h.increasing⟩

theorem Tally.respond (h : Tally cs m) (input : Input) :
    Tally (cs ++ changes (m.respond input).notes) (m.respond input).value := by
  obtain ⟨first, second, via, hfirst, hsecond, hchanges⟩ := m.respond_moves input
  rw [hchanges, ← List.append_assoc]
  exact ((h.hears input).moves hfirst).moves hsecond

theorem run_tally (settings : Settings) (target : Option Endpoint) (inputs : List Input) :
    Tally (changes ((new settings target).respondAll inputs).notes)
      ((new settings target).respondAll inputs).value := by
  induction inputs using List.reverseRecOn with
  | nil => exact tally_new settings target
  | append_singleton inputs input ih =>
    rw [respondAll_concat, changes_append]
    exact ih.respond input

/-! ## Where a session comes from -/

theorem run_keeps (settings : Settings) (target : Option Endpoint) (inputs : List Input) :
    ((new settings target).respondAll inputs).value.target = target ∧
      ((new settings target).respondAll inputs).value.latest = heard inputs := by
  induction inputs using List.reverseRecOn with
  | nil => exact ⟨rfl, rfl⟩
  | append_singleton inputs input ih =>
    have hkeeps := ((new settings target).respondAll inputs).value.respond_keeps input
    rw [respondAll_concat, heard_concat, ← ih.2]
    exact ⟨hkeeps.1.trans ih.1, hkeeps.2⟩

theorem mem_respondAll {inputs : List Input} {n : MonitorNote} :
    n ∈ (m.respondAll inputs).notes ↔ ∃ before input after, inputs = before ++ input :: after ∧
      n ∈ ((m.respondAll before).value.respond input).notes := by
  constructor
  · intro h
    induction inputs using List.reverseRecOn with
    | nil => exact absurd h List.not_mem_nil
    | append_singleton inputs input ih =>
      rw [respondAll_concat, List.mem_append] at h
      rcases h with hold | hnew
      · obtain ⟨before, first, after, rfl, hfirst⟩ := ih hold
        exact ⟨before, first, after ++ [input], by simp, hfirst⟩
      · exact ⟨inputs, input, [], rfl, hnew⟩
  · rintro ⟨before, input, after, rfl, hn⟩
    induction after using List.reverseRecOn with
    | nil =>
      rw [respondAll_concat]
      exact List.mem_append_right _ hn
    | append_singleton after last ih =>
      rw [← List.cons_append, ← List.append_assoc, respondAll_concat]
      exact List.mem_append_left _ ih

/-- A session begins with this input, after those before it. -/
def Begins (settings : Settings) (target : Option Endpoint) (before : List Input) (input : Input)
    (id : SessionId) (endpoint : Endpoint) : Prop :=
  .opened id endpoint ∈ (((new settings target).respondAll before).value.respond input).notes

theorem Begins.endpoint {before : List Input} {input : Input} {id : SessionId}
    {endpoint : Endpoint} (h : Begins settings target before input id endpoint) :
    endpoint.Streams ∧
      ∃ aim, target = some aim ∧ StandsFor (heard (before ++ [input])) aim endpoint := by
  obtain ⟨htarget, hlatest⟩ := run_keeps settings target before
  have hopened := respond_opened h
  rwa [htarget, hlatest, ← heard_concat] at hopened

/-! ## The sessions of a run -/

/-- What holds of the sessions of a monitor after these inputs. -/
structure Sessions (settings : Settings) (target : Option Endpoint) (inputs : List Input)
    (x : Noted MonitorNote Monitor) : Prop where
  latest : x.value.latest = heard inputs
  /-- A live session has the last number that was given out. -/
  numbered : ∀ s ∈ x.value.session, s.id = x.value.lastId
  increasing : (openedIds (changes x.notes)).Pairwise (· < ·)
  /-- No session is opened while another is live, and what is live has been opened last. -/
  alternate : Alternate (changes x.notes) (x.value.session.map Session.key)
  /-- No session is closed twice. -/
  once : (closedIds (changes x.notes)).Nodup
  /-- Each has begun with an endpoint for a byte stream, which is what the target stood for in the
  inventory that was the latest one then. -/
  aimed : ∀ before input after id endpoint, inputs = before ++ input :: after →
    Begins settings target before input id endpoint → endpoint.Streams ∧
      ∃ aim, target = some aim ∧ StandsFor (heard (before ++ [input])) aim endpoint
  /-- And so has the live one. -/
  begun : ∀ s ∈ x.value.session, ∃ before input after, inputs = before ++ input :: after ∧
    Begins settings target before input s.id s.endpoint

/-- After all inputs, and therefore after every run of a watch. -/
theorem sessions_never_overlap (settings : Settings) (target : Option Endpoint) :
    (∀ inputs, Sessions settings target inputs ((new settings target).respondAll inputs)) ∧
      ∀ actions x, (Watch.new settings target).run actions = some x →
        Watch.Driven settings target x.notes x.value.monitor := by
  refine ⟨fun inputs => ?_, fun actions x hrun => Watch.run_driven hrun⟩
  have htally := run_tally settings target inputs
  refine ⟨(run_keeps settings target inputs).2, htally.numbered, htally.increasing,
    htally.alternate, ?_, fun before input after id endpoint _ hbegins => hbegins.endpoint, ?_⟩
  · -- Whatever was closed had been opened, under a number of its own.
    have hopened := htally.increasing.imp Nat.ne_of_lt
    rw [htally.alternate.closings] at hopened
    exact (List.pairwise_append.mp hopened).1
  · intro s hs
    have hlive := htally.alternate
    rw [Option.mem_def.mp hs] at hlive
    exact mem_respondAll.mp (mem_changes_opened.mp hlive.mem_live)

/-- One device is lost and another one found, and there are events of no session in between. -/
def twoDevices : List Input :=
  [.hardware { listed := ["Auto Serial", "COM1"] }
      { host := { device := fun _ => .ok fun _ => none } },
    .data 1 [1, 2, 3], .disconnected 7 {} { host := {} }, .disconnected 1 {} { host := {} },
    .disconnected 1 {} { host := {} }, .retry { host := {} },
    .hardware { listed := ["80", "COM2", "Auto Serial"] }
      { host := { device := fun _ => .ok fun _ => none } }]

theorem sessions_never_overlap_on_two_devices :
    Sessions {} (some .autoSerial) twoDevices ((new {} (some .autoSerial)).respondAll twoDevices) ∧
      changes ((new {} (some .autoSerial)).respondAll twoDevices).notes =
        [.opened 1 (.serial "COM1"), .closed 1, .opened 2 (.serial "COM2")] :=
  ⟨(sessions_never_overlap {} (some .autoSerial)).1 twoDevices, by decide +kernel⟩

end LinkWatch.Monitor
