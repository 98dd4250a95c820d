import LinkWatch.Proofs.Monitor.Sessions
import LinkWatch.Startup

/-! # CAN targets are never streamed, but they are tried whenever they are listed -/

namespace LinkWatch.Monitor

variable {settings : Settings} {target : Option Endpoint} {m : Monitor}

/-! ## One try -/

/-- There is no target that a byte stream could be opened to. -/
def NoStream (target : Option Endpoint) : Prop := ∀ e ∈ target, e.isCan = true

/-- The target, where an inventory lists it. -/
def listed? (target : Option Endpoint) (found : Inventory) : Option Endpoint :=
  target.filter fun e => e.display ∈ found.listed

/-- What comes of trying an endpoint that cannot be streamed. -/
def refusal (e : Endpoint) : ConnectError := .opening e (.unsupported e.display)

theorem listed?_eq_some {found : Inventory} {e : Endpoint} :
    listed? target found = some e ↔ target = some e ∧ e.display ∈ found.listed := by
  unfold listed?
  rw [Option.filter_eq_some_iff, decide_eq_true_iff]

theorem available_noStream (h : NoStream m.target) : m.available = listed? m.target m.latest := by
  unfold available listed?
  cases htarget : m.target with
  | none => rfl
  | some e =>
    have hcan : e.isCan = true := h e htarget
    cases e with
    | pcan | socketCan => simp [Option.filter]
    | autoSerial | serial | tcp => exact absurd hcan (by simp [Endpoint.isCan])

theorem opening_noStream {e : Endpoint} (h : e.isCan = true) (attempt : Attempt) :
    attempt.host.open m.settings.opening e = pure (.error (.unsupported e.display)) := by
  cases e with
  | pcan | socketCan => rfl
  | autoSerial | serial | tcp => exact absurd h (by simp [Endpoint.isCan])

theorem connect_noStream (h : NoStream m.target) (hfree : m.session = none) (attempt : Attempt) :
    m.connect attempt = match listed? m.target m.latest with
      | some e => ⟨(.error (refusal e), m), [.attempted e]⟩
      | none => pure (.ok (), m) := by
  unfold connect
  rw [hfree, available_noStream h]
  cases hlisted : listed? m.target m.latest with
  | none => rfl
  | some e =>
    have hcan : e.isCan = true := h e (listed?_eq_some.mp hlisted).1
    simp only [connectTo, opening_noStream hcan attempt]
    rfl

/-- What a try leads to, where the target that it finds cannot be streamed. -/
def vain : Option Endpoint → List MonitorNote
  | some e => [.attempted e, .logged ⟨.warn, (refusal e).message⟩]
  | none => []

theorem pursue_noStream (h : NoStream m.target) (hfree : m.session = none) (attempt : Attempt) :
    m.pursue attempt = ⟨m, vain (listed? m.target m.latest)⟩ := by
  unfold pursue
  rw [connect_noStream h hfree]
  cases listed? m.target m.latest with
  | none => rfl
  | some e => rfl

/-! ## One input -/

/-- What an input leads to, where the target cannot be streamed. -/
def reply (target : Option Endpoint) (latest : Inventory) : Input → List MonitorNote
  | .hardware found _ =>
    .logged ⟨.info, "Hardware changed: " ++ found.summary⟩ :: vain (listed? target found)
  | .retry _ | .disconnected _ _ _ => vain (listed? target latest)
  | .data _ _ | .shutdown _ => []

/-- The monitor tries to connect after every input but these. -/
def Input.tries : Input → Bool
  | .data _ _ | .shutdown _ => false
  | .hardware _ _ | .retry _ | .disconnected _ _ _ => true

theorem attempted_mem_vain {e : Endpoint} {found : Option Endpoint} :
    .attempted e ∈ vain found ↔ found = some e := by
  cases found with
  | none => simp [vain]
  | some e' => simp [vain, eq_comm]

theorem attempted_mem_reply {latest : Inventory} {input : Input} {e : Endpoint} :
    .attempted e ∈ reply target latest input ↔
      input.tries = true ∧ target = some e ∧ e.display ∈ (hear latest input).listed := by
  rw [← listed?_eq_some]
  cases input with
  | hardware found attempt => simp [reply, Input.tries, hear, attempted_mem_vain]
  | retry | disconnected => simp [reply, Input.tries, hear, attempted_mem_vain]
  | data | shutdown => simp [reply, Input.tries]

theorem respond_noStream (h : NoStream m.target) (hfree : m.session = none) (input : Input) :
    m.respond input = ⟨m.hears input, reply m.target m.latest input⟩ := by
  have hstranger : ∀ id, ∀ s ∈ m.session, s.id ≠ id := by simp [hfree]
  cases input with
  | hardware found attempt =>
    have hpursue := pursue_noStream (m := { m with latest := found }) h hfree attempt
    simp [respond, hardware, hpursue, note, bind, hears, hear, reply]
  | retry attempt => exact pursue_noStream h hfree attempt
  | data id bytes => exact data_stranger (hstranger id) bytes
  | disconnected id closing attempt =>
    have hpursue := pursue_noStream h hfree attempt
    simp [respond, disconnected_stranger (hstranger id), hpursue, bind, hears, hear, reply]
  | shutdown closing => exact shutdown_idle hfree closing

theorem changes_vain (e : Option Endpoint) : changes (vain e) = [] := by
  cases e with
  | none => rfl
  | some e => rfl

theorem changes_reply (latest : Inventory) (input : Input) :
    changes (reply target latest input) = [] := by
  cases input with
  | hardware found attempt => exact changes_vain _
  | retry | disconnected => exact changes_vain _
  | data | shutdown => rfl

/-! ## Runs -/

theorem run_noStream (settings : Settings) (h : NoStream target) (inputs : List Input) :
    ((new settings target).respondAll inputs).value =
        { new settings target with latest := heard inputs } ∧
      changes ((new settings target).respondAll inputs).notes = [] := by
  induction inputs using List.reverseRecOn with
  | nil => exact ⟨rfl, rfl⟩
  | append_singleton inputs input ih =>
    have hreply := respond_noStream (m := { new settings target with latest := heard inputs }) h
      rfl input
    rw [respondAll_concat, ih.1, hreply, changes_append, ih.2, heard_concat]
    exact ⟨rfl, changes_reply _ input⟩

/-- What becomes of a monitor whose target cannot be streamed, or that has none. -/
structure OnlyWatches (settings : Settings) (target : Option Endpoint) (inputs : List Input)
    (x : Noted MonitorNote Monitor) : Prop where
  /-- It knows the latest inventory, and is in all else as it was in the beginning. -/
  state : x.value = { new settings target with latest := heard inputs }
  /-- No session has been opened or closed. -/
  changes : changes x.notes = []
  /-- But the target has been attempted, whenever a try has found it listed. -/
  attempts : ∀ e, .attempted e ∈ x.notes ↔ target = some e ∧
    ∃ before input after, inputs = before ++ input :: after ∧ input.tries = true ∧
      e.display ∈ (heard (before ++ [input])).listed
  /-- Each attempt has failed, and nothing but that and what it heard has been logged. -/
  replies : ∀ before input after, inputs = before ++ input :: after →
    (((new settings target).respondAll before).value.respond input).notes =
      reply target (heard before) input
  /-- So does the next try, if it finds the target listed. -/
  next : ∀ attempt, x.value.connect attempt = match listed? target (heard inputs) with
    | some e => ⟨(.error (refusal e), x.value), [.attempted e]⟩
    | none => pure (.ok (), x.value)

/-- After all inputs, and therefore after every run of a watch. -/
theorem can_targets_are_tried_in_vain (settings : Settings) {target : Option Endpoint}
    (h : ∀ e ∈ target, e.isCan = true) :
    (∀ inputs, OnlyWatches settings target inputs ((new settings target).respondAll inputs)) ∧
      ∀ actions x, (Watch.new settings target).run actions = some x →
        Watch.Driven settings target x.notes x.value.monitor ∧
          x.value.monitor.session = none ∧ Watch.changes x.notes = [] := by
  have hreply : ∀ before input,
      (((new settings target).respondAll before).value.respond input).notes =
        reply target (heard before) input := by
    intro before input
    rw [(run_noStream settings h before).1,
      respond_noStream (m := { new settings target with latest := heard before }) h rfl]
    rfl
  refine ⟨fun inputs => ?_, fun actions x hrun => ?_⟩
  · obtain ⟨hstate, hchanges⟩ := run_noStream settings h inputs
    refine ⟨hstate, hchanges, fun e => ?_, fun before input after _ => hreply before input,
      fun attempt => ?_⟩
    · rw [mem_respondAll]
      constructor
      · rintro ⟨before, input, after, rfl, hmem⟩
        rw [hreply, attempted_mem_reply, ← heard_concat] at hmem
        exact ⟨hmem.2.1, before, input, after, rfl, hmem.1, hmem.2.2⟩
      · rintro ⟨haim, before, input, after, rfl, htries, hlisted⟩
        rw [heard_concat] at hlisted
        refine ⟨before, input, after, rfl, ?_⟩
        rw [hreply, attempted_mem_reply]
        exact ⟨htries, haim, hlisted⟩
    · rw [hstate]
      exact connect_noStream (m := { new settings target with latest := heard inputs }) h rfl
        attempt
  · obtain ⟨inputs, hmonitor, hchanges⟩ := Watch.run_driven hrun
    obtain ⟨hstate, hnone⟩ := run_noStream settings h inputs
    refine ⟨⟨inputs, hmonitor, hchanges⟩, ?_, hchanges.trans hnone⟩
    rw [hmonitor, hstate]
    rfl

/-- A CAN adapter is plugged in and out. -/
def adapterInAndOut : List Input :=
  [.hardware { listed := ["PCAN"], canAdapter := true } { host := {} }, .retry { host := {} },
    .data 1 [1], .disconnected 1 {} { host := {} }, .hardware {} { host := {} },
    .retry { host := {} }]

theorem can_targets_are_tried_in_vain_while_plugged :
    (∀ e ∈ some Endpoint.pcan, e.isCan = true) ∧
      OnlyWatches {} (some .pcan) adapterInAndOut
        ((new {} (some .pcan)).respondAll adapterInAndOut) :=
  have hcan : ∀ e ∈ some Endpoint.pcan, e.isCan = true := by decide
  ⟨hcan, (can_targets_are_tried_in_vain {} hcan).1 adapterInAndOut⟩

/-- It is announced that a target is only watched, which is attempted nevertheless. -/
theorem a_watched_target_is_attempted :
    firstRecord (some .pcan) =
        ⟨.warn, "PCAN is listed but cannot be streamed; only watching"⟩ ∧
      ((new {} (some .pcan)).respondAll
        [.hardware { listed := ["PCAN"], canAdapter := true } { host := {} }]).notes =
        [.logged ⟨.info, "Hardware changed: ports=[\"PCAN\"] dfu=false st-link=false can=true"⟩,
          .attempted .pcan,
          .logged ⟨.warn, "Failed to open PCAN: Unsupported endpoint: PCAN"⟩] ∧
      (({ new {} (some .pcan) with latest := { listed := ["PCAN"], canAdapter := true } } :
        Monitor).connect { host := {} }).value.1 =
        .error (.opening .pcan (.unsupported "PCAN")) :=
  ⟨by decide +kernel, by decide +kernel, by rfl⟩

end LinkWatch.Monitor
