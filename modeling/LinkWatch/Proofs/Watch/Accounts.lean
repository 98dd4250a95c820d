import LinkWatch.Proofs.Watch.Steps
import Mathlib.Data.List.Basic

/-! # What a session has been credited when it ends, and that it ends once -/

namespace LinkWatch.Watch

variable {settings : Settings} {input : SessionId → List Reading} {notes : List WatchNote}
variable {w : Watch} {s : Session} {id : SessionId}

/-! ## What the ledger tells of one session -/

theorem eq_data_of_end {p : Prop} [Decidable p] {chunks : List (List UInt8)}
    {before after : List Event}
    (h : before ++ .disconnected id :: after =
      chunks.map (Event.data id) ++ if p then [Event.disconnected id] else []) :
    p ∧ before = chunks.map (Event.data id) := by
  have hnone : Event.disconnected id ∉ chunks.map (Event.data id) := by simp
  by_cases hp : p
  · rw [if_pos hp] at h
    have hparts := (List.append_cons_inj_of_notMem hnone List.not_mem_nil).mp h.symm
    exact ⟨hp, hparts.1.symm⟩
  · rw [if_neg hp, List.append_nil] at h
    refine absurd ?_ hnone
    rw [← h]
    simp

theorem Ledger.inOrder (h : Ledger settings input notes w) (id : SessionId) :
    (notes.filterMap handled?).filterMap (dataOf? id) ++ w.queue.filterMap (dataOf? id) =
      chunks id notes := by
  rw [← List.filterMap_append, h.fifo, filterMap_dataOf, filter_emitted]
  cases hi : w.intake? id with
  | none =>
    rw [chunks, (h.unread id hi).2.1]
    rfl
  | some i =>
    rw [(h.took id i hi).events, List.filterMap_append, filterMap_dataOf_map]
    by_cases he : i.ended = some .orderly
    · simp [he, chunks, dataOf?]
    · simp [he, chunks]

theorem Ledger.brought (h : Ledger settings input notes w) (id : SessionId) :
    total (chunks id notes) =
      ((input id).map (Reading.brings settings.drain.capacity)).sum := by
  cases hi : w.intake? id with
  | none =>
    rw [chunks, (h.unread id hi).2.1, (h.unread id hi).1]
    rfl
  | some i => exact (h.took id i hi).brought

theorem Ledger.complete (h : Ledger settings input notes w) (hs : w.monitor.session = some s)
    {rest : List Event} (hqueue : w.queue = .disconnected s.id :: rest) :
    s.bytes = total (chunks s.id notes) ∧
      ∃ i, w.intake? s.id = some i ∧ i.ended = some .orderly := by
  have hopen := h.goesOn s hs
  obtain ⟨i, hi⟩ := Option.ne_none_iff_exists'.mp hopen.held
  have hevents := h.events hi
  have hhead : w.queue.filter (ofSession s.id) =
      .disconnected s.id :: rest.filter (ofSession s.id) := by
    rw [hqueue]
    exact List.filter_cons_of_pos (by simp [ofSession])
  rw [hhead] at hevents
  obtain ⟨he, hbefore⟩ := eq_data_of_end hevents
  rw [hopen.credited, filterMap_dataOf, hbefore, filterMap_dataOf_map]
  exact ⟨rfl, i, hi, he⟩

theorem Ledger.final {input' : SessionId → List Reading} {more : List WatchNote} {v : Watch}
    (h : Ledger settings input notes w) (hlater : Ledger settings input' (notes ++ more) v)
    {i : Intake} (hi : w.intake? id = some i) (he : i.ended = some .orderly) :
    chunks id (notes ++ more) = chunks id notes := by
  have hbefore := (h.took id i hi).events id
  rw [if_pos he] at hbefore
  have hown : (notes ++ more).filterMap (ofIntake? id) =
      notes.filterMap (ofIntake? id) ++ more.filterMap (ofIntake? id) := List.filterMap_append
  have hsome : v.intake? id ≠ none := by
    intro hnone
    have hempty := (hlater.unread id hnone).2.1
    rw [hown] at hempty
    rw [(List.append_eq_nil_iff.mp hempty).1] at hbefore
    simp at hbefore
  obtain ⟨j, hj⟩ := Option.ne_none_iff_exists'.mp hsome
  have hafter := (hlater.took id j hj).events id
  rw [hown, List.filterMap_append, hbefore, List.append_assoc, List.singleton_append] at hafter
  have hdata := congrArg (List.filterMap (dataOf? id)) (eq_data_of_end hafter).2
  rw [filterMap_dataOf_map, filterMap_dataOf_map, ← hown] at hdata
  exact hdata.symm

theorem Ledger.reported (h : Ledger settings input notes w) {r : Reading} (hr : r ∈ input id)
    (hends : r.ends settings.drain.capacity = true) :
    w.intake? id ≠ none ∧ Event.disconnected id ∈ notes.filterMap emitted? := by
  cases hi : w.intake? id with
  | none =>
    rw [(h.unread id hi).1] at hr
    exact absurd hr (by simp)
  | some i =>
    have htook := h.took id i hi
    have he : i.ended = some .orderly := htook.ended.mpr ⟨r, hr, hends⟩
    have hmem : Event.disconnected id ∈ (notes.filterMap emitted?).filter (ofSession id) := by
      rw [filter_emitted, htook.events, if_pos he]
      simp
    exact ⟨by simp, List.mem_of_mem_filter hmem⟩

theorem Ledger.once (h : Ledger settings input notes w) (id : SessionId) :
    closings id notes ≤ 1 := by
  by_cases hi : w.intake? id = none
  · rw [(h.unread id hi).2.2]
    exact Nat.zero_le 1
  · by_cases hpast : ∀ s, w.monitor.session = some s → s.id ≠ id
    · exact Nat.le_of_eq (h.past id hi hpast)
    · push Not at hpast
      obtain ⟨s, hs, rfl⟩ := hpast
      rw [(h.goesOn s hs).kept]
      exact Nat.zero_le 1

theorem Ledger.tornDown (h : Ledger settings input notes w) {r : Reading} (hr : r ∈ input id)
    (hends : r.ends settings.drain.capacity = true) :
    (closings id notes = 1 ∧ ∀ s, w.monitor.session = some s → s.id ≠ id) ∨
      (closings id notes = 0 ∧ (∃ s, w.monitor.session = some s ∧ s.id = id) ∧
        Event.disconnected id ∈ w.queue ∧ w.stopped = false) := by
  obtain ⟨hi, hreported⟩ := h.reported hr hends
  by_cases hpast : ∀ s, w.monitor.session = some s → s.id ≠ id
  · exact Or.inl ⟨h.past id hi hpast, hpast⟩
  · push Not at hpast
    obtain ⟨s, hs, rfl⟩ := hpast
    have hopen := h.goesOn s hs
    rw [← h.fifo] at hreported
    refine Or.inr ⟨hopen.kept, ⟨s, hs, rfl⟩, ?_, ?_⟩
    · exact (List.mem_append.mp hreported).resolve_left hopen.awaited
    · by_contra hstopped
      rw [h.idle (by simpa using hstopped)] at hs
      exact absurd hs (by simp)

/-- Once everything has been handled that was in the queue, the session is torn down. -/
theorem Ledger.inTime {input' : SessionId → List Reading} {more : List WatchNote} {v : Watch}
    (h : Ledger settings input notes w) (hlater : Ledger settings input' (notes ++ more) v)
    (hmore : ∀ r ∈ input id, r ∈ input' id) {r : Reading} (hr : r ∈ input id)
    (hends : r.ends settings.drain.capacity = true)
    (hhandled : w.queue.length ≤ (more.filterMap handled?).length) :
    closings id (notes ++ more) = 1 := by
  rcases hlater.tornDown (hmore r hr) hends with ⟨hclosed, -⟩ | ⟨-, ⟨s, hs, rfl⟩, -, -⟩
  · exact hclosed
  · have hawaited := (hlater.goesOn s hs).awaited
    have hfifo := hlater.fifo
    rw [List.filterMap_append, List.filterMap_append, ← h.fifo, List.append_assoc,
      List.append_assoc] at hfifo
    have hqueue : w.queue <+: more.filterMap handled? :=
      List.prefix_of_prefix_length_le
        ⟨_, (List.append_cancel_left hfifo).symm⟩ (List.prefix_append _ _) hhandled
    have hreported := (h.reported hr hends).2
    rw [← h.fifo] at hreported
    refine absurd ?_ hawaited
    rw [List.filterMap_append, List.mem_append]
    exact (List.mem_append.mp hreported).imp_right fun hmem => hqueue.subset hmem

/-! ## The accounts of a run -/

/-- What holds of the sessions of a watch after a run. -/
structure Accounts (settings : Settings) (actions : List Action)
    (x : Noted WatchNote Watch) : Prop where
  /-- The intake of a session hands on as many bytes as its own readings have brought. -/
  brought : ∀ id, total (chunks id x.notes) =
    ((readings id actions).map (Reading.brings settings.drain.capacity)).sum
  /-- What it has handed on has been handled in its order, or is still in the queue. -/
  inOrder : ∀ id, (x.notes.filterMap handled?).filterMap (dataOf? id) ++
    x.value.queue.filterMap (dataOf? id) = chunks id x.notes
  /-- The session has been credited with its own bytes, as far as they have been handled. -/
  credited : ∀ s, x.value.monitor.session = some s →
    s.bytes = total ((x.notes.filterMap handled?).filterMap (dataOf? s.id))
  /-- When its end comes up it has been credited with all that it will ever have brought. -/
  complete : ∀ s rest, x.value.monitor.session = some s →
    x.value.queue = .disconnected s.id :: rest →
    s.bytes = total (chunks s.id x.notes) ∧
      ∀ later y, x.value.run later = some y → chunks s.id (x.notes ++ y.notes) = chunks s.id x.notes
  /-- And that is the number which is logged then. -/
  farewell : ∀ s rest attempt closing y, x.value.monitor.session = some s →
    x.value.queue = .disconnected s.id :: rest →
    x.value.step (.take attempt closing) = some y →
    .monitor (.logged ⟨.warn, "Disconnected from " ++ s.endpoint.display ++ " after " ++
      Text.decimal (total (chunks s.id x.notes)) ++ " bytes"⟩) ∈ y.notes
  /-- Events of other sessions do nothing to the monitor. -/
  strangers : ∀ id, (∀ s, x.value.monitor.session = some s → s.id ≠ id) →
    (∀ bytes, x.value.monitor.data id bytes = pure x.value.monitor) ∧
      ∀ closing, x.value.monitor.disconnected id closing = pure x.value.monitor
  /-- No session is torn down twice. -/
  once : ∀ id, closings id x.notes ≤ 1
  /-- One whose source has ended was torn down, or its end is still in the queue. -/
  tornDown : ∀ id, ∀ r ∈ readings id actions, r.ends settings.drain.capacity = true →
    (closings id x.notes = 1 ∧ ∀ s, x.value.monitor.session = some s → s.id ≠ id) ∨
      (closings id x.notes = 0 ∧ (∃ s, x.value.monitor.session = some s ∧ s.id = id) ∧
        Event.disconnected id ∈ x.value.queue ∧ x.value.stopped = false)
  /-- It is torn down before anything is handled that is put into the queue from now on. -/
  inTime : ∀ id, ∀ r ∈ readings id actions, r.ends settings.drain.capacity = true →
    ∀ later y, x.value.run later = some y →
    x.value.queue.length ≤ (y.notes.filterMap handled?).length →
    closings id (x.notes ++ y.notes) = 1
  /-- Until the monitor stops, the oldest event can always be handled. -/
  onward : ∀ e rest, x.value.stopped = false → x.value.queue = e :: rest →
    ∀ attempt closing, ∃ y, x.value.step (.take attempt closing) = some y ∧ .handled e ∈ y.notes

theorem step_take {e : Event} {rest : List Event} (hstopped : w.stopped = false)
    (hqueue : w.queue = e :: rest) (attempt : Attempt) (closing : Closing) :
    w.step (.take attempt closing) =
      some ⟨(({ w with queue := rest } : Watch).handle attempt closing e).value,
        .handled e :: (({ w with queue := rest } : Watch).handle attempt closing e).notes⟩ :=
  eq_of_step (.take attempt closing e rest hstopped hqueue)

theorem sessions_are_accounted_for {target : Option Endpoint} {actions : List Action}
    {x : Noted WatchNote Watch} (h : (new settings target).run actions = some x) :
    Accounts settings actions x := by
  have hledger := run_ledger h
  have hgo : ∀ later y, x.value.run later = some y →
      Ledger settings (fun id => readings id (actions ++ later)) (x.notes ++ y.notes) y.value :=
    fun later y hy => run_ledger (runWith_append_iff.mpr ⟨x, y, h, hy, rfl⟩)
  refine ⟨hledger.brought, hledger.inOrder, ?_, ?_, ?_, ?_, hledger.once, ?_, ?_, ?_⟩
  · intro s hs
    exact (hledger.goesOn s hs).credited
  · intro s rest hs hqueue
    obtain ⟨hbytes, i, hi, he⟩ := hledger.complete hs hqueue
    exact ⟨hbytes, fun later y hy => hledger.final (hgo later y hy) hi he⟩
  · intro s rest attempt closing y hs hqueue hy
    have hstopped : x.value.stopped = false := by
      by_contra hstopped
      rw [hledger.idle (by simpa using hstopped)] at hs
      exact absurd hs (by simp)
    rw [step_take hstopped hqueue] at hy
    obtain rfl := Option.some.inj hy
    rw [← (hledger.complete hs hqueue).1]
    simp [handle, Monitor.disconnected_own hs]
  · intro id hother
    exact ⟨fun bytes => Monitor.data_stranger hother bytes,
      fun closing => Monitor.disconnected_stranger hother closing⟩
  · intro id r hr hends
    exact hledger.tornDown hr hends
  · intro id r hr hends later y hy hhandled
    refine hledger.inTime (hgo later y hy) (fun q hq => ?_) hr hends hhandled
    show q ∈ readings id (actions ++ later)
    rw [readings, List.filterMap_append]
    exact List.mem_append_left _ hq
  · intro e rest hstopped hqueue attempt closing
    exact ⟨_, step_take hstopped hqueue attempt closing, List.mem_cons_self⟩

theorem a_lost_device_is_accounted_for :
    ∃ actions x, (new {} (some (.serial "COM1"))).run actions = some x ∧
      Accounts {} actions x ∧ closings 1 x.notes = 1 ∧ chunks 1 x.notes = [[1, 2, 3]] := by
  let actions : List Action := [.scan (.enlist 0), .scan (.start true), .scan .look,
    .scan (.survey { serial := .found ["COM1"] }), .scan .copy, .scan (.call false),
    .take { host := { device := fun _ => .ok fun _ => none } } {}, .read 1 (.got [1, 2, 3]),
    .read 1 (.failed (.ofErrno 5)), .take { host := {} } {}, .take { host := {} } {}]
  have hrun : ((new {} (some (.serial "COM1"))).run actions).map
      (fun x => (closings 1 x.notes, chunks 1 x.notes)) = some (1, [[1, 2, 3]]) := by
    decide +kernel
  obtain ⟨x, hx, hsummary⟩ := Option.map_eq_some_iff.mp hrun
  obtain ⟨hclosings, hchunks⟩ := Prod.mk.inj hsummary
  exact ⟨actions, x, hx, sessions_are_accounted_for hx, hclosings, hchunks⟩

end LinkWatch.Watch
