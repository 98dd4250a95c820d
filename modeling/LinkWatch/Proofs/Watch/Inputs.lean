import LinkWatch.Proofs.Monitor.Inputs
import LinkWatch.Proofs.Watch.Steps

/-! # A watch drives its monitor by inputs, and by nothing else -/

namespace LinkWatch.Watch

variable {w : Watch}

def monitor? : WatchNote → Option MonitorNote
  | .monitor n => some n
  | .scanner _ | .intake _ _ | .handled _ => none

/-- How the session of the monitor has changed. -/
def changes (notes : List WatchNote) : List Monitor.Change :=
  Monitor.changes (notes.filterMap monitor?)

/-! ## Reading the notes -/

theorem changes_append (notes more : List WatchNote) :
    changes (notes ++ more) = changes notes ++ changes more := by
  rw [changes, List.filterMap_append, Monitor.changes_append, changes, changes]

theorem changes_monitor (notes : List MonitorNote) :
    changes (notes.map .monitor) = Monitor.changes notes := by
  rw [changes, List.filterMap_map]
  exact congrArg _ List.filterMap_some

theorem changes_scanner (notes : List Scanner.Note) : changes (notes.map .scanner) = [] := by
  rw [changes, filterMap_map_none fun _ => rfl]
  rfl

theorem changes_intake (id : SessionId) (notes : List IntakeNote) :
    changes (notes.map (.intake id)) = [] := by
  rw [changes, filterMap_map_none fun _ => rfl]
  rfl

theorem changes_handled (e : Event) (notes : List WatchNote) :
    changes (.handled e :: notes) = changes notes := rfl

theorem changes_complaint (result : Except ConnectError Unit) :
    changes (complaint result) = [] := by
  cases result with
  | error e => rfl
  | ok done => rfl

/-! ## One step -/

def input (attempt : Attempt) (closing : Closing) : Event → Monitor.Input
  | .hardware found => .hardware found attempt
  | .data id bytes => .data id bytes
  | .disconnected id => .disconnected id closing attempt

/-- What an action means to the monitor, if anything. -/
def input? (w : Watch) : Action → Option Monitor.Input
  | .scan _ | .read _ _ => none
  | .retry attempt => some (.retry attempt)
  | .take attempt closing => w.queue.head?.map (input attempt closing)
  | .finish closing => some (.shutdown closing)

theorem withMonitor_monitor (w : Watch) (m : Monitor) : (w.withMonitor m).value.monitor = m := by
  unfold withMonitor
  split
  · rfl
  · rfl

theorem changes_withMonitor (w : Watch) (m : Monitor) : changes (w.withMonitor m).notes = [] := by
  rw [changes, filterMap_withMonitor m fun _ _ => rfl]
  rfl

theorem connect_pursues (w : Watch) (attempt : Attempt) :
    (w.connect attempt).value.monitor = (w.monitor.pursue attempt).value ∧
      changes (w.connect attempt).notes = Monitor.changes (w.monitor.pursue attempt).notes := by
  rw [connect_eq, changes_append, changes_append, changes_monitor, changes_complaint,
    changes_withMonitor, List.append_nil, List.append_nil, Monitor.changes_pursue,
    Monitor.pursue_value]
  exact ⟨withMonitor_monitor .., rfl⟩

theorem handle_responds (w : Watch) (attempt : Attempt) (closing : Closing) (e : Event) :
    (w.handle attempt closing e).value.monitor =
        (w.monitor.respond (input attempt closing e)).value ∧
      changes (w.handle attempt closing e).notes =
        Monitor.changes (w.monitor.respond (input attempt closing e)).notes := by
  cases e with
  | hardware found =>
    obtain ⟨hmonitor, hchanges⟩ :=
      connect_pursues { w with monitor := (w.monitor.hardware found).value } attempt
    refine ⟨hmonitor, ?_⟩
    rw [handle, Noted.notes_bind, changes_append, Noted.notes_mapNotes, changes_monitor]
    exact (congrArg _ hchanges).trans (Monitor.changes_append ..).symm
  | data id bytes =>
    refine ⟨rfl, ?_⟩
    rw [handle, Noted.notes_bind, Noted.notes_pure, List.append_nil]
    exact changes_monitor _
  | disconnected id =>
    obtain ⟨hmonitor, hchanges⟩ :=
      connect_pursues { w with monitor := (w.monitor.disconnected id closing).value } attempt
    refine ⟨hmonitor, ?_⟩
    rw [handle, Noted.notes_bind, changes_append, Noted.notes_mapNotes, changes_monitor]
    exact (congrArg _ hchanges).trans (Monitor.changes_append ..).symm

theorem finish_responds (w : Watch) (closing : Closing) :
    (w.finish closing).value.monitor = (w.monitor.shutdown closing).value ∧
      changes (w.finish closing).notes = Monitor.changes (w.monitor.shutdown closing).notes := by
  refine ⟨rfl, ?_⟩
  rw [finish, Noted.notes_bind, Noted.notes_bind, Noted.notes_pure, List.append_nil,
    changes_append, Noted.notes_mapNotes, changes_monitor]
  rfl

theorem step_responds {a : Action} {x : Noted WatchNote Watch} (h : w.step a = some x) :
    x.value.monitor = (w.monitor.respondAll (w.input? a).toList).value ∧
      changes x.notes = Monitor.changes (w.monitor.respondAll (w.input? a).toList).notes := by
  cases step_of_eq h with
  | scan action y _ => exact ⟨rfl, changes_scanner y.notes⟩
  | read id r i _ _ => exact ⟨rfl, changes_intake id _⟩
  | retry attempt _ =>
    simpa [input?, Monitor.respondAll, Monitor.respond] using w.connect_pursues attempt
  | take attempt closing e rest _ hqueue =>
    have hhandled := handle_responds { w with queue := rest } attempt closing e
    simpa [input?, hqueue, Monitor.respondAll, changes_handled] using hhandled
  | finish closing _ =>
    simpa [input?, Monitor.respondAll, Monitor.respond] using w.finish_responds closing

/-! ## Runs -/

/-- The monitor is where some inputs have led it, and its session has changed as they say. -/
def Driven (settings : Settings) (target : Option Endpoint) (notes : List WatchNote)
    (m : Monitor) : Prop :=
  ∃ inputs, m = ((Monitor.new settings target).respondAll inputs).value ∧
    changes notes = Monitor.changes ((Monitor.new settings target).respondAll inputs).notes

theorem Driven.step {settings : Settings} {target : Option Endpoint} {notes : List WatchNote}
    {a : Action} {x : Noted WatchNote Watch} (h : Driven settings target notes w.monitor)
    (hstep : w.step a = some x) : Driven settings target (notes ++ x.notes) x.value.monitor := by
  obtain ⟨inputs, hmonitor, hchanges⟩ := h
  obtain ⟨hmonitor', hchanges'⟩ := step_responds hstep
  cases hinput : w.input? a with
  | none =>
    rw [hinput] at hmonitor' hchanges'
    refine ⟨inputs, hmonitor'.trans hmonitor, ?_⟩
    rw [changes_append, hchanges, hchanges']
    exact List.append_nil _
  | some input =>
    rw [hinput, hmonitor] at hmonitor' hchanges'
    refine ⟨inputs ++ [input], ?_⟩
    rw [changes_append, hchanges, hchanges', hmonitor', Monitor.respondAll_concat,
      Monitor.changes_append]
    simp [Monitor.respondAll]

theorem run_driven {settings : Settings} {target : Option Endpoint} {actions : List Action}
    {x : Noted WatchNote Watch} (h : (new settings target).run actions = some x) :
    Driven settings target x.notes x.value.monitor :=
  runWith_induction (motive := fun _ notes w => Driven settings target notes w.monitor)
    ⟨[], rfl, rfl⟩ (fun _ _ _ _ _ _ hs hstep => hs.step hstep) h

end LinkWatch.Watch
