import LinkWatch.Proofs.Scanner.Hearing
import LinkWatch.Proofs.Watch.Inputs

/-! # The monitor holds what the scanner holds, once it has heard all -/

namespace LinkWatch.Watch

variable {w : Watch} {a : Action} {x : Noted WatchNote Watch}
variable {settings : Settings} {target : Option Endpoint} {actions : List Action}

/-! ## What there is to hear -/

def scan? : Action → Option Scanner.Action
  | .scan action => some action
  | _ => none

/-- The part of a run that the scanner makes. -/
def scans (actions : List Action) : List Scanner.Action := actions.filterMap scan?

def scanner? : WatchNote → Option Scanner.Note
  | .scanner n => some n
  | _ => none

def hardware? : Event → Option Inventory
  | .hardware found => some found
  | _ => none

/-- The inventories that the monitor has been told, in their order. -/
def heard (notes : List WatchNote) : List Inventory :=
  (notes.filterMap handled?).filterMap hardware?

/-- The inventories that it is still to be told. -/
def waiting (queue : List Event) : List Inventory := queue.filterMap hardware?

/-- What the monitor took for the latest inventory, at each moment of a run. -/
def latests (settings : Settings) (target : Option Endpoint) (actions : List Action) :
    List Inventory :=
  (statesWith step (new settings target) actions).map fun w => w.monitor.latest

theorem heard_append (notes more : List WatchNote) :
    heard (notes ++ more) = heard notes ++ heard more := by
  unfold heard
  rw [List.filterMap_append, List.filterMap_append]

/-! ## Parts that are silent -/

section Silent

variable {β : Type} {f : WatchNote → Option β}

theorem filterMap_complaint (result : Except ConnectError Unit)
    (hmonitor : ∀ n, f (.monitor n) = none) : (complaint result).filterMap f = [] := by
  cases result with
  | error e => exact List.filterMap_cons_none (hmonitor _)
  | ok done => rfl

theorem filterMap_connect (attempt : Attempt) (hmonitor : ∀ n, f (.monitor n) = none)
    (hintake : ∀ id n, f (.intake id n) = none) :
    (w.connect attempt).notes.filterMap f = [] := by
  rw [connect_eq, List.filterMap_append, List.filterMap_append, filterMap_map_none hmonitor,
    filterMap_complaint _ hmonitor, filterMap_withMonitor _ hintake]
  rfl

theorem filterMap_handle (attempt : Attempt) (closing : Closing) (e : Event)
    (hmonitor : ∀ n, f (.monitor n) = none) (hintake : ∀ id n, f (.intake id n) = none) :
    (w.handle attempt closing e).notes.filterMap f = [] := by
  cases e with
  | hardware found | disconnected id =>
    rw [handle, Noted.notes_bind, List.filterMap_append, Noted.notes_mapNotes,
      filterMap_map_none hmonitor, filterMap_connect attempt hmonitor hintake]
    rfl
  | data id bytes =>
    rw [handle, Noted.notes_bind, List.filterMap_append, Noted.notes_mapNotes,
      filterMap_map_none hmonitor]
    rfl

theorem filterMap_finish (closing : Closing) (hmonitor : ∀ n, f (.monitor n) = none) :
    (w.finish closing).notes.filterMap f = [] := by
  unfold finish
  simp [note, hmonitor, filterMap_map_none hmonitor]

end Silent

theorem withMonitor_scanner (m : Monitor) : (w.withMonitor m).value.scanner = w.scanner := by
  unfold withMonitor
  split
  · rfl
  · rfl

theorem connect_scanner (attempt : Attempt) :
    (w.connect attempt).value.scanner = w.scanner := by
  rw [connect_eq]
  exact withMonitor_scanner _

theorem handle_scanner (attempt : Attempt) (closing : Closing) (e : Event) :
    (w.handle attempt closing e).value.scanner = w.scanner := by
  cases e with
  | hardware found | disconnected id => exact connect_scanner attempt
  | data id bytes => rfl

/-! ## One step -/

/-- The event that an action makes the monitor handle. -/
def taken? (w : Watch) : Action → Option Event
  | .take _ _ => w.queue.head?
  | _ => none

theorem step_scans (h : w.step a = some x) :
    w.scanner.run (scan? a).toList = some ⟨x.value.scanner, x.notes.filterMap scanner?⟩ ∧
      x.notes.filterMap handled? = (w.taken? a).toList := by
  cases step_of_eq h with
  | scan action y hy =>
    refine ⟨?_, filterMap_map_none (fun _ => rfl) _⟩
    rw [List.filterMap_map]
    simp only [scan?, Option.toList_some]
    exact (runWith_singleton _ _).trans (by rw [hy]; simp [Function.comp_def, scanner?])
  | read id r i _ _ =>
    exact ⟨by rw [filterMap_map_none fun _ => rfl]; rfl, filterMap_map_none (fun _ => rfl) _⟩
  | retry attempt _ =>
    rw [connect_scanner, filterMap_connect attempt (fun _ => rfl) fun _ _ => rfl,
      filterMap_connect attempt (fun _ => rfl) fun _ _ => rfl]
    exact ⟨rfl, rfl⟩
  | take attempt closing e rest _ hqueue =>
    have hscanner := filterMap_handle (w := { w with queue := rest }) (f := scanner?) attempt
      closing e (fun _ => rfl) fun _ _ => rfl
    have hhandled := filterMap_handle (w := { w with queue := rest }) (f := handled?) attempt
      closing e (fun _ => rfl) fun _ _ => rfl
    have hsame := handle_scanner (w := { w with queue := rest }) attempt closing e
    rw [hsame, List.filterMap_cons, hscanner, List.filterMap_cons, hhandled, taken?, hqueue]
    exact ⟨rfl, rfl⟩
  | finish closing _ =>
    rw [filterMap_finish closing fun _ => rfl, filterMap_finish closing fun _ => rfl]
    exact ⟨rfl, rfl⟩

theorem hear_input (latest : Inventory) (attempt : Attempt) (closing : Closing) (e : Event) :
    Monitor.hear latest (input attempt closing e) = (hardware? e).getD latest := by
  cases e with
  | hardware | data | disconnected => rfl

theorem step_latest (h : w.step a = some x) :
    heard x.notes = ((w.taken? a).bind hardware?).toList ∧
      x.value.monitor.latest = ((w.taken? a).bind hardware?).getD w.monitor.latest := by
  refine ⟨?_, ?_⟩
  · unfold heard
    rw [(step_scans h).2]
    cases w.taken? a with
    | none => rfl
    | some e =>
      cases e with
      | hardware | data | disconnected => rfl
  · rw [(step_responds h).1]
    cases a with
    | take attempt closing =>
      unfold input? taken?
      cases w.queue with
      | nil => rfl
      | cons e rest =>
        have hkeeps := (w.monitor.respond_keeps (input attempt closing e)).2
        rw [hear_input] at hkeeps
        simpa [Monitor.respondAll] using hkeeps
    | scan | read => rfl
    | retry attempt => exact (w.monitor.respond_keeps (.retry attempt)).2
    | finish closing => exact (w.monitor.respond_keeps (.shutdown closing)).2

/-! ## Runs -/

theorem scans_concat (actions : List Action) (a : Action) :
    scans (actions ++ [a]) = scans actions ++ (scan? a).toList := by
  unfold scans
  rw [List.filterMap_append]
  cases h : scan? a <;> simp [h]

theorem run_scans (h : (new settings target).run actions = some x) :
    (Scanner.new settings.scan).run (scans actions) =
      some ⟨x.value.scanner, x.notes.filterMap scanner?⟩ := by
  refine runWith_induction (motive := fun actions notes w =>
    (Scanner.new settings.scan).run (scans actions) =
      some ⟨w.scanner, notes.filterMap scanner?⟩) rfl ?_ h
  intro actions notes w a x _ ih hstep
  rw [scans_concat, List.filterMap_append]
  exact runWith_append_iff.mpr ⟨_, _, ih, (step_scans hstep).1, rfl⟩

theorem given_listener (notes : List WatchNote) :
    Scanner.given listener (notes.filterMap scanner?) =
      (notes.filterMap emitted?).filterMap hardware? := by
  induction notes with
  | nil => rfl
  | cons n notes ih =>
    have hone : Scanner.given listener ([n].filterMap scanner?) =
        ([n].filterMap emitted?).filterMap hardware? := by
      cases n with
      | scanner n =>
        cases n with
        | called l found =>
          by_cases hl : l = listener
          · simp [hl, Scanner.given, Scanner.calls, Scanner.called?, scanner?, emitted?,
              scannerEvent?, hardware?]
          · simp [hl, Scanner.given, Scanner.calls, Scanner.called?, scanner?, emitted?,
              scannerEvent?]
        | _ => rfl
      | intake id n =>
        cases n with
        | chunk | disconnected | asked | logged => rfl
      | monitor | handled => rfl
    rw [← List.singleton_append, List.filterMap_append, List.filterMap_append,
      List.filterMap_append, Scanner.given_append, hone, ih]

theorem heard_waiting (h : (new settings target).run actions = some x) :
    heard x.notes ++ waiting x.value.queue =
      Scanner.given listener (x.notes.filterMap scanner?) := by
  rw [given_listener, ← (run_ledger h).fifo, List.filterMap_append]
  rfl

theorem run_latests (h : (new settings target).run actions = some x) :
    (.empty :: heard x.notes).getLast? = some x.value.monitor.latest ∧
      (latests settings target actions).destutter (· ≠ ·) =
        (.empty :: heard x.notes).destutter (· ≠ ·) := by
  refine runWith_induction (motive := fun actions notes w =>
    (.empty :: heard notes).getLast? = some w.monitor.latest ∧
      (latests settings target actions).destutter (· ≠ ·) =
        (.empty :: heard notes).destutter (· ≠ ·)) ⟨rfl, rfl⟩ ?_ h
  rintro actions notes w a x hrun ⟨hlast, hsame⟩ hstep
  obtain ⟨hheard, hlatest⟩ := step_latest hstep
  have hmore : latests settings target (actions ++ [a]) =
      latests settings target actions ++ [x.value.monitor.latest] := by
    unfold latests
    rw [statesWith_concat hrun hstep, List.map_append]
    rfl
  have hbefore : (latests settings target actions).getLast? = some w.monitor.latest := by
    unfold latests
    rw [List.getLast?_map, getLast?_statesWith hrun]
    rfl
  rw [hmore, destutter_concat hbefore, hsame, heard_append, hheard]
  cases hnews : (w.taken? a).bind hardware? with
  | none =>
    rw [hnews] at hlatest
    rw [hlatest]
    simp [hlast]
  | some found =>
    rw [hnews] at hlatest
    rw [hlatest, Option.toList_some, ← List.cons_append, destutter_concat hlast,
      List.getLast?_concat]
    exact ⟨rfl, rfl⟩

/-! ## The law -/

/-- What the scanner finds and what the monitor holds, where its listener leads all others. -/
structure Agrees (settings : Settings) (target : Option Endpoint) (actions : List Action)
    (x : Noted WatchNote Watch) : Prop where
  /-- What the monitor has heard, what waits in the queue and what the worker is about to tell are
  the findings of all surveys in their order, where equal ones in a row count as one. -/
  course : .empty :: (heard x.notes ++ waiting x.value.queue ++
      Scanner.due listener x.value.scanner.worker) =
    (Scanner.findings settings.scan (scans actions)).destutter (· ≠ ·)
  /-- The monitor has held what it has heard, one after the other. -/
  values : (latests settings target actions).destutter (· ≠ ·) = .empty :: heard x.notes
  /-- Between two cycles, and when no inventory waits, it holds what the scanner holds. -/
  latest : Scanner.underWay x.value.scanner.worker = false → waiting x.value.queue = [] →
    x.value.monitor.latest = x.value.scanner.held
  /-- And until then it has held what the surveys have found. -/
  sequence : Scanner.underWay x.value.scanner.worker = false → waiting x.value.queue = [] →
    (latests settings target actions).destutter (· ≠ ·) =
      (Scanner.findings settings.scan (scans actions)).destutter (· ≠ ·)

theorem due_between {l : Listener} {worker : Worker} (h : Scanner.underWay worker = false) :
    Scanner.due l worker = [] := by
  cases worker with
  | copying | calling => exact absurd h (by simp [Scanner.underWay])
  | _ => rfl

theorem monitor_agrees_with_scanner (h : (new settings target).run actions = some x)
    (hleads : Scanner.Leads listener (Scanner.registered (scans actions))) :
    Agrees settings target actions x := by
  have hscans := run_scans h
  have hcourse := Scanner.run_given hscans hleads
  obtain ⟨hlast, hvalues⟩ := run_latests h
  rw [← heard_waiting h] at hcourse
  -- No inventory is heard twice in a row, as the list that begins with those heard has none.
  have hchain : (.empty :: heard x.notes).IsChain (· ≠ ·) := by
    have hall := List.isChain_destutter (· ≠ ·) (Scanner.findings settings.scan (scans actions))
    rw [← hcourse, List.append_assoc, ← List.cons_append] at hall
    exact hall.left_of_append
  rw [List.destutter_of_isChain _ _ hchain] at hvalues
  have hsettled : Scanner.underWay x.value.scanner.worker = false →
      waiting x.value.queue = [] → .empty :: heard x.notes =
        (Scanner.findings settings.scan (scans actions)).destutter (· ≠ ·) := by
    intro hbetween hnone
    rw [← hcourse, hnone, due_between hbetween, List.append_nil, List.append_nil]
  refine ⟨hcourse, hvalues, ?_, ?_⟩
  · intro hbetween hnone
    have hheld := (Scanner.run_told hscans).last
    rw [← getLast?_destutter, ← hsettled hbetween hnone, hlast] at hheld
    exact Option.some.inj hheld
  · intro hbetween hnone
    rw [hvalues, hsettled hbetween hnone]

/-- A device comes, stays, and goes, and the monitor hears of it late. -/
def comeAndGo : List Action :=
  [.scan (.enlist 0), .scan (.start true), .scan .look,
    .scan (.survey { serial := .found ["COM1"] }), .scan .copy, .scan (.call false), .scan .rest,
    .scan (.wake .rested), .scan .look, .scan (.survey { serial := .found ["COM1"] }),
    .scan .rest, .retry { host := {} }, .scan (.wake .rested), .scan .look,
    .scan (.survey { serial := .crashed }), .scan .copy, .take { host := {} } {},
    .scan (.call false), .scan .rest, .take { host := {} } {}]

theorem monitor_agrees_with_scanner_after_a_device_has_gone :
    ∃ x, (new {} (some .autoSerial)).run comeAndGo = some x ∧
      Scanner.Leads listener (Scanner.registered (scans comeAndGo)) ∧
      Agrees {} (some .autoSerial) comeAndGo x ∧
      Scanner.underWay x.value.scanner.worker = false ∧ waiting x.value.queue = [] ∧
      heard x.notes = [{ listed := ["Auto Serial", "COM1", "SocketCAN"] },
        { listed := ["SocketCAN"] }] := by
  have hrun : ((new {} (some .autoSerial)).run comeAndGo).map (fun x =>
      (Scanner.underWay x.value.scanner.worker, waiting x.value.queue, heard x.notes)) =
        some (false, [], [{ listed := ["Auto Serial", "COM1", "SocketCAN"] },
          { listed := ["SocketCAN"] }]) := by
    decide +kernel
  obtain ⟨x, hx, hsummary⟩ := Option.map_eq_some_iff.mp hrun
  obtain ⟨hbetween, hrest⟩ := Prod.mk.inj hsummary
  obtain ⟨hnone, hheard⟩ := Prod.mk.inj hrest
  have hleads : Scanner.Leads listener (Scanner.registered (scans comeAndGo)) :=
    ⟨[], List.not_mem_nil, List.prefix_rfl⟩
  exact ⟨x, hx, hleads, monitor_agrees_with_scanner hx hleads, hbetween, hnone, hheard⟩

end LinkWatch.Watch
