import LinkWatch.Proofs.Watch.Actions
import LinkWatch.Proofs.Watch.Ledger

/-! # Every action of a watch keeps the ledger -/

namespace LinkWatch.Watch

variable {settings : Settings} {input : SessionId → List Reading} {notes : List WatchNote}
variable {w : Watch} {i : Intake}

/-! ## Notes of an intake -/

theorem handled_intake (id : SessionId) (notes : List WatchNote) (more : List IntakeNote) :
    (notes ++ more.map (WatchNote.intake id)).filterMap handled? = notes.filterMap handled? := by
  have hnone : (more.map (WatchNote.intake id)).filterMap handled? = [] :=
    filterMap_map_none (fun _ => rfl) more
  rw [List.filterMap_append, hnone, List.append_nil]

theorem emitted_intake (id : SessionId) (more : List IntakeNote) :
    (more.map (WatchNote.intake id)).filterMap emitted? = more.filterMap (intakeEvent? id) := by
  rw [List.filterMap_map]
  rfl

theorem closings_intake (owner id : SessionId) (notes : List WatchNote) (more : List IntakeNote) :
    closings id (notes ++ more.map (WatchNote.intake owner)) = closings id notes := by
  have hnone : (more.map (WatchNote.intake owner)).filterMap closed? = [] :=
    filterMap_map_none (fun _ => rfl) more
  rw [closings, List.filterMap_append, hnone, List.append_nil, closings]

theorem ofIntake_own (id : SessionId) (more : List IntakeNote) :
    (more.map (WatchNote.intake id)).filterMap (ofIntake? id) = more := by
  rw [List.filterMap_map]
  simp [Function.comp_def, ofIntake?]

theorem ofIntake_other {owner id : SessionId} (h : owner ≠ id) (more : List IntakeNote) :
    (more.map (WatchNote.intake owner)).filterMap (ofIntake? id) = [] := by
  refine filterMap_map_none (fun n => ?_) more
  exact if_neg h

/-! ## Intakes -/

/-- One intake acts, an old or a new one, and all others stay as they are. -/
theorem Ledger.act {input' : SessionId → List Reading} {v : Watch} {owner : SessionId}
    {more : List IntakeNote} (h : Ledger settings input notes w)
    (hsettings : v.monitor.settings = w.monitor.settings)
    (hlast : v.monitor.lastId = w.monitor.lastId) (hnumber : owner ≤ w.monitor.lastId)
    (hqueue : v.queue = w.queue ++ more.filterMap (intakeEvent? owner))
    (hown : v.intake? owner = some i)
    (htook : Took settings.drain.capacity (input' owner)
      (notes.filterMap (ofIntake? owner) ++ more) i)
    (hothers : ∀ id, id ≠ owner → v.intake? id = w.intake? id ∧ input' id = input id)
    (hgoesOn : ∀ s, v.monitor.session = some s → Open (notes ++ more.map (.intake owner)) v s)
    (hpast : ∀ id, v.intake? id ≠ none → (∀ s, v.monitor.session = some s → s.id ≠ id) →
      closings id notes = 1)
    (hidle : v.stopped = true → v.monitor.session = none) :
    Ledger settings input' (notes ++ more.map (.intake owner)) v := by
  refine ⟨hsettings.trans h.same, ?_, ?_, ?_, ?_, hgoesOn, ?_, hidle⟩
  · rw [handled_intake, List.filterMap_append, emitted_intake, ← h.fifo, hqueue, List.append_assoc]
  · intro id hid
    rw [hlast] at hid
    rw [(hothers id (Nat.ne_of_gt (Nat.lt_of_le_of_lt hnumber hid))).1]
    exact h.numbered id hid
  · intro id j hj
    rw [List.filterMap_append]
    by_cases hid : id = owner
    · subst hid
      obtain rfl := Option.some.inj (hown.symm.trans hj)
      rw [ofIntake_own]
      exact htook
    · obtain ⟨hintake, hinput⟩ := hothers id hid
      rw [ofIntake_other (Ne.symm hid), List.append_nil, hinput]
      exact h.took id j (hintake.symm.trans hj)
  · intro id hid
    have hne : id ≠ owner := by
      rintro rfl
      simp [hown] at hid
    obtain ⟨hintake, hinput⟩ := hothers id hne
    rw [List.filterMap_append, ofIntake_other (Ne.symm hne), List.append_nil, closings_intake,
      hinput]
    exact h.unread id (hintake.symm.trans hid)
  · intro id hid hother
    rw [closings_intake]
    exact hpast id hid hother

theorem Ledger.read {input' : SessionId → List Reading} {owner : SessionId} {r : Reading}
    (h : Ledger settings input notes w) (hi : w.intake? owner = some i)
    (hopen : i.ended = none) (hown : input' owner = input owner ++ [r])
    (hothers : ∀ id, id ≠ owner → input' id = input id) :
    Ledger settings input' (notes ++ (i.take r).notes.map (.intake owner))
      { w.putIntake owner (i.take r).value with
        queue := w.queue ++ (i.take r).notes.filterMap (intakeEvent? owner) } := by
  have hput : ∀ id, (w.putIntake owner (i.take r).value).intake? id =
      if id = owner then some (i.take r).value else w.intake? id := by
    intro id
    rw [intake?_putIntake, hi]
    rfl
  have hsome : ∀ id, (w.putIntake owner (i.take r).value).intake? id ≠ none ↔
      w.intake? id ≠ none := by
    intro id
    rw [hput]
    by_cases hid : id = owner
    · simp [hid, hi]
    · simp [hid]
  have hnumber : owner ≤ w.monitor.lastId := by
    by_contra hlt
    have hnone := h.numbered owner (Nat.lt_of_not_le hlt)
    simp [hi] at hnone
  refine h.act rfl rfl hnumber rfl ((hput owner).trans (if_pos rfl)) ?_ ?_ ?_ ?_ h.idle
  · rw [hown]
    exact (h.took owner i hi).take hopen r
  · intro id hid
    exact ⟨(hput id).trans (if_neg hid), hothers id hid⟩
  · intro s hs
    obtain ⟨hlast, hheld, hcredited, hawaited, hkept⟩ := h.goesOn s hs
    refine ⟨hlast, (hsome s.id).mpr hheld, ?_, ?_, ?_⟩
    · rw [handled_intake, hcredited]
    · rw [handled_intake]
      exact hawaited
    · rw [closings_intake, hkept]
  · intro id hid hpast
    exact h.past id ((hsome id).mp hid) hpast

theorem Ledger.begin (h : Ledger settings input notes w) (hfree : w.monitor.session = none)
    (hnew : w.intake? w.monitor.lastId = none) (hstopped : w.stopped = false)
    (endpoint : Endpoint) :
    Ledger settings input
      (notes ++ (Intake.start settings.drain {}).notes.map (.intake w.monitor.lastId))
      { w with
        monitor := { w.monitor with session := some ⟨w.monitor.lastId, endpoint, 0⟩ }
        intakes := (w.monitor.lastId, (Intake.start settings.drain {}).value) :: w.intakes } := by
  have hadd : ∀ id, ((w.monitor.lastId, (Intake.start settings.drain {}).value) ::
      w.intakes).lookup id = if id = w.monitor.lastId then
        some (Intake.start settings.drain {}).value else w.intake? id :=
    fun id => lookup_cons_ite _ _ _ _
  have hnothing := h.no_events hnew
  obtain ⟨hinput, hown, hclosings⟩ := h.unread _ hnew
  refine h.act rfl rfl (Nat.le_refl _) (List.append_nil _).symm ((hadd _).trans (if_pos rfl))
    ?_ ?_ ?_ ?_ ?_
  · rw [hinput, hown]
    exact took_start settings.drain
  · intro id hid
    exact ⟨(hadd id).trans (if_neg hid), rfl⟩
  · intro s hs
    obtain rfl := Option.some.inj hs
    refine ⟨rfl, ?_, ?_, ?_, ?_⟩
    · rw [intake?, hadd, if_pos rfl]
      simp
    · rw [handled_intake, filterMap_dataOf, hnothing]
      rfl
    · rw [handled_intake]
      intro he
      have hmem : Event.disconnected w.monitor.lastId ∈
          (notes.filterMap handled?).filter (ofSession w.monitor.lastId) :=
        List.mem_filter.mpr ⟨he, by simp [ofSession]⟩
      simp [hnothing] at hmem
    · rw [closings_intake]
      exact hclosings
  · intro id hid hpast
    have hne : id ≠ w.monitor.lastId := fun he => hpast _ rfl he.symm
    rw [intake?, hadd, if_neg hne] at hid
    refine h.past id hid fun s hs => ?_
    rw [hfree] at hs
    exact absurd hs (by simp)
  · intro hs
    exact absurd hs (by simp [hstopped])

/-! ## Connecting -/

/-- What is noted when there is no connection. -/
def complaint : Except ConnectError Unit → List WatchNote
  | .error e => [.monitor (.logged ⟨.warn, e.message⟩)]
  | .ok () => []

theorem tells_complaint (result : Except ConnectError Unit) :
    Tells (complaint result) [] [] [] := by
  cases result with
  | error e => exact tells_logged _
  | ok done => exact tells_nil

theorem tells_openingNotes (m : Monitor) (endpoint : Endpoint) (attempt : Attempt) :
    Tells ((m.openingNotes endpoint attempt).map .monitor) [] [] [] := by
  have hattempted : Tells [.monitor (.attempted endpoint)] [] [] [] :=
    ⟨rfl, rfl, rfl, fun _ => rfl⟩
  exact hattempted.append (tells_records _)

theorem connect_eq (w : Watch) (attempt : Attempt) :
    w.connect attempt =
      ⟨(w.withMonitor (w.monitor.connect attempt).value.2).value,
        (w.monitor.connect attempt).notes.map .monitor ++
          (complaint (w.monitor.connect attempt).value.1 ++
            (w.withMonitor (w.monitor.connect attempt).value.2).notes)⟩ := by
  unfold connect
  obtain ⟨⟨result, m⟩, made⟩ := w.monitor.connect attempt
  cases result with
  | error e => rfl
  | ok done => rfl

theorem withMonitor_same {m : Monitor} (h : m.session = w.monitor.session) :
    w.withMonitor m = pure { w with monitor := m } := by
  unfold withMonitor
  cases hs : w.monitor.session with
  | none => rw [h, hs]
  | some s => rfl

theorem withMonitor_new {m : Monitor} {s : Session} (hfree : w.monitor.session = none)
    (hs : m.session = some s) :
    w.withMonitor m =
      ⟨{ w with
          monitor := m, intakes := (s.id, (Intake.start m.settings.drain {}).value) :: w.intakes },
        (Intake.start m.settings.drain {}).notes.map (.intake s.id)⟩ := by
  unfold withMonitor
  rw [hfree, hs]
  rfl

theorem filterMap_withMonitor {β : Type} {f : WatchNote → Option β} (m : Monitor)
    (hintake : ∀ id n, f (.intake id n) = none) : (w.withMonitor m).notes.filterMap f = [] := by
  unfold withMonitor
  split
  · next s _ _ =>
    rw [Noted.notes_bind, Noted.notes_mapNotes, Noted.notes_pure, List.append_nil]
    exact filterMap_map_none (hintake s.id) _
  · rfl

theorem Ledger.no_session {m : Monitor} {made : List MonitorNote}
    (h : Ledger settings input notes w) (htells : Tells (made.map .monitor) [] [] [])
    (result : Except ConnectError Unit) (hsettings : m.settings = w.monitor.settings)
    (hsession : m.session = w.monitor.session) (hlast : w.monitor.lastId ≤ m.lastId)
    (hsame : w.monitor.session ≠ none → m.lastId = w.monitor.lastId) :
    Ledger settings input
      (notes ++ (made.map .monitor ++ (complaint result ++ (w.withMonitor m).notes)))
      (w.withMonitor m).value := by
  rw [withMonitor_same hsession]
  exact h.steady (htells.append ((tells_complaint result).append tells_nil)) hsettings rfl
    hsession hlast hsame (by simp) (by simp) rfl

theorem Ledger.connect (h : Ledger settings input notes w) (hstopped : w.stopped = false)
    (attempt : Attempt) :
    Ledger settings input (notes ++ (w.connect attempt).notes) (w.connect attempt).value := by
  rw [connect_eq]
  have hspec := w.monitor.connect_spec attempt
  generalize (w.monitor.connect attempt).notes = made at hspec ⊢
  generalize (w.monitor.connect attempt).value.1 = result at hspec ⊢
  generalize (w.monitor.connect attempt).value.2 = m at hspec ⊢
  cases hspec with
  | idle why => exact h.no_session (tells_records []) _ rfl rfl (Nat.le_refl _) fun _ => rfl
  | unopened endpoint e free there refused =>
    exact h.no_session (tells_openingNotes ..) _ rfl rfl (Nat.le_refl _) fun _ => rfl
  | uncloned endpoint link failure free there opened refused =>
    exact h.no_session (tells_openingNotes ..) _ rfl rfl (Nat.le_refl _) fun _ => rfl
  | unstarted endpoint link failure free there opened cloned refused =>
    exact h.no_session (tells_openingNotes ..) _ rfl rfl (Nat.le_succ _) fun hs => absurd free hs
  | connected endpoint link free there opened cloned started =>
    rw [withMonitor_new free rfl]
    have hopened : Tells [.monitor (.opened (w.monitor.lastId + 1) endpoint),
        .monitor (.logged ⟨.info, "Connected to " ++ endpoint.display⟩)] [] [] [] :=
      ⟨rfl, rfl, rfl, fun _ => rfl⟩
    -- The number is taken first, and then the session begins under it.
    have hnumber := h.steady ((tells_openingNotes w.monitor endpoint attempt).append hopened)
      (v := { w with monitor := { w.monitor with lastId := w.monitor.lastId + 1 } }) rfl rfl rfl
      (Nat.le_succ _) (fun hs => absurd free hs) (by simp) (by simp) rfl
    have hbegun := hnumber.begin free (h.numbered _ (Nat.lt_succ_self _)) hstopped endpoint
    rw [← h.same] at hbegun ⊢
    simpa [complaint] using hbegun

/-! ## Handling events -/

theorem Ledger.pass {m : Monitor} {more : List WatchNote} {e : Event} {rest : List Event}
    (h : Ledger settings input notes w) (hqueue : w.queue = e :: rest)
    (htells : Tells more [] [] []) (hsettings : m.settings = w.monitor.settings)
    (hsession : m.session = w.monitor.session) (hlast : m.lastId = w.monitor.lastId)
    (hothers : ∀ s, w.monitor.session = some s → ofSession s.id e = false) :
    Ledger settings input (notes ++ .handled e :: more)
      { w with queue := rest, monitor := m } := by
  refine h.steady ((tells_handled e).append htells) hsettings rfl hsession (Nat.le_of_eq hlast.symm)
    (fun _ => hlast) (by simp [hqueue]) ?_ rfl
  intro s hs e' he
  rw [List.mem_singleton.mp he]
  exact hothers s hs

theorem Ledger.hear_data (h : Ledger settings input notes w) {id : SessionId}
    {bytes : List UInt8} {rest : List Event} (hqueue : w.queue = .data id bytes :: rest) :
    Ledger settings input
      (notes ++ .handled (.data id bytes) :: (w.monitor.data id bytes).notes.map .monitor)
      { w with queue := rest, monitor := (w.monitor.data id bytes).value } := by
  by_cases hown : ∀ s, w.monitor.session = some s → s.id ≠ id
  · rw [Monitor.data_stranger hown]
    exact h.pass hqueue tells_nil rfl rfl rfl fun s hs => by
      simpa [ofSession] using Ne.symm (hown s hs)
  · push Not at hown
    obtain ⟨s, hs, rfl⟩ := hown
    rw [Monitor.data_own hs]
    exact h.credit hs hqueue ((tells_handled _).append (tells_logged _))

theorem Ledger.hear_end (h : Ledger settings input notes w) {id : SessionId} {rest : List Event}
    (hqueue : w.queue = .disconnected id :: rest) (closing : Closing) :
    Ledger settings input
      (notes ++
        .handled (.disconnected id) :: (w.monitor.disconnected id closing).notes.map .monitor)
      { w with queue := rest, monitor := (w.monitor.disconnected id closing).value } := by
  by_cases hown : ∀ s, w.monitor.session = some s → s.id ≠ id
  · rw [Monitor.disconnected_stranger hown]
    exact h.pass hqueue tells_nil rfl rfl rfl fun s hs => by
      simpa [ofSession] using Ne.symm (hown s hs)
  · push Not at hown
    obtain ⟨s, hs, rfl⟩ := hown
    rw [Monitor.disconnected_own hs]
    exact h.close hs ((tells_handled _).append ((tells_logged _).append
      ((tells_closed s.id).append (tells_records _)))) hqueue w.stopped

theorem Ledger.handle (h : Ledger settings input notes w) (hstopped : w.stopped = false)
    {e : Event} {rest : List Event} (hqueue : w.queue = e :: rest) (attempt : Attempt)
    (closing : Closing) :
    Ledger settings input
      (notes ++ .handled e :: (({ w with queue := rest } : Watch).handle attempt closing e).notes)
      (({ w with queue := rest } : Watch).handle attempt closing e).value := by
  cases e with
  | hardware found =>
    have hheard := h.pass hqueue (tells_logged ⟨.info, "Hardware changed: " ++ found.summary⟩)
      (m := { w.monitor with latest := found }) rfl rfl rfl fun _ _ => rfl
    simpa [Watch.handle, Monitor.hardware, note] using hheard.connect hstopped attempt
  | data id bytes => simpa [Watch.handle] using h.hear_data hqueue
  | disconnected id =>
    have hheard := (h.hear_end hqueue closing).connect hstopped attempt
    simpa [Watch.handle] using hheard

/-! ## Ending -/

theorem Ledger.finish (h : Ledger settings input notes w) (closing : Closing) :
    Ledger settings input (notes ++ (w.finish closing).notes) (w.finish closing).value := by
  unfold Watch.finish
  cases hs : w.monitor.session with
  | none =>
    rw [Monitor.shutdown_idle hs]
    have htells := tells_logged ⟨.info, "Shutting down"⟩
    refine h.extend htells rfl rfl (Nat.le_refl _) (by simp) (by simp) ?_ ?_ fun _ => hs
    · intro s hs'
      exact absurd (hs.symm.trans hs') (by simp)
    · intro id hid hpast
      exact (htells.closings id notes).trans (h.past id hid hpast)
  | some s =>
    rw [Monitor.shutdown_own hs]
    have hlogs : Tells [.monitor (.logged ⟨.info, "Shutting down"⟩),
        .monitor (.logged ⟨.info, "Closing " ++ s.endpoint.display⟩)] [] [] [] :=
      (tells_logged _).append (tells_logged _)
    simpa [note] using h.close hs (hlogs.append ((tells_closed s.id).append (tells_records
      (Monitor.closingRecords s closing)))) rfl true

/-! ## Runs -/

theorem readings_concat {a : Action} (h : ∀ id, reading? id a = none) (actions : List Action) :
    (fun id => readings id (actions ++ [a])) = fun id => readings id actions := by
  funext id
  rw [readings, List.filterMap_append, List.filterMap_cons_none (h id), List.filterMap_nil,
    List.append_nil, readings]

theorem Ledger.step {actions : List Action} {a : Action} {x : Noted WatchNote Watch}
    (h : Ledger settings (fun id => readings id actions) notes w) (hstep : w.step a = some x) :
    Ledger settings (fun id => readings id (actions ++ [a])) (notes ++ x.notes) x.value := by
  cases step_of_eq hstep with
  | scan action y _ =>
    rw [readings_concat fun _ => rfl]
    exact h.steady (tells_scanner y.notes) rfl rfl rfl (Nat.le_refl _) (fun _ => rfl) rfl
      (by simp) rfl
  | read owner r i hi hopen =>
    refine h.read hi hopen ?_ fun id hid => ?_
    · simp [readings, reading?]
    · simp [readings, reading?, Ne.symm hid]
  | retry attempt hstopped =>
    rw [readings_concat fun _ => rfl]
    exact h.connect hstopped attempt
  | take attempt closing e rest hstopped hqueue =>
    rw [readings_concat fun _ => rfl]
    exact h.handle hstopped hqueue attempt closing
  | finish closing _ =>
    rw [readings_concat fun _ => rfl]
    exact h.finish closing

theorem run_ledger {target : Option Endpoint} {actions : List Action} {x : Noted WatchNote Watch}
    (h : (new settings target).run actions = some x) :
    Ledger settings (fun id => readings id actions) x.notes x.value :=
  runWith_induction (motive := fun actions => Ledger settings fun id => readings id actions)
    (ledger_new settings target) (fun _ _ _ _ _ _ hs hstep => hs.step hstep) h

end LinkWatch.Watch
