import LinkWatch.Proofs.Monitor
import LinkWatch.Proofs.Watch.History

/-! # The ledger of a watch: queue, session and intakes fit what has been noted -/

namespace LinkWatch.Watch

/-! ## The intakes of a watch -/

theorem lookup_cons_ite (owner id : SessionId) (i : Intake) (intakes : List (SessionId × Intake)) :
    ((owner, i) :: intakes).lookup id = if id = owner then some i else intakes.lookup id := by
  rw [List.lookup_cons]
  by_cases h : id = owner
  · rw [if_pos h, beq_iff_eq.mpr h]
  · rw [if_neg h, beq_eq_false_iff_ne.mpr h]

theorem intake?_putIntake (w : Watch) (owner id : SessionId) (i : Intake) :
    (w.putIntake owner i).intake? id =
      if id = owner then (w.intake? owner).map fun _ => i else w.intake? id := by
  unfold intake? putIntake
  induction w.intakes with
  | nil => simp
  | cons p intakes ih =>
    obtain ⟨first, j⟩ := p
    simp only [List.map_cons, lookup_cons_ite]
    by_cases hf : first = owner
    · rw [if_pos hf, lookup_cons_ite, ih, hf]
      by_cases hid : id = owner
      · simp [hid]
      · simp [hid]
    · have hne : owner ≠ first := fun he => hf he.symm
      rw [if_neg hf, lookup_cons_ite, ih, if_neg hne]
      by_cases hid : id = owner
      · rw [hid, if_neg hne, if_pos rfl, if_pos rfl]
      · rw [if_neg hid, if_neg hid]

/-! ## The ledger -/

/-- A session that goes on: what it has been credited, and that its end has not been handled. -/
structure Open (notes : List WatchNote) (w : Watch) (s : Session) : Prop where
  last : s.id = w.monitor.lastId
  held : w.intake? s.id ≠ none
  credited : s.bytes = total ((notes.filterMap handled?).filterMap (dataOf? s.id))
  awaited : Event.disconnected s.id ∉ notes.filterMap handled?
  kept : closings s.id notes = 0

structure Ledger (settings : Settings) (input : SessionId → List Reading)
    (notes : List WatchNote) (w : Watch) : Prop where
  same : w.monitor.settings = settings
  /-- What was put into the queue has been handled in its order, or is still there. -/
  fifo : notes.filterMap handled? ++ w.queue = notes.filterMap emitted?
  numbered : ∀ id, w.monitor.lastId < id → w.intake? id = none
  took : ∀ id i, w.intake? id = some i →
    Took settings.drain.capacity (input id) (notes.filterMap (ofIntake? id)) i
  unread : ∀ id, w.intake? id = none →
    input id = [] ∧ notes.filterMap (ofIntake? id) = [] ∧ closings id notes = 0
  goesOn : ∀ s, w.monitor.session = some s → Open notes w s
  past : ∀ id, w.intake? id ≠ none → (∀ s, w.monitor.session = some s → s.id ≠ id) →
    closings id notes = 1
  idle : w.stopped = true → w.monitor.session = none

theorem ledger_new (settings : Settings) (target : Option Endpoint) :
    Ledger settings (fun _ => []) [] (new settings target) where
  same := rfl
  fifo := rfl
  numbered _ _ := rfl
  took _ _ h := absurd h (by simp [intake?, new])
  unread _ _ := ⟨rfl, rfl, rfl⟩
  goesOn _ h := absurd h (by simp [new, Monitor.new])
  past _ h := absurd rfl h
  idle _ := rfl

variable {settings : Settings} {input : SessionId → List Reading}
variable {notes more : List WatchNote} {w v : Watch} {s : Session}
variable {handled emitted : List Event} {closed : List SessionId}

/-- What a session has put into the queue is what its intake has made of its input. -/
theorem Ledger.events (h : Ledger settings input notes w) {id : SessionId} {i : Intake}
    (hi : w.intake? id = some i) :
    (notes.filterMap handled?).filter (ofSession id) ++ w.queue.filter (ofSession id) =
      (chunks id notes).map (Event.data id) ++
        if i.ended = some .orderly then [Event.disconnected id] else [] := by
  rw [← List.filter_append, h.fifo, filter_emitted, (h.took id i hi).events]
  rfl

theorem Ledger.no_events (h : Ledger settings input notes w) {id : SessionId}
    (hid : w.intake? id = none) : (notes.filterMap handled?).filter (ofSession id) = [] := by
  have hevents := filter_emitted id notes
  rw [(h.unread id hid).2.1, ← h.fifo, List.filter_append] at hevents
  exact (List.append_eq_nil_iff.mp hevents).1

/-! ## What every action keeps -/

theorem Tells.closings (h : Tells more handled emitted closed) (id : SessionId)
    (notes : List WatchNote) : closings id (notes ++ more) = closings id notes + closed.count id := by
  rw [Watch.closings, List.filterMap_append, List.count_append, h.closed]
  rfl

theorem Tells.ofIntake (h : Tells more handled emitted closed) (id : SessionId)
    (notes : List WatchNote) :
    (notes ++ more).filterMap (ofIntake? id) = notes.filterMap (ofIntake? id) := by
  rw [List.filterMap_append, h.silent, List.append_nil]

theorem Ledger.extend (h : Ledger settings input notes w)
    (htells : Tells more handled emitted closed)
    (hsettings : v.monitor.settings = w.monitor.settings) (hintakes : v.intakes = w.intakes)
    (hlast : w.monitor.lastId ≤ v.monitor.lastId)
    (hqueue : handled ++ v.queue = w.queue ++ emitted)
    (hclosed : ∀ id, w.intake? id = none → id ∉ closed)
    (hgoesOn : ∀ s, v.monitor.session = some s → Open (notes ++ more) v s)
    (hpast : ∀ id, w.intake? id ≠ none → (∀ s, v.monitor.session = some s → s.id ≠ id) →
      closings id (notes ++ more) = 1)
    (hidle : v.stopped = true → v.monitor.session = none) :
    Ledger settings input (notes ++ more) v := by
  have hintake : ∀ id, v.intake? id = w.intake? id := by
    intro id
    rw [intake?, hintakes, intake?]
  refine ⟨hsettings.trans h.same, ?_, ?_, ?_, ?_, hgoesOn, ?_, hidle⟩
  · rw [List.filterMap_append, List.filterMap_append, htells.handled, htells.emitted, ← h.fifo,
      List.append_assoc, hqueue, List.append_assoc]
  · intro id hid
    rw [hintake]
    exact h.numbered id (Nat.lt_of_le_of_lt hlast hid)
  · intro id i hi
    rw [hintake] at hi
    rw [htells.ofIntake]
    exact h.took id i hi
  · intro id hid
    rw [hintake] at hid
    rw [htells.ofIntake, htells.closings, List.count_eq_zero_of_not_mem (hclosed id hid)]
    exact h.unread id hid
  · intro id hid
    rw [hintake] at hid
    exact hpast id hid

theorem Open.extend (h : Open notes w s) (htells : Tells more handled emitted [])
    (hothers : ∀ e ∈ handled, ofSession s.id e = false) (hlast : v.monitor.lastId = w.monitor.lastId)
    (hintake : v.intake? s.id = w.intake? s.id) : Open (notes ++ more) v s := by
  have hnone : handled.filter (ofSession s.id) = [] := by
    rw [List.filter_eq_nil_iff]
    intro e he
    simp [hothers e he]
  refine ⟨h.last.trans hlast.symm, hintake ▸ h.held, ?_, ?_, ?_⟩
  · rw [List.filterMap_append, List.filterMap_append, htells.handled, filterMap_dataOf s.id handled,
      hnone, h.credited]
    simp
  · rw [List.filterMap_append, htells.handled, List.mem_append]
    rintro (he | he)
    · exact h.awaited he
    · exact absurd (hothers _ he) (by simp [ofSession])
  · rw [htells.closings, h.kept]
    rfl

theorem Ledger.steady (h : Ledger settings input notes w)
    (htells : Tells more handled emitted [])
    (hsettings : v.monitor.settings = w.monitor.settings) (hintakes : v.intakes = w.intakes)
    (hsession : v.monitor.session = w.monitor.session)
    (hlast : w.monitor.lastId ≤ v.monitor.lastId)
    (hsame : w.monitor.session ≠ none → v.monitor.lastId = w.monitor.lastId)
    (hqueue : handled ++ v.queue = w.queue ++ emitted)
    (hothers : ∀ s, w.monitor.session = some s → ∀ e ∈ handled, ofSession s.id e = false)
    (hstopped : v.stopped = w.stopped) :
    Ledger settings input (notes ++ more) v := by
  refine h.extend htells hsettings hintakes hlast hqueue (by simp) ?_ ?_ ?_
  · intro s hs
    rw [hsession] at hs
    refine (h.goesOn s hs).extend htells (hothers s hs) (hsame (by simp [hs])) ?_
    rw [intake?, hintakes, intake?]
  · intro id hid hpast
    rw [hsession] at hpast
    rw [htells.closings, h.past id hid hpast]
    rfl
  · rw [hstopped, hsession]
    exact h.idle

theorem Ledger.credit (h : Ledger settings input notes w) (hs : w.monitor.session = some s)
    {bytes : List UInt8} {rest : List Event} (hqueue : w.queue = .data s.id bytes :: rest)
    (htells : Tells more [.data s.id bytes] [] []) :
    Ledger settings input (notes ++ more)
      { w with
        queue := rest
        monitor := { w.monitor with session := some { s with bytes := s.bytes + bytes.length } } } := by
  refine h.extend htells rfl rfl (Nat.le_refl _) ?_ (by simp) ?_ ?_ ?_
  · simp [hqueue]
  · intro t ht
    obtain rfl := Option.some.inj ht
    obtain ⟨hlast, hheld, hcredited, hawaited, hkept⟩ := h.goesOn s hs
    refine ⟨hlast, hheld, ?_, ?_, ?_⟩
    · rw [List.filterMap_append, List.filterMap_append, htells.handled]
      simp [hcredited, total, dataOf?]
    · rw [List.filterMap_append, htells.handled]
      simpa using hawaited
    · rw [htells.closings, hkept]
      rfl
  · intro id hid hpast
    rw [htells.closings, h.past id hid]
    · rfl
    · intro t ht
      obtain rfl := Option.some.inj (hs.symm.trans ht)
      exact hpast { s with bytes := s.bytes + bytes.length } rfl
  · intro hstopped
    exact absurd (h.idle hstopped) (by simp [hs])

theorem Ledger.close (h : Ledger settings input notes w) (hs : w.monitor.session = some s)
    (htells : Tells more handled [] [s.id]) {rest : List Event}
    (hqueue : w.queue = handled ++ rest) (stopped : Bool) :
    Ledger settings input (notes ++ more)
      { w with
        queue := rest, monitor := { w.monitor with session := none }, stopped := stopped } := by
  have hopen := h.goesOn s hs
  refine h.extend htells rfl rfl (Nat.le_refl _) (by simp [hqueue]) ?_ ?_ ?_ fun _ => rfl
  · intro id hid
    rw [List.mem_singleton]
    rintro rfl
    exact hopen.held hid
  · intro t ht
    exact absurd ht (by simp)
  · intro id hid _
    rw [htells.closings]
    by_cases hid' : s.id = id
    · rw [← hid', hopen.kept]
      simp
    · rw [h.past id hid fun t ht => ?_]
      · simp [hid']
      · rw [← Option.some.inj (hs.symm.trans ht)]
        exact hid'

end LinkWatch.Watch
