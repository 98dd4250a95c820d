import LinkWatch.Proofs.Channel.Turns
import Mathlib.Data.List.Count

/-! # Timeouts do not show, and a closed channel soon ends its intake -/

namespace LinkWatch

/-! ## Timeouts -/

namespace SerialChannel

/-- What the device does for reads, without its timeouts. -/
def lasting (c : SerialChannel) : List Reading :=
  (c.feeds.map Feed.reading).filter fun r => !r.failedWith .timedOut

variable {c : SerialChannel} {i : Intake} {f : Feed} {feeds : List Feed}

theorem lasting_waits (hfeeds : c.feeds = f :: feeds)
    (hwaits : f.reading.failedWith .timedOut = true) : c.lasting = (c.after f feeds).lasting := by
  simp [lasting, hfeeds, after, hwaits]

theorem lasting_takes (hfeeds : c.feeds = f :: feeds)
    (hreturns : f.reading.failedWith .timedOut = false) :
    c.lasting = f.reading :: (c.after f feeds).lasting := by
  simp [lasting, hfeeds, after, hreturns]

theorem filterMap_taken (i : Intake) (r : Reading) :
    (taken i r).filterMap DrainNote.intake? = (i.take r).notes := by
  rw [taken, List.filterMap_map]
  exact List.filterMap_some

/-- While nobody closes the channel, its intake sees what it would see of the bare device if that
had no timeouts. -/
theorem drain_hides_timeouts (hc : c.closed = false) (hquiet : ∀ f ∈ c.feeds, f.closing = false) :
    (c.drain i).notes.filterMap DrainNote.intake? = (i.drain c.lasting).notes ∧
      (c.drain i).value.1 = (i.drain c.lasting).value := by
  induction hfeeds : c.feeds generalizing c i with
  | nil =>
    have hnothing : c.lasting = [] := by simp [lasting, hfeeds]
    rw [hnothing]
    by_cases hopen : i.ended = none
    · rw [drain_silent hopen hc hfeeds]
      exact ⟨rfl, rfl⟩
    · rw [drain_ended hopen]
      exact ⟨rfl, rfl⟩
  | cons f feeds ih =>
    by_cases hopen : i.ended = none
    · have hmem : f ∈ c.feeds := by simp [hfeeds]
      have hrest : ∀ g ∈ feeds, g.closing = false := fun g hg =>
        hquiet g (by simp [hfeeds, hg])
      cases hwaits : f.reading.failedWith .timedOut with
      | true =>
        obtain ⟨hnotes, hvalue⟩ := ih (c := c.after f feeds) (i := i) (hquiet f hmem) hrest rfl
        rw [drain_waits hopen hc hfeeds hwaits, lasting_waits hfeeds hwaits]
        exact ⟨hnotes, hvalue⟩
      | false =>
        obtain ⟨hnotes, hvalue⟩ := ih (c := c.after f feeds) (i := (i.take f.reading).value)
          (hquiet f hmem) hrest rfl
        rw [drain_takes hopen hc hfeeds hwaits, lasting_takes hfeeds hwaits,
          Intake.drain_cons hopen]
        refine ⟨?_, hvalue⟩
        rw [List.filterMap_cons_none rfl, List.filterMap_append, filterMap_taken, hnotes]
    · rw [drain_ended hopen, Intake.drain_ended hopen]
      exact ⟨rfl, rfl⟩

end SerialChannel

/-! ## What is left to do once the channel is closed -/

/-- Whether it is a turn of the thread that drains the channel. -/
def Turn.own : Turn → Bool
  | .close => false
  | .look | .answer _ | .take => true

namespace Drainage

def chunkCount (notes : List DrainNote) : Nat :=
  (notes.filterMap DrainNote.intake?).countP IntakeNote.isChunk

def answersLeft (d : Drainage) : Nat := if d.place = .asking then 1 else 0

def chunksLeft (d : Drainage) : Nat :=
  match d.place with
  | .looking => 0
  | .asking => 1
  | .returned r => [r].countP (Reading.positive d.intake.buffer.capacity)

def turnsLeft (d : Drainage) : Nat :=
  match d.place with
  | .looking => if d.intake.ended = none then 2 else 0
  | .asking => 4
  | .returned r => if r = .failed SerialChannel.channelClosed then 1 else 3

/-- Turns of a closed channel use up what was left. -/
structure Spent (d : Drainage) (turns : List Turn) (notes : List DrainNote) (e : Drainage) :
    Prop where
  closed : e.closed = true
  answers : (turns.filterMap Turn.answer?).length + e.answersLeft ≤ d.answersLeft
  chunks : chunkCount notes + e.chunksLeft ≤ d.chunksLeft
  turns : turns.countP Turn.own + e.turnsLeft ≤ d.turnsLeft

variable {d e : Drainage} {t : Turn} {notes : List DrainNote}

theorem chunkCount_taken (i : Intake) (r : Reading) :
    chunkCount (SerialChannel.taken i r) = [r].countP (Reading.positive i.buffer.capacity) := by
  rw [← i.take_chunks r, chunkCount, SerialChannel.filterMap_taken]

theorem turnsLeft_looking (h : d.place = .looking) : d.turnsLeft ≤ 2 := by
  simp only [turnsLeft, h]
  split <;> omega

theorem turnsLeft_returned {r : Reading} (h : d.place = .returned r) : d.turnsLeft ≤ 3 := by
  simp only [turnsLeft, h]
  split <;> omega

theorem chunksLeft_le (d : Drainage) : d.chunksLeft ≤ 1 := by
  unfold chunksLeft
  cases d.place with
  | looking => exact Nat.zero_le 1
  | asking => exact Nat.le_refl 1
  | returned r => exact List.countP_le_length

theorem turnsLeft_le (d : Drainage) : d.turnsLeft ≤ 4 := by
  cases hplace : d.place with
  | looking => exact Nat.le_trans (turnsLeft_looking hplace) (by omega)
  | asking => simp [turnsLeft, hplace]
  | returned r => exact Nat.le_trans (turnsLeft_returned hplace) (by omega)

theorem Step.spent (h : Step d t notes e) (hc : d.closed = true) : Spent d [t] notes e := by
  cases h with
  | close =>
    refine ⟨rfl, ?_, ?_, ?_⟩
    · simp [answersLeft, List.filterMap_cons]
    · simp [chunkCount, chunksLeft]
    · simp [Turn.own, turnsLeft]
  | turnedAway hplace hopen _ =>
    refine ⟨hc, ?_, ?_, ?_⟩
    · simp [answersLeft, List.filterMap_cons]
    · simp [chunkCount, chunksLeft, Reading.positive]
    · simp [Turn.own, turnsLeft, hplace, hopen]
  | ask hplace hopen hfree => exact absurd hc (by simp [hfree])
  | waits r hplace hr =>
    refine ⟨hc, ?_, ?_, ?_⟩
    · simp [answersLeft, hplace]
    · simp [chunkCount, chunksLeft]
    · have hleft := turnsLeft_looking (d := { d with place := .looking }) rfl
      have hall : d.turnsLeft = 4 := by simp [turnsLeft, hplace]
      simp only [List.countP_singleton, Turn.own, if_true]
      omega
  | returns r hplace hr =>
    refine ⟨hc, ?_, ?_, ?_⟩
    · simp [answersLeft, hplace]
    · have hone : [r].countP (Reading.positive d.intake.buffer.capacity) ≤ 1 :=
        List.countP_le_length
      simpa [chunkCount, chunksLeft, hplace] using hone
    · have hleft := turnsLeft_returned (d := { d with place := .returned r }) rfl
      have hall : d.turnsLeft = 4 := by simp [turnsLeft, hplace]
      simp only [List.countP_singleton, Turn.own, if_true]
      omega
  | take r hplace =>
    refine ⟨hc, ?_, ?_, ?_⟩
    · simp [answersLeft, List.filterMap_cons]
    · rw [chunkCount_taken]
      simp [chunksLeft, hplace]
    · by_cases hr : r = .failed SerialChannel.channelClosed
      · have hends := SerialChannel.take_closed_ends d.intake
        simp [Turn.own, turnsLeft, hplace, hr, hends]
      · have hleft := turnsLeft_looking
          (d := { d with place := .looking, intake := (d.intake.take r).value }) rfl
        have hall : d.turnsLeft = 3 := by simp [turnsLeft, hplace, hr]
        simp only [List.countP_singleton, Turn.own, if_true]
        omega

theorem Spent.append {turns more : List Turn} {notes' : List DrainNote} {f : Drainage}
    (h : Spent d turns notes e) (h' : Spent e more notes' f) :
    Spent d (turns ++ more) (notes ++ notes') f := by
  have hanswers := h.answers
  have hanswers' := h'.answers
  have hchunks := h.chunks
  have hchunks' := h'.chunks
  have hturns := h.turns
  have hturns' := h'.turns
  unfold chunkCount at hchunks hchunks'
  refine ⟨h'.closed, ?_, ?_, ?_⟩
  · rw [List.filterMap_append, List.length_append]
    omega
  · rw [chunkCount, List.filterMap_append, List.countP_append]
    omega
  · rw [List.countP_append]
    omega

theorem run_spent {turns : List Turn} {x : Noted DrainNote Drainage} (hc : d.closed = true)
    (h : d.run turns = some x) : Spent d turns x.notes x.value := by
  refine runWith_induction (motive := Spent d) ⟨hc, ?_, ?_, ?_⟩ ?_ h
  · simp
  · simp [chunkCount]
  · simp
  · intro turns notes e t y _ hspent hy
    exact hspent.append ((step_of_eq hy).spent hspent.closed)

/-! ## The report -/

/-- The end has been reported if there is one. -/
structure Reported (d : Drainage) (notes : List DrainNote) : Prop where
  count : notes.count (.intake .disconnected) = if d.intake.ended.isSome then 1 else 0
  sound : ∀ r, d.place = .returned r → r ≠ .crashed
  sane : d.Sane

theorem count_taken (i : Intake) (r : Reading) :
    (SerialChannel.taken i r).count (.intake .disconnected) =
      (i.take r).notes.count .disconnected :=
  List.count_map_of_injective _ _ (fun _ _ h => DrainNote.intake.inj h) _

theorem Reported.step {more : List DrainNote} (h : Reported d notes) (hstep : Step d t more e)
    (ht : t ≠ .answer .crashed) : Reported e (notes ++ more) := by
  have hsane := h.sane.step hstep
  cases hstep with
  | close => exact ⟨by simpa using h.count, h.sound, hsane⟩
  | turnedAway hplace hopen hc =>
    exact ⟨by simpa using h.count, fun r hr => by simp [← Place.returned.inj hr], hsane⟩
  | ask hplace hopen hc => exact ⟨by simpa using h.count, by simp, hsane⟩
  | waits r hplace hr => exact ⟨by simpa using h.count, by simp, hsane⟩
  | returns r hplace hr =>
    refine ⟨by simpa using h.count, fun q hq hcrashed => ht ?_, hsane⟩
    rw [Place.returned.inj hq, hcrashed]
  | take r hplace =>
    have hopen : d.intake.ended = none := h.sane (by simp [hplace])
    have hcount := h.count
    rw [hopen] at hcount
    refine ⟨?_, by simp, hsane⟩
    rw [List.count_append, hcount, count_taken, Intake.take_reports hopen (h.sound r hplace)]
    simp

theorem run_reported {i : Intake} {closed : Bool} {turns : List Turn}
    {x : Noted DrainNote Drainage} (hopen : i.ended = none)
    (h : run ⟨closed, .looking, i⟩ turns = some x) (hturns : .answer .crashed ∉ turns) :
    Reported x.value x.notes := by
  refine runWith_induction
    (motive := fun turns notes d => .answer .crashed ∉ turns → Reported d notes) ?_ ?_ h hturns
  · exact fun _ => ⟨by simp [hopen], by simp, fun hne => absurd rfl hne⟩
  · intro turns notes d t y _ hreported hy hno
    rw [List.mem_append, List.mem_singleton, not_or] at hno
    exact (hreported hno.1).step (step_of_eq hy) (Ne.symm hno.2)

theorem ended_of_stuck (h : ∀ t, t ≠ .close → d.step t = none) : d.intake.ended ≠ none := by
  intro hopen
  obtain ⟨closed, place, intake⟩ := d
  cases place with
  | looking =>
    have hlook := h .look (by simp)
    cases closed with
    | true => simp [step, show intake.ended = none from hopen] at hlook
    | false => simp [step, show intake.ended = none from hopen] at hlook
  | asking => exact absurd (h (.answer .crashed) (by simp)) (by simp [step])
  | returned r => exact absurd (h .take (by simp)) (by simp [step])

/-! ## The law -/

/-- The consumer is told what the device does besides timing out. -/
structure Hides (i : Intake) : Prop where
  never : ∀ (c : SerialChannel) room r, (c.read room).value.1 = some r →
    r.failedWith .timedOut = false
  /-- While no handle is closed, the intake notes the same, and comes to the same end. -/
  same : ∀ c : SerialChannel, c.closed = false → (∀ f ∈ c.feeds, f.closing = false) →
    (c.drain i).notes.filterMap DrainNote.intake? = (i.drain c.lasting).notes ∧
      (c.drain i).value.1 = (i.drain c.lasting).value
  /-- Where there is an end in what the device does, it is reported once. -/
  once : ∀ c : SerialChannel, c.closed = false → (∀ f ∈ c.feeds, f.closing = false) →
    (∀ f ∈ c.feeds, f.reading ≠ .crashed) →
    (∃ f ∈ c.feeds, f.reading.ends i.buffer.capacity = true ∧
      f.reading.failedWith .timedOut = false) →
    (c.drain i).value.1.ended ≠ none ∧
      ((c.drain i).notes.filterMap DrainNote.intake?).count .disconnected = 1

/-- Once a handle is closed the intake is about to end. -/
structure Yields (i : Intake) : Prop where
  /-- Draining a channel is taking turns, -/
  plays : ∀ c : SerialChannel, ∃ turns x, run ⟨c.closed, .looking, i⟩ turns = some x ∧
    x.value.Rests ∧ Plays c i turns x
  /-- and taking turns, until there is nothing to do, is draining a channel. -/
  drains : ∀ closed turns x, run ⟨closed, .looking, i⟩ turns = some x → x.value.Rests →
    ∃ c : SerialChannel, (closed = true → c.closed = true) ∧
      c.feeds.map Feed.reading = turns.filterMap Turn.answer? ∧
      x.notes = (c.drain i).notes ∧ x.value.intake = (c.drain i).value.1
  /-- Only a device that was being read when the handle was closed answers once more. -/
  answers : ∀ closed before x, run ⟨closed, .looking, i⟩ (before ++ [.close]) = some x →
    ∀ after y, run x.value after = some y →
    (after.filterMap Turn.answer?).length ≤ if x.value.place = .asking then 1 else 0
  chunks : ∀ closed before x, run ⟨closed, .looking, i⟩ (before ++ [.close]) = some x →
    ∀ after y, run x.value after = some y → chunkCount y.notes ≤ 1
  /-- The thread takes four more turns at most, -/
  bounded : ∀ closed before x, run ⟨closed, .looking, i⟩ (before ++ [.close]) = some x →
    ∀ after y, run x.value after = some y → after.countP Turn.own ≤ 4
  /-- and does not stop before the intake has ended. -/
  onward : ∀ d : Drainage, (∀ t, t ≠ .close → d.step t = none) → d.intake.ended ≠ none
  reported : ∀ closed turns x, run ⟨closed, .looking, i⟩ turns = some x →
    .answer .crashed ∉ turns →
    x.notes.count (.intake .disconnected) = if x.value.intake.ended.isSome then 1 else 0

theorem hides {i : Intake} (hopen : i.ended = none) : Hides i := by
  refine ⟨fun c room r h => SerialChannel.read_not_timedOut h,
    fun c hc hquiet => SerialChannel.drain_hides_timeouts hc hquiet, ?_⟩
  rintro c hc hquiet hsound ⟨f, hf, hends, hlasts⟩
  obtain ⟨hnotes, hvalue⟩ := SerialChannel.drain_hides_timeouts (i := i) hc hquiet
  have hmem : f.reading ∈ c.lasting :=
    List.mem_filter.mpr ⟨List.mem_map_of_mem hf, by simp [hlasts]⟩
  have hnone : ∀ r ∈ c.lasting, r ≠ .crashed := by
    intro r hr
    obtain ⟨g, hg, rfl⟩ := List.mem_map.mp (List.mem_filter.mp hr).1
    exact hsound g hg
  have hended := Intake.drain_ends hmem hends
  rw [hnotes, hvalue, Intake.drain_reports hopen hnone]
  exact ⟨hended, if_pos (Option.isSome_iff_ne_none.mpr hended)⟩

theorem run_closed {closed : Bool} {i : Intake} {before : List Turn}
    {x : Noted DrainNote Drainage}
    (h : run ⟨closed, .looking, i⟩ (before ++ [.close]) = some x) : x.value.closed = true := by
  obtain ⟨y, z, -, hz, rfl⟩ := runWith_append_iff.mp h
  rw [runWith_singleton] at hz
  obtain rfl := Option.some.inj hz
  rfl

theorem timeouts_hide_and_closing_ends {i : Intake} (hopen : i.ended = none) :
    Hides i ∧ Yields i := by
  refine ⟨hides hopen, fun c => drain_plays c i, ?_, ?_, ?_, ?_, fun d => ended_of_stuck,
    fun closed turns x h hno => (run_reported hopen h hno).count⟩
  · intro closed turns x h hrests
    have hsane : Sane ⟨closed, .looking, i⟩ := fun hne => absurd rfl hne
    obtain ⟨c, hc⟩ := run_continues hsane h hrests
    obtain ⟨hclosed, hnotes, hintake⟩ := hc.looking rfl
    exact ⟨c, hclosed, hc.answers, hnotes, hintake⟩
  · intro closed before x h after y hy
    exact Nat.le_trans (Nat.le_add_right _ _) (run_spent (run_closed h) hy).answers
  · intro closed before x h after y hy
    exact Nat.le_trans (Nat.le_add_right _ _)
      (Nat.le_trans (run_spent (run_closed h) hy).chunks (chunksLeft_le _))
  · intro closed before x h after y hy
    exact Nat.le_trans (Nat.le_add_right _ _)
      (Nat.le_trans (run_spent (run_closed h) hy).turns (turnsLeft_le _))

/-- The channel is closed while its device is being read for the second time. -/
def closedWhileRead : List Turn :=
  [.look, .answer (.failed ⟨.timedOut, ""⟩), .look, .close, .answer (.got [1, 2, 3]), .take, .look,
    .take]

theorem timeouts_hide_and_closing_ends_in_a_read :
    (Intake.new { bufferSize := 4 } {}).ended = none ∧ Hides (Intake.new { bufferSize := 4 } {}) ∧
      Yields (Intake.new { bufferSize := 4 } {}) ∧
      (run ⟨false, .looking, Intake.new { bufferSize := 4 } {}⟩ closedWhileRead).map
        (fun x => (chunkCount x.notes, x.notes.count (.intake .disconnected))) = some (1, 1) := by
  have hopen : (Intake.new { bufferSize := 4 } {}).ended = none := by decide
  obtain ⟨hhides, hyields⟩ := timeouts_hide_and_closing_ends hopen
  exact ⟨hopen, hhides, hyields, by decide⟩

end Drainage

end LinkWatch
