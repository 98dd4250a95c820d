import LinkWatch.Proofs.Channel.Drain
import LinkWatch.Proofs.Run

/-! # Draining a serial channel in turns

A handle may close the channel at any time: before the channel looks at its flag, while the device
is being read, before the intake takes what was read. -/

namespace LinkWatch

/-! ## Turns -/

/-- Where the thread is that drains a channel. -/
inductive Place where
  /-- It is about to look whether the channel was closed, if the intake has not ended. -/
  | looking
  /-- It waits for the device. -/
  | asking
  /-- The read has returned, and the intake is about to take the result. -/
  | returned (r : Reading)
  deriving DecidableEq, Repr

structure Drainage where
  closed : Bool
  place : Place := .looking
  intake : Intake
  deriving DecidableEq, Repr

inductive Turn where
  | close
  | look
  | answer (r : Reading)
  | take
  deriving DecidableEq, Repr

@[simp] def Turn.answer? : Turn → Option Reading
  | .answer r => some r
  | .close | .look | .take => none

namespace Drainage

def step (d : Drainage) : Turn → Option (Noted DrainNote Drainage)
  | .close => some (pure { d with closed := true })
  | .look =>
    if d.place = .looking ∧ d.intake.ended = none then
      if d.closed then
        some (pure { d with place := .returned (.failed SerialChannel.channelClosed) })
      else some do
        note (.called (.read d.intake.buffer.capacity))
        return { d with place := .asking }
    else none
  | .answer r =>
    if d.place = .asking then
      some (pure
        { d with place := if r.failedWith .timedOut then .looking else .returned r })
    else none
  | .take =>
    match d.place with
    | .returned r => some do
      let i ← (d.intake.take r).mapNotes .intake
      return { d with place := .looking, intake := i }
    | _ => none

def run (d : Drainage) (turns : List Turn) : Option (Noted DrainNote Drainage) :=
  runWith step d turns

/-- One constructor for each thing that a turn can do. -/
inductive Step (d : Drainage) : Turn → List DrainNote → Drainage → Prop
  | close : Step d .close [] { d with closed := true }
  | turnedAway (place : d.place = .looking) (goesOn : d.intake.ended = none)
    (closed : d.closed = true) :
    Step d .look [] { d with place := .returned (.failed SerialChannel.channelClosed) }
  | ask (place : d.place = .looking) (goesOn : d.intake.ended = none) (free : d.closed = false) :
    Step d .look [.called (.read d.intake.buffer.capacity)] { d with place := .asking }
  | waits (r : Reading) (place : d.place = .asking) (timeout : r.failedWith .timedOut = true) :
    Step d (.answer r) [] { d with place := .looking }
  | returns (r : Reading) (place : d.place = .asking) (result : r.failedWith .timedOut = false) :
    Step d (.answer r) [] { d with place := .returned r }
  | take (r : Reading) (place : d.place = .returned r) :
    Step d .take (SerialChannel.taken d.intake r)
      { d with place := .looking, intake := (d.intake.take r).value }

variable {d e : Drainage} {t : Turn} {notes : List DrainNote}

theorem step_of_eq {x : Noted DrainNote Drainage} (h : d.step t = some x) :
    Step d t x.notes x.value := by
  cases t with
  | close =>
    obtain rfl := Option.some.inj h
    exact .close
  | look =>
    simp only [step, Option.ite_none_right_eq_some] at h
    obtain ⟨⟨hplace, hopen⟩, h⟩ := h
    cases hc : d.closed with
    | true =>
      rw [hc, if_pos rfl] at h
      obtain rfl := Option.some.inj h
      simpa [hc] using Step.turnedAway hplace hopen hc
    | false =>
      rw [hc, if_neg Bool.false_ne_true] at h
      obtain rfl := Option.some.inj h
      simpa [hc, note, bind, pure] using Step.ask hplace hopen hc
  | answer r =>
    simp only [step, Option.ite_none_right_eq_some] at h
    obtain ⟨hplace, h⟩ := h
    obtain rfl := Option.some.inj h
    cases hr : r.failedWith .timedOut with
    | true => simpa [hr] using Step.waits r hplace hr
    | false => simpa [hr] using Step.returns r hplace hr
  | take =>
    simp only [step] at h
    split at h
    · rename_i r hplace
      obtain rfl := Option.some.inj h
      simpa [bind, SerialChannel.taken] using Step.take r hplace
    · exact absurd h (by simp)

theorem eq_of_step (h : Step d t notes e) : d.step t = some ⟨e, notes⟩ := by
  cases h with
  | close => rfl
  | turnedAway hplace hopen hc => simp [step, hplace, hopen, hc, pure]
  | ask hplace hopen hc => simp [step, hplace, hopen, hc, note, bind, pure]
  | waits r hplace hr => simp [step, hplace, hr, pure]
  | returns r hplace hr => simp [step, hplace, hr, pure]
  | take r hplace => simp [step, hplace, bind, pure, SerialChannel.taken]

theorem run_cons {turns : List Turn} {y : Noted DrainNote Drainage} (h : Step d t notes e)
    (hy : e.run turns = some y) : d.run (t :: turns) = some ⟨y.value, notes ++ y.notes⟩ :=
  runWith_cons_iff.mpr ⟨_, y, eq_of_step h, hy, rfl⟩

/-! ## The turns of a drain -/

/-- The thread has nothing to do until the device answers, or at all. -/
def Rests (d : Drainage) : Prop := d.intake.ended ≠ none ∨ d.place = .asking

/-- The turns lead where draining the channel leads, and use the same answers of its device. -/
structure Plays (c : SerialChannel) (i : Intake) (turns : List Turn)
    (x : Noted DrainNote Drainage) : Prop where
  notes : x.notes = (c.drain i).notes
  intake : x.value.intake = (c.drain i).value.1
  answers : turns.filterMap Turn.answer? ++ (c.drain i).value.2.feeds.map Feed.reading =
    c.feeds.map Feed.reading

def closeIf (closing : Bool) : List Turn := if closing then [.close] else []

theorem answers_closeIf (closing : Bool) : (closeIf closing).filterMap Turn.answer? = [] := by
  cases closing with
  | true => rfl
  | false => rfl

theorem run_closeIf {turns : List Turn} {y : Noted DrainNote Drainage} (closing : Bool)
    (hfree : d.closed = false) (hy : run { d with closed := closing } turns = some y) :
    d.run (closeIf closing ++ turns) = some y := by
  cases closing with
  | true => exact run_cons .close hy
  | false =>
    obtain ⟨closed, place, intake⟩ := d
    obtain rfl : closed = false := hfree
    exact hy

variable {c : SerialChannel} {i : Intake} {f : Feed} {feeds : List Feed} {turns : List Turn}
variable {x : Noted DrainNote Drainage}

theorem Plays.waits (h : Plays (c.after f feeds) i turns x) (hopen : i.ended = none)
    (hc : c.closed = false) (hfeeds : c.feeds = f :: feeds)
    (hwaits : f.reading.failedWith .timedOut = true) :
    Plays c i (.look :: (closeIf f.closing ++ .answer f.reading :: turns))
      ⟨x.value, .called (.read i.buffer.capacity) :: x.notes⟩ := by
  constructor
  · rw [SerialChannel.drain_waits hopen hc hfeeds hwaits, h.notes]
  · rw [SerialChannel.drain_waits hopen hc hfeeds hwaits, ← h.intake]
  · have hanswers : turns.filterMap Turn.answer? ++
        ((c.after f feeds).drain i).value.2.feeds.map Feed.reading = feeds.map Feed.reading :=
      h.answers
    rw [SerialChannel.drain_waits hopen hc hfeeds hwaits, hfeeds]
    simp [List.filterMap_cons, answers_closeIf, hanswers]

theorem Plays.takes (h : Plays (c.after f feeds) (i.take f.reading).value turns x)
    (hopen : i.ended = none) (hc : c.closed = false) (hfeeds : c.feeds = f :: feeds)
    (hreturns : f.reading.failedWith .timedOut = false) :
    Plays c i (.look :: (closeIf f.closing ++ .answer f.reading :: .take :: turns))
      ⟨x.value, .called (.read i.buffer.capacity) ::
        (SerialChannel.taken i f.reading ++ x.notes)⟩ := by
  constructor
  · rw [SerialChannel.drain_takes hopen hc hfeeds hreturns, h.notes]
  · rw [SerialChannel.drain_takes hopen hc hfeeds hreturns, ← h.intake]
  · have hanswers : turns.filterMap Turn.answer? ++
        ((c.after f feeds).drain (i.take f.reading).value).value.2.feeds.map Feed.reading =
          feeds.map Feed.reading :=
      h.answers
    rw [SerialChannel.drain_takes hopen hc hfeeds hreturns, hfeeds]
    simp [List.filterMap_cons, answers_closeIf, hanswers]

theorem plays_ended (h : i.ended ≠ none) :
    ∃ turns x, run ⟨c.closed, .looking, i⟩ turns = some x ∧ x.value.Rests ∧
      Plays c i turns x := by
  refine ⟨[], _, rfl, Or.inl h, ?_⟩
  constructor
  · rw [SerialChannel.drain_ended h]
    rfl
  · rw [SerialChannel.drain_ended h]
    rfl
  · rw [SerialChannel.drain_ended h]
    rfl

theorem plays_closed (hopen : i.ended = none) (h : c.closed = true) :
    ∃ turns x, run ⟨c.closed, .looking, i⟩ turns = some x ∧ x.value.Rests ∧
      Plays c i turns x := by
  refine ⟨[.look, .take], _, run_cons (.turnedAway rfl hopen h) (run_cons (.take _ rfl) rfl),
    Or.inl (SerialChannel.take_closed_ends i), ?_⟩
  constructor
  · rw [SerialChannel.drain_closed hopen h]
    simp
  · rw [SerialChannel.drain_closed hopen h]
    rfl
  · rw [SerialChannel.drain_closed hopen h]
    rfl

/-- Draining a channel is one of the ways to take turns: its handles are closed while the device is
being read. -/
theorem drain_plays (c : SerialChannel) (i : Intake) :
    ∃ turns x, run ⟨c.closed, .looking, i⟩ turns = some x ∧ x.value.Rests ∧
      Plays c i turns x := by
  induction hfeeds : c.feeds generalizing c i with
  | nil =>
    by_cases hopen : i.ended = none
    · rcases Bool.eq_false_or_eq_true c.closed with hc | hc
      · exact plays_closed hopen hc
      · refine ⟨[.look], _, run_cons (.ask rfl hopen hc) rfl, Or.inr rfl, ?_⟩
        constructor
        · rw [SerialChannel.drain_silent hopen hc hfeeds]
          rfl
        · rw [SerialChannel.drain_silent hopen hc hfeeds]
          rfl
        · rw [SerialChannel.drain_silent hopen hc hfeeds]
          rfl
    · exact plays_ended hopen
  | cons f feeds ih =>
    by_cases hopen : i.ended = none
    · rcases Bool.eq_false_or_eq_true c.closed with hc | hc
      · exact plays_closed hopen hc
      · cases hwaits : f.reading.failedWith .timedOut with
        | true =>
          obtain ⟨turns, x, hrun, hrests, hplays⟩ := ih (c.after f feeds) i rfl
          exact ⟨_, _, run_cons (.ask rfl hopen hc) (run_closeIf f.closing hc
            (run_cons (.waits f.reading rfl hwaits) hrun)), hrests,
            hplays.waits hopen hc hfeeds hwaits⟩
        | false =>
          obtain ⟨turns, x, hrun, hrests, hplays⟩ :=
            ih (c.after f feeds) (i.take f.reading).value rfl
          exact ⟨_, _, run_cons (.ask rfl hopen hc) (run_closeIf f.closing hc
            (run_cons (.returns f.reading rfl hwaits) (run_cons (.take f.reading rfl) hrun))),
            hrests, hplays.takes hopen hc hfeeds hwaits⟩
    · exact plays_ended hopen

/-! ## Turns are draining -/

/-- The thread is in the middle of a read only while the intake goes on. -/
def Sane (d : Drainage) : Prop := d.place ≠ .looking → d.intake.ended = none

theorem Sane.step (h : d.Sane) (hstep : Step d t notes e) : e.Sane := by
  cases hstep with
  | close => exact h
  | turnedAway hplace hopen hc => exact fun _ => hopen
  | ask hplace hopen hc => exact fun _ => hopen
  | waits r hplace hr => exact fun hne => absurd rfl hne
  | returns r hplace hr => exact fun _ => h (by simp [hplace])
  | take r hplace => exact fun hne => absurd rfl hne

/-- The turns go on as draining the channel does, from where the thread is. -/
structure Continues (d : Drainage) (turns : List Turn) (x : Noted DrainNote Drainage)
    (c : SerialChannel) : Prop where
  answers : c.feeds.map Feed.reading = turns.filterMap Turn.answer?
  untouched : d.closed = false → .close ∉ turns →
    c.closed = false ∧ ∀ f ∈ c.feeds, f.closing = false
  looking : d.place = .looking → (d.closed = true → c.closed = true) ∧
    x.notes = (c.drain d.intake).notes ∧ x.value.intake = (c.drain d.intake).value.1
  asking : d.place = .asking → c.closed = false ∧
    .called (.read d.intake.buffer.capacity) :: x.notes = (c.drain d.intake).notes ∧
      x.value.intake = (c.drain d.intake).value.1
  returned : ∀ r, d.place = .returned r →
    x.notes = SerialChannel.taken d.intake r ++ (c.drain (d.intake.take r).value).notes ∧
      x.value.intake = (c.drain (d.intake.take r).value).value.1

/-- The channel with one more answer of its device before all others. The flag is then as the next
look will find it. -/
def precede (r : Reading) (c : SerialChannel) : SerialChannel :=
  { c with closed := false, feeds := ⟨r, c.closed⟩ :: c.feeds }

theorem rests_continues (hsane : d.Sane) (hrests : d.Rests) :
    ∃ c, Continues d [] (pure d) c := by
  obtain ⟨closed, place, intake⟩ := d
  cases place with
  | looking =>
    have hended : intake.ended ≠ none := hrests.resolve_right (by simp)
    refine ⟨{ closed := closed }, rfl, fun hc _ => ⟨hc, by simp⟩, fun _ => ⟨id, ?_, ?_⟩,
      by simp, by simp⟩
    · rw [SerialChannel.drain_ended hended]
      rfl
    · rw [SerialChannel.drain_ended hended]
      rfl
  | asking =>
    have hopen : intake.ended = none := hsane (by simp)
    refine ⟨{}, rfl, fun _ _ => ⟨rfl, by simp⟩, by simp, fun _ => ⟨rfl, ?_, ?_⟩, by simp⟩
    · rw [SerialChannel.drain_silent hopen rfl rfl]
      rfl
    · rw [SerialChannel.drain_silent hopen rfl rfl]
      rfl
  | returned r =>
    have hopen : intake.ended = none := hsane (by simp)
    exact absurd hrests (by simp [Rests, hopen])

theorem Continues.cons {turns : List Turn} {y : Noted DrainNote Drainage}
    (h : Continues e turns y c) (hsane : d.Sane) (hstep : Step d t notes e) :
    ∃ b, Continues d (t :: turns) ⟨y.value, notes ++ y.notes⟩ b := by
  obtain ⟨hanswers, huntouched, hlooking, hasking, hreturned⟩ := h
  cases hstep with
  | close =>
    refine ⟨c, hanswers, fun _ hno => absurd List.mem_cons_self hno, ?_, ?_, ?_⟩
    · intro hplace
      obtain ⟨hclosed, hnotes, hintake⟩ := hlooking hplace
      exact ⟨fun _ => hclosed rfl, hnotes, hintake⟩
    · exact hasking
    · exact hreturned
  | turnedAway hplace hopen hc =>
    -- The read is turned away by the flag, whatever the device would do.
    obtain ⟨hnotes, hintake⟩ := hreturned _ rfl
    have hended := SerialChannel.take_closed_ends d.intake
    rw [SerialChannel.drain_ended hended] at hnotes hintake
    refine ⟨{ c with closed := true }, hanswers, fun hfree => absurd hc (by simp [hfree]),
      fun _ => ⟨fun _ => rfl, ?_, ?_⟩, by simp [hplace], by simp [hplace]⟩
    · rw [SerialChannel.drain_closed hopen rfl]
      simpa using hnotes
    · rw [SerialChannel.drain_closed hopen rfl]
      exact hintake
  | ask hplace hopen hc =>
    obtain ⟨hfree, hnotes, hintake⟩ := hasking rfl
    refine ⟨c, hanswers, ?_, fun _ => ⟨fun hd => absurd hc (by simp [hd]), hnotes, hintake⟩,
      by simp [hplace], by simp [hplace]⟩
    exact fun _ hno => huntouched hc fun hmem => hno (List.mem_cons_of_mem _ hmem)
  | waits r hplace hr =>
    obtain ⟨-, hnotes, hintake⟩ := hlooking rfl
    have hopen : d.intake.ended = none := hsane (by simp [hplace])
    have hdrain := SerialChannel.drain_waits (c := precede r c) hopen rfl rfl hr
    refine ⟨precede r c, ?_, ?_, by simp [hplace], fun _ => ⟨rfl, ?_, ?_⟩, by simp [hplace]⟩
    · simp [precede, hanswers]
    · intro hd hno
      obtain ⟨hfree, hfeeds⟩ := huntouched hd fun hmem => hno (List.mem_cons_of_mem _ hmem)
      exact ⟨rfl, by simpa [precede, hfree] using hfeeds⟩
    · rw [hdrain]
      exact congrArg _ hnotes
    · rw [hdrain]
      exact hintake
  | returns r hplace hr =>
    obtain ⟨hnotes, hintake⟩ := hreturned r rfl
    have hopen : d.intake.ended = none := hsane (by simp [hplace])
    have hdrain := SerialChannel.drain_takes (c := precede r c) hopen rfl rfl hr
    refine ⟨precede r c, ?_, ?_, by simp [hplace], fun _ => ⟨rfl, ?_, ?_⟩, by simp [hplace]⟩
    · simp [precede, hanswers]
    · intro hd hno
      obtain ⟨hfree, hfeeds⟩ := huntouched hd fun hmem => hno (List.mem_cons_of_mem _ hmem)
      exact ⟨rfl, by simpa [precede, hfree] using hfeeds⟩
    · rw [hdrain]
      exact congrArg _ hnotes
    · rw [hdrain]
      exact hintake
  | take r hplace =>
    obtain ⟨-, hnotes, hintake⟩ := hlooking rfl
    refine ⟨c, hanswers, ?_, by simp [hplace], by simp [hplace], ?_⟩
    · exact fun hd hno => huntouched hd fun hmem => hno (List.mem_cons_of_mem _ hmem)
    · intro q hq
      obtain rfl : r = q := Place.returned.inj (hplace.symm.trans hq)
      exact ⟨congrArg (SerialChannel.taken d.intake r ++ ·) hnotes, hintake⟩

theorem run_continues {turns : List Turn} {x : Noted DrainNote Drainage} (hsane : d.Sane)
    (h : d.run turns = some x) (hrests : x.value.Rests) : ∃ c, Continues d turns x c := by
  induction turns generalizing d x with
  | nil =>
    obtain rfl := Option.some.inj h
    exact rests_continues hsane hrests
  | cons t turns ih =>
    obtain ⟨z, y, hz, hy, rfl⟩ := runWith_cons_iff.mp h
    have hstep := step_of_eq hz
    obtain ⟨c, hc⟩ := ih (hsane.step hstep) hy hrests
    exact hc.cons hsane hstep

end Drainage

end LinkWatch
