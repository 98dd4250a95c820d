import LinkWatch.Channel.Drain
import LinkWatch.Proofs.Intake.Drain

/-! # Draining a serial channel, one answer of the device after the other -/

namespace LinkWatch.SerialChannel

variable {c : SerialChannel} {i : Intake} {f : Feed} {feeds : List Feed}

/-! ## One read -/

/-- The channel after its device has given one answer. -/
def after (c : SerialChannel) (f : Feed) (feeds : List Feed) : SerialChannel :=
  { c with closed := f.closing, feeds := feeds }

theorem read_closed (h : c.closed = true) (room : Nat) :
    c.read room = ⟨(some (.failed channelClosed), c), []⟩ := by
  obtain ⟨closed, feeds, acceptances, flushFault, cloneFault⟩ := c
  obtain rfl : closed = true := h
  simp [read, readFrom, bind, pure]

theorem read_silent (h : c.closed = false) (hfeeds : c.feeds = []) (room : Nat) :
    c.read room = ⟨(none, c), [.read room]⟩ := by
  obtain ⟨closed, feeds, acceptances, flushFault, cloneFault⟩ := c
  obtain rfl : closed = false := h
  obtain rfl : feeds = [] := hfeeds
  simp [read, readFrom, note, bind, pure]

theorem read_waits (h : c.closed = false) (hfeeds : c.feeds = f :: feeds)
    (hwaits : f.reading.failedWith .timedOut = true) (room : Nat) :
    c.read room =
      ⟨((c.after f feeds).read room).value, .read room :: ((c.after f feeds).read room).notes⟩ := by
  obtain ⟨closed, fs, acceptances, flushFault, cloneFault⟩ := c
  obtain rfl : closed = false := h
  obtain rfl : fs = f :: feeds := hfeeds
  simp [read, readFrom, after, hwaits, note, bind, pure]

theorem read_returns (h : c.closed = false) (hfeeds : c.feeds = f :: feeds)
    (hreturns : f.reading.failedWith .timedOut = false) (room : Nat) :
    c.read room = ⟨(some f.reading, c.after f feeds), [.read room]⟩ := by
  obtain ⟨closed, fs, acceptances, flushFault, cloneFault⟩ := c
  obtain rfl : closed = false := h
  obtain rfl : fs = f :: feeds := hfeeds
  simp [read, readFrom, after, hreturns, note, bind, pure]

theorem read_not_timedOut {room : Nat} {r : Reading} (h : (c.read room).value.1 = some r) :
    r.failedWith .timedOut = false := by
  cases hc : c.closed with
  | true =>
    rw [read_closed hc] at h
    rw [← Option.some.inj h]
    rfl
  | false =>
    induction hfeeds : c.feeds generalizing c with
    | nil =>
      rw [read_silent hc hfeeds] at h
      exact absurd h (by simp)
    | cons f feeds ih =>
      cases hwaits : f.reading.failedWith .timedOut with
      | false =>
        rw [read_returns hc hfeeds hwaits] at h
        rw [← Option.some.inj h]
        exact hwaits
      | true =>
        rw [read_waits hc hfeeds hwaits] at h
        cases hnext : (c.after f feeds).closed with
        | true =>
          rw [read_closed hnext] at h
          rw [← Option.some.inj h]
          rfl
        | false => exact ih h hnext rfl

/-! ## Reads until the intake has ended -/

/-- What is noted while an intake takes a reading. -/
def taken (i : Intake) (r : Reading) : List DrainNote := (i.take r).notes.map .intake

theorem take_closed_ends (i : Intake) : (i.take (.failed channelClosed)).value.ended ≠ none := by
  have hspec := i.take_spec (.failed channelClosed)
  generalize (i.take (.failed channelClosed)).notes = notes at hspec
  generalize (i.take (.failed channelClosed)).value = j at hspec ⊢
  cases hspec with
  | interrupted failure kind => exact absurd kind (by decide)
  | failed failure kind => simp

theorem drainFor_ended (h : i.ended ≠ none) (n : Nat) (c : SerialChannel) :
    drainFor n c i = pure (i, c) := by
  cases n with
  | zero => rfl
  | succ n => exact if_pos (Option.isSome_iff_ne_none.mpr h)

theorem drainFor_closed (hopen : i.ended = none) (h : c.closed = true) (n : Nat) :
    drainFor (n + 1) c i =
      ⟨((i.take (.failed channelClosed)).value, c), taken i (.failed channelClosed)⟩ := by
  simp [drainFor, hopen, read_closed h, drainFor_ended (take_closed_ends i), Noted.mapNotes, taken,
    bind, pure]

theorem drainFor_silent (hopen : i.ended = none) (h : c.closed = false) (hfeeds : c.feeds = [])
    (n : Nat) :
    drainFor (n + 1) c i = ⟨(i, c), [.called (.read i.buffer.capacity)]⟩ := by
  simp [drainFor, hopen, read_silent h hfeeds, Noted.mapNotes, bind, pure]

theorem drainFor_waits (hopen : i.ended = none) (h : c.closed = false)
    (hfeeds : c.feeds = f :: feeds) (hwaits : f.reading.failedWith .timedOut = true) (n : Nat) :
    drainFor (n + 1) c i =
      ⟨(drainFor (n + 1) (c.after f feeds) i).value, .called (.read i.buffer.capacity) ::
        (drainFor (n + 1) (c.after f feeds) i).notes⟩ := by
  simp only [drainFor, hopen, read_waits h hfeeds hwaits, Noted.mapNotes, bind, List.map_cons]
  rfl

theorem drainFor_takes (hopen : i.ended = none) (h : c.closed = false)
    (hfeeds : c.feeds = f :: feeds) (hreturns : f.reading.failedWith .timedOut = false) (n : Nat) :
    drainFor (n + 1) c i =
      ⟨(drainFor n (c.after f feeds) (i.take f.reading).value).value,
        .called (.read i.buffer.capacity) :: (taken i f.reading ++
          (drainFor n (c.after f feeds) (i.take f.reading).value).notes)⟩ := by
  simp [drainFor, hopen, read_returns h hfeeds hreturns, Noted.mapNotes, taken, bind]

/-- There are always steps enough: each reading but the last uses up an answer of the device. -/
theorem drainFor_succ {n : Nat} (h : c.feeds.length < n) :
    drainFor (n + 1) c i = drainFor n c i := by
  induction hfeeds : c.feeds generalizing n c i with
  | nil =>
    obtain ⟨k, rfl⟩ := Nat.exists_eq_succ_of_ne_zero (Nat.ne_of_gt (Nat.zero_lt_of_lt h))
    by_cases hended : i.ended = none
    · cases hc : c.closed with
      | true => rw [drainFor_closed hended hc, drainFor_closed hended hc]
      | false => rw [drainFor_silent hended hc hfeeds, drainFor_silent hended hc hfeeds]
    · rw [drainFor_ended hended, drainFor_ended hended]
  | cons f feeds ih =>
    obtain ⟨k, rfl⟩ := Nat.exists_eq_succ_of_ne_zero (Nat.ne_of_gt (Nat.zero_lt_of_lt h))
    have hlength : feeds.length < k := by
      rw [hfeeds, List.length_cons] at h
      omega
    by_cases hended : i.ended = none
    · cases hc : c.closed with
      | true => rw [drainFor_closed hended hc, drainFor_closed hended hc]
      | false =>
        cases hwaits : f.reading.failedWith .timedOut with
        | true =>
          have hshort : (c.after f feeds).feeds.length < k + 1 := Nat.lt_succ_of_lt hlength
          rw [drainFor_waits hended hc hfeeds hwaits, drainFor_waits hended hc hfeeds hwaits,
            ih hshort rfl]
        | false =>
          have hshort : (c.after f feeds).feeds.length < k := hlength
          rw [drainFor_takes hended hc hfeeds hwaits, drainFor_takes hended hc hfeeds hwaits,
            ih hshort rfl]
    · rw [drainFor_ended hended, drainFor_ended hended]

/-! ## The whole drain -/

theorem drain_ended (h : i.ended ≠ none) (c : SerialChannel) : c.drain i = pure (i, c) :=
  drainFor_ended h _ c

theorem drain_closed (hopen : i.ended = none) (h : c.closed = true) :
    c.drain i =
      ⟨((i.take (.failed channelClosed)).value, c), taken i (.failed channelClosed)⟩ :=
  drainFor_closed hopen h _

theorem drain_silent (hopen : i.ended = none) (h : c.closed = false) (hfeeds : c.feeds = []) :
    c.drain i = ⟨(i, c), [.called (.read i.buffer.capacity)]⟩ :=
  drainFor_silent hopen h hfeeds _

theorem drain_waits (hopen : i.ended = none) (h : c.closed = false)
    (hfeeds : c.feeds = f :: feeds) (hwaits : f.reading.failedWith .timedOut = true) :
    c.drain i =
      ⟨((c.after f feeds).drain i).value, .called (.read i.buffer.capacity) ::
        ((c.after f feeds).drain i).notes⟩ := by
  have henough : drainFor (feeds.length + 1 + 1) (c.after f feeds) i = (c.after f feeds).drain i :=
    drainFor_succ (Nat.lt_succ_self _)
  rw [drain, drainFor_waits hopen h hfeeds hwaits, hfeeds, List.length_cons, henough]

theorem drain_takes (hopen : i.ended = none) (h : c.closed = false)
    (hfeeds : c.feeds = f :: feeds) (hreturns : f.reading.failedWith .timedOut = false) :
    c.drain i =
      ⟨((c.after f feeds).drain (i.take f.reading).value).value,
        .called (.read i.buffer.capacity) :: (taken i f.reading ++
          ((c.after f feeds).drain (i.take f.reading).value).notes)⟩ := by
  rw [drain, drainFor_takes hopen h hfeeds hreturns, hfeeds, List.length_cons]
  rfl

end LinkWatch.SerialChannel
