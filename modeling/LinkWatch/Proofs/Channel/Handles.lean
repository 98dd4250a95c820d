import LinkWatch.Channel.Handles
import LinkWatch.Proofs.Channel.Closing

/-! # Closing a serial channel through one of its handles

Handles are used in any order, and each of them makes others. What a use comes to depends on whether
any handle was closed before it. -/

namespace LinkWatch

/-! ## Ports -/

namespace SerialPort

/-- What a port says to reads, without its timeouts. -/
def lasting (p : SerialPort) : List Reading := (p.channel false).lasting

/-- What a port says to the next write. -/
def taking (p : SerialPort) (bytes : List UInt8) : Except IoFailure Nat :=
  match p.acceptances with
  | [] => .ok bytes.length
  | .takes count :: _ => .ok (min count bytes.length)
  | .fails failure :: _ => .error failure

end SerialPort

/-! ## One use of a channel -/

namespace SerialChannel

variable {c : SerialChannel}

/-- An open channel asks its device until there is something to say. It notices that a handle was
closed meanwhile when the device has timed out. -/
structure Asks (c : SerialChannel) (room : Nat)
    (x : Noted DeviceCall (Option Reading × SerialChannel)) : Prop where
  calls : ∃ k, x.notes = List.replicate (k + 1) (.read room)
  closed : x.value.2.closed = (c.feeds.take x.notes.length).any Feed.closing
  first : x.value.2.closed = false → x.value.1 = c.port.lasting.head?
  overtaken : x.value.2.closed = true →
    x.value.1 = c.port.lasting.head? ∨ x.value.1 = some (.failed channelClosed)

theorem read_open (hc : c.closed = false) (room : Nat) : c.Asks room (c.read room) := by
  have hport : c.port.lasting = c.lasting := rfl
  -- On what the device still has to say: it is waited for, or it is the result.
  induction hfeeds : c.feeds generalizing c with
  | nil =>
    have hnothing : c.port.lasting.head? = none := by simp [hport, lasting, hfeeds]
    rw [read_silent hc hfeeds]
    exact ⟨⟨0, rfl⟩, by simp [hc, hfeeds], fun _ => hnothing.symm, fun _ => .inl hnothing.symm⟩
  | cons f feeds ih =>
    cases hwaits : f.reading.failedWith .timedOut with
    | false =>
      have hfirst : c.port.lasting.head? = some f.reading := by
        rw [hport, lasting_takes hfeeds hwaits]
        rfl
      rw [read_returns hc hfeeds hwaits]
      exact ⟨⟨0, rfl⟩, by simp [after, hfeeds], fun _ => hfirst.symm, fun _ => .inl hfirst.symm⟩
    | true =>
      have hrest : c.port.lasting = (c.after f feeds).port.lasting := lasting_waits hfeeds hwaits
      rw [read_waits hc hfeeds hwaits]
      cases hclosing : f.closing with
      | true =>
        have hnext : (c.after f feeds).closed = true := hclosing
        rw [read_closed hnext]
        refine ⟨⟨0, rfl⟩, by simp [hnext, hfeeds, hclosing], fun hopen => ?_, fun _ => .inr rfl⟩
        exact absurd (hopen.symm.trans hnext) Bool.false_ne_true
      | false =>
        obtain ⟨⟨k, hcalls⟩, hclosed, hfirst, hovertaken⟩ := ih (c := c.after f feeds) hclosing rfl rfl
        refine ⟨⟨k + 1, by rw [hcalls]; rfl⟩, ?_, hrest ▸ hfirst, hrest ▸ hovertaken⟩
        rw [hclosed, hfeeds, List.length_cons, List.take_succ_cons, List.any_cons, hclosing]
        rfl

theorem write_closed (hc : c.closed = true) (bytes : List UInt8) :
    c.write bytes = ⟨(.error channelClosed, c), []⟩ :=
  if_pos hc

theorem write_open (hc : c.closed = false) (bytes : List UInt8) :
    (c.write bytes).notes = [.write bytes] ∧ (c.write bytes).value.1 = c.port.taking bytes ∧
      (c.write bytes).value.2.closed = false := by
  obtain ⟨closed, feeds, acceptances, flushFault, cloneFault⟩ := c
  obtain rfl : closed = false := hc
  cases acceptances with
  | nil => exact ⟨rfl, rfl, rfl⟩
  | cons a rest =>
    cases a with
    | takes count => exact ⟨rfl, rfl, rfl⟩
    | fails failure => exact ⟨rfl, rfl, rfl⟩

theorem closed_write (c : SerialChannel) (bytes : List UInt8) :
    (c.write bytes).value.2.closed = c.closed := by
  cases hc : c.closed with
  | true =>
    rw [write_closed hc]
    exact hc
  | false => exact (write_open hc bytes).2.2

end SerialChannel

/-! ## Uses of handles -/

/-- One use of a handle: what its port was about to do then, what the use came to, and the calls
that the port got. -/
structure HandleNote where
  handle : Nat
  use : HandleUse
  port : SerialPort
  answer : HandleAnswer
  calls : List DeviceCall

namespace SerialHandles

def noteOf (s : SerialHandles) (number : Nat) (h : SerialHandle) (use : HandleUse) : HandleNote :=
  { handle := number, use := use, port := s.port h, answer := (s.act h use).value.1
    calls := (s.act h use).notes }

/-- Uses a handle, by its number. -/
def step (s : SerialHandles) (a : Nat × HandleUse) : Option (Noted HandleNote SerialHandles) :=
  s.handles[a.1]?.map fun h => ⟨(s.act h a.2).value.2, [s.noteOf a.1 h a.2]⟩

def run (s : SerialHandles) (actions : List (Nat × HandleUse)) :
    Option (Noted HandleNote SerialHandles) :=
  runWith step s actions

end SerialHandles

namespace HandleNote

/-- Whether a handle was closed during this use: by the use itself, or while it asked the port. -/
def closes (n : HandleNote) : Bool :=
  match n.use with
  | .close => true
  | .read _ => (n.port.feeds.take n.calls.length).any Feed.closing
  | .write _ | .flush | .clone _ => false

/-- Whether there is another handle after this use. -/
def makes (n : HandleNote) : Bool :=
  match n.use, n.answer with
  | .clone _, .done (.ok ()) => true
  | _, _ => false

/-! ## What a use comes to -/

/-- Before a close a read has the first result of the port that is not a timeout, and a write is
passed on as it is. -/
structure Served (n : HandleNote) : Prop where
  asks : ∀ room, n.use = .read room → ∃ k, n.calls = List.replicate (k + 1) (.read room)
  read : ∀ room, n.use = .read room → n.closes = false → n.answer = .read n.port.lasting.head?
  overtaken : ∀ room, n.use = .read room → n.closes = true →
    n.answer = .read n.port.lasting.head? ∨
      n.answer = .read (some (.failed SerialChannel.channelClosed))
  write : ∀ bytes, n.use = .write bytes →
    n.calls = [.write bytes] ∧ n.answer = .wrote (n.port.taking bytes)

/-- After a close reads and writes fail, and do not come to the port. -/
structure TurnedAway (n : HandleNote) : Prop where
  read : ∀ room, n.use = .read room →
    n.calls = [] ∧ n.answer = .read (some (.failed SerialChannel.channelClosed))
  write : ∀ bytes, n.use = .write bytes →
    n.calls = [] ∧ n.answer = .wrote (.error SerialChannel.channelClosed)

/-- A close is always possible, and a handle can be made where the port lets it be made. -/
structure Granted (n : HandleNote) : Prop where
  close : n.use = .close → n.calls = [] ∧ n.answer = .done (.ok ())
  clone : ∀ own, n.use = .clone own → n.port.cloneFault = none → n.answer = .done (.ok ())

/-- What is promised for a use, after a close or before. -/
structure Lawful (closed : Bool) (n : HandleNote) : Prop where
  served : closed = false → n.Served
  turnedAway : closed = true → n.TurnedAway
  granted : n.Granted

end HandleNote

namespace SerialHandles

variable {s : SerialHandles} {h : SerialHandle} {closed : Bool} {use : HandleUse}

theorem calls_read (number room : Nat) :
    (s.noteOf number h (.read room)).calls = ((s.channel h).read room).notes :=
  List.append_nil _

theorem calls_write (number : Nat) (bytes : List UInt8) :
    (s.noteOf number h (.write bytes)).calls = ((s.channel h).write bytes).notes :=
  List.append_nil _

theorem closes_read (hopen : s.closed h = false) (number room : Nat) :
    (s.noteOf number h (.read room)).closes = ((s.channel h).read room).value.2.closed := by
  have hclosed := (SerialChannel.read_open (c := s.channel h) hopen room).closed
  rw [← calls_read number] at hclosed
  exact hclosed.symm

theorem closed_read (number room : Nat) :
    ((s.channel h).read room).value.2.closed =
      (s.closed h || (s.noteOf number h (.read room)).closes) := by
  cases hc : s.closed h with
  | true =>
    rw [SerialChannel.read_closed (c := s.channel h) hc]
    exact hc
  | false => exact (closes_read hc number room).symm

theorem noteOf_served (hopen : s.closed h = false) (number : Nat) (use : HandleUse) :
    (s.noteOf number h use).Served := by
  have hread := SerialChannel.read_open (c := s.channel h) hopen
  refine ⟨?_, ?_, ?_, ?_⟩
  · rintro room rfl
    rw [calls_read]
    exact (hread room).calls
  · rintro room rfl hquiet
    rw [closes_read hopen] at hquiet
    exact congrArg HandleAnswer.read ((hread room).first hquiet)
  · rintro room rfl hcloses
    rw [closes_read hopen] at hcloses
    exact ((hread room).overtaken hcloses).imp (congrArg HandleAnswer.read)
      (congrArg HandleAnswer.read)
  · rintro bytes rfl
    obtain ⟨hcalls, hresult, -⟩ := SerialChannel.write_open (c := s.channel h) hopen bytes
    rw [calls_write]
    exact ⟨hcalls, congrArg HandleAnswer.wrote hresult⟩

theorem noteOf_turnedAway (hc : s.closed h = true) (number : Nat) (use : HandleUse) :
    (s.noteOf number h use).TurnedAway := by
  refine ⟨?_, ?_⟩
  · rintro room rfl
    have hread := SerialChannel.read_closed (c := s.channel h) hc room
    have hresult : ((s.channel h).read room).value.1 = some (.failed SerialChannel.channelClosed) :=
      by rw [hread]
    rw [calls_read, hread]
    exact ⟨rfl, congrArg HandleAnswer.read hresult⟩
  · rintro bytes rfl
    have hwrite := SerialChannel.write_closed (c := s.channel h) hc bytes
    have hresult : ((s.channel h).write bytes).value.1 = .error SerialChannel.channelClosed := by
      rw [hwrite]
    rw [calls_write, hwrite]
    exact ⟨rfl, congrArg HandleAnswer.wrote hresult⟩

theorem clone_fails {failure : SerialFault} (hfault : (s.port h).cloneFault = some failure)
    (own : Option SerialPort) : s.clone h own = ⟨(.error failure.asOther, s), [.clone]⟩ := by
  have hchannel : (s.channel h).cloneFault = some failure := hfault
  simp [clone, SerialChannel.clone, hchannel, note, bind, pure]

/-- The handles after another one was made from this one. -/
def more (s : SerialHandles) (h : SerialHandle) : Option SerialPort → SerialHandles
  | none => { s with handles := s.handles ++ [h] }
  | some p =>
    { s with ports := s.ports ++ [p], handles := s.handles ++ [{ h with port := s.ports.length }] }

theorem clone_succeeds (hfault : (s.port h).cloneFault = none) (own : Option SerialPort) :
    s.clone h own = ⟨(.ok (), s.more h own), [.clone]⟩ := by
  have hchannel : (s.channel h).cloneFault = none := hfault
  cases own with
  | none => simp [clone, SerialChannel.clone, hchannel, more, note, bind, pure]
  | some p => simp [clone, SerialChannel.clone, hchannel, more, note, bind, pure]

theorem noteOf_granted (number : Nat) (use : HandleUse) : (s.noteOf number h use).Granted := by
  refine ⟨?_, ?_⟩
  · rintro rfl
    exact ⟨rfl, rfl⟩
  · rintro own rfl hfault
    exact congrArg (fun x => HandleAnswer.done x.value.1) (clone_succeeds hfault own)

/-! ## One flag for all handles -/

/-- There is one flag, and all handles look at it. -/
structure Shared (s : SerialHandles) (closed : Bool) : Prop where
  flags : s.flags = [closed]
  same : ∀ h ∈ s.handles, h.flag = 0

theorem shared_of (c : SerialChannel) : (of c).Shared c.closed :=
  ⟨rfl, fun _ hmem => by rw [List.mem_singleton.mp hmem]⟩

theorem Shared.closed_eq (hs : s.Shared closed) (hmem : h ∈ s.handles) : s.closed h = closed := by
  rw [SerialHandles.closed, hs.flags, hs.same h hmem]
  rfl

theorem Shared.used (hs : s.Shared closed) (hmem : h ∈ s.handles) (after : SerialChannel) :
    (s.used h after).Shared after.closed := by
  refine ⟨?_, hs.same⟩
  rw [SerialHandles.used, hs.flags, hs.same h hmem]
  rfl

theorem Shared.concat (hs : s.Shared closed) (hmem : h ∈ s.handles) (ports : List SerialPort)
    (place : Nat) :
    Shared { s with ports := ports, handles := s.handles ++ [{ h with port := place }] } closed := by
  refine ⟨hs.flags, fun g hg => ?_⟩
  obtain hg | hg := List.mem_append.mp hg
  · exact hs.same g hg
  · rw [List.mem_singleton.mp hg]
    exact hs.same h hmem

theorem Shared.more (hs : s.Shared closed) (hmem : h ∈ s.handles) (own : Option SerialPort) :
    (s.more h own).Shared closed := by
  cases own with
  | none => exact hs.concat hmem s.ports h.port
  | some p => exact hs.concat hmem (s.ports ++ [p]) s.ports.length

theorem length_more (s : SerialHandles) (h : SerialHandle) (own : Option SerialPort) :
    (s.more h own).handles.length = s.handles.length + 1 := by
  cases own with
  | none => exact List.length_append
  | some p => exact List.length_append

/-- What one use leaves: handles that share a flag, which is set if a handle was closed, and one
handle more if one was made. -/
structure Leaves (s : SerialHandles) (closed : Bool) (n : HandleNote) (t : SerialHandles) : Prop where
  shared : t.Shared (closed || n.closes)
  count : t.handles.length = s.handles.length + [n].countP HandleNote.makes

theorem act_leaves (hs : s.Shared closed) (hmem : h ∈ s.handles) (number : Nat) (use : HandleUse) :
    s.Leaves closed (s.noteOf number h use) (s.act h use).value.2 := by
  cases use with
  | read room =>
    have hused := hs.used hmem ((s.channel h).read room).value.2
    rw [closed_read number, hs.closed_eq hmem] at hused
    exact ⟨hused, rfl⟩
  | write bytes =>
    have hused := hs.used hmem ((s.channel h).write bytes).value.2
    have hclosed : ((s.channel h).write bytes).value.2.closed = closed :=
      (SerialChannel.closed_write _ bytes).trans (hs.closed_eq hmem)
    rw [hclosed, ← Bool.or_false closed] at hused
    exact ⟨hused, rfl⟩
  | flush => exact ⟨(Bool.or_false closed).symm ▸ hs, rfl⟩
  | close =>
    have hused := hs.used hmem (s.channel h).close
    exact ⟨(Bool.or_true closed).symm ▸ hused, rfl⟩
  | clone own =>
    have hclosed := Bool.or_false closed
    cases hfault : (s.port h).cloneFault with
    | some failure =>
      have hnote : (s.noteOf number h (.clone own)).makes = false := by
        simp [HandleNote.makes, noteOf, act, clone_fails hfault]
      have hafter : (s.act h (.clone own)).value.2 = s := by simp [act, clone_fails hfault]
      rw [hafter]
      exact ⟨hclosed.symm ▸ hs, by simp [hnote]⟩
    | none =>
      have hnote : (s.noteOf number h (.clone own)).makes = true := by
        simp [HandleNote.makes, noteOf, act, clone_succeeds hfault]
      have hafter : (s.act h (.clone own)).value.2 = s.more h own := by
        simp [act, clone_succeeds hfault]
      rw [hafter]
      exact ⟨hclosed.symm ▸ hs.more hmem own, by simp [hnote, length_more]⟩

/-! ## Runs -/

theorem step_eq_some_iff {a : Nat × HandleUse} {x : Noted HandleNote SerialHandles} :
    s.step a = some x ↔
      ∃ h, s.handles[a.1]? = some h ∧ ⟨(s.act h a.2).value.2, [s.noteOf a.1 h a.2]⟩ = x :=
  Option.map_eq_some_iff

theorem step_isSome_iff (number : Nat) (use : HandleUse) :
    (s.step (number, use)).isSome = true ↔ number < s.handles.length := by
  simp [step]

theorem lawful_concat {notes : List HandleNote} {last : HandleNote}
    (hnotes : ∀ before n after, notes = before ++ n :: after →
      n.Lawful (before.any HandleNote.closes))
    (hlast : last.Lawful (notes.any HandleNote.closes)) (before : List HandleNote) (n : HandleNote)
    (after : List HandleNote) (h : notes ++ [last] = before ++ n :: after) :
    n.Lawful (before.any HandleNote.closes) := by
  -- Either this is the last note, or the last one stands behind it and does not count.
  obtain rfl | ⟨rest, final, rfl⟩ := List.eq_nil_or_concat after
  · obtain ⟨rfl, hn⟩ := List.append_inj' h rfl
    obtain rfl := List.singleton_inj.mp hn
    exact hlast
  · rw [List.concat_eq_append, ← List.cons_append, ← List.append_assoc] at h
    exact hnotes before n rest (List.append_inj' h rfl).1

/-- What is kept while the handles of a channel are used that had one handle at first. -/
structure Kept (actions : List (Nat × HandleUse)) (notes : List HandleNote) (s : SerialHandles) :
    Prop where
  noted : notes.map (fun n => (n.handle, n.use)) = actions
  /-- What a use comes to depends on whether any handle was closed before it. -/
  lawful : ∀ before n after, notes = before ++ n :: after →
    n.Lawful (before.any HandleNote.closes)
  shared : s.Shared (notes.any HandleNote.closes)
  count : s.handles.length = 1 + notes.countP HandleNote.makes

theorem Kept.step {actions : List (Nat × HandleUse)} {notes : List HandleNote} {a : Nat × HandleUse}
    {x : Noted HandleNote SerialHandles} (hs : s.Kept actions notes) (h : s.step a = some x) :
    x.value.Kept (actions ++ [a]) (notes ++ x.notes) := by
  obtain ⟨handle, hget, rfl⟩ := step_eq_some_iff.mp h
  have hmem := List.mem_of_getElem? hget
  have hflag := hs.shared.closed_eq hmem
  obtain ⟨hshared, hcount⟩ := act_leaves hs.shared hmem a.1 a.2
  refine ⟨?_, lawful_concat hs.lawful ⟨?_, ?_, noteOf_granted a.1 a.2⟩, ?_, ?_⟩
  · rw [List.map_append, hs.noted]
    rfl
  · intro hopen
    exact noteOf_served (hflag.trans hopen) a.1 a.2
  · intro hclosed
    exact noteOf_turnedAway (hflag.trans hclosed) a.1 a.2
  · rw [List.any_append, List.any_cons, List.any_nil, Bool.or_false]
    exact hshared
  · rw [List.countP_append, ← Nat.add_assoc, ← hs.count]
    exact hcount

theorem run_kept {p : SerialPort} {actions : List (Nat × HandleUse)}
    {x : Noted HandleNote SerialHandles} (h : (of (p.channel false)).run actions = some x) :
    x.value.Kept actions x.notes := by
  refine runWith_induction (motive := fun actions notes s => s.Kept actions notes) ?_ ?_ h
  · exact ⟨rfl, fun before n after hnil => absurd hnil (by simp), shared_of _, rfl⟩
  · intro actions notes s a x _ hs hstep
    exact hs.step hstep

/-! ## The law -/

/-- All handles see that one of them was closed, and go on seeing it. Each can be used in each way,
but reads and writes fail then. -/
structure ClosedForAll (actions : List (Nat × HandleUse)) (x : Noted HandleNote SerialHandles) :
    Prop extends x.value.Kept actions x.notes where
  seen : ∀ h ∈ x.value.handles, x.value.closed h = x.notes.any HandleNote.closes
  possible : ∀ number use,
    (x.value.step (number, use)).isSome = true ↔ number < x.value.handles.length

theorem a_close_is_for_all_handles (p : SerialPort) {actions : List (Nat × HandleUse)}
    {x : Noted HandleNote SerialHandles} (h : (of (p.channel false)).run actions = some x) :
    ClosedForAll actions x where
  toKept := run_kept h
  seen _ hmem := (run_kept h).shared.closed_eq hmem
  possible := step_isSome_iff

/-- A device that times out once before it has a byte. -/
def lateByte : SerialPort :=
  { feeds := [{ reading := .failed ⟨.timedOut, "late"⟩ }, { reading := .got [7] }] }

/-- The handle that is closed is a copy of a copy, with a port of its own. -/
def closedElsewhere : List (Nat × HandleUse) :=
  [(0, .clone none), (1, .clone (some {})), (0, .read 4), (2, .write [1]), (2, .close),
    (0, .read 4), (1, .write [2]), (1, .clone none), (3, .read 4), (3, .close)]

theorem a_close_is_for_all_handles_closed_elsewhere :
    ∃ x, (of (lateByte.channel false)).run closedElsewhere = some x ∧
      x.notes.map HandleNote.answer =
        [.done (.ok ()), .done (.ok ()), .read (some (.got [7])), .wrote (.ok 1), .done (.ok ()),
          .read (some (.failed SerialChannel.channelClosed)),
          .wrote (.error SerialChannel.channelClosed), .done (.ok ()),
          .read (some (.failed SerialChannel.channelClosed)), .done (.ok ())] ∧
      ClosedForAll closedElsewhere x :=
  ⟨_, rfl, rfl, a_close_is_for_all_handles lateByte rfl⟩

end SerialHandles

end LinkWatch
