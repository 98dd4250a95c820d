import LinkWatch.Proofs.Intake.Drain

/-! # The bytes of a stream, whatever the size of the buffer

A source hands out a stream in pieces, as it likes and as far as there is room. What is handed on is
the stream, in other pieces for another buffer. -/

namespace LinkWatch

/-! ## Sources -/

/-- The readings hand out the bytes in their order, some of them at a time and never more than there
is room for, before the source ends or fails. Behind a piece the source may leave anything. -/
inductive HandsOut (room : Nat) : List UInt8 → List Reading → Prop
  | ended {last : Reading} {rest : List Reading} (ends : last.ends room = true) :
    HandsOut room [] (last :: rest)
  | interrupted {failure : IoFailure} {bytes : List UInt8} {rest : List Reading}
    (kind : failure.kind = .interrupted) (more : HandsOut room bytes rest) :
    HandsOut room bytes (.failed failure :: rest)
  | piece {piece behind bytes : List UInt8} {claim : Option Nat} {rest : List Reading}
    (nonempty : piece ≠ []) (fits : piece.length ≤ room)
    (count : reported room (piece ++ behind) claim = piece.length)
    (more : HandsOut room bytes rest) :
    HandsOut room (piece ++ bytes) (.got (piece ++ behind) claim :: rest)

/-! ## Chunks -/

@[simp] def IntakeNote.bytes? : IntakeNote → Option (List UInt8)
  | .chunk bytes => some bytes
  | .asked _ | .disconnected | .logged _ => none

/-- What the consumer is given, piece by piece. -/
def chunks (notes : List IntakeNote) : List (List UInt8) := notes.filterMap IntakeNote.bytes?

theorem chunks_append (before after : List IntakeNote) :
    chunks (before ++ after) = chunks before ++ chunks after :=
  List.filterMap_append

theorem chunks_outward (notes : List IntakeNote) :
    chunks (notes.filter IntakeNote.outward) = chunks notes := by
  unfold chunks
  rw [List.filterMap_filter]
  congr 1
  funext n
  cases n with
  | asked | chunk | disconnected | logged => rfl

namespace Intake

variable {i : Intake} {room handed : Nat} {consumer : Consumer} {earlier : List Reading}
variable {r : Reading}

theorem Standing.hands_on (h : i.Standing room consumer earlier handed) (hr : r ≠ .crashed) :
    chunks (i.take r).notes = (r.portion? room earlier).toList := by
  rw [← chunks_outward]
  by_cases hlast : Final room consumer handed r
  · rw [(h.last hlast).1]
    cases r.portion? room earlier with
    | none | some bytes => rfl
  · rw [(h.go_on hr hlast).1]
    cases r.portion? room earlier with
    | none | some bytes => rfl

/-- What comes of a source that hands out the bytes: all of them, unless the consumer crashes. -/
structure Streams (room : Nat) (consumer : Consumer) (bytes : List UInt8)
    (chunks : List (List UInt8)) : Prop where
  whole : consumer.crashesAt = none → chunks.flatten = bytes
  inOrder : chunks.flatten <+: bytes
  pieces : ∀ chunk ∈ chunks, chunk ≠ [] ∧ chunk.length ≤ room

theorem ne_crashed_of_ends (h : r.ends room = true) : r ≠ .crashed := by
  rintro rfl
  exact absurd h (by simp [Reading.ends])

theorem portion?_of_ends (h : r.ends room = true) (earlier : List Reading) :
    r.portion? room earlier = none := by
  cases r with
  | crashed | failed => rfl
  | got written claim =>
    have hnothing : reported room written claim = 0 := by simpa [Reading.ends] using h
    simp [Reading.portion?, Reading.positive, hnothing]

theorem portion?_of_leading {piece behind : List UInt8} {claim : Option Nat} (hsome : piece ≠ [])
    (hcount : reported room (piece ++ behind) claim = piece.length) (hfits : piece.length ≤ room)
    (earlier : List Reading) :
    (Reading.got (piece ++ behind) claim).portion? room earlier = some piece := by
  have hpositive : (Reading.got (piece ++ behind) claim).positive room = true := by
    simpa [Reading.positive, hcount] using hsome
  rw [Reading.portion?, if_pos hpositive, portion_of_leading hcount hfits]

theorem streams_nil (room : Nat) (consumer : Consumer) : Streams room consumer [] [] where
  whole _ := rfl
  inOrder := List.prefix_refl []
  pieces _ hmem := absurd hmem List.not_mem_nil

theorem Streams.cons {bytes piece : List UInt8} {chunks : List (List UInt8)}
    (h : Streams room consumer bytes chunks) (hsome : piece ≠ []) (hfits : piece.length ≤ room) :
    Streams room consumer (piece ++ bytes) (piece :: chunks) where
  whole hsound := congrArg (piece ++ ·) (h.whole hsound)
  inOrder := (List.prefix_append_right_inj piece).mpr h.inOrder
  pieces := List.forall_mem_cons.mpr ⟨⟨hsome, hfits⟩, h.pieces⟩

theorem streams_dropped {piece : List UInt8} (hcrashes : consumer.crashesAt ≠ none)
    (hsome : piece ≠ []) (hfits : piece.length ≤ room) (bytes : List UInt8) :
    Streams room consumer (piece ++ bytes) [piece] where
  whole hsound := absurd hsound hcrashes
  inOrder := ⟨bytes, by simp⟩
  pieces := List.forall_mem_singleton.mpr ⟨hsome, hfits⟩

theorem Standing.streams (h : i.Standing room consumer earlier handed) {bytes : List UInt8}
    {rs : List Reading} (hsource : HandsOut room bytes rs) :
    Streams room consumer bytes (chunks (i.drain rs).notes) := by
  induction hsource generalizing i earlier handed with
  | @ended last rest ends =>
    have hended := (h.last (Or.inl ends)).2
    have hnothing := h.hands_on (ne_crashed_of_ends ends)
    rw [portion?_of_ends ends] at hnothing
    rw [drain_cons h.goesOn, chunks_append, drain_ended (by simp [hended]), hnothing]
    exact streams_nil room consumer
  | @interrupted failure bytes rest kind more ih =>
    have hnext := (h.go_on (by simp) (not_final_interrupted kind)).2
    have hnothing : chunks (i.take (.failed failure)).notes = [] := h.hands_on (by simp)
    rw [drain_cons h.goesOn, chunks_append, hnothing, List.nil_append]
    exact ih hnext
  | @piece piece behind bytes claim rest nonempty fits count more ih =>
    have hpiece := h.hands_on (r := .got (piece ++ behind) claim) (by simp)
    rw [portion?_of_leading nonempty count fits] at hpiece
    rw [drain_cons h.goesOn, chunks_append, hpiece]
    by_cases hlast : Final room consumer handed (.got (piece ++ behind) claim)
    · have hended := (h.last hlast).2
      have hcrashes : consumer.crashesAt ≠ none := by
        rcases hlast with hends | ⟨-, hcrashes⟩
        · exact absurd hends (by simp [Reading.ends, count, nonempty])
        · simp [hcrashes]
      rw [drain_ended (by simp [hended])]
      exact streams_dropped hcrashes nonempty fits bytes
    · exact (ih (h.go_on (by simp) hlast).2).cons nonempty fits

end Intake

/-! ## The law -/

/-- What comes of a source that hands out the bytes. A buffer that cannot be made takes nothing. -/
structure Streamed (settings : DrainSettings) (consumer : Consumer) (bytes : List UInt8)
    (notes : List IntakeNote) : Prop where
  whole : settings.capacity ≤ largestBuffer → consumer.crashesAt = none →
    (chunks notes).flatten = bytes
  inOrder : (chunks notes).flatten <+: bytes
  pieces : ∀ chunk ∈ chunks notes, chunk ≠ [] ∧ chunk.length ≤ max settings.bufferSize.toNat 1
  unread : largestBuffer < settings.capacity → readCount notes = 0 ∧ chunks notes = []

theorem HandsOut.streamed {settings : DrainSettings} {bytes : List UInt8}
    {readings : List Reading} (h : HandsOut settings.capacity bytes readings)
    (consumer : Consumer) :
    Streamed settings consumer bytes (intake settings consumer readings).notes := by
  rw [intake_eq]
  by_cases hbuffer : settings.capacity ≤ largestBuffer
  · have hstreams := (Intake.standing_new hbuffer consumer).streams h
    refine ⟨fun _ => hstreams.whole, hstreams.inOrder, fun chunk hmem => ?_,
      fun hlarge => absurd hbuffer (Nat.not_le_of_lt hlarge)⟩
    rw [Nat.max_comm]
    exact hstreams.pieces chunk hmem
  · have hended : (Intake.new settings consumer).ended ≠ none := by
      simp [Intake.new, hbuffer]
    rw [Intake.drain_ended hended]
    exact ⟨fun hfits => absurd hfits hbuffer, List.nil_prefix, by simp [chunks],
      fun _ => ⟨rfl, rfl⟩⟩

theorem a_stream_is_the_same_in_other_pieces {bytes : List UInt8} {first second : DrainSettings}
    {readings readings' : List Reading} (h : HandsOut first.capacity bytes readings)
    (h' : HandsOut second.capacity bytes readings') (consumer : Consumer) :
    Streamed first consumer bytes (intake first consumer readings).notes ∧
      Streamed second consumer bytes (intake second consumer readings').notes ∧
      (first.capacity ≤ largestBuffer → second.capacity ≤ largestBuffer →
        consumer.crashesAt = none →
          (chunks (intake first consumer readings).notes).flatten =
            (chunks (intake second consumer readings').notes).flatten) := by
  have hfirst := h.streamed consumer
  have hsecond := h'.streamed consumer
  refine ⟨hfirst, hsecond, fun hbuffer hbuffer' hsound => ?_⟩
  rw [hfirst.whole hbuffer hsound, hsecond.whole hbuffer' hsound]

/-- One byte at a time, since there is no room for more. -/
def singly : List Reading := [.got [7], .got [8], .got [9], .endOfInput]

/-- Two bytes, and then one with something behind it. -/
def inTwoPieces : List Reading :=
  [.got [7, 8], .failed ⟨.interrupted, ""⟩, .got [9, 1, 1] (some 1), .failed ⟨.other, "gone"⟩]

theorem handsOut_singly : HandsOut 1 [7, 8, 9] singly :=
  @HandsOut.piece 1 [7] [] [8, 9] none _ (by decide) (by decide) rfl <|
  @HandsOut.piece 1 [8] [] [9] none _ (by decide) (by decide) rfl <|
  @HandsOut.piece 1 [9] [] [] none _ (by decide) (by decide) rfl <|
  .ended rfl

theorem handsOut_inTwoPieces : HandsOut 4 [7, 8, 9] inTwoPieces :=
  @HandsOut.piece 4 [7, 8] [] [9] none _ (by decide) (by decide) rfl <|
  .interrupted rfl <|
  @HandsOut.piece 4 [9] [1, 1] [] (some 1) _ (by decide) (by decide) rfl <|
  .ended rfl

theorem a_stream_is_the_same_in_other_pieces_without_room :
    chunks (intake { bufferSize := 0 } {} singly).notes = [[7], [8], [9]] ∧
      chunks (intake { bufferSize := 4 } {} inTwoPieces).notes = [[7, 8], [9]] ∧
      (chunks (intake { bufferSize := 0 } {} singly).notes).flatten =
        (chunks (intake { bufferSize := 4 } {} inTwoPieces).notes).flatten := by
  obtain ⟨-, -, hsame⟩ := @a_stream_is_the_same_in_other_pieces [7, 8, 9] { bufferSize := 0 }
    { bufferSize := 4 } _ _ handsOut_singly handsOut_inTwoPieces {}
  exact ⟨by decide, by decide, hsame (by decide) (by decide) rfl⟩

def oneByte : List Reading := [.got [1], .endOfInput]

theorem handsOut_oneByte {room : Nat} (h : 0 < room) : HandsOut room [1] oneByte :=
  @HandsOut.piece room [1] [] [] none _ (by decide) h (Nat.min_eq_left h) (.ended rfl)

/-- No buffer has the largest size that can be asked for. The byte arrives in the smallest one. -/
theorem a_stream_is_lost_without_a_buffer :
    HandsOut (DrainSettings.capacity { bufferSize := 0xffffffffffffffff }) [1] oneByte ∧
      (chunks (intake { bufferSize := 0xffffffffffffffff } {} oneByte).notes).flatten ≠ [1] ∧
      HandsOut (DrainSettings.capacity { bufferSize := 0 }) [1] oneByte ∧
      (chunks (intake { bufferSize := 0 } {} oneByte).notes).flatten = [1] :=
  ⟨handsOut_oneByte (by decide), by decide, handsOut_oneByte (by decide), by decide⟩

end LinkWatch
