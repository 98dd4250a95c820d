import LinkWatch.Proofs.Intake.Trace

/-! # What an intake makes of a whole source

The end of an intake is the first reading with which the source ends or fails, or at whose chunk
the consumer crashes. -/

namespace LinkWatch

/-! ## Where an intake ends -/

/-- Whether the intake ends with the reading, after it has handed on so many chunks. -/
def Final (room : Nat) (consumer : Consumer) (handed : Nat) (r : Reading) : Prop :=
  r.ends room = true ∨ (r.positive room = true ∧ consumer.crashesAt = some handed)

/-- The first of the readings with which the intake ends comes after those before it. -/
inductive EndsAt (room : Nat) (consumer : Consumer) : Nat → List Reading → Reading → Prop
  | now {handed : Nat} {last : Reading} : Final room consumer handed last →
    EndsAt room consumer handed [] last
  | later {handed : Nat} {r last : Reading} {before : List Reading} : r ≠ .crashed →
    ¬ Final room consumer handed r →
    EndsAt room consumer (handed + [r].countP (Reading.positive room)) before last →
    EndsAt room consumer handed (r :: before) last

namespace Intake

/-- An intake that has not ended fits what it has read, the last reading first. -/
structure Standing (i : Intake) (room : Nat) (consumer : Consumer) (earlier : List Reading)
    (handed : Nat) : Prop where
  room : i.buffer.capacity = room
  consumer : i.consumer = consumer
  handed : i.handed = handed
  shows : i.buffer.Shows (earlier.map Reading.written)
  goesOn : i.ended = none

variable {i : Intake} {room handed : Nat} {consumer : Consumer} {earlier : List Reading}
variable {r : Reading}

theorem standing_new {settings : DrainSettings} (h : settings.capacity ≤ largestBuffer)
    (consumer : Consumer) : (new settings consumer).Standing settings.capacity consumer [] 0 where
  room := rfl
  consumer := rfl
  handed := rfl
  shows := Buffer.shows_blank _
  goesOn := if_pos h

theorem Standing.portion (h : i.Standing room consumer earlier handed) (written : List UInt8)
    (claim : Option Nat) :
    i.portion written claim = (Reading.got written claim).portion room earlier := by
  have hcapacity : (i.buffer.write written).capacity = room := h.room
  unfold Intake.portion Reading.portion
  rw [(h.shows.write written).first, h.room, hcapacity]
  rfl

theorem Standing.write (h : i.Standing room consumer earlier handed) (written : List UInt8)
    (claim : Option Nat) :
    (i.buffer.write written).Shows ((Reading.got written claim :: earlier).map Reading.written) :=
  h.shows.write written

/-! ## One reading -/

theorem Standing.go_on (h : i.Standing room consumer earlier handed) (hr : r ≠ .crashed)
    (hlast : ¬ Final room consumer handed r) :
    (i.take r).notes.filter IntakeNote.outward =
        .asked room :: (r.portion? room earlier).toList.map .chunk ∧
      (i.take r).value.Standing room consumer (r :: earlier)
        (handed + [r].countP (Reading.positive room)) := by
  have hspec := i.take_spec r
  generalize (i.take r).notes = notes at hspec ⊢
  generalize (i.take r).value = j at hspec ⊢
  cases hspec with
  | crashed => exact absurd rfl hr
  | interrupted failure kind =>
    refine ⟨by simp [h.room, Reading.portion?, Reading.positive], ?_⟩
    exact ⟨h.room, h.consumer, by simp [h.handed, Reading.positive], h.shows, h.goesOn⟩
  | failed failure kind => exact absurd (Or.inl (by simp [Reading.ends, kind])) hlast
  | nothing written claim count =>
    rw [h.room] at count
    exact absurd (Or.inl (by simp [Reading.ends, count])) hlast
  | chunk written claim count sound =>
    rw [h.room] at count
    have hpositive : (Reading.got written claim).positive room = true := by
      simp [Reading.positive, count]
    refine ⟨by simp [h.room, Reading.portion?, hpositive, h.portion], ?_⟩
    exact ⟨h.room, h.consumer, by simp [h.handed, hpositive], h.write written claim, h.goesOn⟩
  | dropped written claim count crashes =>
    rw [h.room] at count
    rw [h.consumer, h.handed] at crashes
    exact absurd (Or.inr ⟨by simp [Reading.positive, count], crashes⟩) hlast

theorem Standing.last (h : i.Standing room consumer earlier handed)
    (hlast : Final room consumer handed r) :
    (i.take r).notes.filter IntakeNote.outward =
        .asked room :: (r.portion? room earlier).toList.map .chunk ++ [.disconnected] ∧
      (i.take r).value.ended = some (if consumer.crashesAtEnd then .crashed else .orderly) := by
  have hspec := i.take_spec r
  have hend : i.lastEnd = if consumer.crashesAtEnd then .crashed else .orderly := by
    rw [lastEnd, h.consumer]
  generalize (i.take r).notes = notes at hspec ⊢
  generalize (i.take r).value = j at hspec ⊢
  cases hspec with
  | crashed => simp [Final, Reading.ends, Reading.positive] at hlast
  | interrupted failure kind => simp [Final, Reading.ends, Reading.positive, kind] at hlast
  | failed failure kind =>
    refine ⟨?_, congrArg some hend⟩
    simp [List.filter_cons, h.room, Reading.portion?, Reading.positive]
  | nothing written claim count =>
    rw [h.room] at count
    refine ⟨?_, congrArg some hend⟩
    simp [List.filter_cons, h.room, Reading.portion?, Reading.positive, count]
  | chunk written claim count sound =>
    rw [h.room] at count
    rw [h.consumer, h.handed] at sound
    simp [Final, Reading.ends, count, sound] at hlast
  | dropped written claim count crashes =>
    rw [h.room] at count
    refine ⟨?_, congrArg some hend⟩
    simp [List.filter_cons, h.room, Reading.portion?, Reading.positive, count, h.portion]

theorem take_reports (hopen : i.ended = none) (hr : r ≠ .crashed) :
    (i.take r).notes.count .disconnected = if (i.take r).value.ended.isSome then 1 else 0 := by
  have hspec := i.take_spec r
  generalize (i.take r).notes = notes at hspec ⊢
  generalize (i.take r).value = j at hspec ⊢
  cases hspec with
  | crashed => exact absurd rfl hr
  | interrupted failure kind => simp [hopen]
  | failed failure kind => simp
  | nothing written claim count => simp
  | chunk written claim count sound => simp [hopen]
  | dropped written claim count crashes => simp

theorem take_ends (h : r.ends i.buffer.capacity = true) : (i.take r).value.ended ≠ none := by
  have hspec := i.take_spec r
  generalize (i.take r).notes = notes at hspec
  generalize (i.take r).value = j at hspec ⊢
  cases hspec with
  | interrupted failure kind => simp [Reading.ends, kind] at h
  | chunk written claim count sound => simp [Reading.ends, count] at h
  | crashed | failed | nothing | dropped => simp

theorem take_capacity (i : Intake) (r : Reading) :
    (i.take r).value.buffer.capacity = i.buffer.capacity := by
  have hspec := i.take_spec r
  generalize (i.take r).notes = notes at hspec
  generalize (i.take r).value = j at hspec ⊢
  cases hspec with
  | crashed | interrupted | failed | nothing | chunk | dropped => rfl

theorem take_chunks (i : Intake) (r : Reading) :
    (i.take r).notes.countP IntakeNote.isChunk =
      [r].countP (Reading.positive i.buffer.capacity) := by
  have hspec := i.take_spec r
  generalize (i.take r).notes = notes at hspec ⊢
  generalize (i.take r).value = j at hspec
  cases hspec with
  | crashed | interrupted | failed => simp [Reading.positive, IntakeNote.isChunk]
  | nothing written claim count => simp [Reading.positive, count, IntakeNote.isChunk]
  | chunk written claim count sound => simp [Reading.positive, count, IntakeNote.isChunk]
  | dropped written claim count crashes =>
    simp [Reading.positive, count, IntakeNote.isChunk, List.countP_cons]

/-! ## All readings -/

theorem drain_ended (h : i.ended ≠ none) (rs : List Reading) : i.drain rs = pure i := by
  cases rs with
  | nil => rfl
  | cons r rs => exact if_pos (Option.isSome_iff_ne_none.mpr h)

theorem drain_cons (h : i.ended = none) (r : Reading) (rs : List Reading) :
    i.drain (r :: rs) =
      ⟨((i.take r).value.drain rs).value,
        (i.take r).notes ++ ((i.take r).value.drain rs).notes⟩ := by
  rw [drain, h]
  rfl

theorem drain_reports {rs : List Reading} (hopen : i.ended = none) (hrs : ∀ r ∈ rs, r ≠ .crashed) :
    (i.drain rs).notes.count .disconnected =
      if (i.drain rs).value.ended.isSome then 1 else 0 := by
  induction rs generalizing i with
  | nil => simp [drain, hopen]
  | cons r rs ih =>
    have hhead := take_reports hopen (hrs r List.mem_cons_self)
    rw [drain_cons hopen, List.count_append, hhead]
    by_cases hnext : (i.take r).value.ended = none
    · rw [ih hnext fun q hq => hrs q (List.mem_cons_of_mem r hq), hnext]
      simp
    · rw [drain_ended hnext]
      simp

theorem drain_ends {rs : List Reading} (hr : r ∈ rs) (hends : r.ends i.buffer.capacity = true) :
    (i.drain rs).value.ended ≠ none := by
  induction rs generalizing i with
  | nil => exact absurd hr List.not_mem_nil
  | cons q rs ih =>
    by_cases hopen : i.ended = none
    · rw [drain_cons hopen]
      by_cases hnext : (i.take q).value.ended = none
      · rcases List.mem_cons.mp hr with rfl | hr
        · exact absurd hnext (take_ends hends)
        · exact ih hr (by rw [take_capacity, hends])
      · rw [drain_ended hnext]
        exact hnext
    · rw [drain_ended hopen]
      exact hopen

theorem Standing.drain {before : List Reading} {last : Reading}
    (h : i.Standing room consumer earlier handed) (hends : EndsAt room consumer handed before last)
    (rest : List Reading) :
    (i.drain (before ++ last :: rest)).notes.filter IntakeNote.outward =
        trace room earlier (before ++ [last]) ++ [.disconnected] ∧
      (i.drain (before ++ last :: rest)).value.ended =
        some (if consumer.crashesAtEnd then .crashed else .orderly) := by
  induction hends generalizing i earlier with
  | now hlast =>
    obtain ⟨hnotes, hended⟩ := h.last hlast
    rw [List.nil_append, drain_cons h.goesOn, drain_ended (by simp [hended])]
    refine ⟨?_, hended⟩
    simp [hnotes, trace]
  | later hr hlast _ ih =>
    obtain ⟨hnotes, hnext⟩ := h.go_on hr hlast
    obtain ⟨hrest, hended⟩ := ih hnext
    rw [List.cons_append, drain_cons h.goesOn]
    refine ⟨?_, hended⟩
    rw [List.filter_append, hnotes, hrest]
    simp [trace]

theorem Standing.unreported (h : i.Standing room consumer earlier handed) {rs : List Reading}
    (hnone : ∀ before last rest, rs = before ++ last :: rest →
      ¬ EndsAt room consumer handed before last) :
    .disconnected ∉ (i.drain rs).notes := by
  induction rs generalizing i earlier handed with
  | nil => exact List.not_mem_nil
  | cons r rs ih =>
    rw [drain_cons h.goesOn]
    have hlast : ¬ Final room consumer handed r := fun hr => hnone [] r rs rfl (.now hr)
    by_cases hr : r = .crashed
    · subst hr
      rw [drain_ended (by simp [take])]
      simp [take, note]
    · obtain ⟨hnotes, hnext⟩ := h.go_on hr hlast
      have hrest := ih hnext fun before last rest hrs hends =>
        hnone (r :: before) last rest (by rw [hrs, List.cons_append]) (.later hr hlast hends)
      intro hmem
      rcases List.mem_append.mp hmem with hmem | hmem
      · have hout := List.mem_filter.mpr
          ⟨hmem, show IntakeNote.disconnected.outward = true from rfl⟩
        rw [hnotes] at hout
        simp at hout
      · exact hrest hmem

end Intake

/-! ## The law -/

/-- An intake meets its end at the last of its readings. One whose buffer cannot be made reads
nothing, and so meets no end. -/
structure MeetsEnd (settings : DrainSettings) (consumer : Consumer) (before : List Reading)
    (last : Reading) : Prop where
  buffered : settings.capacity ≤ largestBuffer
  ends : EndsAt settings.capacity consumer 0 before last

/-- What is to be seen of an intake that has met its end at the last of the readings. -/
structure Drained (settings : DrainSettings) (consumer : Consumer) (reads : List Reading)
    (x : Noted IntakeNote Intake) : Prop where
  room : settings.capacity = if settings.bufferSize = 0 then 1 else settings.bufferSize.toNat
  /-- Each reading is made with the whole buffer, and what it brings is handed on before the next.
  The end is reported after that, and then nothing is read. -/
  trace : x.notes.filter IntakeNote.outward =
    LinkWatch.trace settings.capacity [] reads ++ [.disconnected]
  readings : readCount x.notes = reads.length
  callbacks : LinkWatch.callbacks x.notes =
    (portions settings.capacity [] reads).map .data ++ [.disconnected]
  number : (portions settings.capacity [] reads).length =
    reads.countP (Reading.positive settings.capacity)
  /-- After an interrupted reading there is another one. -/
  retried : ∀ before failure after, reads = before ++ .failed failure :: after →
    failure.kind = .interrupted → after ≠ []
  /-- What fits into the buffer arrives as it was written, whatever was written before. -/
  faithful : ∀ before written claim after, reads = before ++ .got written claim :: after →
    written ≠ [] → written.length ≤ settings.capacity →
    reported settings.capacity written claim = written.length →
    (portions settings.capacity [] reads)[before.countP (Reading.positive settings.capacity)]? =
      some written
  /-- Who claims too much is believed as far as the buffer goes. -/
  bounded : ∀ before written claim after, reads = before ++ .got written (some claim) :: after →
    settings.capacity < claim →
    ∃ chunk, (portions settings.capacity [] reads)[before.countP
      (Reading.positive settings.capacity)]? = some chunk ∧ chunk.length = settings.capacity
  /-- Nothing but the report of the end can make the intake crash. -/
  ended : x.value.ended = some (if consumer.crashesAtEnd then .crashed else .orderly)

theorem capacity_eq (settings : DrainSettings) :
    settings.capacity = if settings.bufferSize = 0 then 1 else settings.bufferSize.toNat := by
  have hzero : settings.bufferSize = 0 ↔ settings.bufferSize.toNat = 0 := by
    rw [← UInt64.toNat_inj, UInt64.toNat_zero]
  unfold DrainSettings.capacity
  by_cases h : settings.bufferSize = 0
  · rw [if_pos h, hzero.mp h]
    rfl
  · have hpositive : settings.bufferSize.toNat ≠ 0 := fun hn => h (hzero.mpr hn)
    rw [if_neg h]
    omega

theorem EndsAt.final {room handed : Nat} {consumer : Consumer} {before : List Reading}
    {last : Reading} (h : EndsAt room consumer handed before last) :
    ∃ n, Final room consumer n last := by
  induction h with
  | now hlast => exact ⟨_, hlast⟩
  | later _ _ _ ih => exact ih

theorem not_final_interrupted {room handed : Nat} {consumer : Consumer} {failure : IoFailure}
    (h : failure.kind = .interrupted) : ¬ Final room consumer handed (.failed failure) := by
  simp [Final, Reading.ends, Reading.positive, h]

/-- The same record comes first in all intakes. -/
theorem intake_eq (settings : DrainSettings) (consumer : Consumer) (readings : List Reading) :
    intake settings consumer readings =
      ⟨((Intake.new settings consumer).drain readings).value,
        .logged ⟨.info, "Running stream reader loop"⟩ ::
          ((Intake.new settings consumer).drain readings).notes⟩ := rfl

theorem MeetsEnd.drained {settings : DrainSettings} {consumer : Consumer} {before : List Reading}
    {last : Reading} (h : MeetsEnd settings consumer before last) (rest : List Reading) :
    Drained settings consumer (before ++ [last])
      (intake settings consumer (before ++ last :: rest)) := by
  obtain ⟨htrace, hended⟩ := (Intake.standing_new h.buffered consumer).drain h.ends rest
  have hseen : (intake settings consumer (before ++ last :: rest)).notes.filter
      IntakeNote.outward = trace settings.capacity [] (before ++ [last]) ++ [.disconnected] := by
    rw [← htrace, intake_eq]
    rfl
  refine ⟨capacity_eq settings, hseen, ?_, ?_, length_portions _ _ _, ?_, ?_, ?_, ?_⟩
  · rw [← readCount_outward, hseen]
    unfold readCount
    rw [List.countP_append, ← readCount, readCount_trace]
    simp
  · rw [← callbacks_outward, hseen]
    unfold callbacks
    rw [List.filterMap_append, ← callbacks, callbacks_trace]
    rfl
  · intro earlier failure after hreads hkind hafter
    subst hafter
    obtain ⟨-, hlast⟩ := List.append_inj' hreads rfl
    obtain ⟨n, hfinal⟩ := h.ends.final
    rw [(List.cons.inj hlast).1] at hfinal
    exact not_final_interrupted hkind hfinal
  · intro earlier written claim after hreads hne hfits hclaim
    have hpositive : (Reading.got written claim).positive settings.capacity = true := by
      simpa [Reading.positive, hclaim] using hne
    rw [hreads, getElem?_portions hpositive, portion_of_fits hclaim hfits]
  · intro earlier written claim after hreads hclaim
    have hpositive : (Reading.got written (some claim)).positive settings.capacity = true := by
      rw [Reading.positive, reported, Option.getD_some, decide_eq_true_eq]
      omega
    refine ⟨_, by rw [hreads, getElem?_portions hpositive], ?_⟩
    rw [length_portion, Reading.brings, reported, Option.getD_some]
    omega
  · rw [intake_eq]
    exact hended

theorem unreported_of_no_end {settings : DrainSettings} {consumer : Consumer}
    {readings : List Reading} (h : ∀ before last rest, readings = before ++ last :: rest →
      ¬ MeetsEnd settings consumer before last) :
    .disconnected ∉ (intake settings consumer readings).notes := by
  rw [intake_eq]
  by_cases hbuffer : settings.capacity ≤ largestBuffer
  · have hstanding := Intake.standing_new hbuffer consumer
    have hnone := hstanding.unreported fun before last rest hreadings hends =>
      h before last rest hreadings ⟨hbuffer, hends⟩
    simpa using hnone
  · have hended : (Intake.new settings consumer).ended ≠ none := by
      simp [Intake.new, hbuffer]
    rw [Intake.drain_ended hended]
    simp

theorem the_end_is_reported_once (settings : DrainSettings) (consumer : Consumer)
    (readings : List Reading) :
    (∀ before last rest, readings = before ++ last :: rest →
      MeetsEnd settings consumer before last →
      Drained settings consumer (before ++ [last]) (intake settings consumer readings)) ∧
    (.disconnected ∈ (intake settings consumer readings).notes ↔
      ∃ before last rest, readings = before ++ last :: rest ∧
        MeetsEnd settings consumer before last) := by
  have hdrained : ∀ before last rest, readings = before ++ last :: rest →
      MeetsEnd settings consumer before last →
      Drained settings consumer (before ++ [last]) (intake settings consumer readings) := by
    rintro before last rest rfl hends
    exact hends.drained rest
  refine ⟨hdrained, ?_, ?_⟩
  · intro hreported
    by_contra hnone
    push Not at hnone
    exact unreported_of_no_end hnone hreported
  · rintro ⟨before, last, rest, hreadings, hends⟩
    have hmem : .disconnected ∈
        (intake settings consumer readings).notes.filter IntakeNote.outward := by
      rw [(hdrained before last rest hreadings hends).trace]
      simp
    exact (List.mem_filter.mp hmem).1

theorem the_end_is_reported_once_after_a_crash :
    Drained { bufferSize := 4 } { crashesAt := some 2 }
      [.got [1, 2, 3, 4], .failed ⟨.interrupted, ""⟩, .got [9], .got [7] (some 10)]
      (intake { bufferSize := 4 } { crashesAt := some 2 }
        [.got [1, 2, 3, 4], .failed ⟨.interrupted, ""⟩, .got [9], .got [7] (some 10), .got [5]]) ∧
    callbacks (intake { bufferSize := 4 } { crashesAt := some 2 }
        [.got [1, 2, 3, 4], .failed ⟨.interrupted, ""⟩, .got [9], .got [7] (some 10),
          .got [5]]).notes =
      [.data [1, 2, 3, 4], .data [9], .data [7, 2, 3, 4], .disconnected] := by
  refine ⟨(the_end_is_reported_once _ _ _).1
    [.got [1, 2, 3, 4], .failed ⟨.interrupted, ""⟩, .got [9]] (.got [7] (some 10)) [.got [5]] rfl
    ⟨by decide, ?_⟩, by decide⟩
  refine .later (by simp) ?_ (.later (by simp) ?_ (.later (by simp) ?_ (.now (Or.inr ?_))))
  · simp [Final]
    decide
  · simp [Final]
    decide
  · simp [Final]
    decide
  · decide

end LinkWatch
