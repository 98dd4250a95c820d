import LinkWatch.Proofs.Scanner.Announcements
import LinkWatch.Proofs.Scanner.LifeCycle

/-! # Hardware that does not change is announced in the first two cycles, and never again -/

namespace LinkWatch

theorem Inventory.isEmpty_iff {i : Inventory} : i.isEmpty = true ↔ i = .empty := by
  cases i with
  | mk listed dfu stLink canAdapter =>
    simp only [isEmpty, empty, Inventory.mk.injEq, Bool.and_eq_true, Bool.not_eq_true',
      List.isEmpty_iff]
    tauto

/-! ## Quick and full surveys -/

/-- All that the one has found, the other has found as well, in the same order. -/
structure Inventory.Within (quick full : Inventory) : Prop where
  listed : quick.listed.Sublist full.listed
  dfu : quick.dfu = true → full.dfu = true
  stLink : quick.stLink = true → full.stLink = true
  canAdapter : quick.canAdapter = true → full.canAdapter = true

theorem listing_sublist (settings : ScanSettings) (devices : List String) (extras : Extras) :
    (listing settings devices {}).Sublist (listing settings devices extras) := by
  unfold listing
  -- What only a full survey finds stands between the devices and the last identifier.
  apply List.Sublist.append_right
  simp only [List.append_nil, if_neg Bool.false_ne_true]
  rw [List.append_assoc _ extras.simulators]
  exact List.sublist_append_left _ _

theorem quick_within_full (settings : ScanSettings) (answers : Answers) :
    (survey settings false answers).value.Within (survey settings true answers).value := by
  obtain ⟨hdfu, hstLink, hcanAdapter⟩ := survey_flags settings false answers
  refine ⟨?_, by simp [hdfu], by simp [hstLink], by simp [hcanAdapter]⟩
  rw [survey_listed, survey_listed]
  exact listing_sublist settings _ _

namespace Scanner

variable {settings : ScanSettings} {answers : Answers} {actions : List Action}
variable {notes more : List Note} {s t : Scanner} {a : Action}

/-! ## Audiences -/

/-- Whenever a cycle has copied the list of listeners, there was somebody in it. -/
def History.Attended (h : History) : Prop := ∀ c ∈ h.cycles, c.audience ≠ some []

theorem History.Attended.onLast {h : History} {f : Cycle → Cycle} (hattended : h.Attended)
    (hf : ∀ c, c.audience ≠ some [] → (f c).audience ≠ some []) : (h.onLast f).Attended := by
  unfold History.onLast Attended at *
  cases hcycles : h.cycles with
  | nil => simp
  | cons c older =>
    rw [hcycles] at hattended
    intro d hd
    rcases List.mem_cons.mp hd with rfl | hd
    · exact hf c (hattended c List.mem_cons_self)
    · exact hattended d (List.mem_cons_of_mem c hd)

theorem History.Attended.add {h : History} {n : Note} (hattended : h.Attended)
    (hn : ∀ ls, n = .copied ls → h.registered ≠ []) : (h.add n).Attended := by
  cases n with
  | held found =>
    intro c hc
    rcases List.mem_cons.mp hc with rfl | hc
    · simp
    · exact hattended c hc
  | copied ls => exact hattended.onLast fun c _ => by simpa using hn ls rfl
  | called | rests => exact hattended.onLast fun c hc => hc
  | _ => exact hattended

theorem History.Attended.foldl {h : History} (hattended : h.Attended)
    (hno : ∀ ls, .copied ls ∉ more) : (more.foldl History.add h).Attended := by
  induction more generalizing h with
  | nil => exact hattended
  | cons n more ih =>
    refine ih (hattended.add fun ls hn => ?_) fun ls hmem => hno ls (List.mem_cons_of_mem n hmem)
    exact absurd (hn ▸ List.mem_cons_self) (hno ls)

theorem Step.attended (h : Step s a more t) (horderly : Orderly s)
    (hregistered : (history notes).registered = s.listeners)
    (hattended : (history notes).Attended) : (history (notes ++ more)).Attended := by
  rw [history_append]
  cases h with
  | copy found worker =>
    refine History.Attended.add (n := .copied s.listeners) hattended fun ls _ hnobody => ?_
    have habsent := (horderly.unheard (hregistered.symm.trans hnobody)).2
    exact absurd (worker.symm.trans habsent) (by simp)
  | _ => exact hattended.foldl (by simp [surveyNotes])

theorem run_attended {x : Noted Note Scanner} (h : (new settings).run actions = some x) :
    (history x.notes).Attended := by
  refine runWith_induction (motive := fun _ notes _ => (history notes).Attended) ?_ ?_ h
  · intro c hc
    exact absurd hc List.not_mem_nil
  · intro actions notes s a x hrun hattended hx
    exact (step_of_eq hx).attended (run_orderly hrun) (run_told hrun).registered hattended

/-! ## What steady answers lead to -/

/-- What is held after so many cycles. -/
def heldAfter (settings : ScanSettings) (answers : Answers) : Nat → Inventory
  | 0 => .empty
  | n + 1 => (survey settings (n != 0) answers).value

theorem heldAfter_full {n : Nat} (h : 2 ≤ n) :
    heldAfter settings answers n = (survey settings true answers).value := by
  match n, h with
  | n + 2, _ => rfl

variable {x : Noted Note Scanner} {newer older : List Cycle} {c : Cycle}

theorem found_steady (h : (new settings).run actions = some x)
    (hsteady : ∀ b ∈ actions.filterMap answers?, b = answers)
    (hcycles : (history x.notes).cycles = newer ++ c :: older) :
    c.found = heldAfter settings answers (older.length + 1) := by
  have hplace : ((history x.notes).cycles.reverse.map Cycle.found)[older.length]? =
      some c.found := by
    rw [hcycles]
    simp
  rw [(run_told h).surveyed, surveys, List.getElem?_mapIdx, Option.map_eq_some_iff] at hplace
  obtain ⟨b, hb, hfound⟩ := hplace
  rw [← hfound, hsteady b (List.mem_of_getElem? hb)]
  rfl

theorem latest_steady (h : (new settings).run actions = some x)
    (hsteady : ∀ b ∈ actions.filterMap answers?, b = answers)
    (hcycles : (history x.notes).cycles = newer ++ older) :
    latest older = heldAfter settings answers older.length := by
  cases older with
  | nil => rfl
  | cons c older => exact found_steady h hsteady hcycles

/-! ## The law -/

/-- A whole cycle with news hands them to the first listener, once and before the others. A cycle
without news calls nobody. -/
structure Cycle.Tells (c : Cycle) (first : Listener) (others : List Listener)
    (news : Prop) : Prop where
  heard : news → c.rested = true →
    ∃ called, called <+: others ∧ c.calls = (first, c.found) :: called.map (·, c.found)
  quiet : ¬ news → c.calls = []

theorem tells_of_run {first : Listener} {others : List Listener}
    (h : (new settings).run actions = some x) (hfirst : registered actions = first :: others)
    (hcycles : (history x.notes).cycles = newer ++ c :: older) :
    c.Tells first others (c.found ≠ latest older) := by
  have htold := run_told h
  have hmem : c ∈ (history x.notes).cycles := by
    rw [hcycles]
    exact List.mem_append_right _ List.mem_cons_self
  constructor
  · intro hnews hrested
    obtain ⟨audience, haudience, hcalls⟩ :=
      ((htold.position.rested hcycles).1 hrested).heard hnews
    have hprefix : audience <+: first :: others := by
      rw [← hfirst, ← (run_roster h).listeners, ← htold.registered]
      exact htold.order c hmem audience haudience
    rcases List.prefix_cons_iff.mp hprefix with rfl | ⟨called, rfl, hcalled⟩
    · exact absurd haudience (run_attended h c hmem)
    · exact ⟨called, hcalled, hcalls⟩
  · intro hnone
    exact (htold.position.fair hcycles).quiet (not_not.mp hnone)

theorem tells_steady {first : Listener} {others : List Listener}
    (h : (new settings).run actions = some x) (hfirst : registered actions = first :: others)
    (hsteady : ∀ b ∈ actions.filterMap answers?, b = answers)
    (hcycles : (history x.notes).cycles = newer ++ c :: older) :
    c.found = heldAfter settings answers (older.length + 1) ∧
      c.Tells first others
        (heldAfter settings answers (older.length + 1) ≠
          heldAfter settings answers older.length) := by
  have hfound := found_steady h hsteady hcycles
  have hbefore : latest older = heldAfter settings answers older.length :=
    latest_steady h hsteady (hcycles.trans (List.append_cons newer c older))
  rw [← hfound, ← hbefore]
  exact ⟨rfl, tells_of_run h hfirst hcycles⟩

/-- The first cycle announces what a quick survey finds, the second one what a full survey finds
beyond that, and no later one announces anything. -/
structure GoesQuiet (settings : ScanSettings) (answers : Answers) (first : Listener)
    (others : List Listener) (x : Noted Note Scanner) : Prop where
  calls : x.notes.filterMap called? = (history x.notes).cycles.reverse.flatMap Cycle.calls
  /-- Only the last cycle may still be under way. -/
  whole : ∀ newer c older, (history x.notes).cycles = newer ++ c :: older → newer ≠ [] →
    c.rested = true
  one : ∀ newer c, (history x.notes).cycles = newer ++ [c] →
    c.found = (survey settings false answers).value ∧
      c.Tells first others ((survey settings false answers).value.isEmpty = false)
  two : ∀ newer c earlier, (history x.notes).cycles = newer ++ [c, earlier] →
    c.found = (survey settings true answers).value ∧
      c.Tells first others
        ((survey settings true answers).value ≠ (survey settings false answers).value)
  later : ∀ newer c older, (history x.notes).cycles = newer ++ c :: older → 2 ≤ older.length →
    c.found = (survey settings true answers).value ∧ c.calls = []
  current : 2 ≤ (history x.notes).cycles.length → x.value.held = (survey settings true answers).value

theorem steady_hardware_goes_quiet (settings : ScanSettings) (answers : Answers) :
    (survey settings false answers).value.Within (survey settings true answers).value ∧
      ∀ actions x first others, (new settings).run actions = some x →
        registered actions = first :: others →
        (∀ b ∈ actions.filterMap answers?, b = answers) →
        GoesQuiet settings answers first others x := by
  refine ⟨quick_within_full settings answers, ?_⟩
  intro actions x first others h hfirst hsteady
  refine ⟨(run_told h).calls, ?_, ?_, ?_, ?_, ?_⟩
  · intro newer c older hcycles hlater
    by_contra hopen
    exact hlater (((run_told h).position.rested hcycles).2 (Bool.not_eq_true _ ▸ hopen))
  · intro newer c hcycles
    obtain ⟨hfound, htell⟩ := tells_steady h hfirst hsteady hcycles
    refine ⟨hfound, ?_⟩
    -- Before the first cycle, what is held is empty.
    rw [← Bool.not_eq_true, Inventory.isEmpty_iff]
    exact htell
  · intro newer c earlier hcycles
    exact tells_steady h hfirst hsteady hcycles
  · intro newer c older hcycles hmany
    obtain ⟨hfound, htell⟩ := tells_steady h hfirst hsteady hcycles
    rw [heldAfter_full (by omega)] at hfound htell
    rw [heldAfter_full hmany] at htell
    exact ⟨hfound, htell.quiet fun hne => hne rfl⟩
  · intro hmany
    rw [(run_told h).held, latest_steady h hsteady (List.nil_append _).symm,
      heldAfter_full hmany]

/-- A device and a CAN adapter that stay where they are. -/
def steadyAnswers : Answers where
  serial := .found ["COM1"]
  stLink := .crashed
  canAdapter := .found true

/-- Three cycles, with a listener that comes late and one that crashes. -/
def steadyRun : List Action :=
  [.enlist 1, .start true, .look, .survey steadyAnswers, .copy, .enlist 2, .call true, .rest,
    .wake .rested, .look, .survey steadyAnswers, .copy, .call false, .call false, .rest,
    .wake .rested, .look, .survey steadyAnswers, .rest]

theorem steady_hardware_goes_quiet_after_two_cycles :
    ∃ x, (new {}).run steadyRun = some x ∧ registered steadyRun = 1 :: [2] ∧
      (∀ b ∈ steadyRun.filterMap answers?, b = steadyAnswers) ∧
      GoesQuiet {} steadyAnswers 1 [2] x ∧ x.notes.filterMap called? =
        [(1, { listed := ["Auto Serial", "COM1", "SocketCAN"] }),
          (1, { listed := ["Auto Serial", "COM1", "PCAN", "SocketCAN"], canAdapter := true }),
          (2, { listed := ["Auto Serial", "COM1", "PCAN", "SocketCAN"], canAdapter := true })] := by
  have hrun : ((new {}).run steadyRun).map (fun x => x.notes.filterMap called?) =
      some [(1, { listed := ["Auto Serial", "COM1", "SocketCAN"] }),
        (1, { listed := ["Auto Serial", "COM1", "PCAN", "SocketCAN"], canAdapter := true }),
        (2, { listed := ["Auto Serial", "COM1", "PCAN", "SocketCAN"], canAdapter := true })] := by
    decide +kernel
  obtain ⟨x, hx, hcalled⟩ := Option.map_eq_some_iff.mp hrun
  have hsteady : ∀ b ∈ steadyRun.filterMap answers?, b = steadyAnswers := by decide +kernel
  exact ⟨x, hx, rfl, hsteady,
    (steady_hardware_goes_quiet {} steadyAnswers).2 steadyRun x 1 [2] hx rfl hsteady, hcalled⟩

end Scanner

end LinkWatch
