import LinkWatch.Proofs.Scanner.History

/-! # Where the worker is in its cycle, and what its notes tell of it -/

namespace LinkWatch.Scanner

/-! ## Cycles that are over -/

/-- A cycle that found what the one before it had found has called nobody. Any other has called
its audience, in the order of registration. -/
structure Cycle.Done (c : Cycle) (older : List Cycle) : Prop where
  rested : c.rested = true
  quiet : c.found = latest older → c.audience = none ∧ c.calls = []
  heard : c.found ≠ latest older →
    ∃ audience, c.audience = some audience ∧ c.calls = audience.map (·, c.found)

/-- All the cycles are over. -/
def Settled : List Cycle → Prop
  | [] => True
  | c :: older => c.Done older ∧ Settled older

/-- The audiences only grow. -/
def Growing : List Cycle → Prop
  | [] => True
  | c :: older =>
    (∀ audience ∈ c.audience, ∀ e ∈ older, ∀ earlier ∈ e.audience, earlier <+: audience) ∧
      Growing older

/-! ## How far the last cycle is, by where the worker is -/

inductive Position : List Cycle → Worker → Prop
  | absent : Position [] .absent
  | firstTop : Position [] (.top false)
  | firstSurvey : Position [] (.surveying false)
  | copying {older : List Cycle} (found : Inventory) : Settled older → found ≠ latest older →
    Position ({ found := found } :: older) (.copying found)
  | calling {older : List Cycle} (found : Inventory) (called left : List Listener) :
    Settled older → found ≠ latest older →
    Position (⟨found, some (called ++ left), called.map (·, found), false⟩ :: older)
      (.calling found left)
  | finishing {older : List Cycle} : Settled older →
    Position ({ found := latest older } :: older) .finishing
  | resting {cycles : List Cycle} : cycles ≠ [] → Settled cycles → Position cycles .resting
  | top {cycles : List Cycle} : cycles ≠ [] → Settled cycles → Position cycles (.top true)
  | surveying {cycles : List Cycle} : cycles ≠ [] → Settled cycles →
    Position cycles (.surveying true)
  | ended {cycles : List Cycle} (ending : Ending) : Settled cycles → Position cycles (.ended ending)

/-- All that the notes of a run tell fits the state that it has led to. -/
structure Told (settings : ScanSettings) (actions : List Action) (notes : List Note)
    (s : Scanner) : Prop where
  same : s.settings = settings
  registered : (history notes).registered = s.listeners
  held : s.held = latest (history notes).cycles
  surveyed : (history notes).cycles.reverse.map Cycle.found =
    surveys settings (actions.filterMap answers?)
  calls : notes.filterMap called? = (history notes).cycles.reverse.flatMap Cycle.calls
  order : ∀ c ∈ (history notes).cycles, ∀ audience ∈ c.audience,
    audience <+: (history notes).registered
  growing : Growing (history notes).cycles
  position : Position (history notes).cycles s.worker

theorem told_new (settings : ScanSettings) : Told settings [] [] (new settings) where
  same := rfl
  registered := rfl
  held := rfl
  surveyed := rfl
  calls := rfl
  order := by simp [history]
  growing := trivial
  position := .absent

variable {settings : ScanSettings} {actions : List Action} {notes more : List Note}
variable {s t : Scanner} {a : Action}

theorem Told.quiet (h : Told settings actions notes s) (ha : answers? a = none)
    (hquiet : ∀ n ∈ more, n.Quiet) (hsettings : t.settings = s.settings)
    (hlisteners : t.listeners = s.listeners) (hheld : t.held = s.held)
    (hposition : Position (history notes).cycles t.worker) :
    Told settings (actions ++ [a]) (notes ++ more) t := by
  have hhistory : history (notes ++ more) = history notes := by
    rw [history_append, foldl_add_quiet _ hquiet]
  constructor
  · rw [hsettings, h.same]
  · rw [hhistory, hlisteners, h.registered]
  · rw [hhistory, hheld, h.held]
  · rw [hhistory, answers_concat ha, h.surveyed]
  · rw [hhistory, List.filterMap_append, called_quiet hquiet, List.append_nil, h.calls]
  · rw [hhistory]
    exact h.order
  · rw [hhistory]
    exact h.growing
  · rw [hhistory]
    exact hposition

theorem Told.survey {noted : List Note} {full : Bool} {answers : Answers}
    (h : Told settings actions notes s) (hfull : s.worker = .surveying full)
    (hnoted : noted = s.surveyNotes full answers ++ more) (hquiet : ∀ n ∈ more, n.Quiet)
    (hsettings : t.settings = s.settings) (hlisteners : t.listeners = s.listeners)
    (hheld : t.held = s.found full answers)
    (hposition : Position ({ found := s.found full answers } :: (history notes).cycles) t.worker) :
    Told settings (actions ++ [.survey answers]) (notes ++ noted) t := by
  have hhistory : history (notes ++ noted) =
      { history notes with
        cycles := { found := s.found full answers } :: (history notes).cycles } := by
    rw [history_append, hnoted, List.foldl_append, foldl_add_surveyNotes, foldl_add_quiet _ hquiet]
  -- The kind of the survey is told by the number of the surveys before it.
  have hkind : full = ((actions.filterMap answers?).length != 0) := by
    have hlength := congrArg List.length h.surveyed
    simp only [List.length_map, List.length_reverse, surveys, List.length_mapIdx] at hlength
    have hpos := h.position
    rw [hfull] at hpos
    rw [← hlength]
    generalize (history notes).cycles = cycles at hpos
    cases hpos with
    | firstSurvey => rfl
    | surveying hne _ => simpa using hne
  constructor
  · rw [hsettings, h.same]
  · rw [hhistory, hlisteners, h.registered]
  · rw [hhistory, hheld]
    rfl
  · rw [hhistory, List.filterMap_append]
    simp only [List.reverse_cons, List.map_append, h.surveyed, surveys, List.filterMap_cons,
      answers?, List.filterMap_nil, List.mapIdx_concat, List.map_cons, List.map_nil, found,
      h.same, hkind]
  · rw [hhistory, List.filterMap_append, hnoted, List.filterMap_append, called_surveyNotes,
      called_quiet hquiet, h.calls]
    simp
  · rw [hhistory]
    intro c hc audience haudience
    rcases List.mem_cons.mp hc with rfl | hc
    · exact absurd haudience (by simp)
    · exact h.order c hc audience haudience
  · rw [hhistory]
    exact ⟨fun audience haudience => absurd haudience (by simp), h.growing⟩
  · rw [hhistory]
    exact hposition

theorem Told.go_on {c d : Cycle} {older : List Cycle} (h : Told settings actions notes s)
    (ha : answers? a = none)
    (hcycles : (history notes).cycles = c :: older)
    (hhistory : history (notes ++ more) = { history notes with cycles := d :: older })
    (hfound : d.found = c.found) (hcalls : d.calls = c.calls ++ more.filterMap called?)
    (horder : ∀ audience ∈ d.audience, audience <+: (history notes).registered)
    (hgrowing : ∀ audience ∈ d.audience, ∀ e ∈ older, ∀ earlier ∈ e.audience, earlier <+: audience)
    (hsettings : t.settings = s.settings) (hlisteners : t.listeners = s.listeners)
    (hheld : t.held = s.held) (hposition : Position (d :: older) t.worker) :
    Told settings (actions ++ [a]) (notes ++ more) t := by
  have hold := h.order
  have hsurveyed := h.surveyed
  have hcalled := h.calls
  have hgrown := h.growing
  rw [hcycles] at hold hsurveyed hcalled hgrown
  constructor
  · rw [hsettings, h.same]
  · rw [hhistory, hlisteners, h.registered]
  · rw [hhistory, hheld, h.held, hcycles]
    exact hfound.symm
  · rw [hhistory, answers_concat ha, ← hsurveyed]
    simp [hfound]
  · rw [hhistory, List.filterMap_append, hcalled]
    simp [hcalls]
  · rw [hhistory]
    intro e he audience haudience
    rcases List.mem_cons.mp he with rfl | he
    · exact horder audience haudience
    · exact hold e (List.mem_cons_of_mem c he) audience haudience
  · rw [hhistory]
    exact ⟨hgrowing, hgrown.2⟩
  · rw [hhistory]
    exact hposition

/-! ## Every action keeps it -/

theorem position_absent {cycles : List Cycle} (h : Position cycles .absent) :
    Position cycles (.top false) := by
  cases h with
  | absent => exact .firstTop

theorem position_copying {cycles : List Cycle} {found : Inventory}
    (h : Position cycles (.copying found)) :
    ∃ older, cycles = { found := found } :: older ∧ Settled older ∧ found ≠ latest older := by
  cases h with
  | copying _ hsettled hne => exact ⟨_, rfl, hsettled, hne⟩

theorem position_calling {cycles : List Cycle} {found : Inventory} {left : List Listener}
    (h : Position cycles (.calling found left)) :
    ∃ older called, cycles = ⟨found, some (called ++ left), called.map (·, found), false⟩ :: older ∧
      Settled older ∧ found ≠ latest older := by
  cases h with
  | calling _ called _ hsettled hne => exact ⟨_, called, rfl, hsettled, hne⟩

theorem position_finishing {cycles : List Cycle} (h : Position cycles .finishing) :
    ∃ older, cycles = { found := latest older } :: older ∧ Settled older := by
  cases h with
  | finishing hsettled => exact ⟨_, rfl, hsettled⟩

theorem position_resting {cycles : List Cycle} (h : Position cycles .resting) :
    cycles ≠ [] ∧ Settled cycles := by
  cases h with
  | resting hne hsettled => exact ⟨hne, hsettled⟩

theorem position_top {cycles : List Cycle} {full : Bool} (h : Position cycles (.top full)) :
    Settled cycles ∧ Position cycles (.surveying full) := by
  cases h with
  | firstTop => exact ⟨trivial, .firstSurvey⟩
  | top hne hsettled => exact ⟨hsettled, .surveying hne hsettled⟩

theorem position_surveying {cycles : List Cycle} {full : Bool}
    (h : Position cycles (.surveying full)) : Settled cycles := by
  cases h with
  | firstSurvey => exact trivial
  | surveying _ hsettled => exact hsettled

theorem Told.enlist (h : Told settings actions notes s) (l : Listener) :
    Told settings (actions ++ [.enlist l]) (notes ++ [.enlisted l]) (s.withListener l) := by
  have hhistory : history (notes ++ [.enlisted l]) =
      { history notes with registered := (history notes).registered ++ [l] } := by
    rw [history_append]
    rfl
  constructor
  · exact h.same
  · rw [hhistory, h.registered]
    rfl
  · rw [hhistory]
    exact h.held
  · rw [hhistory, answers_concat rfl, h.surveyed]
  · rw [hhistory, List.filterMap_append, h.calls]
    simp [called?]
  · rw [hhistory]
    intro c hc audience haudience
    exact (h.order c hc audience haudience).trans (List.prefix_append _ _)
  · rw [hhistory]
    exact h.growing
  · rw [hhistory]
    exact h.position

theorem Told.copy {found : Inventory} (h : Told settings actions notes s)
    (hworker : s.worker = .copying found) :
    Told settings (actions ++ [.copy]) (notes ++ [.copied s.listeners])
      { s with worker := .calling found s.listeners } := by
  have hpos := h.position
  rw [hworker] at hpos
  obtain ⟨older, hcycles, hsettled, hne⟩ := position_copying hpos
  refine h.go_on (d := ⟨found, some s.listeners, [], false⟩) rfl hcycles ?_ rfl rfl ?_ ?_ rfl rfl
    rfl (.calling found [] s.listeners hsettled hne)
  · rw [history_append, ← h.registered]
    simp [History.add, History.onLast, hcycles]
  · intro audience haudience
    have hsame : audience = (history notes).registered :=
      (Option.mem_some.mp haudience).symm.trans h.registered.symm
    exact hsame ▸ List.prefix_rfl
  · intro audience haudience e he earlier hearlier
    rw [← Option.mem_some.mp haudience, ← h.registered]
    exact h.order e (hcycles ▸ List.mem_cons_of_mem _ he) earlier hearlier

theorem Told.call {found : Inventory} {l : Listener} {left : List Listener}
    (h : Told settings actions notes s) (hworker : s.worker = .calling found (l :: left))
    (crashes : Bool) (record : Record) :
    Told settings (actions ++ [.call crashes])
      (notes ++ .called l found :: if crashes then [.logged record] else [])
      { s with worker := .calling found left } := by
  have hpos := h.position
  rw [hworker] at hpos
  obtain ⟨older, called, hcycles, hsettled, hne⟩ := position_calling hpos
  have hold := h.order
  have hgrown := h.growing
  rw [hcycles] at hold hgrown
  refine h.go_on
    (d := ⟨found, some (called ++ [l] ++ left), (called ++ [l]).map (·, found), false⟩) rfl hcycles
    ?_ rfl ?_ ?_ ?_ rfl rfl rfl (.calling found (called ++ [l]) left hsettled hne)
  · rw [history_append, foldl_add_call]
    simp [History.onLast, hcycles]
  · rw [called_call]
    simp
  · intro audience haudience
    exact hold _ List.mem_cons_self audience (by simpa using haudience)
  · intro audience haudience
    exact hgrown.1 audience (by simpa using haudience)

theorem Told.rest {c : Cycle} {older : List Cycle} (h : Told settings actions notes s)
    (hcycles : (history notes).cycles = c :: older)
    (hdone : Cycle.Done { c with rested := true } older) (hsettled : Settled older)
    (millis : UInt64) :
    Told settings (actions ++ [.rest]) (notes ++ [.rests millis]) { s with worker := .resting } := by
  have hold := h.order
  have hgrown := h.growing
  rw [hcycles] at hold hgrown
  refine h.go_on (d := { c with rested := true }) rfl hcycles ?_ rfl ?_ ?_ ?_ rfl rfl rfl
    (.resting (by simp) ⟨hdone, hsettled⟩)
  · rw [history_append]
    simp [History.add, History.onLast, hcycles]
  · simp [called?]
  · exact hold c List.mem_cons_self
  · exact hgrown.1

theorem Told.step (h : Told settings actions notes s) (horderly : Orderly s)
    (hstep : Step s a more t) : Told settings (actions ++ [a]) (notes ++ more) t := by
  have hpos := h.position
  cases hstep with
  | enlist l => exact h.enlist l
  | startAgain spawns hcaller hthere => exact h.quiet rfl (by simp) rfl rfl rfl hpos
  | startRefused hcaller hfree => exact h.quiet rfl (by simp) rfl rfl rfl hpos
  | spawn hcaller hfree =>
    rw [horderly.absent hcaller] at hpos
    exact h.quiet rfl (by simp) rfl rfl rfl (position_absent hpos)
  | cancel => exact h.quiet rfl (by simp) rfl rfl rfl hpos
  | takeHandle hthere => exact h.quiet rfl (by simp) rfl rfl rfl hpos
  | takeNothing hfree => exact h.quiet rfl (by simp) rfl rfl rfl hpos
  | joined n ending hwaits hworker =>
    refine h.quiet rfl ?_ rfl rfl rfl hpos
    by_cases he : ending = .crashed
    · simp [he]
    · simp [he]
  | stop full hworker hc =>
    rw [hworker] at hpos
    exact h.quiet rfl (by simp) rfl rfl rfl (.ended _ (position_top hpos).1)
  | begin full hworker hc =>
    rw [hworker] at hpos
    exact h.quiet rfl (by simp) rfl rfl rfl (position_top hpos).2
  | unchanged full answers hworker hsame =>
    rw [hworker] at hpos
    have hlatest : s.found full answers = latest (history notes).cycles := by rw [hsame, h.held]
    refine h.survey hworker (List.append_nil _).symm (by simp) rfl rfl hsame.symm ?_
    rw [hlatest]
    exact .finishing (position_surveying hpos)
  | changed full answers hworker hdiffers =>
    rw [hworker] at hpos
    refine h.survey hworker rfl (by simp) rfl rfl rfl (.copying _ (position_surveying hpos) ?_)
    rw [← h.held]
    exact hdiffers
  | copy found hworker => exact h.copy hworker
  | call found l left crashes hworker => exact h.call hworker crashes _
  | restAfterCalls found hworker =>
    rw [hworker] at hpos
    obtain ⟨older, called, hcycles, hsettled, hne⟩ := position_calling hpos
    exact h.rest hcycles ⟨rfl, fun he => absurd he hne, fun _ => ⟨called, by simp, rfl⟩⟩ hsettled _
  | restUnchanged hworker =>
    rw [hworker] at hpos
    obtain ⟨older, hcycles, hsettled⟩ := position_finishing hpos
    exact h.rest hcycles ⟨rfl, fun _ => ⟨rfl, rfl⟩, fun hne => absurd rfl hne⟩ hsettled _
  | wake hworker =>
    rw [hworker] at hpos
    obtain ⟨hne, hsettled⟩ := position_resting hpos
    exact h.quiet rfl (by simp) rfl rfl rfl (.top hne hsettled)
  | interrupt hworker =>
    rw [hworker] at hpos
    exact h.quiet rfl (by simp) rfl rfl rfl (.ended _ (position_resting hpos).2)
  | crash hworker =>
    rw [hworker] at hpos
    exact h.quiet rfl (by simp) rfl rfl rfl (.ended _ (position_resting hpos).2)

theorem run_told {x : Noted Note Scanner} (h : (new settings).run actions = some x) :
    Told settings actions x.notes x.value :=
  runWith_induction (told_new settings)
    (fun _ _ _ _ _ hrun hs hstep => hs.step (run_orderly hrun) (step_of_eq hstep)) h

end LinkWatch.Scanner
