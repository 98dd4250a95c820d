import LinkWatch.Proofs.Scanner.Cycles
import Mathlib.Data.List.Chain

/-! # Changes are announced, once and to everybody, and nothing else is -/

namespace LinkWatch.Scanner

/-! ## One cycle -/

/-- The calls of a cycle that may still be under way. -/
structure Cycle.Fair (c : Cycle) (older : List Cycle) : Prop where
  quiet : c.found = latest older → c.calls = []
  heard : c.found ≠ latest older → (c.audience = none ∧ c.calls = []) ∨
    ∃ called left, c.audience = some (called ++ left) ∧ c.calls = called.map (·, c.found)

theorem Cycle.Done.fair {c : Cycle} {older : List Cycle} (h : c.Done older) : c.Fair older := by
  refine ⟨fun he => (h.quiet he).2, fun hne => ?_⟩
  obtain ⟨audience, haudience, hcalls⟩ := h.heard hne
  exact Or.inr ⟨audience, [], by rw [haudience, List.append_nil], hcalls⟩

theorem Cycle.Fair.called {c : Cycle} {older : List Cycle} (h : c.Fair older) {k : Nat}
    {call : Listener × Inventory} (hk : c.calls[k]? = some call) :
    call.2 = c.found ∧ c.found ≠ latest older := by
  have hne : c.found ≠ latest older := by
    intro he
    rw [h.quiet he] at hk
    simp at hk
  refine ⟨?_, hne⟩
  rcases h.heard hne with ⟨-, hcalls⟩ | ⟨called, left, -, hcalls⟩
  · rw [hcalls] at hk
    simp at hk
  · rw [hcalls, List.getElem?_map, Option.map_eq_some_iff] at hk
    obtain ⟨l, -, rfl⟩ := hk
    rfl

theorem Settled.split {newer older : List Cycle} {c : Cycle} (h : Settled (newer ++ c :: older)) :
    c.Done older ∧ Settled older := by
  induction newer with
  | nil => exact h
  | cons n newer ih => exact ih h.2

theorem Position.last {cycles older : List Cycle} {c : Cycle} {w : Worker}
    (h : Position cycles w) (hcycles : cycles = c :: older) : c.Fair older ∧ Settled older := by
  cases h with
  | absent | firstTop | firstSurvey => exact absurd hcycles (by simp)
  | copying found hsettled hne =>
    obtain ⟨rfl, rfl⟩ := List.cons.inj hcycles
    exact ⟨⟨fun _ => rfl, fun _ => Or.inl ⟨rfl, rfl⟩⟩, hsettled⟩
  | calling found called left hsettled hne =>
    obtain ⟨rfl, rfl⟩ := List.cons.inj hcycles
    exact ⟨⟨fun he => absurd he hne, fun _ => Or.inr ⟨called, left, rfl, rfl⟩⟩, hsettled⟩
  | finishing hsettled =>
    obtain ⟨rfl, rfl⟩ := List.cons.inj hcycles
    exact ⟨⟨fun _ => rfl, fun hne => absurd rfl hne⟩, hsettled⟩
  | resting _ hsettled | top _ hsettled | surveying _ hsettled | ended _ hsettled =>
    subst hcycles
    exact ⟨hsettled.1.fair, hsettled.2⟩

theorem Position.fair {cycles newer older : List Cycle} {c : Cycle} {w : Worker}
    (h : Position cycles w) (hcycles : cycles = newer ++ c :: older) : c.Fair older := by
  cases newer with
  | nil => exact (h.last hcycles).1
  | cons n newer => exact ((h.last hcycles).2.split).1.fair

theorem Position.rested {cycles newer older : List Cycle} {c : Cycle} {w : Worker}
    (h : Position cycles w) (hcycles : cycles = newer ++ c :: older) :
    (c.rested = true → c.Done older) ∧ (c.rested = false → newer = []) := by
  cases newer with
  | cons n newer =>
    have hdone := ((h.last hcycles).2.split).1
    exact ⟨fun _ => hdone, fun ho => absurd hdone.rested (by simp [ho])⟩
  | nil =>
    refine ⟨fun ho => ?_, fun _ => rfl⟩
    cases h with
    | absent | firstTop | firstSurvey => exact absurd hcycles (by simp)
    | copying found hsettled hne =>
      obtain ⟨rfl, rfl⟩ := List.cons.inj hcycles
      exact absurd ho (by simp)
    | calling found called left hsettled hne =>
      obtain ⟨rfl, rfl⟩ := List.cons.inj hcycles
      exact absurd ho (by simp)
    | finishing hsettled =>
      obtain ⟨rfl, rfl⟩ := List.cons.inj hcycles
      exact absurd ho (by simp)
    | resting _ hsettled | top _ hsettled | surveying _ hsettled | ended _ hsettled =>
      subst hcycles
      exact hsettled.1

/-! ## What one listener is given -/

theorem deliveries_cons (k : Nat) (c : Cycle) (older : List Cycle) :
    deliveries k (c :: older) = ((c.calls[k]?).map Prod.snd).toList ++ deliveries k older := by
  cases h : c.calls[k]? with
  | none => simp [deliveries, h]
  | some call => simp [deliveries, h]

theorem deliveries_late {cycles : List Cycle} {k : Nat} (h : ∀ c ∈ cycles, c.calls.length ≤ k) :
    deliveries k cycles = [] := by
  rw [deliveries, List.filterMap_eq_nil_iff]
  intro c hc
  rw [List.getElem?_eq_none (h c hc), Option.map_none]

theorem calls_length_le {older : List Cycle} {audience : List Listener} (hsettled : Settled older)
    (hgrown : ∀ e ∈ older, ∀ earlier ∈ e.audience, earlier <+: audience) :
    ∀ e ∈ older, e.calls.length ≤ audience.length := by
  intro e he
  obtain ⟨newer, rest, rfl⟩ := List.append_of_mem he
  have hdone := (hsettled.split).1
  by_cases hsame : e.found = latest rest
  · rw [(hdone.quiet hsame).2]
    exact Nat.zero_le _
  · obtain ⟨earlier, hearlier, hcalls⟩ := hdone.heard hsame
    rw [hcalls, List.length_map]
    exact (hgrown e he earlier hearlier).length_le

theorem head_deliveries {cycles : List Cycle} (hsettled : Settled cycles) (hgrowing : Growing cycles)
    {k : Nat} {i : Inventory} (hi : (deliveries k cycles).head? = some i) : i = latest cycles := by
  induction cycles with
  | nil => exact absurd hi (by simp [deliveries])
  | cons c older ih =>
    obtain ⟨hdone, hold⟩ := hsettled
    obtain ⟨haudience, hgrown⟩ := hgrowing
    rw [deliveries_cons] at hi
    by_cases hsame : c.found = latest older
    · rw [(hdone.quiet hsame).2] at hi
      rw [ih hold hgrown (by simpa using hi), latest, hsame]
    · obtain ⟨audience, heq, hcalls⟩ := hdone.heard hsame
      by_cases hk : k < audience.length
      · rw [hcalls, List.getElem?_map, List.getElem?_eq_getElem hk] at hi
        simpa [latest] using hi.symm
      · -- Nobody registered this late can have been called before.
        have hnone := deliveries_late fun e he =>
          Nat.le_trans (calls_length_le hold (haudience audience heq) e he) (Nat.le_of_not_lt hk)
        rw [hnone, hcalls, List.getElem?_eq_none (by simpa using hk)] at hi
        exact absurd hi (by simp)

theorem Cycle.Fair.isChain {c : Cycle} {older : List Cycle} (h : c.Fair older)
    (hsettled : Settled older) (hgrowing : Growing older) {k : Nat}
    (hchain : (deliveries k older).IsChain (· ≠ ·)) :
    (deliveries k (c :: older)).IsChain (· ≠ ·) := by
  rw [deliveries_cons]
  cases hk : c.calls[k]? with
  | none => simpa using hchain
  | some call =>
    obtain ⟨hfound, hnews⟩ := h.called hk
    simp only [Option.map_some, Option.toList_some, List.singleton_append]
    rw [List.isChain_cons]
    refine ⟨fun i hi => ?_, hchain⟩
    rw [hfound, head_deliveries hsettled hgrowing hi]
    exact hnews

theorem deliveries_isChain {cycles : List Cycle} (hsettled : Settled cycles)
    (hgrowing : Growing cycles) (k : Nat) : (deliveries k cycles).IsChain (· ≠ ·) := by
  induction cycles with
  | nil => exact List.isChain_nil
  | cons c older ih =>
    exact hsettled.1.fair.isChain hsettled.2 hgrowing.2 (ih hsettled.2 hgrowing.2)

/-! ## Crashing listeners -/

/-- Whoever crashes, all who are left can be called in their order. -/
theorem run_calls {s : Scanner} {found : Inventory} {left : List Listener} {crashes : List Bool}
    (hworker : s.worker = .calling found left) (hlength : crashes.length = left.length) :
    ∃ x, s.run (crashes.map .call) = some x ∧ x.value.worker = .calling found [] ∧
      x.notes.filterMap called? = left.map (·, found) := by
  induction left generalizing s crashes with
  | nil =>
    obtain rfl := List.eq_nil_of_length_eq_zero hlength
    exact ⟨pure s, rfl, hworker, rfl⟩
  | cons l left ih =>
    obtain ⟨crash, crashes, rfl⟩ := List.exists_cons_of_length_eq_add_one hlength
    have hcall := eq_of_step (.call found l left crash hworker)
    obtain ⟨x, hx, hend, hcalled⟩ := ih (s := { s with worker := .calling found left }) rfl
      (by simpa using hlength)
    refine ⟨_, runWith_cons_iff.mpr ⟨_, x, hcall, hx, rfl⟩, hend, ?_⟩
    rw [List.filterMap_append, called_call, hcalled]
    rfl

/-! ## The law -/

/-- What a run of a scanner has announced, cycle by cycle. -/
structure Announces (settings : ScanSettings) (actions : List Action)
    (x : Noted Note Scanner) : Prop where
  /-- The first cycle makes a quick survey, and all later ones make full ones. -/
  surveyed : (history x.notes).cycles.reverse.map Cycle.found =
    surveys settings (actions.filterMap answers?)
  /-- From the survey of a cycle on, whoever asks is given what it has found. -/
  current : x.value.held = latest (history x.notes).cycles
  /-- There are no calls but those of the cycles. -/
  calls : x.notes.filterMap called? = (history x.notes).cycles.reverse.flatMap Cycle.calls
  /-- A cycle that finds what was found before it calls nobody. -/
  quiet : ∀ newer c older, (history x.notes).cycles = newer ++ c :: older →
    c.found = latest older → c.calls = []
  /-- Any other calls those registered when it copied their list, each once and in their order. -/
  heard : ∀ newer c older, (history x.notes).cycles = newer ++ c :: older →
    c.found ≠ latest older → c.rested = true →
    ∃ audience, c.audience = some audience ∧ c.calls = audience.map (·, c.found)
  /-- Only the last cycle may be under way, and then it has called the first of them. -/
  underWay : ∀ newer c older, (history x.notes).cycles = newer ++ c :: older →
    c.found ≠ latest older → c.rested = false →
    newer = [] ∧ ((c.audience = none ∧ c.calls = []) ∨
      ∃ called left, c.audience = some (called ++ left) ∧ c.calls = called.map (·, c.found))
  order : ∀ c ∈ (history x.notes).cycles, ∀ audience ∈ c.audience,
    audience <+: (history x.notes).registered
  /-- Whoever crashes, all who are left can be called. -/
  onward : ∀ found left, x.value.worker = .calling found left →
    ∀ crashes : List Bool, crashes.length = left.length →
    ∃ y, x.value.run (crashes.map .call) = some y ∧ y.value.worker = .calling found [] ∧
      y.notes.filterMap called? = left.map (·, found)
  /-- No listener is given the same inventory twice in a row. -/
  distinct : ∀ k, (deliveries k (history x.notes).cycles).IsChain (· ≠ ·)
  /-- After a cycle, whoever has been called at all was last given what is current. -/
  upToDate : (∀ c ∈ (history x.notes).cycles.head?, c.rested = true) →
    ∀ k, ∀ i ∈ (deliveries k (history x.notes).cycles).head?, i = x.value.held

theorem changes_are_announced {settings : ScanSettings} {actions : List Action}
    {x : Noted Note Scanner} (h : (new settings).run actions = some x) :
    Announces settings actions x := by
  have htold := run_told h
  have hpos := htold.position
  refine ⟨htold.surveyed, htold.held, htold.calls, ?_, ?_, ?_, htold.order, ?_, ?_, ?_⟩
  · intro newer c older hcycles hsame
    exact (hpos.fair hcycles).quiet hsame
  · intro newer c older hcycles hne hrested
    exact ((hpos.rested hcycles).1 hrested).heard hne
  · intro newer c older hcycles hne hrested
    exact ⟨(hpos.rested hcycles).2 hrested, (hpos.fair hcycles).heard hne⟩
  · intro found left hworker crashes hlength
    exact run_calls hworker hlength
  · intro k
    have hgrowing := htold.growing
    cases hcycles : (history x.notes).cycles with
    | nil => exact List.isChain_nil
    | cons c older =>
      rw [hcycles] at hgrowing
      obtain ⟨hfair, hsettled⟩ := hpos.last hcycles
      exact hfair.isChain hsettled hgrowing.2 (deliveries_isChain hsettled hgrowing.2 k)
  · intro hrested k i hi
    rw [htold.held]
    cases hcycles : (history x.notes).cycles with
    | nil =>
      rw [hcycles] at hi
      exact absurd hi (by simp [deliveries])
    | cons c older =>
      have hdone := (hpos.rested (show _ = [] ++ c :: older from hcycles)).1
        (hrested c (by simp [hcycles]))
      have hsettled : Settled (c :: older) := ⟨hdone, (hpos.last hcycles).2⟩
      rw [hcycles] at hi
      exact head_deliveries hsettled (hcycles ▸ htold.growing) hi

theorem changes_are_announced_to_two_listeners :
    ∃ x, (new {}).run [.enlist 1, .start true, .look, .survey { serial := .found ["COM1"] },
        .enlist 2, .copy, .call true, .call false, .rest, .wake .rested, .look,
        .survey { serial := .crashed, dfu := .found true }, .copy, .call true] = some x ∧
      Announces {} [.enlist 1, .start true, .look, .survey { serial := .found ["COM1"] },
        .enlist 2, .copy, .call true, .call false, .rest, .wake .rested, .look,
        .survey { serial := .crashed, dfu := .found true }, .copy, .call true] x :=
  ⟨_, rfl, changes_are_announced rfl⟩

end LinkWatch.Scanner
