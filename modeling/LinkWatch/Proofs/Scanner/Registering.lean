import LinkWatch.Proofs.Scanner.LifeCycle

/-! # Registering under a lock is one step

A caller that registers takes the lock of the list, reads the list, puts a longer copy in its place
and gives the lock back. In between others act, and the worker needs the lock to copy the list. -/

namespace LinkWatch.Scanner

/-! ## The lock -/

inductive Hold where
  | free
  /-- A caller is about to read the list. -/
  | reading (l : Listener)
  /-- It has read the list, and is about to put `longer` in its place. -/
  | writing (l : Listener) (longer : List Listener) (first : Bool)
  deriving DecidableEq, Repr

structure Guarded where
  scanner : Scanner
  hold : Hold := .free
  deriving DecidableEq, Repr

inductive Move where
  | lock (l : Listener)
  | read
  | publish (l : Listener)
  /-- Anything but a registration, by a caller or by the worker. -/
  | act (a : Action)
  deriving DecidableEq, Repr

namespace Guarded

def new (settings : ScanSettings) : Guarded := { scanner := .new settings }

/-- Without the lock nobody registers, and the worker does not copy the list. -/
def admits (g : Guarded) : Action → Bool
  | .enlist _ => false
  | .copy => g.hold = .free
  | _ => true

def act (g : Guarded) (a : Action) : Option (Noted Note Guarded) :=
  if g.admits a then
    (g.scanner.step a).map fun x => ⟨{ g with scanner := x.value }, x.notes⟩
  else none

def step (g : Guarded) : Move → Option (Noted Note Guarded)
  | .lock l => if g.hold = .free then some (pure { g with hold := .reading l }) else none
  | .read =>
    match g.hold with
    | .reading l =>
      let listeners := g.scanner.listeners
      some (pure { g with hold := .writing l (listeners ++ [l]) listeners.isEmpty })
    | _ => none
  | .publish l =>
    match g.hold with
    | .writing owner longer first =>
      if owner = l then some do
        note (.enlisted l)
        let starting := g.scanner.starting + if first then 1 else 0
        return { scanner := { g.scanner with listeners := longer, starting }, hold := .free }
      else none
    | _ => none
  | .act a => g.act a

def run (g : Guarded) (moves : List Move) : Option (Noted Note Guarded) := runWith step g moves

end Guarded

/-! ## What a registration comes to -/

/-- A registration counts from the moment when the longer list is in place. -/
def Move.action? : Move → Option Action
  | .lock _ | .read => none
  | .publish l => some (.enlist l)
  | .act a => some a

def Move.actions (moves : List Move) : List Action := moves.filterMap Move.action?

/-- The copy in the hands of the caller is still the list with its listener added. -/
def Guarded.Fresh (g : Guarded) : Prop :=
  ∀ l longer first, g.hold = .writing l longer first →
    longer = g.scanner.listeners ++ [l] ∧ first = g.scanner.listeners.isEmpty

variable {settings : ScanSettings} {s t : Scanner} {g : Guarded} {a : Action} {l : Listener}
variable {notes : List Note} {moves : List Move} {x : Noted Note Guarded}

theorem Step.listeners_eq (h : Step s a notes t) (hno : ∀ l, a ≠ .enlist l) :
    t.listeners = s.listeners := by
  cases h with
  | enlist l => exact absurd rfl (hno l)
  | _ => rfl

theorem act_eq_some (h : g.act a = some x) :
    (∀ l, a ≠ .enlist l) ∧ x.value.hold = g.hold ∧
      g.scanner.step a = some ⟨x.value.scanner, x.notes⟩ := by
  unfold Guarded.act at h
  simp only [Option.ite_none_right_eq_some, Option.map_eq_some_iff] at h
  obtain ⟨hadmits, y, hy, rfl⟩ := h
  refine ⟨?_, rfl, hy⟩
  rintro l rfl
  exact absurd hadmits (by simp [Guarded.admits])

/-- Taking the lock and reading are seen by nobody, and publishing is the whole registration. -/
theorem guarded_step (hfresh : g.Fresh) {m : Move} (h : g.step m = some x) :
    x.value.Fresh ∧ g.scanner.run m.action?.toList = some ⟨x.value.scanner, x.notes⟩ := by
  cases m with
  | lock l =>
    simp only [Guarded.step, Option.ite_none_right_eq_some, Option.some.injEq] at h
    obtain ⟨-, rfl⟩ := h
    exact ⟨fun _ _ _ hhold => absurd hhold (by simp), rfl⟩
  | read =>
    simp only [Guarded.step] at h
    split at h
    · obtain rfl := Option.some.inj h
      refine ⟨fun l longer first hhold => ?_, rfl⟩
      simp only [Noted.value_pure, Hold.writing.injEq] at hhold
      obtain ⟨rfl, rfl, rfl⟩ := hhold
      exact ⟨rfl, rfl⟩
    · exact absurd h (by simp)
  | publish l =>
    simp only [Guarded.step] at h
    split at h
    · next owner longer first hhold =>
      simp only [Option.ite_none_right_eq_some, Option.some.injEq] at h
      obtain ⟨rfl, rfl⟩ := h
      obtain ⟨rfl, rfl⟩ := hfresh _ _ _ hhold
      exact ⟨fun _ _ _ hfree => absurd hfree (by simp), rfl⟩
    · exact absurd h (by simp)
  | act a =>
    obtain ⟨hno, hhold, hstep⟩ := act_eq_some h
    refine ⟨?_, (runWith_singleton _ _).trans hstep⟩
    -- While the caller holds its copy, nobody else has touched the list.
    have hsame : x.value.scanner.listeners = g.scanner.listeners :=
      (step_of_eq hstep).listeners_eq hno
    intro l longer first hwriting
    rw [hhold] at hwriting
    rw [hsame]
    exact hfresh l longer first hwriting

theorem guarded_run (h : (Guarded.new settings).run moves = some x) :
    (new settings).run (Move.actions moves) = some ⟨x.value.scanner, x.notes⟩ := by
  have hboth : x.value.Fresh ∧
      (new settings).run (Move.actions moves) = some ⟨x.value.scanner, x.notes⟩ := by
    refine runWith_induction (motive := fun moves notes g => g.Fresh ∧
      (new settings).run (Move.actions moves) = some ⟨g.scanner, notes⟩) ?_ ?_ h
    · exact ⟨fun _ _ _ hhold => absurd hhold (by simp [Guarded.new]), rfl⟩
    · rintro moves notes g m y - ⟨hfresh, hrun⟩ hstep
      obtain ⟨hnext, hlast⟩ := guarded_step hfresh hstep
      have hactions : Move.actions (moves ++ [m]) = Move.actions moves ++ m.action?.toList := by
        unfold Move.actions
        cases haction : m.action? with
        | none => simp [haction]
        | some a => simp [haction]
      refine ⟨hnext, ?_⟩
      rw [hactions]
      exact runWith_append_iff.mpr ⟨_, _, hrun, hlast, rfl⟩
  exact hboth.2

/-! ## Nobody is kept from registering -/

/-- The moves of an action that nobody interferes with. -/
def movesOf : Action → List Move
  | .enlist l => [.lock l, .read, .publish l]
  | a => [.act a]

theorem free_act {y : Noted Note Scanner} (h : s.step a = some y)
    (hadmits : ({ scanner := s } : Guarded).admits a = true) :
    ({ scanner := s } : Guarded).run [.act a] = some ⟨{ scanner := y.value }, y.notes⟩ := by
  refine (runWith_singleton _ _).trans ?_
  simp [Guarded.step, Guarded.act, hadmits, h]

theorem free_moves {y : Noted Note Scanner} (h : s.step a = some y) :
    ({ scanner := s } : Guarded).run (movesOf a) = some ⟨{ scanner := y.value }, y.notes⟩ := by
  cases a with
  | enlist l =>
    obtain rfl := Option.some.inj h
    simp [movesOf, Guarded.run, runWith, Guarded.step, note]
  | _ => exact free_act h rfl

theorem run_guarded {actions : List Action} {y : Noted Note Scanner}
    (h : (new settings).run actions = some y) :
    (Guarded.new settings).run (actions.flatMap movesOf) =
      some ⟨{ scanner := y.value }, y.notes⟩ := by
  refine runWith_induction (motive := fun actions notes s =>
    (Guarded.new settings).run (actions.flatMap movesOf) = some ⟨{ scanner := s }, notes⟩)
    rfl ?_ h
  intro actions notes s a y _ hrun hstep
  rw [List.flatMap_append, List.flatMap_singleton]
  exact runWith_append_iff.mpr ⟨_, _, hrun, free_moves hstep, rfl⟩

end LinkWatch.Scanner
