import LinkWatch.Log

/-! # Runs: actions taken one after the other -/

namespace LinkWatch

/-- A sequence of actions, each possible in its turn. The notes of all are kept in their order. -/
def runWith {σ α ε : Type} (step : σ → α → Option (Noted ε σ)) (s : σ) :
    List α → Option (Noted ε σ)
  | [] => some (pure s)
  | a :: as =>
    match step s a with
    | none => none
    | some x => (runWith step x.value as).map fun y => ⟨y.value, x.notes ++ y.notes⟩

end LinkWatch
