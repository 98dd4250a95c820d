import LinkWatch.Run
import Mathlib.Data.List.Induction

/-! # Runs, one action at a time -/

namespace LinkWatch

variable {σ α ε : Type} {step : σ → α → Option (Noted ε σ)}

/-! ## Putting runs together -/

@[simp] theorem runWith_nil (s : σ) : runWith step s [] = some (pure s) := rfl

theorem runWith_cons_iff {s : σ} {a : α} {as : List α} {z : Noted ε σ} :
    runWith step s (a :: as) = some z ↔
      ∃ x y, step s a = some x ∧ runWith step x.value as = some y ∧
        z = ⟨y.value, x.notes ++ y.notes⟩ := by
  rw [runWith]
  cases step s a with
  | none => simp
  | some x =>
    simp only [Option.map_eq_some_iff, Option.some.injEq]
    constructor
    · rintro ⟨y, hy, rfl⟩
      exact ⟨x, y, rfl, hy, rfl⟩
    · rintro ⟨_, y, rfl, hy, rfl⟩
      exact ⟨y, hy, rfl⟩

theorem runWith_append_iff {s : σ} {as bs : List α} {z : Noted ε σ} :
    runWith step s (as ++ bs) = some z ↔
      ∃ x y, runWith step s as = some x ∧ runWith step x.value bs = some y ∧
        z = ⟨y.value, x.notes ++ y.notes⟩ := by
  induction as generalizing s z with
  | nil =>
    simp only [List.nil_append, runWith_nil, Option.some.injEq]
    constructor
    · intro h
      exact ⟨pure s, z, rfl, h, rfl⟩
    · rintro ⟨_, y, rfl, hy, rfl⟩
      exact hy
  | cons a as ih =>
    rw [List.cons_append, runWith_cons_iff]
    constructor
    · rintro ⟨x, y, hx, hy, rfl⟩
      obtain ⟨u, v, hu, hv, rfl⟩ := ih.mp hy
      exact ⟨⟨u.value, x.notes ++ u.notes⟩, v, runWith_cons_iff.mpr ⟨x, u, hx, hu, rfl⟩, hv,
        by simp only [List.append_assoc]⟩
    · rintro ⟨w, v, hw, hv, rfl⟩
      obtain ⟨x, u, hx, hu, rfl⟩ := runWith_cons_iff.mp hw
      exact ⟨x, ⟨v.value, u.notes ++ v.notes⟩, hx, ih.mpr ⟨u, v, hu, hv, rfl⟩,
        by simp only [List.append_assoc]⟩

theorem runWith_singleton (s : σ) (a : α) : runWith step s [a] = step s a := by
  cases h : step s a with
  | none => simp [runWith, h]
  | some x => simp [runWith, h]

/-! ## What a run preserves -/

/-- What holds at the start and after each further action holds after every run. -/
theorem runWith_induction {s₀ : σ} {motive : List α → List ε → σ → Prop} (start : motive [] [] s₀)
    (next : ∀ as notes s a x, runWith step s₀ as = some ⟨s, notes⟩ → motive as notes s →
      step s a = some x → motive (as ++ [a]) (notes ++ x.notes) x.value)
    {as : List α} {z : Noted ε σ} (h : runWith step s₀ as = some z) :
    motive as z.notes z.value := by
  induction as using List.reverseRecOn generalizing z with
  | nil =>
    rw [runWith_nil, Option.some.injEq] at h
    rw [← h]
    exact start
  | append_singleton as a ih =>
    obtain ⟨x, y, hx, hy, rfl⟩ := runWith_append_iff.mp h
    rw [runWith_singleton] at hy
    exact next as x.notes x.value a y hx (ih hx) hy

/-! ## Where a run has been -/

/-- The states of a run, from the first to the last. -/
def statesWith (step : σ → α → Option (Noted ε σ)) (s : σ) : List α → List σ
  | [] => [s]
  | a :: as =>
    s :: match step s a with
      | none => []
      | some x => statesWith step x.value as

theorem statesWith_cons {s : σ} {a : α} {x : Noted ε σ} (h : step s a = some x) (as : List α) :
    statesWith step s (a :: as) = s :: statesWith step x.value as := by
  rw [statesWith, h]

theorem statesWith_concat {s : σ} {as : List α} {a : α} {x y : Noted ε σ}
    (h : runWith step s as = some x) (hstep : step x.value a = some y) :
    statesWith step s (as ++ [a]) = statesWith step s as ++ [y.value] := by
  induction as generalizing s x with
  | nil =>
    obtain rfl := Option.some.inj h
    exact statesWith_cons hstep []
  | cons b as ih =>
    obtain ⟨u, v, hu, hv, rfl⟩ := runWith_cons_iff.mp h
    rw [List.cons_append, statesWith_cons hu, statesWith_cons hu, ih hv hstep, List.cons_append]

theorem getLast?_statesWith {s : σ} {as : List α} {x : Noted ε σ}
    (h : runWith step s as = some x) : (statesWith step s as).getLast? = some x.value := by
  induction as using List.reverseRecOn generalizing x with
  | nil =>
    obtain rfl := Option.some.inj h
    rfl
  | append_singleton as a ih =>
    obtain ⟨y, z, hy, hz, rfl⟩ := runWith_append_iff.mp h
    rw [runWith_singleton] at hz
    rw [statesWith_concat hy hz, List.getLast?_concat]

end LinkWatch
