import LinkWatch.Text.Segment
import Mathlib.Tactic.Common

/-! # Cutting a text at its last separator, finding one text in another -/

namespace LinkWatch.Text

/-! ## The last separator -/

theorem splitLast?_eq_none {sep : Char} {cs : List Char} :
    splitLast? sep cs = none ↔ sep ∉ cs := by
  induction cs with
  | nil => simp [splitLast?]
  | cons c cs ih =>
    rw [splitLast?]
    cases hsplit : splitLast? sep cs with
    | some parts =>
      have hmem : sep ∈ cs := by
        by_contra hnot
        rw [ih.mpr hnot] at hsplit
        exact absurd hsplit (by simp)
      simp [hmem]
    | none =>
      have hnot := ih.mp hsplit
      by_cases hc : c = sep
      · simp [hc]
      · simp [hc, hnot, Ne.symm hc]

theorem splitLast?_append {sep : Char} {after : List Char} (h : sep ∉ after)
    (before : List Char) : splitLast? sep (before ++ sep :: after) = some (before, after) := by
  induction before with
  | nil =>
    rw [List.nil_append, splitLast?, splitLast?_eq_none.mpr h]
    exact if_pos rfl
  | cons c before ih => rw [List.cons_append, splitLast?, ih]

theorem splitLast?_eq_some {sep : Char} {cs before after : List Char} :
    splitLast? sep cs = some (before, after) ↔ cs = before ++ sep :: after ∧ sep ∉ after := by
  constructor
  · intro h
    induction cs generalizing before with
    | nil => exact absurd h (by simp [splitLast?])
    | cons c cs ih =>
      rw [splitLast?] at h
      cases hsplit : splitLast? sep cs with
      | some parts =>
        rw [hsplit] at h
        obtain ⟨rfl, rfl⟩ := Prod.mk.inj (Option.some.inj h)
        obtain ⟨hcs, hafter⟩ := ih hsplit
        exact ⟨congrArg (c :: ·) hcs, hafter⟩
      | none =>
        rw [hsplit] at h
        simp only [Option.ite_none_right_eq_some, Option.some.injEq, Prod.mk.injEq] at h
        obtain ⟨rfl, rfl, rfl⟩ := h
        exact ⟨rfl, splitLast?_eq_none.mp hsplit⟩
  · rintro ⟨rfl, hafter⟩
    exact splitLast?_append hafter before

theorem afterLast_plain {sep : Char} {cs : List Char} (h : sep ∉ cs) : afterLast sep cs = cs := by
  unfold afterLast
  rw [splitLast?_eq_none.mpr h]

theorem afterLast_append {sep : Char} {after : List Char} (h : sep ∉ after)
    (before : List Char) : afterLast sep (before ++ sep :: after) = after := by
  unfold afterLast
  rw [splitLast?_append h]

/-! ## Occurrence -/

theorem leads_iff {part text : List Char} : leads part text = true ↔ part <+: text :=
  List.isPrefixOf_iff_prefix

theorem occurs_iff {part text : List Char} : occurs part text = true ↔ part <:+: text := by
  induction text with
  | nil => rw [occurs, leads_iff, List.prefix_nil, List.infix_nil]
  | cons c cs ih => rw [occurs, Bool.or_eq_true, leads_iff, ih, List.infix_cons_iff]

/-! ## What follows a leading part -/

theorem dropLead?_eq_some {part text rest : List Char} :
    dropLead? part text = some rest ↔ text = part ++ rest := by
  induction part generalizing text with
  | nil => simp [dropLead?, eq_comm]
  | cons p ps ih =>
    cases text with
    | nil => simp [dropLead?]
    | cons c cs =>
      rw [dropLead?]
      by_cases hc : p = c
      · rw [if_pos hc, ih, hc, List.cons_append, List.cons.injEq, eq_self, true_and]
      · simp [hc, Ne.symm hc]

theorem dropLead?_eq_none {part text : List Char} :
    dropLead? part text = none ↔ ¬ part <+: text := by
  rw [Option.eq_none_iff_forall_ne_some]
  simp only [ne_eq, dropLead?_eq_some]
  constructor
  · rintro h ⟨rest, htext⟩
    exact h rest htext.symm
  · rintro h rest htext
    exact h ⟨rest, htext.symm⟩

end LinkWatch.Text
