import LinkWatch.Text.Numeral
import Mathlib.Tactic.Common

/-! # What numerals denote, decimal ones above all -/

namespace LinkWatch.Text

/-! ## Digits -/

theorem le_iff_toNat {a b : Char} : a ≤ b ↔ a.toNat ≤ b.toNat := by
  rw [Char.le_def, UInt32.le_iff_toNat_le]
  rfl

theorem isDigit_iff_le (c : Char) : c.isDigit = true ↔ '0' ≤ c ∧ c ≤ '9' := by
  rw [Char.isDigit_iff_toNat, le_iff_toNat, le_iff_toNat]

theorem digit?_ten (c : Char) :
    digit? 10 c = if c.isDigit then some (c.toNat - '0'.toNat) else none := by
  unfold digit? digitValue?
  by_cases hdigit : c.isDigit = true
  · have hvalue := (Char.isDigit_iff_toNat.mp hdigit).2
    have hlt : c.toNat - '0'.toNat < 10 := by
      simp only [Char.reduceToNat] at hvalue ⊢
      omega
    rw [if_pos ((isDigit_iff_le c).mp hdigit), if_pos hdigit, Option.filter_some,
      if_pos (by simpa using hlt)]
  · rw [if_neg (fun h => hdigit ((isDigit_iff_le c).mpr h)), if_neg hdigit]
    -- A letter is worth ten at least.
    split
    · simp
    · split
      · simp
      · rfl

theorem isAsciiDigit_eq (c : Char) : isAsciiDigit c = c.isDigit := by
  unfold isAsciiDigit
  rw [digit?_ten]
  cases c.isDigit with
  | true => rfl
  | false => rfl

/-! ## Reading -/

theorem digitsFrom?_ten (acc : Nat) (cs : List Char) :
    digitsFrom? 10 acc cs =
      if cs.all Char.isDigit then some (Nat.ofDigitChars 10 cs acc) else none := by
  induction cs generalizing acc with
  | nil => rfl
  | cons c cs ih =>
    rw [digitsFrom?, digit?_ten]
    by_cases hdigit : c.isDigit = true
    · rw [if_pos hdigit, Option.bind_some, ih, Nat.ofDigitChars_cons, Nat.mul_comm]
      simp [hdigit]
    · simp [hdigit]

theorem digits?_ten (cs : List Char) :
    digits? 10 cs =
      if cs ≠ [] ∧ cs.all Char.isDigit then some (Nat.ofDigitChars 10 cs 0) else none := by
  cases cs with
  | nil => rfl
  | cons c cs =>
    rw [digits?, digitsFrom?_ten]
    · simp
    · simp

theorem le_ofDigitChars (cs : List Char) (acc : Nat) : acc ≤ Nat.ofDigitChars 10 cs acc := by
  induction cs generalizing acc with
  | nil => exact Nat.le_refl acc
  | cons c cs ih =>
    rw [Nat.ofDigitChars_cons]
    have htail := ih (10 * acc + (c.toNat - '0'.toNat))
    omega

/-! ## Signs -/

theorem digits?_plus (base : Nat) (cs : List Char) : digits? base ('+' :: cs) = none := rfl

theorem unsigned?_iff {base n : Nat} {cs : List Char} :
    unsigned? base cs = some n ↔
      ∃ digits, (cs = digits ∨ cs = '+' :: digits) ∧ digits? base digits = some n := by
  unfold unsigned?
  split
  · next digits =>
    constructor
    · intro h
      exact ⟨digits, Or.inr rfl, h⟩
    · rintro ⟨others, rfl | hsame, h⟩
      · exact absurd ((digits?_plus base digits).symm.trans h) (by simp)
      · rw [(List.cons.inj hsame).2]
        exact h
  · next hplain =>
    constructor
    · intro h
      exact ⟨cs, Or.inl rfl, h⟩
    · rintro ⟨digits, rfl | hsame, h⟩
      · exact h
      · exact absurd hsame (hplain digits)

/-! ## Writing -/

theorem all_isDigit_toDigits (n : Nat) : (Nat.toDigits 10 n).all Char.isDigit = true := by
  rw [List.all_eq_true]
  intro c hc
  exact Nat.isDigit_of_mem_toDigits (by omega) (Nat.le_refl 10) hc

theorem head?_toDigits {n : Nat} (h : n ≠ 0) : (Nat.toDigits 10 n).head? ≠ some '0' := by
  induction n using Nat.strongRecOn with
  | ind n ih =>
    by_cases hlt : n < 10
    · rw [Nat.toDigits_of_lt_base hlt]
      simpa using h
    · have hhead := ih (n / 10) (by omega) (by omega)
      rw [Nat.toDigits_of_base_le (by omega) (by omega)]
      cases hdigits : Nat.toDigits 10 (n / 10) with
      | nil => exact absurd hdigits Nat.toDigits_ne_nil
      | cons d ds =>
        rw [hdigits] at hhead
        exact hhead

end LinkWatch.Text
