import LinkWatch.Proofs.Text.Blank
import LinkWatch.Proofs.Text.Numeral
import Mathlib.Data.List.Forall2
import Mathlib.Data.Nat.Digits.Defs

/-! # What hexadecimal numerals denote -/

namespace LinkWatch.Text

/-! ## Numerals -/

/-- The values of the digits, small and large. -/
inductive HexDigit : Char → Nat → Prop
  | decimal {c : Char} (low : '0' ≤ c) (high : c ≤ '9') : HexDigit c (c.toNat - '0'.toNat)
  | small {c : Char} (low : 'a' ≤ c) (high : c ≤ 'f') : HexDigit c (c.toNat - 'a'.toNat + 10)
  | large {c : Char} (low : 'A' ≤ c) (high : c ≤ 'F') : HexDigit c (c.toNat - 'A'.toNat + 10)

/-- One or more digits, with any number of zeros in front, and the number that they denote. -/
def HexDigits (cs : List Char) (n : Nat) : Prop :=
  cs ≠ [] ∧ ∃ values, List.Forall₂ HexDigit cs values ∧ Nat.ofDigits 16 values.reverse = n

/-- Digits, behind a plus sign or not. -/
def HexNumeral (cs : List Char) (n : Nat) : Prop :=
  ∃ digits, (cs = digits ∨ cs = '+' :: digits) ∧ HexDigits digits n

/-! ## Digits in any base -/

variable {base acc n : Nat} {cs : List Char}

theorem digitsFrom?_eq_some :
    digitsFrom? base acc cs = some n ↔
      ∃ values, List.Forall₂ (fun c d => digit? base c = some d) cs values ∧
        acc * base ^ values.length + Nat.ofDigits base values.reverse = n := by
  induction cs generalizing acc with
  | nil =>
    simp [digitsFrom?, List.forall₂_nil_left_iff]
  | cons c cs ih =>
    have hmore : ∀ (d : Nat) (ds : List Nat),
        acc * base ^ (d :: ds).length + Nat.ofDigits base (d :: ds).reverse =
          (acc * base + d) * base ^ ds.length + Nat.ofDigits base ds.reverse := by
      intro d ds
      rw [List.reverse_cons, Nat.ofDigits_append, Nat.ofDigits_singleton, List.length_reverse,
        List.length_cons]
      ring
    simp only [digitsFrom?, Option.bind_eq_some_iff, ih]
    constructor
    · rintro ⟨d, hd, ds, hds, hn⟩
      exact ⟨d :: ds, .cons hd hds, (hmore d ds).trans hn⟩
    · rintro ⟨values, hvalues, hn⟩
      cases hvalues with
      | @cons _ d _ ds hd hds => exact ⟨d, hd, ds, hds, (hmore d ds).symm.trans hn⟩

theorem digits?_eq_digitsFrom? (h : cs ≠ []) : digits? base cs = digitsFrom? base 0 cs := by
  cases cs with
  | nil => exact absurd rfl h
  | cons c cs => rfl

/-! ## Base sixteen -/

theorem digitValue?_eq_some {c : Char} {d : Nat} :
    digitValue? c = some d ↔
      '0' ≤ c ∧ c ≤ '9' ∧ d = c.toNat - '0'.toNat ∨
      'a' ≤ c ∧ c ≤ 'z' ∧ d = c.toNat - 'a'.toNat + 10 ∨
      'A' ≤ c ∧ c ≤ 'Z' ∧ d = c.toNat - 'A'.toNat + 10 := by
  unfold digitValue?
  simp only [le_iff_toNat, Char.reduceToNat]
  grind

theorem digit?_sixteen {c : Char} {d : Nat} : digit? 16 c = some d ↔ HexDigit c d := by
  unfold digit?
  rw [Option.filter_eq_some_iff, digitValue?_eq_some, decide_eq_true_eq]
  constructor
  · rintro ⟨⟨low, high, rfl⟩ | ⟨low, -, rfl⟩ | ⟨low, -, rfl⟩, hlt⟩
    · exact .decimal low high
    · refine .small low (le_iff_toNat.mpr ?_)
      simp only [Char.reduceToNat] at hlt ⊢
      omega
    · refine .large low (le_iff_toNat.mpr ?_)
      simp only [Char.reduceToNat] at hlt ⊢
      omega
  · intro h
    cases h with
    | decimal low high =>
      refine ⟨Or.inl ⟨low, high, rfl⟩, ?_⟩
      have hhigh := le_iff_toNat.mp high
      simp only [Char.reduceToNat] at hhigh ⊢
      omega
    | small low high =>
      have hhigh := le_iff_toNat.mp high
      refine ⟨Or.inr (Or.inl ⟨low, ?_, rfl⟩), ?_⟩
      · exact le_iff_toNat.mpr (hhigh.trans (by decide))
      · simp only [Char.reduceToNat] at hhigh ⊢
        omega
    | large low high =>
      have hhigh := le_iff_toNat.mp high
      refine ⟨Or.inr (Or.inr ⟨low, ?_, rfl⟩), ?_⟩
      · exact le_iff_toNat.mpr (hhigh.trans (by decide))
      · simp only [Char.reduceToNat] at hhigh ⊢
        omega

theorem digits?_sixteen : digits? 16 cs = some n ↔ HexDigits cs n := by
  unfold HexDigits
  by_cases hnil : cs = []
  · simp [hnil, digits?]
  · rw [digits?_eq_digitsFrom? hnil, digitsFrom?_eq_some]
    simp [hnil, digit?_sixteen]

theorem unsigned?_sixteen : unsigned? 16 cs = some n ↔ HexNumeral cs n := by
  rw [unsigned?_iff]
  simp only [digits?_sixteen]
  rfl

theorem bounded?_sixteen {limit : Nat} :
    bounded? 16 limit cs = some n ↔ HexNumeral cs n ∧ n ≤ limit := by
  unfold bounded?
  rw [Option.filter_eq_some_iff, unsigned?_sixteen, decide_eq_true_eq]

/-! ## Numerals have no blanks -/

theorem HexDigit.not_isBlank {c : Char} {d : Nat} (h : HexDigit c d) : isBlank c = false := by
  have hvisible : '!'.toNat ≤ c.toNat ∧ c.toNat ≤ '~'.toNat := by
    cases h with
    | decimal low high | small low high | large low high =>
      have hlow := le_iff_toNat.mp low
      have hhigh := le_iff_toNat.mp high
      simp only [Char.reduceToNat] at hlow hhigh ⊢
      omega
  exact not_isBlank_visible hvisible.1 hvisible.2

theorem HexDigits.not_isBlank {digits : List Char} (h : HexDigits digits n) :
    ∀ c ∈ digits, isBlank c = false := by
  obtain ⟨-, values, hvalues, -⟩ := h
  induction hvalues with
  | nil => exact fun c hc => absurd hc List.not_mem_nil
  | cons hdigit _ ih => exact List.forall_mem_cons.mpr ⟨hdigit.not_isBlank, ih⟩

theorem HexNumeral.unpadded {t : String} (h : HexNumeral t.toList n) : trim t = t := by
  have hall : ∀ c ∈ t.toList, isBlank c = false := by
    obtain ⟨digits, hsame | hsame, hdigits⟩ := h
    · rw [hsame]
      exact hdigits.not_isBlank
    · rw [hsame]
      exact List.forall_mem_cons.mpr ⟨by decide, hdigits.not_isBlank⟩
  rw [trim_eq_self_iff]
  refine ⟨fun c hc => ?_, fun c hc => ?_⟩
  · exact hall c (List.mem_of_mem_head? hc)
  · exact hall c (List.mem_of_mem_getLast? hc)

end LinkWatch.Text
