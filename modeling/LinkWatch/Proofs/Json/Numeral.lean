import LinkWatch.Proofs.Json.Quoted
import Mathlib.Data.List.Induction

/-! # Numerals are passed over whole, and only plain ones are read as natural numbers -/

namespace LinkWatch.Json

open Text

variable {ds fs es rest : List Char}

/-! ## Where the parts of a numeral end -/

theorem dropDigits_append (hdigits : ∀ c ∈ ds, c.isDigit = true)
    (hrest : startsWithDigit rest = false) : dropDigits (ds ++ rest) = rest := by
  unfold dropDigits
  rw [List.dropWhile_append_of_pos fun c hc => (isAsciiDigit_eq c).trans (hdigits c hc)]
  cases rest with
  | nil => rfl
  | cons c cs => exact List.dropWhile_cons_of_neg (by simpa [startsWithDigit] using hrest)

theorem Digits.startsWithDigit (h : Digits ds) (rest : List Char) :
    startsWithDigit (ds ++ rest) = true := by
  obtain ⟨hsome, hdigits⟩ := h
  cases ds with
  | nil => exact absurd rfl hsome
  | cons c cs => exact (isAsciiDigit_eq c).trans (hdigits c List.mem_cons_self)

theorem Exponent.startsWithDigit (h : Exponent es) (hrest : Ends rest) :
    startsWithDigit (es ++ rest) = false := by
  cases h with
  | absent => exact hrest.startsWithDigit
  | digits letter =>
    rcases letter with rfl | rfl
    · rfl
    · rfl

theorem Fraction.startsWithDigit (h : Fraction fs) (h' : Exponent es) (hrest : Ends rest) :
    startsWithDigit (fs ++ (es ++ rest)) = false := by
  cases h with
  | absent => exact h'.startsWithDigit hrest
  | digits => rfl

theorem Digits.head (h : Digits ds) : ∃ c cs, ds = c :: cs ∧ c.isDigit = true := by
  obtain ⟨hsome, hdigits⟩ := h
  cases ds with
  | nil => exact absurd rfl hsome
  | cons c cs => exact ⟨c, cs, rfl, hdigits c List.mem_cons_self⟩

theorem isDigit_ne {c d : Char} (h : c.isDigit = true) (hd : d.isDigit = false) : c ≠ d := by
  rintro rfl
  exact absurd h (by simp [hd])

/-! ## Passing over -/

theorem skipExponent_digits {sign : List Char} (hsign : sign = [] ∨ sign = ['+'] ∨ sign = ['-'])
    (h : Digits ds) (hrest : startsWithDigit rest = false) :
    skipExponent (sign ++ (ds ++ rest)) = .ok rest := by
  have hstart := h.startsWithDigit rest
  have hdrop := dropDigits_append h.2 hrest
  rcases hsign with rfl | rfl | rfl
  · obtain ⟨c, cs, rfl, hc⟩ := h.head
    have hplus : c ≠ '+' := isDigit_ne hc rfl
    have hminus : c ≠ '-' := isDigit_ne hc rfl
    rw [List.cons_append] at hstart hdrop
    simp [skipExponent, hplus, hminus, hstart, hdrop]
  · simp [skipExponent, hstart, hdrop]
  · simp [skipExponent, hstart, hdrop]

theorem Ends.cons_ne {c : Char} {cs : List Char} (h : Ends (c :: cs)) :
    c ≠ '.' ∧ c ≠ 'e' ∧ c ≠ 'E' := by
  have hfloat := h.startsFloat
  simpa [Json.startsFloat, and_assoc] using hfloat

theorem skipTail_exponent (h : Exponent es) (hrest : Ends rest) :
    skipTail (es ++ rest) = .ok rest := by
  cases h with
  | absent =>
    cases rest with
    | nil => rfl
    | cons c cs => simp [skipTail, hrest.cons_ne]
  | digits letter signed digits =>
    have hskip := skipExponent_digits signed digits hrest.startsWithDigit
    rcases letter with rfl | rfl
    · simp [skipTail, hskip]
    · simp [skipTail, hskip]

theorem skipTail_fraction (h : Fraction fs) (h' : Exponent es) (hrest : Ends rest) :
    skipTail (fs ++ (es ++ rest)) = .ok rest := by
  cases h with
  | absent => exact skipTail_exponent h' hrest
  | digits digits =>
    have hstart := digits.startsWithDigit (es ++ rest)
    have hdrop := dropDigits_append digits.2 (h'.startsWithDigit hrest)
    cases h' with
    | absent =>
      cases rest with
      | nil => simp_all [skipTail]
      | cons c cs => simp_all [skipTail, hrest.cons_ne]
    | digits letter signed digits' =>
      have hskip := skipExponent_digits signed digits' hrest.startsWithDigit
      rcases letter with rfl | rfl
      · simp_all [skipTail]
      · simp_all [skipTail]

theorem skipNumber_unsigned (h : Integer ds) (h' : Fraction fs) (h'' : Exponent es)
    (hrest : Ends rest) : skipNumber (ds ++ (fs ++ (es ++ rest))) = .ok rest := by
  have htail := skipTail_fraction h' h'' hrest
  have hstop := h'.startsWithDigit h'' hrest
  cases h with
  | zero => simp [skipNumber, hstop, htail]
  | @positive c cs some digits =>
    have hc : isAsciiDigit c = true := (isAsciiDigit_eq c).trans (digits.2 c List.mem_cons_self)
    have hdrop := dropDigits_append (fun d hd => digits.2 d (List.mem_cons_of_mem c hd)) hstop
    simp [skipNumber, some, hc, hdrop, htail]

theorem Numeral.skipScalar {cs : List Char} (h : Numeral cs) (hrest : Ends rest) :
    skipScalar (cs ++ rest) = .ok rest := by
  cases h with
  | unsigned integer fraction exponent =>
    have hskip := skipNumber_unsigned integer fraction exponent hrest
    obtain ⟨c, tail, rfl, hc⟩ := integer.head
    have hdigit : isAsciiDigit c = true := (isAsciiDigit_eq c).trans hc
    have hnull : c ≠ 'n' := isDigit_ne hc rfl
    have hyes : c ≠ 't' := isDigit_ne hc rfl
    have hno : c ≠ 'f' := isDigit_ne hc rfl
    have hsign : c ≠ '-' := isDigit_ne hc rfl
    simpa [Json.skipScalar, hdigit, hnull, hyes, hno, hsign] using hskip
  | negative integer fraction exponent =>
    simpa [Json.skipScalar] using skipNumber_unsigned integer fraction exponent hrest

/-! ## Numbers that are not natural -/

/-- If a number is read, then it is none of the natural ones. -/
def Unnatural (x : Except Fault (Number × List Char)) : Prop :=
  ∀ n rest, x ≠ .ok (.natural n, rest)

theorem unnatural_error (fault : Fault) : Unnatural (.error fault) := by
  intro n rest
  simp

theorem unnatural_float (bits : UInt64) (rest : List Char) :
    Unnatural (.ok (.float bits, rest)) := by
  intro n rest'
  simp

theorem assemble_unnatural (positive : Bool) (significand : Nat) (exponent : Int)
    (cs : List Char) : Unnatural (assemble positive significand exponent cs) := by
  unfold assemble
  dsimp only
  split
  · split
    · split
      · exact unnatural_error _
      · exact unnatural_float _ _
    · split
      · exact unnatural_float _ _
      · exact unnatural_error _
  · exact unnatural_float _ _

theorem exponent_unnatural (positive : Bool) (significand : Nat) (scale : Int) (cs : List Char) :
    Unnatural (exponent positive significand scale cs) := by
  unfold exponent
  split
  split
  · exact unnatural_error _
  · split
    · exact unnatural_error _
    · dsimp only
      split
      · split
        · exact unnatural_error _
        · exact unnatural_float _ _
      · exact assemble_unnatural _ _ _ _

theorem afterFraction_unnatural (positive : Bool) (significand : Nat) (scale : Int)
    (cs : List Char) : Unnatural (afterFraction positive significand scale cs) := by
  unfold afterFraction
  split
  · exact exponent_unnatural _ _ _ _
  · exact exponent_unnatural _ _ _ _
  · exact assemble_unnatural _ _ _ _

theorem afterDigits_unnatural (positive : Bool) (significand : Nat) (scale : Int)
    (cs : List Char) : Unnatural (afterDigits positive significand scale cs) := by
  unfold afterDigits
  split
  · unfold fraction
    split
    · exact afterFraction_unnatural _ _ _ _
    · exact unnatural_error _
  · exact afterFraction_unnatural _ _ _ _

theorem number_false_unnatural (cs : List Char) : Unnatural (number false cs) := by
  have hwhole : ∀ n rest, Unnatural (.ok (whole false n, rest)) := by
    intro n rest
    unfold whole
    split
    · exact absurd ‹_› Bool.false_ne_true
    · split
      · exact unnatural_float _ _
      · intro m rest'
        simp
  unfold number
  split
  · exact unnatural_error _
  · split
    · split
      · exact unnatural_error _
      · split
        · exact afterDigits_unnatural _ _ _ _
        · exact hwhole _ _
    · split
      · dsimp only
        split
        · exact afterDigits_unnatural _ _ _ _
        · split
          · exact afterDigits_unnatural _ _ _ _
          · exact hwhole _ _
      · exact unnatural_error _

/-! ## Digits without a fraction and an exponent -/

theorem digitChar_of_isDigit {c : Char} (h : c.isDigit = true) :
    Nat.digitChar (c.toNat - '0'.toNat) = c := by
  have hbounds := Char.isDigit_iff_toNat.mp h
  simp only [Char.reduceToNat] at hbounds ⊢
  have hall : ∀ n : Fin 10, Nat.digitChar n.val = Char.ofNat (n.val + 48) := by decide
  rw [hall ⟨c.toNat - 48, by omega⟩, Nat.sub_add_cancel hbounds.1, Char.ofNat_toNat]

theorem digit_lt_ten {c : Char} (h : c.isDigit = true) : c.toNat - '0'.toNat < 10 := by
  have hbounds := Char.isDigit_iff_toNat.mp h
  simp only [Char.reduceToNat] at hbounds ⊢
  omega

theorem Integer.digits (h : Integer ds) : Digits ds := by
  cases h with
  | zero => exact ⟨by simp, fun c hc => List.mem_singleton.mp hc ▸ rfl⟩
  | positive some digits => exact digits

theorem Integer.init {c : Char} (h : Integer (ds ++ [c])) (hsome : ds ≠ []) :
    Integer ds ∧ 0 < Nat.ofDigitChars 10 ds 0 := by
  obtain ⟨d, tail, rfl⟩ := List.exists_cons_of_ne_nil hsome
  generalize hall : d :: tail ++ [c] = all at h
  cases h with
  | zero => simp at hall
  | positive some digits =>
    obtain ⟨rfl, rfl⟩ := List.cons.inj hall
    have hd := digits.2 d List.mem_cons_self
    have hpositive : d.toNat - '0'.toNat ≠ 0 := by
      intro hzero
      have hsame := digitChar_of_isDigit hd
      rw [hzero] at hsame
      exact some hsame.symm
    refine ⟨.positive some ⟨by simp, fun x hx => digits.2 x ?_⟩, ?_⟩
    · rcases List.mem_cons.mp hx with rfl | hx
      · exact List.mem_cons_self
      · exact List.mem_cons_of_mem d (List.mem_append_left _ hx)
    · rw [Nat.ofDigitChars_cons]
      have hle := le_ofDigitChars tail (10 * 0 + (d.toNat - '0'.toNat))
      omega

theorem Integer.toDigits (h : Integer ds) :
    Nat.toDigits 10 (Nat.ofDigitChars 10 ds 0) = ds := by
  induction ds using List.reverseRecOn with
  | nil => exact absurd rfl h.digits.1
  | append_singleton ds c ih =>
    have hc := h.digits.2 c (List.mem_append_right ds List.mem_cons_self)
    have hlt := digit_lt_ten hc
    have hsame := digitChar_of_isDigit hc
    rw [Nat.ofDigitChars_append, Nat.ofDigitChars_cons, Nat.ofDigitChars_nil]
    by_cases hnone : ds = []
    · subst hnone
      rw [Nat.ofDigitChars_nil, Nat.mul_zero, Nat.zero_add, Nat.toDigits_of_lt_base hlt, hsame]
      rfl
    · obtain ⟨hinit, hpositive⟩ := h.init hnone
      rw [Nat.toDigits_of_base_le (by omega) (by omega), Nat.mul_add_div (by omega),
        Nat.mul_add_mod, Nat.div_eq_of_lt hlt, Nat.mod_eq_of_lt hlt, Nat.add_zero, ih hinit, hsame]

theorem Integer.number (h : Integer ds) (hlimit : Nat.ofDigitChars 10 ds 0 < significandLimit)
    (hrest : Ends rest) :
    number true (ds ++ rest) = .ok (.natural (Nat.ofDigitChars 10 ds 0), rest) := by
  have hread := number_toDigits hlimit hrest
  rwa [h.toDigits] at hread

theorem gather_overflow {limit : Nat} (value count : Nat) (hdigits : ∀ c ∈ ds, c.isDigit = true)
    (hvalue : value < limit) (hlimit : limit ≤ Nat.ofDigitChars 10 ds value) :
    startsWithDigit (gather limit value count (ds ++ rest)).rest = true := by
  induction ds generalizing value count with
  | nil => exact absurd hlimit (Nat.not_le.mpr hvalue)
  | cons c cs ih =>
    have hc := hdigits c List.mem_cons_self
    rw [Nat.ofDigitChars_cons, Nat.mul_comm] at hlimit
    rw [List.cons_append, gather, digit?_ten, if_pos hc]
    by_cases hbelow : value * 10 + (c.toNat - '0'.toNat) < limit
    · simp only [if_pos hbelow]
      exact ih _ _ (fun d hd => hdigits d (List.mem_cons_of_mem c hd)) hbelow hlimit
    · simp only [if_neg hbelow]
      exact (isAsciiDigit_eq c).trans hc

/-- Behind the first digits of a number that is no natural one, there is a digit that has found no
room, or the start of a fraction or of an exponent. -/
theorem number_unnatural (h : Integer ds) (hstop : startsWithDigit rest = false)
    (hmore : startsFloat rest = true ∨ significandLimit ≤ Nat.ofDigitChars 10 ds 0) :
    Unnatural (number true (ds ++ rest)) := by
  cases h with
  | zero =>
    have hfloat : startsFloat rest = true :=
      hmore.resolve_right (by decide)
    simp only [List.cons_append, List.nil_append, Json.number, hstop, hfloat]
    exact afterDigits_unnatural _ _ _ _
  | @positive c cs some digits =>
    have hc : isAsciiDigit c = true := (isAsciiDigit_eq c).trans (digits.2 c List.mem_cons_self)
    -- Either some digit is left over, or the number goes on behind all of them.
    have hgathered : startsWithDigit (gather significandLimit 0 0 (c :: cs ++ rest)).rest = true ∨
        startsFloat (gather significandLimit 0 0 (c :: cs ++ rest)).rest = true := by
      by_cases hlarge : significandLimit ≤ Nat.ofDigitChars 10 (c :: cs) 0
      · exact Or.inl (gather_overflow 0 0 digits.2 (by decide) hlarge)
      · rw [gather_digits hstop _ 0 0 (List.all_eq_true.mpr digits.2) (Nat.not_le.mp hlarge)]
        exact Or.inr (hmore.resolve_right hlarge)
    rw [List.cons_append] at hgathered ⊢
    simp only [Json.number, some, hc, if_false, if_true]
    split
    · exact afterDigits_unnatural _ _ _ _
    · next hdigit =>
      rw [if_pos (hgathered.resolve_left hdigit)]
      exact afterDigits_unnatural _ _ _ _

end LinkWatch.Json
