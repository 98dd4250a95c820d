import LinkWatch.Json.Lexeme
import LinkWatch.Json.Printer
import LinkWatch.Proofs.Text.Numeral

/-! # Blanks, strings and numerals are read as they were written -/

namespace LinkWatch.Json

open Text

/-! ## Blanks -/

def Spaces (cs : List Char) : Prop := ∀ c ∈ cs, isSpace c = true

theorem spaces_nil : Spaces [] := by simp [Spaces]

theorem skipSpace_append {ws : List Char} (h : Spaces ws) (cs : List Char) :
    skipSpace (ws ++ cs) = skipSpace cs :=
  List.dropWhile_append_of_pos h

theorem skipSpace_cons {c : Char} (h : isSpace c = false) (cs : List Char) :
    skipSpace (c :: cs) = c :: cs := by
  unfold skipSpace
  rw [List.dropWhile_cons_of_neg]
  simp [h]

/-! ## What may follow a value -/

/-- Nothing, a blank, or what separates or closes values. -/
def Ends : List Char → Prop
  | [] => True
  | c :: _ => isSpace c = true ∨ c = ',' ∨ c = ']' ∨ c = '\x7d'

theorem Spaces.ends {ws rest : List Char} (hw : Spaces ws) (h : Ends rest) :
    Ends (ws ++ rest) := by
  cases ws with
  | nil => exact h
  | cons c ws => exact Or.inl (hw c List.mem_cons_self)

theorem Ends.cases {c : Char} {cs : List Char} (h : Ends (c :: cs)) :
    c ∈ [' ', '\n', '\t', '\r', ',', ']', '\x7d'] := by
  rcases h with h | h | h | h
  · simp only [isSpace, Bool.or_eq_true, decide_eq_true_eq] at h
    rcases h with ((rfl | rfl) | rfl) | rfl
    · decide
    · decide
    · decide
    · decide
  · simp [h]
  · simp [h]
  · simp [h]

theorem Ends.startsWithDigit {rest : List Char} (h : Ends rest) : startsWithDigit rest = false := by
  cases rest with
  | nil => rfl
  | cons c cs =>
    have hall : [' ', '\n', '\t', '\r', ',', ']', '\x7d'].all (!isAsciiDigit ·) = true := rfl
    have hnot := List.all_eq_true.mp hall c h.cases
    rw [Bool.not_eq_true'] at hnot
    exact hnot

theorem Ends.startsFloat {rest : List Char} (h : Ends rest) : startsFloat rest = false := by
  cases rest with
  | nil => rfl
  | cons c cs =>
    have hall : [' ', '\n', '\t', '\r', ',', ']', '\x7d'].all
        (fun d => !(d = '.' || d = 'e' || d = 'E')) = true := rfl
    have hnot := List.all_eq_true.mp hall c h.cases
    rw [Bool.not_eq_true'] at hnot
    exact hnot

/-! ## Strings -/

theorem unit?_code (n : Nat) (h : n < 32) :
    unit? '0' '0' (Nat.digitChar (n / 16)) (Nat.digitChar (n % 16)) = some n := by
  have hall : ∀ m : Fin 32,
      unit? '0' '0' (Nat.digitChar (m / 16)) (Nat.digitChar (m % 16)) = some m.val := by decide
  exact hall ⟨n, h⟩

theorem not_paired {n : Nat} (h : n < 32) : isTrailing n = false ∧ isLeading n = false := by
  simp only [isTrailing, isLeading, Bool.and_eq_false_iff, decide_eq_false_iff_not]
  omega

theorem toNat_control {c : Char} (h : c < ' ') : c.toNat < 32 := by
  rwa [Char.lt_def, UInt32.lt_iff_toNat_lt] at h

theorem stringFrom_code {c : Char} (h : c < ' ') (acc cs : List Char) :
    stringFrom acc (codeEscape c ++ cs) = stringFrom (c :: acc) cs := by
  have hunit := unit?_code c.toNat (toNat_control h)
  obtain ⟨htrailing, hleading⟩ := not_paired (toNat_control h)
  have hchar : Char.ofNat c.toNat = c := Char.ofNat_toNat c
  simp only [codeEscape, List.cons_append, List.nil_append]
  rw [stringFrom.eq_def]
  simp [hunit, htrailing, hleading, hchar]

theorem stringFrom_simple {e x : Char} (h : simpleEscape? e = some x) (hu : e ≠ 'u')
    (acc cs : List Char) : stringFrom acc ('\\' :: e :: cs) = stringFrom (x :: acc) cs := by
  rw [stringFrom.eq_def]
  simp [h, hu]

theorem stringFrom_plain {c : Char} (hquote : c ≠ '"') (hslash : c ≠ '\\') (hcontrol : ¬ c < ' ')
    (acc cs : List Char) : stringFrom acc (c :: cs) = stringFrom (c :: acc) cs := by
  rw [stringFrom.eq_def]
  simp [hquote, hslash, hcontrol]

theorem escaped_cases (c : Char) :
    (∃ e, escaped c = ['\\', e] ∧ simpleEscape? e = some c) ∨
      (c < ' ' ∧ escaped c = codeEscape c) ∨
        c ≠ '"' ∧ c ≠ '\\' ∧ ¬ c < ' ' ∧ escaped c = [c] := by
  unfold escaped
  split_ifs with hquote hslash hback htab hline hfeed hreturn hcontrol
  · exact Or.inl ⟨_, rfl, by rw [hquote]; rfl⟩
  · exact Or.inl ⟨_, rfl, by rw [hslash]; rfl⟩
  · exact Or.inl ⟨_, rfl, by rw [hback]; rfl⟩
  · exact Or.inl ⟨_, rfl, by rw [htab]; rfl⟩
  · exact Or.inl ⟨_, rfl, by rw [hline]; rfl⟩
  · exact Or.inl ⟨_, rfl, by rw [hfeed]; rfl⟩
  · exact Or.inl ⟨_, rfl, by rw [hreturn]; rfl⟩
  · exact Or.inr (Or.inl ⟨hcontrol, rfl⟩)
  · exact Or.inr (Or.inr ⟨hquote, hslash, hcontrol, rfl⟩)

theorem stringFrom_escaped (c : Char) (acc cs : List Char) :
    stringFrom acc (escaped c ++ cs) = stringFrom (c :: acc) cs := by
  rcases escaped_cases c with ⟨e, hc, he⟩ | ⟨hcontrol, hc⟩ | ⟨hquote, hslash, hcontrol, hc⟩
  · have hu : e ≠ 'u' := by
      rintro rfl
      exact absurd he (by simp [simpleEscape?])
    rw [hc]
    exact stringFrom_simple he hu acc cs
  · rw [hc]
    exact stringFrom_code hcontrol acc cs
  · rw [hc]
    exact stringFrom_plain hquote hslash hcontrol acc cs

theorem stringFrom_written (acc cs rest : List Char) :
    stringFrom acc (cs.flatMap escaped ++ '"' :: rest) =
      .ok (String.ofList (acc.reverse ++ cs), rest) := by
  induction cs generalizing acc with
  | nil =>
    rw [stringFrom.eq_def]
    simp
  | cons c cs ih =>
    rw [List.flatMap_cons, List.append_assoc, stringFrom_escaped, ih]
    simp

theorem string_written (s : String) (rest : List Char) :
    string (s.toList.flatMap escaped ++ '"' :: rest) = .ok (s, rest) := by
  unfold string
  rw [stringFrom_written]
  simp

/-! ## Numbers -/

/-- Digits are gathered up to their end as long as what they denote stays below the limit. -/
theorem gather_digits {limit : Nat} {rest : List Char} (hrest : startsWithDigit rest = false)
    (cs : List Char) (value count : Nat) (hdigits : cs.all Char.isDigit = true)
    (hlimit : Nat.ofDigitChars 10 cs value < limit) :
    gather limit value count (cs ++ rest) =
      ⟨Nat.ofDigitChars 10 cs value, count + cs.length, rest⟩ := by
  induction cs generalizing value count with
  | nil =>
    cases rest with
    | nil => rfl
    | cons c rest =>
      have hnone : digit? 10 c = none := by
        simpa [startsWithDigit, isAsciiDigit] using hrest
      rw [List.nil_append, gather, hnone]
      rfl
  | cons c cs ih =>
    rw [List.all_cons, Bool.and_eq_true] at hdigits
    rw [Nat.ofDigitChars_cons, Nat.mul_comm] at hlimit ⊢
    have hbelow := Nat.lt_of_le_of_lt (le_ofDigitChars cs _) hlimit
    rw [List.cons_append, gather, digit?_ten, if_pos hdigits.1]
    simp only [if_pos hbelow]
    rw [ih _ _ hdigits.2 hlimit, List.length_cons, Nat.add_right_comm, Nat.add_assoc]

theorem number_toDigits {n : Nat} (hn : n < significandLimit) {rest : List Char}
    (hrest : Ends rest) : number true (Nat.toDigits 10 n ++ rest) = .ok (.natural n, rest) := by
  by_cases hzero : n = 0
  · subst hzero
    simp [number, hrest.startsWithDigit, hrest.startsFloat, whole]
  · have hlimit : Nat.ofDigitChars 10 (Nat.toDigits 10 n) 0 < significandLimit := by
      rw [Nat.ofDigitChars_ten_toDigits]
      exact hn
    have hgather := gather_digits hrest.startsWithDigit (Nat.toDigits 10 n) 0 0
      (all_isDigit_toDigits n) hlimit
    rw [Nat.ofDigitChars_ten_toDigits] at hgather
    have hdigits := all_isDigit_toDigits n
    have hhead := head?_toDigits hzero
    cases hcs : Nat.toDigits 10 n with
    | nil => exact absurd hcs Nat.toDigits_ne_nil
    | cons c cs =>
      rw [hcs] at hgather hdigits hhead
      have hc : isAsciiDigit c = true := by
        rw [isAsciiDigit_eq]
        simpa using List.all_eq_true.mp hdigits c List.mem_cons_self
      have hne : c ≠ '0' := by simpa using hhead
      rw [List.cons_append] at hgather ⊢
      simp only [number, hne, hc, hgather, hrest.startsWithDigit, hrest.startsFloat, whole]
      simp

end LinkWatch.Json
