import LinkWatch.Json.Skip
import LinkWatch.Proofs.Json.Tree

/-! # Strings are read as the grammar says -/

namespace LinkWatch.Json

open Text

/-! ## Single marks -/

section

variable {a b c d e x : Char} {n : Nat}

theorem simpleEscape?_ne (h : simpleEscape? e = some x) : e ≠ 'u' := by
  rintro rfl
  exact absurd h (by simp [simpleEscape?])

theorem stringFrom_char {text : List Char} (h : Mark.Written text (.char c)) (acc cs : List Char) :
    stringFrom acc (text ++ cs) = stringFrom (c :: acc) cs := by
  cases h with
  | plain quote backslash control => exact stringFrom_plain quote backslash control acc cs
  | simple escape => exact stringFrom_simple escape (simpleEscape?_ne escape) acc cs

theorem Mark.Written.of_unit {text : List Char} (h : Mark.Written text (.unit n)) :
    ∃ a b c d, text = ['\\', 'u', a, b, c, d] ∧ unit? a b c d = some n := by
  cases h with
  | unit digits => exact ⟨_, _, _, _, rfl, digits⟩

theorem stringFrom_unit (h : unit? a b c d = some n) (htrailing : ¬ isTrailing n = true)
    (hleading : ¬ isLeading n = true) (acc cs : List Char) :
    stringFrom acc (['\\', 'u', a, b, c, d] ++ cs) = stringFrom (Char.ofNat n :: acc) cs := by
  rw [List.cons_append, stringFrom.eq_def]
  simp [h, htrailing, hleading]

theorem stringFrom_trailing (h : unit? a b c d = some n) (htrailing : isTrailing n = true)
    (acc cs : List Char) :
    stringFrom acc (['\\', 'u', a, b, c, d] ++ cs) = .error (.here cs .loneSurrogate) := by
  rw [List.cons_append, stringFrom.eq_def]
  simp [h, htrailing]

theorem stringFrom_pair {i j k l : Char} {m : Nat} (h : unit? a b c d = some n)
    (htrailing : ¬ isTrailing n = true) (hleading : isLeading n = true)
    (h' : unit? i j k l = some m) (hpair : isTrailing m = true) (acc cs : List Char) :
    stringFrom acc (['\\', 'u', a, b, c, d] ++ (['\\', 'u', i, j, k, l] ++ cs)) =
      stringFrom (pairChar n m :: acc) cs := by
  rw [List.cons_append, stringFrom.eq_def]
  simp [h, htrailing, hleading, h', hpair]

/-- What may stand behind the first unit of a pair if it is not the second. -/
inductive Unpaired : List Char → Prop
  | plain {x : Char} {cs : List Char} (h : x ≠ '\\') : Unpaired (x :: cs)
  | simple {e : Char} {cs : List Char} (h : e ≠ 'u') : Unpaired ('\\' :: e :: cs)
  | unit {i j k l : Char} {m : Nat} {cs : List Char} (h : unit? i j k l = some m)
    (pair : ¬ isTrailing m = true) : Unpaired ('\\' :: 'u' :: i :: j :: k :: l :: cs)

theorem stringFrom_unpaired (h : unit? a b c d = some n) (htrailing : ¬ isTrailing n = true)
    (hleading : isLeading n = true) {cs : List Char} (hcs : Unpaired cs) (acc : List Char) :
    (stringFrom acc (['\\', 'u', a, b, c, d] ++ cs)).toOption = none := by
  rw [List.cons_append, stringFrom.eq_def]
  cases hcs with
  | plain hx => simp [h, htrailing, hleading, hx, Except.toOption]
  | simple he => simp [h, htrailing, hleading, he, Except.toOption]
  | unit h' hpair => simp [h, htrailing, hleading, h', hpair, Except.toOption]

end

/-! ## Strings -/

theorem Marks.unpaired {text : List Char} {ms : List Mark} (h : Marks text ms)
    (hms : ∀ m tail, ms = .unit m :: tail → ¬ isTrailing m = true) (rest : List Char) :
    Unpaired (text ++ '"' :: rest) := by
  cases h with
  | nil => exact .plain (by decide)
  | cons written marks =>
    rw [List.append_assoc]
    cases written with
    | plain quote backslash control => exact .plain backslash
    | simple escape => exact .simple (simpleEscape?_ne escape)
    | unit digits => exact .unit digits (hms _ _ rfl)

theorem stringFrom_marks {text : List Char} {ms : List Mark} (h : Marks text ms)
    (acc rest : List Char) :
    (stringFrom acc (text ++ '"' :: rest)).toOption =
      (characters? ms).map fun cs => (String.ofList (acc.reverse ++ cs), rest) := by
  -- The cases are those of the marks: a pair of units is one of them.
  induction ms using characters?.induct generalizing text acc with
  | case1 =>
    cases h
    rw [List.nil_append, stringFrom.eq_def]
    simp [characters?, Except.toOption]
  | case2 c ms ih =>
    obtain - | ⟨written, marks⟩ := h
    rw [List.append_assoc, stringFrom_char written, ih marks, characters?]
    simp [Function.comp_def]
  | case3 n ms htrailing =>
    obtain - | ⟨written, marks⟩ := h
    obtain ⟨_, _, _, _, rfl, digits⟩ := written.of_unit
    rw [List.append_assoc, stringFrom_trailing digits htrailing, characters?.eq_def]
    simp [htrailing, Except.toOption]
  | case4 n htrailing hleading m ms hpair ih =>
    obtain - | ⟨written, - | ⟨written', marks⟩⟩ := h
    obtain ⟨_, _, _, _, rfl, digits⟩ := written.of_unit
    obtain ⟨_, _, _, _, rfl, digits'⟩ := written'.of_unit
    rw [List.append_assoc, List.append_assoc,
      stringFrom_pair digits htrailing hleading digits' hpair, ih marks, characters?,
      if_neg htrailing, if_pos hleading, if_pos hpair]
    simp [Function.comp_def]
  | case5 n htrailing hleading m ms hpair =>
    obtain - | ⟨written, marks⟩ := h
    obtain ⟨_, _, _, _, rfl, digits⟩ := written.of_unit
    have hlone := marks.unpaired (fun m' tail hm => by
      obtain ⟨⟨rfl⟩, -⟩ := List.cons.inj hm
      exact hpair) rest
    rw [List.append_assoc, stringFrom_unpaired digits htrailing hleading hlone, characters?,
      if_neg htrailing, if_pos hleading, if_neg hpair]
    rfl
  | case6 n ms htrailing hleading hms =>
    obtain - | ⟨written, marks⟩ := h
    obtain ⟨_, _, _, _, rfl, digits⟩ := written.of_unit
    have hlone := marks.unpaired (fun m tail hm => absurd hm (hms m tail)) rest
    rw [List.append_assoc, stringFrom_unpaired digits htrailing hleading hlone, characters?,
      if_neg htrailing, if_pos hleading]
    · rfl
    · exact hms
  | case7 n ms htrailing hleading ih =>
    obtain - | ⟨written, marks⟩ := h
    obtain ⟨_, _, _, _, rfl, digits⟩ := written.of_unit
    rw [List.append_assoc, stringFrom_unit digits htrailing hleading, ih marks,
      characters?.eq_def (.unit n :: ms)]
    simp [htrailing, hleading, Function.comp_def]

theorem Quoted.string {text : List Char} {s : Option String} (h : Quoted text s)
    (rest : List Char) : (string (text ++ '"' :: rest)).toOption = s.map (·, rest) := by
  obtain ⟨ms, hmarks, rfl⟩ := h
  unfold Json.string
  rw [stringFrom_marks hmarks]
  simp [Function.comp_def]

theorem Mark.Written.skipString {text : List Char} {m : Mark} (h : m.Written text)
    (cs : List Char) : skipString (text ++ cs) = skipString cs := by
  rw [skipString.eq_def]
  cases h with
  | plain quote backslash control => simp [quote, backslash, control]
  | simple escape => simp [escape, simpleEscape?_ne escape]
  | unit digits => simp [digits]

/-- Any string is passed over, whether it stands for one or not. -/
theorem Quoted.skipString {text : List Char} {s : Option String} (h : Quoted text s)
    (rest : List Char) : skipString (text ++ '"' :: rest) = .ok rest := by
  obtain ⟨ms, hmarks, -⟩ := h
  induction hmarks with
  | nil =>
    rw [List.nil_append, Json.skipString.eq_def]
    simp
  | cons written marks ih => rw [List.append_assoc, written.skipString, ih]

end LinkWatch.Json
