import LinkWatch.Text.Blank
import Mathlib.Data.List.DropRight

/-! # Trimming leaves no blank at either end, and nothing else undone -/

namespace LinkWatch.Text

theorem trimChars_eq (cs : List Char) :
    trimChars cs = (cs.dropWhile isBlank).rdropWhile isBlank := rfl

theorem isBlank_head {c : Char} {cs rest : List Char} (h : cs.dropWhile isBlank = c :: rest) :
    isBlank c = false := by
  have hhead := List.head?_dropWhile_not isBlank cs
  rw [h] at hhead
  simpa using hhead

theorem dropWhile_trimChars (cs : List Char) :
    (trimChars cs).dropWhile isBlank = trimChars cs := by
  obtain ⟨rest, hrest⟩ := List.rdropWhile_prefix isBlank (cs.dropWhile isBlank)
  rw [← trimChars_eq] at hrest
  cases htrim : trimChars cs with
  | nil => rfl
  | cons c trimmed =>
    rw [htrim, List.cons_append] at hrest
    rw [List.dropWhile_cons_of_neg]
    simp [isBlank_head hrest.symm]

theorem trimChars_trimChars (cs : List Char) : trimChars (trimChars cs) = trimChars cs := by
  rw [trimChars_eq (trimChars cs), dropWhile_trimChars, trimChars_eq, List.rdropWhile_idempotent]

theorem trim_trim (s : String) : trim (trim s) = trim s := by
  unfold trim
  rw [String.toList_ofList, trimChars_trimChars]

/-! ## What trimming leaves alone -/

theorem not_isBlank_visible {c : Char} (low : '!'.toNat ≤ c.toNat) (high : c.toNat ≤ '~'.toNat) :
    isBlank c = false := by
  simp only [Char.reduceToNat] at low high
  unfold isBlank blankRanges
  simp only [List.any_cons, List.any_nil, Bool.or_false, Bool.or_eq_false_iff,
    Bool.and_eq_false_iff, decide_eq_false_iff_not]
  omega

theorem dropWhile_blank_iff {cs : List Char} :
    cs.dropWhile isBlank = cs ↔ ∀ c ∈ cs.head?, isBlank c = false := by
  rw [List.dropWhile_eq_self_iff]
  cases cs with
  | nil => simp
  | cons c cs => simp

theorem rdropWhile_blank_iff {cs : List Char} :
    cs.rdropWhile isBlank = cs ↔ ∀ c ∈ cs.getLast?, isBlank c = false := by
  rw [List.rdropWhile_eq_self_iff]
  rcases List.eq_nil_or_concat cs with rfl | ⟨before, last, rfl⟩
  · simp
  · simp

theorem trimChars_eq_self_iff {cs : List Char} :
    trimChars cs = cs ↔
      (∀ c ∈ cs.head?, isBlank c = false) ∧ ∀ c ∈ cs.getLast?, isBlank c = false := by
  rw [← dropWhile_blank_iff, ← rdropWhile_blank_iff]
  constructor
  · intro h
    have hleft := dropWhile_trimChars cs
    rw [h] at hleft
    refine ⟨hleft, ?_⟩
    rw [trimChars_eq, hleft] at h
    exact h
  · rintro ⟨hleft, hright⟩
    rw [trimChars_eq, hleft, hright]

theorem trim_eq_self_iff {s : String} :
    trim s = s ↔ (∀ c ∈ s.toList.head?, isBlank c = false) ∧
      ∀ c ∈ s.toList.getLast?, isBlank c = false := by
  rw [← trimChars_eq_self_iff, ← String.toList_inj, trim, String.toList_ofList]

/-! ## Blanks around a text -/

def Blanks (s : String) : Prop := ∀ c ∈ s.toList, isBlank c = true

theorem trimChars_around {left right : List Char} (hleft : ∀ c ∈ left, isBlank c = true)
    (hright : ∀ c ∈ right, isBlank c = true) (cs : List Char) :
    trimChars (left ++ cs ++ right) = trimChars cs := by
  have hback : ∀ l : List Char, (l ++ right).rdropWhile isBlank = l.rdropWhile isBlank := by
    intro l
    have hreverse : ∀ c ∈ right.reverse, isBlank c = true := by simpa using hright
    unfold List.rdropWhile
    rw [List.reverse_append, List.dropWhile_append_of_pos hreverse]
  rw [trimChars_eq, trimChars_eq, List.append_assoc, List.dropWhile_append_of_pos hleft,
    List.dropWhile_append]
  split
  · next hnil =>
    rw [List.dropWhile_eq_nil_iff.mpr hright, List.isEmpty_iff.mp hnil]
  · exact hback _

theorem trim_around {left right : String} (hleft : Blanks left) (hright : Blanks right)
    (t : String) : trim (left ++ t ++ right) = trim t := by
  unfold trim
  rw [String.toList_append, String.toList_append, trimChars_around hleft hright]

theorem exists_around (s : String) :
    ∃ left right, Blanks left ∧ Blanks right ∧ s = left ++ trim s ++ right := by
  have hback := @List.rdropWhile_append_rtakeWhile _ isBlank (s.toList.dropWhile isBlank)
  refine ⟨String.ofList (s.toList.takeWhile isBlank),
    String.ofList ((s.toList.dropWhile isBlank).rtakeWhile isBlank), ?_, ?_, ?_⟩
  · intro c hc
    rw [String.toList_ofList] at hc
    exact List.mem_takeWhile_imp hc
  · intro c hc
    rw [String.toList_ofList] at hc
    exact List.mem_rtakeWhile_imp hc
  · unfold trim
    rw [← String.toList_inj]
    simp only [String.toList_append, String.toList_ofList]
    rw [trimChars_eq, List.append_assoc, hback, List.takeWhile_append_dropWhile]

end LinkWatch.Text
