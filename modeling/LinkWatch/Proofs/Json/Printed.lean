import LinkWatch.Proofs.Json.Numeral
import LinkWatch.Proofs.Json.Written

/-! # What is written is JSON -/

namespace LinkWatch.Json

open Text

/-! ## Strings -/

theorem exists_mark (c : Char) :
    ∃ m : Mark, m.Written (escaped c) ∧
      ∀ ms, characters? (m :: ms) = (characters? ms).map (c :: ·) := by
  rcases escaped_cases c with ⟨e, hc, he⟩ | ⟨hcontrol, hc⟩ | ⟨hquote, hslash, hcontrol, hc⟩
  · exact ⟨.char c, hc ▸ .simple he, fun _ => rfl⟩
  · have hlt := toNat_control hcontrol
    refine ⟨.unit c.toNat, hc ▸ .unit (unit?_code c.toNat hlt), fun ms => ?_⟩
    rw [characters?.eq_def]
    simp [not_paired hlt]
  · exact ⟨.char c, hc ▸ .plain hquote hslash hcontrol, fun _ => rfl⟩

theorem quoted_written (s : String) : Quoted (s.toList.flatMap escaped) (some s) := by
  have hmarks : ∀ cs : List Char,
      ∃ ms, Marks (cs.flatMap escaped) ms ∧ characters? ms = some cs := by
    intro cs
    induction cs with
    | nil => exact ⟨[], .nil, rfl⟩
    | cons c cs ih =>
      obtain ⟨ms, hmarks, hms⟩ := ih
      obtain ⟨m, hwritten, hm⟩ := exists_mark c
      exact ⟨m :: ms, .cons hwritten hmarks, by rw [hm, hms]; rfl⟩
  obtain ⟨ms, hms, hcharacters⟩ := hmarks s.toList
  exact ⟨ms, hms, by rw [hcharacters]; simp⟩

/-! ## Numbers -/

theorem integer_toDigits (n : Nat) : Integer (Nat.toDigits 10 n) := by
  by_cases hzero : n = 0
  · subst hzero
    exact .zero
  · have hdigits := List.all_eq_true.mp (all_isDigit_toDigits n)
    have hhead := head?_toDigits hzero
    cases hcs : Nat.toDigits 10 n with
    | nil => exact absurd hcs Nat.toDigits_ne_nil
    | cons c cs =>
      rw [hcs] at hdigits hhead
      exact .positive (by simpa using hhead) ⟨by simp, hdigits⟩

theorem numeral_toDigits (n : Nat) : Numeral (Nat.toDigits 10 n) := by
  have hnumeral := Numeral.unsigned (integer_toDigits n) .absent .absent
  rwa [List.append_nil, List.append_nil] at hnumeral

/-! ## Values -/

mutual

/-- What the written value says. -/
def Value.tree : Value → Tree
  | .null => .null
  | .bool b => .bool b
  | .natural n => .number (Nat.toDigits 10 n)
  | .string s => .string (some s)
  | .list items => .list (Value.trees items)
  | .object members => .object (Value.memberTrees members)

def Value.trees : List Value → List Tree
  | [] => []
  | v :: vs => v.tree :: Value.trees vs

def Value.memberTrees : List (String × Value) → List (Option String × Tree)
  | [] => []
  | (k, v) :: ms => (some k, v.tree) :: Value.memberTrees ms

end

mutual

theorem Value.spells {l : Layout} (hl : l.Blank) :
    (v : Value) → (level : Nat) → Spells (v.write l level) v.tree
  | .null, _ => .null
  | .bool true, _ => .yes
  | .bool false, _ => .no
  | .natural n, _ => .number (numeral_toDigits n)
  | .string s, _ => .string (quoted_written s)
  | .list [], _ => .list (.done spaces_nil)
  | .list (v :: vs), level => by
    have hitems := SpellsItems.more (.first (hl.lineBreak (level + 1)))
      (Value.spells hl v (level + 1)) (Value.spellsItems hl vs (level + 1) level)
    rw [Value.write, Value.tree, Value.trees]
    simpa using Spells.list hitems
  | .object [], _ => .object (.done spaces_nil)
  | .object ((k, v) :: ms), level => by
    have hmembers := SpellsMembers.more (.first (hl.lineBreak (level + 1))) (quoted_written k)
      spaces_nil hl.afterColon (Value.spells hl v (level + 1))
      (Value.spellsMembers hl ms (level + 1) level)
    rw [Value.write, Value.tree, Value.memberTrees, writeString]
    simpa using Spells.object hmembers

theorem Value.spellsItems {l : Layout} (hl : l.Blank) :
    (vs : List Value) → (level last : Nat) →
      SpellsItems false (Value.writeItems l level vs ++ l.lineBreak last) (Value.trees vs)
  | [], _, last => .done (hl.lineBreak last)
  | v :: vs, level, last => by
    have hmore := SpellsItems.more (.next spaces_nil (hl.lineBreak level))
      (Value.spells hl v level) (Value.spellsItems hl vs level last)
    rw [Value.writeItems, Value.trees]
    simpa using hmore

theorem Value.spellsMembers {l : Layout} (hl : l.Blank) :
    (ms : List (String × Value)) → (level last : Nat) →
      SpellsMembers false (Value.writeMembers l level ms ++ l.lineBreak last)
        (Value.memberTrees ms)
  | [], _, last => .done (hl.lineBreak last)
  | (k, v) :: ms, level, last => by
    have hmore := SpellsMembers.more (.next spaces_nil (hl.lineBreak level)) (quoted_written k)
      spaces_nil hl.afterColon (Value.spells hl v level)
      (Value.spellsMembers hl ms level last)
    rw [Value.writeMembers, Value.memberTrees, writeString]
    simpa using hmore

end

theorem Value.document {l : Layout} (hl : l.Blank) (v : Value) : Document (v.render l) v.tree :=
  ⟨[], v.write l 0, [], by simp [Value.render], spaces_nil, spaces_nil, v.spells hl 0⟩

end LinkWatch.Json
