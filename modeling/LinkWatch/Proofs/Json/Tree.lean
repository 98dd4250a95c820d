import LinkWatch.Proofs.Json.Decoder

/-! # The grammar of JSON texts

A tree is what a text says, whatever blanks stand in it and however its strings are escaped. -/

namespace LinkWatch.Json

open Text

/-! ## Strings -/

/-- What stands at one place of a string: a character, or a unit of sixteen bits by its number. -/
inductive Mark where
  | char (c : Char)
  | unit (n : Nat)
  deriving DecidableEq, Repr

inductive Mark.Written : List Char → Mark → Prop
  | plain {c : Char} (quote : c ≠ '"') (backslash : c ≠ '\\') (control : ¬ c < ' ') :
    Mark.Written [c] (.char c)
  | simple {e c : Char} (escape : simpleEscape? e = some c) : Mark.Written ['\\', e] (.char c)
  | unit {a b c d : Char} {n : Nat} (digits : unit? a b c d = some n) :
    Mark.Written ['\\', 'u', a, b, c, d] (.unit n)

inductive Marks : List Char → List Mark → Prop
  | nil : Marks [] []
  | cons {text rest : List Char} {m : Mark} {ms : List Mark} (written : m.Written text)
    (marks : Marks rest ms) : Marks (text ++ rest) (m :: ms)

/-- The characters that the marks stand for. Two units can stand for one character together, but
then none of the two stands for anything without the other. -/
def characters? : List Mark → Option (List Char)
  | [] => some []
  | .char c :: ms => (characters? ms).map (c :: ·)
  | .unit n :: ms =>
    if isTrailing n then none
    else if isLeading n then
      match ms with
      | .unit m :: ms => if isTrailing m then (characters? ms).map (pairChar n m :: ·) else none
      | _ => none
    else (characters? ms).map (Char.ofNat n :: ·)

/-- The text between two quotes, and the string that it stands for if it does for any. -/
def Quoted (text : List Char) (s : Option String) : Prop :=
  ∃ ms, Marks text ms ∧ s = (characters? ms).map String.ofList

/-! ## Numbers -/

def Digits (cs : List Char) : Prop := cs ≠ [] ∧ ∀ c ∈ cs, c.isDigit = true

/-- The digits before the point. None but zero itself starts with a zero. -/
inductive Integer : List Char → Prop
  | zero : Integer ['0']
  | positive {c : Char} {cs : List Char} (some : c ≠ '0') (digits : Digits (c :: cs)) :
    Integer (c :: cs)

inductive Fraction : List Char → Prop
  | absent : Fraction []
  | digits {ds : List Char} (digits : Digits ds) : Fraction ('.' :: ds)

inductive Exponent : List Char → Prop
  | absent : Exponent []
  | digits {e : Char} {sign ds : List Char} (letter : e = 'e' ∨ e = 'E')
    (signed : sign = [] ∨ sign = ['+'] ∨ sign = ['-']) (digits : Digits ds) :
    Exponent (e :: (sign ++ ds))

inductive Numeral : List Char → Prop
  | unsigned {ds fs es : List Char} (integer : Integer ds) (fraction : Fraction fs)
    (exponent : Exponent es) : Numeral (ds ++ (fs ++ es))
  | negative {ds fs es : List Char} (integer : Integer ds) (fraction : Fraction fs)
    (exponent : Exponent es) : Numeral ('-' :: (ds ++ (fs ++ es)))

/-! ## Values -/

/-- What a text says. Numbers are kept as they are written, and a string or a key only if it stands
for one. -/
inductive Tree where
  | null
  | bool (b : Bool)
  | number (numeral : List Char)
  | string (s : Option String)
  | list (items : List Tree)
  | object (members : List (Option String × Tree))

mutual

/-- The text of a value, from its first to its last character. -/
inductive Spells : List Char → Tree → Prop
  | null : Spells ['n', 'u', 'l', 'l'] .null
  | yes : Spells ['t', 'r', 'u', 'e'] (.bool true)
  | no : Spells ['f', 'a', 'l', 's', 'e'] (.bool false)
  | number {cs : List Char} (numeral : Numeral cs) : Spells cs (.number cs)
  | string {body : List Char} {s : Option String} (quoted : Quoted body s) :
    Spells ('"' :: (body ++ ['"'])) (.string s)
  | list {body : List Char} {vs : List Tree} (items : SpellsItems true body vs) :
    Spells ('[' :: (body ++ [']'])) (.list vs)
  | object {body : List Char} {ms : List (Option String × Tree)}
    (members : SpellsMembers true body ms) : Spells ('\x7b' :: (body ++ ['\x7d'])) (.object ms)

/-- The text after a bracket or after the items before these. -/
inductive SpellsItems : Bool → List Char → List Tree → Prop
  | done {first : Bool} {ws : List Char} (blank : Spaces ws) : SpellsItems first ws []
  | more {first : Bool} {sep text tail : List Char} {v : Tree} {vs : List Tree}
    (separates : Separates first sep) (value : Spells text v) (items : SpellsItems false tail vs) :
    SpellsItems first (sep ++ (text ++ tail)) (v :: vs)

/-- The text after a brace or after the members before these. -/
inductive SpellsMembers : Bool → List Char → List (Option String × Tree) → Prop
  | done {first : Bool} {ws : List Char} (blank : Spaces ws) : SpellsMembers first ws []
  | more {first : Bool} {sep key ws vs text tail : List Char} {k : Option String} {v : Tree}
    {ms : List (Option String × Tree)} (separates : Separates first sep) (quoted : Quoted key k)
    (before : Spaces ws) (after : Spaces vs) (value : Spells text v)
    (members : SpellsMembers false tail ms) :
    SpellsMembers first (sep ++ '"' :: (key ++ '"' :: (ws ++ ':' :: (vs ++ (text ++ tail)))))
      ((k, v) :: ms)

end

/-- A text that holds one value and blanks around it. -/
def Document (text : String) (v : Tree) : Prop :=
  ∃ before body after, text.toList = before ++ (body ++ after) ∧ Spaces before ∧ Spaces after ∧
    Spells body v

/-! ## How values start -/

/-- The first characters of values of the same form. -/
def Tree.Leads : Tree → Char → Prop
  | .null, c => c = 'n'
  | .bool true, c => c = 't'
  | .bool false, c => c = 'f'
  | .number _, c => c = '-' ∨ c.isDigit = true
  | .string _, c => c = '"'
  | .list _, c => c = '['
  | .object _, c => c = '\x7b'

theorem Integer.head {cs : List Char} (h : Integer cs) :
    ∃ c tail, cs = c :: tail ∧ c.isDigit = true := by
  cases h with
  | zero => exact ⟨_, _, rfl, by decide⟩
  | positive some digits => exact ⟨_, _, rfl, digits.2 _ List.mem_cons_self⟩

theorem Spells.leads {text : List Char} {v : Tree} (h : Spells text v) :
    ∃ c cs, text = c :: cs ∧ v.Leads c := by
  cases h with
  | null | yes | no | string | list | object => exact ⟨_, _, rfl, rfl⟩
  | number numeral =>
    cases numeral with
    | unsigned integer =>
      obtain ⟨c, tail, rfl, hc⟩ := integer.head
      exact ⟨_, _, rfl, Or.inr hc⟩
    | negative => exact ⟨_, _, rfl, Or.inl rfl⟩

theorem Tree.Leads.ne {v : Tree} {c : Char} (h : v.Leads c) {d : Char} (hd : ¬ v.Leads d) :
    c ≠ d := by
  rintro rfl
  exact hd h

theorem Tree.Leads.starts {v : Tree} {c : Char} (h : v.Leads c) : Starts c := by
  cases v with
  | null | string | list | object =>
    obtain rfl := h
    exact ⟨by decide, by decide⟩
  | bool b =>
    cases b with
    | true | false =>
      obtain rfl := h
      exact ⟨by decide, by decide⟩
  | number numeral =>
    rcases h with rfl | h
    · exact ⟨by decide, by decide⟩
    · refine ⟨isSpace_of_isDigit h, ?_⟩
      rintro rfl
      exact absurd h (by decide)

/-! ## What follows values -/

theorem SpellsItems.ends {body : List Char} {vs : List Tree} (h : SpellsItems false body vs)
    (rest : List Char) : Ends (body ++ ']' :: rest) := by
  cases h with
  | done blank => exact blank.ends (Or.inr (Or.inr (Or.inl rfl)))
  | more separates value items =>
    rw [List.append_assoc]
    exact separates.ends _

theorem SpellsMembers.ends {body : List Char} {ms : List (Option String × Tree)}
    (h : SpellsMembers false body ms) (rest : List Char) : Ends (body ++ '\x7d' :: rest) := by
  cases h with
  | done blank => exact blank.ends (Or.inr (Or.inr (Or.inr rfl)))
  | more separates quoted before after value members =>
    rw [List.append_assoc]
    exact separates.ends _

end LinkWatch.Json
