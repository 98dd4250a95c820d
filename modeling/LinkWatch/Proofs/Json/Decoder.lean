import LinkWatch.Json.Decoder
import LinkWatch.Proofs.Json.Lexeme

/-! # What decoders read, wherever it stands in a text -/

namespace LinkWatch.Json

open Text

variable {α σ : Type}

/-! ## Reading a value -/

/-- The decoder reads the text as the value, between blanks and what may follow a value, where more
levels of nesting are allowed than the text has. -/
def Reads (decode : Decoder α) (height : Nat) (text : List Char) (a : α) : Prop :=
  ∀ depth ws rest, height < depth → Spaces ws → Ends rest →
    decode depth (ws ++ (text ++ rest)) = .ok (a, rest)

theorem Reads.mono {decode : Decoder α} {low high : Nat} {text : List Char} {a : α}
    (h : Reads decode low text a) (hle : low ≤ high) : Reads decode high text a :=
  fun depth ws rest hdepth => h depth ws rest (Nat.lt_of_le_of_lt hle hdepth)

theorem atValue_spaces {read : Char → List Char → Except Fault (α × List Char)}
    {ws : List Char} (hw : Spaces ws) (cs : List Char) :
    atValue read (ws ++ cs) = atValue read cs := by
  unfold atValue
  rw [skipSpace_append hw]

theorem atValue_cons {read : Char → List Char → Except Fault (α × List Char)} {c : Char}
    (hc : isSpace c = false) (cs : List Char) : atValue read (c :: cs) = read c cs := by
  unfold atValue
  rw [skipSpace_cons hc]

/-- A value starts with neither a blank nor the end of a list. -/
structure Starts (c : Char) : Prop where
  solid : isSpace c = false
  inside : c ≠ ']'

theorem deeper_ok {depth : Nat} (h : 1 < depth) (cs : List Char) :
    deeper depth cs = .ok (depth - 1) := by
  unfold deeper
  rw [if_neg (by omega)]

/-! ## Scalars -/

theorem reads_true : Reads boolean 0 ['t', 'r', 'u', 'e'] true := by
  intro depth ws rest _ hws _
  unfold boolean
  rw [atValue_spaces hws]
  rfl

theorem reads_false : Reads boolean 0 ['f', 'a', 'l', 's', 'e'] false := by
  intro depth ws rest _ hws _
  unfold boolean
  rw [atValue_spaces hws]
  rfl

theorem isSpace_of_isDigit {c : Char} (h : c.isDigit = true) : isSpace c = false := by
  by_contra hspace
  simp only [isSpace, Bool.not_eq_false, Bool.or_eq_true, decide_eq_true_eq] at hspace
  rcases hspace with ((rfl | rfl) | rfl) | rfl
  · exact absurd h (by decide)
  · exact absurd h (by decide)
  · exact absurd h (by decide)
  · exact absurd h (by decide)

theorem reads_natural {limit n : Nat} (expected : String) (hn : n ≤ limit)
    (hlimit : limit < significandLimit) :
    Reads (natural limit expected) 0 (Nat.toDigits 10 n) n := by
  intro depth ws rest _ hws hrest
  have hnumber := number_toDigits (Nat.lt_of_le_of_lt hn hlimit) hrest
  have hdigits := all_isDigit_toDigits n
  unfold natural
  rw [atValue_spaces hws]
  cases hcs : Nat.toDigits 10 n with
  | nil => exact absurd hcs Nat.toDigits_ne_nil
  | cons c cs =>
    rw [hcs] at hnumber hdigits
    have hc := List.all_eq_true.mp hdigits c List.mem_cons_self
    have hsign : c ≠ '-' := by
      rintro rfl
      exact absurd hc (by decide)
    rw [List.cons_append] at hnumber ⊢
    rw [atValue_cons (isSpace_of_isDigit hc), if_neg hsign, isAsciiDigit_eq, if_pos hc, hnumber]
    simp [Number.bounded, hn, bind, Except.bind]

theorem reads_text (expected s : String) : Reads (textOf expected) 0 (writeString s) s := by
  intro depth ws rest _ hws _
  unfold textOf writeString
  rw [atValue_spaces hws, List.cons_append, List.cons_append, List.append_assoc,
    List.singleton_append, atValue_cons (by decide), if_pos rfl]
  exact string_written s rest

theorem reads_null (read : Decoder α) : Reads (optional read) 0 ['n', 'u', 'l', 'l'] none := by
  intro depth ws rest _ hws _
  unfold optional
  rw [skipSpace_append hws]
  rfl

theorem reads_some {read : Decoder α} {height : Nat} {c : Char} {cs : List Char} {a : α}
    (h : Reads read height (c :: cs) a) (hc : isSpace c = false) (hn : c ≠ 'n') :
    Reads (optional read) height (c :: cs) (some a) := by
  intro depth ws rest hdepth hws hrest
  have hread := h depth [] rest hdepth spaces_nil hrest
  rw [List.nil_append, List.cons_append] at hread
  unfold optional
  rw [skipSpace_append hws, List.cons_append, skipSpace_cons hc]
  split
  · next heq => exact absurd (List.cons.inj heq).1 hn
  · rw [hread]
    rfl

/-! ## What stands before an item or a member -/

inductive Separates : Bool → List Char → Prop
  | first {ws : List Char} (blank : Spaces ws) : Separates true ws
  | next {ws vs : List Char} (before : Spaces ws) (after : Spaces vs) :
    Separates false (ws ++ ',' :: vs)

theorem Separates.ends {sep : List Char} (h : Separates false sep) (rest : List Char) :
    Ends (sep ++ rest) := by
  cases h with
  | next before after =>
    rw [List.append_assoc]
    exact before.ends (Or.inr (Or.inl rfl))

/-! ## Items -/

/-- The text holds these items, after a bracket or after the items before them. -/
inductive Items (read : List Char → Except Fault (α × List Char)) :
    Bool → List Char → List α → Prop
  | done {first : Bool} {ws : List Char} (blank : Spaces ws) : Items read first ws []
  | more {first : Bool} {sep text tail : List Char} {c : Char} {a : α} {as : List α}
    (separates : Separates first sep) (starts : Starts c)
    (reads : ∀ rest, Ends rest → read (c :: text ++ rest) = .ok (a, rest))
    (items : Items read false tail as) :
    Items read first (sep ++ (c :: text ++ tail)) (a :: as)

variable {read : List Char → Except Fault (α × List Char)} {first : Bool}

theorem nextItem_done {ws : List Char} (h : Spaces ws) (rest : List Char) :
    nextItem first (ws ++ ']' :: rest) = .ok (false, ']' :: rest) := by
  unfold nextItem
  rw [skipSpace_append h]
  rfl

theorem nextItem_more {sep : List Char} {c : Char} (h : Separates first sep) (hc : Starts c)
    (rest : List Char) : nextItem first (sep ++ c :: rest) = .ok (true, c :: rest) := by
  unfold nextItem
  cases h with
  | first blank =>
    rw [skipSpace_append blank, skipSpace_cons hc.solid]
    simp [hc.inside]
  | next before after =>
    rw [List.append_assoc, skipSpace_append before, List.cons_append,
      skipSpace_cons (by decide)]
    simp only [skipSpace_append after, skipSpace_cons hc.solid]
    simp [hc.inside]

theorem Items.ends {text : List Char} {as : List α} (h : Items read false text as)
    (rest : List Char) : Ends (text ++ ']' :: rest) := by
  cases h with
  | done blank => exact blank.ends (Or.inr (Or.inr (Or.inl rfl)))
  | more separates starts reads items =>
    rw [List.append_assoc]
    exact separates.ends _

theorem Items.items {text : List Char} {as : List α} (h : Items read first text as)
    (rest : List Char) {n : Nat} (hn : text.length ≤ n) :
    items read (n + 1) first (text ++ ']' :: rest) = .ok (as, ']' :: rest) := by
  induction h generalizing n with
  | done blank =>
    rw [Json.items, nextItem_done blank]
    rfl
  | more separates starts reads items ih =>
    obtain ⟨m, rfl⟩ : ∃ m, n = m + 1 := Nat.exists_eq_add_one.mpr (by
      simp only [List.length_append, List.length_cons] at hn
      omega)
    have htail := ih (n := m) (by
      simp only [List.length_append, List.length_cons] at hn
      omega)
    rw [List.append_assoc, List.append_assoc, List.cons_append, Json.items,
      nextItem_more separates starts]
    have hread := reads _ (items.ends rest)
    rw [List.cons_append] at hread
    simp [bind, Except.bind, hread, htail, pure, Except.pure]

theorem Items.itemsOf {text : List Char} {as : List α} (h : Items read true text as)
    (rest : List Char) : itemsOf read (text ++ ']' :: rest) = .ok (as, rest) := by
  unfold Json.itemsOf
  rw [h.items rest (by simp)]
  rfl

theorem reads_list {decode : Decoder α} {height : Nat} {text : List Char} {as : List α}
    (h : ∀ depth, height < depth → Items (decode depth) true text as) :
    Reads (list decode) (height + 1) ('[' :: (text ++ [']'])) as := by
  intro depth ws rest hdepth hws _
  unfold list
  rw [atValue_spaces hws, List.cons_append, List.append_assoc, List.singleton_append,
    atValue_cons (by decide), if_pos rfl, deeper_ok (by omega)]
  exact (h (depth - 1) (by omega)).itemsOf rest

/-! ## Members -/

/-- The text after a quote holds a string up to its closing quote. -/
def Quotes (text : List Char) (s : String) : Prop := ∀ rest, string (text ++ rest) = .ok (s, rest)

/-- The text holds members that take the state to another one, after a brace or after the members
before them. -/
inductive Members (step : σ → String → List Char → Except Fault (σ × List Char)) :
    Bool → σ → List Char → σ → Prop
  | done {first : Bool} {ws : List Char} (s : σ) (blank : Spaces ws) : Members step first s ws s
  | more {first : Bool} {sep quoted text tail : List Char} {key : String} {s₁ s₂ s₃ : σ}
    (separates : Separates first sep) (quotes : Quotes quoted key)
    (steps : ∀ rest, Ends rest → step s₁ key (text ++ rest) = .ok (s₂, rest))
    (members : Members step false s₂ tail s₃) :
    Members step first s₁ (sep ++ ('"' :: quoted ++ (text ++ tail))) s₃

variable {step : σ → String → List Char → Except Fault (σ × List Char)}

theorem nextKey_done {ws : List Char} (h : Spaces ws) (rest : List Char) :
    nextKey first (ws ++ '\x7d' :: rest) = .ok (none, '\x7d' :: rest) := by
  unfold nextKey
  rw [skipSpace_append h]
  rfl

theorem nextKey_more {sep quoted : List Char} {key : String} (h : Separates first sep)
    (hq : Quotes quoted key) (rest : List Char) :
    nextKey first (sep ++ '"' :: (quoted ++ rest)) = .ok (some key, rest) := by
  have hkey := hq rest
  unfold nextKey
  cases h with
  | first blank =>
    rw [skipSpace_append blank, skipSpace_cons (by decide)]
    simp [hkey, Except.map]
  | next before after =>
    rw [List.append_assoc, skipSpace_append before, List.cons_append,
      skipSpace_cons (by decide)]
    simp only [skipSpace_append after, skipSpace_cons (show isSpace '"' = false by decide)]
    simp [hkey, Except.map]

theorem Members.ends {s t : σ} {text : List Char} (h : Members step false s text t)
    (rest : List Char) : Ends (text ++ '\x7d' :: rest) := by
  cases h with
  | done s blank => exact blank.ends (Or.inr (Or.inr (Or.inr rfl)))
  | more separates quotes steps members =>
    rw [List.append_assoc]
    exact separates.ends _

theorem Members.members {s t : σ} {text : List Char} (h : Members step first s text t)
    (rest : List Char) {n : Nat} (hn : text.length ≤ n) :
    members step (n + 1) first s (text ++ '\x7d' :: rest) = .ok (t, '\x7d' :: rest) := by
  induction h generalizing n with
  | done s blank =>
    rw [Json.members, nextKey_done blank]
    rfl
  | more separates quotes steps members ih =>
    obtain ⟨m, rfl⟩ : ∃ m, n = m + 1 := Nat.exists_eq_add_one.mpr (by
      simp only [List.length_append, List.length_cons] at hn
      omega)
    have htail := ih (n := m) (by
      simp only [List.length_append, List.length_cons] at hn
      omega)
    have hstep := steps _ (members.ends rest)
    rw [List.append_assoc, List.append_assoc, List.append_assoc, List.cons_append, Json.members,
      nextKey_more separates quotes]
    simp [bind, Except.bind, hstep, htail]

/-! ## Records -/

theorem colon_cons (cs : List Char) : colon (':' :: cs) = .ok cs := rfl

theorem colon_spaces {ws : List Char} (h : Spaces ws) (cs : List Char) :
    colon (ws ++ ':' :: cs) = .ok cs := by
  unfold colon
  rw [skipSpace_append h]
  exact colon_cons cs

variable {form : Form σ} {height : Nat}

theorem reads_form {text : List Char} {s : σ} {seen : List String}
    (h : ∀ depth, height < depth →
      Members (form.member depth) true (form.initial, []) text (s, seen))
    (hfinish : form.complete = true → form.missing? seen = none) :
    Reads form.decode (height + 1) ('\x7b' :: (text ++ ['\x7d'])) s := by
  intro depth ws rest hdepth hws _
  have hmembers := (h (depth - 1) (by omega)).members rest (n := (text ++ '\x7d' :: rest).length)
    (by simp)
  have hdone : form.finish s seen ('\x7d' :: rest) = .ok (s, '\x7d' :: rest) := by
    unfold Form.finish
    split
    · next name hcomplete hmissing =>
      rw [hfinish hcomplete] at hmissing
      exact absurd hmissing (by simp)
    · rfl
  unfold Form.decode
  rw [atValue_spaces hws, List.cons_append, List.append_assoc, List.singleton_append,
    atValue_cons (by decide), if_neg (by decide), if_pos rfl,
    deeper_ok (by omega)]
  simp only [bind, Except.bind]
  unfold Form.ofObject
  rw [hmembers]
  simp only [bind, Except.bind, hdone]
  rfl

theorem member_known {depth : Nat} {s t : σ} {seen : List String} {key : String} {f : Field σ}
    {ws cs rest : List Char} (hfield : form.field? key = some f) (hseen : key ∉ seen)
    (hws : Spaces ws) (hread : f.read depth s cs = .ok (t, rest)) :
    form.member depth (s, seen) key (ws ++ ':' :: cs) = .ok ((t, key :: seen), rest) := by
  unfold Form.member
  rw [hfield]
  simp only [if_neg hseen, colon_spaces hws]
  simp [bind, Except.bind, hread, pure, Except.pure]

end LinkWatch.Json
