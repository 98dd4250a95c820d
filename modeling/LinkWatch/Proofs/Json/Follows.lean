import LinkWatch.Proofs.Json.Numeral

/-! # Decoders read what trees say -/

namespace LinkWatch.Json

open Text

variable {α β : Type}

/-! ## Views of trees -/

def Tree.bool? : Tree → Option Bool
  | .bool b => some b
  | _ => none

def Tree.natural? (limit : Nat) : Tree → Option Nat
  | .number cs =>
    if cs.all Char.isDigit ∧ Nat.ofDigitChars 10 cs 0 ≤ limit then some (Nat.ofDigitChars 10 cs 0)
    else none
  | _ => none

def Tree.text? : Tree → Option String
  | .string s => s
  | _ => none

def Tree.optional? (view : Tree → Option α) : Tree → Option (Option α)
  | .null => some none
  | v => (view v).map some

def Tree.list? (view : Tree → Option α) : Tree → Option (List α)
  | .list vs => vs.mapM view
  | _ => none

theorem bool?_eq_some_iff {v : Tree} {b : Bool} : v.bool? = some b ↔ v = .bool b := by
  cases v with
  | bool c => simp [Tree.bool?]
  | null | number | string | list | object => simp [Tree.bool?]

theorem text?_eq_some_iff {v : Tree} {s : String} : v.text? = some s ↔ v = .string (some s) := by
  cases v with
  | string t => simp [Tree.text?]
  | null | bool | number | list | object => simp [Tree.text?]

theorem list?_eq_some_iff {view : Tree → Option α} {tree : α → Tree}
    (h : ∀ {v a}, view v = some a ↔ v = tree a) {v : Tree} {as : List α} :
    v.list? view = some as ↔ v = .list (as.map tree) := by
  have hitems : ∀ vs : List Tree, vs.mapM view = some as ↔ vs = as.map tree := by
    intro vs
    induction vs generalizing as with
    | nil => simp [eq_comm]
    | cons v vs ih =>
      cases as with
      | nil => simp [List.mapM_cons, Option.bind_eq_some_iff]
      | cons a as => simp [List.mapM_cons, Option.bind_eq_some_iff, ih, h]
  cases v with
  | list vs => simp [Tree.list?, hitems]
  | null | bool | number | string | object => simp [Tree.list?]

/-! ## Following -/

/-- Whatever the text says, the decoder reads it as the view has it, or not at all, where more
levels of nesting are allowed than the view goes into. -/
def Follows (decode : Decoder α) (height : Nat) (view : Tree → Option α) : Prop :=
  ∀ text v, Spells text v → ∀ depth ws rest, height < depth → Spaces ws → Ends rest →
    (decode depth (ws ++ (text ++ rest))).toOption = (view v).map (·, rest)

theorem Follows.mono {decode : Decoder α} {low high : Nat} {view : Tree → Option α}
    (h : Follows decode low view) (hle : low ≤ high) : Follows decode high view :=
  fun text v hv depth ws rest hdepth => h text v hv depth ws rest (Nat.lt_of_le_of_lt hle hdepth)

theorem toOption_bind (x : Except Fault α) (f : α → Except Fault β) :
    (x >>= f).toOption = x.toOption.bind fun a => (f a).toOption := by
  cases x with
  | error e => rfl
  | ok a => rfl

theorem toOption_bind_none {f : α → Except Fault β} (h : ∀ a, (f a).toOption = none)
    (x : Except Fault α) : (x >>= f).toOption = none := by
  cases x with
  | error e => rfl
  | ok a => exact h a

theorem toOption_read {x : Except Fault (α × List Char)} {y : Option α} {rest : List Char}
    (h : x.toOption = y.map (·, rest)) (f : α × List Char → Except Fault β) :
    (x >>= f).toOption = y.bind fun a => (f (a, rest)).toOption := by
  rw [toOption_bind, h]
  cases y with
  | none => rfl
  | some a => rfl

theorem toOption_map (f : α → β) (x : Except Fault α) :
    (x.map f).toOption = x.toOption.map f := by
  cases x with
  | error e => rfl
  | ok a => rfl

theorem eq_ok_of_toOption {x : Except Fault α} {a : α} (h : x.toOption = some a) : x = .ok a := by
  cases x with
  | error e => exact absurd h (by simp [Except.toOption])
  | ok b => exact congrArg Except.ok (Option.some.inj h)

theorem eq_error_of_toOption {x : Except Fault α} (h : x.toOption = none) :
    ∃ fault, x = .error fault := by
  cases x with
  | error fault => exact ⟨fault, rfl⟩
  | ok a => exact absurd h (by simp [Except.toOption])

theorem follows_of_leads {decode : Decoder α} {height : Nat} {view : Tree → Option α}
    {read : Nat → Char → List Char → Except Fault (α × List Char)}
    (hdecode : ∀ depth cs, decode depth cs = atValue (read depth) cs)
    (h : ∀ c cs v, Spells (c :: cs) v → v.Leads c → ∀ depth rest, height < depth → Ends rest →
      (read depth c (cs ++ rest)).toOption = (view v).map (·, rest)) :
    Follows decode height view := by
  intro text v hv depth ws rest hdepth hws hrest
  obtain ⟨c, cs, rfl, hlead⟩ := hv.leads
  rw [hdecode, atValue_spaces hws, List.cons_append, atValue_cons hlead.starts.solid]
  exact h c cs v hv hlead depth rest hdepth hrest

/-! ## Scalars -/

theorem boolean_follows : Follows boolean 0 Tree.bool? := by
  refine follows_of_leads (fun _ _ => rfl) fun c cs v hv hlead depth rest _ _ => ?_
  cases v with
  | bool b =>
    cases hv with
    | yes | no => rfl
  | null | string | list | object =>
    obtain rfl := hlead
    rfl
  | number numeral =>
    have hyes : c ≠ 't' := hlead.ne (by simp [Tree.Leads])
    have hno : c ≠ 'f' := hlead.ne (by simp [Tree.Leads])
    rw [if_neg hyes, if_neg hno]
    rfl

theorem unnatural_bounded {x : Except Fault (Number × List Char)} (h : Unnatural x) (limit : Nat)
    (expected : String) :
    (x >>= fun (n, rest) => n.bounded limit expected rest).toOption = none := by
  cases x with
  | error fault => rfl
  | ok r =>
    obtain ⟨n | n | n, rest⟩ := r
    · exact absurd rfl (h n rest)
    · rfl
    · rfl

theorem unsigned_follows {ds fs es rest : List Char} {limit : Nat} (expected : String)
    (hlimit : limit < significandLimit) (integer : Integer ds) (fraction : Fraction fs)
    (exponent : Exponent es) (hrest : Ends rest) :
    (number true (ds ++ (fs ++ es) ++ rest) >>= fun (n, rest) =>
        n.bounded limit expected rest).toOption =
      (Tree.natural? limit (.number (ds ++ (fs ++ es)))).map (·, rest) := by
  have hdigits := integer.digits.2
  by_cases hplain : fs ++ es = []
  · rw [hplain, List.append_nil]
    have hall : ds.all Char.isDigit = true := List.all_eq_true.mpr hdigits
    by_cases hfits : Nat.ofDigitChars 10 ds 0 < significandLimit
    · rw [integer.number hfits hrest]
      by_cases hle : Nat.ofDigitChars 10 ds 0 ≤ limit
      · simp [Tree.natural?, Number.bounded, hall, hle, bind, Except.bind, Except.toOption]
      · simp [Tree.natural?, Number.bounded, hle, bind, Except.bind, Except.toOption]
    · have hunnatural := number_unnatural integer hrest.startsWithDigit
        (Or.inr (Nat.not_lt.mp hfits))
      have hlarge : ¬ Nat.ofDigitChars 10 ds 0 ≤ limit := by omega
      rw [unnatural_bounded hunnatural, Tree.natural?, if_neg fun h => hlarge h.2]
      rfl
  · obtain ⟨c, cs, hcs, hfloat, hc⟩ : ∃ c cs, fs ++ es = c :: cs ∧
        (c = '.' ∨ c = 'e' ∨ c = 'E') ∧ c.isDigit = false := by
      cases fraction with
      | digits => exact ⟨_, _, rfl, Or.inl rfl, rfl⟩
      | absent =>
        cases exponent with
        | absent => exact absurd rfl hplain
        | digits letter =>
          rcases letter with rfl | rfl
          · exact ⟨_, _, rfl, Or.inr (Or.inl rfl), rfl⟩
          · exact ⟨_, _, rfl, Or.inr (Or.inr rfl), rfl⟩
    have hstop : startsWithDigit ((c :: cs) ++ rest) = false := (isAsciiDigit_eq c).trans hc
    have hstart : startsFloat ((c :: cs) ++ rest) = true := by
      simpa [startsFloat, or_assoc] using hfloat
    have hunnatural := number_unnatural integer hstop (Or.inl hstart)
    have hnot : ¬ (ds ++ c :: cs).all Char.isDigit = true := by simp [hc]
    rw [hcs, List.append_assoc, unnatural_bounded hunnatural, Tree.natural?,
      if_neg fun h => hnot h.1]
    rfl

theorem natural_follows {limit : Nat} (expected : String) (hlimit : limit < significandLimit) :
    Follows (natural limit expected) 0 (Tree.natural? limit) := by
  refine follows_of_leads (fun _ _ => rfl) fun c cs v hv hlead depth rest _ hrest => ?_
  cases hv with
  | null | yes | no | string | list | object => rfl
  | number numeral =>
    generalize hall : c :: cs = all at numeral
    cases numeral with
    | negative integer fraction exponent =>
      obtain ⟨rfl, rfl⟩ := List.cons.inj hall
      rw [if_pos rfl, unnatural_bounded (number_false_unnatural _)]
      rfl
    | unsigned integer fraction exponent =>
      have hread := unsigned_follows expected hlimit integer fraction exponent hrest
      obtain ⟨d, tail, rfl, hd⟩ := integer.head
      rw [List.cons_append] at hall
      obtain ⟨rfl, rfl⟩ := List.cons.inj hall
      have hsign : c ≠ '-' := isDigit_ne hd rfl
      rw [if_neg hsign, isAsciiDigit_eq, if_pos hd]
      exact hread

theorem textOf_follows (expected : String) : Follows (textOf expected) 0 Tree.text? := by
  refine follows_of_leads (fun _ _ => rfl) fun c cs v hv hlead depth rest _ _ => ?_
  cases hv with
  | null | yes | no | list | object => rfl
  | string quoted =>
    rw [if_pos rfl, List.append_assoc]
    exact quoted.string rest
  | number numeral =>
    have hquote : c ≠ '"' := hlead.ne (by simp [Tree.Leads])
    rw [if_neg hquote]
    rfl

theorem text_follows : Follows text 0 Tree.text? := textOf_follows "a string"

theorem optional_follows {decode : Decoder α} {height : Nat} {view : Tree → Option α}
    (h : Follows decode height view) :
    Follows (optional decode) height (Tree.optional? view) := by
  intro text v hv depth ws rest hdepth hws hrest
  obtain ⟨c, cs, rfl, hlead⟩ := hv.leads
  have hread := h _ v hv depth [] rest hdepth spaces_nil hrest
  unfold optional
  rw [skipSpace_append hws, List.cons_append, skipSpace_cons hlead.starts.solid]
  rw [List.nil_append, List.cons_append] at hread
  by_cases hnull : c = 'n'
  · subst hnull
    cases v with
    | null =>
      cases hv with
      | null => rfl
    | bool b =>
      cases b with
      | true | false => exact absurd hlead (by simp [Tree.Leads])
    | number | string | list | object => exact absurd hlead (by simp [Tree.Leads])
  · have hview : Tree.optional? view v = (view v).map some := by
      cases v with
      | null => exact absurd hlead hnull
      | bool | number | string | list | object => rfl
    split
    · next heq => exact absurd (List.cons.inj heq).1 hnull
    · rw [toOption_map, hread, hview]
      simp [Function.comp_def]

/-! ## Lists -/

theorem closing_toOption (close : List Char → Except Fault (List Char))
    (pass : List Char → List Char) (body : Except Fault (α × List Char)) :
    (closing close pass body).toOption =
      body.toOption.bind fun (a, rest) => (close rest).toOption.map (a, ·) := by
  cases body with
  | error f => rfl
  | ok r => exact toOption_map _ _

theorem items_more {read : List Char → Except Fault (α × List Char)} {first : Bool}
    {sep : List Char} {c : Char} (h : Separates first sep) (hc : Starts c) (n : Nat)
    (cs : List Char) :
    items read (n + 1) first (sep ++ c :: cs) = read (c :: cs) >>= fun (a, cs) =>
      items read n false cs >>= fun (as, cs) => pure (a :: as, cs) := by
  rw [items, nextItem_more h hc]
  rfl

theorem items_follow {decode : Decoder α} {height depth : Nat} {view : Tree → Option α}
    (h : Follows decode height view) (hdepth : height < depth) {first : Bool} {body : List Char}
    {vs : List Tree} (hvs : SpellsItems first body vs) (rest : List Char) {n : Nat}
    (hn : body.length ≤ n) :
    (items (decode depth) (n + 1) first (body ++ ']' :: rest)).toOption =
      (vs.mapM view).map (·, ']' :: rest) := by
  induction vs generalizing first body n with
  | nil =>
    cases hvs with
    | done blank =>
      rw [items, nextItem_done blank]
      rfl
  | cons v vs ih =>
    cases hvs with
    | more separates value tail =>
      obtain ⟨c, cs, rfl, hlead⟩ := value.leads
      obtain ⟨m, rfl⟩ : ∃ m, n = m + 1 := Nat.exists_eq_add_one.mpr (by
        simp only [List.length_append, List.length_cons] at hn
        omega)
      have hread := h _ v value depth [] _ hdepth spaces_nil (tail.ends rest)
      have htail := ih tail (n := m) (by
        simp only [List.length_append, List.length_cons] at hn
        omega)
      rw [List.nil_append, List.cons_append] at hread
      rw [List.append_assoc, List.append_assoc, List.cons_append,
        items_more separates hlead.starts, toOption_read hread, List.mapM_cons]
      cases view v with
      | none => rfl
      | some a =>
        rw [Option.bind_some, toOption_read htail]
        cases vs.mapM view with
        | none => rfl
        | some as => rfl

theorem list_follows {decode : Decoder α} {height : Nat} {view : Tree → Option α}
    (h : Follows decode height view) : Follows (list decode) (height + 1) (Tree.list? view) := by
  refine follows_of_leads (fun _ _ => rfl) fun c cs v hv hlead depth rest hdepth _ => ?_
  cases hv with
  | null | yes | no | string | object => rfl
  | number numeral =>
    have hbracket : c ≠ '[' := hlead.ne (by simp [Tree.Leads])
    rw [if_neg hbracket]
    rfl
  | @list body vs inside =>
    rw [if_pos rfl, deeper_ok (by omega), List.append_assoc, List.singleton_append]
    show (itemsOf (decode (depth - 1)) _).toOption = _
    unfold itemsOf
    rw [closing_toOption, items_follow h (Nat.lt_sub_of_add_lt hdepth) inside rest
      (by simp only [List.length_append]; omega), Tree.list?]
    cases vs.mapM view with
    | none => rfl
    | some as => rfl

/-! ## Whole texts -/

theorem Follows.document {decode : Decoder α} {height : Nat} {view : Tree → Option α}
    (h : Follows decode height view) (hheight : height < depthLimit) {text : String} {v : Tree}
    (hv : Document text v) : (readChars decode text.toList).toOption = view v := by
  obtain ⟨before, body, after, htext, hbefore, hafter, hbody⟩ := hv
  have hends : Ends after := by
    have hends : Ends (after ++ []) := hafter.ends trivial
    rwa [List.append_nil] at hends
  have hend : skipSpace after = [] := by
    have hskip := skipSpace_append hafter []
    rwa [List.append_nil] at hskip
  have hread := h body v hbody depthLimit before after hheight hbefore hends
  unfold readChars
  rw [htext]
  cases hview : view v with
  | none =>
    rw [hview] at hread
    obtain ⟨fault, hfault⟩ := eq_error_of_toOption hread
    rw [hfault]
    rfl
  | some a =>
    rw [hview] at hread
    rw [eq_ok_of_toOption hread]
    simp only [hend]
    rfl

end LinkWatch.Json
