import LinkWatch.Proofs.Exclusion.Codec
import LinkWatch.Proofs.Json.Records

/-! # Exclusions are read as trees say

The text of a rule may stand before its kind. Then it is kept by its shape, so that a value that is
no string is noticed only when the kind is known, or when the object ends. -/

namespace LinkWatch

open Json

namespace Exclusion

/-! ## What trees say -/

def kindName? (v : Tree) : Option Kind := v.text?.bind kindOf?

/-- A kind is a string, or the only key of an object, with null behind it. -/
def kind? : Tree → Option Kind
  | .object [(some name, .null)] => kindOf? name
  | v => kindName? v

def outline : Outline (Option Kind × Option String) where
  columns :=
    [.of kindKey kind? fun s k => (some k, s.2),
     .of partKey Tree.text? fun s part => (s.1, some part)]
  initial := (none, none)

def ofFields : Option Kind × Option String → Option Exclusion
  | (some k, some part) => some (k.rule part)
  | _ => none

def ofLast (k : Kind) : List Tree → Option Exclusion
  | [w] => w.text?.map k.rule
  | _ => none

def ofTree : Tree → Option Exclusion
  | .object ms => (outline.ofMembers ms).bind ofFields
  | .list (v :: vs) => (kindName? v).bind (ofLast · vs)
  | _ => none

theorem outline_lawful : outline.Lawful where
  distinct := by decide
  commute := by
    simp only [outline, List.pairwise_cons, List.mem_singleton, forall_eq, List.not_mem_nil,
      false_imp_iff, implies_true, List.Pairwise.nil, and_true]
    exact Column.commute_of fun _ _ _ => rfl

/-! ## Kinds -/

theorem kindNamed_toOption (name : String) (rest : List Char) :
    (kindNamed name rest).toOption = (kindOf? name).map (·, rest) := by
  unfold kindNamed
  cases kindOf? name with
  | none => rfl
  | some k => rfl

theorem kindName_follows : Follows kindName 0 kindName? := by
  intro text v hv depth ws rest hdepth hws hrest
  unfold kindName kindName?
  rw [toOption_read (textOf_follows _ text v hv depth ws rest hdepth hws hrest)]
  cases v.text? with
  | none => rfl
  | some name => exact kindNamed_toOption name rest

def null? : Tree → Option Unit
  | .null => some ()
  | _ => none

theorem unit_follows (expected : String) : Follows (unit expected) 0 null? := by
  refine follows_of_leads (fun _ _ => rfl) fun c cs v hv hlead depth rest _ _ => ?_
  cases hv with
  | null | yes | no | string | list | object => rfl
  | number numeral =>
    have hnull : c ≠ 'n' := hlead.ne (by simp [Tree.Leads])
    rw [if_neg hnull]
    rfl

theorem kind?_object (name : String) (v : Tree) (ms : List Member) :
    kind? (.object ((some name, v) :: ms)) =
      (kindOf? name).bind fun k => (null? v).bind fun _ => if ms = [] then some k else none := by
  cases ms with
  | nil =>
    cases v with
    | null => simp [kind?, null?]
    | bool | number | string | list | object => simp [kind?, null?, kindName?, Tree.text?]
  | cons m ms => simp [kind?, kindName?, Tree.text?]

def passBrace? (cs : List Char) : Option (List Char) :=
  match skipSpace cs with
  | '\x7d' :: r => some r
  | _ => none

theorem kindMember_named {sep key ws : List Char} {name : String} (hsep : Separates true sep)
    (hkey : Quoted key (some name)) (hws : Spaces ws) (depth : Nat) (cs : List Char) :
    (kindMember depth (sep ++ '"' :: (key ++ '"' :: (ws ++ ':' :: cs)))).toOption =
      (kindOf? name).bind fun k =>
        (unit "unit" depth cs).toOption.bind fun r => (passBrace? r.2).map (k, ·) := by
  unfold kindMember kindNamed
  rw [nextKey_spelled hsep hkey]
  simp only [bind, Except.bind]
  cases kindOf? name with
  | none => rfl
  | some k =>
    rw [Option.bind_some]
    simp only [colon_spaces hws]
    cases unit "unit" depth cs with
    | error fault => rfl
    | ok r =>
      unfold passBrace?
      dsimp only [Except.toOption, Option.bind_some]
      cases skipSpace r.2 with
      | nil => rfl
      | cons c cs =>
        by_cases hclose : c = '\x7d'
        · subst hclose
          rfl
        · simp [hclose]

theorem kindMember_follows {depth : Nat} (hdepth : 0 < depth) {body : List Char}
    {ms : List Member} (hms : SpellsMembers true body ms) (rest : List Char) :
    (kindMember depth (body ++ '\x7d' :: rest)).toOption =
      (kind? (.object ms)).map (·, rest) := by
  cases hms with
  | done blank =>
    unfold kindMember
    rw [nextKey_done blank]
    rfl
  | @more _ sep key ws vs text tail name v ms separates quoted before after value others =>
    rw [member_text]
    cases name with
    | none =>
      unfold kindMember
      rw [toOption_bind, nextKey_unspelled separates quoted]
      rfl
    | some name =>
      have hunit := unit_follows "unit" text v value depth vs _ hdepth after (others.ends rest)
      rw [kindMember_named separates quoted before, hunit, kind?_object]
      cases kindOf? name with
      | none => rfl
      | some k =>
        cases null? v with
        | none => rfl
        | some u =>
          unfold passBrace?
          cases others with
          | done blank =>
            simp only [Option.map_some, Option.bind_some, skipSpace_append blank]
            rfl
          | more separates =>
            cases separates with
            | next before after =>
              simp [skipSpace_append before, skipSpace_cons (c := ',') rfl]

theorem kind_follows : Follows kind 1 kind? := by
  refine follows_of_leads (fun _ _ => rfl) fun c cs v hv hlead depth rest hdepth hrest => ?_
  cases hv with
  | null | yes | no | list => rfl
  | number numeral =>
    have hquote : c ≠ '"' := hlead.ne (by simp [Tree.Leads])
    have hbrace : c ≠ '\x7b' := hlead.ne (by simp [Tree.Leads])
    rw [if_neg hquote, if_neg hbrace]
    rfl
  | string quoted =>
    rw [if_pos rfl]
    exact kindName_follows _ _ (.string quoted) depth [] rest (by omega) spaces_nil hrest
  | object members =>
    rw [if_neg (by decide), if_pos rfl, deeper_ok hdepth, List.append_assoc,
      List.singleton_append]
    exact kindMember_follows (by omega) members rest

/-! ## Texts before their kind -/

theorem anyShape_text {text : List Char} {s : Option String} (h : Quoted text s) {ws : List Char}
    (hws : Spaces ws) (depth : Nat) (rest : List Char) :
    (anyShape (depth + 1) (ws ++ ('"' :: (text ++ ['"']) ++ rest))).toOption =
      s.map fun t => (.string t, rest) := by
  unfold anyShape
  rw [atValue_spaces hws, List.cons_append, List.append_assoc, List.singleton_append,
    atValue_cons rfl]
  show ((string (text ++ '"' :: rest)).map _).toOption = _
  rw [toOption_map, h.string]
  simp [Function.comp_def]

/-- If a shape is read, then it is none of the strings. -/
def NoText (x : Except Fault (Shape × List Char)) : Prop := ∀ t rest, x ≠ .ok (.string t, rest)

theorem noText_ok {s : Shape} (h : ∀ t, s ≠ .string t) (rest : List Char) :
    NoText (.ok (s, rest)) := by
  intro t rest' hsame
  exact h t (Prod.mk.inj (Except.ok.inj hsame)).1

theorem noText_map {α : Type} {f : α → Shape × List Char} (h : ∀ a t, (f a).1 ≠ .string t)
    (x : Except Fault α) : NoText (x.map f) := by
  cases x with
  | error fault => simp [NoText, Except.map]
  | ok a => exact noText_ok (h a) _

theorem noText_bind {α : Type} {f : α → Except Fault (Shape × List Char)} (h : ∀ a, NoText (f a))
    (x : Except Fault α) : NoText (x >>= f) := by
  cases x with
  | error fault => simp [NoText, bind, Except.bind]
  | ok a => exact h a

theorem shapeAt_noText {c : Char} (hquote : c ≠ '"') (cs : List Char) :
    NoText (shapeAt (c :: cs)) := by
  have hnumber : ∀ (r : Number × List Char) t, (r.1.shape, r.2).1 ≠ Shape.string t := by
    rintro ⟨n | n | n, r⟩ t
    · simp [Number.shape]
    · simp [Number.shape]
    · simp [Number.shape]
  unfold shapeAt
  dsimp only
  rw [if_neg hquote]
  split_ifs
  · exact noText_map (by simp) _
  · exact noText_map (by simp) _
  · exact noText_map (by simp) _
  · exact noText_map hnumber _
  · exact noText_map hnumber _
  · exact noText_ok (by simp) _
  · exact noText_ok (by simp) _
  · simp [NoText]

theorem anyShape_noText {c : Char} {ws : List Char} (hws : Spaces ws) (hc : Starts c)
    (hquote : c ≠ '"') (depth : Nat) (cs : List Char) :
    NoText (anyShape (depth + 1) (ws ++ c :: cs)) := by
  rw [anyShape, atValue_spaces hws, atValue_cons hc.solid]
  split_ifs
  · exact noText_bind (fun _ => noText_map (by simp) _) _
  · exact noText_bind (fun _ => noText_map (by simp) _) _
  · exact shapeAt_noText hquote cs

/-! ## Objects -/

/-- What has been read, by the fields that have been given. -/
inductive Agrees : Parts → (Option Kind × Option String) × List String → Prop
  | none : Agrees .none ((none, none), [])
  | kind (k : Kind) : Agrees (.kind k) ((some k, none), [kindKey])
  | part (t : String) : Agrees (.part (.string t)) ((none, some t), [partKey])
  | both (k : Kind) (t : String) {seen : List String} (hkind : kindKey ∈ seen)
    (hpart : partKey ∈ seen) : Agrees (.both (k.rule t)) ((some k, some t), seen)

/-- The text that has been kept is none. -/
def Lost (p : Parts) : Prop := ∃ s, p = .part s ∧ ∀ t, s ≠ .string t

theorem outline_kind (s : (Option Kind × Option String) × List String) (v : Tree) :
    outline.member s (some kindKey, v) =
      if kindKey ∈ s.2 then none
      else (kind? v).bind fun k => some ((some k, s.1.2), kindKey :: s.2) := by
  show (if kindKey ∈ s.2 then none else ((kind? v).map _).map _) = _
  rw [Option.map_map, Option.map_eq_bind]
  rfl

theorem outline_part (s : (Option Kind × Option String) × List String) (v : Tree) :
    outline.member s (some partKey, v) =
      if partKey ∈ s.2 then none
      else v.text?.bind fun part => some ((s.1.1, some part), partKey :: s.2) := by
  show (if partKey ∈ s.2 then none else (v.text?.map _).map _) = _
  rw [Option.map_map, Option.map_eq_bind]
  rfl

theorem outline_other {key : String} (hkind : key ≠ kindKey) (hpart : key ≠ partKey)
    (s : (Option Kind × Option String) × List String) (v : Tree) :
    outline.member s (some key, v) = some s := by
  have hcolumn : outline.column? key = none := by
    simp [Outline.column?, outline, Column.of, hkind.symm, hpart.symm]
  simp [Outline.member, hcolumn]

theorem ofShape_lost {s : Shape} (h : ∀ t, s ≠ .string t) (k : Kind) (rest : List Char) :
    (ofShape k s rest).toOption = none := by
  unfold ofShape
  split
  · next t => exact absurd rfl (h t)
  · rfl

theorem part_first {v : Tree} {text vs : List Char} (hv : Spells text v) (hvs : Spaces vs)
    {depth : Nat} (hdepth : 0 < depth) (rest : List Char) :
    Tracks Agrees Lost rest
      (anyShape depth (vs ++ (text ++ rest)) >>= fun (s, rest) => pure (Parts.part s, rest))
      (v.text?.bind fun part => some ((none, some part), [partKey])) := by
  obtain ⟨d, rfl⟩ : ∃ d, depth = d + 1 := Nat.exists_eq_add_one.mpr hdepth
  obtain ⟨c, cs, rfl, hlead⟩ := hv.leads
  by_cases hquote : c = '"'
  · subst hquote
    cases hv with
    | string quoted =>
      have hread := anyShape_text quoted hvs d rest
      rw [List.cons_append] at hread ⊢
      rename_i body s
      cases s with
      | none =>
        obtain ⟨fault, hfault⟩ := eq_error_of_toOption hread
        rw [hfault]
        exact .error fault
      | some t =>
        rw [eq_ok_of_toOption hread]
        exact .ok (.part t)
    | number => exact absurd hlead (by simp [Tree.Leads])
  · have hnone : v.text? = none := by
      cases v with
      | string s => exact absurd hlead hquote
      | null | bool | number | list | object => rfl
    have hlost := anyShape_noText hvs hlead.starts hquote d (cs ++ rest)
    rw [hnone, List.cons_append]
    cases hresult : anyShape (d + 1) (vs ++ c :: (cs ++ rest)) with
    | error fault => exact .error fault
    | ok r =>
      refine .lost ⟨r.1, rfl, ?_⟩
      rintro t ht
      exact hlost t r.2 (by rw [hresult, ← ht])

theorem member_kind_behind (depth : Nat) (s : Shape) (cs : List Char) :
    member depth (.part s) kindKey cs = (do
      let (k, rest) ← kind depth (← colon cs)
      ofShape k s rest) := by
  unfold member
  rw [if_pos rfl]

theorem member_part_first (depth : Nat) (cs : List Char) :
    member depth .none partKey cs = (do
      let (s, rest) ← anyShape depth (← colon cs)
      return (.part s, rest)) := by
  unfold member
  rw [if_neg (by decide), if_pos rfl]

theorem walks_member {depth : Nat} (hdepth : 1 < depth) :
    Walks (member depth) outline.member Agrees Lost where
  unspelled _ _ := rfl
  stays {p key cs p' rest} hlost hok := by
    obtain ⟨s, rfl, hs⟩ := hlost
    by_cases hkind : key = kindKey
    · subst hkind
      have hnone : (member depth (.part s) kindKey cs).toOption = none := by
        rw [member_kind_behind]
        exact toOption_bind_none (fun cs => toOption_bind_none
          (fun r => ofShape_lost hs r.1 r.2) (kind depth cs)) (colon cs)
      rw [hok] at hnone
      exact absurd hnone (by simp [Except.toOption])
    · unfold member at hok
      rw [if_neg hkind] at hok
      split at hok
      · exact absurd hok (by simp)
      · cases hskip : skipMember cs with
        | error fault =>
          rw [hskip] at hok
          exact absurd hok (by simp [Except.map])
        | ok r =>
          rw [hskip] at hok
          obtain ⟨rfl, -⟩ := Prod.mk.inj (Except.ok.inj hok)
          exact ⟨s, rfl, hs⟩
  tracks {p t v text ws vs rest} key hp hv hws hvs hrest := by
    by_cases hkind : key = kindKey
    · subst hkind
      have hread := kind_follows text v hv depth vs rest hdepth hvs hrest
      rw [outline_kind]
      cases hp with
      | none =>
        rw [member_kind, colon_spaces hws]
        exact tracks_bind hread fun k => .ok (.kind k)
      | kind k => exact .error _
      | part t =>
        rw [member_kind_behind, colon_spaces hws]
        exact tracks_bind hread fun k => .ok (.both k t (by simp) (by simp))
      | both k t hkind hpart =>
        rw [if_pos hkind]
        exact .error _
    · by_cases hpart : key = partKey
      · subst hpart
        rw [outline_part]
        cases hp with
        | none =>
          rw [member_part_first, colon_spaces hws]
          exact part_first hv hvs (by omega) rest
        | kind k =>
          have hread := text_follows text v hv depth vs rest (by omega) hvs hrest
          rw [member_part, colon_spaces hws]
          exact tracks_bind hread fun t => .ok (.both k t (by simp) (by simp))
        | part t => exact .error _
        | both k t hkind hpart =>
          rw [if_pos hpart]
          exact .error _
      · rw [outline_other hkind hpart]
        unfold member
        rw [if_neg hkind, if_neg hpart, skipMember_spells hv hws hvs hrest]
        exact .ok hp

theorem finish_tracks {rest : List Char} {x : Except Fault (Parts × List Char)}
    {y : Option ((Option Kind × Option String) × List String)}
    (h : Tracks Agrees Lost rest x y) :
    (x >>= fun (p, rest) => finish p rest).toOption =
      (y.bind fun t => ofFields t.1).map (·, rest) := by
  cases h with
  | error fault => rfl
  | ok hagree =>
    cases hagree with
    | none | kind | part | both => rfl
  | lost hlost =>
    obtain ⟨s, rfl, -⟩ := hlost
    rfl

theorem ofObject_follows {depth : Nat} (hdepth : 1 < depth) {body : List Char}
    {ms : List Member} (hms : SpellsMembers true body ms) (rest : List Char) :
    (ofObject depth (body ++ '\x7d' :: rest)).toOption =
      (ofTree (.object ms)).map (·, rest) := by
  have hwalk := (walks_member hdepth).members hms .none rest
    (n := (body ++ '\x7d' :: rest).length) (by simp)
  have hfields : ms.foldlM outline.member ((none, none), []) =
      (outline.ofMembers ms).map (·, outline.seen ms) := walk_eq outline_lawful ms
  rw [hfields] at hwalk
  unfold ofObject
  rw [closing_toOption, finish_tracks hwalk, ofTree]
  cases outline.ofMembers ms with
  | none => rfl
  | some fields =>
    rw [Option.map_some, Option.bind_some, Option.bind_some]
    cases ofFields fields with
    | none => rfl
    | some x => rfl

/-! ## Lists -/

/-- Reads the text behind the kind. -/
def lastItem (depth : Nat) (k : Kind) (cs : List Char) : Except Fault (Exclusion × List Char) := do
  let (more, cs) ← nextItem false cs
  if more then
    let (part, cs) ← text depth cs
    return (k.rule part, cs)
  else .error (.pending cs (.wrongLength 1 expected))

theorem lastItem_more {sep : List Char} {c : Char} (h : Separates false sep) (hc : Starts c)
    (depth : Nat) (k : Kind) (cs : List Char) :
    lastItem depth k (sep ++ c :: cs) =
      text depth (c :: cs) >>= fun (part, cs) => pure (k.rule part, cs) := by
  unfold lastItem
  rw [nextItem_more h hc]
  rfl

theorem pair_more {sep : List Char} {c : Char} (h : Separates true sep) (hc : Starts c)
    (depth : Nat) (cs : List Char) :
    pair depth (sep ++ c :: cs) =
      kindName depth (c :: cs) >>= fun (k, cs) => lastItem depth k cs := by
  unfold pair
  rw [nextItem_more h hc]
  rfl

theorem ofLast_follows {depth : Nat} (hdepth : 0 < depth) {body : List Char} {vs : List Tree}
    (hvs : SpellsItems false body vs) (k : Kind) (rest : List Char) :
    ((lastItem depth k (body ++ ']' :: rest)).toOption.bind
        fun (x, cs) => (closeList cs).toOption.map (x, ·)) =
      (ofLast k vs).map (·, rest) := by
  cases hvs with
  | done blank =>
    unfold lastItem
    rw [nextItem_done blank]
    rfl
  | @more _ sep text tail w ws separates value items =>
    have hpart := text_follows text w value depth [] _ hdepth spaces_nil
      (items.ends rest)
    obtain ⟨c, cs, rfl, hlead⟩ := value.leads
    rw [List.nil_append, List.cons_append] at hpart
    rw [List.append_assoc, List.append_assoc, List.cons_append,
      lastItem_more separates hlead.starts, toOption_read hpart]
    cases items with
    | done blank =>
      rw [ofLast]
      cases w.text? with
      | none => rfl
      | some part =>
        show ((closeList _).toOption.map _) = _
        rw [closeList_done blank]
        rfl
    | more separates' value' items' =>
      obtain ⟨d, ds, rfl, hlead'⟩ := value'.leads
      cases w.text? with
      | none => rfl
      | some part =>
        show ((closeList _).toOption.map _) = _
        rw [List.append_assoc, List.append_assoc, List.cons_append,
          closeList_more separates' hlead'.starts]
        rfl

theorem pair_follows {depth : Nat} (hdepth : 0 < depth) {body : List Char} {vs : List Tree}
    (hvs : SpellsItems true body vs) (rest : List Char) :
    (closing closeList passListEnd (pair depth (body ++ ']' :: rest))).toOption =
      (ofTree (.list vs)).map (·, rest) := by
  rw [closing_toOption]
  cases hvs with
  | done blank =>
    unfold pair
    rw [nextItem_done blank]
    rfl
  | @more _ sep text tail v vs separates value items =>
    have hkind := kindName_follows text v value depth [] _ hdepth spaces_nil (items.ends rest)
    have hlast := ofLast_follows hdepth items
    obtain ⟨c, cs, rfl, hlead⟩ := value.leads
    rw [List.nil_append, List.cons_append] at hkind
    rw [List.append_assoc, List.append_assoc, List.cons_append,
      pair_more separates hlead.starts, toOption_read hkind, ofTree]
    cases kindName? v with
    | none => rfl
    | some k => exact hlast k rest

theorem decode_follows : Follows decode 2 ofTree := by
  refine follows_of_leads (fun _ _ => rfl) fun c cs v hv hlead depth rest hdepth hrest => ?_
  cases hv with
  | null | yes | no | string => rfl
  | number numeral =>
    have hbracket : c ≠ '[' := hlead.ne (by simp [Tree.Leads])
    have hbrace : c ≠ '\x7b' := hlead.ne (by simp [Tree.Leads])
    rw [if_neg hbracket, if_neg hbrace]
    rfl
  | list items =>
    rw [if_pos rfl, deeper_ok (by omega), List.append_assoc, List.singleton_append]
    exact pair_follows (by omega) items rest
  | object members =>
    rw [if_neg (by decide), if_pos rfl, deeper_ok (by omega), List.append_assoc,
      List.singleton_append]
    exact ofObject_follows (by omega) members rest

end Exclusion

end LinkWatch
