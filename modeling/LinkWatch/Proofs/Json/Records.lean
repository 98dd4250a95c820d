import LinkWatch.Proofs.Json.Follows
import LinkWatch.Proofs.Json.Outline
import LinkWatch.Proofs.Json.Skip

/-! # Records are read as trees say, as objects and as lists -/

namespace LinkWatch.Json

open Text

variable {α σ τ : Type}

/-! ## Keys -/

theorem Quoted.quotes {key : List Char} {k : String} (h : Quoted key (some k)) :
    Quotes (key ++ ['"']) k := by
  intro rest
  rw [List.append_assoc, List.singleton_append]
  exact eq_ok_of_toOption (h.string rest)

theorem nextKey_spelled {first : Bool} {sep key : List Char} {k : String}
    (h : Separates first sep) (hkey : Quoted key (some k)) (rest : List Char) :
    nextKey first (sep ++ '"' :: (key ++ '"' :: rest)) = .ok (some k, rest) := by
  have hnext := nextKey_more h hkey.quotes rest
  rwa [List.append_assoc, List.singleton_append] at hnext

theorem nextKey_unspelled {first : Bool} {sep key : List Char} (h : Separates first sep)
    (hkey : Quoted key none) (rest : List Char) :
    (nextKey first (sep ++ '"' :: (key ++ '"' :: rest))).toOption = none := by
  have hnone := hkey.string rest
  unfold nextKey
  cases h with
  | first blank =>
    rw [skipSpace_append blank, skipSpace_cons (by decide)]
    simp [toOption_map, hnone]
  | next before after =>
    rw [List.append_assoc, skipSpace_append before, List.cons_append,
      skipSpace_cons (by decide)]
    simp only [skipSpace_append after, skipSpace_cons (show isSpace '"' = false by decide)]
    simp [toOption_map, hnone]

/-! ## Members -/

theorem member_text (sep key ws vs text tail rest : List Char) :
    sep ++ '"' :: (key ++ '"' :: (ws ++ ':' :: (vs ++ (text ++ tail)))) ++ rest =
      sep ++ '"' :: (key ++ '"' :: (ws ++ ':' :: (vs ++ (text ++ (tail ++ rest))))) := by
  simp

theorem skipMember_spells {text ws vs rest : List Char} {v : Tree} (hv : Spells text v)
    (hws : Spaces ws) (hvs : Spaces vs) (hrest : Ends rest) :
    skipMember (ws ++ ':' :: (vs ++ (text ++ rest))) = .ok rest := by
  unfold skipMember
  rw [colon_spaces hws]
  exact skipValue_spells hv hvs hrest

/-- What a reader has come to, against what the tree says so far. Where the tree says nothing, the
reader need not have noticed yet, but then all is lost. -/
inductive Tracks (agrees : σ → τ → Prop) (lost : σ → Prop) (rest : List Char) :
    Except Fault (σ × List Char) → Option τ → Prop
  | error (fault : Fault) : Tracks agrees lost rest (.error fault) none
  | ok {s : σ} {t : τ} (h : agrees s t) : Tracks agrees lost rest (.ok (s, rest)) (some t)
  | lost {s : σ} {after : List Char} (h : lost s) : Tracks agrees lost rest (.ok (s, after)) none

/-- A reader of members that keeps to what the tree says of each. -/
structure Walks (step : σ → String → List Char → Except Fault (σ × List Char))
    (walk : τ → Member → Option τ) (agrees : σ → τ → Prop) (lost : σ → Prop) : Prop where
  unspelled : ∀ t v, walk t (none, v) = none
  tracks : ∀ {s t v text ws vs rest} (key : String), agrees s t → Spells text v → Spaces ws →
    Spaces vs → Ends rest → Tracks agrees lost rest
      (step s key (ws ++ ':' :: (vs ++ (text ++ rest)))) (walk t (some key, v))
  stays : ∀ {s key cs s' rest}, lost s → step s key cs = .ok (s', rest) → lost s'

theorem Tracks.toOption {rest : List Char} {x : Except Fault (σ × List Char)} {y : Option σ}
    (h : Tracks Eq (fun _ => False) rest x y) : x.toOption = y.map (·, rest) := by
  cases h with
  | error fault => rfl
  | ok hs =>
    subst hs
    rfl
  | lost hfalse => exact absurd hfalse id

theorem tracks_bind {agrees : σ → τ → Prop} {lost : σ → Prop} {rest : List Char}
    {x : Except Fault (α × List Char)} {y : Option α} (h : x.toOption = y.map (·, rest))
    {f : α × List Char → Except Fault (σ × List Char)} {g : α → Option τ}
    (hf : ∀ a, Tracks agrees lost rest (f (a, rest)) (g a)) :
    Tracks agrees lost rest (x >>= f) (y.bind g) := by
  cases y with
  | none =>
    obtain ⟨fault, rfl⟩ := eq_error_of_toOption h
    exact .error fault
  | some a =>
    rw [eq_ok_of_toOption h]
    exact hf a

section

variable {step : σ → String → List Char → Except Fault (σ × List Char)}
  {walk : τ → Member → Option τ} {agrees : σ → τ → Prop} {lost : σ → Prop}

theorem Walks.members_lost (h : Walks step walk agrees lost) {n : Nat} {first : Bool} {s s' : σ}
    {cs rest : List Char} (hs : lost s) (hok : members step n first s cs = .ok (s', rest)) :
    lost s' := by
  induction n generalizing first s cs with
  | zero => exact absurd hok (by simp [members])
  | succ n ih =>
    rw [members] at hok
    simp only [bind, Except.bind] at hok
    split at hok
    · exact absurd hok (by simp)
    · split at hok
      · obtain ⟨rfl, -⟩ := Prod.mk.inj (Except.ok.inj hok)
        exact hs
      · split at hok
        · exact absurd hok (by simp)
        · next hstep => exact ih (h.stays hs hstep) hok

theorem members_more {first : Bool} {sep key cs : List Char} {k : String} {s : σ} {n : Nat}
    (hsep : Separates first sep) (hkey : Quoted key (some k)) :
    members step (n + 1) first s (sep ++ '"' :: (key ++ '"' :: cs)) =
      step s k cs >>= fun (s, cs) => members step n false s cs := by
  rw [members, nextKey_spelled hsep hkey]
  rfl

theorem members_unspelled {first : Bool} {sep key : List Char} (hsep : Separates first sep)
    (hkey : Quoted key none) (n : Nat) (s : σ) (cs : List Char) :
    ∃ fault, members step (n + 1) first s (sep ++ '"' :: (key ++ '"' :: cs)) = .error fault := by
  have hnext := nextKey_unspelled hsep hkey cs
  rw [members]
  obtain ⟨fault, hfault⟩ := eq_error_of_toOption hnext
  rw [hfault]
  exact ⟨fault, rfl⟩

theorem Walks.members (h : Walks step walk agrees lost) {first : Bool} {body : List Char}
    {ms : List Member} (hms : SpellsMembers first body ms) {s : σ} {t : τ} (hs : agrees s t)
    (rest : List Char) {n : Nat} (hn : body.length ≤ n) :
    Tracks agrees lost ('\x7d' :: rest) (members step (n + 1) first s (body ++ '\x7d' :: rest))
      (ms.foldlM walk t) := by
  induction ms generalizing first body s t n with
  | nil =>
    cases hms with
    | done blank =>
      rw [Json.members, nextKey_done blank]
      exact .ok hs
  | cons m ms ih =>
    cases hms with
    | @more _ sep key ws vs text tail k v _ separates quoted before after value others =>
      rw [member_text, List.foldlM_cons, Option.bind_eq_bind]
      cases k with
      | none =>
        obtain ⟨fault, hfault⟩ := members_unspelled separates quoted n s
          (ws ++ ':' :: (vs ++ (text ++ (tail ++ '\x7d' :: rest))))
        rw [hfault, h.unspelled]
        exact .error fault
      | some k =>
        obtain ⟨m, rfl⟩ : ∃ m, n = m + 1 := Nat.exists_eq_add_one.mpr (by
          simp only [List.length_append, List.length_cons] at hn
          omega)
        have hone := h.tracks k hs value before after (others.ends rest)
        rw [members_more separates quoted]
        generalize step s k (ws ++ ':' :: (vs ++ (text ++ (tail ++ '\x7d' :: rest)))) = x at hone
        generalize walk t (some k, v) = y at hone
        cases hone with
        | error fault => exact .error fault
        | ok hagree =>
          refine ih others hagree ?_
          simp only [List.length_append, List.length_cons] at hn
          omega
        | @lost s' cs hlost =>
          -- The reader is wherever it is now, but it does not recover.
          show Tracks _ _ _ (Json.members step (m + 1) false s' cs) none
          cases hresult : Json.members step (m + 1) false s' cs with
          | error fault => exact .error fault
          | ok r => exact .lost (h.members_lost hlost hresult)

end

/-! ## Fields -/

structure Field.Follows (height : Nat) (f : Field σ) (c : Column σ) : Prop where
  name : f.name = c.name
  read : ∀ s text v, Spells text v → ∀ depth ws rest, height < depth → Spaces ws → Ends rest →
    (f.read depth s (ws ++ (text ++ rest))).toOption = (c.take s v).map (·, rest)

theorem Field.follows_of {decode : Decoder α} {height : Nat} {view : Tree → Option α}
    (h : Json.Follows decode height view) (name : String) (put : σ → α → σ) :
    (Field.of name decode put).Follows height (.of name view put) where
  name := rfl
  read s text v hv depth ws rest hdepth hws hrest := by
    show ((decode depth _).map _).toOption = _
    rw [toOption_map, h text v hv depth ws rest hdepth hws hrest]
    simp [Column.of, Function.comp_def]

def Form.keys (form : Form σ) : List String := form.fields.map (·.name)

/-- The form has the fields of the outline. -/
structure Form.Outlined (form : Form σ) (height : Nat) (o : Outline σ) : Prop where
  fields : List.Forall₂ (Field.Follows height) form.fields o.columns
  initial : form.initial = o.initial

/-- The form has the fields of the outline, and none of them has to be given. -/
structure Form.Follows (form : Form σ) (height : Nat) (o : Outline σ) : Prop
    extends form.Outlined height o where
  partly : form.complete = false

section

variable {form : Form σ} {o : Outline σ} {height depth : Nat}

theorem Form.Outlined.keys (h : form.Outlined height o) : form.keys = o.names := by
  have hfields := h.fields
  unfold Form.keys Outline.names
  generalize form.fields = fs at hfields
  generalize o.columns = cs at hfields
  induction hfields with
  | nil => rfl
  | cons hf _ ih => rw [List.map_cons, List.map_cons, hf.name, ih]

theorem Form.Outlined.field? (h : form.Outlined height o) (key : String) :
    (form.field? key = none ∧ o.column? key = none) ∨
      ∃ f c, form.field? key = some f ∧ o.column? key = some c ∧ f.Follows height c := by
  have hfields := h.fields
  unfold Form.field? Outline.column?
  generalize form.fields = fs at hfields
  generalize o.columns = cs at hfields
  induction hfields with
  | nil => exact Or.inl ⟨rfl, rfl⟩
  | @cons f c fs cs hf _ ih =>
    by_cases hkey : c.name = key
    · exact Or.inr ⟨f, c, by simp [hf.name, hkey], by simp [hkey], hf⟩
    · simpa [hf.name, hkey] using ih

/-! ## Objects -/

theorem Form.Outlined.walks (h : form.Outlined height o) (hdepth : height < depth) :
    Walks (form.member depth) o.member Eq fun _ => False where
  unspelled _ _ := rfl
  stays hlost _ := hlost
  tracks {s t v text ws vs rest} key hs hv hws hvs hrest := by
    subst hs
    unfold Form.member
    rcases h.field? key with ⟨hfield, hcolumn⟩ | ⟨f, c, hfield, hcolumn, hf⟩
    · simp only [hfield, Outline.member, hcolumn, skipMember_spells hv hws hvs hrest]
      exact .ok rfl
    · simp only [hfield, Outline.member, hcolumn]
      split
      · exact .error _
      · have hread := hf.read s.1 text v hv depth vs rest hdepth hvs hrest
        rw [colon_spaces hws]
        rw [Option.map_eq_bind]
        exact tracks_bind hread fun a => .ok rfl

theorem missing?_eq_none_iff (form : Form σ) (seen : List String) :
    form.missing? seen = none ↔ ∀ name ∈ form.keys, name ∈ seen := by
  simp [Form.missing?, Form.keys]

theorem finish_toOption (form : Form σ) (s : σ) (seen : List String) (rest : List Char) :
    (form.finish s seen rest).toOption =
      if form.complete = true → ∀ name ∈ form.keys, name ∈ seen then some (s, rest) else none := by
  simp only [← missing?_eq_none_iff]
  unfold Form.finish
  cases form.complete with
  | false => simp [Except.toOption]
  | true =>
    cases form.missing? seen with
    | none => rfl
    | some name => simp [Except.toOption]

theorem Form.Outlined.ofObject (h : form.Outlined height o) (ho : o.Lawful)
    (hdepth : height < depth) {body : List Char} {ms : List Member}
    (hms : SpellsMembers true body ms) (rest : List Char) :
    (form.ofObject depth (body ++ '\x7d' :: rest)).toOption =
      (o.accept form.complete ms).map (·, rest) := by
  have hwalk := (h.walks hdepth).members hms (s := (form.initial, [])) rfl rest
    (n := (body ++ '\x7d' :: rest).length) (by simp)
  have hcovered : (∀ name ∈ form.keys, name ∈ o.seen ms) ↔ o.Covered ms := by
    rw [h.keys]
    exact forall₂_congr fun name hname => mem_seen hname ms
  unfold Form.ofObject
  rw [closing_toOption, toOption_read hwalk.toOption, h.initial, walk_eq ho, Outline.accept]
  cases o.ofMembers ms with
  | none => simp
  | some s =>
    simp only [Option.map_some, Option.bind_some, finish_toOption, hcovered]
    split
    · rfl
    · rfl

/-! ## Lists -/

theorem closeList_done {ws : List Char} (h : Spaces ws) (rest : List Char) :
    closeList (ws ++ ']' :: rest) = .ok rest := by
  unfold closeList
  rw [skipSpace_append h]
  rfl

theorem closeList_more {first : Bool} {sep : List Char} {c : Char} (h : Separates first sep)
    (hc : Starts c) (rest : List Char) : (closeList (sep ++ c :: rest)).toOption = none := by
  unfold closeList
  cases h with
  | first blank =>
    rw [skipSpace_append blank, skipSpace_cons hc.solid]
    simp only [if_neg hc.inside]
    split
    · split
      · rfl
      · rfl
    · rfl
  | next before after =>
    rw [List.append_assoc, skipSpace_append before, List.cons_append,
      skipSpace_cons (c := ',') rfl]
    simp only [if_neg (show ',' ≠ ']' by decide), if_true]
    split
    · rfl
    · rfl

theorem positional_more (form : Form σ) (f : Field σ) (fs : List (Field σ)) {count : Nat}
    {sep : List Char} {c : Char} (h : Separates (count == 0) sep) (hc : Starts c) (s : σ)
    (cs : List Char) :
    form.positional depth (f :: fs) count s (sep ++ c :: cs) = f.read depth s (c :: cs) >>=
      fun (s, cs) => form.positional depth fs (count + 1) s cs := by
  rw [Form.positional, nextItem_more h hc]
  rfl

theorem positional_follows (form : Form σ) (hdepth : height < depth)
    {fs : List (Field σ)} {cs : List (Column σ)} (h : List.Forall₂ (Field.Follows height) fs cs)
    (count : Nat) {body : List Char} {vs : List Tree} (hvs : SpellsItems (count == 0) body vs)
    (s : σ) (rest : List Char) :
    ((form.positional depth fs count s (body ++ ']' :: rest)).toOption.bind
        fun (a, cs) => (closeList cs).toOption.map (a, ·)) =
      if vs.length ≤ cs.length ∧ (form.complete = true → cs.length ≤ vs.length) then
        (takeItems cs vs s).map (·, rest)
      else none := by
  induction h generalizing count body vs s with
  | nil =>
    cases hvs with
    | done blank =>
      show ((closeList _).toOption.map (s, ·)) = _
      rw [closeList_done blank]
      simp [takeItems, Except.toOption]
    | more separates value items =>
      obtain ⟨c, cs, rfl, hlead⟩ := value.leads
      show ((closeList _).toOption.map (s, ·)) = _
      rw [List.append_assoc, List.append_assoc, List.cons_append,
        closeList_more separates hlead.starts]
      simp
  | @cons f c fs cs hf _ ih =>
    cases hvs with
    | done blank =>
      rw [Form.positional, nextItem_done blank]
      simp only [bind, Except.bind]
      cases form.complete with
      | false => simp [takeItems, Except.toOption, closeList, skipSpace, isSpace]
      | true => simp [Except.toOption]
    | @more _ sep text tail v vs separates value items =>
      have hread := hf.read s text v value depth [] _ hdepth spaces_nil (items.ends rest)
      obtain ⟨d, ds, rfl, hlead⟩ := value.leads
      rw [List.nil_append, List.cons_append] at hread
      rw [List.append_assoc, List.append_assoc, List.cons_append,
        positional_more form f fs separates hlead.starts, toOption_read hread]
      simp only [takeItems, List.length_cons, Nat.add_le_add_iff_right]
      cases c.take s v with
      | none => simp
      | some t => exact ih (count + 1) items t

theorem Form.Outlined.ofList (h : form.Outlined height o) (ho : o.Lawful)
    (hdepth : height < depth) {body : List Char} {vs : List Tree}
    (hvs : SpellsItems true body vs) (rest : List Char) :
    (form.ofList depth (body ++ ']' :: rest)).toOption =
      (o.view form.complete (.list vs)).map (·, rest) := by
  unfold Form.ofList
  rw [closing_toOption, view_items ho, h.initial,
    positional_follows form hdepth h.fields 0 hvs]
  split
  · rfl
  · rfl

/-! ## Whole records -/

theorem Form.Outlined.decode (h : form.Outlined height o) (ho : o.Lawful) :
    Json.Follows form.decode (height + 1) (o.view form.complete) := by
  refine follows_of_leads (fun _ _ => rfl) fun c cs v hv hlead depth rest hdepth _ => ?_
  have hinside : height < depth - 1 := by omega
  cases hv with
  | null | yes | no | string => rfl
  | number numeral =>
    have hbracket : c ≠ '[' := hlead.ne (by simp [Tree.Leads])
    have hbrace : c ≠ '\x7b' := hlead.ne (by simp [Tree.Leads])
    rw [if_neg hbracket, if_neg hbrace]
    rfl
  | list items =>
    rw [if_pos rfl, deeper_ok (by omega), List.append_assoc, List.singleton_append]
    exact h.ofList ho hinside items rest
  | object members =>
    rw [if_neg (by decide), if_pos rfl, deeper_ok (by omega), List.append_assoc,
      List.singleton_append]
    exact h.ofObject ho hinside members rest

theorem Form.Follows.decode (h : form.Follows height o) (ho : o.Lawful) :
    Json.Follows form.decode (height + 1) o.ofTree := by
  have hdecode := h.toOutlined.decode ho
  rwa [h.partly, funext view_partly] at hdecode

end

end LinkWatch.Json
