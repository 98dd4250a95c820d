import LinkWatch.Proofs.Json.Numeral

/-! # Any value is passed over up to its end

The open lists and objects are on a stack, so a value is followed from where it starts until only
those frames are left that were open before. -/

namespace LinkWatch.Json

variable {f : Frame} {first : Bool} {text body tail : List Char}

/-! ## Steps -/

/-- Passing over the text of a value takes at most two steps for a character. -/
def Passes (text : List Char) : Prop :=
  ∃ steps ≤ 2 * text.length, ∀ n fs ws rest, Spaces ws → Ends rest →
    skipFrames (n + steps) .value fs (ws ++ (text ++ rest)) = skipFrames n .afterValue fs rest

def next : Bool → Expecting
  | true => .firstItem
  | false => .afterValue

/-- So does what stands in a frame up to its end. The brackets make up for what is more. -/
def PassesInside (f : Frame) (first : Bool) (body : List Char) : Prop :=
  ∃ steps ≤ 2 * body.length + 2, (first = false → steps ≤ 2 * body.length + 1) ∧
    ∀ n fs rest, skipFrames (n + steps) (next first) (f :: fs) (body ++ f.closer :: rest) =
      skipFrames n .afterValue fs rest

theorem passes_scalar {c : Char} {cs : List Char} (hc : isSpace c = false) (hlist : c ≠ '[')
    (hobject : c ≠ '\x7b') (h : ∀ rest, Ends rest → skipScalar (c :: cs ++ rest) = .ok rest) :
    Passes (c :: cs) := by
  refine ⟨1, by simp; omega, fun n fs ws rest hws hrest => ?_⟩
  have hskip := h rest hrest
  rw [List.cons_append] at hskip ⊢
  simp [skipFrames, skipSpace_append hws, skipSpace_cons hc, hlist, hobject, hskip]

theorem passes_frame {opener : Char} (hopener : ∀ n fs ws cs, Spaces ws →
      skipFrames (n + 1) .value fs (ws ++ opener :: cs) = skipFrames n .firstItem (f :: fs) cs)
    (h : PassesInside f true body) : Passes (opener :: (body ++ [f.closer])) := by
  obtain ⟨steps, hle, -, hsteps⟩ := h
  refine ⟨steps + 1, by simp; omega, fun n fs ws rest hws _ => ?_⟩
  have hinside := hsteps n fs rest
  rw [List.cons_append, List.append_assoc, List.singleton_append, ← Nat.add_assoc,
    hopener _ _ _ _ hws]
  exact hinside

theorem passes_list (h : PassesInside .list true body) : Passes ('[' :: (body ++ [']'])) :=
  passes_frame (fun n fs ws cs hws => by
    simp [skipFrames, skipSpace_append hws, skipSpace_cons (c := '[') rfl]) h

theorem passes_object (h : PassesInside .object true body) :
    Passes ('\x7b' :: (body ++ ['\x7d'])) :=
  passes_frame (fun n fs ws cs hws => by
    simp [skipFrames, skipSpace_append hws, skipSpace_cons (c := '\x7b') rfl]) h

theorem closer_solid (f : Frame) : isSpace f.closer = false ∧ f.closer ≠ ',' := by
  cases f with
  | list | object => decide

theorem passesInside_done {ws : List Char} (h : Spaces ws) : PassesInside f first ws := by
  obtain ⟨hsolid, hcomma⟩ := closer_solid f
  refine ⟨1, by omega, fun _ => by omega, fun n fs rest => ?_⟩
  cases first with
  | true | false => simp [next, skipFrames, skipSpace_append h, skipSpace_cons hsolid, hcomma]

/-- An entry of a frame: its value, behind a key where the frame is an object. -/
structure Entry (f : Frame) (entry text : List Char) : Prop where
  head : ∃ c cs, entry = c :: cs ∧ isSpace c = false ∧ c ≠ f.closer
  shorter : text.length ≤ entry.length
  keyed : ∀ ws rest, Spaces ws →
    ∃ vs, Spaces vs ∧ f.skipKey (ws ++ (entry ++ rest)) = .ok (vs ++ (text ++ rest))

theorem passesInside_more {sep entry : List Char} (hsep : Separates first sep)
    (hentry : Entry f entry text) (hvalue : Passes text) (htail : PassesInside f false tail)
    (hends : ∀ rest, Ends (tail ++ f.closer :: rest)) :
    PassesInside f first (sep ++ (entry ++ tail)) := by
  obtain ⟨steps, hle, hsteps⟩ := hvalue
  obtain ⟨more, -, hmore, hinside⟩ := htail
  have hmore := hmore rfl
  have hshorter := hentry.shorter
  refine ⟨more + steps + 1, ?_, ?_, fun n fs rest => ?_⟩
  · simp only [List.length_append]
    omega
  · rintro rfl
    cases hsep with
    | next before after =>
      -- The comma makes up for the step to what is behind it.
      simp only [List.length_append, List.length_cons]
      omega
  · have hrest : sep ++ (entry ++ tail) ++ f.closer :: rest =
        sep ++ (entry ++ (tail ++ f.closer :: rest)) := by simp
    rw [hrest, ← hinside n fs rest, ← Nat.add_assoc, ← Nat.add_assoc]
    show _ = skipFrames (n + more) .afterValue (f :: fs) (tail ++ f.closer :: rest)
    obtain ⟨c, cs, hcs, hc, hcloser⟩ := hentry.head
    cases hsep with
    | first blank =>
      obtain ⟨vs, hvs, hkey⟩ := hentry.keyed [] (tail ++ f.closer :: rest) spaces_nil
      rw [← hsteps (n + more) (f :: fs) vs _ hvs (hends rest)]
      rw [List.nil_append, hcs, List.cons_append] at hkey
      rw [hcs, List.cons_append]
      simp [next, skipFrames, skipSpace_append blank, skipSpace_cons hc, hcloser, hkey]
    | next before after =>
      obtain ⟨vs, hvs, hkey⟩ := hentry.keyed _ (tail ++ f.closer :: rest) after
      rw [← hsteps (n + more) (f :: fs) vs _ hvs (hends rest)]
      simp [next, skipFrames, skipSpace_append before, skipSpace_cons (c := ',') rfl, hkey]

/-! ## Entries -/

theorem entry_item {v : Tree} (h : Spells text v) : Entry .list text text := by
  obtain ⟨c, cs, rfl, hlead⟩ := h.leads
  exact ⟨⟨c, cs, rfl, hlead.starts.solid, hlead.starts.inside⟩, Nat.le_refl _,
    fun ws rest hws => ⟨ws, hws, rfl⟩⟩

theorem entry_member {key before after : List Char} {k : Option String} (hkey : Quoted key k)
    (hbefore : Spaces before) (hafter : Spaces after) :
    Entry .object ('"' :: (key ++ '"' :: (before ++ ':' :: (after ++ text)))) text := by
  refine ⟨⟨_, _, rfl, by decide, by decide⟩, by simp; omega, fun ws rest hws => ⟨after, hafter, ?_⟩⟩
  have hskip := hkey.skipString (before ++ ':' :: (after ++ (text ++ rest)))
  simp [Frame.skipKey, skipSpace_append hws, skipSpace_cons (c := '"') rfl, hskip,
    skipSpace_append hbefore, skipSpace_cons (c := ':') rfl]

/-! ## Values -/

mutual

theorem Spells.passes {text : List Char} : (v : Tree) → Spells text v → Passes text
  | .null, h => by
    cases h
    exact passes_scalar rfl (by decide) (by decide) fun _ _ => rfl
  | .bool _, h => by
    cases h with
    | yes => exact passes_scalar rfl (by decide) (by decide) fun _ _ => rfl
    | no => exact passes_scalar rfl (by decide) (by decide) fun _ _ => rfl
  | .number _, h => by
    cases h with
    | number numeral =>
      obtain ⟨c, cs, rfl, hlead⟩ := (Spells.number numeral).leads
      have hlist : c ≠ '[' := hlead.ne (by simp [Tree.Leads])
      have hobject : c ≠ '\x7b' := hlead.ne (by simp [Tree.Leads])
      exact passes_scalar hlead.starts.solid hlist hobject fun _ hrest => numeral.skipScalar hrest
  | .string _, h => by
    cases h with
    | string quoted =>
      refine passes_scalar rfl (by decide) (by decide) fun rest _ => ?_
      rw [List.cons_append, List.append_assoc]
      exact quoted.skipString rest
  | .list vs, h => by
    cases h with
    | list items => exact passes_list (items.passes vs)
  | .object ms, h => by
    cases h with
    | object members => exact passes_object (members.passes ms)

theorem SpellsItems.passes {first : Bool} {body : List Char} :
    (vs : List Tree) → SpellsItems first body vs → PassesInside .list first body
  | [], h => by
    cases h with
    | done blank => exact passesInside_done blank
  | v :: vs, h => by
    cases h with
    | more separates value items =>
      exact passesInside_more separates (entry_item value) (value.passes v) (items.passes vs)
        items.ends

theorem SpellsMembers.passes {first : Bool} {body : List Char} :
    (ms : List (Option String × Tree)) → SpellsMembers first body ms →
      PassesInside .object first body
  | [], h => by
    cases h with
    | done blank => exact passesInside_done blank
  | (k, v) :: ms, h => by
    cases h with
    | more separates quoted before after value members =>
      have hmore := passesInside_more separates (entry_member quoted before after)
        (value.passes v) (members.passes ms) members.ends
      simpa using hmore

end

theorem skipValue_spells {v : Tree} (h : Spells text v) {ws rest : List Char} (hws : Spaces ws)
    (hrest : Ends rest) : skipValue (ws ++ (text ++ rest)) = .ok rest := by
  obtain ⟨steps, hle, hsteps⟩ := h.passes v
  obtain ⟨more, hmore⟩ : ∃ more, 2 * (ws ++ (text ++ rest)).length + 2 = more + 1 + steps :=
    ⟨2 * (ws ++ (text ++ rest)).length + 1 - steps, by
      simp only [List.length_append]
      omega⟩
  unfold skipValue
  rw [hmore, hsteps _ _ _ _ hws hrest]
  rfl

end LinkWatch.Json
