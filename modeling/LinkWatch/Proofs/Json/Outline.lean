import LinkWatch.Proofs.Json.Tree
import Mathlib.Data.List.Induction
import Mathlib.Data.List.Nodup

/-! # What trees say about records

Each field is given by the values behind its key, wherever these stand among the others. -/

namespace LinkWatch.Json

/-! ## Members -/

/-- A key, if it stands for a string, and its value. -/
abbrev Member := Option String × Tree

/-- The values behind a key, as often as it is there. -/
def valuesOf (key : String) (ms : List Member) : List Tree :=
  ms.filterMap fun m => if m.1 = some key then some m.2 else none

def Keyed (ms : List Member) : Prop := ∀ m ∈ ms, m.1 ≠ none

instance (ms : List Member) : Decidable (Keyed ms) :=
  inferInstanceAs (Decidable (∀ m ∈ ms, m.1 ≠ none))

/-- The members of an object, or of a list with the first of the fields of these names. -/
def Tree.members? (names : List String) : Tree → Option (List Member)
  | .object ms => some ms
  | .list vs => if vs.length ≤ names.length then some ((names.map some).zip vs) else none
  | _ => none

section

variable {key name : String} {v : Tree} {ms before after : List Member}

theorem valuesOf_append (key : String) (before after : List Member) :
    valuesOf key (before ++ after) = valuesOf key before ++ valuesOf key after :=
  List.filterMap_append

theorem valuesOf_cons_self (key : String) (v : Tree) (ms : List Member) :
    valuesOf key ((some key, v) :: ms) = v :: valuesOf key ms := by
  simp [valuesOf]

theorem valuesOf_cons_of_ne {m : Member} (h : m.1 ≠ some key) (ms : List Member) :
    valuesOf key (m :: ms) = valuesOf key ms := by
  simp [valuesOf, h]

theorem valuesOf_insert_of_ne {m : Member} (h : m.1 ≠ some key) (before after : List Member) :
    valuesOf key (before ++ m :: after) = valuesOf key (before ++ after) := by
  rw [valuesOf_append, valuesOf_cons_of_ne h, valuesOf_append]

theorem keyed_insert (before after : List Member) :
    Keyed (before ++ (some key, v) :: after) ↔ Keyed (before ++ after) := by
  simp [Keyed, or_imp, forall_and]

theorem valuesOf_zip {names : List String} {vs : List Tree} (h : name ∉ names) :
    valuesOf name ((names.map some).zip vs) = [] := by
  simp only [valuesOf, List.filterMap_eq_nil_iff]
  intro m hm
  have hname := (List.of_mem_zip hm).1
  rw [if_neg]
  intro hsame
  rw [hsame] at hname
  exact h (by simpa using hname)

theorem keyed_zip (names : List String) (vs : List Tree) : Keyed ((names.map some).zip vs) := by
  intro m hm hnone
  have hname := (List.of_mem_zip hm).1
  rw [hnone] at hname
  simp at hname

end

/-! ## Outlines -/

/-- A field of a record: its key, and how its value is put into the record. -/
structure Column (σ : Type) where
  name : String
  take : σ → Tree → Option σ

/-- A type of records. Fields that are not given keep their initial value. -/
structure Outline (σ : Type) where
  columns : List (Column σ)
  initial : σ

variable {σ α β : Type}

def Column.of (name : String) (view : Tree → Option α) (put : σ → α → σ) : Column σ :=
  ⟨name, fun s v => (view v).map (put s)⟩

/-- Takes the value of the field, if there is one. There may not be more. -/
def Column.enter (c : Column σ) (ms : List Member) (s : σ) : Option σ :=
  match valuesOf c.name ms with
  | [] => some s
  | [v] => c.take s v
  | _ => none

def fill (ms : List Member) : List (Column σ) → σ → Option σ
  | [], s => some s
  | c :: cs, s => (c.enter ms s).bind (fill ms cs)

namespace Outline

def names (o : Outline σ) : List String := o.columns.map (·.name)

def ofMembers (o : Outline σ) (ms : List Member) : Option σ :=
  if Keyed ms then fill ms o.columns o.initial else none

def ofTree (o : Outline σ) (v : Tree) : Option σ := (v.members? o.names).bind o.ofMembers

end Outline

def Column.Commute (c d : Column σ) : Prop :=
  ∀ s v w, (c.take s v).bind (d.take · w) = (d.take s w).bind (c.take · v)

structure Outline.Lawful (o : Outline σ) : Prop where
  distinct : o.names.Nodup
  commute : o.columns.Pairwise Column.Commute

theorem Column.commute_of {name name' : String} {view : Tree → Option α} {view' : Tree → Option β}
    {put : σ → α → σ} {put' : σ → β → σ} (h : ∀ s a b, put' (put s a) b = put (put' s b) a) :
    (Column.of name view put).Commute (.of name' view' put') := by
  intro s v w
  simp only [Column.of]
  cases view v with
  | none => simp
  | some a =>
    cases view' w with
    | none => rfl
    | some b => simp [h]

/-! ## What the values of a field do to the record -/

section

variable {o : Outline σ} {c : Column σ} {key : String} {v : Tree} {s : σ}
  {ms ms' before after : List Member} {cs : List (Column σ)}

theorem enter_nil (h : valuesOf c.name ms = []) (s : σ) : c.enter ms s = some s := by
  unfold Column.enter
  rw [h]

theorem enter_one (h : valuesOf c.name ms = [v]) (s : σ) : c.enter ms s = c.take s v := by
  unfold Column.enter
  rw [h]

theorem enter_given {name : String} {view : Tree → Option α} {put : σ → α → σ} {tree : α → Tree}
    (hview : ∀ {v a}, view v = some a ↔ v = tree a) (hgiven : valuesOf name ms ≠ []) {s t : σ} :
    (Column.of name view put).enter ms s = some t ↔
      ∃ a, valuesOf name ms = [tree a] ∧ put s a = t := by
  unfold Column.enter
  split
  · next hnil => exact absurd hnil hgiven
  · next v hone =>
    have hname : valuesOf name ms = [v] := hone
    simp [Column.of, hname, hview]
  · next hmore =>
    simp only [reduceCtorEq, false_iff, not_exists, not_and]
    intro a ha
    exact absurd ha (hmore _)

theorem enter_more (h : 2 ≤ (valuesOf c.name ms).length) (s : σ) : c.enter ms s = none := by
  unfold Column.enter
  split
  · next hnil => simp [hnil] at h
  · next hone => simp [hone] at h
  · rfl

theorem fill_append (ms : List Member) (pre post : List (Column σ)) (s : σ) :
    fill ms (pre ++ post) s = (fill ms pre s).bind (fill ms post) := by
  induction pre generalizing s with
  | nil => rfl
  | cons c cs ih =>
    rw [List.cons_append, fill, fill, Option.bind_assoc]
    congr 1
    funext t
    exact ih t

theorem fill_congr (h : ∀ c ∈ cs, valuesOf c.name ms = valuesOf c.name ms') :
    fill ms cs = fill ms' cs := by
  induction cs with
  | nil => rfl
  | cons c cs ih =>
    funext s
    rw [fill, fill, ih fun d hd => h d (List.mem_cons_of_mem c hd)]
    unfold Column.enter
    rw [h c List.mem_cons_self]

theorem fill_none (hc : c ∈ cs) (h : ∀ s, c.enter ms s = none) (s : σ) : fill ms cs s = none := by
  obtain ⟨pre, post, rfl⟩ := List.append_of_mem hc
  rw [fill_append]
  simp [fill, h]

theorem fill_commute (h : ∀ d ∈ cs, c.Commute d) (v : Tree) (ms : List Member) (s : σ) :
    (c.take s v).bind (fill ms cs) = (fill ms cs s).bind (c.take · v) := by
  induction cs generalizing s with
  | nil => simp [fill]
  | cons d ds ih =>
    have ih := ih fun e he => h e (List.mem_cons_of_mem d he)
    have hstep : ∀ t, (c.take t v).bind (d.enter ms) = (d.enter ms t).bind (c.take · v) := by
      intro t
      unfold Column.enter
      split
      · simp
      · exact h d List.mem_cons_self t v _
      · simp
    calc (c.take s v).bind (fill ms (d :: ds))
        = ((c.take s v).bind (d.enter ms)).bind (fill ms ds) := by
          rw [Option.bind_assoc]
          rfl
      _ = (d.enter ms s).bind fun t => (c.take t v).bind (fill ms ds) := by
          rw [hstep, Option.bind_assoc]
      _ = (fill ms (d :: ds) s).bind (c.take · v) := by
          simp only [ih, fill, Option.bind_assoc]

theorem ofMembers_unknown (h : key ∉ o.names) (before after : List Member) (v : Tree) :
    o.ofMembers (before ++ (some key, v) :: after) = o.ofMembers (before ++ after) := by
  unfold Outline.ofMembers
  rw [fill_congr fun c hc => valuesOf_insert_of_ne ?_ before after]
  · simp only [keyed_insert]
  · intro hsame
    rw [Option.some.inj hsame] at h
    exact h (List.mem_map_of_mem hc)

theorem ofMembers_repeated (h : key ∈ o.names) (hmore : 2 ≤ (valuesOf key ms).length) :
    o.ofMembers ms = none := by
  obtain ⟨c, hc, rfl⟩ := List.mem_map.mp h
  unfold Outline.ofMembers
  rw [fill_none hc (enter_more hmore), ite_self]

theorem ofMembers_again (h : key ∈ o.names) (hgiven : valuesOf key (before ++ after) ≠ [])
    (v : Tree) : o.ofMembers (before ++ (some key, v) :: after) = none := by
  refine ofMembers_repeated h ?_
  have hsome := List.length_pos_iff.mpr hgiven
  rw [valuesOf_append, valuesOf_cons_self]
  rw [valuesOf_append] at hsome
  simp only [List.length_append, List.length_cons] at hsome ⊢
  omega

theorem ofMembers_known (ho : o.Lawful) (hc : c ∈ o.columns)
    (hnew : valuesOf c.name (before ++ after) = []) (v : Tree) :
    o.ofMembers (before ++ (some c.name, v) :: after) =
      (o.ofMembers (before ++ after)).bind (c.take · v) := by
  obtain ⟨distinct, commute⟩ := ho
  obtain ⟨pre, post, hcolumns⟩ := List.append_of_mem hc
  unfold Outline.names at distinct
  rw [hcolumns] at distinct commute
  rw [List.map_append, List.map_cons, List.nodup_middle, List.nodup_cons, ← List.map_append]
    at distinct
  have hlast := (List.pairwise_cons.mp (List.pairwise_append.mp commute).2.1).1
  have hothers : ∀ d ∈ pre ++ post, valuesOf d.name (before ++ (some c.name, v) :: after) =
      valuesOf d.name (before ++ after) := by
    intro d hd
    refine valuesOf_insert_of_ne (fun hsame => distinct.1 ?_) before after
    rw [Option.some.inj hsame]
    exact List.mem_map_of_mem hd
  have hone : valuesOf c.name (before ++ (some c.name, v) :: after) = [v] := by
    rw [valuesOf_append, List.append_eq_nil_iff] at hnew
    rw [valuesOf_append, valuesOf_cons_self, hnew.1, hnew.2]
    rfl
  have hfill : fill (before ++ (some c.name, v) :: after) o.columns o.initial =
      (fill (before ++ after) o.columns o.initial).bind (c.take · v) := by
    rw [hcolumns, fill_append, fill_append, Option.bind_assoc,
      fill_congr fun d hd => hothers d (List.mem_append_left post hd)]
    congr 1
    funext s
    rw [fill, fill, enter_one hone, enter_nil hnew, Option.bind_some, ← fill_commute hlast,
      fill_congr fun d hd => hothers d (List.mem_append_right pre hd)]
  unfold Outline.ofMembers
  simp only [keyed_insert]
  split
  · exact hfill
  · rfl

end

/-! ## Places for values -/

/-- A place for the value of a field: a member of an object, or an item of a list. -/
inductive Slot (names : List String) (name : String) : (Tree → Tree) → Prop
  | member (before after : List Member) :
    Slot names name fun v => .object (before ++ (some name, v) :: after)
  | item {before : List Tree} (at_name : names[before.length]? = some name) (after : List Tree) :
    Slot names name fun v => .list (before ++ v :: after)

section

variable {names : List String} {name : String} {context : Tree → Tree}

/-- Either all is well with the record up to this value, or nothing is, whatever the value. -/
theorem Slot.members (h : Slot names name context) :
    (∃ before after, ∀ v,
      (context v).members? names = some (before ++ (some name, v) :: after)) ∨
      ∀ v, (context v).members? names = none := by
  cases h with
  | member before after => exact Or.inl ⟨before, after, fun _ => rfl⟩
  | @item before at_name after =>
    by_cases hfits : before.length + (after.length + 1) ≤ names.length
    · left
      obtain ⟨hlt, hname⟩ := List.getElem?_eq_some_iff.mp at_name
      have hnames : names = names.take before.length ++
          name :: names.drop (before.length + 1) := by
        rw [← hname, List.getElem_cons_drop, List.take_append_drop]
      refine ⟨((names.take before.length).map some).zip before,
        ((names.drop (before.length + 1)).map some).zip after, fun v => ?_⟩
      have hlength : (names.take before.length).length = before.length :=
        List.length_take_of_le (Nat.le_of_lt hlt)
      simp only [Tree.members?, List.length_append, List.length_cons, hfits, if_true]
      conv_lhs => rw [hnames]
      rw [List.map_append, List.zip_append (by simpa using hlength)]
      rfl
    · right
      intro v
      simp only [Tree.members?, List.length_append, List.length_cons, hfits, if_false]

/-- A record is what it is without the value of a field, and then the value is put into it. -/
theorem Slot.ofTree {o : Outline σ} {c : Column σ} (ho : o.Lawful) (hc : c ∈ o.columns)
    (h : Slot o.names c.name context) :
    ∃ base : Option σ, ∀ v, o.ofTree (context v) = base.bind (c.take · v) := by
  unfold Outline.ofTree
  rcases h.members with ⟨before, after, hmembers⟩ | hnone
  · by_cases hnew : valuesOf c.name (before ++ after) = []
    · refine ⟨o.ofMembers (before ++ after), fun v => ?_⟩
      rw [hmembers, Option.bind_some, ofMembers_known ho hc hnew]
    · refine ⟨none, fun v => ?_⟩
      rw [hmembers, Option.bind_some, ofMembers_again (List.mem_map_of_mem hc) hnew]
      rfl
  · refine ⟨none, fun v => ?_⟩
    rw [hnone]
    rfl

end

/-! ## One member after the other -/

section

variable {o : Outline σ}

namespace Outline

def column? (o : Outline σ) (key : String) : Option (Column σ) :=
  o.columns.find? (·.name == key)

/-- Takes one member behind others in which these known keys were seen. -/
def member (o : Outline σ) (s : σ × List String) : Member → Option (σ × List String)
  | (none, _) => none
  | (some key, v) =>
    match o.column? key with
    | none => some s
    | some c => if key ∈ s.2 then none else (c.take s.1 v).map (·, key :: s.2)

/-- The known keys, the last one first. -/
def seen (o : Outline σ) (ms : List Member) : List String :=
  ((ms.filterMap (·.1)).filter (· ∈ o.names)).reverse

end Outline

theorem column?_none {key : String} (h : o.column? key = none) : key ∉ o.names := by
  intro hkey
  obtain ⟨c, hc, rfl⟩ := List.mem_map.mp hkey
  have hnot := List.find?_eq_none.mp h c hc
  simp at hnot

theorem column?_some {key : String} {c : Column σ} (h : o.column? key = some c) :
    c ∈ o.columns ∧ c.name = key :=
  ⟨List.mem_of_find?_eq_some h, by simpa using List.find?_some h⟩

theorem mem_seen {key : String} (hkey : key ∈ o.names) (ms : List Member) :
    key ∈ o.seen ms ↔ valuesOf key ms ≠ [] := by
  simp [Outline.seen, valuesOf, hkey, List.filterMap_eq_nil_iff]

theorem ofMembers_unkeyed {ms : List Member} {m : Member} (hm : m ∈ ms) (h : m.1 = none) :
    o.ofMembers ms = none :=
  if_neg fun hkeyed => hkeyed m hm h

theorem seen_append (o : Outline σ) (ms : List Member) (key : String) (v : Tree) :
    o.seen (ms ++ [(some key, v)]) =
      if key ∈ o.names then key :: o.seen ms else o.seen ms := by
  simp only [Outline.seen, List.filterMap_append, List.filter_append, List.reverse_append]
  split
  · next h => simp [h]
  · next h => simp [h]

theorem walk_eq (ho : o.Lawful) (ms : List Member) :
    ms.foldlM o.member (o.initial, []) = (o.ofMembers ms).map (·, o.seen ms) := by
  -- From the end of the members, since that is where the walk comes to a new one.
  induction ms using List.reverseRecOn with
  | nil =>
    have hfill : fill [] o.columns o.initial = some o.initial := by
      induction o.columns with
      | nil => rfl
      | cons c cs ih => exact ih
    simp [Outline.ofMembers, Outline.seen, Keyed, hfill]
  | append_singleton ms m ih =>
    rw [List.foldlM_append, ih]
    simp only [List.foldlM_cons, List.foldlM_nil, Option.bind_eq_bind, Option.bind_map,
      Option.pure_def]
    obtain ⟨_ | key, v⟩ := m
    · rw [ofMembers_unkeyed (List.mem_append_right ms List.mem_cons_self) rfl]
      simp [Outline.member]
    · rw [seen_append]
      cases hcolumn : o.column? key with
      | none =>
        have hkey := column?_none hcolumn
        rw [ofMembers_unknown hkey, List.append_nil, if_neg hkey]
        simp [Outline.member, hcolumn, Option.map_eq_bind]
      | some c =>
        obtain ⟨hc, rfl⟩ := column?_some hcolumn
        have hkey : c.name ∈ o.names := List.mem_map_of_mem hc
        rw [if_pos hkey]
        by_cases hseen : valuesOf c.name ms = []
        · rw [ofMembers_known ho hc (by rw [List.append_nil, hseen]), List.append_nil]
          rw [Option.map_bind]
          refine congrArg _ (funext fun s => ?_)
          simp [Outline.member, hcolumn, mem_seen hkey, hseen]
        · rw [ofMembers_again hkey (by rwa [List.append_nil])]
          simp [Outline.member, hcolumn, mem_seen hkey, hseen]

end

/-! ## One item after the other -/

def takeItems : List (Column σ) → List Tree → σ → Option σ
  | c :: cs, v :: vs, s => (c.take s v).bind (takeItems cs vs)
  | [], _, s => some s
  | _, [], s => some s

theorem fill_zip {cs : List (Column σ)} (h : (cs.map (·.name)).Nodup) (vs : List Tree) :
    fill (((cs.map (·.name)).map some).zip vs) cs = takeItems cs vs := by
  induction cs generalizing vs with
  | nil => rfl
  | cons c cs ih =>
    rw [List.map_cons, List.nodup_cons] at h
    cases vs with
    | nil =>
      funext s
      rw [List.zip_nil_right, fill, enter_nil rfl, Option.bind_some]
      have hnil := congrFun (ih h.2 []) s
      rw [List.zip_nil_right] at hnil
      rw [hnil]
      cases cs with
      | nil => rfl
      | cons d ds => rfl
    | cons v vs =>
      have hothers : ∀ d ∈ cs, valuesOf d.name
          (((some c.name) :: (cs.map (·.name)).map some).zip (v :: vs)) =
            valuesOf d.name (((cs.map (·.name)).map some).zip vs) := by
        intro d hd
        rw [List.zip_cons_cons]
        refine valuesOf_cons_of_ne (fun hsame => h.1 ?_) _
        rw [Option.some.inj hsame]
        exact List.mem_map_of_mem hd
      have hone : valuesOf c.name
          (((some c.name) :: (cs.map (·.name)).map some).zip (v :: vs)) = [v] := by
        rw [List.zip_cons_cons, valuesOf_cons_self, valuesOf_zip h.1]
      funext s
      rw [List.map_cons, List.map_cons, fill, enter_one hone, fill_congr hothers, ih h.2]
      rfl

theorem ofTree_list {o : Outline σ} (ho : o.Lawful) (vs : List Tree) :
    o.ofTree (.list vs) =
      if vs.length ≤ o.columns.length then takeItems o.columns vs o.initial else none := by
  have hlength : o.names.length = o.columns.length := List.length_map _
  unfold Outline.ofTree
  rw [Tree.members?, hlength]
  split
  · rw [Option.bind_some, Outline.ofMembers, if_pos (keyed_zip _ _)]
    exact congrFun (fill_zip ho.distinct vs) o.initial
  · rfl

/-! ## Records that have to be whole -/

section

variable {o : Outline σ} {ms : List Member}

namespace Outline

/-- Every field is given. -/
def Covered (o : Outline σ) (ms : List Member) : Prop := ∀ name ∈ o.names, valuesOf name ms ≠ []

instance (o : Outline σ) (ms : List Member) : Decidable (o.Covered ms) :=
  inferInstanceAs (Decidable (∀ name ∈ o.names, valuesOf name ms ≠ []))

/-- What the members say about a record in which all fields may have to be given. -/
def accept (o : Outline σ) (complete : Bool) (ms : List Member) : Option σ :=
  if complete = true → o.Covered ms then o.ofMembers ms else none

def view (o : Outline σ) (complete : Bool) (v : Tree) : Option σ :=
  (v.members? o.names).bind (o.accept complete)

end Outline

theorem accept_partly (ms : List Member) : o.accept false ms = o.ofMembers ms :=
  if_pos fun h => absurd h Bool.false_ne_true

theorem view_partly (v : Tree) : o.view false v = o.ofTree v := by
  rw [Outline.view, funext accept_partly]
  rfl

theorem covered_zip {names : List String} (h : names.Nodup) (vs : List Tree) :
    (∀ name ∈ names, valuesOf name ((names.map some).zip vs) ≠ []) ↔ names.length ≤ vs.length := by
  induction names generalizing vs with
  | nil => simp
  | cons first names ih =>
    obtain ⟨hfirst, hnames⟩ := List.nodup_cons.mp h
    cases vs with
    | nil =>
      rw [List.zip_nil_right]
      constructor
      · intro hall
        exact absurd rfl (hall first List.mem_cons_self)
      · intro hle
        exact absurd hle (by simp)
    | cons v vs =>
      have hothers : ∀ name ∈ names, valuesOf name ((some first, v) :: (names.map some).zip vs) =
          valuesOf name ((names.map some).zip vs) := by
        intro name hname
        refine valuesOf_cons_of_ne (fun hsame => hfirst ?_) _
        rwa [Option.some.inj hsame]
      rw [List.map_cons, List.zip_cons_cons, List.forall_mem_cons, valuesOf_cons_self,
        List.length_cons, List.length_cons, Nat.add_le_add_iff_right, ← ih hnames]
      constructor
      · rintro ⟨-, hall⟩ name hname
        rw [← hothers name hname]
        exact hall name hname
      · intro hall
        refine ⟨by simp, fun name hname => ?_⟩
        rw [hothers name hname]
        exact hall name hname

theorem view_items (ho : o.Lawful) (complete : Bool) (vs : List Tree) :
    o.view complete (.list vs) =
      if vs.length ≤ o.columns.length ∧ (complete = true → o.columns.length ≤ vs.length) then
        takeItems o.columns vs o.initial
      else none := by
  have hlength : o.names.length = o.columns.length := List.length_map _
  have hitems := ofTree_list ho vs
  unfold Outline.ofTree at hitems
  unfold Outline.view
  rw [Tree.members?, hlength] at hitems ⊢
  by_cases hfits : vs.length ≤ o.columns.length
  · rw [if_pos hfits, Option.bind_some] at hitems ⊢
    rw [if_pos hfits] at hitems
    have hcovered : o.Covered ((o.names.map some).zip vs) ↔ o.columns.length ≤ vs.length := by
      rw [← hlength]
      exact covered_zip ho.distinct vs
    simp only [Outline.accept, hcovered, hitems, hfits, true_and]
  · rw [if_neg hfits, if_neg fun h => hfits h.1]
    rfl

end

end LinkWatch.Json
