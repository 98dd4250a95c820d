import LinkWatch.Proofs.Settings.Partial

/-! # Records are loaded alike as objects and as lists -/

namespace LinkWatch

open Json

/-! ## Records in both forms -/

/-- How a record is written: as an object, or as a list of its fields in their order. -/
inductive Style where
  | keyed
  | listed
  deriving DecidableEq, Repr

def Style.record : Style → List (String × Tree) → Tree
  | keyed, fields => .object (fields.map fun f => (some f.1, f.2))
  | listed, fields => .list (fields.map (·.2))

/-- The style of each record in settings, also of each rule by its place among them. -/
structure Styles where
  whole : Style
  scan : Style
  opening : Style
  drain : Style
  exclusion : Nat → Style

def Exclusion.tree (style : Style) (x : Exclusion) : Tree :=
  style.record [(kindKey, .string (some x.name)), (partKey, .string (some x.part))]

def ScanSettings.tree (styles : Styles) (s : ScanSettings) : Tree :=
  styles.scan.record
    [("poll_interval_ms", .natural s.pollMillis.toNat),
     ("show_socket_can", .bool s.showSocketCan),
     ("port_filters", .list (s.exclusions.mapIdx fun i x => x.tree (styles.exclusion i))),
     ("simulator_port", .natural s.simulator.toNat),
     ("probe_timeout_ms", .natural s.probeMillis.toNat)]

def OpenSettings.tree (styles : Styles) (s : OpenSettings) : Tree :=
  styles.opening.record
    [("baud_rate", .natural s.baud.toNat), ("timeout_ms", .natural s.timeoutMillis.toNat)]

def DrainSettings.tree (styles : Styles) (s : DrainSettings) : Tree :=
  styles.drain.record [("buffer_size", .natural s.bufferSize.toNat)]

def Settings.tree (styles : Styles) (s : Settings) : Tree :=
  styles.whole.record
    [("scanner", s.scan.tree styles), ("transport", s.opening.tree styles),
     ("reader", s.drain.tree styles), ("auto_connect", .optional s.target)]

/-! ## Both forms give the same fields -/

theorem record_members (style : Style) (fields : List (String × Tree)) :
    (style.record fields).members? (fields.map (·.1)) =
      some (fields.map fun f => (some f.1, f.2)) := by
  cases style with
  | keyed => rfl
  | listed =>
    show (if _ then some _ else none) = _
    rw [if_pos (by simp), List.map_map, List.zip_map']
    rfl

theorem record_gives {keys : List String} {given : List Member → Prop} (style : Style)
    {fields : List (String × Tree)} (hkeys : fields.map (·.1) = keys)
    (h : given (fields.map fun f => (some f.1, f.2))) :
    (style.record fields).Gives keys given := by
  refine ⟨_, hkeys ▸ record_members style fields, ?_, h⟩
  intro m hm hnone
  obtain ⟨f, -, rfl⟩ := List.mem_map.mp hm
  exact absurd hnone (by simp)

def Kept.all : Kept := ⟨fun _ => true, fun _ => true, fun _ => true, fun _ => true⟩

theorem Exclusion.given_tree (style : Style) (x : Exclusion) : x.Given (x.tree style) :=
  record_gives style rfl ⟨rfl, rfl⟩

theorem ScanSettings.gives_tree (styles : Styles) (s : ScanSettings) :
    (s.tree styles).Gives form.keys (s.Fields Kept.all.scan) := by
  refine record_gives _ rfl ⟨keeps_one rfl rfl rfl, keeps_one rfl rfl rfl,
    keeps_one rfl rfl ⟨_, rfl, ?_⟩, keeps_one rfl rfl rfl, keeps_one rfl rfl rfl⟩
  refine List.forall₂_iff_get.mpr ⟨by simp, fun i hi _ => ?_⟩
  simpa using Exclusion.given_tree (styles.exclusion i) s.exclusions[i]

theorem OpenSettings.gives_tree (styles : Styles) (s : OpenSettings) :
    (s.tree styles).Gives form.keys (s.Fields Kept.all.opening) :=
  record_gives _ rfl ⟨keeps_one rfl rfl rfl, keeps_one rfl rfl rfl⟩

theorem DrainSettings.gives_tree (styles : Styles) (s : DrainSettings) :
    (s.tree styles).Gives form.keys (s.Fields Kept.all.drain) :=
  record_gives _ rfl ⟨keeps_one rfl rfl rfl⟩

namespace Settings

theorem given_tree (styles : Styles) (s : Settings) : s.Given .all (s.tree styles) :=
  record_gives _ rfl
    ⟨keeps_one rfl rfl (s.scan.gives_tree styles), keeps_one rfl rfl (s.opening.gives_tree styles),
      keeps_one rfl rfl (s.drain.gives_tree styles), keeps_one rfl rfl rfl⟩

/-! ## Lists of the first fields, and longer ones -/

section

variable {keys : List String} {context : Tree → Tree} {vs : List Tree}

theorem Group.first (h : Group keys context) (hfits : vs.length ≤ keys.length) :
    ofTree (context (.list vs)) = ofTree (context (.object ((keys.map some).zip vs))) := by
  obtain ⟨σ, o, f, rfl, -, hview⟩ := h.view
  have hmembers : (Tree.list vs).members? o.names = some ((o.names.map some).zip vs) :=
    if_pos hfits
  rw [hview, hview, Outline.ofTree, hmembers]
  rfl

theorem Group.more (h : Group keys context) (hmore : keys.length < vs.length) :
    ofTree (context (.list vs)) = none := by
  obtain ⟨σ, o, f, rfl, -, hview⟩ := h.view
  have hmembers : (Tree.list vs).members? o.names = none := if_neg (Nat.not_le.mpr hmore)
  rw [hview, Outline.ofTree, hmembers]
  rfl

end

/-- What becomes of a text in which records are written as objects or as lists. -/
structure FormsAgree (text : String) (v : Tree) : Prop where
  whole : ∀ styles s, v = tree styles s → load (.ok text.toUTF8) = .ok s
  /-- A list of the first values is an object with the first keys. -/
  first : ∀ keys context vs other, Group keys context → v = context (.list vs) →
    vs.length ≤ keys.length → Document other (context (.object ((keys.map some).zip vs))) →
      ∀ s, load (.ok text.toUTF8) = .ok s ↔ load (.ok other.toUTF8) = .ok s
  /-- If all is well with that object, then the list gives the same fields. -/
  merged : ∀ keys context vs (kept : Kept) (s : Settings), Group keys context →
    v = context (.list vs) → vs.length ≤ keys.length →
      s.Given kept (context (.object ((keys.map some).zip vs))) →
        load (.ok text.toUTF8) = .ok (s.only kept)
  more : ∀ keys context vs, Group keys context → v = context (.list vs) →
    keys.length < vs.length → ∃ detail, load (.ok text.toUTF8) = .error (.invalid detail)

theorem both_forms_load_alike {text : String} {v : Tree} (h : Document text v) :
    FormsAgree text v where
  whole styles s htree := (load_document h s).mpr (ofTree_given (htree ▸ given_tree styles s))
  first keys context vs other hgroup htree hfits hother s := by
    rw [load_document h, load_document hother, htree, hgroup.first hfits]
  merged keys context vs kept s hgroup htree hfits hgiven := by
    rw [load_document h, htree, hgroup.first hfits]
    exact ofTree_given hgiven
  more keys context vs hgroup htree hmore := load_refused h (htree ▸ hgroup.more hmore)

/-- A list of groups, where the first is a list as well and has a rule of each form. -/
def listsWithin : Value :=
  .list
    [.list [.natural 300, .bool false, .list
      [.list [.string "prefix", .string "a"],
       .object [("match", .string "contains"), ("pattern", .string "b")]],
      .natural 1, .natural 50],
     .object [("baud_rate", .natural 9600), ("timeout_ms", .natural 2000)],
     .list [.natural 3000], .null]

def oneListed : Value := .list [.list [.natural 7]]

def oneKeyed : Value := .object [("scanner", .list [.natural 7])]

theorem both_forms_load_alike_within_each_other :
    load (.ok (listsWithin.render indented).toUTF8) = .ok
        { scan :=
            { showSocketCan := false
              exclusions := [.leading "a", .anywhere "b"]
              simulator := 1 }
          opening := { baud := 9600 } } ∧
      load (.ok (oneListed.render indented).toUTF8) = .ok { scan := { pollMillis := 7 } } ∧
      ∃ detail, load (.ok ((Value.list [.null, .null, .null, .null, .null]).render
        indented).toUTF8) = .error (.invalid detail) := by
  refine ⟨(both_forms_load_alike (listsWithin.document indented_blank)).whole
    ⟨.listed, .listed, .keyed, .listed, fun i => if i = 0 then .listed else .keyed⟩ _ rfl, ?_, ?_⟩
  · have hsame := (both_forms_load_alike (oneListed.document indented_blank)).first _ _ _ _ .whole
      rfl (by decide) (oneKeyed.document indented_blank)
    exact (hsame _).mpr
      ((load_document (oneKeyed.document indented_blank) _).mpr (by decide +kernel))
  · exact (both_forms_load_alike (Value.document indented_blank _)).more _ _ _ .whole rfl
      (by decide)

end Settings

end LinkWatch
