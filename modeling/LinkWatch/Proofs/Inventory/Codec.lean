import LinkWatch.Inventory.Codec
import LinkWatch.Proofs.Json.Printed
import LinkWatch.Proofs.Json.Records

/-! # Inventories are read back as they were, and only if they are whole -/

namespace LinkWatch.Inventory

open Json

/-! ## Reading follows the outline -/

def outline : Outline Inventory where
  columns :=
    [.of "ports" (Tree.list? Tree.text?) fun i v => { i with listed := v },
     .of "dfu_found" Tree.bool? fun i v => { i with dfu := v },
     .of "st_link_connected" Tree.bool? fun i v => { i with stLink := v },
     .of "can_adapter_connected" Tree.bool? fun i v => { i with canAdapter := v }]
  initial := empty

theorem outline_lawful : outline.Lawful where
  distinct := by decide
  commute := by
    simp only [outline, List.pairwise_cons, List.forall_mem_cons, List.not_mem_nil,
      false_imp_iff, implies_true, List.Pairwise.nil, and_true, and_assoc]
    refine ⟨?_, ?_, ?_, ?_, ?_, ?_⟩ <;> exact Column.commute_of fun _ _ _ => rfl

theorem outlined : form.Outlined 1 outline where
  fields :=
    .cons (Field.follows_of (list_follows text_follows) _ _) <|
    .cons (Field.follows_of (boolean_follows.mono (by decide)) _ _) <|
    .cons (Field.follows_of (boolean_follows.mono (by decide)) _ _) <|
    .cons (Field.follows_of (boolean_follows.mono (by decide)) _ _) .nil
  initial := rfl

theorem read_document {text : String} {v : Tree} (h : Document text v) :
    (read text.toList).toOption = outline.view true v :=
  (outlined.decode outline_lawful).document (by decide) h

theorem read_eq_ok_iff {text : String} {v : Tree} (h : Document text v) {i : Inventory} :
    read text.toList = .ok i ↔ outline.view true v = some i := by
  rw [← read_document h]
  cases read text.toList with
  | error fault => simp [Except.toOption]
  | ok j => simp [Except.toOption]

/-! ## Whole inventories -/

def namesTree (names : List String) : Tree := .list (names.map fun name => .string (some name))

theorem names?_eq_some_iff {v : Tree} {names : List String} :
    v.list? Tree.text? = some names ↔ v = namesTree names :=
  list?_eq_some_iff text?_eq_some_iff

/-- The members give the whole inventory: each key is there once, with its value. There may be
others, and the order does not matter. -/
structure Whole (i : Inventory) (ms : List Member) : Prop where
  keyed : Keyed ms
  listed : valuesOf "ports" ms = [namesTree i.listed]
  dfu : valuesOf "dfu_found" ms = [.bool i.dfu]
  stLink : valuesOf "st_link_connected" ms = [.bool i.stLink]
  canAdapter : valuesOf "can_adapter_connected" ms = [.bool i.canAdapter]

variable {i : Inventory} {ms : List Member}

theorem covered_iff : outline.Covered ms ↔
    valuesOf "ports" ms ≠ [] ∧ valuesOf "dfu_found" ms ≠ [] ∧
      valuesOf "st_link_connected" ms ≠ [] ∧ valuesOf "can_adapter_connected" ms ≠ [] := by
  simp [Outline.Covered, Outline.names, outline, Column.of]

theorem Whole.covered (h : i.Whole ms) : outline.Covered ms := by
  simp [covered_iff, h.listed, h.dfu, h.stLink, h.canAdapter]

theorem ofMembers_eq_some_iff (h : outline.Covered ms) :
    outline.ofMembers ms = some i ↔ i.Whole ms := by
  obtain ⟨hlisted, hdfu, hstLink, hcanAdapter⟩ := covered_iff.mp h
  simp only [Outline.ofMembers, outline, fill, Option.ite_none_right_eq_some,
    Option.bind_eq_some_iff, enter_given names?_eq_some_iff hlisted,
    enter_given bool?_eq_some_iff hdfu, enter_given bool?_eq_some_iff hstLink,
    enter_given bool?_eq_some_iff hcanAdapter]
  constructor
  · rintro ⟨hkeyed, _, ⟨names, hnames, rfl⟩, _, ⟨b, hb, rfl⟩, _, ⟨c, hc, rfl⟩, _, ⟨d, hd, rfl⟩,
      hlast⟩
    obtain rfl := Option.some.inj hlast
    exact ⟨hkeyed, hnames, hb, hc, hd⟩
  · rintro ⟨hkeyed, hnames, hb, hc, hd⟩
    exact ⟨hkeyed, _, ⟨_, hnames, rfl⟩, _, ⟨_, hb, rfl⟩, _, ⟨_, hc, rfl⟩, _, ⟨_, hd, rfl⟩, rfl⟩

theorem accept_eq_some_iff : outline.accept true ms = some i ↔ i.Whole ms := by
  rw [Outline.accept, Option.ite_none_right_eq_some]
  constructor
  · rintro ⟨hcovered, hmembers⟩
    exact (ofMembers_eq_some_iff (hcovered rfl)).mp hmembers
  · intro h
    exact ⟨fun _ => h.covered, (ofMembers_eq_some_iff h.covered).mpr h⟩

/-! ## Written inventories -/

theorem trees_string (names : List String) :
    Value.trees (names.map .string) = names.map fun name => .string (some name) := by
  induction names with
  | nil => rfl
  | cons name names ih => rw [List.map_cons, Value.trees, ih, List.map_cons, Value.tree]

/-- The members of a written inventory. -/
def written (i : Inventory) : List Member :=
  [(some "ports", namesTree i.listed), (some "dfu_found", .bool i.dfu),
    (some "st_link_connected", .bool i.stLink), (some "can_adapter_connected", .bool i.canAdapter)]

theorem document_render (i : Inventory) : Document i.render (.object i.written) := by
  have hdocument := i.toJson.document compact_blank
  have htree : i.toJson.tree = .object i.written := by
    simp only [toJson, written, namesTree, Value.tree, Value.memberTrees, trees_string]
  rwa [htree] at hdocument

theorem whole_written (i : Inventory) : i.Whole i.written :=
  ⟨by simp [Keyed, written], rfl, rfl, rfl, rfl⟩

theorem read_object {text : String} (h : Document text (.object ms)) (i : Inventory) :
    read text.toList = .ok i ↔ i.Whole ms :=
  (read_eq_ok_iff h).trans accept_eq_some_iff

theorem read_render (i : Inventory) : read i.render.toList = .ok i :=
  (read_object i.document_render i).mpr i.whole_written

theorem render_inj (i j : Inventory) : i.render = j.render ↔ i = j := by
  constructor
  · intro h
    have hread := read_render i
    rw [h, read_render] at hread
    exact (Except.ok.inj hread).symm
  · rintro rfl
    rfl

/-! ## Lists -/

theorem read_list {text : String} {vs : List Tree} (h : Document text (.list vs)) (i : Inventory) :
    read text.toList = .ok i ↔
      vs = [namesTree i.listed, .bool i.dfu, .bool i.stLink, .bool i.canAdapter] := by
  rw [read_eq_ok_iff h, view_items outline_lawful]
  -- Only four items can be taken: fewer leave a field out, and more do not fit.
  rcases vs with _ | ⟨listed, _ | ⟨dfu, _ | ⟨stLink, _ | ⟨canAdapter, _ | ⟨v, vs⟩⟩⟩⟩⟩
  · simp [outline]
  · simp [outline]
  · simp [outline]
  · simp [outline]
  · have hitems : takeItems outline.columns [listed, dfu, stLink, canAdapter] empty = some i ↔
        listed = namesTree i.listed ∧ dfu = .bool i.dfu ∧ stLink = .bool i.stLink ∧
          canAdapter = .bool i.canAdapter := by
      simp only [outline, takeItems, Column.of, Option.bind_eq_some_iff, Option.map_eq_some_iff,
        names?_eq_some_iff, bool?_eq_some_iff]
      constructor
      · rintro ⟨_, ⟨names, rfl, rfl⟩, _, ⟨b, rfl, rfl⟩, _, ⟨c, rfl, rfl⟩, _, ⟨d, rfl, rfl⟩, hlast⟩
        obtain rfl := Option.some.inj hlast
        exact ⟨rfl, rfl, rfl, rfl⟩
      · rintro ⟨rfl, rfl, rfl, rfl⟩
        exact ⟨_, ⟨_, rfl, rfl⟩, _, ⟨_, rfl, rfl⟩, _, ⟨_, rfl, rfl⟩, _, ⟨_, rfl, rfl⟩, rfl⟩
    have hlength : outline.columns.length = 4 := rfl
    have hinitial : outline.initial = empty := rfl
    simp [hlength, hinitial, hitems]
  · simp [outline]

/-! ## The law -/

theorem Whole.once (h : i.Whole ms) {key : String} (hkey : key ∈ form.keys) :
    (valuesOf key ms).length = 1 := by
  have hkeys : key = "ports" ∨ key = "dfu_found" ∨ key = "st_link_connected" ∨
      key = "can_adapter_connected" := by
    simpa [Form.keys, form, Field.of] using hkey
  obtain rfl | rfl | rfl | rfl := hkeys
  · rw [h.listed]
    rfl
  · rw [h.dfu]
    rfl
  · rw [h.stLink]
    rfl
  · rw [h.canAdapter]
    rfl

/-- Nothing is lost when an inventory is written, and nothing is made up when one is read. -/
structure Exact : Prop where
  lossless : ∀ i : Inventory, read i.render.toList = .ok i
  injective : ∀ i j : Inventory, i.render = j.render ↔ i = j
  /-- An object is read if it gives each field once, -/
  object : ∀ text ms, Document text (.object ms) →
    ∀ i : Inventory, read text.toList = .ok i ↔ i.Whole ms
  /-- so that a key which is missing or repeated is a fault, and does not stand for a default. -/
  refused : ∀ text ms, Document text (.object ms) → ∀ key ∈ form.keys,
    (valuesOf key ms).length ≠ 1 → ∃ fault, read text.toList = .error fault
  /-- A list is read if it gives each field at its place. -/
  list : ∀ text vs, Document text (.list vs) → ∀ i : Inventory, read text.toList = .ok i ↔
    vs = [namesTree i.listed, .bool i.dfu, .bool i.stLink, .bool i.canAdapter]

theorem inventories_are_exact_in_json : Exact where
  lossless := read_render
  injective := render_inj
  object _ _ := read_object
  refused text ms h key hkey hlength := by
    cases hread : read text.toList with
    | error fault => exact ⟨fault, rfl⟩
    | ok i => exact absurd (((read_object h i).mp hread).once hkey) hlength
  list _ _ := read_list

def shuffled : Value :=
  .object
    [("can_adapter_connected", .bool true), ("note", .list [.null, .object [("ports", .null)]]),
     ("ports", .list [.string "/dev/ttyACM0", .string "\"\n"]), ("", .natural 3),
     ("st_link_connected", .bool false), ("dfu_found", .bool true)]

def fewer : Value :=
  .object [("ports", .list []), ("dfu_found", .bool true), ("st_link_connected", .bool false)]

theorem inventories_are_exact_in_json_among_others :
    read (shuffled.render indented).toList =
        .ok { listed := ["/dev/ttyACM0", "\"\n"], dfu := true, canAdapter := true } ∧
      ∃ fault, read (fewer.render indented).toList = .error fault := by
  refine ⟨(inventories_are_exact_in_json.object _ _ (shuffled.document indented_blank) _).mpr ?_,
    inventories_are_exact_in_json.refused _ _ (fewer.document indented_blank)
      "can_adapter_connected" (by decide) (by decide)⟩
  exact ⟨by decide, rfl, rfl, rfl, rfl⟩

end LinkWatch.Inventory
