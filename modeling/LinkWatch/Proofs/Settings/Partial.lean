import LinkWatch.Proofs.Json.Printed
import LinkWatch.Proofs.Settings.Tree

/-! # Settings that are given in part are merged with the defaults -/

namespace LinkWatch

open Json

/-! ## What is given -/

namespace Json

/-- The tree is a record with these keys, in one of its two forms, and says this by its members. -/
def Tree.Gives (v : Tree) (keys : List String) (given : List Member → Prop) : Prop :=
  ∃ ms, v.members? keys = some ms ∧ Keyed ms ∧ given ms

/-- A field that is kept is given once, by such a value. Another is not given at all. -/
def Keeps (kept : String → Bool) (ms : List Member) (key : String) (value : Tree → Prop) : Prop :=
  if kept key then ∃ v, valuesOf key ms = [v] ∧ value v else valuesOf key ms = []

def Tree.natural (n : Nat) : Tree := .number (Nat.toDigits 10 n)

def Tree.optional : Option String → Tree
  | none => .null
  | some s => .string (some s)

end Json

def Exclusion.name : Exclusion → String
  | .anywhere _ => "contains"
  | .leading _ => "prefix"

def Exclusion.part : Exclusion → String
  | .anywhere part => part
  | .leading part => part

def Exclusion.keys : List String := [kindKey, partKey]

def Exclusion.Given (x : Exclusion) (v : Tree) : Prop :=
  v.Gives keys fun ms =>
    valuesOf kindKey ms = [.string (some x.name)] ∧ valuesOf partKey ms = [.string (some x.part)]

def Exclusion.GivenInOrder (xs : List Exclusion) (v : Tree) : Prop :=
  ∃ vs, v = .list vs ∧ List.Forall₂ Exclusion.Given xs vs

structure ScanSettings.Fields (kept : String → Bool) (s : ScanSettings) (ms : List Member) :
    Prop where
  pollMillis : Keeps kept ms "poll_interval_ms" (· = .natural s.pollMillis.toNat)
  showSocketCan : Keeps kept ms "show_socket_can" (· = .bool s.showSocketCan)
  exclusions : Keeps kept ms "port_filters" (Exclusion.GivenInOrder s.exclusions)
  simulator : Keeps kept ms "simulator_port" (· = .natural s.simulator.toNat)
  probeMillis : Keeps kept ms "probe_timeout_ms" (· = .natural s.probeMillis.toNat)

structure OpenSettings.Fields (kept : String → Bool) (s : OpenSettings) (ms : List Member) :
    Prop where
  baud : Keeps kept ms "baud_rate" (· = .natural s.baud.toNat)
  timeoutMillis : Keeps kept ms "timeout_ms" (· = .natural s.timeoutMillis.toNat)

structure DrainSettings.Fields (kept : String → Bool) (s : DrainSettings) (ms : List Member) :
    Prop where
  bufferSize : Keeps kept ms "buffer_size" (· = .natural s.bufferSize.toNat)

/-- Which fields are kept, by their keys: of the whole, and of each group. -/
structure Kept where
  whole : String → Bool
  scan : String → Bool
  opening : String → Bool
  drain : String → Bool

structure Settings.Fields (kept : Kept) (s : Settings) (ms : List Member) : Prop where
  scan : Keeps kept.whole ms "scanner" (·.Gives ScanSettings.form.keys (s.scan.Fields kept.scan))
  opening : Keeps kept.whole ms "transport"
    (·.Gives OpenSettings.form.keys (s.opening.Fields kept.opening))
  drain : Keeps kept.whole ms "reader"
    (·.Gives DrainSettings.form.keys (s.drain.Fields kept.drain))
  target : Keeps kept.whole ms "auto_connect" (· = .optional s.target)

def Settings.Given (kept : Kept) (s : Settings) (v : Tree) : Prop :=
  v.Gives form.keys (s.Fields kept)

/-! ## What is kept -/

def ScanSettings.only (kept : String → Bool) (s : ScanSettings) : ScanSettings where
  pollMillis := if kept "poll_interval_ms" then s.pollMillis else ({} : ScanSettings).pollMillis
  showSocketCan :=
    if kept "show_socket_can" then s.showSocketCan else ({} : ScanSettings).showSocketCan
  exclusions := if kept "port_filters" then s.exclusions else ({} : ScanSettings).exclusions
  simulator := if kept "simulator_port" then s.simulator else ({} : ScanSettings).simulator
  probeMillis := if kept "probe_timeout_ms" then s.probeMillis else ({} : ScanSettings).probeMillis

def OpenSettings.only (kept : String → Bool) (s : OpenSettings) : OpenSettings where
  baud := if kept "baud_rate" then s.baud else ({} : OpenSettings).baud
  timeoutMillis := if kept "timeout_ms" then s.timeoutMillis else ({} : OpenSettings).timeoutMillis

def DrainSettings.only (kept : String → Bool) (s : DrainSettings) : DrainSettings where
  bufferSize := if kept "buffer_size" then s.bufferSize else ({} : DrainSettings).bufferSize

def Settings.only (kept : Kept) (s : Settings) : Settings where
  scan := if kept.whole "scanner" then s.scan.only kept.scan else {}
  opening := if kept.whole "transport" then s.opening.only kept.opening else {}
  drain := if kept.whole "reader" then s.drain.only kept.drain else {}
  target := if kept.whole "auto_connect" then s.target else none

/-! ## What is kept is read -/

section

variable {σ α : Type} {kept : String → Bool} {ms : List Member} {key : String}
  {value : Tree → Prop} {view : Tree → Option α} {a : α}

theorem keeps_one {v : Tree} (hkept : kept key = true) (hone : valuesOf key ms = [v])
    (hv : value v) : Keeps kept ms key value := by
  unfold Keeps
  rw [if_pos hkept]
  exact ⟨v, hone, hv⟩

theorem keeps_none (hkept : kept key = false) (hnone : valuesOf key ms = []) :
    Keeps kept ms key value := by
  unfold Keeps
  rwa [if_neg (by simp [hkept])]

theorem enter_keeps (h : Keeps kept ms key value) (hvalue : ∀ v, value v → view v = some a)
    (put : σ → α → σ) (s : σ) :
    (Column.of key view put).enter ms s = some (if kept key then put s a else s) := by
  unfold Keeps at h
  split at h
  · next hkept =>
    obtain ⟨v, hone, hv⟩ := h
    rw [enter_one hone, if_pos hkept]
    show (view v).map _ = _
    rw [hvalue v hv]
    rfl
  · next hkept => rw [enter_nil h, if_neg hkept]

theorem enter_keeps_one {v : Tree} (h : Keeps kept ms key (· = v)) (hv : view v = some a)
    (put : σ → α → σ) (s : σ) :
    (Column.of key view put).enter ms s = some (if kept key then put s a else s) :=
  enter_keeps h (fun _ hw => hw ▸ hv) put s

theorem ofTree_gives {o : Outline σ} {given : List Member → Prop} {s : σ} {v : Tree}
    (h : v.Gives o.names given) (hfill : ∀ ms, given ms → fill ms o.columns o.initial = some s) :
    o.ofTree v = some s := by
  obtain ⟨ms, hmembers, hkeyed, hgiven⟩ := h
  unfold Outline.ofTree Outline.ofMembers
  rw [hmembers, Option.bind_some, if_pos hkeyed]
  exact hfill ms hgiven

theorem natural?_natural {limit n : Nat} (hn : n ≤ limit) :
    (Tree.natural n).natural? limit = some n := by
  rw [Tree.natural, Tree.natural?, Nat.ofDigitChars_ten_toDigits,
    if_pos ⟨Text.all_isDigit_toDigits n, hn⟩]

theorem optional?_optional (s : Option String) :
    (Tree.optional s).optional? Tree.text? = some s := by
  cases s with
  | none => rfl
  | some s => rfl

end

theorem Exclusion.kindOf?_name (x : Exclusion) :
    ∃ k : Kind, kindOf? x.name = some k ∧ k.rule x.part = x := by
  cases x with
  | anywhere part => exact ⟨.anywhere, rfl, rfl⟩
  | leading part => exact ⟨.leading, rfl, rfl⟩

theorem Exclusion.ofTree_given {x : Exclusion} {v : Tree} (h : x.Given v) :
    ofTree v = some x := by
  obtain ⟨k, hk, hrule⟩ := x.kindOf?_name
  obtain ⟨ms, hmembers, hkeyed, hkind, hpart⟩ := h
  cases v with
  | object ms' =>
    obtain rfl := Option.some.inj hmembers
    have hfields : outline.ofMembers ms' = some (some k, some x.part) := by
      have hkind? : kind? (.string (some x.name)) = some k := hk
      unfold Outline.ofMembers
      rw [if_pos hkeyed]
      simp [outline, fill, Column.enter, Column.of, hkind, hpart, hkind?, Tree.text?]
    rw [ofTree, hfields, Option.bind_some, ofFields, hrule]
  | list vs =>
    rcases vs with _ | ⟨v, _ | ⟨w, _ | ⟨u, us⟩⟩⟩
    · obtain rfl := Option.some.inj hmembers
      exact absurd hkind (by simp [valuesOf])
    · obtain rfl := Option.some.inj hmembers
      exact absurd hpart (by simp [valuesOf, keys, kindKey, partKey])
    · obtain rfl := Option.some.inj hmembers
      have hv : v = .string (some x.name) := by
        simpa [valuesOf, keys, kindKey, partKey] using hkind
      have hw : w = .string (some x.part) := by
        simpa [valuesOf, keys, kindKey, partKey] using hpart
      have hname : kindName? (.string (some x.name)) = some k := hk
      rw [hv, hw, ofTree, hname, Option.bind_some, ofLast, Tree.text?, Option.map_some, hrule]
    · exact absurd hmembers (by simp [Tree.members?, keys])
  | null | bool | number | string => exact absurd hmembers (by simp [Tree.members?])

theorem Exclusion.list?_given {xs : List Exclusion} {v : Tree} (h : GivenInOrder xs v) :
    v.list? ofTree = some xs := by
  obtain ⟨vs, rfl, hvs⟩ := h
  rw [Tree.list?]
  induction hvs with
  | nil => rfl
  | cons hx _ ih =>
    rw [List.mapM_cons, ofTree_given hx, ih]
    rfl

theorem ScanSettings.ofTree_given {kept : String → Bool} {s : ScanSettings} {v : Tree}
    (h : v.Gives form.keys (s.Fields kept)) : outline.ofTree v = some (s.only kept) := by
  refine ofTree_gives h fun ms hms => ?_
  have hpoll : (Tree.natural s.pollMillis.toNat).natural? 0xffffffffffffffff = _ :=
    natural?_natural (Nat.le_of_lt_succ s.pollMillis.toNat_lt)
  have hcan : (Tree.bool s.showSocketCan).bool? = _ := rfl
  have hsimulator : (Tree.natural s.simulator.toNat).natural? 0xffff = _ :=
    natural?_natural (Nat.le_of_lt_succ s.simulator.toNat_lt)
  have hprobe : (Tree.natural s.probeMillis.toNat).natural? 0xffffffffffffffff = _ :=
    natural?_natural (Nat.le_of_lt_succ s.probeMillis.toNat_lt)
  simp only [outline, fill, Option.bind_some, UInt64.ofNat_toNat, UInt16.ofNat_toNat,
    enter_keeps_one hms.pollMillis hpoll, enter_keeps_one hms.showSocketCan hcan,
    enter_keeps hms.exclusions fun v => Exclusion.list?_given,
    enter_keeps_one hms.simulator hsimulator, enter_keeps_one hms.probeMillis hprobe]
  unfold only
  split_ifs <;> rfl

theorem OpenSettings.ofTree_given {kept : String → Bool} {s : OpenSettings} {v : Tree}
    (h : v.Gives form.keys (s.Fields kept)) : outline.ofTree v = some (s.only kept) := by
  refine ofTree_gives h fun ms hms => ?_
  have hbaud : (Tree.natural s.baud.toNat).natural? 0xffffffff = _ :=
    natural?_natural (Nat.le_of_lt_succ s.baud.toNat_lt)
  have htimeout : (Tree.natural s.timeoutMillis.toNat).natural? 0xffffffffffffffff = _ :=
    natural?_natural (Nat.le_of_lt_succ s.timeoutMillis.toNat_lt)
  simp only [outline, fill, Option.bind_some, UInt64.ofNat_toNat, UInt32.ofNat_toNat,
    enter_keeps_one hms.baud hbaud, enter_keeps_one hms.timeoutMillis htimeout]
  unfold only
  split_ifs <;> rfl

theorem DrainSettings.ofTree_given {kept : String → Bool} {s : DrainSettings} {v : Tree}
    (h : v.Gives form.keys (s.Fields kept)) : outline.ofTree v = some (s.only kept) := by
  refine ofTree_gives h fun ms hms => ?_
  have hsize : (Tree.natural s.bufferSize.toNat).natural? 0xffffffffffffffff = _ :=
    natural?_natural (Nat.le_of_lt_succ s.bufferSize.toNat_lt)
  simp only [outline, fill, Option.bind_some, UInt64.ofNat_toNat,
    enter_keeps_one hms.bufferSize hsize]
  unfold only
  split_ifs <;> rfl

namespace Settings

theorem ofTree_given {kept : Kept} {s : Settings} {v : Tree} (h : s.Given kept v) :
    ofTree v = some (s.only kept) := by
  refine ofTree_gives h fun ms hms => ?_
  simp only [outline, fill, Option.bind_some,
    enter_keeps hms.scan fun v => ScanSettings.ofTree_given,
    enter_keeps hms.opening fun v => OpenSettings.ofTree_given,
    enter_keeps hms.drain fun v => DrainSettings.ofTree_given,
    enter_keeps_one hms.target (optional?_optional s.target)]
  unfold only
  split_ifs <;> rfl

/-! ## Keys that are repeated -/

theorem repeated_refused {keys : List String} {context : Tree → Tree}
    (h : Group keys context ∨ keys = Exclusion.keys ∧ Rule context) {key : String}
    (hkey : key ∈ keys) {ms : List Member} (hmore : 2 ≤ (valuesOf key ms).length) :
    ofTree (context (.object ms)) = none := by
  rcases h with hgroup | ⟨rfl, hrule⟩
  · obtain ⟨σ, o, f, rfl, -, hview⟩ := hgroup.view
    have hnone : o.ofTree (.object ms) = none := ofMembers_repeated hkey hmore
    rw [hview, hnone]
    rfl
  · refine hrule.refused ?_
    have hnone : Exclusion.outline.ofMembers ms = none := ofMembers_repeated hkey hmore
    rw [Exclusion.ofTree, hnone]
    rfl

/-- What becomes of a text: the fields that are given are merged with the defaults, whatever stands
between them, and a key that is repeated is never settled in favour of one of its values. -/
structure Merges (text : String) (v : Tree) : Prop where
  given : ∀ (kept : Kept) (s : Settings), s.Given kept v →
    load (.ok text.toUTF8) = .ok (s.only kept)
  repeated : ∀ keys context key ms, Group keys context ∨ keys = Exclusion.keys ∧ Rule context →
    v = context (.object ms) → key ∈ keys → 2 ≤ (valuesOf key ms).length →
      ∃ detail, load (.ok text.toUTF8) = .error (.invalid detail)

theorem partial_files_are_merged {text : String} {v : Tree} (h : Document text v) :
    Merges text v where
  given _ _ hgiven := (load_document h _).mpr (ofTree_given hgiven)
  repeated _ _ _ _ hplace htree hkey hmore :=
    load_refused h (htree ▸ repeated_refused hplace hkey hmore)

/-- Two groups with unknown keys among theirs, of which one field each is kept. -/
def twoGroups : Value :=
  .object
    [("reader", .object [("note", .list [.null, .object []]), ("buffer_size", .natural 8)]),
     ("comment", .string "scanner"),
     ("scanner", .object [("port_filters", .list
       [.object [("pattern", .string "a"), ("level", .natural 3), ("match", .string "prefix")]])])]

def twoSizes : Value :=
  .object [("reader", .object [("buffer_size", .natural 8), ("buffer_size", .natural 8)])]

theorem partial_files_are_merged_group_by_group :
    load (.ok (twoGroups.render indented).toUTF8) =
        .ok { scan := { exclusions := [.leading "a"] }, drain := { bufferSize := 8 } } ∧
      ∃ detail, load (.ok (twoSizes.render indented).toUTF8) = .error (.invalid detail) := by
  refine ⟨(partial_files_are_merged (twoGroups.document indented_blank)).given
    ⟨(· ∈ ["reader", "scanner"]), (· = "port_filters"), fun _ => false, (· = "buffer_size")⟩
    { scan := { exclusions := [.leading "a"] }, drain := { bufferSize := 8 } } ?_, ?_⟩
  · refine ⟨_, rfl, by decide, keeps_one rfl rfl ⟨_, rfl, by decide, ?_⟩, keeps_none rfl rfl,
      keeps_one rfl rfl ⟨_, rfl, by decide, ⟨keeps_one rfl rfl rfl⟩⟩, keeps_none rfl rfl⟩
    refine ⟨keeps_none rfl rfl, keeps_none rfl rfl, keeps_one rfl rfl ⟨_, rfl, ?_⟩,
      keeps_none rfl rfl, keeps_none rfl rfl⟩
    exact .cons ⟨_, rfl, by decide, rfl, rfl⟩ .nil
  · exact (partial_files_are_merged (twoSizes.document indented_blank)).repeated _ _
      "buffer_size" _ (Or.inl (.drain (.member [] []))) rfl (by decide) (by decide)

end Settings

end LinkWatch
