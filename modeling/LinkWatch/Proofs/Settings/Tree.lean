import LinkWatch.Proofs.Exclusion.Tree
import LinkWatch.Proofs.Settings.RoundTrip

/-! # Settings are loaded as trees say -/

namespace LinkWatch

open Json

/-! ## The groups -/

def ScanSettings.outline : Outline ScanSettings where
  columns :=
    [.of "poll_interval_ms" (Tree.natural? 0xffffffffffffffff)
      fun s n => { s with pollMillis := .ofNat n },
     .of "show_socket_can" Tree.bool? fun s b => { s with showSocketCan := b },
     .of "port_filters" (Tree.list? Exclusion.ofTree) fun s xs => { s with exclusions := xs },
     .of "simulator_port" (Tree.natural? 0xffff) fun s n => { s with simulator := .ofNat n },
     .of "probe_timeout_ms" (Tree.natural? 0xffffffffffffffff)
      fun s n => { s with probeMillis := .ofNat n }]
  initial := {}

def OpenSettings.outline : Outline OpenSettings where
  columns :=
    [.of "baud_rate" (Tree.natural? 0xffffffff) fun s n => { s with baud := .ofNat n },
     .of "timeout_ms" (Tree.natural? 0xffffffffffffffff)
      fun s n => { s with timeoutMillis := .ofNat n }]
  initial := {}

def DrainSettings.outline : Outline DrainSettings where
  columns :=
    [.of "buffer_size" (Tree.natural? 0xffffffffffffffff)
      fun s n => { s with bufferSize := .ofNat n }]
  initial := {}

def Settings.outline : Outline Settings where
  columns :=
    [.of "scanner" ScanSettings.outline.ofTree fun s v => { s with scan := v },
     .of "transport" OpenSettings.outline.ofTree fun s v => { s with opening := v },
     .of "reader" DrainSettings.outline.ofTree fun s v => { s with drain := v },
     .of "auto_connect" (Tree.optional? Tree.text?) fun s v => { s with target := v }]
  initial := {}

/-! ## No field gets in the way of another -/

theorem ScanSettings.outline_lawful : ScanSettings.outline.Lawful where
  distinct := by decide
  commute := by
    simp only [outline, List.pairwise_cons, List.forall_mem_cons, List.not_mem_nil,
      false_imp_iff, implies_true, List.Pairwise.nil, and_true, and_assoc]
    refine ⟨?_, ?_, ?_, ?_, ?_, ?_, ?_, ?_, ?_, ?_⟩ <;> exact Column.commute_of fun _ _ _ => rfl

theorem OpenSettings.outline_lawful : OpenSettings.outline.Lawful where
  distinct := by decide
  commute := by
    simp only [outline, List.pairwise_cons, List.forall_mem_cons, List.not_mem_nil,
      false_imp_iff, implies_true, List.Pairwise.nil, and_true]
    exact Column.commute_of fun _ _ _ => rfl

theorem DrainSettings.outline_lawful : DrainSettings.outline.Lawful where
  distinct := by decide
  commute := List.pairwise_singleton _ _

theorem Settings.outline_lawful : Settings.outline.Lawful where
  distinct := by decide
  commute := by
    simp only [outline, List.pairwise_cons, List.forall_mem_cons, List.not_mem_nil,
      false_imp_iff, implies_true, List.Pairwise.nil, and_true, and_assoc]
    refine ⟨?_, ?_, ?_, ?_, ?_, ?_⟩ <;> exact Column.commute_of fun _ _ _ => rfl

/-! ## Reading follows the outlines -/

theorem word64_follows : Follows word64 0 (Tree.natural? 0xffffffffffffffff) :=
  natural_follows "u64" (by decide)

theorem size64_follows : Follows size64 0 (Tree.natural? 0xffffffffffffffff) :=
  natural_follows "usize" (by decide)

theorem word32_follows : Follows word32 0 (Tree.natural? 0xffffffff) :=
  natural_follows "u32" (by decide)

theorem word16_follows : Follows word16 0 (Tree.natural? 0xffff) :=
  natural_follows "u16" (by decide)

theorem ScanSettings.follows : ScanSettings.form.Follows 3 ScanSettings.outline where
  fields :=
    .cons (Field.follows_of (word64_follows.mono (by decide)) _ _) <|
    .cons (Field.follows_of (boolean_follows.mono (by decide)) _ _) <|
    .cons (Field.follows_of (list_follows Exclusion.decode_follows) _ _) <|
    .cons (Field.follows_of (word16_follows.mono (by decide)) _ _) <|
    .cons (Field.follows_of (word64_follows.mono (by decide)) _ _) .nil
  initial := rfl
  partly := rfl

theorem OpenSettings.follows : OpenSettings.form.Follows 0 OpenSettings.outline where
  fields :=
    .cons (Field.follows_of word32_follows _ _) <|
    .cons (Field.follows_of word64_follows _ _) .nil
  initial := rfl
  partly := rfl

theorem DrainSettings.follows : DrainSettings.form.Follows 0 DrainSettings.outline where
  fields := .cons (Field.follows_of size64_follows _ _) .nil
  initial := rfl
  partly := rfl

namespace Settings

theorem follows : form.Follows 4 outline where
  fields :=
    .cons (Field.follows_of (ScanSettings.follows.decode ScanSettings.outline_lawful) _ _) <|
    .cons (Field.follows_of
      ((OpenSettings.follows.decode OpenSettings.outline_lawful).mono (by decide)) _ _) <|
    .cons (Field.follows_of
      ((DrainSettings.follows.decode DrainSettings.outline_lawful).mono (by decide)) _ _) <|
    .cons (Field.follows_of ((optional_follows text_follows).mono (by decide)) _ _) .nil
  initial := rfl
  partly := rfl

/-! ## Whole files -/

def ofTree (v : Tree) : Option Settings := outline.ofTree v

theorem read_document {text : String} {v : Tree} (h : Document text v) :
    (read text.toList).toOption = ofTree v :=
  (follows.decode outline_lawful).document (by decide) h

theorem load_document {text : String} {v : Tree} (h : Document text v) (s : Settings) :
    load (.ok text.toUTF8) = .ok s ↔ ofTree v = some s := by
  have hread := read_document h
  unfold load
  simp only [fromUTF8?_toUTF8]
  unfold ofText
  rw [← hread]
  cases read text.toList with
  | error fault => simp [Except.toOption]
  | ok t => simp [Except.toOption]

theorem load_refused {text : String} {v : Tree} (h : Document text v) (hnone : ofTree v = none) :
    ∃ detail, load (.ok text.toUTF8) = .error (.invalid detail) := by
  have hread := read_document h
  rw [hnone] at hread
  obtain ⟨fault, hfault⟩ := eq_error_of_toOption hread
  refine ⟨fault.message text.toList, ?_⟩
  unfold load
  simp only [fromUTF8?_toUTF8]
  unfold ofText
  rw [hfault]

/-! ## Places -/

/-- A place for a record with these keys: the whole, or one of the groups. -/
inductive Group : List String → (Tree → Tree) → Prop
  | whole : Group form.keys id
  | scan {context : Tree → Tree} (slot : Slot form.keys "scanner" context) :
    Group ScanSettings.form.keys context
  | opening {context : Tree → Tree} (slot : Slot form.keys "transport" context) :
    Group OpenSettings.form.keys context
  | drain {context : Tree → Tree} (slot : Slot form.keys "reader" context) :
    Group DrainSettings.form.keys context

/-- A place for a rule in the list of them. -/
inductive Rule : (Tree → Tree) → Prop
  | item {outer inner : Tree → Tree} (scan : Slot form.keys "scanner" outer)
    (exclusions : Slot ScanSettings.form.keys "port_filters" inner) (before after : List Tree) :
    Rule fun v => outer (inner (.list (before ++ v :: after)))

theorem mem_scan : Column.of "scanner" ScanSettings.outline.ofTree
    (fun s v => { s with scan := v }) ∈ outline.columns :=
  .head _

theorem mem_opening : Column.of "transport" OpenSettings.outline.ofTree
    (fun s v => { s with opening := v }) ∈ outline.columns :=
  .tail _ (.head _)

theorem mem_drain : Column.of "reader" DrainSettings.outline.ofTree
    (fun s v => { s with drain := v }) ∈ outline.columns :=
  .tail _ (.tail _ (.head _))

theorem slot_view {σ α : Type} {o : Outline σ} (ho : o.Lawful) {name : String}
    {view : Tree → Option α} {put : σ → α → σ} (hcolumn : Column.of name view put ∈ o.columns)
    {context : Tree → Tree} (h : Slot o.names name context) :
    ∃ f : α → Option σ, ∀ v, o.ofTree (context v) = (view v).bind f := by
  obtain ⟨base, hbase⟩ := h.ofTree ho hcolumn
  refine ⟨fun a => base.map (put · a), fun v => ?_⟩
  rw [hbase]
  cases base with
  | none => simp
  | some s => exact Option.map_eq_bind

theorem Group.view {keys : List String} {context : Tree → Tree} (h : Group keys context) :
    ∃ (σ : Type) (o : Outline σ) (f : σ → Option Settings), o.names = keys ∧ o.Lawful ∧
      ∀ v, ofTree (context v) = (o.ofTree v).bind f := by
  cases h with
  | whole => exact ⟨Settings, outline, some, rfl, outline_lawful, fun v => by simp [ofTree]⟩
  | scan slot =>
    obtain ⟨f, hf⟩ := slot_view outline_lawful mem_scan slot
    exact ⟨_, _, f, rfl, ScanSettings.outline_lawful, hf⟩
  | opening slot =>
    obtain ⟨f, hf⟩ := slot_view outline_lawful mem_opening slot
    exact ⟨_, _, f, rfl, OpenSettings.outline_lawful, hf⟩
  | drain slot =>
    obtain ⟨f, hf⟩ := slot_view outline_lawful mem_drain slot
    exact ⟨_, _, f, rfl, DrainSettings.outline_lawful, hf⟩

theorem mapM_refused {α β : Type} {f : α → Option β} {a : α} {as : List α} (ha : a ∈ as)
    (h : f a = none) : as.mapM f = none := by
  induction as with
  | nil => exact absurd ha (by simp)
  | cons b bs ih =>
    rw [List.mapM_cons]
    rcases List.mem_cons.mp ha with rfl | hbs
    · rw [h]
      rfl
    · rw [ih hbs]
      cases f b with
      | none => rfl
      | some c => rfl

theorem Rule.refused {context : Tree → Tree} (h : Rule context) {v : Tree}
    (hv : Exclusion.ofTree v = none) : ofTree (context v) = none := by
  cases h with
  | item scan exclusions before after =>
    obtain ⟨f, hf⟩ := slot_view outline_lawful mem_scan scan
    obtain ⟨g, hg⟩ := slot_view ScanSettings.outline_lawful (.tail _ (.tail _ (.head _))) exclusions
    have hlist : Tree.list? Exclusion.ofTree (.list (before ++ v :: after)) = none :=
      mapM_refused (List.mem_append_right before List.mem_cons_self) hv
    unfold ofTree
    rw [hf, hg, hlist]
    rfl

end Settings

end LinkWatch
