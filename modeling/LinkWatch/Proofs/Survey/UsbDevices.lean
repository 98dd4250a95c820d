import LinkWatch.Proofs.Survey.Containment
import LinkWatch.Proofs.Text.Hexadecimal
import LinkWatch.Proofs.Text.Utf8

/-! # USB devices are found one by one, and none hides another -/

namespace LinkWatch

open Text

/-! ## Identities -/

/-- The file can be read and holds a text: a hexadecimal numeral with blanks around it, for a number
of 16 bits. -/
def HoldsNumber (content : Option ByteArray) (n : UInt16) : Prop :=
  ∃ left numeral right : String, content = some (left ++ numeral ++ right).toUTF8 ∧
    Blanks left ∧ Blanks right ∧ HexNumeral numeral.toList n.toNat

/-- Both files of the entry hold a number. -/
def UsbEntry.Identified (e : UsbEntry) (id : UsbId) : Prop :=
  HoldsNumber e.vendor id.vendor ∧ HoldsNumber e.product id.product

/-- One identity for each entry that has one, in their order, and none for the others. -/
inductive Gathered : List UsbEntry → List UsbId → Prop
  | nil : Gathered [] []
  | identified {e : UsbEntry} {id : UsbId} {rest : List UsbEntry} {ids : List UsbId}
    (has : e.Identified id) (more : Gathered rest ids) : Gathered (e :: rest) (id :: ids)
  | skipped {e : UsbEntry} {rest : List UsbEntry} {ids : List UsbId}
    (lacks : ∀ id, ¬ e.Identified id) (more : Gathered rest ids) : Gathered (e :: rest) ids

theorem bounded?_word16 {cs : List Char} {n : UInt16} :
    (bounded? 16 0xffff cs).map UInt16.ofNat = some n ↔ HexNumeral cs n.toNat := by
  simp only [Option.map_eq_some_iff, bounded?_sixteen]
  constructor
  · rintro ⟨m, ⟨hnumeral, hle⟩, rfl⟩
    have hlt : m < 65536 := by omega
    have hsame : (UInt16.ofNat m).toNat = m := UInt16.toNat_ofNat_of_lt' hlt
    rwa [hsame]
  · intro hnumeral
    have hlt := n.toNat_lt
    exact ⟨n.toNat, ⟨hnumeral, by omega⟩, UInt16.ofNat_toNat⟩

theorem identity?_eq_some {content : Option ByteArray} {n : UInt16} :
    identity? content = some n ↔ HoldsNumber content n := by
  unfold identity? HoldsNumber
  simp only [Option.bind_eq_some_iff, bounded?_word16, fromUTF8?_eq_some_iff]
  constructor
  · rintro ⟨text, ⟨bytes, rfl, rfl⟩, hnumeral⟩
    obtain ⟨left, right, hleft, hright, htext⟩ := exists_around text
    refine ⟨left, trim text, right, by rw [← htext], hleft, hright, ?_⟩
    rwa [trim, String.toList_ofList]
  · rintro ⟨left, numeral, right, rfl, hleft, hright, hnumeral⟩
    refine ⟨left ++ numeral ++ right, ⟨_, rfl, rfl⟩, ?_⟩
    have htrim : trim (left ++ numeral ++ right) = numeral := by
      rw [trim_around hleft hright, hnumeral.unpadded]
    have hchars := congrArg String.toList htrim
    rw [trim, String.toList_ofList] at hchars
    rwa [hchars]

theorem id?_eq_some {e : UsbEntry} {id : UsbId} : e.id? = some id ↔ e.Identified id := by
  unfold UsbEntry.id? UsbEntry.Identified
  rw [← identity?_eq_some, ← identity?_eq_some]
  split
  · next vendor product hvendor hproduct =>
    rw [hvendor, hproduct]
    cases id
    simp
  · next hnone =>
    refine ⟨fun h => absurd h (by simp), ?_⟩
    rintro ⟨hvendor, hproduct⟩
    exact absurd hproduct (hnone _ _ hvendor)

theorem isSome_id? {e : UsbEntry} : e.id?.isSome = true ↔ ∃ id, e.Identified id := by
  simp only [Option.isSome_iff_exists, id?_eq_some]

instance (e : UsbEntry) : Decidable (∃ id, e.Identified id) := decidable_of_iff _ isSome_id?

theorem gathered_iff {entries : List UsbEntry} {ids : List UsbId} :
    Gathered entries ids ↔ usbIds entries = ids := by
  unfold usbIds
  constructor
  · intro h
    induction h with
    | nil => rfl
    | identified has _ ih => rw [List.filterMap_cons_some (id?_eq_some.mpr has), ih]
    | skipped lacks _ ih =>
      have hnone := Option.eq_none_iff_forall_ne_some.mpr fun id h => lacks id (id?_eq_some.mp h)
      rw [List.filterMap_cons_none hnone, ih]
  · rintro rfl
    induction entries with
    | nil => exact .nil
    | cons e rest ih =>
      cases hid : e.id? with
      | none =>
        rw [List.filterMap_cons_none hid]
        refine .skipped (fun id hidentified => ?_) ih
        exact absurd (hid.symm.trans (id?_eq_some.mpr hidentified)) (by simp)
      | some id =>
        rw [List.filterMap_cons_some hid]
        exact .identified (id?_eq_some.mp hid) ih

/-! ## Tools -/

/-- What a full survey looks for among the identities. -/
inductive UsbTool where
  | dfu
  | stLink
  | canAdapter
  deriving DecidableEq, Repr

namespace UsbTool

/-- The identities that a tool can have. -/
inductive Has : UsbTool → UsbId → Prop
  | dfu : Has .dfu ⟨0x0483, 0xdf11⟩
  | stLink {product : UInt16}
    (member : product ∈ [0x3744, 0x3748, 0x374b, 0x374e, 0x374f, 0x3752, 0x3753]) :
    Has .stLink ⟨0x0483, product⟩
  | canAdapter (product : UInt16) : Has .canAdapter ⟨0x0c72, product⟩

def test : UsbTool → UsbId → Bool
  | .dfu => UsbId.isDfu
  | .stLink => UsbId.isStLink
  | .canAdapter => UsbId.isCanAdapter

def answer (answers : Answers) : UsbTool → Outcome Bool
  | .dfu => answers.dfu
  | .stLink => answers.stLink
  | .canAdapter => answers.canAdapter

/-- Whether an inventory has the tool. -/
def shown (found : Inventory) : UsbTool → Bool
  | .dfu => found.dfu
  | .stLink => found.stLink
  | .canAdapter => found.canAdapter

theorem test_iff {tool : UsbTool} {id : UsbId} : tool.test id = true ↔ tool.Has id := by
  obtain ⟨vendor, product⟩ := id
  constructor
  · intro h
    cases tool with
    | dfu =>
      simp only [test, UsbId.isDfu, Bool.and_eq_true, beq_iff_eq] at h
      obtain ⟨rfl, rfl⟩ := h
      exact .dfu
    | stLink =>
      simp only [test, UsbId.isStLink, Bool.and_eq_true, beq_iff_eq, List.contains_iff_mem] at h
      obtain ⟨rfl, hmember⟩ := h
      exact .stLink hmember
    | canAdapter =>
      simp only [test, UsbId.isCanAdapter, beq_iff_eq] at h
      subst h
      exact .canAdapter product
  · intro h
    cases h with
    | dfu => rfl
    | stLink hmember => simpa [test, UsbId.isStLink, stVendor, stLinkProducts] using hmember
    | canAdapter => rfl

theorem answer_host (tool : UsbTool) (host : Host) (settings : ScanSettings) :
    tool.answer (host.answers settings) = .ofExcept (host.anyUsb tool.test) := by
  cases tool with
  | dfu | stLink | canAdapter => rfl

theorem shown_survey (tool : UsbTool) (settings : ScanSettings) (full : Bool) (answers : Answers) :
    tool.shown (survey settings full answers).value =
      (full && (tool.answer answers).taken false) := by
  obtain ⟨hdfu, hstLink, hcanAdapter⟩ := survey_flags settings full answers
  cases tool with
  | dfu => exact hdfu
  | stLink => exact hstLink
  | canAdapter => exact hcanAdapter

end UsbTool

/-! ## Trees of devices -/

/-- The host with these entries for its USB devices, or a failure to list them. -/
def Host.withUsb (host : Host) (tree : Except IoFailure (List UsbEntry)) : Host :=
  { host with usbEntries := tree }

/-- What a full survey of the host finds with them. -/
def Host.foundWith (host : Host) (settings : ScanSettings)
    (tree : Except IoFailure (List UsbEntry)) : Inventory :=
  (survey settings true ((host.withUsb tree).answers settings)).value

variable {settings : ScanSettings} {host : Host} {entries others : List UsbEntry} {tool : UsbTool}

theorem shown_iff :
    tool.shown (host.foundWith settings (.ok entries)) = true ↔
      ∃ id ∈ usbIds entries, tool.Has id := by
  have hany : (host.withUsb (.ok entries)).anyUsb tool.test =
      .ok ((usbIds entries).any tool.test) := rfl
  rw [Host.foundWith, UsbTool.shown_survey, UsbTool.answer_host, hany]
  simp [Outcome.ofExcept, Outcome.taken, UsbTool.test_iff]

theorem answer_unlisted (failure : IoFailure) :
    tool.answer ((host.withUsb (.error failure)).answers settings) = .failed (.io failure) :=
  UsbTool.answer_host tool (host.withUsb (.error failure)) settings

theorem usbIds_filter (entries : List UsbEntry) :
    usbIds (entries.filter fun e => ∃ id, e.Identified id) = usbIds entries := by
  unfold usbIds
  rw [List.filterMap_filter]
  apply List.filterMap_congr
  intro e _
  simp only [← isSome_id?, decide_eq_true_eq]
  cases e.id? with
  | none | some => rfl

theorem answers_usbIds (h : usbIds others = usbIds entries) :
    (host.withUsb (.ok others)).answers settings =
      (host.withUsb (.ok entries)).answers settings := by
  have hany : ∀ test, (host.withUsb (.ok others)).anyUsb test =
      (host.withUsb (.ok entries)).anyUsb test :=
    fun test => congrArg (fun ids : List UsbId => Except.ok (ids.any test)) h
  unfold Host.answers
  rw [hany, hany, hany]
  rfl

theorem usbIds_subset (h : entries ⊆ others) : usbIds entries ⊆ usbIds others := by
  intro id hid
  obtain ⟨e, he, hsome⟩ := List.mem_filterMap.mp hid
  exact List.mem_filterMap.mpr ⟨e, h he, hsome⟩

/-- The identifier of CAN adapters has its place, and what is listed before it and behind it does
not depend on the USB devices. -/
theorem listed_foundWith (host : Host) (settings : ScanSettings) :
    ∃ before after, ∀ tree, (host.foundWith settings tree).listed =
      before ++ (if (host.foundWith settings tree).canAdapter then [pcanId] else []) ++ after := by
  let devices := (host.answers settings).devices settings
  refine ⟨(if devices.isEmpty then [] else [autoSerialId]) ++ devices ++ host.simulators settings,
    if settings.showSocketCan then [socketCanId] else [], fun tree => ?_⟩
  unfold Host.foundWith
  rw [survey_value, if_pos rfl, askExtras_value]
  rfl

/-! ## The law -/

/-- What a full survey of a host makes of any USB devices. -/
structure UsbSight (settings : ScanSettings) (host : Host) : Prop where
  found : ∀ entries, ∃ ids, (host.withUsb (.ok entries)).usbIds = .ok ids
  exact : ∀ entries ids, (host.withUsb (.ok entries)).usbIds = .ok ids ↔ Gathered entries ids
  /-- A tool is there just if one of the identities is its own. -/
  shown : ∀ entries ids, Gathered entries ids → ∀ tool : UsbTool,
    tool.shown (host.foundWith settings (.ok entries)) = true ↔ ∃ id ∈ ids, tool.Has id
  /-- Entries without an identity may come, go and change places: the survey remains the same. -/
  unidentified : ∀ entries others : List UsbEntry,
    (others.filter fun e => ∃ id, e.Identified id) =
      (entries.filter fun e => ∃ id, e.Identified id) →
    (host.withUsb (.ok others)).usbIds = (host.withUsb (.ok entries)).usbIds ∧
      survey settings true ((host.withUsb (.ok others)).answers settings) =
        survey settings true ((host.withUsb (.ok entries)).answers settings)
  /-- No other entry makes a tool disappear, whatever it is and wherever it stands. -/
  more : ∀ entries others : List UsbEntry, entries ⊆ others → ∀ tool : UsbTool,
    tool.shown (host.foundWith settings (.ok entries)) = true →
    tool.shown (host.foundWith settings (.ok others)) = true
  /-- Where the entries cannot be listed, the probes fail with the reason, and find no tool. -/
  unlisted : ∀ failure, (host.withUsb (.error failure)).usbIds = .error (.io failure) ∧
    ∀ tool : UsbTool,
      tool.answer ((host.withUsb (.error failure)).answers settings) = .failed (.io failure) ∧
      tool.shown (host.foundWith settings (.error failure)) = false
  /-- Whatever the tree, the identifiers around that of the CAN adapter are the same. -/
  listed : ∃ before after, ∀ tree, (host.foundWith settings tree).listed =
    before ++ (if (host.foundWith settings tree).canAdapter then [pcanId] else []) ++ after

theorem no_usb_device_hides_another (settings : ScanSettings) (host : Host) :
    UsbSight settings host where
  found entries := ⟨usbIds entries, rfl⟩
  exact entries ids := by
    rw [gathered_iff]
    exact ⟨Except.ok.inj, congrArg Except.ok⟩
  shown entries ids h tool := by
    rw [← gathered_iff.mp h]
    exact shown_iff
  unidentified entries others h := by
    have hids : usbIds others = usbIds entries := by
      rw [← usbIds_filter others, h, usbIds_filter]
    exact ⟨congrArg Except.ok hids, congrArg (survey settings true) (answers_usbIds hids)⟩
  more entries others h tool := by
    rw [shown_iff, shown_iff]
    rintro ⟨id, hid, hhas⟩
    exact ⟨id, usbIds_subset h hid, hhas⟩
  unlisted failure := by
    refine ⟨rfl, fun tool => ⟨answer_unlisted failure, ?_⟩⟩
    rw [Host.foundWith, UsbTool.shown_survey, answer_unlisted]
    rfl
  listed := listed_foundWith host settings

/-- An interface, and a device between two that cannot be read. -/
example :
    usbIds [⟨none, none⟩, ⟨some "0483".toUTF8, some "1df11".toUTF8⟩,
      ⟨some " +0483\n".toUTF8, some "00Df11\n".toUTF8⟩, ⟨some "0c72".toUTF8, none⟩] =
      [⟨0x0483, 0xdf11⟩] := by
  decide +kernel

end LinkWatch
