import LinkWatch.Proofs.Endpoint.Display
import LinkWatch.Proofs.Survey.Listing

/-! # The marker for auto-detection, and the device that it stands for -/

namespace LinkWatch

open Text Endpoint

/-! ## Names that are read as devices -/

/-- The identifier is read as a device. -/
def ReadAsDevice (id : String) : Prop := ∃ name, parse id = .ok (.serial name)

theorem namesSerial_eq_true {id : String} :
    Inventory.namesSerial id = true ↔ ReadAsDevice id := by
  unfold Inventory.namesSerial ReadAsDevice
  split
  · next name hparse => exact ⟨fun _ => ⟨name, hparse⟩, fun _ => rfl⟩
  · next hother => exact ⟨fun h => absurd h (by simp), fun ⟨name, h⟩ => absurd h (hother name)⟩

theorem namesSerial_eq_false {id : String} :
    Inventory.namesSerial id = false ↔ ¬ ReadAsDevice id := by
  rw [← namesSerial_eq_true, Bool.not_eq_true]

theorem readAsDevice_iff {id : String} :
    ReadAsDevice id ↔ trim id ≠ "" ∧ (∀ e, ¬ Marker (trim id) e) ∧ ¬ Digits (trim id).toList ∧
      ∀ number, ¬ Local (trim id) number := by
  unfold ReadAsDevice
  simp only [parse_eq_ok_iff]
  constructor
  · rintro ⟨name, hdenotes⟩
    obtain ⟨rfl, hrest⟩ := hdenotes.device_name
    exact hrest
  · rintro ⟨hne, hplain, hname, helse⟩
    exact ⟨trim id, .device hne hplain hname helse⟩

theorem Endpoint.Marker.not_device {id : String} {e : Endpoint} (h : Marker id e) :
    ¬ ReadAsDevice id := by
  intro hdevice
  have hplain := (readAsDevice_iff.mp hdevice).2.1
  rw [h.unpadded] at hplain
  exact hplain e h

theorem Endpoint.Digits.not_device {id : String} (h : Digits id.toList) : ¬ ReadAsDevice id := by
  intro hdevice
  have hname := (readAsDevice_iff.mp hdevice).2.2.1
  rw [h.unpadded] at hname
  exact hname h

/-! ## Devices among what is listed -/

theorem filter_optional {p : Prop} [Decidable p] {id : String} (h : ¬ ReadAsDevice id) :
    (if p then [id] else []).filter Inventory.namesSerial = [] := by
  rw [← namesSerial_eq_false] at h
  by_cases hp : p
  · simp [hp, h]
  · simp [hp]

theorem filter_listing {settings : ScanSettings} {devices : List String} {extras : Extras}
    (h : ∀ id ∈ extras.simulators, Digits id.toList) :
    (listing settings devices extras).filter Inventory.namesSerial =
      devices.filter Inventory.namesSerial := by
  have hnumbers : extras.simulators.filter Inventory.namesSerial = [] := by
    rw [List.filter_eq_nil_iff]
    intro id hid hdevice
    exact (h id hid).not_device (namesSerial_eq_true.mp hdevice)
  have hmarker : (if devices.isEmpty then [] else [autoSerialId]).filter Inventory.namesSerial =
      [] := by
    rw [← ite_not]
    exact filter_optional Marker.autoSerial.not_device
  have hpcan : ¬ ReadAsDevice pcanId := Marker.pcan.not_device
  have hsocket : ¬ ReadAsDevice socketCanId := Marker.socketCan.not_device
  unfold listing
  simp only [List.filter_append, hmarker, hnumbers, filter_optional hpcan, filter_optional hsocket,
    List.nil_append, List.append_nil]

theorem serialDevices_survey {settings : ScanSettings} {full : Bool} {answers : Answers}
    (h : ∀ id ∈ answers.simulator.taken [], Digits id.toList) :
    (survey settings full answers).value.serialDevices =
      (answers.devices settings).filter Inventory.namesSerial := by
  unfold Inventory.serialDevices
  rw [survey_listed]
  apply filter_listing
  cases full with
  | false => exact fun id hid => absurd hid List.not_mem_nil
  | true =>
    rw [if_pos rfl, askExtras_value]
    exact h

theorem marker_listed_iff {settings : ScanSettings} {full : Bool} {answers : Answers}
    (h : ∀ id ∈ answers.simulator.taken [], Digits id.toList) :
    autoSerialId ∈ (survey settings full answers).value.listed ↔ answers.devices settings ≠ [] := by
  rw [survey_listed, mem_listing]
  constructor
  · rintro (⟨hsome, -⟩ | hdevice | hnumber | ⟨-, hpcan⟩ | ⟨-, hsocket⟩)
    · exact hsome
    · exact List.ne_nil_of_mem hdevice
    · -- A number of a simulator is no marker.
      cases full with
      | false => exact absurd hnumber List.not_mem_nil
      | true =>
        rw [if_pos rfl, askExtras_value] at hnumber
        exact absurd (h _ hnumber) Marker.autoSerial.not_digits
    · exact absurd hpcan (by decide)
    · exact absurd hsocket (by decide)
  · intro hsome
    exact Or.inl ⟨hsome, rfl⟩

theorem head?_listed {settings : ScanSettings} {full : Bool} {answers : Answers}
    (h : answers.devices settings ≠ []) :
    (survey settings full answers).value.listed.head? = some autoSerialId := by
  rw [survey_listed, listing, List.isEmpty_eq_false_iff.mpr h]
  rfl

/-! ## The first device -/

namespace Inventory

variable {i : Inventory} {e : Endpoint}

theorem firstSerial_eq_ok :
    i.firstSerial = .ok e ↔ ∃ name, i.serialDevices.head? = some name ∧ e = .serial name := by
  unfold firstSerial
  cases i.serialDevices.head? with
  | none => simp
  | some name => simp [eq_comm]

theorem firstSerial_eq_serial {name : String} :
    i.firstSerial = .ok (.serial name) ↔ i.serialDevices.head? = some name := by
  rw [firstSerial_eq_ok]
  simp [eq_comm]

theorem firstSerial_eq_error :
    i.firstSerial = .error .noSerialDevice ↔ i.serialDevices = [] := by
  unfold firstSerial
  rw [← List.head?_eq_none_iff]
  cases i.serialDevices.head? with
  | none => simp
  | some name => simp

end Inventory

theorem find?_device {devices : List String} {name : String} :
    devices.find? Inventory.namesSerial = some name ↔ ∃ before after,
      devices = before ++ name :: after ∧ (∀ earlier ∈ before, ¬ ReadAsDevice earlier) ∧
        ReadAsDevice name := by
  rw [List.find?_eq_some_iff_append, namesSerial_eq_true]
  simp only [Bool.not_eq_true', namesSerial_eq_false]
  constructor
  · rintro ⟨hname, before, after, hdevices, hearlier⟩
    exact ⟨before, after, hdevices, hearlier, hname⟩
  · rintro ⟨before, after, hdevices, hearlier, hname⟩
    exact ⟨hname, before, after, hdevices, hearlier⟩

/-! ## The law -/

/-- What the marker promises and what comes of it, where these devices have passed the exclusions. -/
structure Promises (devices : List String) (found : Inventory) : Prop where
  serial : found.serialDevices = devices.filter Inventory.namesSerial
  /-- So all of them are found again, just if each is read as a device. -/
  again : found.serialDevices = devices ↔ ∀ name ∈ devices, ReadAsDevice name
  marked : autoSerialId ∈ found.listed ↔ devices ≠ []
  front : autoSerialId ∈ found.listed → found.listed.head? = some autoSerialId
  resolved : ∀ e, found.firstSerial = .ok e ↔ ∃ before name after,
    devices = before ++ name :: after ∧ (∀ earlier ∈ before, ¬ ReadAsDevice earlier) ∧
      ReadAsDevice name ∧ e = .serial name
  unresolved : found.firstSerial = .error .noSerialDevice ↔ ∀ name ∈ devices, ¬ ReadAsDevice name
  announced : ∀ e, found.firstSerial = .ok e → autoSerialId ∈ found.listed
  /-- The marker is in vain, just if there are devices and none of them is read as one. -/
  vain : autoSerialId ∈ found.listed ∧ found.firstSerial = .error .noSerialDevice ↔
    devices ≠ [] ∧ ∀ name ∈ devices, ¬ ReadAsDevice name

theorem promises_of_devices {devices : List String} {found : Inventory}
    (hserial : found.serialDevices = devices.filter Inventory.namesSerial)
    (hmarked : autoSerialId ∈ found.listed ↔ devices ≠ [])
    (hfront : devices ≠ [] → found.listed.head? = some autoSerialId) :
    Promises devices found := by
  have hresolved : ∀ e, found.firstSerial = .ok e ↔
      ∃ name, devices.find? Inventory.namesSerial = some name ∧ e = .serial name := by
    intro e
    rw [Inventory.firstSerial_eq_ok, hserial, List.head?_filter]
  have hunresolved : found.firstSerial = .error .noSerialDevice ↔
      ∀ name ∈ devices, ¬ ReadAsDevice name := by
    rw [Inventory.firstSerial_eq_error, hserial, List.filter_eq_nil_iff]
    simp only [namesSerial_eq_true]
  refine ⟨hserial, ?_, hmarked, fun h => hfront (hmarked.mp h), fun e => ?_, hunresolved, ?_, ?_⟩
  · rw [hserial, List.filter_eq_self]
    simp only [namesSerial_eq_true]
  · rw [hresolved]
    simp only [find?_device]
    constructor
    · rintro ⟨name, ⟨before, after, hdevices, hearlier, hname⟩, rfl⟩
      exact ⟨before, name, after, hdevices, hearlier, hname, rfl⟩
    · rintro ⟨before, name, after, hdevices, hearlier, hname, rfl⟩
      exact ⟨name, ⟨before, after, hdevices, hearlier, hname⟩, rfl⟩
  · intro e he
    obtain ⟨name, hfind, -⟩ := (hresolved e).mp he
    exact hmarked.mpr (List.ne_nil_of_mem (List.mem_of_find?_eq_some hfind))
  · rw [hmarked, hunresolved]

/-- The marker stands for the first device whose name is read as one. Blank names, markers, digits
and what looks like a number on this machine are not. -/
theorem the_marker_stands_for_a_readable_name (settings : ScanSettings) (full : Bool)
    (answers : Answers) (numbers : ∀ id ∈ answers.simulator.taken [], Digits id.toList) :
    Promises (answers.devices settings) (survey settings full answers).value ∧
      ∀ name, ReadAsDevice name ↔ trim name ≠ "" ∧ (∀ e, ¬ Marker (trim name) e) ∧
        ¬ Digits (trim name).toList ∧ ∀ number, ¬ Local (trim name) number :=
  ⟨promises_of_devices (serialDevices_survey numbers) (marker_listed_iff numbers) head?_listed,
    fun _ => readAsDevice_iff⟩

/-- One device of a family that is excluded, one with a number for a name, and one to be found. -/
def mixedAnswers : Answers where
  serial := .found ["/dev/cu.usbmodem1", "29001", "COM3 "]
  simulator := .found ["29001"]

theorem the_marker_stands_for_a_readable_name_behind_a_number :
    (∀ id ∈ mixedAnswers.simulator.taken [], Digits id.toList) ∧
      Promises ["29001", "COM3 "] (survey {} true mixedAnswers).value ∧
      (survey {} true mixedAnswers).value.listed =
        ["Auto Serial", "29001", "COM3 ", "29001", "SocketCAN"] ∧
      (survey {} true mixedAnswers).value.firstSerial = .ok (.serial "COM3 ") := by
  have hnumbers : ∀ id ∈ mixedAnswers.simulator.taken [], Digits id.toList := by
    intro id hid
    obtain rfl := List.mem_singleton.mp hid
    rw [digits_iff]
    decide +kernel
  exact ⟨hnumbers, (the_marker_stands_for_a_readable_name {} true mixedAnswers hnumbers).1,
    by decide +kernel, by decide +kernel⟩

/-- A device with a number for a name is listed behind the marker, but is read as a TCP number. -/
theorem a_numbered_device_is_marked_in_vain :
    Answers.devices { serial := .found ["29001"] } {} = ["29001"] ∧
      (survey {} false { serial := .found ["29001"] }).value.listed =
        ["Auto Serial", "29001", "SocketCAN"] ∧
      (survey {} false { serial := .found ["29001"] }).value.serialDevices = [] ∧
      (survey {} false { serial := .found ["29001"] }).value.firstSerial =
        .error .noSerialDevice :=
  ⟨by decide +kernel, by decide +kernel, by decide +kernel, by decide +kernel⟩

end LinkWatch
