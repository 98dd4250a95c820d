import LinkWatch.Proofs.Survey.Listing
import LinkWatch.Proofs.Survey.Order

/-! # The list of devices loses nothing, invents nothing and is in order -/

namespace LinkWatch

open Text

variable {host : Host} {names devices : List String} {name : String}

/-! ## Each name once -/

theorem nodup_eraseDups {α : Type} [BEq α] [LawfulBEq α] (l : List α) : l.eraseDups.Nodup := by
  cases l with
  | nil => exact List.nodup_nil
  | cons a rest =>
    rw [List.eraseDups_cons, List.nodup_cons]
    refine ⟨?_, nodup_eraseDups (rest.filter fun b => !b == a)⟩
    intro hmem
    have hkept := List.of_mem_filter (List.mem_eraseDups.mp hmem)
    simp at hkept
termination_by l.length
decreasing_by
  have hle := List.length_filter_le (fun b => !b == a) rest
  simp only [List.length_cons]
  omega

theorem serialDevices_eq (h : host.enumerated = .ok names) :
    host.serialDevices = .ok ((host.deviceSet names).mergeSort deviceLe) := by
  unfold Host.serialDevices
  rw [h]

theorem serialDevices_of_sorted (h : host.enumerated = .ok names)
    (hset : host.deviceSet names = devices)
    (hsorted : devices.Pairwise fun a b => deviceLe a b = true) :
    host.serialDevices = .ok devices := by
  rw [serialDevices_eq h, hset, List.mergeSort_of_pairwise hsorted]

theorem serialDevices_eq_error {e : ProbeError} :
    host.serialDevices = .error e ↔ ∃ fault, host.enumerated = .error fault ∧ e = .serial fault := by
  unfold Host.serialDevices
  cases host.enumerated with
  | error fault => simp [eq_comm]
  | ok names => simp

theorem nodup_devices (h : host.serialDevices = .ok devices) : devices.Nodup := by
  unfold Host.serialDevices at h
  split at h
  · exact absurd h (by simp)
  · rw [← Except.ok.inj h, (List.mergeSort_perm _ _).nodup_iff]
    unfold Host.deviceSet
    rw [(host.arrangement.perm _).nodup_iff]
    exact nodup_eraseDups _

theorem pairwise_devices (h : host.serialDevices = .ok devices) :
    devices.Pairwise fun a b => deviceLe a b = true := by
  unfold Host.serialDevices at h
  split at h
  · exact absurd h (by simp)
  · rw [← Except.ok.inj h]
    exact sorted_devices _

theorem mem_devices (h : host.serialDevices = .ok devices) : name ∈ devices ↔ host.Names name := by
  have hserial := @mem_serial_iff host {} name
  unfold Host.answers at hserial
  rwa [h] at hserial

/-! ## Which names there are -/

theorem isFallback_iff {file : String} :
    isFallback file = true ↔ ∃ family ∈ families, family.toList <+: file.toList := by
  unfold isFallback leads
  simp only [List.any_eq_true, List.isPrefixOf_iff_prefix]

/-- The name that a file in the device directory stands for, if it is one of the numbered
families. -/
def FallbackFor (file name : String) : Prop :=
  (∃ family ∈ families, family.toList <+: file.toList) ∧ name = "/dev/" ++ file

theorem names_iff (h : host.enumerated = .ok names) :
    host.Names name ↔
      name ∈ names ∨ ∃ files, host.deviceNames = some files ∧ ∃ file ∈ files, FallbackFor file name := by
  unfold FallbackFor
  constructor
  · intro hname
    cases hname with
    | enumerated enumerates mem =>
      rw [← Except.ok.inj (h.symm.trans enumerates)] at mem
      exact Or.inl mem
    | fallback enumerates readable mem family =>
      exact Or.inr ⟨_, readable, _, mem, isFallback_iff.mp family, rfl⟩
  · rintro (hmem | ⟨files, hreadable, file, hfile, hfamily, rfl⟩)
    · exact .enumerated h hmem
    · exact .fallback h hreadable hfile (isFallback_iff.mpr hfamily)

def Host.unreadable (host : Host) : Host := { host with deviceNames := none }

theorem names_unreadable (h : host.enumerated = .ok names) :
    host.unreadable.Names name ↔ name ∈ names := by
  have hsame : host.unreadable.enumerated = .ok names := h
  rw [names_iff hsame]
  simp [Host.unreadable]

/-! ## The law -/

/-- No later place in the list: by family, then by number, then by name. The largest number and
what is no number of 64 bits have the same place. -/
def NotAfter (m n : String) : Prop :=
  ∃ a b, Ranked lastNumber m a ∧ Ranked lastNumber n b ∧ a ≤ b

theorem notAfter_iff {m n : String} : NotAfter m n ↔ deviceLe m n = true := by
  rw [deviceLe_iff]
  constructor
  · rintro ⟨a, b, ha, hb, hle⟩
    rwa [← ha.eq, ← hb.eq]
  · intro hle
    exact ⟨_, _, ranked_rank m, ranked_rank n, hle⟩

/-- What the list of devices is, where the enumeration reports `names`. -/
structure DeviceList (host : Host) (names devices : List String) : Prop where
  once : devices.Nodup
  complete : ∀ name, name ∈ devices ↔
    name ∈ names ∨ ∃ files, host.deviceNames = some files ∧ ∃ file ∈ files, FallbackFor file name
  ordered : devices.Pairwise NotAfter
  /-- Without the device directory there are just the names that the enumeration reports. -/
  unreadable : ∃ fewer, host.unreadable.serialDevices = .ok fewer ∧
    fewer.Perm (devices.filter fun name => name ∈ names)

theorem deviceList_of_enumerated (h : host.enumerated = .ok names)
    (hdevices : host.serialDevices = .ok devices) : DeviceList host names devices := by
  have hmem : ∀ name, name ∈ devices ↔ host.Names name := fun name => mem_devices hdevices
  have hnodup := nodup_devices hdevices
  refine ⟨hnodup, fun name => (hmem name).trans (names_iff h), ?_, ?_⟩
  · exact (pairwise_devices hdevices).imp fun hle => notAfter_iff.mpr hle
  · have hfewer := @serialDevices_eq host.unreadable names h
    refine ⟨_, hfewer, ?_⟩
    apply (List.perm_ext_iff_of_nodup (nodup_devices hfewer) (hnodup.filter _)).mpr
    intro name
    rw [mem_devices hfewer, names_unreadable h, List.mem_filter, hmem, names_iff h]
    simp only [decide_eq_true_eq]
    exact ⟨fun hname => ⟨Or.inl hname, hname⟩, And.right⟩

theorem every_device_is_listed_once (host : Host) :
    (∀ e, host.serialDevices = .error e ↔
      ∃ fault, host.enumerated = .error fault ∧ e = .serial fault) ∧
    ∀ names, host.enumerated = .ok names →
      ∃ devices, host.serialDevices = .ok devices ∧ DeviceList host names devices := by
  refine ⟨fun e => serialDevices_eq_error, fun names h => ?_⟩
  have hdevices := serialDevices_eq h
  exact ⟨_, hdevices, deviceList_of_enumerated h hdevices⟩

/-- The sources overlap, and the set gives out the last name first. -/
def twoSources : Host :=
  { enumerated := .ok ["COM3", "/dev/ttyUSB0", "/dev/ttyACM10", "COM3"],
    deviceNames := some ["ttyACM10", "tty0", "ttyACM+09"],
    arrangement := ⟨List.reverse, List.reverse_perm⟩ }

theorem every_device_is_listed_once_of_two_sources :
    twoSources.enumerated = .ok ["COM3", "/dev/ttyUSB0", "/dev/ttyACM10", "COM3"] ∧
      ∃ devices, twoSources.serialDevices = .ok devices ∧
        DeviceList twoSources ["COM3", "/dev/ttyUSB0", "/dev/ttyACM10", "COM3"] devices ∧
        devices = ["/dev/ttyACM+09", "/dev/ttyACM10", "/dev/ttyUSB0", "COM3"] := by
  obtain ⟨devices, hdevices, hlist⟩ := (every_device_is_listed_once twoSources).2 _ rfl
  have hlisted : twoSources.serialDevices =
      .ok ["/dev/ttyACM+09", "/dev/ttyACM10", "/dev/ttyUSB0", "COM3"] :=
    serialDevices_of_sorted rfl (by decide +kernel) (by decide +kernel)
  exact ⟨rfl, devices, hdevices, hlist, Except.ok.inj (hdevices.symm.trans hlisted)⟩

end LinkWatch
