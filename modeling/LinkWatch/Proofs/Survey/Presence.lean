import LinkWatch.Proofs.Survey.Devices
import Mathlib.Data.List.Nodup

/-! # How far the list of devices depends only on what is present

Names from different directories can have the same place in the order of devices. Such names stay
as the set gives them out, of which nothing is known. -/

namespace LinkWatch

open Text

variable {host other : Host} {devices devices' : List String}

/-! ## Places -/

theorem base_deviceKey (name : String) : (deviceKey name).base = baseName name := by
  unfold deviceKey
  dsimp only
  split
  · rfl
  · split
    · rfl
    · rfl

theorem deviceKey_eq_iff {m n : String} : deviceKey m = deviceKey n ↔ baseName m = baseName n := by
  constructor
  · intro h
    rw [← base_deviceKey, h, base_deviceKey]
  · intro h
    unfold deviceKey
    rw [h]

theorem deviceLe_antisymm {m n : String} (hmn : deviceLe m n = true) (hnm : deviceLe n m = true) :
    deviceKey m = deviceKey n := by
  have hrank := le_antisymm (deviceLe_iff.mp hmn) (deviceLe_iff.mp hnm)
  have hbase := congrArg (fun r : Rank => (ofLex (ofLex r).2).2) hrank
  rw [deviceKey_eq_iff, ← base_deviceKey, ← base_deviceKey]
  exact hbase

theorem deviceLe_of_key {m n : String} (h : deviceKey m = deviceKey n) : deviceLe m n = true := by
  rw [deviceLe_iff, h]

/-! ## The same names -/

/-- Both hosts enumerate their devices, and have the same names, from whichever source. -/
structure SamePresence (host other : Host) : Prop where
  enumerated : ∃ names, host.enumerated = .ok names
  enumerated' : ∃ names, other.enumerated = .ok names
  names : ∀ name, host.Names name ↔ other.Names name

/-- No two names differ in their directories only. -/
def Host.DistinctBases (host : Host) : Prop :=
  ∀ m n, host.Names m → host.Names n → baseName m = baseName n → m = n

theorem perm_of_presence (h : SamePresence host other) (hdevices : host.serialDevices = .ok devices)
    (hdevices' : other.serialDevices = .ok devices') : devices.Perm devices' := by
  apply (List.perm_ext_iff_of_nodup (nodup_devices hdevices) (nodup_devices hdevices')).mpr
  intro name
  rw [mem_devices hdevices, mem_devices hdevices', h.names]

theorem keys_eq_of_perm (hperm : devices.Perm devices')
    (hsorted : devices.Pairwise fun a b => deviceLe a b = true)
    (hsorted' : devices'.Pairwise fun a b => deviceLe a b = true) :
    devices.map deviceKey = devices'.map deviceKey := by
  have hle : ∀ l : List String, l.Pairwise (fun a b => deviceLe a b = true) →
      (l.map deviceKey).Pairwise fun a b => a.rank ≤ b.rank := by
    intro l hl
    rw [List.pairwise_map]
    exact hl.imp deviceLe_iff.mp
  refine List.Perm.eq_of_pairwise ?_ (hle _ hsorted) (hle _ hsorted') (hperm.map deviceKey)
  intro a b ha hb hab hba
  obtain ⟨m, -, rfl⟩ := List.mem_map.mp ha
  obtain ⟨n, -, rfl⟩ := List.mem_map.mp hb
  exact deviceLe_antisymm (deviceLe_iff.mpr hab) (deviceLe_iff.mpr hba)

/-! ## The same machine, its names given out the other way round -/

def Arrangement.turned (a : Arrangement) : Arrangement where
  order := fun names => ((a.order names).mergeSort deviceLe).reverse
  perm := fun names =>
    (List.reverse_perm _).trans ((List.mergeSort_perm _ _).trans (a.perm names))

def Host.arranged (host : Host) (arrangement : Arrangement) : Host :=
  { host with arrangement := arrangement }

def Host.turned (host : Host) : Host := host.arranged host.arrangement.turned

theorem serialDevices_turned (h : host.serialDevices = .ok devices) :
    host.turned.serialDevices = .ok (devices.reverse.mergeSort deviceLe) := by
  unfold Host.serialDevices at h ⊢
  split at h
  · exact absurd h (by simp)
  · next names hnames =>
    have hsame : host.turned.enumerated = .ok names := hnames
    rw [hsame, ← Except.ok.inj h]
    rfl

/-- If turning the list round changes nothing, no two of its names have the same place. -/
theorem keys_nodup_of_turned (hnodup : devices.Nodup)
    (hsame : devices.reverse.mergeSort deviceLe = devices) : (devices.map deviceKey).Nodup := by
  have hplaces : devices.Pairwise fun m n => devices.idxOf m < devices.idxOf n := by
    rw [List.pairwise_iff_getElem]
    intro i j hi hj hlt
    rwa [hnodup.idxOf_getElem, hnodup.idxOf_getElem]
  unfold List.Nodup
  rw [List.pairwise_map]
  apply List.pairwise_of_forall_sublist
  intro m n hsub hkey
  -- The sort keeps the two as they stand in the turned list.
  have hback := List.pair_sublist_mergeSort deviceLe_trans deviceLe_total
    (deviceLe_of_key hkey.symm) hsub.reverse
  rw [hsame] at hback
  have hforth := hplaces.sublist hsub
  have hback := hplaces.sublist hback
  simp only [List.pairwise_pair] at hforth hback
  omega

theorem Host.Names.arranged {name : String} (h : host.Names name) (arrangement : Arrangement) :
    (host.arranged arrangement).Names name := by
  cases h with
  | enumerated enumerates mem => exact .enumerated enumerates mem
  | fallback enumerates readable mem family => exact .fallback enumerates readable mem family

theorem samePresence_arrangement (h : ∃ names, host.enumerated = .ok names)
    (arrangement : Arrangement) : SamePresence host (host.arranged arrangement) := by
  refine ⟨h, h, fun name => ⟨fun hname => hname.arranged arrangement, fun hname => ?_⟩⟩
  -- Arranged back, it is the same host again.
  exact hname.arranged host.arrangement

/-! ## The law -/

theorem serialDevices_of_presence (hdistinct : host.DistinctBases) (h : SamePresence host other) :
    other.serialDevices = host.serialDevices := by
  obtain ⟨names, hnames⟩ := h.enumerated
  obtain ⟨names', hnames'⟩ := h.enumerated'
  have hdevices := serialDevices_eq hnames
  have hdevices' := serialDevices_eq hnames'
  rw [hdevices, hdevices']
  refine congrArg _ (List.Perm.eq_of_pairwise ?_ (sorted_devices _) (sorted_devices _)
    (perm_of_presence h hdevices hdevices').symm)
  intro m n hm hn hmn hnm
  have hm' := (h.names m).mpr ((mem_devices hdevices').mp hm)
  exact hdistinct m n hm' ((mem_devices hdevices).mp hn)
    (deviceKey_eq_iff.mp (deviceLe_antisymm hmn hnm))

theorem distinctBases_of_turned
    (h : (∃ names, host.enumerated = .ok names) → host.turned.serialDevices = host.serialDevices) :
    host.DistinctBases := by
  cases henumerated : host.enumerated with
  | error fault =>
    intro m n hm
    cases hm with
    | enumerated enumerates | fallback enumerates =>
      exact absurd (henumerated.symm.trans enumerates) (by simp)
  | ok names =>
    have hlist := serialDevices_eq henumerated
    have hturned := h ⟨names, henumerated⟩
    rw [serialDevices_turned hlist, hlist] at hturned
    have hkeys := keys_nodup_of_turned (nodup_devices hlist) (Except.ok.inj hturned)
    intro m n hm hn hbase
    exact List.inj_on_of_nodup_map hkeys ((mem_devices hlist).mpr hm) ((mem_devices hlist).mpr hn)
      (deviceKey_eq_iff.mpr hbase)

theorem answers_of_devices {settings : ScanSettings}
    (hdevices : other.serialDevices = host.serialDevices) (husb : other.usbEntries = host.usbEntries)
    (hreach : other.reach settings.simulator = host.reach settings.simulator) :
    other.answers settings = host.answers settings := by
  unfold Host.answers Host.simulators Host.anyUsb Host.usbIds
  rw [hdevices, husb, hreach]

/-- How far a list of devices depends on nothing but the names that are present. -/
structure FollowsPresence (host : Host) : Prop where
  /-- The names are the same, and so are the places one after the other. -/
  places : ∀ other devices devices', SamePresence host other →
    host.serialDevices = .ok devices → other.serialDevices = .ok devices' →
    devices.Perm devices' ∧ devices.map deviceKey = devices'.map deviceKey
  /-- The list is the same, just if no two names have the same last component. -/
  same : (∀ other, SamePresence host other → other.serialDevices = host.serialDevices) ↔
    host.DistinctBases
  /-- Just then the machine cannot look changed while it is not. -/
  unchanged : (∀ arrangement, (host.arranged arrangement).serialDevices = host.serialDevices) ↔
    host.DistinctBases
  /-- And nor can it to a scanner, whatever its settings are. -/
  answers : host.DistinctBases → ∀ settings other, SamePresence host other →
    other.usbEntries = host.usbEntries →
    other.reach settings.simulator = host.reach settings.simulator →
    other.answers settings = host.answers settings

theorem the_list_follows_what_is_present (host : Host) : FollowsPresence host := by
  refine ⟨?_, ⟨fun h => ?_, fun hdistinct other h => serialDevices_of_presence hdistinct h⟩,
    ⟨fun h => ?_, fun hdistinct arrangement => ?_⟩, ?_⟩
  · intro other devices devices' h hdevices hdevices'
    have hperm := perm_of_presence h hdevices hdevices'
    exact ⟨hperm, keys_eq_of_perm hperm (pairwise_devices hdevices) (pairwise_devices hdevices')⟩
  · exact distinctBases_of_turned fun henumerated => h _ (samePresence_arrangement henumerated _)
  · exact distinctBases_of_turned fun _ => h _
  · cases henumerated : host.enumerated with
    | error fault =>
      have hsame : (host.arranged arrangement).enumerated = .error fault := henumerated
      unfold Host.serialDevices
      rw [henumerated, hsame]
    | ok names =>
      exact serialDevices_of_presence hdistinct (samePresence_arrangement ⟨names, henumerated⟩ _)
  · intro hdistinct settings other h husb hreach
    exact answers_of_devices (serialDevices_of_presence hdistinct h) husb hreach

/-- A device that is enumerated under a directory of its own. -/
def aliased : Host :=
  { enumerated := .ok ["/dev/serial/ttyACM0"], deviceNames := some ["ttyACM0"] }

/-- The same names, both of them enumerated. -/
def direct : Host := { enumerated := .ok ["/dev/ttyACM0", "/dev/serial/ttyACM0"] }

theorem serialDevices_aliased :
    aliased.serialDevices = .ok ["/dev/serial/ttyACM0", "/dev/ttyACM0"] :=
  serialDevices_of_sorted rfl (by decide +kernel) (by decide +kernel)

theorem serialDevices_direct :
    direct.serialDevices = .ok ["/dev/ttyACM0", "/dev/serial/ttyACM0"] :=
  serialDevices_of_sorted rfl (by decide +kernel) (by decide +kernel)

theorem samePresence_aliased : SamePresence aliased direct := by
  refine ⟨⟨_, rfl⟩, ⟨_, rfl⟩, fun name => ?_⟩
  rw [← mem_devices serialDevices_aliased, ← mem_devices serialDevices_direct]
  simp [or_comm]

/-- The names of one device change places, and so the machine looks changed while it is not. -/
theorem names_of_one_device_change_places :
    SamePresence aliased direct ∧ aliased.serialDevices ≠ direct.serialDevices ∧
      (survey {} false (aliased.answers {})).value.listed =
        ["Auto Serial", "/dev/serial/ttyACM0", "/dev/ttyACM0", "SocketCAN"] ∧
      (survey {} false (aliased.turned.answers {})).value.listed =
        ["Auto Serial", "/dev/ttyACM0", "/dev/serial/ttyACM0", "SocketCAN"] := by
  have hturned : aliased.turned.serialDevices = direct.serialDevices := by
    rw [serialDevices_turned serialDevices_aliased, serialDevices_direct,
      List.mergeSort_of_pairwise (by decide +kernel)]
    rfl
  refine ⟨samePresence_aliased, ?_, ?_, ?_⟩
  · rw [serialDevices_aliased, serialDevices_direct]
    decide +kernel
  · unfold Host.answers
    rw [serialDevices_aliased]
    decide +kernel
  · unfold Host.answers
    rw [hturned, serialDevices_direct]
    decide +kernel

end LinkWatch
