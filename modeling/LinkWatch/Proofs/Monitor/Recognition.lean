import LinkWatch.Proofs.Endpoint.NormalForm
import LinkWatch.Proofs.Monitor.Inputs
import LinkWatch.Proofs.Survey.Identifiers
import LinkWatch.Proofs.Survey.Marker

/-! # Which targets are recognised in an inventory -/

namespace LinkWatch

open Text Endpoint

/-! ## What a target stands for -/

theorem firstSerial_eq_ok_iff {found : Inventory} {e : Endpoint} :
    found.firstSerial = .ok e ↔ ∃ before name after,
      found.listed = before ++ name :: after ∧ (∀ earlier ∈ before, ¬ ReadAsDevice earlier) ∧
        ReadAsDevice name ∧ e = .serial name := by
  rw [Inventory.firstSerial_eq_ok]
  unfold Inventory.serialDevices
  simp only [List.head?_filter, find?_device]
  constructor
  · rintro ⟨name, ⟨before, after, hlisted, hearlier, hname⟩, rfl⟩
    exact ⟨before, name, after, hlisted, hearlier, hname, rfl⟩
  · rintro ⟨before, name, after, hlisted, hearlier, hname, rfl⟩
    exact ⟨name, ⟨before, after, hlisted, hearlier, hname⟩, rfl⟩

theorem firstSerial_of_device {found : Inventory} {id : String} (hid : id ∈ found.listed)
    (hdevice : ReadAsDevice id) : ∃ name, found.firstSerial = .ok (.serial name) := by
  have hsome : found.serialDevices ≠ [] :=
    List.ne_nil_of_mem (List.mem_filter.mpr ⟨hid, namesSerial_eq_true.mpr hdevice⟩)
  exact ⟨_, Inventory.firstSerial_eq_serial.mpr (List.head?_eq_some_head hsome)⟩

namespace Monitor

variable {m : Monitor} {target endpoint : Endpoint}

theorem available_iff (haim : m.target = some target) :
    m.available = some endpoint ↔ StandsFor m.latest target endpoint := by
  constructor
  · intro h
    obtain ⟨other, hother, hstands⟩ := available_standsFor h
    obtain rfl := Option.some.inj (haim.symm.trans hother)
    exact hstands
  · intro h
    cases h with
    | itself plain listed => exact m.available_plain haim listed plain
    | first listed resolved =>
      unfold available
      rw [haim, Option.bind_some, if_pos listed, resolved]
      rfl

/-- What a target leads to where an inventory has been taken. -/
structure Recognises (target : Endpoint) (found : Inventory) (available : Option Endpoint) :
    Prop where
  there : (∃ e, available = some e) ↔ target.display ∈ found.listed ∧
    (target = .autoSerial → ∃ id ∈ found.listed, ReadAsDevice id)
  itself : ∀ e, available = some e → target ≠ .autoSerial → e = target
  /-- The marker leads to the first of the identifiers that are read as devices. -/
  first : ∀ e, available = some e → target = .autoSerial → ∃ before name after,
    found.listed = before ++ name :: after ∧ (∀ earlier ∈ before, ¬ ReadAsDevice earlier) ∧
      ReadAsDevice name ∧ e = .serial name
  resolved : available ≠ some .autoSerial

theorem recognises (haim : m.target = some target) :
    Recognises target m.latest m.available := by
  refine ⟨?_, ?_, ?_, ?_⟩
  · simp only [available_iff haim]
    constructor
    · rintro ⟨e, hstands⟩
      cases hstands with
      | itself plain listed => exact ⟨listed, fun h => absurd h plain⟩
      | first listed resolved =>
        obtain ⟨before, name, after, hlisted, -, hname, -⟩ := firstSerial_eq_ok_iff.mp resolved
        exact ⟨listed, fun _ => ⟨name, by simp [hlisted], hname⟩⟩
    · rintro ⟨hlisted, hdevices⟩
      by_cases hauto : target = .autoSerial
      · subst hauto
        obtain ⟨id, hid, hdevice⟩ := hdevices rfl
        obtain ⟨name, hname⟩ := firstSerial_of_device hid hdevice
        exact ⟨_, .first hlisted hname⟩
      · exact ⟨target, .itself hauto hlisted⟩
  · intro e he hplain
    cases (available_iff haim).mp he with
    | itself => rfl
    | first => exact absurd rfl hplain
  · intro e he hauto
    cases (available_iff haim).mp he with
    | itself plain => exact absurd hauto plain
    | first listed resolved => exact firstSerial_eq_ok_iff.mp resolved
  · intro he
    cases (available_iff haim).mp he with
    | itself plain => exact plain rfl

end Monitor

/-! ## The simulator -/

/-- What the host is asked and what is listed may follow different settings. -/
theorem number_listed_iff {settings probing : ScanSettings} {host : Host} :
    decimal probing.simulator.toNat ∈
        (survey settings true (host.answers probing)).value.listed ↔
      host.Simulates probing ∨ host.Keeps settings (decimal probing.simulator.toNat) := by
  have hkept : decimal probing.simulator.toNat ∈ (host.answers probing).devices settings ↔ _ :=
    mem_keep_iff
  have hsimulated : decimal probing.simulator.toNat ∈
      (host.answers probing).simulator.taken [] ↔ _ := mem_simulators_iff
  have hauto : decimal probing.simulator.toNat ≠ autoSerialId := Marker.autoSerial.ne_decimal _
  have hpcan : decimal probing.simulator.toNat ≠ pcanId := Marker.pcan.ne_decimal _
  have hsocket : decimal probing.simulator.toNat ≠ socketCanId := Marker.socketCan.ne_decimal _
  rw [survey_listed, mem_listing, if_pos rfl, askExtras_value, hkept, hsimulated]
  simp [hauto, hpcan, hsocket, or_comm]

/-! ## The law -/

theorem listed_targets_are_recognised {text : String} {target : Endpoint}
    (h : parse text = .ok target) :
    (∀ s : Settings, s.target = some text → s.endpoint = .ok (some target)) ∧
      (∀ m : Monitor, m.target = some target →
        Monitor.Recognises target m.latest m.available) ∧
      ∀ n, Spells n text → target = .tcp n ∧
        ∀ (settings probing : ScanSettings) (host : Host), probing.simulator = n →
          host.reach n = .accepts → ∀ m : Monitor, m.target = some target →
            m.latest = (survey settings true (host.answers probing)).value →
              (m.available = some (.tcp n) ↔
                probing.probeMillis ≠ 0 ∨ host.Keeps settings (decimal n.toNat)) := by
  refine ⟨fun s hs => (endpoint_eq hs).mpr h, fun m haim => Monitor.recognises haim, ?_⟩
  intro n hspells
  obtain rfl : target = .tcp n := Except.ok.inj (h.symm.trans (parse_eq_tcp_iff.mpr hspells))
  refine ⟨rfl, ?_⟩
  rintro settings probing host rfl haccepts m haim hlatest
  have hsimulates : host.Simulates probing ↔ probing.probeMillis ≠ 0 :=
    Reach.attempt_eq_ok.trans (and_iff_right haccepts)
  rw [← hsimulates, ← number_listed_iff, ← hlatest]
  constructor
  · intro havailable
    cases (Monitor.available_iff haim).mp havailable with
    | itself plain listed => exact listed
  · exact fun hlisted => m.available_plain haim hlisted (by simp)

/-- A host with two devices, one of which is excluded, a CAN adapter and a simulator. -/
def fullHost : Host where
  enumerated := .ok ["/dev/cu.usbmodem1", "/dev/rfcomm0"]
  usbEntries := .ok [⟨some "0c72\n".toUTF8, some "000c\n".toUTF8⟩]
  reach := fun n => if n = 80 then .accepts else .silent

theorem listed_targets_are_recognised_in_another_spelling :
    parse " localhost:+0080" = .ok (.tcp 80) ∧ Spells 80 " localhost:+0080" ∧
      ({ Monitor.new {} (some (.tcp 80)) with
        latest := (survey {} true (fullHost.answers { simulator := 80 })).value } :
          Monitor).available = some (.tcp 80) := by
  have hparse : parse " localhost:+0080" = .ok (.tcp 80) := by decide +kernel
  have hspells := parse_eq_tcp_iff.mp hparse
  obtain ⟨-, -, hsimulator⟩ := listed_targets_are_recognised hparse
  have hrecognised := (hsimulator 80 hspells).2 {} { simulator := 80 } fullHost rfl rfl
  exact ⟨hparse, hspells, (hrecognised _ rfl rfl).mpr (Or.inl (by decide))⟩

/-- Its connection would be accepted, but the probe is given no time to wait for that. -/
theorem a_simulator_is_missed_without_a_wait :
    parse "80" = .ok (.tcp 80) ∧ Spells 80 "80" ∧ fullHost.reach 80 = .accepts ∧
      ({ Monitor.new {} (some (.tcp 80)) with
        latest := (survey {} true
          (fullHost.answers { simulator := 80, probeMillis := 0 })).value } :
          Monitor).available = none := by
  have hparse : parse "80" = .ok (.tcp 80) := by decide +kernel
  have hunlisted : decimal (80 : UInt16).toNat ∉
      (survey {} true (fullHost.answers { simulator := 80, probeMillis := 0 })).value.listed := by
    rw [@number_listed_iff {} { simulator := 80, probeMillis := 0 } fullHost]
    rintro (hsimulates | ⟨hnames, -⟩)
    · exact (Reach.attempt_eq_ok.mp hsimulates).2 rfl
    · cases hnames with
      | enumerated enumerates mem =>
        rw [← Except.ok.inj enumerates] at mem
        exact absurd mem (by decide)
  refine ⟨hparse, parse_eq_tcp_iff.mp hparse, rfl, ?_⟩
  unfold Monitor.available
  exact if_neg hunlisted

end LinkWatch
