import LinkWatch.Monitor
import LinkWatch.Proofs.Endpoint.Display
import LinkWatch.Proofs.Survey.Listing
import LinkWatch.Startup

/-! # Which of the listed identifiers are read back as they are listed -/

namespace LinkWatch

open Text Endpoint

/-! ## Fallback names -/

/-- The text has a blank at its end. -/
def EndsBlank (t : String) : Prop := ∃ c ∈ t.toList.getLast?, isBlank c = true

theorem fallback_ne_nil {file : String} (h : isFallback file = true) : file.toList ≠ [] := by
  intro hnil
  unfold isFallback at h
  rw [hnil] at h
  exact absurd h (by decide)

theorem head?_fallback (file : String) : ("/dev/" ++ file).toList.head? = some '/' := by
  rw [String.toList_append]
  rfl

theorem written_slash {t : String} (h : t.toList.head? = some '/') :
    Written t ↔ trim t = t := by
  have hplain : ∀ e, ¬ Marker t e := by
    intro e hmarker
    cases hmarker with
    | autoSerial | pcan | socketCan => exact absurd h (by decide)
  have hname : ¬ Digits t.toList := by
    intro hdigits
    exact absurd (hdigits.2 '/' (List.mem_of_mem_head? h)) (by decide)
  have helse : ∀ number, ¬ Local t number := by
    rintro number ⟨-, rfl | rfl⟩
    · rw [String.toList_append] at h
      exact absurd (Option.some.inj h) (by decide)
    · rw [String.toList_append] at h
      exact absurd (Option.some.inj h) (by decide)
  have hne : t ≠ "" := by
    rintro rfl
    exact absurd h (by simp)
  constructor
  · intro hwritten
    cases hwritten with
    | marker hmarker => exact hmarker.unpadded
    | number n hpositive => exact absurd (digits_decimal n.toNat) hname
    | device _ hunpadded => exact hunpadded
  · intro hunpadded
    exact .device hne hunpadded hplain hname helse

theorem written_fallback {file : String} (h : isFallback file = true) :
    Written ("/dev/" ++ file) ↔ ¬ EndsBlank file := by
  have hlast : ("/dev/" ++ file).toList.getLast? = file.toList.getLast? := by
    rw [String.toList_append, List.getLast?_append_of_ne_nil _ (fallback_ne_nil h)]
  rw [written_slash (head?_fallback file), trim_eq_self_iff, hlast, head?_fallback]
  unfold EndsBlank
  constructor
  · rintro ⟨-, hunpadded⟩ ⟨c, hc, hblank⟩
    exact absurd (hunpadded c hc) (by simp [hblank])
  · intro hends
    refine ⟨fun c hc => ?_, fun c hc => ?_⟩
    · rw [← Option.mem_some.mp hc]
      decide
    · by_contra hblank
      exact hends ⟨c, hc, by simpa using hblank⟩

/-! ## Targets -/

theorem endpoint_eq {s : Settings} {id : String} (h : s.target = some id) {e : Endpoint} :
    s.endpoint = .ok (some e) ↔ parse id = .ok e := by
  unfold Settings.endpoint
  simp only [h]
  cases parse id with
  | error error => simp
  | ok e' => simp

theorem Monitor.available_plain {m : Monitor} {e : Endpoint} (htarget : m.target = some e)
    (hlisted : e.display ∈ m.latest.listed) (hplain : e ≠ .autoSerial) :
    m.available = some e := by
  unfold available
  rw [htarget, Option.bind_some, if_pos hlisted]
  cases e with
  | autoSerial => exact absurd rfl hplain
  | serial | tcp | pcan | socketCan => rfl

/-! ## The law -/

/-- Which identifiers of a survey are displayed as they are read, and what that means to a monitor
that is to connect to one of them. -/
structure ReadsBack (settings : ScanSettings) (full : Bool) (host : Host)
    (found : Inventory) : Prop where
  listed : ∀ id, id ∈ found.listed ↔ Listed settings full host id
  written : ∀ id, RoundTrips id ↔ Written id
  markers : RoundTrips autoSerialId ∧ RoundTrips pcanId ∧ RoundTrips socketCanId
  simulator : RoundTrips (decimal settings.simulator.toNat) ↔ settings.simulator ≠ 0
  fallback : ∀ file, isFallback file = true → (RoundTrips ("/dev/" ++ file) ↔ ¬ EndsBlank file)
  /-- So all of them are, just if every device has a written name and the simulator a number. -/
  all : (∀ id ∈ found.listed, RoundTrips id) ↔
    (∀ name, host.Keeps settings name → Written name) ∧
      (full = true → host.Simulates settings → settings.simulator ≠ 0)
  /-- A target that is read back is recognised, and what is opened is the target itself, unless it
  stands for the first device. -/
  recognised : ∀ id ∈ found.listed, RoundTrips id → ∃ e,
    (∀ s : Settings, s.target = some id → s.endpoint = .ok (some e)) ∧ e.display ∈ found.listed ∧
      ∀ m : Monitor, m.target = some e → m.latest = found → e ≠ .autoSerial →
        m.available = some e
  /-- For a target that is not read back the monitor looks for another identifier. -/
  missed : ∀ id, ¬ RoundTrips id → ∀ s : Settings, s.target = some id →
    ∀ e, s.endpoint = .ok (some e) → e.display ≠ id

theorem identifiers_are_read_back_when_written (settings : ScanSettings) (full : Bool)
    (host : Host) :
    ReadsBack settings full host (survey settings full (host.answers settings)).value := by
  have hmarkers : RoundTrips autoSerialId ∧ RoundTrips pcanId ∧ RoundTrips socketCanId :=
    ⟨roundTrips_iff.mpr (.marker .autoSerial), roundTrips_iff.mpr (.marker .pcan),
      roundTrips_iff.mpr (.marker .socketCan)⟩
  refine ⟨fun id => mem_survey_iff, fun id => roundTrips_iff, hmarkers, ?_, ?_, ?_, ?_, ?_⟩
  · rw [roundTrips_iff, written_decimal]
  · intro file hfamily
    rw [roundTrips_iff, written_fallback hfamily]
  · simp only [mem_survey_iff]
    constructor
    · intro h
      refine ⟨fun name hname => roundTrips_iff.mp (h name (.device hname)), ?_⟩
      intro hfull haccepts
      exact written_decimal.mp (roundTrips_iff.mp (h _ (.simulator hfull haccepts)))
    · rintro ⟨hdevices, hsimulator⟩ id hid
      cases hid with
      | autoSerial => exact hmarkers.1
      | device hname => exact roundTrips_iff.mpr (hdevices id hname)
      | simulator hfull haccepts =>
        exact roundTrips_iff.mpr (written_decimal.mpr (hsimulator hfull haccepts))
      | pcan => exact hmarkers.2.1
      | socketCan => exact hmarkers.2.2
  · rintro id hid ⟨e, hparse, hsame⟩
    rw [← hsame] at hid
    refine ⟨e, fun s hs => (endpoint_eq hs).mpr hparse, hid, ?_⟩
    intro m htarget hlatest hplain
    exact m.available_plain htarget (hlatest ▸ hid) hplain
  · intro id hnot s hs e he hsame
    exact hnot ⟨e, (endpoint_eq hs).mp he, hsame⟩

/-- A name in the device directory with a blank behind it. -/
def blankHost : Host := { deviceNames := some ["ttyACM0 "] }

/-- It is listed with the blank, but whoever is to connect to it looks for the name without. -/
theorem a_padded_device_is_not_read_back :
    (survey {} false (blankHost.answers {})).value.listed =
        ["Auto Serial", "/dev/ttyACM0 ", "SocketCAN"] ∧
      parse "/dev/ttyACM0 " = .ok (.serial "/dev/ttyACM0") ∧
      (Endpoint.serial "/dev/ttyACM0").display ≠ "/dev/ttyACM0 " ∧
      ({ Monitor.new {} (some (.serial "/dev/ttyACM0")) with
        latest := (survey {} false (blankHost.answers {})).value } : Monitor).available = none :=
  ⟨by decide +kernel, by decide +kernel, by decide +kernel, by decide +kernel⟩

end LinkWatch
