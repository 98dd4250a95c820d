import LinkWatch.Proofs.Survey.Marker
import LinkWatch.Proofs.Survey.Order

/-! # Which device of a host auto-detection takes -/

namespace LinkWatch

open Text Endpoint

variable {settings : ScanSettings} {host : Host} {name : String}

/-! ## The devices in their order -/

/-- A device that no exclusion rejects and whose name is read as one. -/
def Host.Offers (host : Host) (settings : ScanSettings) (name : String) : Prop :=
  host.Keeps settings name ∧ ReadAsDevice name

theorem simulators_digits (settings : ScanSettings) (host : Host) :
    ∀ id ∈ (host.answers settings).simulator.taken [], Digits id.toList := by
  intro id hid
  obtain ⟨-, rfl⟩ := mem_simulators_iff.mp hid
  exact digits_decimal _

theorem serialDevices_host (settings : ScanSettings) (full : Bool) (host : Host) :
    (survey settings full (host.answers settings)).value.serialDevices =
      ((host.answers settings).devices settings).filter Inventory.namesSerial :=
  serialDevices_survey (simulators_digits settings host)

theorem mem_serialDevices {full : Bool} :
    name ∈ (survey settings full (host.answers settings)).value.serialDevices ↔
      host.Offers settings name := by
  rw [serialDevices_host, List.mem_filter, mem_keep_iff, namesSerial_eq_true]
  rfl

theorem sorted_serial (settings : ScanSettings) (host : Host) :
    ((host.answers settings).serial.taken []).Pairwise fun a b => deviceLe a b = true := by
  unfold Host.answers Host.serialDevices
  cases host.enumerated with
  | error fault => exact List.Pairwise.nil
  | ok names => exact sorted_devices (host.deviceSet names)

theorem sorted_serialDevices (settings : ScanSettings) (full : Bool) (host : Host) :
    (survey settings full (host.answers settings)).value.serialDevices.Pairwise
      fun a b => deviceLe a b = true := by
  rw [serialDevices_host]
  unfold Answers.devices Exclusion.keep
  exact ((sorted_serial settings host).filter _).filter _

theorem head_le {l : List String} (hsorted : l.Pairwise fun a b => deviceLe a b = true)
    (hhead : l.head? = some name) : ∀ other ∈ l, deviceLe name other = true := by
  obtain ⟨rest, rfl⟩ := List.head?_eq_some_iff.mp hhead
  intro other hother
  rcases List.mem_cons.mp hother with rfl | hother
  -- The order is total, so nothing comes strictly before itself.
  · simpa using deviceLe_total other other
  · exact List.rel_of_pairwise_cons hsorted hother

/-! ## The law -/

/-- What is taken is offered, and nothing that is offered has a place before it. -/
structure Takes (settings : ScanSettings) (host : Host) (found : Inventory) : Prop where
  taken : ∀ name, found.firstSerial = .ok (.serial name) → host.Offers settings name ∧
    ∀ other, host.Offers settings other → ¬ Precedes lastNumber other name
  offered : (∃ name, found.firstSerial = .ok (.serial name)) ↔ ∃ name, host.Offers settings name
  none : found.firstSerial = .error .noSerialDevice ↔ ∀ name, ¬ host.Offers settings name
  /-- The places are those of the families, the numbers in them and the names, one for each. -/
  placed : ∀ name, ∃! rank, Ranked lastNumber name rank

theorem auto_detection_takes_the_first (settings : ScanSettings) (full : Bool) (host : Host) :
    Takes settings host (survey settings full (host.answers settings)).value := by
  have hmem : ∀ name, name ∈ (survey settings full (host.answers settings)).value.serialDevices ↔
      host.Offers settings name := fun name => mem_serialDevices
  have hsorted := sorted_serialDevices settings full host
  generalize (survey settings full (host.answers settings)).value = found at hmem hsorted
  refine ⟨?_, ?_, ?_, existsUnique_ranked⟩
  · intro name hname
    rw [Inventory.firstSerial_eq_serial] at hname
    refine ⟨(hmem name).mp (List.mem_of_mem_head? hname), fun other hother hbefore => ?_⟩
    exact precedes_iff.mp hbefore (head_le hsorted hname other ((hmem other).mpr hother))
  · simp only [Inventory.firstSerial_eq_serial, ← hmem]
    constructor
    · rintro ⟨name, hname⟩
      exact ⟨name, List.mem_of_mem_head? hname⟩
    · rintro ⟨name, hname⟩
      exact ⟨_, List.head?_eq_some_head (List.ne_nil_of_mem hname)⟩
  · rw [Inventory.firstSerial_eq_error, List.eq_nil_iff_forall_not_mem]
    simp only [hmem]

/-- Two devices, one without a number and one with the largest that there is. -/
def twoDevices : Host := { deviceNames := some ["ttyACM", "ttyACM18446744073709551615"] }

theorem serialDevices_twoDevices :
    twoDevices.serialDevices = .ok ["/dev/ttyACM", "/dev/ttyACM18446744073709551615"] := by
  have hset : twoDevices.deviceSet [] = ["/dev/ttyACM", "/dev/ttyACM18446744073709551615"] := by
    decide +kernel
  change Except.ok ((twoDevices.deviceSet []).mergeSort deviceLe) = _
  rw [hset, List.mergeSort_of_pairwise (by decide +kernel)]

/-- The one without a number is taken, although a number comes before none. -/
theorem the_largest_number_is_not_before_none :
    (survey {} false (twoDevices.answers {})).value.firstSerial =
        .ok (.serial "/dev/ttyACM") ∧
      twoDevices.Offers {} "/dev/ttyACM18446744073709551615" ∧
      Precedes (lastNumber + 1) "/dev/ttyACM18446744073709551615" "/dev/ttyACM" := by
  have hserial : (survey {} false (twoDevices.answers {})).value.serialDevices =
      ["/dev/ttyACM", "/dev/ttyACM18446744073709551615"] := by
    rw [serialDevices_host]
    unfold Answers.devices Host.answers
    rw [serialDevices_twoDevices]
    decide +kernel
  refine ⟨?_, ?_, ?_⟩
  · rw [Inventory.firstSerial_eq_serial, hserial]
    rfl
  · rw [← mem_serialDevices, hserial]
    exact List.mem_cons_of_mem _ List.mem_cons_self
  · have hnumber : SuffixDenotes "18446744073709551615".toList 18446744073709551615 := by
      rw [suffixDenotes_iff]
      decide +kernel
    have hnone : ∀ n, SuffixDenotes [] n → lastNumber + 1 ≤ n := by
      intro n hn
      rw [suffixDenotes_iff] at hn
      exact absurd hn (by simp [unsigned?, digits?])
    refine ⟨_, _, .acm (by decide +kernel) (.number hnumber (by decide)),
      .acm (by decide +kernel) (.last hnone), ?_⟩
    exact Prod.Lex.toLex_lt_toLex.mpr (Or.inr ⟨rfl,
      Prod.Lex.toLex_lt_toLex.mpr (Or.inl (WithTop.coe_lt_top _))⟩)

end LinkWatch
