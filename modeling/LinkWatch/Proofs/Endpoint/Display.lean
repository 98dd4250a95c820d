import LinkWatch.Proofs.Endpoint.Parse

/-! # Which identifiers are displayed as they are read -/

namespace LinkWatch.Endpoint

open Text

/-- Read as an endpoint, the identifier is what that endpoint is displayed as. -/
def RoundTrips (id : String) : Prop := ∃ e, parse id = .ok e ∧ e.display = id

/-- The forms in which endpoints are displayed. -/
inductive Written : String → Prop
  | marker {t : String} {e : Endpoint} (marker : Marker t e) : Written t
  | number (n : UInt16) (positive : n ≠ 0) : Written (decimal n.toNat)
  | device {t : String} (some : t ≠ "") (unpadded : trim t = t) (plain : ∀ e, ¬ Marker t e)
    (name : ¬ Digits t.toList) (elsewhere : ∀ number, ¬ Local t number) : Written t

/-! ## Markers -/

theorem Marker.display {t : String} {e : Endpoint} (h : Marker t e) : e.display = t := by
  cases h with
  | autoSerial | pcan | socketCan => rfl

theorem Marker.unpadded {t : String} {e : Endpoint} (h : Marker t e) : trim t = t := by
  cases h with
  | autoSerial | pcan | socketCan => decide +kernel

/-! ## Numbers -/

theorem digits_decimal (n : Nat) : Digits (decimal n).toList := by
  rw [digits_iff, decimal, String.toList_ofList]
  exact ⟨Nat.toDigits_ne_nil, all_isDigit_toDigits n⟩

theorem denoted_decimal (n : Nat) : denoted (decimal n).toList = n := by
  rw [denoted, decimal, String.toList_ofList]
  exact Nat.ofDigitChars_toDigits (by omega) (Nat.le_refl 10)

theorem Marker.ne_decimal {t : String} {e : Endpoint} (h : Marker t e) (n : Nat) :
    decimal n ≠ t := by
  rintro rfl
  exact h.not_digits (digits_decimal n)

theorem not_isBlank_digit {c : Char} (h : '0' ≤ c ∧ c ≤ '9') : isBlank c = false := by
  have hlow := le_iff_toNat.mp h.1
  have hhigh := le_iff_toNat.mp h.2
  exact not_isBlank_visible (Nat.le_trans (by decide) hlow) (Nat.le_trans hhigh (by decide))

theorem Digits.unpadded {t : String} (h : Digits t.toList) : trim t = t := by
  rw [trim_eq_self_iff]
  refine ⟨fun c hc => ?_, fun c hc => ?_⟩
  · exact not_isBlank_digit (h.2 c (List.mem_of_mem_head? hc))
  · exact not_isBlank_digit (h.2 c (List.mem_of_mem_getLast? hc))

/-! ## Reading and displaying -/

theorem Denotes.written {t : String} {e : Endpoint} (h : Denotes (trim t) e)
    (hsame : e.display = t) : Written t := by
  cases h with
  | marker hmarker =>
    rw [hmarker.display] at hsame
    rw [← hsame]
    exact .marker hmarker
  | @digits n hdigits hdenoted hpositive =>
    rw [← hsame]
    exact .number n hpositive
  | @behindHost number n hhost hnumeral =>
    rw [← hsame]
    exact .number n (Denotes.positive (.behindHost hhost hnumeral))
  | device hne hplain hname helse =>
    have htrim : trim t = t := hsame
    rw [htrim] at hne hplain hname helse
    exact .device hne htrim hplain hname helse

theorem Written.denotes {t : String} (h : Written t) :
    ∃ e, Denotes (trim t) e ∧ e.display = t := by
  cases h with
  | @marker t e hmarker =>
    refine ⟨e, ?_, hmarker.display⟩
    rw [hmarker.unpadded]
    exact .marker hmarker
  | number n hpositive =>
    refine ⟨.tcp n, ?_, rfl⟩
    rw [(digits_decimal n.toNat).unpadded]
    exact .digits (digits_decimal n.toNat) (denoted_decimal n.toNat) hpositive
  | device hne htrim hplain hname helse =>
    refine ⟨.serial t, ?_, rfl⟩
    rw [htrim]
    exact .device hne hplain hname helse

theorem roundTrips_iff {id : String} : RoundTrips id ↔ Written id := by
  unfold RoundTrips
  simp only [parse_eq_ok_iff]
  constructor
  · rintro ⟨e, hdenotes, hsame⟩
    exact hdenotes.written hsame
  · exact Written.denotes

theorem written_decimal {n : UInt16} : Written (decimal n.toNat) ↔ n ≠ 0 := by
  have hdigits := digits_decimal n.toNat
  constructor
  · intro h
    generalize hid : decimal n.toNat = id at h hdigits
    cases h with
    | marker hmarker => exact absurd hdigits hmarker.not_digits
    | number m hpositive =>
      have hsame := congrArg (fun t : String => denoted t.toList) hid
      simp only [denoted_decimal] at hsame
      rwa [UInt16.toNat_inj.mp hsame]
    | device _ _ _ hname => exact absurd hdigits hname
  · exact .number n

end LinkWatch.Endpoint
