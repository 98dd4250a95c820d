import LinkWatch.Proofs.Endpoint.Grammar
import LinkWatch.Proofs.Text.Blank

/-! # Identifiers are read exactly as the grammar has it -/

namespace LinkWatch.Endpoint

open Text

/-! ## The classes of identifiers do not meet -/

theorem Local.colon {t number : String} (h : Local t number) : ':' ∈ t.toList := by
  rcases h.2 with rfl | rfl
  · rw [String.toList_append]
    exact List.mem_append_left _ (by decide)
  · rw [String.toList_append]
    exact List.mem_append_left _ (by decide)

theorem Digits.no_colon {cs : List Char} (h : Digits cs) : ':' ∉ cs :=
  fun hmem => absurd (h.2 ':' hmem) (by decide)

theorem Marker.not_digits {t : String} {e : Endpoint} (h : Marker t e) : ¬ Digits t.toList := by
  intro hdigits
  cases h with
  | autoSerial => exact absurd (hdigits.2 'A' (by decide)) (by decide)
  | pcan => exact absurd (hdigits.2 'P' (by decide)) (by decide)
  | socketCan => exact absurd (hdigits.2 'S' (by decide)) (by decide)

theorem Marker.no_colon {t : String} {e : Endpoint} (h : Marker t e) : ':' ∉ t.toList := by
  cases h with
  | autoSerial => decide
  | pcan => decide
  | socketCan => decide

/-! ## The host and the number -/

theorem local_iff {t number : String} :
    Local t number ↔ ':' ∉ number.toList ∧
      ∃ host ∈ localHosts, t.toList = host.toList ++ ':' :: number.toList := by
  unfold Local localHosts
  refine and_congr_right fun _ => ?_
  simp only [List.mem_cons, List.not_mem_nil, or_false, exists_eq_or_imp, exists_eq_left]
  rw [← String.toList_inj, ← String.toList_inj, String.toList_append, String.toList_append]
  rfl

theorem localTcp?_eq_some {t : String} {number : List Char} :
    localTcp? t.toList = some number ↔ Local t (String.ofList number) := by
  rw [local_iff, String.toList_ofList]
  unfold localTcp?
  constructor
  · intro h
    cases hsplit : splitLast? ':' t.toList with
    | none =>
      rw [hsplit] at h
      exact absurd h (by simp)
    | some parts =>
      obtain ⟨host, digits⟩ := parts
      rw [hsplit] at h
      simp only [Option.ite_none_right_eq_some, Option.some.injEq] at h
      obtain ⟨hhost, rfl⟩ := h
      obtain ⟨ht, hcolon⟩ := splitLast?_eq_some.mp hsplit
      exact ⟨hcolon, String.ofList host, hhost, by rw [ht, String.toList_ofList]⟩
  · rintro ⟨hcolon, host, hhost, ht⟩
    rw [ht, splitLast?_append hcolon]
    simp only [String.ofList_toList, if_pos hhost]

theorem localTcp?_eq_none {t : String} :
    localTcp? t.toList = none ↔ ∀ number, ¬ Local t number := by
  rw [Option.eq_none_iff_forall_ne_some]
  constructor
  · intro h number hlocal
    refine h number.toList (localTcp?_eq_some.mpr ?_)
    rwa [String.ofList_toList]
  · intro h number hnumber
    exact h (String.ofList number) (localTcp?_eq_some.mp hnumber)

/-! ## The cases of the reader -/

theorem all_isAsciiDigit {cs : List Char} (hne : cs ≠ []) :
    cs.all isAsciiDigit = true ↔ Digits cs := by
  have hall : cs.all isAsciiDigit = cs.all Char.isDigit := by
    congr 1
    funext c
    exact isAsciiDigit_eq c
  rw [hall, digits_iff]
  exact ⟨fun h => ⟨hne, h⟩, And.right⟩

theorem parseTrimmed_marker {t : String} {e : Endpoint} (h : Marker t e) :
    parseTrimmed t = .ok e := by
  cases h with
  | autoSerial => rfl
  | pcan => rfl
  | socketCan => rfl

theorem parseTrimmed_plain {t : String} (hne : t ≠ "") (hplain : ∀ e, ¬ Marker t e) :
    parseTrimmed t =
      if t.toList.all isAsciiDigit then parseTcp t t.toList
      else match localTcp? t.toList with
        | some digits => parseTcp t digits
        | none => .ok (.serial t) := by
  have hauto : t ≠ autoSerialId := fun h => hplain .autoSerial (h ▸ .autoSerial)
  have hpcan : t ≠ pcanId := fun h => hplain .pcan (h ▸ .pcan)
  have hsocket : t ≠ socketCanId := fun h => hplain .socketCan (h ▸ .socketCan)
  unfold parseTrimmed
  exact (if_neg hne).trans ((if_neg hauto).trans ((if_neg hpcan).trans (if_neg hsocket)))

theorem parseTrimmed_digits {t : String} (h : Digits t.toList) :
    parseTrimmed t = parseTcp t t.toList := by
  have hne : t ≠ "" := by
    rintro rfl
    exact h.1 rfl
  rw [parseTrimmed_plain hne fun e hmarker => hmarker.not_digits h,
    if_pos ((all_isAsciiDigit h.1).mpr h)]

theorem parseTrimmed_local {t number : String} (h : Local t number) :
    parseTrimmed t = parseTcp t number.toList := by
  have hcolon := h.colon
  have hnil : t.toList ≠ [] := List.ne_nil_of_mem hcolon
  have hne : t ≠ "" := by
    rintro rfl
    exact hnil rfl
  have hlocal : localTcp? t.toList = some number.toList := by
    rw [localTcp?_eq_some, String.ofList_toList]
    exact h
  rw [parseTrimmed_plain hne fun e hmarker => hmarker.no_colon hcolon,
    if_neg fun hall => ((all_isAsciiDigit hnil).mp hall).no_colon hcolon, hlocal]

theorem parseTrimmed_device {t : String} (hne : t ≠ "") (hplain : ∀ e, ¬ Marker t e)
    (hname : ¬ Digits t.toList) (helse : ∀ number, ¬ Local t number) :
    parseTrimmed t = .ok (.serial t) := by
  have hnil : t.toList ≠ [] := fun h => hne (String.toList_inj.mp h)
  rw [parseTrimmed_plain hne hplain, if_neg fun hall => hname ((all_isAsciiDigit hnil).mp hall),
    localTcp?_eq_none.mpr helse]

/-! ## The reader and the grammar -/

theorem parseTcp_some {t : String} {cs : List Char} {n : UInt16} (h : tcpNumber? cs = some n) :
    parseTcp t cs = .ok (.tcp n) := by
  unfold parseTcp
  rw [h]

theorem parseTcp_none {t : String} {cs : List Char} (h : tcpNumber? cs = none) :
    parseTcp t cs = .error (.invalidEndpoint t) := by
  unfold parseTcp
  rw [h]

theorem Denotes.parseTrimmed {t : String} {e : Endpoint} (h : Denotes t e) :
    parseTrimmed t = .ok e := by
  cases h with
  | marker hmarker => exact parseTrimmed_marker hmarker
  | @digits n hdigits hsame hpositive =>
    rw [parseTrimmed_digits hdigits]
    have hpos : 0 < n.toNat := Nat.pos_of_ne_zero fun h => hpositive (UInt16.toNat_inj.mp h)
    have hle : n.toNat ≤ 65535 := Nat.le_of_lt_succ n.toNat_lt
    exact parseTcp_some (tcpNumber?_eq_some.mpr (hdigits.numeral_iff.mpr ⟨hsame, hpos, hle⟩))
  | behindHost hhost hnumeral =>
    rw [parseTrimmed_local hhost]
    exact parseTcp_some (tcpNumber?_eq_some.mpr hnumeral)
  | device hne hplain hname helse => exact parseTrimmed_device hne hplain hname helse

theorem Refused.parseTrimmed {t : String} (h : Refused t) :
    parseTrimmed t = .error (.invalidEndpoint t) := by
  cases h with
  | empty => rfl
  | digits hdigits houtside =>
    rw [parseTrimmed_digits hdigits]
    refine parseTcp_none (tcpNumber?_eq_none.mpr fun n hn => ?_)
    obtain ⟨hsame, hpos, hle⟩ := hdigits.numeral_iff.mp hn
    omega
  | behindHost hhost hwrong =>
    rw [parseTrimmed_local hhost]
    exact parseTcp_none (tcpNumber?_eq_none.mpr hwrong)

theorem refused_or_denotes (t : String) : Refused t ∨ ∃ e, Denotes t e := by
  by_cases hempty : t = ""
  · exact Or.inl (hempty ▸ .empty)
  by_cases hmarker : ∃ e, Marker t e
  · obtain ⟨e, he⟩ := hmarker
    exact Or.inr ⟨e, .marker he⟩
  by_cases hdigits : Digits t.toList
  · by_cases hrange : 0 < denoted t.toList ∧ denoted t.toList ≤ 65535
    · have hlt : denoted t.toList < 65536 := by omega
      have htoNat : (UInt16.ofNat (denoted t.toList)).toNat = denoted t.toList :=
        UInt16.toNat_ofNat_of_lt' hlt
      refine Or.inr ⟨_, .digits hdigits htoNat.symm fun hzero => ?_⟩
      rw [hzero] at htoNat
      exact absurd htoNat.symm (Nat.ne_of_gt hrange.1)
    · exact Or.inl (.digits hdigits (by omega))
  by_cases hlocal : ∃ number, Local t number
  · obtain ⟨number, hnumber⟩ := hlocal
    cases hread : tcpNumber? number.toList with
    | none => exact Or.inl (.behindHost hnumber (tcpNumber?_eq_none.mp hread))
    | some n => exact Or.inr ⟨_, .behindHost hnumber (tcpNumber?_eq_some.mp hread)⟩
  · exact Or.inr ⟨_, .device hempty (not_exists.mp hmarker) hdigits (not_exists.mp hlocal)⟩

theorem parse_eq_ok_iff {s : String} {e : Endpoint} :
    parse s = .ok e ↔ Denotes (trim s) e := by
  constructor
  · intro h
    rcases refused_or_denotes (trim s) with hrefused | ⟨e', he'⟩
    · exact absurd (hrefused.parseTrimmed.symm.trans h) (by simp)
    · rwa [← Except.ok.inj (he'.parseTrimmed.symm.trans h)]
  · exact Denotes.parseTrimmed

theorem parse_eq_error_iff {s : String} :
    parse s = .error (.invalidEndpoint (trim s)) ↔ Refused (trim s) := by
  constructor
  · intro h
    rcases refused_or_denotes (trim s) with hrefused | ⟨e, he⟩
    · exact hrefused
    · exact absurd (he.parseTrimmed.symm.trans h) (by simp)
  · exact Refused.parseTrimmed

theorem Denotes.positive {t : String} {n : UInt16} (h : Denotes t (.tcp n)) : n ≠ 0 := by
  cases h with
  | marker hmarker => cases hmarker
  | digits hdigits hsame hpositive => exact hpositive
  | behindHost hhost hnumeral =>
    rintro rfl
    obtain ⟨digits, -, -, -, hpos, -⟩ := hnumeral
    exact absurd hpos (Nat.lt_irrefl 0)

theorem Denotes.device_name {t name : String} (h : Denotes t (.serial name)) :
    name = t ∧ name ≠ "" ∧ (∀ e, ¬ Marker name e) ∧ ¬ Digits name.toList ∧
      ∀ number, ¬ Local name number := by
  cases h with
  | marker hmarker => cases hmarker
  | device hne hplain hname helse => exact ⟨rfl, hne, hplain, hname, helse⟩

/-- A text is refused or read exactly as the grammar has it of its trimmed form. So no device has
a name that is empty, padded, a marker, a number or on this machine, and no TCP number is zero. -/
theorem parse_matches_grammar (s : String) :
    (parse s = .error (.invalidEndpoint (trim s)) ↔ Refused (trim s)) ∧
      (∀ e, parse s = .ok e ↔ Denotes (trim s) e) ∧
      (Refused (trim s) ∨ ∃ e, Denotes (trim s) e) ∧
      parse s ≠ .ok (.tcp 0) ∧
      ∀ name, parse s = .ok (.serial name) →
        name ≠ "" ∧ trim name = name ∧ (∀ e, ¬ Marker name e) ∧ ¬ Digits name.toList ∧
          ∀ number, ¬ Local name number := by
  refine ⟨parse_eq_error_iff, fun e => parse_eq_ok_iff, refused_or_denotes _, ?_, ?_⟩
  · intro h
    exact (parse_eq_ok_iff.mp h).positive rfl
  · intro name h
    obtain ⟨rfl, hne, hplain, hdigits, helse⟩ := (parse_eq_ok_iff.mp h).device_name
    exact ⟨hne, trim_trim s, hplain, hdigits, helse⟩

example : parse " localhost:+0080 " = .ok (.tcp 80) ∧ parse "+80" = .ok (.serial "+80") := by
  decide +kernel

end LinkWatch.Endpoint
