import LinkWatch.Proofs.Endpoint.Display

/-! # Each endpoint has one written form, and all its spellings are read as it -/

namespace LinkWatch.Endpoint

open Text

variable {s t : String} {e : Endpoint} {n : UInt16}

/-! ## Reading what is displayed -/

/-- What an endpoint was read from may be padded or spelled otherwise. Its display never is. -/
theorem Denotes.display (h : Denotes (trim s) e) : Denotes (trim e.display) e := by
  cases h with
  | marker hmarker =>
    rw [hmarker.display, trim_trim]
    exact .marker hmarker
  | @digits n hdigits hsame hpositive =>
    have hdecimal := digits_decimal n.toNat
    have hunpadded : trim (Endpoint.tcp n).display = decimal n.toNat := hdecimal.unpadded
    rw [hunpadded]
    exact .digits hdecimal (denoted_decimal n.toNat) hpositive
  | @behindHost number n hhost hnumeral =>
    have hdecimal := digits_decimal n.toNat
    have hunpadded : trim (Endpoint.tcp n).display = decimal n.toNat := hdecimal.unpadded
    rw [hunpadded]
    exact .digits hdecimal (denoted_decimal n.toNat) (Denotes.positive (.behindHost hhost hnumeral))
  | device hne hplain hname helse =>
    have hunpadded : trim (Endpoint.serial (trim s)).display = trim s := trim_trim s
    rw [hunpadded]
    exact .device hne hplain hname helse

theorem parse_display (h : parse s = .ok e) : parse e.display = .ok e :=
  parse_eq_ok_iff.mpr (parse_eq_ok_iff.mp h).display

/-! ## Spellings of a number -/

/-- A number in digits, or behind a name of this machine, where a plus sign may stand before it.
There may be zeros in front of the digits and blanks around it all. -/
def Spells (n : UInt16) (s : String) : Prop :=
  ∃ left t right, s = left ++ t ++ right ∧ Blanks left ∧ Blanks right ∧
    ((Digits t.toList ∧ denoted t.toList = n.toNat ∧ n ≠ 0) ∨
      ∃ number, Local t number ∧ Numeral number.toList n.toNat)

theorem denotes_tcp_iff : Denotes t (.tcp n) ↔
    (Digits t.toList ∧ denoted t.toList = n.toNat ∧ n ≠ 0) ∨
      ∃ number, Local t number ∧ Numeral number.toList n.toNat := by
  constructor
  · intro h
    cases h with
    | marker hmarker => cases hmarker
    | digits hdigits hsame hpositive => exact Or.inl ⟨hdigits, hsame, hpositive⟩
    | behindHost hhost hnumeral => exact Or.inr ⟨_, hhost, hnumeral⟩
  · rintro (⟨hdigits, hsame, hpositive⟩ | ⟨number, hhost, hnumeral⟩)
    · exact .digits hdigits hsame hpositive
    · exact .behindHost hhost hnumeral

theorem Numeral.getLast? {cs : List Char} {m : Nat} (h : Numeral cs m) :
    cs ≠ [] ∧ ∀ c ∈ cs.getLast?, isBlank c = false := by
  obtain ⟨digits, hcs, hdigits, -⟩ := h
  have hlast : cs ≠ [] ∧ cs.getLast? = digits.getLast? := by
    rcases hcs with rfl | rfl
    · exact ⟨hdigits.1, rfl⟩
    · have hsplit : '+' :: digits = ['+'] ++ digits := rfl
      rw [hsplit, List.getLast?_append_of_ne_nil _ hdigits.1]
      exact ⟨by simp, rfl⟩
  refine ⟨hlast.1, fun c hc => ?_⟩
  rw [hlast.2] at hc
  exact not_isBlank_digit (hdigits.2 c (List.mem_of_mem_getLast? hc))

theorem localHosts_unpadded : ∀ host ∈ localHosts, host.toList ≠ [] ∧ trim host = host := by
  decide +kernel

theorem Local.unpadded {number : String} {m : Nat} (h : Local t number)
    (hnumeral : Numeral number.toList m) : trim t = t := by
  obtain ⟨-, host, hhost, ht⟩ := local_iff.mp h
  obtain ⟨hne, hlast⟩ := hnumeral.getLast?
  obtain ⟨hsome, hplain⟩ := localHosts_unpadded host hhost
  rw [trim_eq_self_iff, ht, List.head?_append_of_ne_nil _ hsome, List.append_cons,
    List.getLast?_append_of_ne_nil _ hne]
  exact ⟨(trim_eq_self_iff.mp hplain).1, hlast⟩

theorem Denotes.unpadded (h : Denotes t (.tcp n)) : trim t = t := by
  rcases denotes_tcp_iff.mp h with ⟨hdigits, -⟩ | ⟨number, hhost, hnumeral⟩
  · exact hdigits.unpadded
  · exact hhost.unpadded hnumeral

theorem parse_eq_tcp_iff : parse s = .ok (.tcp n) ↔ Spells n s := by
  rw [parse_eq_ok_iff]
  unfold Spells
  simp only [← denotes_tcp_iff]
  constructor
  · intro h
    obtain ⟨left, right, hleft, hright, hs⟩ := exists_around s
    exact ⟨left, trim s, right, hs, hleft, hright, h⟩
  · rintro ⟨left, t, right, rfl, hleft, hright, h⟩
    rw [trim_around hleft hright, h.unpadded]
    exact h

/-! ## The law -/

theorem display_is_a_normal_form {s s' : String} {e e' : Endpoint} (h : parse s = .ok e)
    (h' : parse s' = .ok e') :
    parse e.display = .ok e ∧ (e.display = e'.display → e = e') ∧
      (parse s = parse s' ↔ e.display = e'.display) ∧ ∀ n, e = .tcp n ↔ Spells n s := by
  have hinjective : e.display = e'.display → e = e' := by
    intro hdisplay
    have hagain := parse_display h
    rw [hdisplay, parse_display h'] at hagain
    exact (Except.ok.inj hagain).symm
  refine ⟨parse_display h, hinjective, ?_, fun n => ?_⟩
  · rw [h, h', Except.ok.injEq]
    exact ⟨congrArg _, hinjective⟩
  · rw [← parse_eq_tcp_iff, h, Except.ok.injEq]

theorem display_is_a_normal_form_of_two_spellings :
    parse "\u3000localhost:+0080\t" = .ok (.tcp 80) ∧ parse "00080" = .ok (.tcp 80) ∧
      parse (Endpoint.tcp 80).display = .ok (.tcp 80) ∧ Spells 80 "\u3000localhost:+0080\t" := by
  have hspelled : parse "\u3000localhost:+0080\t" = .ok (.tcp 80) := by decide +kernel
  have hplain : parse "00080" = .ok (.tcp 80) := by decide +kernel
  obtain ⟨hagain, -, -, hspells⟩ := display_is_a_normal_form hspelled hplain
  exact ⟨hspelled, hplain, hagain, (hspells 80).mp rfl⟩

end LinkWatch.Endpoint
