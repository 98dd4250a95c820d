import LinkWatch.Endpoint
import LinkWatch.Proofs.Text.Numeral
import LinkWatch.Proofs.Text.Segment

/-! # The grammar of endpoint identifiers -/

namespace LinkWatch.Endpoint

open Text

/-! ## Numerals -/

/-- One or more ASCII digits. -/
def Digits (cs : List Char) : Prop := cs ≠ [] ∧ ∀ c ∈ cs, '0' ≤ c ∧ c ≤ '9'

/-- The number that digits denote, with any number of zeros in front. -/
def denoted (cs : List Char) : Nat := Nat.ofDigitChars 10 cs 0

/-- Digits, behind a plus sign or not, that denote a number from 1 to 65535. -/
def Numeral (cs : List Char) (n : Nat) : Prop :=
  ∃ digits, (cs = digits ∨ cs = '+' :: digits) ∧ Digits digits ∧ denoted digits = n ∧
    0 < n ∧ n ≤ 65535

/-! ## Identifiers -/

inductive Marker : String → Endpoint → Prop
  | autoSerial : Marker "Auto Serial" .autoSerial
  | pcan : Marker "PCAN" .pcan
  | socketCan : Marker "SocketCAN" .socketCan

/-- A name of this machine, and `number` behind the only colon after it. -/
def Local (t number : String) : Prop :=
  ':' ∉ number.toList ∧ (t = "localhost:" ++ number ∨ t = "127.0.0.1:" ++ number)

/-- Identifiers that denote nothing. -/
inductive Refused : String → Prop
  | empty : Refused ""
  | digits {t : String} (digits : Digits t.toList)
    (outside : denoted t.toList = 0 ∨ 65535 < denoted t.toList) : Refused t
  | behindHost {t number : String} (host : Local t number)
    (wrong : ∀ n, ¬ Numeral number.toList n) : Refused t

/-- What an identifier denotes. -/
inductive Denotes : String → Endpoint → Prop
  | marker {t : String} {e : Endpoint} (marker : Marker t e) : Denotes t e
  | digits {t : String} {n : UInt16} (digits : Digits t.toList) (same : denoted t.toList = n.toNat)
    (positive : n ≠ 0) : Denotes t (.tcp n)
  | behindHost {t number : String} {n : UInt16} (host : Local t number)
    (numeral : Numeral number.toList n.toNat) : Denotes t (.tcp n)
  | device {t : String} (some : t ≠ "") (plain : ∀ e, ¬ Marker t e) (name : ¬ Digits t.toList)
    (elsewhere : ∀ number, ¬ Local t number) : Denotes t (.serial t)

/-! ## Numbers as they are read -/

theorem digits_iff (cs : List Char) : Digits cs ↔ cs ≠ [] ∧ cs.all Char.isDigit = true := by
  unfold Digits
  rw [List.all_eq_true]
  simp only [isDigit_iff_le]

theorem digits?_eq_some {cs : List Char} {n : Nat} :
    digits? 10 cs = some n ↔ Digits cs ∧ denoted cs = n := by
  rw [digits?_ten, digits_iff]
  simp only [Option.ite_none_right_eq_some, Option.some.injEq]
  rfl

theorem unsigned?_eq_some {cs : List Char} {n : Nat} :
    unsigned? 10 cs = some n ↔
      ∃ digits, (cs = digits ∨ cs = '+' :: digits) ∧ Digits digits ∧ denoted digits = n := by
  rw [unsigned?_iff]
  simp only [digits?_eq_some]

theorem tcpNumber?_eq_some {cs : List Char} {n : UInt16} :
    tcpNumber? cs = some n ↔ Numeral cs n.toNat := by
  unfold tcpNumber? bounded? Numeral
  simp only [Option.bind_eq_some_iff, Option.filter_eq_some_iff, unsigned?_eq_some,
    decide_eq_true_eq, Option.ite_none_left_eq_some, Option.some.injEq]
  constructor
  · rintro ⟨m, ⟨⟨digits, hcs, hdigits, hm⟩, hle⟩, hne, rfl⟩
    have hlt : m < 65536 := by omega
    have htoNat : (UInt16.ofNat m).toNat = m := UInt16.toNat_ofNat_of_lt' hlt
    exact ⟨digits, hcs, hdigits, hm.trans htoNat.symm, by omega, by omega⟩
  · rintro ⟨digits, hcs, hdigits, hm, hpos, hle⟩
    exact ⟨n.toNat, ⟨⟨digits, hcs, hdigits, hm⟩, hle⟩, by omega, UInt16.ofNat_toNat⟩

theorem tcpNumber?_eq_none {cs : List Char} : tcpNumber? cs = none ↔ ∀ n, ¬ Numeral cs n := by
  rw [Option.eq_none_iff_forall_ne_some]
  constructor
  · intro h n hn
    obtain ⟨digits, -, -, -, -, hle⟩ := id hn
    have hlt : n < 65536 := by omega
    have htoNat : (UInt16.ofNat n).toNat = n := UInt16.toNat_ofNat_of_lt' hlt
    exact h (UInt16.ofNat n) (tcpNumber?_eq_some.mpr (htoNat.symm ▸ hn))
  · intro h n hn
    exact h n.toNat (tcpNumber?_eq_some.mp hn)

theorem Digits.numeral_iff {cs : List Char} (h : Digits cs) {n : Nat} :
    Numeral cs n ↔ denoted cs = n ∧ 0 < n ∧ n ≤ 65535 := by
  constructor
  · rintro ⟨digits, rfl | rfl, hdigits, hn⟩
    · exact hn
    · exact absurd (h.2 '+' List.mem_cons_self) (by decide)
  · intro hn
    exact ⟨cs, Or.inl rfl, h, hn⟩

end LinkWatch.Endpoint
