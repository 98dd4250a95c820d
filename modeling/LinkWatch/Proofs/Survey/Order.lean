import LinkWatch.Host.Devices
import LinkWatch.Proofs.Endpoint.Grammar
import Mathlib.Data.Prod.Lex
import Mathlib.Data.String.Basic
import Mathlib.Order.WithBot

/-! # The order of devices: families, numbers, names -/

namespace LinkWatch

open Text Endpoint

/-! ## Where a name has its place -/

/-- Digits, behind a plus sign or not, and the number that they denote. -/
def SuffixDenotes (suffix : List Char) (n : Nat) : Prop :=
  ∃ digits, (suffix = digits ∨ suffix = '+' :: digits) ∧ Digits digits ∧ denoted digits = n

/-- The place of a suffix in its family: numbers below the limit in their order, all else last. -/
inductive Numbered (limit : Nat) (suffix : List Char) : WithTop Nat → Prop
  | number {n : Nat} (denotes : SuffixDenotes suffix n) (below : n < limit) :
    Numbered limit suffix (WithTop.some n)
  | last (beyond : ∀ n, SuffixDenotes suffix n → limit ≤ n) : Numbered limit suffix ⊤

/-- Family, number and name, the first that differs deciding. -/
abbrev Rank := ℕ ×ₗ WithTop ℕ ×ₗ String

def Rank.of (family : Nat) (number : WithTop Nat) (base : String) : Rank :=
  toLex (family, toLex (number, base))

/-- The rank of a device goes by the last component of its name. -/
inductive Ranked (limit : Nat) (name : String) : Rank → Prop
  | acm {suffix : List Char} {number : WithTop Nat}
    (base : (baseName name).toList = "ttyACM".toList ++ suffix)
    (numbered : Numbered limit suffix number) : Ranked limit name (.of 0 number (baseName name))
  | usb {suffix : List Char} {number : WithTop Nat}
    (base : (baseName name).toList = "ttyUSB".toList ++ suffix)
    (numbered : Numbered limit suffix number) : Ranked limit name (.of 1 number (baseName name))
  | other (plain : ∀ family ∈ families, ¬ family.toList <+: (baseName name).toList) :
    Ranked limit name (.of 2 (WithTop.some 0) (baseName name))

def Precedes (limit : Nat) (m n : String) : Prop :=
  ∃ a b, Ranked limit m a ∧ Ranked limit n b ∧ a < b

/-! ## Numbers -/

theorem suffixDenotes_iff {suffix : List Char} {n : Nat} :
    SuffixDenotes suffix n ↔ unsigned? 10 suffix = some n := unsigned?_eq_some.symm

theorem deviceNumber_le (suffix : List Char) : deviceNumber suffix ≤ lastNumber := by
  unfold deviceNumber bounded?
  cases hnumber : (unsigned? 10 suffix).filter (· ≤ lastNumber) with
  | none => exact Nat.le_refl _
  | some n => simpa using (Option.filter_eq_some_iff.mp hnumber).2

theorem deviceNumber_eq_iff {suffix : List Char} {n : Nat} (h : n < lastNumber) :
    deviceNumber suffix = n ↔ SuffixDenotes suffix n := by
  rw [suffixDenotes_iff]
  unfold deviceNumber bounded?
  cases unsigned? 10 suffix with
  | none =>
    simp only [Option.filter_none, Option.getD_none, reduceCtorEq, iff_false]
    omega
  | some m =>
    by_cases hm : m ≤ lastNumber
    · simp [Option.filter, hm]
    · simp only [Option.filter, hm, decide_false, Bool.false_eq_true, if_false, Option.getD_none,
        Option.some.injEq]
      omega

/-- The last number is as good as none. -/
def saturated (n : Nat) : WithTop Nat := if n < lastNumber then WithTop.some n else ⊤

theorem numbered_iff {suffix : List Char} {number : WithTop Nat} :
    Numbered lastNumber suffix number ↔ number = saturated (deviceNumber suffix) := by
  unfold saturated
  constructor
  · intro h
    cases h with
    | number denotes below => rw [(deviceNumber_eq_iff below).mpr denotes, if_pos below]
    | last beyond =>
      refine (if_neg fun hlt => ?_).symm
      exact absurd (beyond _ ((deviceNumber_eq_iff hlt).mp rfl)) (Nat.not_le_of_lt hlt)
  · rintro rfl
    by_cases hlt : deviceNumber suffix < lastNumber
    · rw [if_pos hlt]
      exact .number ((deviceNumber_eq_iff hlt).mp rfl) hlt
    · rw [if_neg hlt]
      refine .last fun n hn => Nat.le_of_not_lt fun hbelow => hlt ?_
      rwa [(deviceNumber_eq_iff hbelow).mpr hn]

theorem saturated_lt {a b : Nat} (hb : b ≤ lastNumber) :
    saturated a < saturated b ↔ a < b := by
  unfold saturated
  by_cases halt : a < lastNumber
  · by_cases hblt : b < lastNumber
    · simp [halt, hblt]
    · simp only [halt, hblt, if_true, if_false, WithTop.coe_lt_top, true_iff]
      omega
  · simp only [halt, if_false, not_top_lt, false_iff]
    omega

theorem saturated_inj {a b : Nat} (ha : a ≤ lastNumber) (hb : b ≤ lastNumber) :
    saturated a = saturated b ↔ a = b := by
  constructor
  · intro h
    rcases Nat.lt_trichotomy a b with hlt | heq | hlt
    · exact absurd h (ne_of_lt ((saturated_lt hb).mpr hlt))
    · exact heq
    · exact absurd h.symm (ne_of_lt ((saturated_lt ha).mpr hlt))
  · rintro rfl
    rfl

/-! ## Keys -/

def DeviceKey.rank (k : DeviceKey) : Rank := .of k.family (saturated k.number) k.base

theorem deviceKey_acm {name : String} {suffix : List Char}
    (h : (baseName name).toList = "ttyACM".toList ++ suffix) :
    deviceKey name = ⟨0, deviceNumber suffix, baseName name⟩ := by
  unfold deviceKey
  simp only [h, dropLead?_eq_some.mpr rfl]

theorem deviceKey_usb {name : String} {suffix : List Char}
    (h : (baseName name).toList = "ttyUSB".toList ++ suffix) :
    deviceKey name = ⟨1, deviceNumber suffix, baseName name⟩ := by
  have hacm : dropLead? "ttyACM".toList ("ttyUSB".toList ++ suffix) = none := rfl
  unfold deviceKey
  simp only [h, hacm, dropLead?_eq_some.mpr rfl]

theorem deviceKey_other {name : String}
    (h : ∀ family ∈ families, ¬ family.toList <+: (baseName name).toList) :
    deviceKey name = ⟨2, 0, baseName name⟩ := by
  have hacm := dropLead?_eq_none.mpr (h "ttyACM" (by decide))
  have husb := dropLead?_eq_none.mpr (h "ttyUSB" (by decide))
  unfold deviceKey
  simp only [hacm, husb]

theorem Ranked.eq {name : String} {r : Rank} (h : Ranked lastNumber name r) :
    r = (deviceKey name).rank := by
  cases h with
  | acm base numbered =>
    rw [deviceKey_acm base, numbered_iff.mp numbered]
    rfl
  | usb base numbered =>
    rw [deviceKey_usb base, numbered_iff.mp numbered]
    rfl
  | other plain =>
    rw [deviceKey_other plain]
    rfl

theorem ranked_rank (name : String) : Ranked lastNumber name (deviceKey name).rank := by
  by_cases hacm : "ttyACM".toList <+: (baseName name).toList
  · obtain ⟨suffix, hbase⟩ := hacm
    rw [deviceKey_acm hbase.symm]
    exact .acm hbase.symm (numbered_iff.mpr rfl)
  by_cases husb : "ttyUSB".toList <+: (baseName name).toList
  · obtain ⟨suffix, hbase⟩ := husb
    rw [deviceKey_usb hbase.symm]
    exact .usb hbase.symm (numbered_iff.mpr rfl)
  have hplain : ∀ family ∈ families, ¬ family.toList <+: (baseName name).toList := by
    simp only [families, List.mem_cons, List.not_mem_nil, or_false, forall_eq_or_imp, forall_eq]
    exact ⟨hacm, husb⟩
  rw [deviceKey_other hplain]
  exact .other hplain

theorem existsUnique_ranked (name : String) : ∃! r, Ranked lastNumber name r :=
  ⟨_, ranked_rank name, fun _ h => h.eq⟩

/-! ## The order of the list -/

theorem DeviceKey.le_iff {a b : DeviceKey} (ha : a.number ≤ lastNumber)
    (hb : b.number ≤ lastNumber) : a.le b = true ↔ a.rank ≤ b.rank := by
  unfold DeviceKey.le rank Rank.of
  rw [Prod.Lex.toLex_le_toLex, Prod.Lex.toLex_le_toLex]
  simp only [saturated_lt hb, saturated_inj ha hb]
  -- What is left is that both compare the parts of a key one after the other.
  by_cases hfamily : a.family = b.family
  · by_cases hnumber : a.number = b.number
    · simp [hfamily, hnumber]
    · simp [hfamily, hnumber]
  · simp [hfamily]

theorem number_deviceKey_le (name : String) : (deviceKey name).number ≤ lastNumber := by
  dsimp only [deviceKey]
  split
  · exact deviceNumber_le _
  · split
    · exact deviceNumber_le _
    · exact Nat.zero_le _

theorem deviceLe_iff {m n : String} :
    deviceLe m n = true ↔ (deviceKey m).rank ≤ (deviceKey n).rank :=
  DeviceKey.le_iff (number_deviceKey_le m) (number_deviceKey_le n)

theorem precedes_iff {m n : String} : Precedes lastNumber m n ↔ ¬ deviceLe n m = true := by
  rw [deviceLe_iff, not_le]
  constructor
  · rintro ⟨a, b, ha, hb, hlt⟩
    rwa [← ha.eq, ← hb.eq]
  · intro hlt
    exact ⟨_, _, ranked_rank m, ranked_rank n, hlt⟩

theorem deviceLe_trans (a b c : String) (hab : deviceLe a b = true) (hbc : deviceLe b c = true) :
    deviceLe a c = true :=
  deviceLe_iff.mpr (le_trans (deviceLe_iff.mp hab) (deviceLe_iff.mp hbc))

theorem deviceLe_total (a b : String) : (deviceLe a b || deviceLe b a) = true := by
  rw [Bool.or_eq_true, deviceLe_iff, deviceLe_iff]
  exact le_total _ _

theorem sorted_devices (names : List String) :
    (names.mergeSort deviceLe).Pairwise fun a b => deviceLe a b = true :=
  List.pairwise_mergeSort deviceLe_trans deviceLe_total names

end LinkWatch
