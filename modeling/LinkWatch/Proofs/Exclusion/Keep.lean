import LinkWatch.Exclusion
import LinkWatch.Proofs.Text.Segment

/-! # The names that no exclusion rejects -/

namespace LinkWatch

open Text

/-! ## What a rule is about -/

/-- What follows the last slash of a path, or the whole path if it has none. -/
def LastComponent (base path : String) : Prop :=
  '/' ∉ base.toList ∧ (path = base ∨ ∃ directory, path = directory ++ "/" ++ base)

namespace Exclusion

/-- The names that a rule rejects. -/
inductive Hits : Exclusion → String → Prop
  | anywhere (before part after : String) : Hits (.anywhere part) (before ++ part ++ after)
  | leading {part rest name : String} (last : LastComponent (part ++ rest) name) :
    Hits (.leading part) name

end Exclusion

/-! ## Last components -/

theorem LastComponent.afterLast {base path : String} (h : LastComponent base path) :
    afterLast '/' path.toList = base.toList := by
  obtain ⟨hbase, rfl | ⟨directory, rfl⟩⟩ := h
  · exact afterLast_plain hbase
  · have hpath : (directory ++ "/" ++ base).toList = directory.toList ++ '/' :: base.toList := by
      simp
    rw [hpath, afterLast_append hbase]

theorem lastComponent_afterLast (path : String) :
    LastComponent (String.ofList (Text.afterLast '/' path.toList)) path := by
  unfold Text.afterLast
  cases hsplit : splitLast? '/' path.toList with
  | none =>
    refine ⟨by simpa using splitLast?_eq_none.mp hsplit, Or.inl ?_⟩
    exact (String.ofList_toList ..).symm
  | some parts =>
    obtain ⟨before, after⟩ := parts
    obtain ⟨hpath, hafter⟩ := splitLast?_eq_some.mp hsplit
    refine ⟨by simpa using hafter, Or.inr ⟨String.ofList before, ?_⟩⟩
    apply String.toList_inj.mp
    simp [hpath]

theorem lastComponent_iff {base path : String} :
    LastComponent base path ↔ Text.afterLast '/' path.toList = base.toList := by
  constructor
  · exact LastComponent.afterLast
  · intro h
    have hlast := lastComponent_afterLast path
    rwa [h, String.ofList_toList] at hlast

namespace Exclusion

/-! ## One rule -/

theorem rejects_iff {x : Exclusion} {name : String} : x.rejects name = true ↔ x.Hits name := by
  cases x with
  | anywhere part =>
    rw [rejects, occurs_iff]
    constructor
    · rintro ⟨before, after, hname⟩
      have hsplit : name = String.ofList before ++ part ++ String.ofList after := by
        apply String.toList_inj.mp
        simp [← hname]
      exact hsplit ▸ .anywhere ..
    · rintro ⟨before, -, after⟩
      exact ⟨before.toList, after.toList, by simp⟩
  | leading part =>
    rw [rejects, leads_iff]
    constructor
    · rintro ⟨rest, hrest⟩
      have hlast : LastComponent (part ++ String.ofList rest) name := by
        rw [lastComponent_iff]
        simp [hrest]
      exact .leading hlast
    · intro h
      cases h with
      | leading last =>
        rw [last.afterLast, String.toList_append]
        exact List.prefix_append _ _

instance (x : Exclusion) (name : String) : Decidable (x.Hits name) :=
  decidable_of_iff _ rejects_iff

theorem rejects_directory (part directory : String) {name : String} (h : '/' ∉ name.toList) :
    (leading part).rejects (directory ++ "/" ++ name) = (leading part).rejects name := by
  have hplain : LastComponent name name := ⟨h, Or.inl rfl⟩
  have hinside : LastComponent name (directory ++ "/" ++ name) := ⟨h, Or.inr ⟨directory, rfl⟩⟩
  rw [rejects, rejects, hplain.afterLast, hinside.afterLast]

/-! ## All rules -/

variable {rules others : List Exclusion}

theorem keep_eq (rules : List Exclusion) (names : List String) :
    keep rules names = names.filter fun name => ∀ x ∈ rules, ¬ x.Hits name := by
  unfold keep
  apply List.filter_congr
  intro name _
  rw [Bool.eq_iff_iff]
  simp [rejects_iff]

theorem keep_append (rules more : List Exclusion) (names : List String) :
    keep (rules ++ more) names = keep more (keep rules names) := by
  simp only [keep_eq, List.filter_filter]
  apply List.filter_congr
  intro name _
  rw [Bool.eq_iff_iff]
  simp [or_imp, forall_and, and_comm]

theorem keep_same (h : ∀ x, x ∈ others ↔ x ∈ rules) (names : List String) :
    keep others names = keep rules names := by
  simp only [keep_eq, h]

/-! ## The law -/

/-- What is kept of the names: each of them that no rule is about, as often as it is there and in
its place. -/
structure Keeping (rules : List Exclusion) (names : List String) : Prop where
  exact : keep rules names = names.filter fun name => ∀ x ∈ rules, ¬ x.Hits name
  again : keep rules (keep rules names) = keep rules names
  inTurn : ∀ more, keep (rules ++ more) names = keep more (keep rules names) ∧
    keep (rules ++ more) names = keep rules (keep more names)
  sameRules : ∀ others, (∀ x, x ∈ others ↔ x ∈ rules) → keep others names = keep rules names
  directories : ∀ part directory name, '/' ∉ name.toList →
    (leading part).rejects (directory ++ "/" ++ name) = (leading part).rejects name

theorem names_are_kept_unless_a_rule_hits (rules : List Exclusion) (names : List String) :
    Keeping rules names where
  exact := keep_eq rules names
  again := by
    rw [← keep_append]
    exact keep_same (fun x => by simp) names
  inTurn more := by
    refine ⟨keep_append rules more names, ?_⟩
    rw [← keep_append]
    exact keep_same (fun x => by simp [or_comm]) names
  sameRules _ h := keep_same h names
  directories part directory _ h := rejects_directory part directory h

example :
    keep defaults ["/dev/tty.wlan-debug", "cu.usbmodem1", "/dev/cu.usbmodem1", "/dev/tty.cu.1"] =
      ["/dev/tty.cu.1"] := by
  decide +kernel

end Exclusion

end LinkWatch
