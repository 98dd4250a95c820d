import LinkWatch.Exclusion.Codec
import LinkWatch.Proofs.Json.Written

/-! # Exclusions that are written are read back -/

namespace LinkWatch

open Json

namespace Exclusion

theorem member_kind (depth : Nat) (cs : List Char) :
    member depth .none kindKey cs = (do
      let (k, rest) ← kind depth (← colon cs)
      return (.kind k, rest)) := by
  unfold member
  rw [if_pos rfl]

theorem member_part (depth : Nat) (k : Kind) (cs : List Char) :
    member depth (.kind k) partKey cs = (do
      let (part, rest) ← text depth (← colon cs)
      return (.both (k.rule part), rest)) := by
  unfold member
  rw [if_neg (by decide), if_pos rfl]

theorem writes_kind {name : String} {k : Kind} (h : kindOf? name = some k) :
    Writes kind 0 (.string name) k := by
  intro l _ level depth ws rest hdepth hws hrest
  have hread : textOf "variant identifier" depth
      ('"' :: (name.toList.flatMap escaped ++ ['"'] ++ rest)) = .ok (name, rest) :=
    reads_text "variant identifier" name depth [] rest hdepth spaces_nil hrest
  have hnamed : kindNamed name rest = .ok (k, rest) := by
    unfold kindNamed
    rw [h]
  unfold kind
  rw [Value.write, writeString, atValue_spaces hws, List.cons_append, List.cons_append,
    atValue_cons (by decide), if_pos rfl]
  unfold kindName
  rw [hread]
  exact hnamed

theorem takes_written {name : String} {k : Kind} (h : kindOf? name = some k) (part : String) :
    Takes member 0 .none [(kindKey, .string name), (partKey, .string part)]
      (.both (k.rule part)) := by
  have hpart : Takes member 0 (.kind k) [(partKey, .string part)] (.both (k.rule part)) := by
    refine .cons (fun l hl level depth rest hdepth hrest => ?_) (.nil _)
    have hread : text depth (l.afterColon ++ ((Value.string part).write l level ++ rest)) =
        .ok (part, rest) :=
      writes_text "a string" part l hl level depth l.afterColon rest hdepth hl.afterColon hrest
    rw [member_part, colon_cons]
    simp [bind, Except.bind, hread, pure, Except.pure]
  refine .cons (fun l hl level depth rest hdepth hrest => ?_) hpart
  have hread := writes_kind h l hl level depth l.afterColon rest hdepth hl.afterColon hrest
  rw [member_kind, colon_cons]
  simp [bind, Except.bind, hread, pure, Except.pure]

theorem writes_object {ms : List (String × Value)} {x : Exclusion}
    (h : Takes member 0 .none ms (.both x)) : Writes decode 1 (.object ms) x := by
  intro l hl level depth ws rest hdepth hws hrest
  obtain ⟨body, hwrite, hmembers⟩ := h.object hl level
  have hread := (hmembers (depth - 1) (by omega)).members rest
    (n := (body ++ '\x7d' :: rest).length) (by simp)
  unfold decode
  rw [hwrite, atValue_spaces hws, List.cons_append, List.append_assoc, List.singleton_append,
    atValue_cons (by decide), if_neg (by decide), if_pos rfl,
    deeper_ok (by omega)]
  simp only [bind, Except.bind]
  unfold ofObject
  rw [hread]
  rfl

theorem writes_exclusion (x : Exclusion) : Writes decode 1 x.toJson x := by
  cases x with
  | anywhere part =>
    have hkind : kindOf? "contains" = some .anywhere := rfl
    exact writes_object (takes_written hkind part)
  | leading part =>
    have hkind : kindOf? "prefix" = some .leading := rfl
    exact writes_object (takes_written hkind part)

end Exclusion

end LinkWatch
