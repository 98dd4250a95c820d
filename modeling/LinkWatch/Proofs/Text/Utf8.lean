import Mathlib.Tactic.Common

/-! # Texts as bytes -/

namespace LinkWatch

theorem fromUTF8?_toUTF8 (text : String) : String.fromUTF8? text.toUTF8 = some text := by
  unfold String.fromUTF8?
  rw [String.toUTF8_eq_toByteArray, dif_pos text.isValidUTF8]
  rfl

theorem fromUTF8?_eq_some_iff {bytes : ByteArray} {text : String} :
    String.fromUTF8? bytes = some text ↔ bytes = text.toUTF8 := by
  constructor
  · unfold String.fromUTF8?
    split
    · intro h
      rw [← Option.some.inj h]
      rfl
    · exact fun h => absurd h (by simp)
  · rintro rfl
    exact fromUTF8?_toUTF8 text

end LinkWatch
