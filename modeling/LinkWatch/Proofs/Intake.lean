import LinkWatch.Intake
import Mathlib.Tactic.Common

/-! # What an intake makes of one reading -/

namespace LinkWatch

/-! ## Readings -/

/-- Whether the source has ended with this reading, or failed and was not only interrupted. -/
def Reading.ends (room : Nat) : Reading → Bool
  | .got written claim => reported room written claim = 0
  | .failed failure => failure.kind ≠ .interrupted
  | .crashed => false

/-- The number of bytes that a reading brings. -/
def Reading.brings (room : Nat) : Reading → Nat
  | .got written claim => min (reported room written claim) room
  | _ => 0

theorem Buffer.length_first (b : Buffer) (count : Nat) :
    (b.first count).length = min count b.capacity := by
  have hfits := b.fits
  unfold first
  rw [List.length_append, List.length_take, List.length_replicate]
  omega

namespace Intake

/-! ## One reading -/

/-- How an intake ends when it reports. -/
def lastEnd (i : Intake) : IntakeEnd := if i.consumer.crashesAtEnd then .crashed else .orderly

/-- What an intake hands on of a reading that brought something. -/
def portion (i : Intake) (written : List UInt8) (claim : Option Nat) : List UInt8 :=
  (i.buffer.write written).first (reported i.buffer.capacity written claim)

theorem length_portion (i : Intake) (written : List UInt8) (claim : Option Nat) :
    (i.portion written claim).length = (Reading.got written claim).brings i.buffer.capacity :=
  Buffer.length_first ..

/-- One constructor for each thing that a reading can lead to. -/
inductive Take (i : Intake) : Reading → List IntakeNote → Intake → Prop
  | crashed : Take i .crashed [.asked i.buffer.capacity] { i with ended := some .crashed }
  | interrupted (failure : IoFailure) (kind : failure.kind = .interrupted) :
    Take i (.failed failure) [.asked i.buffer.capacity] i
  | failed (failure : IoFailure) (kind : failure.kind ≠ .interrupted) :
    Take i (.failed failure)
      [.asked i.buffer.capacity, .logged ⟨.warn, "End of connection: " ++ failure.text⟩,
        .disconnected]
      { i with ended := some i.lastEnd }
  | nothing (written : List UInt8) (claim : Option Nat)
    (count : reported i.buffer.capacity written claim = 0) :
    Take i (.got written claim)
      [.asked i.buffer.capacity, .logged ⟨.warn, "End of connection: end of input"⟩,
        .disconnected]
      { i with buffer := i.buffer.write written, ended := some i.lastEnd }
  | chunk (written : List UInt8) (claim : Option Nat)
    (count : reported i.buffer.capacity written claim ≠ 0)
    (sound : i.consumer.crashesAt ≠ some i.handed) :
    Take i (.got written claim)
      [.asked i.buffer.capacity, .chunk (i.portion written claim)]
      { i with buffer := i.buffer.write written, handed := i.handed + 1 }
  | dropped (written : List UInt8) (claim : Option Nat)
    (count : reported i.buffer.capacity written claim ≠ 0)
    (crashes : i.consumer.crashesAt = some i.handed) :
    Take i (.got written claim)
      [.asked i.buffer.capacity, .chunk (i.portion written claim),
        .logged ⟨.error, "Data listener panicked, dropping connection"⟩, .disconnected]
      { i with
        buffer := i.buffer.write written, handed := i.handed + 1, ended := some i.lastEnd }

theorem take_spec (i : Intake) (r : Reading) : Take i r (i.take r).notes (i.take r).value := by
  unfold take
  cases r with
  | crashed => exact .crashed
  | failed failure =>
    by_cases hk : failure.kind = .interrupted
    · simpa [hk, note] using Take.interrupted failure hk
    · simpa [hk, note, endOf, report, lastEnd] using Take.failed failure hk
  | got written claim =>
    cases hc : reported i.buffer.capacity written claim with
    | zero => simpa [hc, note, endOf, report, lastEnd] using Take.nothing written claim hc
    | succ n =>
      have hcount : reported i.buffer.capacity written claim ≠ 0 := by omega
      by_cases hs : i.consumer.crashesAt = some i.handed
      · simpa [hc, hs, note, hand, report, lastEnd, portion] using
          Take.dropped written claim hcount hs
      · simpa [hc, hs, note, hand, portion] using Take.chunk written claim hcount hs

end Intake

end LinkWatch
