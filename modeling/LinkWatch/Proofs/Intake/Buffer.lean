import LinkWatch.Proofs.Intake

/-! # The bytes of a buffer that is written again and again -/

namespace LinkWatch

namespace Buffer

/-- The byte at a place of the buffer. -/
def byte (b : Buffer) (j : Nat) : UInt8 := b.front.getD j 0

theorem byte_blank (capacity j : Nat) : (blank capacity).byte j = 0 := rfl

theorem byte_write {b : Buffer} {j : Nat} (hj : j < b.capacity) (written : List UInt8) :
    (b.write written).byte j = written[j]?.getD (b.byte j) := by
  unfold byte write
  rw [List.getD_eq_getElem?_getD, List.getD_eq_getElem?_getD]
  by_cases hw : j < written.length
  · have hlt : j < (written.take b.capacity).length := by
      rw [List.length_take]
      omega
    rw [List.getElem?_append_left hlt, List.getElem?_take_of_lt hj, List.getElem?_eq_getElem hw]
    rfl
  · have hle : (written.take b.capacity).length ≤ j := by
      rw [List.length_take]
      omega
    -- What lies behind the bytes that were written stays in its place.
    have hplace : written.length + (j - (written.take b.capacity).length) = j := by
      rw [List.length_take]
      omega
    rw [List.getElem?_append_right hle, List.getElem?_drop, hplace,
      List.getElem?_eq_none (Nat.le_of_not_lt hw)]
    rfl

theorem first_eq (b : Buffer) (count : Nat) :
    b.first count = (List.range (min count b.capacity)).map b.byte := by
  have hfits := b.fits
  apply List.ext_getElem?
  intro j
  unfold first
  by_cases hj : j < min count b.capacity
  · rw [List.getElem?_map, List.getElem?_range hj, Option.map_some, byte,
      List.getD_eq_getElem?_getD]
    by_cases hf : j < b.front.length
    · have hlt : j < (b.front.take count).length := by
        rw [List.length_take]
        omega
      rw [List.getElem?_append_left hlt, List.getElem?_take_of_lt (by omega),
        List.getElem?_eq_getElem hf]
      rfl
    · have hle : (b.front.take count).length ≤ j := by
        rw [List.length_take]
        omega
      have hrest : j - (b.front.take count).length < min count b.capacity - b.front.length := by
        rw [List.length_take]
        omega
      rw [List.getElem?_append_right hle, List.getElem?_replicate, if_pos hrest,
        List.getElem?_eq_none (Nat.le_of_not_lt hf)]
      rfl
  · have hlength := b.length_first count
    unfold first at hlength
    have hshort : ((List.range (min count b.capacity)).map b.byte).length ≤ j := by
      rw [List.length_map, List.length_range]
      exact Nat.le_of_not_lt hj
    rw [List.getElem?_eq_none (by omega), List.getElem?_eq_none hshort]

end Buffer

/-! ## What was written last -/

/-- What was last written to a place, of the writings the last first. All was zero before. -/
def newest (j : Nat) : List (List UInt8) → UInt8
  | [] => 0
  | written :: earlier => written[j]?.getD (newest j earlier)

theorem newest_of_lt {written : List UInt8} {j : Nat} (h : j < written.length)
    (earlier : List (List UInt8)) : newest j (written :: earlier) = written[j] := by
  rw [newest, List.getElem?_eq_getElem h]
  rfl

/-- The buffer shows, at each of its places, what was last written there. -/
def Buffer.Shows (b : Buffer) (writings : List (List UInt8)) : Prop :=
  ∀ j < b.capacity, b.byte j = newest j writings

theorem Buffer.shows_blank (capacity : Nat) : (blank capacity).Shows [] :=
  fun j _ => byte_blank capacity j

theorem Buffer.Shows.write {b : Buffer} {writings : List (List UInt8)} (h : b.Shows writings)
    (written : List UInt8) : (b.write written).Shows (written :: writings) := by
  intro j hj
  have hplace : j < b.capacity := hj
  rw [byte_write hplace, newest, h j hplace]

theorem Buffer.Shows.first {b : Buffer} {writings : List (List UInt8)} (h : b.Shows writings)
    (count : Nat) :
    b.first count = (List.range (min count b.capacity)).map (newest · writings) := by
  rw [first_eq]
  apply List.map_congr_left
  intro j hj
  apply h
  have := List.mem_range.mp hj
  omega

end LinkWatch
