import LinkWatch.Proofs.Intake.Buffer

/-! # What readings bring, and what is to be seen of the intake that takes them -/

namespace LinkWatch

/-! ## Readings, told by what the source does -/

namespace Reading

/-- Whether the source reports that it has got something. -/
def positive (room : Nat) : Reading → Bool
  | .got written claim => reported room written claim ≠ 0
  | _ => false

def written : Reading → List UInt8
  | .got written _ => written
  | _ => []

/-- As many bytes as the reading brings. Each is the one that was last written to its place, by this
reading or by one of the earlier ones, the last of which comes first. -/
def portion (room : Nat) (earlier : List Reading) (r : Reading) : List UInt8 :=
  (List.range (r.brings room)).map fun j => newest j ((r :: earlier).map written)

/-- What is to be handed on of a reading. -/
def portion? (room : Nat) (earlier : List Reading) (r : Reading) : Option (List UInt8) :=
  if r.positive room then some (r.portion room earlier) else none

end Reading

/-- What is to be handed on of readings that follow on earlier ones. -/
def portions (room : Nat) : (earlier : List Reading) → List Reading → List (List UInt8)
  | _, [] => []
  | earlier, r :: rs => (r.portion? room earlier).toList ++ portions room (r :: earlier) rs

/-- What is to be seen of an intake until it ends: it asks for each reading, and hands on. -/
def trace (room : Nat) : (earlier : List Reading) → List Reading → List IntakeNote
  | _, [] => []
  | earlier, r :: rs =>
    .asked room :: (r.portion? room earlier).toList.map .chunk ++ trace room (r :: earlier) rs

/-! ## Notes -/

inductive Callback where
  | data (bytes : List UInt8)
  | disconnected
  deriving DecidableEq, Repr

/-- What the consumer is told with the note. -/
@[simp] def IntakeNote.callback? : IntakeNote → Option Callback
  | .chunk bytes => some (.data bytes)
  | .disconnected => some .disconnected
  | .asked _ | .logged _ => none

@[simp] def IntakeNote.outward : IntakeNote → Bool
  | .asked _ | .chunk _ | .disconnected => true
  | .logged _ => false

def IntakeNote.isChunk : IntakeNote → Bool
  | .chunk _ => true
  | .asked _ | .disconnected | .logged _ => false

def callbacks (notes : List IntakeNote) : List Callback := notes.filterMap IntakeNote.callback?

/-- How often the source was read. -/
def readCount (notes : List IntakeNote) : Nat :=
  notes.countP fun n => n matches .asked _

theorem callbacks_outward (notes : List IntakeNote) :
    callbacks (notes.filter IntakeNote.outward) = callbacks notes := by
  unfold callbacks
  rw [List.filterMap_filter]
  congr 1
  funext n
  cases n with
  | asked | chunk | disconnected | logged => rfl

theorem readCount_outward (notes : List IntakeNote) :
    readCount (notes.filter IntakeNote.outward) = readCount notes := by
  unfold readCount
  rw [List.countP_filter]
  congr 1
  funext n
  cases n with
  | asked | chunk | disconnected | logged => rfl

/-! ## Traces -/

theorem portion_of_leading {room : Nat} {piece behind : List UInt8} {claim : Option Nat}
    (hclaim : reported room (piece ++ behind) claim = piece.length) (hfits : piece.length ≤ room)
    (earlier : List Reading) :
    (Reading.got (piece ++ behind) claim).portion room earlier = piece := by
  have hbrings : (Reading.got (piece ++ behind) claim).brings room = piece.length := by
    rw [Reading.brings, hclaim, Nat.min_eq_left hfits]
  apply List.ext_getElem
  · rw [Reading.portion, List.length_map, List.length_range, hbrings]
  · intro j hj hpiece
    have hlt : j < (piece ++ behind).length := by
      rw [List.length_append]
      omega
    simp only [Reading.portion, List.getElem_map, List.getElem_range, List.map_cons]
    exact (newest_of_lt hlt _).trans (List.getElem_append_left hpiece)

theorem portion_of_fits {room : Nat} {written : List UInt8} {claim : Option Nat}
    (hclaim : reported room written claim = written.length) (hfits : written.length ≤ room)
    (earlier : List Reading) : (Reading.got written claim).portion room earlier = written := by
  have hmore : reported room (written ++ []) claim = written.length := by rwa [List.append_nil]
  have hportion := portion_of_leading hmore hfits earlier
  rwa [List.append_nil] at hportion

theorem length_portion (room : Nat) (earlier : List Reading) (r : Reading) :
    (r.portion room earlier).length = r.brings room := by
  rw [Reading.portion, List.length_map, List.length_range]

theorem length_portion? (room : Nat) (earlier : List Reading) (r : Reading) :
    (r.portion? room earlier).toList.length = [r].countP (Reading.positive room) := by
  unfold Reading.portion?
  cases hp : r.positive room with
  | true => simp [hp]
  | false => simp [hp]

theorem length_portions (room : Nat) (earlier rs : List Reading) :
    (portions room earlier rs).length = rs.countP (Reading.positive room) := by
  induction rs generalizing earlier with
  | nil => rfl
  | cons r rs ih =>
    rw [portions, List.length_append, ih, length_portion?, ← List.countP_append,
      List.singleton_append]

theorem portions_append (room : Nat) (earlier rs more : List Reading) :
    portions room earlier (rs ++ more) =
      portions room earlier rs ++ portions room (rs.reverse ++ earlier) more := by
  induction rs generalizing earlier with
  | nil => rfl
  | cons r rs ih => simp [portions, ih]

theorem getElem?_portions {room : Nat} {before after : List Reading} {r : Reading}
    (hr : r.positive room = true) :
    (portions room [] (before ++ r :: after))[before.countP (Reading.positive room)]? =
      some (r.portion room before.reverse) := by
  have hlength := length_portions room [] before
  rw [portions_append, List.getElem?_append_right (Nat.le_of_eq hlength), hlength, Nat.sub_self,
    List.append_nil, portions, Reading.portion?, if_pos hr]
  rfl

theorem callbacks_trace (room : Nat) (earlier rs : List Reading) :
    callbacks (trace room earlier rs) = (portions room earlier rs).map .data := by
  induction rs generalizing earlier with
  | nil => rfl
  | cons r rs ih =>
    have hrest := ih (r :: earlier)
    unfold callbacks at hrest ⊢
    cases hp : r.portion? room earlier with
    | none => simpa [trace, portions, hp, List.filterMap_cons] using hrest
    | some bytes => simpa [trace, portions, hp, List.filterMap_cons] using hrest

theorem readCount_trace (room : Nat) (earlier rs : List Reading) :
    readCount (trace room earlier rs) = rs.length := by
  induction rs generalizing earlier with
  | nil => rfl
  | cons r rs ih =>
    have hrest := ih (r :: earlier)
    unfold readCount at hrest ⊢
    cases hp : r.portion? room earlier with
    | none => simpa [trace, hp] using hrest
    | some bytes => simpa [trace, hp] using hrest

end LinkWatch
