import LinkWatch.Proofs.Scanner.Start

/-! # The history of a scanner, cycle by cycle, as its notes tell it -/

namespace LinkWatch.Scanner

/-! ## Reading the notes -/

/-- What one cycle has done. -/
structure Cycle where
  /-- What its survey found. -/
  found : Inventory
  /-- Who was registered when it copied the list of listeners, if it did. -/
  audience : Option (List Listener) := none
  /-- Its calls in their order, each with the inventory handed over. -/
  calls : List (Listener × Inventory) := []
  /-- Whether it has come to its rest. -/
  rested : Bool := false

structure History where
  /-- In the order of registration. -/
  registered : List Listener := []
  /-- The last cycle first. -/
  cycles : List Cycle := []

def History.onLast (h : History) (f : Cycle → Cycle) : History :=
  { h with cycles := h.cycles.modifyHead f }

/-- Takes one more note into account. -/
def History.add (h : History) : Note → History
  | .enlisted l => { h with registered := h.registered ++ [l] }
  | .held found => { h with cycles := { found } :: h.cycles }
  | .copied _ => h.onLast fun c => { c with audience := some h.registered }
  | .called l found => h.onLast fun c => { c with calls := c.calls ++ [(l, found)] }
  | .rests _ => h.onLast fun c => { c with rested := true }
  | _ => h

def history (notes : List Note) : History := notes.foldl History.add {}

/-- What the last cycle found. Before the first there was nothing. -/
def latest : List Cycle → Inventory
  | [] => .empty
  | c :: _ => c.found

def called? : Note → Option (Listener × Inventory)
  | .called l found => some (l, found)
  | _ => none

def answers? : Action → Option Answers
  | .survey answers => some answers
  | _ => none

/-- What surveys with these answers find: a quick one, and then full ones. -/
def surveys (settings : ScanSettings) (answers : List Answers) : List Inventory :=
  answers.mapIdx fun i a => (survey settings (i != 0) a).value

/-- What the listener that was registered as number `k` was given, the last first. -/
def deliveries (k : Nat) (cycles : List Cycle) : List Inventory :=
  cycles.filterMap fun c => (c.calls[k]?).map Prod.snd

/-! ## Notes that say nothing about cycles -/

theorem history_append (notes more : List Note) :
    history (notes ++ more) = more.foldl History.add (history notes) := List.foldl_append

/-- The note changes nothing in a history. -/
def Note.Quiet (n : Note) : Prop := (∀ h : History, h.add n = h) ∧ called? n = none

@[simp] theorem quiet_spawned : Note.spawned.Quiet := ⟨fun _ => rfl, rfl⟩

@[simp] theorem quiet_spawnRefused : Note.spawnRefused.Quiet := ⟨fun _ => rfl, rfl⟩

@[simp] theorem quiet_began (full : Bool) : (Note.began full).Quiet := ⟨fun _ => rfl, rfl⟩

@[simp] theorem quiet_surveyed (n : SurveyNote) : (Note.surveyed n).Quiet := ⟨fun _ => rfl, rfl⟩

@[simp] theorem quiet_ended (ending : Ending) : (Note.ended ending).Quiet := ⟨fun _ => rfl, rfl⟩

@[simp] theorem quiet_logged (record : Record) : (Note.logged record).Quiet := ⟨fun _ => rfl, rfl⟩

theorem foldl_add_quiet (h : History) {notes : List Note} (hq : ∀ n ∈ notes, n.Quiet) :
    notes.foldl History.add h = h := by
  induction notes with
  | nil => rfl
  | cons n ns ih =>
    rw [List.foldl_cons, (hq n List.mem_cons_self).1 h]
    exact ih fun m hm => hq m (List.mem_cons_of_mem n hm)

theorem called_quiet {notes : List Note} (hq : ∀ n ∈ notes, n.Quiet) :
    notes.filterMap called? = [] := by
  rw [List.filterMap_eq_nil_iff]
  exact fun n hn => (hq n hn).2

theorem surveyed_quiet (notes : List SurveyNote) : ∀ n ∈ notes.map Note.surveyed, n.Quiet := by
  intro n hn
  obtain ⟨m, -, rfl⟩ := List.mem_map.mp hn
  exact quiet_surveyed m

theorem foldl_add_surveyNotes (h : History) (s : Scanner) (full : Bool) (answers : Answers) :
    (s.surveyNotes full answers).foldl History.add h =
      { h with cycles := { found := s.found full answers } :: h.cycles } := by
  rw [surveyNotes, List.foldl_append, foldl_add_quiet h (surveyed_quiet _)]
  rfl

theorem called_surveyNotes (s : Scanner) (full : Bool) (answers : Answers) :
    (s.surveyNotes full answers).filterMap called? = [] := by
  rw [surveyNotes, List.filterMap_append, called_quiet (surveyed_quiet _)]
  rfl

theorem foldl_add_call (h : History) (l : Listener) (found : Inventory) (crashes : Bool)
    (record : Record) :
    (.called l found :: if crashes then [.logged record] else []).foldl History.add h =
      h.onLast fun c => { c with calls := c.calls ++ [(l, found)] } := by
  cases crashes with
  | true => rfl
  | false => rfl

theorem called_call (l : Listener) (found : Inventory) (crashes : Bool) (record : Record) :
    (.called l found :: if crashes then [.logged record] else []).filterMap called? =
      [(l, found)] := by
  cases crashes with
  | true => rfl
  | false => rfl

theorem answers_concat {actions : List Action} {a : Action} (h : answers? a = none) :
    (actions ++ [a]).filterMap answers? = actions.filterMap answers? := by
  rw [List.filterMap_append, List.filterMap_cons_none h, List.filterMap_nil, List.append_nil]

end LinkWatch.Scanner
