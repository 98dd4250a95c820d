/-! # Log records, and values that come with notes -/

namespace LinkWatch

/-! ## Records -/

inductive Level where
  | debug
  | info
  | warn
  | error
  deriving DecidableEq, Repr

def Level.name : Level → String
  | .debug => "DEBUG"
  | .info => "INFO"
  | .warn => "WARN"
  | .error => "ERROR"

structure Record where
  level : Level
  text : String
  deriving DecidableEq, Repr

def Record.line (r : Record) : String := r.level.name ++ " " ++ r.text

/-! ## Values with notes -/

/-- A value and what was noted on the way to it, the first note first. -/
structure Noted (ε α : Type) where
  value : α
  notes : List ε := []
  deriving DecidableEq, Repr

namespace Noted

variable {ε δ α β : Type}

instance : Monad (Noted ε) where
  pure a := ⟨a, []⟩
  bind x f := ⟨(f x.value).value, x.notes ++ (f x.value).notes⟩

def mapNotes (f : ε → δ) (x : Noted ε α) : Noted δ α := ⟨x.value, x.notes.map f⟩

/-- Keeps the notes that have a place elsewhere, and puts them there. -/
def pickNotes (f : ε → Option δ) (x : Noted ε α) : Noted δ α :=
  ⟨x.value, x.notes.filterMap f⟩

@[simp] theorem value_pure (a : α) : (pure a : Noted ε α).value = a := rfl

@[simp] theorem notes_pure (a : α) : (pure a : Noted ε α).notes = [] := rfl

@[simp] theorem value_bind (x : Noted ε α) (f : α → Noted ε β) :
    (x >>= f).value = (f x.value).value := rfl

@[simp] theorem notes_bind (x : Noted ε α) (f : α → Noted ε β) :
    (x >>= f).notes = x.notes ++ (f x.value).notes := rfl

@[simp] theorem value_mapNotes (f : ε → δ) (x : Noted ε α) :
    (x.mapNotes f).value = x.value := rfl

@[simp] theorem notes_mapNotes (f : ε → δ) (x : Noted ε α) :
    (x.mapNotes f).notes = x.notes.map f := rfl

@[simp] theorem value_pickNotes (f : ε → Option δ) (x : Noted ε α) :
    (x.pickNotes f).value = x.value := rfl

@[simp] theorem notes_pickNotes (f : ε → Option δ) (x : Noted ε α) :
    (x.pickNotes f).notes = x.notes.filterMap f := rfl

end Noted

def note {ε : Type} (e : ε) : Noted ε Unit := ⟨(), [e]⟩

/-- A value and what was logged on the way to it. -/
abbrev Logged := Noted Record

def log (level : Level) (text : String) : Logged Unit := note ⟨level, text⟩

end LinkWatch
