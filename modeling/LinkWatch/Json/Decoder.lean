import LinkWatch.Json.Skip

/-! # Reading typed values from JSON

A decoder reads one value straight from the text, so that the first fault in the text is the one
reported, be it in the notation or in the types. -/

namespace LinkWatch.Json

open Text

/-- Reads a value, given how many levels of nesting are still allowed. -/
abbrev Decoder (α : Type) := (depth : Nat) → List Char → Except Fault (α × List Char)

/-- Lists and objects may be nested one level less than this. -/
def depthLimit : Nat := 128

/-- The depth inside a list or object that starts here. -/
def deeper (depth : Nat) (cs : List Char) : Except Fault Nat :=
  if depth ≤ 1 then .error (.ahead cs .tooDeep) else .ok (depth - 1)

/-! ## Scalars -/

/-- The shape of the value that starts here. Lists and objects are not passed over. -/
def shapeAt (cs : List Char) : Except Fault (Shape × List Char) :=
  match cs with
  | [] => .error (.ahead [] .expectedValue)
  | c :: r =>
    if c = 'n' then (word ['u', 'l', 'l'] r).map (.null, ·)
    else if c = 't' then (word ['r', 'u', 'e'] r).map (.bool true, ·)
    else if c = 'f' then (word ['a', 'l', 's', 'e'] r).map (.bool false, ·)
    else if c = '-' then (number false r).map fun (n, s) => (n.shape, s)
    else if isAsciiDigit c then (number true cs).map fun (n, s) => (n.shape, s)
    else if c = '"' then (string r).map fun (t, s) => (.string t, s)
    else if c = '[' then .ok (.sequence, cs)
    else if c = '\x7b' then .ok (.map, cs)
    else .error (.ahead cs .expectedValue)

/-- The fault of a value that starts here and is not what is expected. -/
def mismatch (expected : String) (cs : List Char) : Fault :=
  match shapeAt cs with
  | .ok (shape, rest) => .here rest (.wrongType shape expected)
  | .error f => f

/-- Passes over blanks and reads a value that has to be there. -/
def atValue {α : Type} (read : Char → List Char → Except Fault (α × List Char))
    (cs : List Char) : Except Fault (α × List Char) :=
  match skipSpace cs with
  | [] => .error (.ahead [] .endInValue)
  | c :: r => read c r

def boolean : Decoder Bool := fun _ => atValue fun c r =>
  if c = 't' then (word ['r', 'u', 'e'] r).map (true, ·)
  else if c = 'f' then (word ['a', 'l', 's', 'e'] r).map (false, ·)
  else .error (mismatch "a boolean" (c :: r))

/-- A number that is natural and at most `limit`. -/
def Number.bounded (limit : Nat) (expected : String) (n : Number) (rest : List Char) :
    Except Fault (Nat × List Char) :=
  match n with
  | .natural k =>
    if k ≤ limit then .ok (k, rest) else .error (.here rest (.wrongValue n.shape expected))
  | .negative _ => .error (.here rest (.wrongValue n.shape expected))
  | .float _ => .error (.here rest (.wrongType n.shape expected))

/-- A natural number up to `limit`, without sign, fraction and exponent. -/
def natural (limit : Nat) (expected : String) : Decoder Nat := fun _ => atValue fun c r =>
  if c = '-' then do
    let (n, rest) ← number false r
    n.bounded limit expected rest
  else if isAsciiDigit c then do
    let (n, rest) ← number true (c :: r)
    n.bounded limit expected rest
  else .error (mismatch expected (c :: r))

/-- A string, where `expected` says what it is for. -/
def textOf (expected : String) : Decoder String := fun _ => atValue fun c r =>
  if c = '"' then string r else .error (mismatch expected (c :: r))

def text : Decoder String := textOf "a string"

def unit (expected : String) : Decoder Unit := fun _ => atValue fun c r =>
  if c = 'n' then (word ['u', 'l', 'l'] r).map ((), ·)
  else .error (mismatch expected (c :: r))

def optional {α : Type} (read : Decoder α) : Decoder (Option α) := fun depth cs =>
  match skipSpace cs with
  | 'n' :: r => (word ['u', 'l', 'l'] r).map (none, ·)
  | r => (read depth r).map fun (a, s) => (some a, s)

/-! ## Closing

The end of a list or object is passed also after a fault that concerns it as a whole, so that the
fault is placed behind it. -/

def closeList (cs : List Char) : Except Fault (List Char) :=
  match skipSpace cs with
  | [] => .error (.ahead [] .endInList)
  | c :: r =>
    if c = ']' then .ok r
    else if c = ',' then
      match skipSpace r with
      | ']' :: s => .error (.ahead (']' :: s) .trailingComma)
      | s => .error (.ahead s .trailingText)
    else .error (.ahead (c :: r) .trailingText)

def passListEnd (cs : List Char) : List Char :=
  match skipSpace cs with
  | ']' :: r => r
  | ',' :: r => skipSpace r
  | r => r

def closeObject (cs : List Char) : Except Fault (List Char) :=
  match skipSpace cs with
  | [] => .error (.ahead [] .endInObject)
  | c :: r =>
    if c = '\x7d' then .ok r
    else if c = ',' then .error (.ahead (c :: r) .trailingComma)
    else .error (.ahead (c :: r) .trailingText)

def passObjectEnd (cs : List Char) : List Char :=
  match skipSpace cs with
  | '\x7d' :: r => r
  | r => r

/-- Closes what `body` has read from the inside of a list or object. -/
def closing {α : Type} (close : List Char → Except Fault (List Char))
    (pass : List Char → List Char) (body : Except Fault (α × List Char)) :
    Except Fault (α × List Char) :=
  match body with
  | .error f => .error (f.settle pass)
  | .ok (a, rest) => (close rest).map (a, ·)

/-! ## Items of lists -/

/-- Whether another item follows. `first` holds until one has been read. -/
def nextItem (first : Bool) (cs : List Char) : Except Fault (Bool × List Char) :=
  match skipSpace cs with
  | [] => .error (.ahead [] .endInList)
  | c :: r =>
    if c = ']' then .ok (false, c :: r)
    else if first then .ok (true, c :: r)
    else if c = ',' then
      match skipSpace r with
      | [] => .error (.ahead [] .endInValue)
      | d :: s => if d = ']' then .error (.ahead (d :: s) .trailingComma) else .ok (true, d :: s)
    else .error (.ahead (c :: r) .expectedListEnd)

/-- Reads the items of a list, at most `steps` of them, up to the closing bracket. -/
def items {α : Type} (read : List Char → Except Fault (α × List Char)) :
    (steps : Nat) → (first : Bool) → List Char → Except Fault (List α × List Char)
  | 0, _, cs => .error (.here cs .endInList)
  | n + 1, first, cs => do
    let (more, cs) ← nextItem first cs
    if more then
      let (a, cs) ← read cs
      let (as, cs) ← items read n false cs
      return (a :: as, cs)
    else return ([], cs)

/-- Reads a list whose bracket has been passed. Each item takes a character at least. -/
def itemsOf {α : Type} (read : List Char → Except Fault (α × List Char)) (cs : List Char) :
    Except Fault (List α × List Char) :=
  closing closeList passListEnd (items read (cs.length + 1) true cs)

def list {α : Type} (read : Decoder α) : Decoder (List α) := fun depth => atValue fun c r =>
  if c = '[' then do
    let d ← deeper depth (c :: r)
    itemsOf (read d) r
  else .error (mismatch "a sequence" (c :: r))

/-! ## Members of objects -/

/-- The next key, if there is one. `first` holds until one has been read. -/
def nextKey (first : Bool) (cs : List Char) : Except Fault (Option String × List Char) :=
  match skipSpace cs with
  | [] => .error (.ahead [] .endInObject)
  | c :: r =>
    if c = '\x7d' then .ok (none, c :: r)
    else if first then
      if c = '"' then (string r).map fun (k, s) => (some k, s)
      else .error (.ahead (c :: r) .keyNotString)
    else if c = ',' then
      match skipSpace r with
      | [] => .error (.ahead [] .endInValue)
      | d :: s =>
        if d = '"' then (string s).map fun (k, t) => (some k, t)
        else if d = '\x7d' then .error (.ahead (d :: s) .trailingComma)
        else .error (.ahead (d :: s) .keyNotString)
    else .error (.ahead (c :: r) .expectedObjectEnd)

def colon (cs : List Char) : Except Fault (List Char) :=
  match skipSpace cs with
  | [] => .error (.ahead [] .endInObject)
  | c :: r => if c = ':' then .ok r else .error (.ahead (c :: r) .expectedColon)

/-- Passes over the colon and the value behind a key. -/
def skipMember (cs : List Char) : Except Fault (List Char) := do
  skipValue (← colon cs)

/-- Runs over the members of an object, at most `steps` of them, up to the closing brace. `step` is
given the text after the key. -/
def members {σ : Type} (step : σ → String → List Char → Except Fault (σ × List Char)) :
    (steps : Nat) → (first : Bool) → σ → List Char → Except Fault (σ × List Char)
  | 0, _, _, cs => .error (.here cs .endInObject)
  | n + 1, first, s, cs => do
    let (key, cs) ← nextKey first cs
    match key with
    | none => return (s, cs)
    | some k =>
      let (s, cs) ← step s k cs
      members step n false s cs

/-! ## Values of any type -/

/-- Reads any value and keeps its shape. -/
def anyShape : Decoder Shape
  | 0, cs => .error (.ahead cs .tooDeep)
  | depth + 1, cs => atValue (fun c r =>
    if c = '[' then do
      let _ ← deeper (depth + 1) (c :: r)
      (itemsOf (anyShape depth) r).map fun (_, s) => (.sequence, s)
    else if c = '\x7b' then do
      let _ ← deeper (depth + 1) (c :: r)
      let step (_ : Unit) (_ : String) (cs : List Char) : Except Fault (Unit × List Char) := do
        let (_, rest) ← anyShape depth (← colon cs)
        return ((), rest)
      (closing closeObject passObjectEnd (members step (r.length + 1) true () r)).map
        fun (_, s) => (.map, s)
    else shapeAt (c :: r)) cs

/-! ## Records

A record is an object with known keys, or a list of its fields in their order. -/

/-- One field: its key, and how its value is put into the record. -/
structure Field (σ : Type) where
  name : String
  read : Nat → σ → List Char → Except Fault (σ × List Char)

def Field.of {σ α : Type} (name : String) (decode : Decoder α) (put : σ → α → σ) :
    Field σ :=
  ⟨name, fun depth s cs => (decode depth cs).map fun (a, rest) => (put s a, rest)⟩

/-- A type of records. Fields that are not given keep their initial value, if that is allowed. -/
structure Form (σ : Type) where
  name : String
  fields : List (Field σ)
  initial : σ
  complete : Bool

namespace Form

variable {σ : Type} (form : Form σ)

def expected : String := "struct " ++ form.name

def field? (key : String) : Option (Field σ) := form.fields.find? (·.name == key)

/-- Reads one member of an object: a known key once, any value behind other keys. -/
def member (depth : Nat) (s : σ × List String) (key : String) (cs : List Char) :
    Except Fault ((σ × List String) × List Char) :=
  match form.field? key with
  | none => (skipMember cs).map (s, ·)
  | some f =>
    if key ∈ s.2 then .error (.pending cs (.duplicateField key))
    else do
      let (a, rest) ← f.read depth s.1 (← colon cs)
      return ((a, key :: s.2), rest)

def missing? (seen : List String) : Option String :=
  (form.fields.find? fun f => !seen.contains f.name).map (·.name)

/-- Ends an object in which `seen` are the known keys. -/
def finish (s : σ) (seen : List String) (rest : List Char) : Except Fault (σ × List Char) :=
  match form.complete, form.missing? seen with
  | true, some name => .error (.pending rest (.missingField name))
  | _, _ => .ok (s, rest)

/-- Reads an object whose brace has been passed. -/
def ofObject (depth : Nat) (cs : List Char) : Except Fault (σ × List Char) :=
  closing closeObject passObjectEnd do
    let ((s, seen), rest) ← members (form.member depth) (cs.length + 1) true (form.initial, []) cs
    form.finish s seen rest

/-- Reads the given fields from a list, as far as it goes. `count` fields have been read. -/
def positional (depth : Nat) :
    List (Field σ) → (count : Nat) → σ → List Char → Except Fault (σ × List Char)
  | [], _, s, cs => .ok (s, cs)
  | f :: fs, count, s, cs => do
    let (more, cs) ← nextItem (count == 0) cs
    if more then
      let (s, cs) ← f.read depth s cs
      positional depth fs (count + 1) s cs
    else if form.complete then
      .error (.pending cs (.wrongLength count
        (form.expected ++ " with " ++ decimal form.fields.length ++ " elements")))
    else .ok (s, cs)

/-- Reads a list whose bracket has been passed. -/
def ofList (depth : Nat) (cs : List Char) : Except Fault (σ × List Char) :=
  closing closeList passListEnd (form.positional depth form.fields 0 form.initial cs)

def decode : Decoder σ := fun depth => atValue fun c r =>
  if c = '[' then do
    let d ← deeper depth (c :: r)
    form.ofList d r
  else if c = '\x7b' then do
    let d ← deeper depth (c :: r)
    form.ofObject d r
  else .error (mismatch form.expected (c :: r))

end Form

/-! ## Whole texts -/

/-- Reads a text that holds one value and nothing else. -/
def readChars {α : Type} (read : Decoder α) (cs : List Char) : Except Fault α :=
  match read depthLimit cs with
  | .error f => .error f
  | .ok (a, rest) =>
    match skipSpace rest with
    | [] => .ok a
    | r => .error (.ahead r .trailingText)

end LinkWatch.Json
