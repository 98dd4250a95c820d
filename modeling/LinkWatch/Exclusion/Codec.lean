import LinkWatch.Exclusion
import LinkWatch.Json.Decoder
import LinkWatch.Json.Printer

/-! # Exclusions in JSON

A rule is an object with the keys `match` and `pattern`, or a list of the two. The kind of the rule
says how its text is read, so a text that comes first is kept by its shape until it is known. -/

namespace LinkWatch

open Json

namespace Exclusion

/-! ## Writing -/

def toJson : Exclusion → Value
  | .anywhere part => .object [("match", .string "contains"), ("pattern", .string part)]
  | .leading part => .object [("match", .string "prefix"), ("pattern", .string part)]

/-! ## Kinds -/

/-- The constructors, without the text. -/
inductive Kind where
  | anywhere
  | leading
  deriving DecidableEq, Repr

def Kind.rule : Kind → String → Exclusion
  | .anywhere, part => .anywhere part
  | .leading, part => .leading part

def kindNames : List String := ["contains", "prefix"]

def kindOf? (name : String) : Option Kind :=
  if name = "contains" then some .anywhere
  else if name = "prefix" then some .leading
  else none

def kindNamed (name : String) (rest : List Char) : Except Fault (Kind × List Char) :=
  match kindOf? name with
  | some kind => .ok (kind, rest)
  | none => .error (.here rest (.unknownVariant name kindNames))

def kindName : Decoder Kind := fun depth cs => do
  let (name, rest) ← textOf "variant identifier" depth cs
  kindNamed name rest

/-- Reads the inside of an object that has the kind as its key and null as its value. -/
def kindMember (depth : Nat) (cs : List Char) : Except Fault (Kind × List Char) := do
  match ← nextKey true cs with
  | (none, rest) => .error (.ahead rest .expectedValue)
  | (some name, rest) =>
    let (kind, rest) ← kindNamed name rest
    let ((), rest) ← unit "unit" depth (← colon rest)
    match skipSpace rest with
    | [] => .error (.here [] .endInObject)
    | '\x7d' :: r => return (kind, r)
    | r => .error (.here r .expectedValue)

/-- Reads the kind of an object: its name, or an object with the name as the key of a null. -/
def kind : Decoder Kind := fun depth => atValue fun c r =>
  if c = '"' then kindName depth (c :: r)
  else if c = '\x7b' then do
    let d ← deeper depth (c :: r)
    kindMember d r
  else .error (.ahead (c :: r) .expectedValue)

/-! ## Reading -/

def expected : String := "adjacently tagged enum PortFilter"

def kindKey : String := "match"

def partKey : String := "pattern"

/-- What has been read of an object: nothing, the kind, the text by its shape, or both. -/
inductive Parts where
  | none
  | kind (k : Kind)
  | part (s : Shape)
  | both (x : Exclusion)
  deriving DecidableEq, Repr

/-- The rule of a kind, from a text that came before it. -/
def ofShape (k : Kind) (s : Shape) (rest : List Char) : Except Fault (Parts × List Char) :=
  match s with
  | .string part => .ok (.both (k.rule part), rest)
  | s => .error (.pending rest (.wrongType s "a string"))

/-- Reads one member. Either key may come once, and other keys are passed over. -/
def member (depth : Nat) (p : Parts) (key : String) (cs : List Char) :
    Except Fault (Parts × List Char) :=
  if key = kindKey then
    match p with
    | .none => do
      let (k, rest) ← kind depth (← colon cs)
      return (.kind k, rest)
    | .part s => do
      let (k, rest) ← kind depth (← colon cs)
      ofShape k s rest
    | _ => .error (.pending cs (.duplicateField kindKey))
  else if key = partKey then
    match p with
    | .none => do
      let (s, rest) ← anyShape depth (← colon cs)
      return (.part s, rest)
    | .kind k => do
      let (part, rest) ← text depth (← colon cs)
      return (.both (k.rule part), rest)
    | _ => .error (.pending cs (.duplicateField partKey))
  else (skipMember cs).map (p, ·)

def finish (p : Parts) (rest : List Char) : Except Fault (Exclusion × List Char) :=
  match p with
  | .both x => .ok (x, rest)
  | .kind _ => .error (.pending rest (.missingField partKey))
  | _ => .error (.pending rest (.missingField kindKey))

/-- Reads an object whose brace has been passed. -/
def ofObject (depth : Nat) (cs : List Char) : Except Fault (Exclusion × List Char) :=
  closing closeObject passObjectEnd do
    let (p, rest) ← members (member depth) (cs.length + 1) true .none cs
    finish p rest

/-- Reads the two items of a list, where only its name can stand for the kind. -/
def pair (depth : Nat) (cs : List Char) : Except Fault (Exclusion × List Char) := do
  let (more, cs) ← nextItem true cs
  if more then
    let (k, cs) ← kindName depth cs
    let (more, cs) ← nextItem false cs
    if more then
      let (part, cs) ← text depth cs
      return (k.rule part, cs)
    else .error (.pending cs (.wrongLength 1 expected))
  else .error (.pending cs (.wrongLength 0 expected))

def decode : Decoder Exclusion := fun depth => atValue fun c r =>
  if c = '[' then do
    let d ← deeper depth (c :: r)
    closing closeList passListEnd (pair d r)
  else if c = '\x7b' then do
    let d ← deeper depth (c :: r)
    ofObject d r
  else .error (mismatch expected (c :: r))

end Exclusion

end LinkWatch
