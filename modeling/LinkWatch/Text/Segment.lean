/-! # Cutting a text at a character, finding one text in another -/

namespace LinkWatch.Text

/-! ## The last separator -/

/-- The parts before and after the last occurrence of `sep`. -/
def splitLast? (sep : Char) : List Char → Option (List Char × List Char)
  | [] => none
  | c :: cs =>
    match splitLast? sep cs with
    | some (before, after) => some (c :: before, after)
    | none => if c = sep then some ([], cs) else none

/-- What follows the last occurrence of `sep`, or everything if there is none. -/
def afterLast (sep : Char) (cs : List Char) : List Char :=
  match splitLast? sep cs with
  | some (_, after) => after
  | none => cs

def baseName (path : String) : String := String.ofList (afterLast '/' path.toList)

/-! ## Occurrence -/

def leads (part text : List Char) : Bool := part.isPrefixOf text

def occurs (part : List Char) : List Char → Bool
  | [] => leads part []
  | c :: cs => leads part (c :: cs) || occurs part cs

/-- The rest of the text after `part`, if it starts with `part`. -/
def dropLead? : (part text : List Char) → Option (List Char)
  | [], text => some text
  | _ :: _, [] => none
  | p :: ps, c :: cs => if p = c then dropLead? ps cs else none

end LinkWatch.Text
