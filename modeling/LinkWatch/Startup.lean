import LinkWatch.Endpoint
import LinkWatch.Log
import LinkWatch.Settings.File

/-! # Starting the monitor -/

namespace LinkWatch

def version : String := "0.1.0"

/-! ## Refusals -/

/-- Why the monitor does not start. -/
inductive StartupError where
  | settings (path : String) (error : SettingsError)
  | target (error : LinkError)
  deriving DecidableEq, Repr

namespace StartupError

def headline : StartupError → String
  | .settings path _ => "Failed to load config from " ++ path
  | .target _ => "Invalid auto_connect endpoint"

/-- What it was caused by, what that was caused by, and so on. -/
def causes : StartupError → List String
  | .settings _ error => [error.message, error.cause]
  | .target error =>
    error.message ::
      (match error.cause? with
        | some cause => [cause]
        | none => [])

/-- Puts blanks in front of all lines but the first. -/
def hang (margin : Nat) (text : String) : String :=
  String.ofList (text.toList.flatMap fun c =>
    if c = '\n' then '\n' :: List.replicate margin ' ' else [c])

/-- The causes, one a line and numbered if there are several. -/
def listCauses : List String → String
  | [cause] => "\n    " ++ hang 4 cause
  | causes => String.join (causes.zipIdx.map fun (cause, i) =>
      "\n    " ++ Text.decimal i ++ ": " ++ hang 7 cause)

def report (e : StartupError) : String :=
  "Error: " ++ e.headline ++ "\n\nCaused by:" ++ listCauses e.causes ++ "\n"

end StartupError

/-! ## Starting -/

/-- Reads the target of the settings. -/
def Settings.endpoint (s : Settings) : Except StartupError (Option Endpoint) :=
  match s.target with
  | none => .ok none
  | some id =>
    match Endpoint.parse id with
    | .ok endpoint => .ok (some endpoint)
    | .error error => .error (.target error)

/-- Loads the settings from the file at the path, where reading it gave `content`. -/
def loadFrom (path : String) (content : Except IoFailure ByteArray) :
    Except StartupError Settings :=
  match Settings.load content with
  | .ok settings => .ok settings
  | .error error => .error (.settings path error)

/-- Settings and target from the settings file, or from the defaults if there is no file. -/
def startup (file : Option (String × Except IoFailure ByteArray)) :
    Except StartupError (Settings × Option Endpoint) := do
  let settings ← match file with
    | some (path, content) => loadFrom path content
    | none => pure {}
  let target ← settings.endpoint
  return (settings, target)

/-- The first record of the monitor. -/
def firstRecord : Option Endpoint → Record
  | some endpoint =>
    if endpoint.isCan then
      ⟨.warn, endpoint.display ++ " is listed but cannot be streamed; only watching"⟩
    else ⟨.info, "Waiting for " ++ endpoint.display⟩
  | none => ⟨.info, "No auto_connect endpoint configured; only watching"⟩

end LinkWatch
