import LinkWatch.Failure
import LinkWatch.Settings.Codec

/-! # Settings files -/

namespace LinkWatch

/-- Why settings could not be loaded or saved. A fault comes with its message. -/
inductive SettingsError where
  | io (failure : IoFailure)
  | invalid (detail : String)
  deriving DecidableEq, Repr

namespace SettingsError

/-- What the error was caused by, in its own words. -/
def cause : SettingsError → String
  | .io failure => failure.text
  | .invalid detail => detail

def message : SettingsError → String
  | .io failure => "I/O error: " ++ failure.text
  | .invalid detail => "Invalid configuration: " ++ detail

end SettingsError

namespace Settings

/-- A file that holds no text. -/
def notText : IoFailure := ⟨.invalidData, "stream did not contain valid UTF-8"⟩

def ofText (content : String) : Except SettingsError Settings :=
  match read content.toList with
  | .ok s => .ok s
  | .error fault => .error (.invalid (fault.message content.toList))

/-- Loads settings from what reading the file gave. -/
def load (content : Except IoFailure ByteArray) : Except SettingsError Settings :=
  match content with
  | .error failure => .error (.io failure)
  | .ok bytes =>
    match String.fromUTF8? bytes with
    | none => .error (.io notText)
    | some content => ofText content

/-- Saves settings where writing a file fails with the given failure, or succeeds: the new content
of the file. -/
def save (s : Settings) (refusal : Option IoFailure) : Except SettingsError ByteArray :=
  match refusal with
  | some failure => .error (.io failure)
  | none => .ok s.render.toUTF8

end Settings

end LinkWatch
