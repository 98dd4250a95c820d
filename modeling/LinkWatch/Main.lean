import LinkWatch.Failure.SystemError
import LinkWatch.Startup

/-! # The command line

The only argument is the path of the settings file. -/

namespace LinkWatch.CommandLine

/-- The error number in a code that may be negated. -/
def errorNumber (code : UInt32) : Nat :=
  if code < 0x80000000 then code.toNat else (0 - code).toNat

/-- What the system said when a file could not be read. -/
def ioFailure : IO.Error → IoFailure
  | .noFileOrDirectory _ code _ => .ofErrno (errorNumber code)
  | .inappropriateType _ code _ => .ofErrno (errorNumber code)
  | .permissionDenied _ code _ => .ofErrno (errorNumber code)
  | .invalidArgument _ code _ => .ofErrno (errorNumber code)
  | .hardwareFault code _ => .ofErrno (errorNumber code)
  | error => ⟨.uncategorized, error.toString⟩

def readSettings (path : String) : IO (Except IoFailure ByteArray) := do
  try
    return .ok (← IO.FS.readBinFile path)
  catch error =>
    return .error (ioFailure error)

end LinkWatch.CommandLine

open LinkWatch in
def main (args : List String) : IO UInt32 := do
  let file ← args.head?.mapM fun path => do
    return (path, ← CommandLine.readSettings path)
  match startup file with
  | .error error =>
    IO.eprint error.report
    return 1
  | .ok (_, target) =>
    IO.println (firstRecord target).line
    return 0
