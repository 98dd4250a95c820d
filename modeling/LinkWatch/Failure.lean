import LinkWatch.Text.Numeral

/-! # Failures of the operating system and of serial devices -/

namespace LinkWatch

/-! ## Input and output -/

inductive IoKind where
  | addrInUse
  | addrNotAvailable
  | alreadyExists
  | argumentListTooLong
  | brokenPipe
  | connectionAborted
  | connectionRefused
  | connectionReset
  | crossesDevices
  | deadlock
  | directoryNotEmpty
  | executableFileBusy
  | filesystemLoop
  | fileTooLarge
  | hostUnreachable
  | inProgress
  | inputOutputError
  | interrupted
  | invalidData
  | invalidFilename
  | invalidInput
  | isADirectory
  | networkDown
  | networkUnreachable
  | notADirectory
  | notConnected
  | notFound
  | notSeekable
  | other
  | outOfMemory
  | permissionDenied
  | quotaExceeded
  | readOnlyFilesystem
  | resourceBusy
  | staleNetworkFileHandle
  | storageFull
  | timedOut
  | tooManyLinks
  | tooManyOpenFiles
  | uncategorized
  | unexpectedEof
  | unsupported
  | wouldBlock
  | writeZero
  deriving DecidableEq, Repr

structure IoFailure where
  kind : IoKind
  text : String
  deriving DecidableEq, Repr

/-! ## Serial devices -/

inductive SerialKind where
  | noDevice
  | invalidInput
  | unknown
  | io (kind : IoKind)
  deriving DecidableEq, Repr

structure SerialFault where
  kind : SerialKind
  text : String
  deriving DecidableEq, Repr

def SerialKind.toIoKind : SerialKind → IoKind
  | .noDevice => .notFound
  | .invalidInput => .invalidInput
  | .unknown => .other
  | .io kind => kind

/-- The same fault, met where an input or output call was made. -/
def SerialFault.toIo (f : SerialFault) : IoFailure := ⟨f.kind.toIoKind, f.text⟩

/-- The same fault as a failure of no class of its own. -/
def SerialFault.asOther (f : SerialFault) : IoFailure := ⟨.other, f.text⟩

/-! ## Links -/

/-- Why an endpoint could not be named or opened. -/
inductive LinkError where
  | serial (text : String)
  | io (failure : IoFailure)
  | invalidEndpoint (id : String)
  | noSerialDevice
  | unsupported (what : String)
  deriving DecidableEq, Repr

def LinkError.ofFault (f : SerialFault) : LinkError := .serial f.text

def LinkError.message : LinkError → String
  | .serial text => "Serial port error: " ++ text
  | .io failure => "I/O error: " ++ failure.text
  | .invalidEndpoint id => "Invalid endpoint: " ++ id
  | .noSerialDevice => "No serial port available for auto-detection"
  | .unsupported what => "Unsupported endpoint: " ++ what

/-- The text of the failure that caused this one, where there is one. -/
def LinkError.cause? : LinkError → Option String
  | .io failure => some failure.text
  | _ => none

end LinkWatch
