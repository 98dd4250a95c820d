import LinkWatch.Exclusion

/-! # Settings -/

namespace LinkWatch

/-! ## Spans of time -/

/-- Whole seconds and the nanoseconds beyond them. -/
structure Duration where
  secs : Nat
  nanos : Nat
  deriving DecidableEq, Repr

def Duration.ofMillis (ms : UInt64) : Duration :=
  ⟨ms.toNat / 1000, ms.toNat % 1000 * 1000000⟩

/-! ## Defaults -/

/-- The TCP number on which the simulator waits. -/
def simulatorNumber : UInt16 := 29001

def defaultBaud : UInt32 := 115200

/-- The largest block that comes in one answer. -/
def blockSize : Nat := 1500

/-- Room for two blocks. -/
def readBufferSize : UInt64 := 3000

/-! ## The groups -/

/-- What the scanner looks for, and how often. -/
structure ScanSettings where
  pollMillis : UInt64 := 300
  showSocketCan : Bool := true
  exclusions : List Exclusion := Exclusion.defaults
  simulator : UInt16 := simulatorNumber
  probeMillis : UInt64 := 50
  deriving DecidableEq, Repr

/-- How endpoints are opened. The span limits a serial read and a TCP connection attempt. -/
structure OpenSettings where
  baud : UInt32 := defaultBaud
  timeoutMillis : UInt64 := 2000
  deriving DecidableEq, Repr

/-- How a byte source is drained. -/
structure DrainSettings where
  bufferSize : UInt64 := readBufferSize
  deriving DecidableEq, Repr

structure Settings where
  scan : ScanSettings := {}
  opening : OpenSettings := {}
  drain : DrainSettings := {}
  /-- The identifier to connect to whenever it is listed. -/
  target : Option String := none
  deriving DecidableEq, Repr

def ScanSettings.pollInterval (s : ScanSettings) : Duration := .ofMillis s.pollMillis

def ScanSettings.probeTimeout (s : ScanSettings) : Duration := .ofMillis s.probeMillis

def OpenSettings.timeout (s : OpenSettings) : Duration := .ofMillis s.timeoutMillis

end LinkWatch
