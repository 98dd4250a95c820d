import LinkWatch.Exclusion.Codec
import LinkWatch.Settings

/-! # Settings in JSON

Fields that are not given keep their defaults, group by group. -/

namespace LinkWatch

open Json

/-! ## Writing -/

def ScanSettings.toJson (s : ScanSettings) : Value :=
  .object [("poll_interval_ms", .natural s.pollMillis.toNat),
    ("show_socket_can", .bool s.showSocketCan),
    ("port_filters", .list (s.exclusions.map Exclusion.toJson)),
    ("simulator_port", .natural s.simulator.toNat),
    ("probe_timeout_ms", .natural s.probeMillis.toNat)]

def OpenSettings.toJson (s : OpenSettings) : Value :=
  .object [("baud_rate", .natural s.baud.toNat), ("timeout_ms", .natural s.timeoutMillis.toNat)]

def DrainSettings.toJson (s : DrainSettings) : Value :=
  .object [("buffer_size", .natural s.bufferSize.toNat)]

def Settings.toJson (s : Settings) : Value :=
  .object [("scanner", s.scan.toJson), ("transport", s.opening.toJson),
    ("reader", s.drain.toJson), ("auto_connect", .optional s.target)]

/-- The text of a settings file. -/
def Settings.render (s : Settings) : String := s.toJson.render indented

/-! ## Reading -/

/-- A natural number of 64 bits. -/
def word64 : Decoder Nat := natural 0xffffffffffffffff "u64"

/-- A natural number of 64 bits that counts bytes. -/
def size64 : Decoder Nat := natural 0xffffffffffffffff "usize"

def word32 : Decoder Nat := natural 0xffffffff "u32"

def word16 : Decoder Nat := natural 0xffff "u16"

def ScanSettings.form : Form ScanSettings where
  name := "ScannerConfig"
  fields :=
    [.of "poll_interval_ms" word64 fun s n => { s with pollMillis := .ofNat n },
     .of "show_socket_can" boolean fun s b => { s with showSocketCan := b },
     .of "port_filters" (list Exclusion.decode) fun s xs => { s with exclusions := xs },
     .of "simulator_port" word16 fun s n => { s with simulator := .ofNat n },
     .of "probe_timeout_ms" word64 fun s n => { s with probeMillis := .ofNat n }]
  initial := {}
  complete := false

def OpenSettings.form : Form OpenSettings where
  name := "TransportConfig"
  fields :=
    [.of "baud_rate" word32 fun s n => { s with baud := .ofNat n },
     .of "timeout_ms" word64 fun s n => { s with timeoutMillis := .ofNat n }]
  initial := {}
  complete := false

def DrainSettings.form : Form DrainSettings where
  name := "ReaderConfig"
  fields := [.of "buffer_size" size64 fun s n => { s with bufferSize := .ofNat n }]
  initial := {}
  complete := false

def Settings.form : Form Settings where
  name := "LinkConfig"
  fields :=
    [.of "scanner" ScanSettings.form.decode fun s v => { s with scan := v },
     .of "transport" OpenSettings.form.decode fun s v => { s with opening := v },
     .of "reader" DrainSettings.form.decode fun s v => { s with drain := v },
     .of "auto_connect" (optional text) fun s v => { s with target := v }]
  initial := {}
  complete := false

def Settings.read (cs : List Char) : Except Fault Settings := readChars Settings.form.decode cs

end LinkWatch
