import LinkWatch.Channel.Serial
import LinkWatch.Channel.Tcp
import LinkWatch.Opening

/-! # Wires: channels with a played far end

A wire is a channel to a terminal device or a TCP connection whose other end follows cues. -/

namespace LinkWatch.Rehearsal

/-! ## Terminals -/

def notATerminal : SerialFault := ⟨.unknown, "Not a typewriter"⟩

/-- A device that stands in for a serial line. It has no signals. -/
def pseudoTerminal : Refusals
  | .dtr _ | .rts _ => some notATerminal
  | _ => none

structure Terminal where
  /-- What has arrived and has not been read. -/
  incoming : List UInt8 := []
  /-- Whether the far end has gone, and with it what had arrived. -/
  gone : Bool := false
  closed : Bool := false
  deriving DecidableEq, Repr

namespace Terminal

def hungUp : IoFailure := ⟨.brokenPipe, "Broken pipe"⟩

/-- What the device would do now. -/
def channel (t : Terminal) (room : Nat) : SerialChannel where
  closed := t.closed
  feeds :=
    if t.gone then [⟨.failed hungUp, false⟩]
    else if t.incoming.isEmpty then []
    else [⟨.got (t.incoming.take room), false⟩]
  acceptances := if t.gone then [.fails hungUp] else []
  flushFault := if t.gone then some ⟨.unknown, "flush failed"⟩ else none

def read (t : Terminal) (room : Nat) : Option Reading × Terminal :=
  let reading := ((t.channel room).read room).value.1
  match reading with
  | some (.got bytes _) => (reading, { t with incoming := t.incoming.drop bytes.length })
  | _ => (reading, t)

end Terminal

/-! ## Wires -/

inductive Wire where
  | terminal (t : Terminal)
  | connection (c : TcpChannel)
  deriving DecidableEq, Repr

namespace Wire

def ofLink : Link → Wire
  | .serial _ => .terminal {}
  | .tcp _ => .connection {}

def gone : Wire → Bool
  | .terminal t => t.gone
  | .connection c => c.far ≠ .present

def receive (bytes : List UInt8) : Wire → Wire
  | .terminal t => .terminal { t with incoming := t.incoming ++ bytes }
  | .connection c => .connection { c with incoming := c.incoming ++ bytes }

/-- The far end goes, and breaks a connection off if it is asked to. -/
def hangUp (abruptly : Bool) : Wire → Wire
  | .terminal t => .terminal { t with gone := true, incoming := [] }
  | .connection c => .connection { c with far := if abruptly then .resetting else .finished }

/-- Reads into room for `room` bytes. There is no result while there is nothing to read. -/
def read (room : Nat) : Wire → Option Reading × Wire
  | .terminal t => let (reading, t) := t.read room; (reading, .terminal t)
  | .connection c => let (reading, c) := c.read room; (reading, .connection c)

def write (bytes : List UInt8) : Wire → Except IoFailure Nat × Wire
  | .terminal t => (((t.channel 0).write bytes).value.1, .terminal t)
  | .connection c => let (result, c) := c.write bytes; (result, .connection c)

def flush : Wire → Except IoFailure Unit
  | .terminal t => (t.channel 0).flush.value
  | .connection _ => .ok ()

def close : Wire → Except IoFailure Unit × Wire
  | .terminal t => (.ok (), .terminal { t with closed := true })
  | .connection c => let (result, c) := c.close; (result, .connection c)

end Wire

/-! ## Opening -/

/-- A host on which the device of the name has gone. -/
def withoutDevice (name : String) (host : Host) : Host :=
  { host with
    device := fun n =>
      if n = name then .error ⟨.noDevice, "No such device or address"⟩ else host.device n }

/-- A host after a link was opened. A terminal can be opened once only. -/
def afterOpening (link : Link) (host : Host) : Host :=
  match link with
  | .serial line => withoutDevice line.name host
  | .tcp _ => host

end LinkWatch.Rehearsal
