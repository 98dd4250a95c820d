import LinkWatch.Channel.Serial

/-! # Handles of serial channels

A handle looks at a flag and has a port of the device. One that is made from another handle gets a
port from the port of that handle, and looks at the same flag. -/

namespace LinkWatch

/-! ## Ports -/

/-- What a port will do for those who have it. -/
structure SerialPort where
  feeds : List Feed := []
  acceptances : List Acceptance := []
  flushFault : Option SerialFault := none
  cloneFault : Option SerialFault := none
  deriving DecidableEq, Repr

/-- A channel with this port, closed or not. -/
def SerialPort.channel (p : SerialPort) (closed : Bool) : SerialChannel :=
  { closed := closed, feeds := p.feeds, acceptances := p.acceptances, flushFault := p.flushFault
    cloneFault := p.cloneFault }

def SerialChannel.port (c : SerialChannel) : SerialPort :=
  { feeds := c.feeds, acceptances := c.acceptances, flushFault := c.flushFault
    cloneFault := c.cloneFault }

/-! ## Handles -/

/-- The places of the flag and of the port of a handle. -/
structure SerialHandle where
  flag : Nat
  port : Nat
  deriving DecidableEq, Repr

/-- All handles, with the flags and the ports that there are. -/
structure SerialHandles where
  flags : List Bool
  ports : List SerialPort
  handles : List SerialHandle
  deriving DecidableEq, Repr

namespace SerialHandles

/-- The only handle of a channel. -/
def of (c : SerialChannel) : SerialHandles :=
  { flags := [c.closed], ports := [c.port], handles := [⟨0, 0⟩] }

def port (s : SerialHandles) (h : SerialHandle) : SerialPort := s.ports.getD h.port {}

def closed (s : SerialHandles) (h : SerialHandle) : Bool := s.flags.getD h.flag false

/-- The channel as it is seen through a handle. -/
def channel (s : SerialHandles) (h : SerialHandle) : SerialChannel := (s.port h).channel (s.closed h)

/-- The handles after the channel has been used through one of them. -/
def used (s : SerialHandles) (h : SerialHandle) (after : SerialChannel) : SerialHandles :=
  { s with flags := s.flags.set h.flag after.closed, ports := s.ports.set h.port after.port }

/-- Makes another handle. What its port will do is given if that is not what the old one does. -/
def clone (s : SerialHandles) (h : SerialHandle) (own : Option SerialPort) :
    Noted DeviceCall (Except IoFailure Unit × SerialHandles) := do
  match ← (s.channel h).clone, own with
  | .error failure, _ => return (.error failure, s)
  | .ok (), none => return (.ok (), { s with handles := s.handles ++ [h] })
  | .ok (), some p =>
    return (.ok (),
      { s with
        ports := s.ports ++ [p], handles := s.handles ++ [{ h with port := s.ports.length }] })

end SerialHandles

/-! ## Uses -/

/-- What is done with a handle. -/
inductive HandleUse where
  | read (room : Nat)
  | write (bytes : List UInt8)
  | flush
  | close
  /-- Makes another handle. What its port will do is given if that is not what the old one does. -/
  | clone (own : Option SerialPort)
  deriving DecidableEq, Repr

inductive HandleAnswer where
  | read (reading : Option Reading)
  | wrote (result : Except IoFailure Nat)
  | done (result : Except IoFailure Unit)

def SerialHandles.act (s : SerialHandles) (h : SerialHandle) :
    HandleUse → Noted DeviceCall (HandleAnswer × SerialHandles)
  | .read room => do
    let (reading, after) ← (s.channel h).read room
    return (.read reading, s.used h after)
  | .write bytes => do
    let (result, after) ← (s.channel h).write bytes
    return (.wrote result, s.used h after)
  | .flush => do
    let result ← (s.channel h).flush
    return (.done result, s)
  | .close => pure (.done (.ok ()), s.used h (s.channel h).close)
  | .clone own => do
    let (result, after) ← s.clone h own
    return (.done result, after)

end LinkWatch
