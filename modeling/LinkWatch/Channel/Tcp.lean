import LinkWatch.Failure.SystemError
import LinkWatch.Source

/-! # TCP channels -/

namespace LinkWatch

inductive FarEnd where
  | present
  /-- It has finished sending. -/
  | finished
  /-- It has broken the connection off, and no call has met this yet. -/
  | resetting
  /-- It has broken the connection off. -/
  | reset
  deriving DecidableEq, Repr

/-- A connection as its handles see it. -/
structure TcpChannel where
  /-- What has arrived and has not been read. -/
  incoming : List UInt8 := []
  far : FarEnd := .present
  closed : Bool := false
  deriving DecidableEq, Repr

namespace TcpChannel

def resetByPeer : IoFailure := .ofErrno 104

def brokenPipe : IoFailure := .ofErrno 32

def notConnected : IoFailure := .ofErrno 107

/-- Reads into room for `room` bytes. There is no result while nothing has arrived. -/
def read (c : TcpChannel) (room : Nat) : Option Reading × TcpChannel :=
  if c.closed then (some .endOfInput, c)
  else if c.far = .resetting then (some (.failed resetByPeer), { c with far := .reset })
  else if c.far = .reset then (some .endOfInput, c)
  else if !c.incoming.isEmpty then
    (some (.got (c.incoming.take room)), { c with incoming := c.incoming.drop room })
  else if c.far = .finished then (some .endOfInput, c)
  else (none, c)

def write (c : TcpChannel) (bytes : List UInt8) : Except IoFailure Nat × TcpChannel :=
  if c.closed then (.error brokenPipe, c)
  else
    match c.far with
    | .resetting => (.error resetByPeer, { c with far := .reset })
    | .reset => (.error brokenPipe, c)
    | .present | .finished => (.ok bytes.length, c)

/-- Shuts the connection down, where there still is one. -/
def shutdown (c : TcpChannel) : Except IoFailure Unit :=
  match c.far with
  | .present | .finished => .ok ()
  | .resetting | .reset => .error notConnected

/-- What closing makes of the result of the shutdown. A connection that the far end has broken off
counts as closed. -/
def tolerate (shutdown : Except IoFailure Unit) : Except IoFailure Unit :=
  match shutdown with
  | .error failure => if failure.kind = .notConnected then .ok () else .error failure
  | .ok () => .ok ()

def close (c : TcpChannel) : Except IoFailure Unit × TcpChannel :=
  (tolerate c.shutdown, { c with closed := true })

end TcpChannel

end LinkWatch
