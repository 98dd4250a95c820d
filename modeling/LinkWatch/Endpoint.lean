import LinkWatch.Failure
import LinkWatch.Text.Blank
import LinkWatch.Text.Numeral
import LinkWatch.Text.Segment

/-! # Endpoints and their identifiers -/

namespace LinkWatch

open Text

/-! ## Names with a meaning of their own -/

/-- Stands for the first real serial device. -/
def autoSerialId : String := "Auto Serial"

def pcanId : String := "PCAN"

def socketCanId : String := "SocketCAN"

/-! ## Endpoints -/

inductive Endpoint where
  | autoSerial
  | serial (name : String)
  | tcp (number : UInt16)
  | pcan
  | socketCan
  deriving DecidableEq, Repr

namespace Endpoint

/-- CAN endpoints are listed, but their framed traffic is not a byte stream. -/
def isCan : Endpoint → Bool
  | .pcan | .socketCan => true
  | _ => false

/-- The identifier that stands for the endpoint in an inventory. -/
def display : Endpoint → String
  | .autoSerial => autoSerialId
  | .serial name => name
  | .tcp number => decimal number.toNat
  | .pcan => pcanId
  | .socketCan => socketCanId

/-! ## Reading an identifier -/

/-- A TCP number is a numeral from 1 to 65535. -/
def tcpNumber? (cs : List Char) : Option UInt16 :=
  (bounded? 10 0xffff cs).bind fun n => if n = 0 then none else some (UInt16.ofNat n)

/-- The names of this machine that a TCP number may follow. -/
def localHosts : List String := ["localhost", "127.0.0.1"]

def parseTcp (id : String) (digits : List Char) : Except LinkError Endpoint :=
  match tcpNumber? digits with
  | some n => .ok (.tcp n)
  | none => .error (.invalidEndpoint id)

/-- What follows a name of this machine and the last colon. -/
def localTcp? (cs : List Char) : Option (List Char) :=
  match splitLast? ':' cs with
  | some (host, digits) => if String.ofList host ∈ localHosts then some digits else none
  | none => none

/-- Reads a trimmed identifier. Digits alone, and what follows a name of this machine and a colon,
are TCP numbers. Everything else that is no marker names a serial device. -/
def parseTrimmed (id : String) : Except LinkError Endpoint :=
  if id = "" then .error (.invalidEndpoint id)
  else if id = autoSerialId then .ok .autoSerial
  else if id = pcanId then .ok .pcan
  else if id = socketCanId then .ok .socketCan
  else if id.toList.all isAsciiDigit then parseTcp id id.toList
  else match localTcp? id.toList with
    | some digits => parseTcp id digits
    | none => .ok (.serial id)

def parse (text : String) : Except LinkError Endpoint := parseTrimmed (trim text)

end Endpoint

end LinkWatch
