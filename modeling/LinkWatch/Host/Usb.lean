import LinkWatch.Host
import LinkWatch.Probe
import LinkWatch.Text.Blank

/-! # USB devices by their identities -/

namespace LinkWatch

open Text

/-! ## Identities -/

structure UsbId where
  vendor : UInt16
  product : UInt16
  deriving DecidableEq, Repr

/-- Maker of the microcontrollers and of their programmers. -/
def stVendor : UInt16 := 0x0483

/-- A microcontroller in its bootloader. -/
def dfuProduct : UInt16 := 0xdf11

/-- The programmers of the ST-Link family. -/
def stLinkProducts : List UInt16 := [0x3744, 0x3748, 0x374b, 0x374e, 0x374f, 0x3752, 0x3753]

/-- Maker of CAN adapters. -/
def peakVendor : UInt16 := 0x0c72

def UsbId.isDfu (id : UsbId) : Bool := id.vendor == stVendor && id.product == dfuProduct

def UsbId.isStLink (id : UsbId) : Bool :=
  id.vendor == stVendor && stLinkProducts.contains id.product

def UsbId.isCanAdapter (id : UsbId) : Bool := id.vendor == peakVendor

/-- Four hexadecimal digits each. -/
def UsbId.display (id : UsbId) : String :=
  padLeft 4 (hexadecimal id.vendor.toNat) ++ ":" ++ padLeft 4 (hexadecimal id.product.toNat)

/-! ## Reading them -/

/-- The number in an identity file: a hexadecimal numeral of 16 bits with blanks around it. -/
def identity? (content : Option ByteArray) : Option UInt16 :=
  (content.bind String.fromUTF8?).bind fun text =>
    (bounded? 16 0xffff (trimChars text.toList)).map UInt16.ofNat

/-- The identity of an entry. Entries for interfaces have none. -/
def UsbEntry.id? (e : UsbEntry) : Option UsbId :=
  match identity? e.vendor, identity? e.product with
  | some vendor, some product => some ⟨vendor, product⟩
  | _, _ => none

def usbIds (entries : List UsbEntry) : List UsbId := entries.filterMap UsbEntry.id?

/-! ## Questions -/

def Host.usbIds (host : Host) : Except ProbeError (List UsbId) :=
  match host.usbEntries with
  | .error failure => .error (.io failure)
  | .ok entries => .ok (LinkWatch.usbIds entries)

def Host.anyUsb (host : Host) (test : UsbId → Bool) : Except ProbeError Bool :=
  host.usbIds.map (·.any test)

end LinkWatch
