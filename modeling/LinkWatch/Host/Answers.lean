import LinkWatch.Host.Devices
import LinkWatch.Host.Usb
import LinkWatch.Settings

/-! # What the probes answer on a host -/

namespace LinkWatch

/-- The identifier of the simulator, if it accepts a connection. -/
def Host.simulators (host : Host) (settings : ScanSettings) : List String :=
  match (host.reach settings.simulator).attempt settings.probeMillis with
  | .ok () => [Text.decimal settings.simulator.toNat]
  | .error _ => []

def Host.answers (host : Host) (settings : ScanSettings) : Answers where
  serial := .ofExcept host.serialDevices
  simulator := .found (host.simulators settings)
  dfu := .ofExcept (host.anyUsb UsbId.isDfu)
  stLink := .ofExcept (host.anyUsb UsbId.isStLink)
  canAdapter := .ofExcept (host.anyUsb UsbId.isCanAdapter)

end LinkWatch
