import LinkWatch.Text.Segment

/-! # Exclusions: serial device names that never lead anywhere -/

namespace LinkWatch

open Text

inductive Exclusion where
  /-- The text stands anywhere in the name. -/
  | anywhere (part : String)
  /-- The last path component starts with the text. -/
  | leading (part : String)
  deriving DecidableEq, Repr

namespace Exclusion

/-- Wireless debug and Bluetooth devices, and call-out devices. -/
def defaults : List Exclusion :=
  [.anywhere "wlan-debug", .anywhere "Bluetooth-Incoming-Port", .leading "cu."]

def rejects : Exclusion → String → Bool
  | .anywhere part, name => occurs part.toList name.toList
  | .leading part, name => leads part.toList (afterLast '/' name.toList)

/-- The names that no rule rejects, in their order. -/
def keep (rules : List Exclusion) (names : List String) : List String :=
  names.filter fun name => !rules.any (·.rejects name)

end Exclusion

end LinkWatch
