import LinkWatch.Inventory
import LinkWatch.Json.Decoder
import LinkWatch.Json.Printer

/-! # Inventories in JSON

An inventory is read back only if all four fields are there. -/

namespace LinkWatch.Inventory

open Json

def toJson (i : Inventory) : Value :=
  .object [("ports", .list (i.listed.map .string)), ("dfu_found", .bool i.dfu),
    ("st_link_connected", .bool i.stLink), ("can_adapter_connected", .bool i.canAdapter)]

def render (i : Inventory) : String := i.toJson.render compact

def form : Form Inventory where
  name := "HardwareSnapshot"
  fields :=
    [.of "ports" (list text) fun i v => { i with listed := v },
     .of "dfu_found" boolean fun i v => { i with dfu := v },
     .of "st_link_connected" boolean fun i v => { i with stLink := v },
     .of "can_adapter_connected" boolean fun i v => { i with canAdapter := v }]
  initial := empty
  complete := true

def read (cs : List Char) : Except Fault Inventory := readChars form.decode cs

end LinkWatch.Inventory
