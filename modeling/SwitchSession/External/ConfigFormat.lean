import SwitchSession.Config.Format
import SwitchSession.External.Toml.Document

namespace SwitchSession.External

open SwitchSession.Toml

namespace ConfigFormat

def natBelow? (bound : Nat) : Value → Option Nat
  | .integer (.ofNat n) => if n < bound then some n else none
  | _ => none

def version? (v : Value) : Option Version := (natBelow? 256 v).bind Version.ofNat?

def versionOrder? : Value → Option (List Version)
  | .array items => items.mapM version?
  | _ => none

def flag? : Value → Option Bool
  | .boolean b => some b
  | _ => none

def rate? (v : Value) : Option UInt32 := (natBelow? 4294967296 v).map UInt32.ofNat

def setting (read : Value → Option α) (default : α) : Option Value → Option α
  | none => some default
  | some v => read v

def ofSettings (order bitmap rate : Option Value) : Option Config := do
  let defaults : Config := {}
  let versionOrder ← setting versionOrder? defaults.versionOrder order
  let useVersionBitmap ← setting flag? defaults.useVersionBitmap bitmap
  let rateLimitPerMinute ← setting rate? defaults.rateLimitPerMinute rate
  some { versionOrder, useVersionBitmap, rateLimitPerMinute }

/-- Reads the value of `handshake`. In place of the table there may be an array of the settings in
order, and a point in time counts as an empty table. -/
def ofValue? : Value → Option Config
  | .table entries =>
    ofSettings (entries.lookup Setting.versionOrder.key)
      (entries.lookup Setting.useVersionBitmap.key) (entries.lookup Setting.rateLimit.key)
  | .array items => ofSettings items[0]? items[1]? items[2]?
  | .datetime _ => some {}
  | _ => none

def ofEntries? (document : Entries) : Option Config :=
  match document.lookup "handshake" with
  | none => some {}
  | some v => ofValue? v

def flagText (b : Bool) : String := if b then "true" else "false"

def valueText (c : Config) : Setting → String
  | .versionOrder => Version.listText c.versionOrder
  | .useVersionBitmap => flagText c.useVersionBitmap
  | .rateLimit => c.rateLimitPerMinute.toNat.repr

end ConfigFormat

/-- A stand-in for the libraries, with which the program can be run. It refuses everything with the
same text. -/
def configFormat (detail : String) : Config.Format where
  read text := ((Toml.document? text).map Toml.plainEntries).elim (.error detail) .ok
  decode document := (ConfigFormat.ofEntries? document).elim (.error detail) .ok
  write c x := x.key ++ " = " ++ ConfigFormat.valueText c x ++ "\n"

end SwitchSession.External
