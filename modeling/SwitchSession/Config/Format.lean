import SwitchSession.Config
import SwitchSession.Toml.Value

namespace SwitchSession

/-- The settings of a configuration, under their names in a file. -/
inductive Setting
  | versionOrder
  | useVersionBitmap
  | rateLimit
deriving DecidableEq

namespace Setting

def key : Setting → String
  | .versionOrder => "version_order"
  | .useVersionBitmap => "use_version_bitmap"
  | .rateLimit => "device_connection_rate_limit_per_min"

/-- All of them, in the order in which they are declared. -/
def all : List Setting := [.versionOrder, .useVersionBitmap, .rateLimit]

end Setting

namespace Config

/-- The libraries between configurations and text. One reads documents, one takes a configuration
out of a document, and one writes the line of a setting. A refusal comes with its text. -/
structure Format where
  read : String → Except String Toml.Entries
  decode : Toml.Entries → Except String Config
  write : Config → Setting → String

variable (format : Format)

def parse (text : String) : Except ConfigError Config :=
  match (format.read text).bind format.decode with
  | .error detail => .error (.syntaxError detail)
  | .ok config => config.validate

def render (c : Config) : String := String.join (Setting.all.map (format.write c))

end Config

end SwitchSession
