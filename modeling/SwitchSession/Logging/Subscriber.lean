import SwitchSession.Logging.Settings

namespace SwitchSession

inductive LoggingError
  | filter (detail : String)
  | subscriber (detail : String)
deriving DecidableEq

def LoggingError.message : LoggingError → String
  | .filter detail => "Invalid log filter: " ++ detail
  | .subscriber detail => "Failed to install subscriber: " ++ detail

/-- The log library: how it reads a filter, into a form of its own, and with what text it refuses a
second subscriber. -/
structure LogLibrary (φ : Type) where
  readFilter : String → Except String φ
  taken : String

structure Subscriber (φ : Type) where
  filter : φ
  json : Bool
deriving DecidableEq

namespace Subscriber

variable (library : LogLibrary φ)

/-- Installs a subscriber for the whole process unless there is one. An invalid filter is found
first. -/
def install (installed : Option (Subscriber φ)) (settings : LogSettings) :
    Except LoggingError Unit × Option (Subscriber φ) :=
  match library.readFilter settings.filter with
  | .error detail => (.error (.filter detail), installed)
  | .ok filter =>
    match installed with
    | some other => (.error (.subscriber library.taken), some other)
    | none => (.ok (), some { filter, json := settings.json })

def installAll : List LogSettings → Option (Subscriber φ) → List (Except LoggingError Unit)
  | [], _ => []
  | settings :: rest, installed =>
    let (result, installed) := install library installed settings
    result :: installAll rest installed

end Subscriber

end SwitchSession
