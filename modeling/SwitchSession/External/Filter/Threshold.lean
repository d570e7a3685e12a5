import SwitchSession.Log
import SwitchSession.External.Text.Digits

namespace SwitchSession.External

/-- The lowest level that passes; `none` lets nothing pass. -/
abbrev Threshold := Option LogLevel

namespace Threshold

def ofNumber? : Nat → Option Threshold
  | 0 => some none
  | 1 => some (some .error)
  | 2 => some (some .warn)
  | 3 => some (some .info)
  | 4 => some (some .debug)
  | 5 => some (some .trace)
  | _ => none

def number? (s : List Char) : Option Nat :=
  let digits := match s with
    | '+' :: rest => rest
    | s => s
  if !digits.isEmpty && digits.all (Text.isDigitIn 10) then some (Text.ofDigits 10 digits)
  else none

def ofName? (s : List Char) : Option Threshold :=
  let name := String.ofList (s.map Char.toLower)
  if name = "off" then some none
  else if name = "error" then some (some .error)
  else if name = "warn" then some (some .warn)
  else if name = "info" then some (some .info)
  else if name = "debug" then some (some .debug)
  else if name = "trace" then some (some .trace)
  else none

def ofChars? (s : List Char) : Option Threshold :=
  match number? s with
  | some n => ofNumber? n
  | none => ofName? s

end Threshold

end SwitchSession.External
