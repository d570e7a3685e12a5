import SwitchSession.External.Filter.Field
import SwitchSession.External.Filter.Threshold
import SwitchSession.External.Text.Slice
import SwitchSession.Logging.Subscriber

namespace SwitchSession.External

/-- Sets a level for everything, or for a target, a span in brackets, or both. -/
structure Directive where
  target : Option String := none
  span : Option String := none
  field : Option SpanField := none
  threshold : Threshold
deriving DecidableEq

namespace Directive

open Text

/-- What a target can start with; further on anything goes but the marks of a span or a level. -/
def isTargetStart (c : Char) : Bool := c == '-' || c == ':' || c == '_' || isAlphanumeric c

def trim (s : List Char) : List Char :=
  ((s.dropWhile isWhiteSpace).reverse.dropWhile isWhiteSpace).reverse

/-- Where the parts of a directive are, as positions of their first byte and of the one after. -/
structure Layout where
  target : Option (Nat × Nat) := none
  span : Option (Nat × Nat) := none
  field : Option (Nat × Nat) := none
  level : Option Nat := none

def Layout.withLevel? (l : Layout) (position : Nat) : List Char → Option Layout
  | [] => some l
  | '=' :: _ => some { l with level := some (position + 1) }
  | _ => none

def Layout.withSpan? (l : Layout) (position : Nat) (s : List Char) : Option Layout :=
  let stop := position + byteLength (s.takeWhile fun c => c != ']' && c != '{')
  let l := { l with span := some (position, stop) }
  match s.dropWhile fun c => c != ']' && c != '{' with
  | ']' :: rest => l.withLevel? (stop + 1) rest
  | '{' :: rest =>
    let start := stop + 1
    let stop := start + byteLength (rest.takeWhile (· != '}'))
    match rest.dropWhile (· != '}') with
    | '}' :: ']' :: rest => { l with field := some (start, stop) }.withLevel? (stop + 2) rest
    | _ => none
  | _ => none

def Layout.ofChars? (s : List Char) : Option Layout :=
  match s with
  | [] => none
  | '[' :: rest => withSpan? {} 1 rest
  | c :: _ =>
    if isTargetStart c then
      let stop := byteLength (s.takeWhile fun c => c != '=' && c != '[')
      let l : Layout := { target := some (0, stop) }
      match s.dropWhile fun c => c != '=' && c != '[' with
      | '[' :: rest => l.withSpan? (stop + 1) rest
      | rest => l.withLevel? stop rest
    else none

def part? (s : List Char) : Option (Nat × Nat) → Option (Option (List Char))
  | none => some none
  | some (start, stop) => (slice? s start stop).map some

def threshold? : List Char → Option Threshold
  | [] => some (some .trace)
  | level => Threshold.ofChars? level

/-- Reads a directive. The places of its parts are found without the blanks around it, but the parts
are taken from these places of the whole text. A single word is a level if it can be one. -/
def ofChars? (s : List Char) : Option Directive := do
  let layout ← Layout.ofChars? (trim s)
  match layout.span, layout.level, Threshold.ofChars? s with
  | none, none, some threshold => some { threshold }
  | none, none, none => some { target := some (String.ofList s), threshold := some .trace }
  | _, level, _ =>
    let target ← part? s layout.target
    let span ← part? s layout.span
    let field ← match ← part? s layout.field with
      | none => some none
      | some field => (SpanField.ofChars? field).map some
    let threshold ← match level with
      | none => some (some .trace)
      | some start => (dropBytes? start s).bind threshold?
    some
      { target := target.map String.ofList, span := span.map String.ofList, field, threshold }

end Directive

namespace Filter

/-- What stands between the commas. -/
def parts : List Char → List (List Char)
  | [] => [[]]
  | ',' :: rest => [] :: parts rest
  | c :: rest =>
    match parts rest with
    | [] => [[c]]
    | first :: others => (c :: first) :: others

def parse? (s : String) : Option (List Directive) :=
  ((parts s.toList).filter fun part => !part.isEmpty).mapM Directive.ofChars?

end Filter

/-- A stand-in for the log library, with which the program can be run. It refuses every filter with
the same text. -/
def logLibrary (invalid taken : String) : LogLibrary (List Directive) where
  readFilter s := (Filter.parse? s).elim (.error invalid) .ok
  taken

end SwitchSession.External
