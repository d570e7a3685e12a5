import SwitchSession.External.Pattern.Mode
import SwitchSession.External.Text.Digits

namespace SwitchSession.External.Pattern

inductive Primitive
  /-- A character; `asByte` says that it is written as two hexadecimal digits. -/
  | literal (char : Char) (asByte : Bool)
  | edge
  /-- The start or the end of a word, or no such place. -/
  | wordEdge
  | shorthand (negated : Bool)

def hexDigits (m : Mode) : Nat → List Char → Option (List Char × List Char)
  | 0, s => some ([], m.skip s)
  | count + 1, s =>
    match m.skip s with
    | [] => none
    | c :: rest =>
      if Text.isDigitIn 16 c then
        (hexDigits m count rest).map fun (digits, rest) => (c :: digits, rest)
      else none

def hexLiteral (m : Mode) (count : Nat) (s : List Char) : Option (Primitive × List Char) :=
  match hexDigits m count s with
  | none => none
  | some (digits, rest) =>
    (Text.scalar? (Text.ofDigits 16 digits)).map fun c =>
      (.literal c (decide (count = 2)), rest)

def isEscapable (c : Char) : Bool :=
  decide (c < '\x80') && !c.isAlphanum && c != '<' && c != '>'

def escape (m : Mode) : List Char → Option (Primitive × List Char)
  | [] => none
  | c :: rest =>
    match c with
    | 'x' => hexLiteral m 2 rest
    | 'u' => hexLiteral m 4 rest
    | 'U' => hexLiteral m 8 rest
    | 'd' | 's' | 'w' => some (.shorthand false, rest)
    | 'D' | 'S' | 'W' => some (.shorthand true, rest)
    | 'a' => some (.literal '\x07' false, rest)
    | 'f' => some (.literal '\x0c' false, rest)
    | 't' => some (.literal '\t' false, rest)
    | 'n' => some (.literal '\n' false, rest)
    | 'r' => some (.literal '\r' false, rest)
    | 'v' => some (.literal '\x0b' false, rest)
    | 'A' | 'z' => some (.edge, rest)
    | 'b' | 'B' | '<' | '>' => some (.wordEdge, rest)
    | c => if isEscapable c then some (.literal c false, rest) else none

/-- Shorthands know ASCII only, and patterns match no single bytes beyond it. -/
def Mode.allowsShorthand (m : Mode) (negated : Bool) : Bool := !m.unicode && !negated

end SwitchSession.External.Pattern
