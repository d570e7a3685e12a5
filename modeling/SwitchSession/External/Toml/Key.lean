import SwitchSession.External.Toml.Text

namespace SwitchSession.External.Toml

/-- Deeper nesting of values, and longer dotted keys, are refused. -/
def depthLimit : Nat := 80

def isBareKeyChar (c : Char) : Bool :=
  c.isAlphanum || c == '-' || c == '_'

def simpleKey : Reader String := fun s =>
  match s with
  | '"' :: rest => quoted .basic rest
  | '\'' :: rest => quoted .literal rest
  | _ =>
    let name := s.takeWhile isBareKeyChar
    if name.isEmpty then none else some (String.ofList name, s.dropWhile isBareKeyChar)

def keyParts : Nat → Reader (List String)
  | 0, _ => none
  | parts + 1, s =>
    match simpleKey (skipBlanks s) with
    | none => none
    | some (name, rest) =>
      match skipBlanks rest with
      | '.' :: rest => (keyParts parts rest).map fun (names, rest) => (name :: names, rest)
      | rest => some ([name], rest)

def dottedKey : Reader (List String × String) := fun s =>
  match keyParts (depthLimit - 1) s with
  | none => none
  | some (names, rest) =>
    match names.getLast? with
    | none => none
    | some last => some ((names.dropLast, last), rest)

end SwitchSession.External.Toml
