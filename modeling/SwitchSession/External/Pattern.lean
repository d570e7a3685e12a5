import SwitchSession.External.Pattern.Class

namespace SwitchSession.External.Pattern

def nestingLimit : Nat := 250

inductive Piece
  | flags
  | expression (depth : Nat)

def Piece.depth : Piece → Nat
  | .flags => 0
  | .expression depth => depth

/-- The alternatives of a group: the depths of the finished ones, and the pieces of the current one,
last one first. -/
structure Alternatives where
  finished : List Nat := []
  pieces : List Piece := []

namespace Alternatives

def add (a : Alternatives) (piece : Piece) : Alternatives := { a with pieces := piece :: a.pieces }

def current (a : Alternatives) : Nat := jointDepth (a.pieces.map Piece.depth)

def next (a : Alternatives) : Alternatives := { finished := a.current :: a.finished }

def depth (a : Alternatives) : Nat := jointDepth (a.current :: a.finished)

def repeat? (a : Alternatives) : Option Alternatives :=
  match a.pieces with
  | .expression depth :: pieces => some { a with pieces := .expression (depth + 1) :: pieces }
  | _ => none

end Alternatives

inductive Opening
  | flags (mode : Mode)
  | group (mode : Mode) (name : Option (List Char))

def isNameStart (c : Char) : Bool := c == '_' || Text.isAlphabetic c

def isNameChar (c : Char) : Bool :=
  c == '_' || c == '.' || c == '[' || c == ']' || Text.isAlphanumeric c

def groupName (s : List Char) : Option (List Char × List Char) :=
  match s.takeWhile (· != '>'), s.dropWhile (· != '>') with
  | c :: name, '>' :: rest =>
    if isNameStart c && name.all isNameChar then some (c :: name, rest) else none
  | _, _ => none

def opening (m : Mode) (s : List Char) : Option (Opening × List Char) :=
  match m.skip s with
  | '?' :: '=' :: _ | '?' :: '!' :: _ | '?' :: '<' :: '=' :: _ | '?' :: '<' :: '!' :: _ => none
  | '?' :: 'P' :: '<' :: rest | '?' :: '<' :: rest =>
    (groupName rest).map fun (name, rest) => (.group m (some name), rest)
  | '?' :: rest =>
    match flagItems [] rest with
    | none => none
    | some (items, stop, rest) =>
      let mode := m.setAll true items
      if stop == ':' then some (.group mode none, rest)
      else if items.isEmpty then none
      else some (.flags mode, rest)
  | s => some (.group m none, s)

/-- A character is compared as such, and case is ignored in ASCII only. -/
def Mode.allowsLiteral (m : Mode) (c : Char) (asByte : Bool) : Bool :=
  if m.unicode then !m.ignoreCase else !asByte || decide (c < '\x80')

def Primitive.isExpression (m : Mode) : Primitive → Bool
  | .literal c asByte => m.allowsLiteral c asByte
  | .edge => true
  | .wordEdge => !m.unicode
  | .shorthand negated => m.allowsShorthand negated

def skipLazy : List Char → List Char
  | '?' :: rest => rest
  | s => s

/-- Reads a pattern to its end and gives its depth. `around` holds the groups that are open, with the
modes to go back to, and `names` the names of groups so far. Every step takes a character, so `count`
of them are enough. -/
def depth? : Nat → Mode → Alternatives → List (Alternatives × Mode) → List (List Char) →
    List Char → Option Nat
  | 0, _, _, _, _, _ => none
  | count + 1, m, a, around, names, s =>
    match m.skip s with
    | [] => if around.isEmpty then some a.depth else none
    | '(' :: rest =>
      match opening m rest with
      | none => none
      | some (.flags mode, rest) => depth? count mode (a.add .flags) around names rest
      | some (.group mode none, rest) => depth? count mode {} ((a, m) :: around) names rest
      | some (.group mode (some name), rest) =>
        if names.contains name then none
        else depth? count mode {} ((a, m) :: around) (name :: names) rest
    | ')' :: rest =>
      match around with
      | [] => none
      | (outer, mode) :: around =>
        depth? count mode (outer.add (.expression (a.depth + 1))) around names rest
    | '|' :: rest => depth? count m a.next around names rest
    | '[' :: rest =>
      match bracketClass m rest with
      | none => none
      | some (depth, rest) => depth? count m (a.add (.expression depth)) around names rest
    | '?' :: rest | '*' :: rest | '+' :: rest =>
      match a.repeat? with
      | none => none
      | some a => depth? count m a around names (skipLazy rest)
    | '{' :: _ => none
    | '.' :: rest =>
      if m.unicode then depth? count m (a.add (.expression 0)) around names rest else none
    | '^' :: rest | '$' :: rest => depth? count m (a.add (.expression 0)) around names rest
    | '\\' :: rest =>
      match escape m rest with
      | none => none
      | some (primitive, rest) =>
        if primitive.isExpression m then
          depth? count m (a.add (.expression 0)) around names rest
        else none
    | c :: rest =>
      if m.allowsLiteral c false then depth? count m (a.add (.expression 0)) around names rest
      else none

/-- Whether a text is a pattern that needs nothing beyond ASCII where that takes tables of letters,
words or cases. Counted repetition is no part of it: the braces around a field leave no room. -/
def isValid (s : List Char) : Bool :=
  (depth? (s.length + 1) {} {} [] [] s).any fun depth => Nat.ble depth nestingLimit

end SwitchSession.External.Pattern
