import SwitchSession.External.Pattern.Escape

namespace SwitchSession.External.Pattern

/-- How deep a sequence or a set of alternatives nests; one of several members nests deeper. -/
def jointDepth : List Nat → Nat
  | [] => 0
  | [depth] => depth
  | depths => depths.foldr max 0 + 1

/-- What has been read of one class: what is left of the last operator, and the members after it, by
the depth to which they nest. -/
structure ClassBody where
  left : Option Nat := none
  members : List Nat := []

namespace ClassBody

def add (b : ClassBody) (depth : Nat) : ClassBody := { b with members := depth :: b.members }

def depth (b : ClassBody) : Nat :=
  match b.left with
  | none => jointDepth b.members
  | some left => max left (jointDepth b.members) + 1

def operator (b : ClassBody) : ClassBody := { left := some b.depth }

end ClassBody

/-- Case is not ignored in classes; a class of bytes has ASCII members only. -/
def Mode.allowsMember (m : Mode) (c : Char) : Bool :=
  if m.unicode then !m.ignoreCase else decide (c < '\x80')

def classPrimitive (m : Mode) : List Char → Option (Primitive × List Char)
  | [] => none
  | '\\' :: rest => escape m rest
  | c :: rest => some (.literal c false, rest)

def Primitive.isMember (m : Mode) : Primitive → Bool
  | .literal c _ => m.allowsMember c
  | .shorthand negated => m.allowsShorthand negated
  | _ => false

def classRange (m : Mode) (s : List Char) : Option (List Char) :=
  match classPrimitive m s with
  | none => none
  | some (first, rest) =>
    match m.skip rest with
    | [] => none
    | '-' :: rest =>
      if m.peek rest = some ']' ∨ m.peek rest = some '-' then
        if first.isMember m then some ('-' :: rest) else none
      else
        match first, classPrimitive m (m.skip rest) with
        | .literal a _, some (.literal b _, rest) =>
          if a ≤ b && m.allowsMember a && m.allowsMember b then some rest else none
        | _, _ => none
    | rest => if first.isMember m then some rest else none

def namedClasses : List String :=
  ["alnum", "alpha", "ascii", "blank", "cntrl", "digit", "graph", "lower", "print", "punct",
    "space", "upper", "word", "xdigit"]

def namedClass? (s : List Char) : Option (Bool × List Char) :=
  let named (negated : Bool) (s : List Char) : Option (Bool × List Char) :=
    match s.dropWhile (· != ':') with
    | ':' :: ']' :: rest =>
      if namedClasses.contains (String.ofList (s.takeWhile (· != ':'))) then some (negated, rest)
      else none
    | _ => none
  match s with
  | ':' :: '^' :: rest => named true rest
  | ':' :: rest => named false rest
  | _ => none

def Mode.allowsNamed (m : Mode) (negated : Bool) : Bool :=
  if m.unicode then !m.ignoreCase else !negated

def leadingDashes (m : Mode) : Nat → ClassBody → List Char → Option (ClassBody × List Char)
  | 0, _, _ => none
  | count + 1, body, s =>
    match s with
    | '-' :: rest =>
      if m.allowsMember '-' then leadingDashes m count (body.add 0) (m.skip rest) else none
    | s => some (body, s)

/-- Reads the start of a class after its bracket: a caret that negates, dashes, or a closing bracket
that is a member because it comes first. -/
def classStart (m : Mode) (s : List Char) : Option (ClassBody × List Char) :=
  let members (s : List Char) : Option (ClassBody × List Char) :=
    match leadingDashes m (s.length + 1) {} s with
    | some (⟨none, []⟩, ']' :: rest) =>
      if m.allowsMember ']' then some (({} : ClassBody).add 0, m.skip rest) else none
    | result => result
  match m.skip s with
  | '^' :: rest => if m.unicode then members (m.skip rest) else none
  | s => members s

/-- Reads a class up to its closing bracket; `around` are the classes that are open around it. Every
step takes a character, so `count` of them are enough. The result has the depth of the class. -/
def classRest (m : Mode) : Nat → ClassBody → List ClassBody → List Char → Option (Nat × List Char)
  | 0, _, _, _ => none
  | count + 1, body, around, s =>
    match m.skip s with
    | [] => none
    | ']' :: rest =>
      match around with
      | [] => some (body.depth + 1, rest)
      | outer :: around => classRest m count (outer.add (body.depth + 1)) around rest
    | '[' :: rest =>
      match namedClass? rest with
      | some (negated, rest) =>
        if m.allowsNamed negated then classRest m count (body.add 0) around rest else none
      | none =>
        match classStart m rest with
        | none => none
        | some (inner, rest) => classRest m count inner (body :: around) rest
    | '&' :: '&' :: rest | '-' :: '-' :: rest | '~' :: '~' :: rest =>
      classRest m count body.operator around rest
    | s =>
      match classRange m s with
      | none => none
      | some rest => classRest m count (body.add 0) around rest

def bracketClass (m : Mode) (s : List Char) : Option (Nat × List Char) :=
  match classStart m s with
  | none => none
  | some (body, rest) => classRest m (rest.length + 1) body [] rest

end SwitchSession.External.Pattern
