import SwitchSession.External.Text.Digits

namespace SwitchSession.External.Toml

open Text

/-- A reader takes what it knows from the front of the input and returns it with the rest. -/
abbrev Reader (α : Type) := List Char → Option (α × List Char)

def isBlank (c : Char) : Bool := c == ' ' || c == '\t'

def skipBlanks (s : List Char) : List Char := s.dropWhile isBlank

def isPrintable (c : Char) : Bool := c == '\t' || (decide (' ' ≤ c) && c != '\x7f')

def newline? : List Char → Option (List Char)
  | '\n' :: rest => some rest
  | '\r' :: '\n' :: rest => some rest
  | _ => none

def skipComment : List Char → List Char
  | '#' :: rest => rest.dropWhile isPrintable
  | s => s

def endLine? (s : List Char) : Option (List Char) :=
  match skipComment (skipBlanks s) with
  | [] => some []
  | rest => newline? rest

/-- Skips blanks, line ends and, unless `inComment` says that one has begun, comments. -/
def skipSpace (inComment : Bool) : List Char → List Char
  | '\n' :: rest => skipSpace false rest
  | '\r' :: '\n' :: rest => skipSpace false rest
  | c :: rest =>
    if inComment then if isPrintable c then skipSpace true rest else c :: rest
    else if isBlank c then skipSpace false rest
    else if c == '#' then skipSpace true rest
    else c :: rest
  | [] => []

def skipLayout : List Char → List Char
  | '\n' :: rest => skipLayout rest
  | '\r' :: '\n' :: rest => skipLayout rest
  | c :: rest => if isBlank c then skipLayout rest else c :: rest
  | [] => []

def hexScalar? (count : Nat) (s : List Char) : Option (Char × Nat) :=
  let digits := s.take count
  if digits.length = count ∧ digits.all (isDigitIn 16) then
    (scalar? (ofDigits 16 digits)).map (·, count + 1)
  else none

def escape? : List Char → Option (Char × Nat)
  | 'b' :: _ => some ('\x08', 1)
  | 't' :: _ => some ('\t', 1)
  | 'n' :: _ => some ('\n', 1)
  | 'f' :: _ => some ('\x0c', 1)
  | 'r' :: _ => some ('\r', 1)
  | '"' :: _ => some ('"', 1)
  | '\\' :: _ => some ('\\', 1)
  | 'u' :: rest => hexScalar? 4 rest
  | 'U' :: rest => hexScalar? 8 rest
  | _ => none

structure Quotes where
  mark : Char
  escapes : Bool

def Quotes.basic : Quotes := ⟨'"', true⟩

def Quotes.literal : Quotes := ⟨'\'', false⟩

/-- The string up to the closing mark, on one line; the first `skip` characters are done with. -/
def lineString (q : Quotes) (skip : Nat) : Reader (List Char)
  | [] => none
  | c :: rest =>
    match skip with
    | skip + 1 => lineString q skip rest
    | 0 =>
      if c == q.mark then some ([], rest)
      else if q.escapes && c == '\\' then
        match escape? rest with
        | none => none
        | some (x, length) => (lineString q length rest).map fun (xs, rest) => (x :: xs, rest)
      else if isPrintable c then (lineString q 0 rest).map fun (xs, rest) => (c :: xs, rest)
      else none

def continuation? (s : List Char) : Option Nat :=
  match newline? (skipBlanks s) with
  | none => none
  | some rest => some (s.length - (skipLayout rest).length)

/-- The string up to three closing marks, over any number of lines. Up to two marks right before the
closing ones belong to the string. -/
def blockString (q : Quotes) (skip : Nat) : Reader (List Char)
  | [] => none
  | c :: rest =>
    match skip with
    | skip + 1 => blockString q skip rest
    | 0 =>
      if c == q.mark then
        let run := min 5 ((c :: rest).takeWhile (· == q.mark)).length
        if run < 3 then (blockString q 0 rest).map fun (xs, rest) => (c :: xs, rest)
        else some (List.replicate (run - 3) c, rest.drop (run - 1))
      else if q.escapes && c == '\\' then
        match continuation? rest with
        | some length => blockString q length rest
        | none =>
          match escape? rest with
          | none => none
          | some (x, length) => (blockString q length rest).map fun (xs, rest) => (x :: xs, rest)
      else if isPrintable c || c == '\n' || (newline? (c :: rest)).isSome then
        (blockString q 0 rest).map fun (xs, rest) => (c :: xs, rest)
      else none

def quoted (q : Quotes) : Reader String := fun s =>
  (lineString q 0 s).map fun (xs, rest) => (String.ofList xs, rest)

def string (q : Quotes) : Reader String := fun s =>
  match s with
  | a :: b :: c :: rest =>
    if a == q.mark && b == q.mark && c == q.mark then
      (blockString q 0 ((newline? rest).getD rest)).map fun (xs, rest) => (String.ofList xs, rest)
    else if a == q.mark then quoted q (b :: c :: rest)
    else none
  | a :: rest => if a == q.mark then quoted q rest else none
  | [] => none

end SwitchSession.External.Toml
