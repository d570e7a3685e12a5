import SwitchSession.External.Toml.Text
import SwitchSession.External.Toml.Node

namespace SwitchSession.External.Toml

open Text

/-- The digits that follow a first one, with single underscores between digits left out. -/
def moreDigits (base : Nat) : List Char → List Char × List Char
  | '_' :: c :: rest =>
    if isDigitIn base c then
      let (digits, rest) := moreDigits base rest
      (c :: digits, rest)
    else ([], '_' :: c :: rest)
  | c :: rest =>
    if isDigitIn base c then
      let (digits, rest) := moreDigits base rest
      (c :: digits, rest)
    else ([], c :: rest)
  | [] => ([], [])

def digits (base : Nat) : Reader (List Char)
  | c :: rest =>
    if isDigitIn base c then
      let (digits, rest) := moreDigits base rest
      some (c :: digits, rest)
    else none
  | [] => none

def plainDigits : Reader (List Char)
  | '0' :: rest => some (['0'], rest)
  | s => digits 10 s

def sign : List Char → Bool × List Char
  | '+' :: rest => (false, rest)
  | '-' :: rest => (true, rest)
  | s => (false, s)

/-- The least number that a double rounds to infinity: half a unit above the largest double. -/
def overflowBound : Nat := Nat.pow 2 1024 - Nat.pow 2 970

def overflows (digits : List Char) (exponent : Int) : Bool :=
  let mantissa := ofDigits 10 digits
  let magnitude := ((Nat.toDigits 10 mantissa).length : Int) + exponent
  if mantissa = 0 ∨ magnitude < 309 then false
  else if 309 < magnitude then true
  else
    match exponent with
    | .ofNat e => decide (overflowBound ≤ mantissa * Nat.pow 10 e)
    | .negSucc e => decide (overflowBound * Nat.pow 10 (e + 1) ≤ mantissa)

def exponent : Reader Int
  | c :: rest =>
    if c == 'e' || c == 'E' then
      let (negative, rest) := sign rest
      (digits 10 rest).map fun (ds, rest) =>
        let size : Int := ofDigits 10 ds
        (if negative then -size else size, rest)
    else some (0, c :: rest)
  | [] => some (0, [])

def fraction : Reader (List Char)
  | '.' :: rest => digits 10 rest
  | s => some ([], s)

def inSignedRange (n : Int) : Bool :=
  decide (-9223372036854775808 ≤ n) && decide (n ≤ 9223372036854775807)

def integerOf (n : Int) : Option Node := if inSignedRange n then some (.integer n) else none

def unsigned (negative : Bool) : Reader Node
  | 'i' :: 'n' :: 'f' :: rest => some (.float (if negative then "-inf" else "inf"), rest)
  | 'n' :: 'a' :: 'n' :: rest => some (.float "nan", rest)
  | s =>
    match plainDigits s with
    | none => none
    | some (whole, rest) =>
      match rest with
      | '.' :: _ | 'e' :: _ | 'E' :: _ =>
        match fraction rest with
        | none => none
        | some (part, rest) =>
          match exponent rest with
          | none => none
          | some (e, tail) =>
            if !negative && overflows (whole ++ part) (e - part.length) then none
            else some (.float (String.ofList (s.take (s.length - tail.length))), tail)
      | _ =>
        let size : Int := ofDigits 10 whole
        (integerOf (if negative then -size else size)).map (·, rest)

def inBase (base : Nat) (s : List Char) : Option (Node × List Char) :=
  match digits base s with
  | none => none
  | some (ds, rest) => (integerOf (ofDigits base ds)).map (·, rest)

def number : Reader Node
  | '0' :: 'x' :: rest => inBase 16 rest
  | '0' :: 'o' :: rest => inBase 8 rest
  | '0' :: 'b' :: rest => inBase 2 rest
  | s =>
    let (negative, rest) := sign s
    unsigned negative rest

end SwitchSession.External.Toml
