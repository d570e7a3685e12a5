import SwitchSession.External.Toml.Number

namespace SwitchSession.External.Toml

open Text

def fixedDigits (count : Nat) : Reader Nat := fun s =>
  let ds := s.take count
  if ds.length = count ∧ ds.all (isDigitIn 10) then some (ofDigits 10 ds, s.drop count) else none

def field (low high : Nat) : Reader Unit := fun s =>
  match fixedDigits 2 s with
  | some (n, rest) => if low ≤ n ∧ n ≤ high then some ((), rest) else none
  | none => none

def mark (c : Char) : Reader Unit
  | d :: rest => if d == c then some ((), rest) else none
  | [] => none

def isLeap (year : Nat) : Bool := year % 4 == 0 && (year % 100 != 0 || year % 400 == 0)

def daysIn (year month : Nat) : Nat :=
  if month = 2 then if isLeap year then 29 else 28
  else if month = 4 ∨ month = 6 ∨ month = 9 ∨ month = 11 then 30
  else 31

def date? (s : List Char) : Option (List Char) := do
  let (year, s) ← fixedDigits 4 s
  let (_, s) ← mark '-' s
  let (month, s) ← fixedDigits 2 s
  let (_, s) ← mark '-' s
  let (day, s) ← fixedDigits 2 s
  if 1 ≤ month ∧ month ≤ 12 ∧ 1 ≤ day ∧ day ≤ daysIn year month then some s else none

def skipFraction : List Char → List Char
  | '.' :: c :: rest =>
    if isDigitIn 10 c then rest.dropWhile (isDigitIn 10) else '.' :: c :: rest
  | s => s

def time? (s : List Char) : Option (List Char) := do
  let (_, s) ← field 0 23 s
  let (_, s) ← mark ':' s
  let (_, s) ← field 0 59 s
  let (_, s) ← mark ':' s
  let (_, s) ← field 0 60 s
  some (skipFraction s)

def offset? (s : List Char) : Option (List Char) :=
  match s with
  | 'Z' :: rest | 'z' :: rest => some rest
  | '+' :: rest | '-' :: rest => do
    let (_, s) ← field 0 23 rest
    let (_, s) ← mark ':' s
    let (_, s) ← field 0 59 s
    some s
  | _ => none

def timeOfDay (s : List Char) : List Char :=
  match s with
  | c :: rest =>
    if c == 'T' || c == 't' || c == ' ' then
      match time? rest with
      | some rest => (offset? rest).getD rest
      | none => s
    else s
  | [] => []

/-- Whether a number-like text is a date or a time, which shows at its first mark. -/
def looksLikeMoment : List Char → Bool
  | _ :: _ :: ':' :: _ => true
  | _ :: _ :: _ :: _ :: '-' :: _ => true
  | _ => false

def moment : Reader Node := fun s =>
  let rest? := match date? s with
    | some rest => some (timeOfDay rest)
    | none => time? s
  rest?.map fun rest => (.datetime (String.ofList (s.take (s.length - rest.length))), rest)

end SwitchSession.External.Toml
