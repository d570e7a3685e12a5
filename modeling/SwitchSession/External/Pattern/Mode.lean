import SwitchSession.External.Text.CharacterClass

namespace SwitchSession.External.Pattern

inductive Flag
  | ignoreCase
  | multiLine
  | dotMatchesNewline
  | swapGreed
  | unicode
  | carriageReturns
  | verbose
deriving DecidableEq

def Flag.ofChar? : Char → Option Flag
  | 'i' => some .ignoreCase
  | 'm' => some .multiLine
  | 's' => some .dotMatchesNewline
  | 'U' => some .swapGreed
  | 'u' => some .unicode
  | 'R' => some .carriageReturns
  | 'x' => some .verbose
  | _ => none

structure Mode where
  ignoreCase : Bool := false
  unicode : Bool := true
  verbose : Bool := false

inductive FlagItem
  | flag (flag : Flag)
  | minus
deriving DecidableEq

def FlagItem.ofChar? (c : Char) : Option FlagItem :=
  if c == '-' then some .minus else (Flag.ofChar? c).map .flag

namespace Mode

def set (m : Mode) (value : Bool) : Flag → Mode
  | .ignoreCase => { m with ignoreCase := value }
  | .unicode => { m with unicode := value }
  | .verbose => { m with verbose := value }
  | _ => m

def setAll (value : Bool) : List FlagItem → Mode → Mode
  | [], m => m
  | .flag flag :: rest, m => setAll value rest (m.set value flag)
  | .minus :: rest, m => setAll false rest m

end Mode

/-- Reads flags up to a colon or a closing parenthesis, which comes with the rest. Nothing may be
repeated, and a minus needs flags after it. -/
def flagItems (before : List FlagItem) : List Char → Option (List FlagItem × Char × List Char)
  | [] => none
  | c :: rest =>
    if c == ':' || c == ')' then
      if before.getLast? = some .minus then none else some (before, c, rest)
    else
      match FlagItem.ofChar? c with
      | none => none
      | some item => if item ∈ before then none else flagItems (before ++ [item]) rest

def skipVerbose (inComment : Bool) : List Char → List Char
  | [] => []
  | c :: rest =>
    if inComment then skipVerbose (c != '\n') rest
    else if Text.isWhiteSpace c then skipVerbose false rest
    else if c == '#' then skipVerbose true rest
    else c :: rest

def Mode.skip (m : Mode) (s : List Char) : List Char := if m.verbose then skipVerbose false s else s

def peekVerbose (inComment : Bool) : List Char → Option Char
  | [] => none
  | c :: rest =>
    if Text.isWhiteSpace c then peekVerbose inComment rest
    else if !inComment && c == '#' then peekVerbose true rest
    else some c

def Mode.peek (m : Mode) (s : List Char) : Option Char :=
  if m.verbose then peekVerbose false s <|> s.head? else s.head?

end SwitchSession.External.Pattern
