import SwitchSession.External.Pattern

namespace SwitchSession.External

structure SpanField where
  name : String
  value : Option String
deriving DecidableEq

namespace SpanField

def unsigned (s : List Char) : List Char :=
  match s with
  | '+' :: rest | '-' :: rest => rest
  | s => s

def isExponent : List Char → Bool
  | [] => true
  | c :: rest =>
    let digits := unsigned rest
    (c == 'e' || c == 'E') && !digits.isEmpty && digits.all (Text.isDigitIn 10)

/-- Decimal numbers with or without point and exponent, infinity, and what is no number. -/
def isNumber (s : List Char) : Bool :=
  let s := unsigned s
  let whole := s.takeWhile (Text.isDigitIn 10)
  let isDecimal := match s.dropWhile (Text.isDigitIn 10) with
    | '.' :: rest =>
      !(whole.isEmpty && (rest.takeWhile (Text.isDigitIn 10)).isEmpty) &&
        isExponent (rest.dropWhile (Text.isDigitIn 10))
    | rest => !whole.isEmpty && isExponent rest
  let word := String.ofList (s.map Char.toLower)
  isDecimal || word == "inf" || word == "infinity" || word == "nan"

def ofChars? (s : List Char) : Option SpanField :=
  let name := String.ofList (s.takeWhile (· != '='))
  match s.dropWhile (· != '=') with
  | [] => if s.isEmpty then none else some { name, value := none }
  | _ :: rest =>
    let value := rest.takeWhile (· != '=')
    if isNumber value || Pattern.isValid value then
      some { name, value := some (String.ofList value) }
    else none

end SpanField

end SwitchSession.External
