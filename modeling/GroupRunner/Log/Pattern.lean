import GroupRunner.Log.Pattern.Expression

set_option autoImplicit false

namespace GroupRunner.Log.Pattern

def isNumber (text : List Char) : Bool :=
  let whole := text.takeWhile Char.isDigit
  let rest := text.drop whole.length
  let (fraction, rest) := match rest with
    | '.' :: rest => (rest.takeWhile Char.isDigit, rest.dropWhile Char.isDigit)
    | rest => ([], rest)
  let word := String.ofList (text.map Char.toLower)
  word == "inf" || word == "infinity" || word == "nan" ||
    (!(whole.isEmpty && fraction.isEmpty) && isExponent rest)
where
  isExponent : List Char → Bool
    | [] => true
    | e :: '+' :: digits | e :: '-' :: digits | e :: digits =>
      e.toLower == 'e' && !digits.isEmpty && digits.all Char.isDigit

def isValuePattern (text : String) : Bool :=
  match text.toList with
  | '+' :: number => isNumber number
  | chars => isExpression chars

end GroupRunner.Log.Pattern
