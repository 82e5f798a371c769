set_option autoImplicit false

namespace GroupRunner

inductive Json
  | number (n : Int)
  | text (s : String)
  | array (items : List Json)
  | object (fields : List (String × Json))

namespace Json

def escape (c : Char) : List Char :=
  if c = '"' then ['\\', '"']
  else if c = '\\' then ['\\', '\\']
  else if c = '\x08' then ['\\', 'b']
  else if c = '\x0c' then ['\\', 'f']
  else if c = '\n' then ['\\', 'n']
  else if c = '\r' then ['\\', 'r']
  else if c = '\t' then ['\\', 't']
  else if c.toNat < 0x20 then
    ['\\', 'u', '0', '0', Nat.digitChar (c.toNat / 16), Nat.digitChar (c.toNat % 16)]
  else [c]

def writeText (s : String) : List Char :=
  '"' :: s.toList.flatMap escape ++ ['"']

def writeNumber : Int → List Char
  | .ofNat n => Nat.toDigits 10 n
  | .negSucc n => '-' :: Nat.toDigits 10 (n + 1)

structure Layout where
  gap : Nat → List Char
  colon : List Char

namespace Layout

def pretty : Layout :=
  { gap := fun depth => '\n' :: List.replicate (2 * depth) ' ', colon := [':', ' '] }

end Layout

mutual

def write (layout : Layout) (depth : Nat) : Json → List Char
  | .number n => writeNumber n
  | .text s => writeText s
  | .array [] => ['[', ']']
  | .array (item :: items) =>
    '[' :: layout.gap (depth + 1) ++ write layout (depth + 1) item ++
      writeItems layout (depth + 1) items ++ layout.gap depth ++ [']']
  | .object [] => ['\x7b', '\x7d']
  | .object ((name, value) :: fields) =>
    '\x7b' :: layout.gap (depth + 1) ++ writeText name ++ layout.colon ++
      write layout (depth + 1) value ++ writeFields layout (depth + 1) fields ++
      layout.gap depth ++ ['\x7d']

def writeItems (layout : Layout) (depth : Nat) : List Json → List Char
  | [] => []
  | item :: items =>
    ',' :: layout.gap depth ++ write layout depth item ++ writeItems layout depth items

def writeFields (layout : Layout) (depth : Nat) : List (String × Json) → List Char
  | [] => []
  | (name, value) :: fields =>
    ',' :: layout.gap depth ++ writeText name ++ layout.colon ++ write layout depth value ++
      writeFields layout depth fields

end

def pretty (json : Json) : String := String.ofList (write .pretty 0 json)

def texts (items : List String) : Json := .array (items.map .text)

def nat (n : Nat) : Json := .number n

end Json

end GroupRunner
