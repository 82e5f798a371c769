import GroupRunner.Text.Blank

set_option autoImplicit false

namespace GroupRunner.Log.Pattern

structure Flags where
  foldCase : Bool := false
  unicode : Bool := true
  -- Blanks, and what stands between a number sign and the end of its line, mean nothing.
  spaced : Bool := false
  deriving DecidableEq, Repr

def dropBlanks (inComment : Bool) : List Char → List Char
  | [] => []
  | c :: rest =>
    if inComment then dropBlanks (c != '\n') rest
    else if Text.isBlank c then dropBlanks false rest
    else if c = '#' then dropBlanks true rest
    else c :: rest

namespace Flags

def allowsLetters (flags : Flags) : Bool :=
  !(flags.unicode && flags.foldCase)

def set (flags : Flags) (on : Bool) (letter : Char) : Flags :=
  match letter with
  | 'i' => { flags with foldCase := on }
  | 'u' => { flags with unicode := on }
  | 'x' => { flags with spaced := on }
  | _ => flags

def change (flags : Flags) (letters : List Char) : Flags :=
  let on := letters.takeWhile (· != '-')
  (letters.drop on.length).foldl (·.set false) (on.foldl (·.set true) flags)

def skip (flags : Flags) (chars : List Char) : List Char :=
  if flags.spaced then dropBlanks false chars else chars

def peek (flags : Flags) (chars : List Char) : Option Char :=
  if flags.spaced then
    match chars.dropWhile Text.isBlank with
    | '#' :: rest => (rest.dropWhile Text.isBlank).head?
    | rest => rest.head?
  else chars.head?

end Flags

def isFlagList (letters : List Char) : Bool :=
  letters.all (fun c => c == '-' || "imsUuRx".toList.contains c) &&
    decide letters.Nodup && letters.getLast? != some '-'

end GroupRunner.Log.Pattern
