import GroupRunner.Log.Pattern.Flags

set_option autoImplicit false

namespace GroupRunner.Log.Pattern

inductive Escaped
  | literal (code : Nat) (byTwoDigits : Bool)
  | charClass (negated : Bool)
  | textEdge
  | wordEdge
  deriving DecidableEq, Repr

def hexDigit? (c : Char) : Option Nat :=
  if c.isDigit then some (c.toNat - '0'.toNat)
  else if 'a' ≤ c.toLower && c.toLower ≤ 'f' then some (c.toLower.toNat - 'a'.toNat + 10)
  else none

def hexNumber? (flags : Flags) : Nat → Nat → List Char → Option (Nat × List Char)
  | 0, number, chars => some (number, chars)
  | digits + 1, number, chars =>
    match flags.skip chars with
    | [] => none
    | c :: rest =>
      match hexDigit? c with
      | none => none
      | some digit => hexNumber? flags digits (16 * number + digit) rest

namespace Escaped

def byNumber? (flags : Flags) (digits : Nat) (chars : List Char) : Option (Escaped × List Char) :=
  match hexNumber? flags digits 0 chars with
  | none => none
  | some (code, rest) => if code.isValidChar then some (.literal code (digits = 2), rest) else none

def ofChar? (c : Char) : Option Escaped :=
  match c with
  | 'd' | 's' | 'w' => some (.charClass false)
  | 'D' | 'S' | 'W' => some (.charClass true)
  | 'A' | 'z' => some .textEdge
  | 'b' | 'B' | '<' | '>' => some .wordEdge
  | 'a' => some (.literal 0x07 false)
  | 'f' => some (.literal 0x0C false)
  | 't' => some (.literal 0x09 false)
  | 'n' => some (.literal 0x0A false)
  | 'r' => some (.literal 0x0D false)
  | 'v' => some (.literal 0x0B false)
  | c => if c.toNat < 0x80 && !c.isAlphanum then some (.literal c.toNat false) else none

def read? (flags : Flags) : List Char → Option (Escaped × List Char)
  | [] => none
  | 'x' :: rest => byNumber? flags 2 rest
  | 'u' :: rest => byNumber? flags 4 rest
  | 'U' :: rest => byNumber? flags 8 rest
  | c :: rest => (ofChar? c).map (·, rest)

end Escaped

def Flags.allows (flags : Flags) : Escaped → Bool
  | .literal code byTwoDigits =>
    flags.allowsLetters && (flags.unicode || !byTwoDigits || code < 0x80)
  | .charClass negated => !flags.unicode && !negated
  | .textEdge => true
  | .wordEdge => !flags.unicode

end GroupRunner.Log.Pattern
