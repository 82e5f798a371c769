import GroupRunner.Log.Pattern.Escape

set_option autoImplicit false

namespace GroupRunner.Log.Pattern

def nesting : List Nat → Nat
  | [] => 0
  | [depth] => depth
  | depths => depths.foldl max 0 + 1

structure OpenClass where
  fresh : Bool := true
  left : Option Nat := none
  members : List Nat := []
  deriving DecidableEq, Repr

namespace OpenClass

def depth (opened : OpenClass) : Nat :=
  match opened.left with
  | none => nesting opened.members
  | some left => max left (nesting opened.members) + 1

def add (opened : OpenClass) (depth : Nat) : OpenClass :=
  { opened with fresh := false, members := depth :: opened.members }

def addDash (opened : OpenClass) : OpenClass :=
  { opened with members := 0 :: opened.members }

def operate (opened : OpenClass) : OpenClass :=
  { fresh := false, left := some opened.depth }

end OpenClass

def classNames : List String :=
  ["alnum", "alpha", "ascii", "blank", "cntrl", "digit", "graph", "lower", "print", "punct",
    "space", "upper", "word", "xdigit"]

def namedClass? : List Char → Option (Bool × List Char)
  | ':' :: rest =>
    let (negated, rest) := match rest with
      | '^' :: rest => (true, rest)
      | rest => (false, rest)
    let name := rest.takeWhile (· != ':')
    match rest.drop name.length with
    | ':' :: ']' :: rest =>
      if classNames.contains (String.ofList name) then some (negated, rest) else none
    | _ => none
  | _ => none

def Flags.allowsNegation (flags : Flags) (negated : Bool) : Bool :=
  flags.unicode || !negated

def openClass? (flags : Flags) (chars : List Char) : Option (List Char) :=
  match flags.skip chars with
  | '^' :: rest => if flags.allowsNegation true then some rest else none
  | rest => some rest

def Flags.allowsMember (flags : Flags) (code : Nat) : Bool :=
  flags.allowsLetters && (flags.unicode || code < 0x80)

def single? (flags : Flags) : List Char → Option (Option Nat × List Char)
  | [] => none
  | '\\' :: rest =>
    match Escaped.read? flags rest with
    | some (.literal code _, rest) =>
      if flags.allowsMember code then some (some code, rest) else none
    | some (.charClass negated, rest) =>
      if flags.allows (.charClass negated) then some (none, rest) else none
    | _ => none
  | c :: rest => if flags.allowsMember c.toNat then some (some c.toNat, rest) else none

def member? (flags : Flags) (chars : List Char) : Option (List Char) :=
  match single? flags chars with
  | none => none
  | some (first, rest) =>
    match flags.skip rest with
    | '-' :: rest =>
      if flags.peek rest = some ']' || flags.peek rest = some '-' then some ('-' :: rest)
      else match first, single? flags (flags.skip rest) with
        | some low, some (some high, rest) => if low ≤ high then some rest else none
        | _, _ => none
    | rest => some rest

def isOperator (c : Char) : Bool := c == '&' || c == '-' || c == '~'

-- Reads up to the bracket that closes the outermost class. Every step takes a character.
def readClass (flags : Flags) :
    Nat → OpenClass → List OpenClass → List Char → Option (Nat × List Char)
  | 0, _, _, _ => none
  | steps + 1, opened, outer, chars =>
    match flags.skip chars with
    | [] => none
    | c :: rest =>
      if opened.fresh && c = '-' then
        if flags.allowsLetters then readClass flags steps opened.addDash outer rest else none
      else if opened.fresh && c = ']' && opened.members.isEmpty then
        if flags.allowsLetters then readClass flags steps (opened.add 0) outer rest else none
      else if c = '[' then
        match namedClass? rest with
        | some (negated, rest) =>
          if flags.allowsLetters && flags.allowsNegation negated then
            readClass flags steps (opened.add 0) outer rest
          else none
        | none =>
          match openClass? flags rest with
          | none => none
          | some rest => readClass flags steps {} (opened :: outer) rest
      else if c = ']' then
        match outer with
        | [] => some (opened.depth + 1, rest)
        | enclosing :: outer => readClass flags steps (enclosing.add (opened.depth + 1)) outer rest
      else if isOperator c && rest.head? = some c then
        readClass flags steps opened.operate outer rest.tail
      else
        match member? flags (c :: rest) with
        | none => none
        | some rest => readClass flags steps (opened.add 0) outer rest

def charClass? (flags : Flags) (chars : List Char) : Option (Nat × List Char) :=
  match openClass? flags chars with
  | none => none
  | some rest => readClass flags (rest.length + 1) {} [] rest

end GroupRunner.Log.Pattern
