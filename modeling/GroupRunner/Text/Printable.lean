set_option autoImplicit false

namespace GroupRunner.Text

inductive Escape
  | none
  | begun
  | announced
  | control
  | device
  | deviceParameters
  | deviceAnnounced
  | string
  | command
  deriving DecidableEq, Repr

def isControl (c : Char) : Bool :=
  c.toNat < 0x20 || c.toNat == 0x7F

def isAsciiBlank (c : Char) : Bool :=
  c == ' ' || c == '\t' || c == '\n' || c == '\x0c' || c == '\r'

def inRange (c : Char) (low high : Nat) : Bool :=
  low ≤ c.toNat && c.toNat ≤ high

def hasTerminatorByte (c : Char) : Bool :=
  (String.utf8EncodeChar c).contains 0x9C

namespace Escape

def begin (c : Char) : Escape :=
  if c = '[' then .control
  else if c = ']' then .command
  else if c = 'P' then .device
  else if c = 'X' || c = '^' || c = '_' then .string
  else if inRange c 0x20 0x2F then .announced
  else if inRange c 0x30 0x7E then .none
  else .begun

-- The escape character begins a new sequence, and two control characters cancel any.
def next (c : Char) (state : Escape) : Escape :=
  if c = '\x1b' then .begun
  else if c = '\x18' || c = '\x1a' then .none
  else match state with
    | .none => .none
    | .begun => begin c
    | .announced => if inRange c 0x30 0x7E then .none else .announced
    | .control => if inRange c 0x40 0x7E then .none else .control
    | .device =>
      if inRange c 0x20 0x2F then .deviceAnnounced
      else if inRange c 0x30 0x3F then .deviceParameters
      else if inRange c 0x40 0x7E then .string
      else .device
    | .deviceParameters =>
      if inRange c 0x20 0x2F then .deviceAnnounced
      else if inRange c 0x3C 0x7E then .string
      else .deviceParameters
    | .deviceAnnounced => if inRange c 0x30 0x7E then .string else .deviceAnnounced
    | .string => if hasTerminatorByte c then .none else .string
    | .command => if c = '\x07' then .none else .command

def showsBlanks : Escape → Bool
  | .none | .begun | .announced | .control => true
  | .device | .deviceParameters | .deviceAnnounced | .string | .command => false

end Escape

def printableFrom : Escape → List Char → List Char
  | _, [] => []
  | state, c :: rest =>
    if isControl c then
      if isAsciiBlank c && state.showsBlanks then c :: printableFrom .none rest
      else printableFrom (state.next c) rest
    else if state = .none then c :: printableFrom .none rest
    else printableFrom (state.next c) rest

def printable (text : String) : String :=
  String.ofList (printableFrom .none text.toList)

end GroupRunner.Text
