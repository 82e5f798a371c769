import GroupRunner.Text.Utf8

set_option autoImplicit false

namespace GroupRunner.Programs.Shell

inductive Parameter
  | name
  | joined
  | each
  | process
  | directory
  deriving DecidableEq, Repr

inductive Letter
  | byte (b : UInt8)
  | parameter (p : Parameter)
  deriving DecidableEq, Repr

abbrev Word := List Letter

inductive Destination
  | stdout
  | stderr
  | file (name : Word)
  deriving DecidableEq, Repr

structure Command where
  words : List Word
  destination : Destination := .stdout
  line : Nat := 1
  deriving DecidableEq, Repr

abbrev Script := List Command

namespace Word

def ofBytes (bytes : Bytes) : Word := bytes.map .byte

def ofString (text : String) : Word := ofBytes (Utf8.encode text)

end Word

def Parameter.text : Parameter → String
  | .name => "0"
  | .joined => "*"
  | .each => "@"
  | .process => "$"
  | .directory => "\x7bPWD##*/\x7d"

end GroupRunner.Programs.Shell
