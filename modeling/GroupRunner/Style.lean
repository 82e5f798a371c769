set_option autoImplicit false

namespace GroupRunner

inductive Style
  | plain
  | color
  deriving DecidableEq, Repr

inductive Tint
  | success
  | failure
  | warning
  deriving DecidableEq, Repr

namespace Tint

def opening : Tint → List Char
  | .success => ['\x1b', '[', '1', ';', '3', '2', 'm']
  | .failure => ['\x1b', '[', '1', ';', '3', '1', 'm']
  | .warning => ['\x1b', '[', '3', '3', 'm']

def reset : List Char := ['\x1b', '[', '0', 'm']

def reopen (tint : Tint) : List Char → List Char
  | '\x1b' :: '[' :: '0' :: 'm' :: rest => reset ++ tint.opening ++ tint.reopen rest
  | c :: rest => c :: tint.reopen rest
  | [] => []

def paint (tint : Tint) (text : List Char) : List Char :=
  tint.opening ++ tint.reopen text ++ reset

end Tint

namespace Style

def paint (style : Style) (tint : Tint) (text : String) : String :=
  match style with
  | .plain => text
  | .color => String.ofList (tint.paint text.toList)

def success (style : Style) : String → String := style.paint .success
def failure (style : Style) : String → String := style.paint .failure
def warning (style : Style) : String → String := style.paint .warning

end Style

-- The colours of a table's cells. How a terminal shows them is not the program's to say.
inductive Hue
  | yellow
  | green
  | red
  | magenta
  | dim
  deriving DecidableEq, Repr

structure Terminal where
  present : Bool := false
  paint : Hue → String → String := fun _ text => text

namespace Terminal

def style (terminal : Terminal) (noColor : Bool) : Style :=
  if noColor || !terminal.present then .plain else .color

-- A table is painted wherever there is a terminal, whatever the style of the report.
def paintCell (terminal : Terminal) (hue : Hue) (text : String) : String :=
  if terminal.present then terminal.paint hue text else text

end Terminal

end GroupRunner
