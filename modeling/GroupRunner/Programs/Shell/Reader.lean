import GroupRunner.Programs.Shell.Syntax

set_option autoImplicit false

namespace GroupRunner.Programs.Shell

structure Reader where
  quote : Option UInt8 := none
  escaped : Bool := false
  comment : Bool := false
  -- After `$`, with the bytes of a name in braces so far.
  parameter : Option Bytes := none
  redirecting : Bool := false
  word : Option Word := none
  words : List Word := []
  destination : Destination := .stdout
  commands : Script := []
  line : Nat := 1
  begun : Option Nat := none

def code (c : Char) : UInt8 := c.toNat.toUInt8

namespace Reader

def add (r : Reader) (letter : Letter) : Reader :=
  { r with word := some (letter :: r.word.getD []), begun := some (r.begun.getD r.line) }

def endWord (r : Reader) : Reader :=
  match r.word with
  | none => r
  | some letters =>
    let word := letters.reverse
    if r.redirecting then
      { r with
        word := none, redirecting := false
        destination := if word = Word.ofString "&2" then .stderr else .file word }
    else { r with word := none, words := word :: r.words }

def endCommand (r : Reader) : Reader :=
  let r := r.endWord
  { commands := ⟨r.words.reverse, r.destination, r.begun.getD r.line⟩ :: r.commands
    line := r.line }

def openQuote (r : Reader) (mark : UInt8) : Reader :=
  { r with quote := some mark, word := some (r.word.getD []), begun := some (r.begun.getD r.line) }

def bare (r : Reader) (b : UInt8) : Reader :=
  if b = code ' ' || b = code '\t' then r.endWord
  else if b = code '\n' || b = code ';' then r.endCommand
  else if b = code '>' then { r.endWord with redirecting := true }
  else if b = code '\'' || b = code '"' then r.openQuote b
  else if b = code '\\' then { r with escaped := true }
  else if b = code '$' then { r with parameter := some [] }
  else if b = code '#' && r.word.isNone then { r with comment := true }
  else r.add (.byte b)

def plain (r : Reader) (b : UInt8) : Reader :=
  if r.comment then if b = code '\n' then r.endCommand else r
  else if r.escaped then { r with escaped := false }.add (.byte b)
  else match r.quote with
    | none => r.bare b
    | some mark =>
      if b = mark then { r with quote := none }
      else if mark = code '\'' then r.add (.byte b)
      else if b = code '\\' then { r with escaped := true }
      else if b = code '$' then { r with parameter := some [] }
      else r.add (.byte b)

def parameters : List Parameter := [.name, .joined, .each, .process, .directory]

def step (r : Reader) (b : UInt8) : Reader :=
  match r.parameter with
  | none => r.plain b
  | some name =>
    let name := name ++ [b]
    match parameters.find? fun p => Utf8.encode p.text = name with
    | some p => { r with parameter := none }.add (.parameter p)
    | none =>
      if name.head? = some (code '\x7b') && b != code '\x7d' then { r with parameter := some name }
      else name.foldl plain ({ r with parameter := none }.add (.byte (code '$')))

def read (r : Reader) (b : UInt8) : Reader :=
  let r := r.step b
  if b = code '\n' then { r with line := r.line + 1 } else r

end Reader

def Script.ofBytes (bytes : Bytes) : Script :=
  (bytes.foldl Reader.read {}).endCommand.commands.reverse

end GroupRunner.Programs.Shell
