import GroupRunner.Programs.Shell.Format
import GroupRunner.Programs.Shell.Source

set_option autoImplicit false

namespace GroupRunner.Programs

structure Behaviour where
  showArguments : Bool := false
  showDirectory : Bool := false
  -- Write `eof` for the end of the standard input, which is always there.
  showInput : Bool := false
  remove : List String := []
  makeDirs : List String := []
  write : List (String × Bytes) := []
  stdout : Bytes := []
  stderr : Bytes := []
  signal : Option Nat := none
  exitCode : Int := 0
  deriving DecidableEq

namespace Behaviour

open Shell

def words (texts : List String) : List Word := texts.map Word.ofString

def emit (bytes : Bytes) (destination : Destination) : Command :=
  { words := [.ofString "printf", .ofBytes (Format.source bytes)], destination }

def emitAny (bytes : Bytes) (destination : Destination) : Script :=
  if bytes.isEmpty then [] else [emit bytes destination]

def script (behaviour : Behaviour) : Script :=
  (if behaviour.showArguments then
    [{ words := words ["printf", "%s\\n"] ++ [[.parameter .name], [.parameter .each]] }] else []) ++
  (if behaviour.showDirectory then
    [{ words := [.ofString "echo", [.parameter .directory]] }] else []) ++
  (if behaviour.showInput then [{ words := words ["echo", "eof"] }] else []) ++
  behaviour.remove.map (fun name => { words := words ["rm", "-rf", "--", name] }) ++
  behaviour.makeDirs.map (fun name => { words := words ["mkdir", "--", name] }) ++
  behaviour.write.map (fun (name, bytes) => emit bytes (.file (.ofString name))) ++
  emitAny behaviour.stdout .stdout ++
  emitAny behaviour.stderr .stderr ++
  (match behaviour.signal with
    | none => []
    | some n => [{ words := words ["kill", "-" ++ toString n] ++ [[.parameter .process]] }]) ++
  [{ words := words ["exit", toString behaviour.exitCode] }]

def source (behaviour : Behaviour) : Bytes :=
  behaviour.script.source

end Behaviour

end GroupRunner.Programs
