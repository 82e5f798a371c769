import GroupRunner.Execution
import GroupRunner.Proofs.Execution.Slot
import GroupRunner.Proofs.FileSystem.Writing

set_option autoImplicit false

namespace GroupRunner

inductive Child
  | refused (cause : IoError)
  | ended (stdout stderr : Bytes) (exit : Exit)
  deriving DecidableEq, Repr

namespace FileSystem

def pour (fs : FileSystem) (place : Location) (bytes : Bytes) : FileSystem :=
  match fs.writeAt place 0 bytes with
  | .ok fs => fs
  | .error _ => fs

theorem pour_eq (fs : FileSystem) (name : Name) (parent : Location) (bytes : Bytes) :
    fs.pour (name :: parent) bytes =
      fs.set (name :: parent) (Slot.written bytes (fs.get? (name :: parent))) := by
  rw [pour, writeAt]
  cases bytes with
  | nil => simp [Slot.written_nil, set_get?]
  | cons b bytes =>
    cases held : fs.get? (name :: parent) with
    | none => simp [Slot.written, ← held, set_get?]
    | some entry =>
      cases entry with
      | file content executable => rfl
      | link target => simp [Slot.written, ← held, set_get?]
      | directory => simp [Slot.written, ← held, set_get?]
      | device kind => cases kind <;> simp [Slot.written, ← held, set_get?]

end FileSystem

namespace Child

def exit : Child → Except IoError Exit
  | .refused cause => .error cause
  | .ended _ _ exit => .ok exit

def stdout : Child → Bytes
  | .refused _ => []
  | .ended stdout _ _ => stdout

def stderr : Child → Bytes
  | .refused _ => []
  | .ended _ stderr _ => stderr

def act (child : Child) (stdout stderr : Location) (fs : FileSystem) :
    Except IoError Exit × FileSystem :=
  (child.exit, (fs.pour stdout child.stdout).pour stderr child.stderr)

end Child

abbrev Script := Path → List String → Path → Child

def Script.child (script : Script) (config : Config) (group : TestGroup) : Child :=
  script config.binary config.arguments group.path

-- The children depend on nothing but the binary, its arguments and the directory, and write only to
-- their open files.
def Host.Follows (host : Host) (script : Script) : Prop :=
  ∀ launch fs, host.launch launch fs =
    (script launch.binary launch.arguments launch.directory).act launch.stdout launch.stderr fs

def Script.host (script : Script) : Host where
  launch launch fs :=
    (script launch.binary launch.arguments launch.directory).act launch.stdout launch.stderr fs

theorem Script.host_follows (script : Script) : script.host.Follows script := fun _ _ => rfl

end GroupRunner
