import GroupRunner.FileSystem.Operations

set_option autoImplicit false

namespace GroupRunner

def stdoutFile : String := "stdout.txt"

def stderrFile : String := "stderr.txt"

inductive Pruned
  | absent
  | removed (size : Nat)
  | kept (size : Nat)
  deriving DecidableEq, Repr

namespace Capture

-- The size is that of what the path leads to; what is taken away is the path's own entry.
def prune (path : Path) (threshold : Nat) (fs : FileSystem) : Except IoError Pruned × FileSystem :=
  match fs.size path with
  | .error e => if e = .noEntry then (.ok .absent, fs) else (.error e, fs)
  | .ok size =>
    if size ≤ threshold then
      match fs.removeFile path with
      | .error e => (.error e, fs)
      | .ok fs => (.ok (.removed size), fs)
    else (.ok (.kept size), fs)

def read (path : Path) (fs : FileSystem) : Except IoError String :=
  match fs.readFile path with
  | .error e => .error e
  | .ok bytes => .ok (Utf8.lossy bytes)

end Capture

def Pruned.isKept : Pruned → Bool
  | .kept _ => true
  | _ => false

end GroupRunner
