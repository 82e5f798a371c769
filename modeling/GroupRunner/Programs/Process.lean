import GroupRunner.FileSystem.Operations
import GroupRunner.Status

set_option autoImplicit false

namespace GroupRunner.Programs

-- Once the file is taken away, what is written to it is lost, even if there is another file in its
-- place.
structure Stream where
  place : Option Location
  offset : Nat := 0
  deriving DecidableEq, Repr

namespace Stream

def write (stream : Stream) (bytes : Bytes) (fs : FileSystem) : Stream × FileSystem :=
  match stream.place with
  | none => (stream, fs)
  | some place =>
    match fs.writeAt place stream.offset bytes with
    | .error _ => (stream, fs)
    | .ok fs => ({ stream with offset := stream.offset + bytes.length }, fs)

def refresh (stream : Stream) (fs : FileSystem) : Stream :=
  { stream with place := stream.place.filter fun place => (fs.get? place).isSome }

end Stream

structure Process where
  fs : FileSystem
  stdout : Stream
  stderr : Stream
  status : Nat := 0

namespace Process

def writeOut (process : Process) (bytes : Bytes) : Process :=
  let (stdout, fs) := process.stdout.write bytes process.fs
  { process with fs, stdout }

def writeError (process : Process) (bytes : Bytes) : Process :=
  let (stderr, fs) := process.stderr.write bytes process.fs
  { process with fs, stderr }

def remove (process : Process) (path : Path) : Except IoError Unit × Process :=
  let (outcome, fs) := process.fs.removeAll path
  (outcome,
    { process with fs, stdout := process.stdout.refresh fs, stderr := process.stderr.refresh fs })

end Process

end GroupRunner.Programs
