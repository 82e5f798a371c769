import GroupRunner.Program
import GroupRunner.Programs.Launch
import Std.Time.DateTime.Timestamp

set_option autoImplicit false

namespace GroupRunner.CommandLine

def placeOf (path : String) : Location := (Path.ofString path).pieces.reverse

def fileAt (place : Location) : String := (FileSystem.pathTo place).display

def fileEntry (content : ByteArray) : Entry :=
  let bytes := content.toList
  .file bytes (Programs.interpreter? bytes).isSome

def maxDepth : Nat := 64

def load : Nat → FileSystem → IO.FS.DirEntry → IO FileSystem
  | 0, fs, _ => return fs
  | depth + 1, fs, item => do
    let place := placeOf item.path.toString
    match (← item.path.symlinkMetadata).type with
    | .dir => (← item.path.readDir).foldlM (load depth) (fs.put place .directory)
    | .file => return fs.put place (fileEntry (← IO.FS.readBinFile item.path))
    | .symlink =>
      try return fs.put place (.link (.ofString (← IO.FS.realPath item.path).toString))
      catch _ => return fs
    | .other => return fs

def changes (before after : FileSystem) : List Location × List (Location × Entry) :=
  ((before.entries.map Prod.fst).filter fun place =>
      (after.get? place).isNone && (after.get? place.tail).isSome,
    after.entries.filter fun (place, entry) => before.get? place != some entry)

def save (before after : FileSystem) : IO Unit := do
  let (gone, new) := changes before after
  for place in gone do
    if before.isDirectory place then IO.FS.removeDirAll (fileAt place)
    else IO.FS.removeFile (fileAt place)
  for (place, entry) in new do
    match entry with
    | .directory => IO.FS.createDirAll (fileAt place)
    | .file content _ => IO.FS.writeBinFile (fileAt place) ⟨content.toArray⟩
    | _ => pure ()

def now : IO Timestamp := do
  let nanos := (← Std.Time.Timestamp.now).toNanosecondsSinceUnixEpoch.toInt
  return ⟨nanos.fdiv (1000000000), (nanos.fmod (1000000000)).toNat⟩

end GroupRunner.CommandLine

open GroupRunner CommandLine in
def main (arguments : List String) : IO UInt32 := do
  let cwd ← IO.currentDir
  let path := Path.ofString cwd.toString
  match (Programs.standardFiles.makeDirs path).2.changeDir path with
  | .error e =>
    IO.eprintln e.message
    return 1
  | .ok start =>
    let files ← (← cwd.readDir).foldlM (load maxDepth) start
    let host := { Programs.host with now := ← now }
    let filter := Log.Filter.ofSetting (← IO.getEnv "RUST_LOG")
    let (finished, after) := Program.execute host filter arguments files
    (← IO.getStdout).putStr finished.stdout
    (← IO.getStderr).putStr finished.stderr
    save files after
    return finished.code.toUInt32
