import GroupRunner.Execution
import GroupRunner.Programs.Tool

set_option autoImplicit false

namespace GroupRunner.Programs

def searchPath : List Path :=
  ["/usr/local/sbin", "/usr/local/bin", "/usr/sbin", "/usr/bin", "/sbin", "/bin"].map .ofString

structure Invocation where
  tool : Tool
  called : Bytes
  args : List Bytes
  deriving DecidableEq, Repr

def isBlankByte (b : UInt8) : Bool :=
  b == Shell.code ' ' || b == Shell.code '\t'

def firstWord (line : Bytes) : Bytes × Option Bytes :=
  let name := line.takeWhile fun b => !isBlankByte b
  let rest := line.drop name.length
  (name, if rest.isEmpty then none else some (rest.dropWhile isBlankByte))

def trimBlanks (line : Bytes) : Bytes :=
  ((line.dropWhile isBlankByte).reverse.dropWhile isBlankByte).reverse

def maxFirstLine : Nat := 254

def interpreterOf? (line : Bytes) : Option (Bytes × Option Bytes) :=
  let line := trimBlanks line
  if line.isEmpty then none else some (firstWord line)

-- A zero byte ends the script. Where the first line does not end in time, the interpreter's name
-- has to.
def interpreter? : Bytes → Option (Bytes × Option Bytes)
  | 0x23 :: 0x21 :: rest =>
    let head := (rest.take maxFirstLine).takeWhile (· != 0)
    let line := head.takeWhile (· != Shell.code '\n')
    if line.length < head.length then interpreterOf? line
    else if line.length + 1 < maxFirstLine then some (firstWord (line.dropWhile isBlankByte))
    else if line.length < maxFirstLine || (line.dropWhile isBlankByte).any isBlankByte then
      interpreterOf? (line.take (maxFirstLine - 1))
    else none
  | _ => none

def maxInterpreters : Nat := 5

def load (fs : FileSystem) : Nat → Path → Bytes → List Bytes → Except IoError Invocation
  | interpreters, path, called, args =>
    match fs.find path with
    | .error e => .error e
    | .ok (_, .file content true) =>
      match Tool.ofImage? content with
      | some tool => .ok { tool, called, args }
      | none =>
        match interpreter? content with
        | none => .error .execFormat
        | some (name, option) =>
          match interpreters with
          | 0 => .error .tooManyLinks
          | interpreters + 1 =>
            -- No name at all stands for the working directory, which is no program.
            if name.isEmpty then .error .accessDenied
            else load fs interpreters ⟨name⟩ name (option.toList ++ path.bytes :: args)
    | .ok _ => .error .accessDenied

def search (fs : FileSystem) (name : Bytes) (args : List Bytes) (otherwise : IoError) :
    List Path → Except IoError Invocation
  | [] => .error otherwise
  | dir :: rest =>
    match load fs maxInterpreters (dir.join ⟨name⟩) name args with
    | .ok invocation => .ok invocation
    | .error e =>
      if e = .accessDenied then search fs name args e rest
      else if e = .noEntry || e = .notDirectory then search fs name args otherwise rest
      else .error e

def locate (fs : FileSystem) (binary : Path) (args : List Bytes) : Except IoError Invocation :=
  if binary.bytes.contains Path.slash then load fs maxInterpreters binary binary.bytes args
  else if binary.bytes.isEmpty then .error .noEntry
  else search fs binary.bytes args .noEntry searchPath

def handOver (texts : List Bytes) : Except IoError Unit :=
  if texts.any fun text => text.contains 0 then .error .nulInCommand else .ok ()

def start (launch : Launch) (fs : FileSystem) : Except IoError Exit × FileSystem :=
  let arguments := launch.arguments.map Utf8.encode
  match handOver (launch.binary.bytes :: launch.directory.bytes :: arguments) with
  | .error e => (.error e, fs)
  | .ok () =>
    match fs.changeDir launch.directory with
    | .error e => (.error e, fs)
    | .ok inside =>
      match locate inside launch.binary arguments with
      | .error e => (.error e, fs)
      | .ok invocation =>
        let process : Process :=
          { fs := inside, stdout := ⟨some launch.stdout, 0⟩, stderr := ⟨some launch.stderr, 0⟩ }
        let (exit, process) := invocation.tool.run invocation.called invocation.args process
        (.ok exit, { process.fs with cwd := fs.cwd })

def host : Host := { launch := start }

def rootEntries : List (Location × Entry) :=
  let placed := fun (names : List String) => (names.map Utf8.encode).reverse
  [(placed ["usr"], .directory), (placed ["usr", "bin"], .directory),
    (placed ["bin"], .link (.ofString "usr/bin")), (placed ["tmp"], .directory),
    (placed ["dev"], .directory), (placed ["dev", "null"], .device .null),
    (placed ["dev", "full"], .device .full)] ++
  Tool.all.map fun tool => (placed ["usr", "bin", tool.name], .file tool.image true)

def standardFiles : FileSystem :=
  rootEntries.foldl (fun fs (place, entry) => fs.put place entry) .empty

end GroupRunner.Programs
