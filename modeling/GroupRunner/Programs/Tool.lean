import GroupRunner.Programs.Shell.Semantics

set_option autoImplicit false

namespace GroupRunner.Programs

inductive Tool
  | shell
  | echo
  | succeed
  | fail
  deriving DecidableEq, Repr

namespace Tool

def all : List Tool := [.shell, .echo, .succeed, .fail]

def name : Tool → String
  | .shell => "sh"
  | .echo => "echo"
  | .succeed => "true"
  | .fail => "false"

def image (tool : Tool) : Bytes :=
  0x7F :: Utf8.encode ("ELF" ++ tool.name)

def ofImage? (content : Bytes) : Option Tool :=
  all.find? fun tool => tool.image = content

def directoryName (fs : FileSystem) : Bytes := fs.cwd.headD []

def cannotOpen (shell script : Bytes) (e : IoError) : Bytes :=
  shell ++ Utf8.encode ": 0: cannot open " ++ script ++
    Utf8.encode (": " ++ Shell.openReason e "No such file" ++ "\n")

def isOption (arg : Bytes) : Bool := arg.head? == some (Shell.code '-')

def runShell (called : Bytes) (process : Process) (args : List Bytes) : Exit × Process :=
  match args.dropWhile isOption with
  | [] => (.code 0, process)
  | script :: args =>
    match process.fs.readFile ⟨script⟩ with
    | .error e =>
      if e = .isDirectory then (.code 0, process)
      else
        (Shell.exitCode Shell.statusRefused, process.writeError (cannotOpen called script e))
    | .ok content =>
      Shell.Script.run { name := script, args, directory := directoryName process.fs }
        (Shell.Script.ofBytes content) process

def run (called : Bytes) (args : List Bytes) (process : Process) : Tool → Exit × Process
  | .shell => runShell called process args
  | .echo => (.code 0, process.writeOut (Shell.joinBlank args ++ [Shell.code '\n']))
  | .succeed => (.code 0, process)
  | .fail => (.code 1, process)

end Tool

end GroupRunner.Programs
