import GroupRunner.Programs.Process
import GroupRunner.Programs.Shell.Format

set_option autoImplicit false

namespace GroupRunner.Programs.Shell

structure Call where
  name : Bytes
  args : List Bytes
  directory : Bytes
  deriving DecidableEq, Repr

def joinBlank (words : List Bytes) : Bytes :=
  (words.intersperse [code ' ']).flatten

namespace Call

def processNumber : Bytes := [code '1']

def value (call : Call) : Letter → Bytes
  | .byte b => [b]
  | .parameter .name => call.name
  | .parameter .joined | .parameter .each => joinBlank call.args
  | .parameter .process => processNumber
  | .parameter .directory => call.directory

def text (call : Call) (word : Word) : Bytes := word.flatMap call.value

def expand (call : Call) (word : Word) : List Bytes :=
  if word = [.parameter .each] then call.args else [call.text word]

end Call

def number? (bytes : Bytes) : Option Nat :=
  if !bytes.isEmpty && bytes.all (fun b => code '0' ≤ b && b ≤ code '9') then
    some (bytes.foldl (fun n b => 10 * n + (b - code '0').toNat) 0)
  else none

def isHarmless (signal : Nat) : Bool :=
  [0, 17, 18, 19, 20, 21, 22, 23, 28].contains signal || 64 < signal

structure Effect where
  process : Process
  output : Bytes := []
  exit : Option Exit := none

def complaint (call : Call) (line : Nat) (words : Bytes) : Bytes :=
  call.name ++ Utf8.encode (": " ++ toString line ++ ": ") ++ words ++ [code '\n']

def openReason (e : IoError) (missing : String) : String :=
  if e = .noEntry || e = .notDirectory then missing else e.reason

def statusNotFound : Nat := 127

def statusRefused : Nat := 2

def exitCode (n : Nat) : Exit := .code (n % 256 : Nat)

def kill (process : Process) : List Bytes → Effect
  | [option, receiver] =>
    match number? option.tail with
    | some signal =>
      if receiver = Call.processNumber && !isHarmless signal then
        { process, exit := some (.signal (some (signal : Nat))) }
      else { process }
    | none => { process }
  | _ => { process }

def maxNumber : Nat := 0x7FFFFFFF

def leave (call : Call) (process : Process) (line : Nat) : List Bytes → Effect
  | [] => { process, exit := some (exitCode process.status) }
  | arg :: _ =>
    match (number? arg).filter (· ≤ maxNumber) with
    | some status => { process, exit := some (exitCode status) }
    | none =>
      let words := Utf8.encode "exit: Illegal number: " ++ arg
      { process := process.writeError (complaint call line words)
        exit := some (exitCode statusRefused) }

def splitOptions (args : List Bytes) : List Bytes × List Bytes :=
  let options := args.takeWhile fun arg => arg.head? == some (code '-')
  let names := args.drop options.length
  let marked := options.takeWhile (· != [code '-', code '-'])
  (marked, (options.drop marked.length).tail ++ names)

def quoteName (name : Bytes) : Bytes :=
  code '\'' :: name.flatMap letter ++ [code '\'']
where
  letter (b : UInt8) : Bytes :=
    if b = code '\'' || b = code '\\' then [code '\\', b]
    else if b = code '\n' then [code '\\', code 'n']
    else if b = code '\t' then [code '\\', code 't']
    else if 0x20 ≤ b && b < 0x7F then [b]
    else [code '\\', Format.octalDigit (b.toNat / 64), Format.octalDigit (b.toNat / 8),
      Format.octalDigit b.toNat]

def refuse (process : Process) (words : String) (name : Bytes) (reason : String) : Process :=
  { process with status := 1 }.writeError
    (Utf8.encode words ++ quoteName name ++ Utf8.encode (reason ++ "\n"))

def makeDir (above : Bool) (process : Process) (name : Bytes) : Process :=
  let (outcome, fs) :=
    if above then process.fs.makeDirs ⟨name⟩
    else match process.fs.makeNewDir ⟨name⟩ with
      | .ok fs => (.ok (), fs)
      | .error e => (.error e, process.fs)
  match outcome with
  | .ok () => { process with fs }
  | .error e =>
    refuse { process with fs } "mkdir: cannot create directory " name (": " ++ e.reason)

def remove (process : Process) (name : Bytes) : Process :=
  let path : Path := ⟨name⟩
  if !path.endsInName && (process.fs.findItself path).isOk then
    refuse process "rm: refusing to remove '.' or '..' directory: skipping " name ""
  else match process.remove path with
    | (.ok (), process) => process
    | (.error e, process) =>
      if e = .noEntry || e = .notDirectory then process
      else refuse process "rm: cannot remove " name (": " ++ e.reason)

def effect (call : Call) (process : Process) (line : Nat) (name : Bytes) (args : List Bytes) :
    Effect :=
  let done := { process with status := 0 }
  match Utf8.lossy name with
  | "printf" => match args with
    | [] => { process := { process with status := statusRefused } }
    | format :: args => { process := done, output := (Format.ofBytes format).output args }
  | "echo" => { process := done, output := joinBlank args ++ [code '\n'] }
  | "rm" => { process := (splitOptions args).2.foldl remove done }
  | "mkdir" =>
    let (options, names) := splitOptions args
    { process := names.foldl (makeDir (!options.isEmpty)) done }
  | "kill" => kill done args
  | "exit" => leave call process line args
  | "true" | ":" => { process := done }
  | "false" => { process := { process with status := 1 } }
  | _ =>
    let process := { process with status := statusNotFound }
    { process := process.writeError (complaint call line (name ++ Utf8.encode ": not found")) }

def send (call : Call) (line : Nat) (process : Process) (bytes : Bytes) : Destination → Process
  | .stdout => process.writeOut bytes
  | .stderr => process.writeError bytes
  | .file name =>
    match process.fs.writeFile ⟨call.text name⟩ bytes with
    | .ok fs => { process with fs }
    | .error e =>
      let words := Utf8.encode "cannot create " ++ call.text name ++
        Utf8.encode (": " ++ openReason e "Directory nonexistent")
      { process with status := statusRefused }.writeError (complaint call line words)

def runCommand (call : Call) (process : Process) (command : Command) : Effect :=
  match command.words.flatMap call.expand with
  | [] => { process := send call command.line process [] command.destination }
  | name :: args =>
    let effect := effect call process command.line name args
    { effect with
      process := send call command.line effect.process effect.output command.destination }

def Script.run (call : Call) : Script → Process → Exit × Process
  | [], process => (exitCode process.status, process)
  | command :: rest, process =>
    let effect := runCommand call process command
    match effect.exit with
    | some exit => (exit, effect.process)
    | none => Script.run call rest effect.process

end GroupRunner.Programs.Shell
