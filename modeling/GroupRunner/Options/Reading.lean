import GroupRunner.Options.Basic

set_option autoImplicit false

namespace GroupRunner

def readNumber (text : String) : Except NumberError Nat :=
  match text.toList with
  | [] => .error .empty
  | ['+'] => .error .invalidDigit
  | '+' :: digits => go 0 digits
  | digits => go 0 digits
where
  go (n : Nat) : List Char → Except NumberError Nat
    | [] => .ok n
    | c :: rest =>
      if c.isDigit then
        let n := 10 * n + (c.toNat - '0'.toNat)
        if n < UInt64.size then go n rest else .error .tooLarge
      else .error .invalidDigit

inductive CommandWord
  | divider
  | option (name : OptionName) (value : Option String)
  | other (text : String)
  deriving DecidableEq, Repr

namespace CommandWord

def splitLong (chars : List Char) : String × Option String :=
  let name := chars.takeWhile (· != '=')
  (String.ofList name,
    match chars.drop name.length with
    | [] => none
    | _ :: value => some (String.ofList value))

def ofShort (text : String) (letters : List Char) : CommandWord :=
  match letters with
  | [] => .other text
  | first :: _ =>
    if letters.all fun c => c == 'h' || c == 'V' then
      .option (.flag (if first = 'h' then .help else .version)) none
    else .other text

def ofText (text : String) : CommandWord :=
  match text.toList with
  | ['-', '-'] => .divider
  | '-' :: '-' :: long =>
    match OptionName.ofWord? (splitLong long).1 with
    | some name => .option name (splitLong long).2
    | none => .other text
  | '-' :: letters => ofShort text letters
  | _ => .other text

end CommandWord

namespace Options

def isStarted (options : Options) : Bool :=
  options ≠ {}

def setValue (options : Options) (option : Valued) (value : String) : Except OptionStop Options :=
  match option with
  | .ignore => .ok { options with ignore := options.ignore ++ [value] }
  | .expectStderr => .ok { options with expectStderr := options.expectStderr ++ [value] }
  | .pruneThreshold =>
    if options.pruneThreshold.isSome then .error (.repeated (.valued option))
    else match readNumber value with
      | .error e => .error (.invalidNumber option value e)
      | .ok n => .ok { options with pruneThreshold := some n }
  | .jsonReport =>
    if options.jsonReport.isSome then .error (.repeated (.valued option))
    else if value.isEmpty then .error (.missingValue option)
    else .ok { options with jsonReport := some (.ofString value) }

def setFlag (options : Options) (flag : Flag) : Except OptionStop Options :=
  match flag with
  | .list =>
    if options.list then .error (.repeated (.flag flag)) else .ok { options with list := true }
  | .summary =>
    if options.summary then .error (.repeated (.flag flag))
    else .ok { options with summary := true }
  | .noColor =>
    if options.noColor then .error (.repeated (.flag flag))
    else .ok { options with noColor := true }
  | .help => .error .help
  | .version => .error .version

structure Waiting where
  option : Valued
  value : Option String
  deriving DecidableEq

def settle (options : Options) : Option Waiting → Except OptionStop Options
  | none => .ok options
  | some ⟨option, none⟩ => .error (.missingValue option)
  | some ⟨option, some value⟩ => options.setValue option value

def read (options : Options) (waiting : Option Waiting) :
    List String → Except OptionStop Options
  | [] => options.settle waiting
  | text :: rest =>
    match CommandWord.ofText text with
    | .divider => (options.settle waiting).map fun options => { options with args := rest }
    | .option (.flag flag) (some value) =>
      .error (.unexpectedValue flag value options.isStarted)
    | .option (.flag flag) none =>
      match options.settle waiting with
      | .error stop => .error stop
      | .ok options =>
        match options.setFlag flag with
        | .error stop => .error stop
        | .ok options => options.read none rest
    | .option (.valued option) (some value) =>
      match options.settle waiting with
      | .error stop => .error stop
      | .ok options =>
        match options.setValue option value with
        | .error stop => .error stop
        | .ok options => options.read none rest
    | .option (.valued option) none =>
      match options.settle waiting with
      | .error stop => .error stop
      | .ok options => options.read (some ⟨option, none⟩) rest
    | .other text =>
      match waiting with
      | some ⟨option, none⟩ => options.read (some ⟨option, some text⟩) rest
      | _ => (options.settle waiting).map fun options => { options with args := text :: rest }

def ofArguments (arguments : List String) : Except OptionStop Options :=
  read {} none arguments

end Options

end GroupRunner
