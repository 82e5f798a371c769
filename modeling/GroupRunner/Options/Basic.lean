import GroupRunner.Path

set_option autoImplicit false

namespace GroupRunner

structure Options where
  ignore : List String := []
  expectStderr : List String := []
  pruneThreshold : Option Nat := none
  list : Bool := false
  summary : Bool := false
  jsonReport : Option Path := none
  noColor : Bool := false
  args : List String := []
  deriving DecidableEq

inductive Valued
  | ignore
  | expectStderr
  | pruneThreshold
  | jsonReport
  deriving DecidableEq, Repr

inductive Flag
  | list
  | summary
  | noColor
  | help
  | version
  deriving DecidableEq, Repr

inductive OptionName
  | valued (option : Valued)
  | flag (flag : Flag)
  deriving DecidableEq, Repr

def Valued.word : Valued → String
  | .ignore => "ignore"
  | .expectStderr => "expect-stderr"
  | .pruneThreshold => "prune-threshold"
  | .jsonReport => "json-report"

def Valued.placeholder : Valued → String
  | .ignore => "FRAGMENT"
  | .expectStderr => "GROUP"
  | .pruneThreshold => "BYTES"
  | .jsonReport => "PATH"

def Flag.word : Flag → String
  | .list => "list"
  | .summary => "summary"
  | .noColor => "no-color"
  | .help => "help"
  | .version => "version"

namespace OptionName

def all : List OptionName :=
  [.valued .ignore, .valued .expectStderr, .valued .pruneThreshold, .flag .list, .flag .summary,
    .valued .jsonReport, .flag .noColor, .flag .help, .flag .version]

def word : OptionName → String
  | .valued v => v.word
  | .flag f => f.word

def ofWord? (word : String) : Option OptionName :=
  all.find? fun name => name.word = word

def shown : OptionName → String
  | .valued v => "--" ++ v.word ++ " <" ++ v.placeholder ++ ">"
  | .flag f => "--" ++ f.word

end OptionName

inductive NumberError
  | empty
  | invalidDigit
  | tooLarge
  deriving DecidableEq, Repr

def NumberError.message : NumberError → String
  | .empty => "cannot parse integer from empty string"
  | .invalidDigit => "invalid digit found in string"
  | .tooLarge => "number too large to fit in target type"

inductive OptionStop
  | help
  | version
  | missingValue (option : Valued)
  | invalidNumber (option : Valued) (text : String) (error : NumberError)
  | repeated (option : OptionName)
  -- A value for an option without one; whether other options came before.
  | unexpectedValue (flag : Flag) (value : String) (others : Bool)
  deriving DecidableEq, Repr

end GroupRunner
