import GroupRunner.IgnoreSet
import GroupRunner.Json
import GroupRunner.Json.Failure
import GroupRunner.Path
import GroupRunner.Text.Blank
import GroupRunner.Text.Quoted

set_option autoImplicit false

namespace GroupRunner

def templateArgs : List String := ["test_group.c", "-t", "test-file.txt"]

def defaultIgnore : List String := ["groupH", "groupJ"]

def defaultExpectedStderr : List String := ["groupH"]

def defaultPruneThreshold : Nat := 2

structure Config where
  binary : Path
  extraArgs : List String
  ignore : IgnoreSet := .ofList defaultIgnore
  expectedStderr : List String := defaultExpectedStderr
  pruneThreshold : Nat := defaultPruneThreshold
  deriving DecidableEq

def showArgument (arg : String) : String :=
  if arg.isEmpty || arg.toList.any Text.isBlank then Text.quote arg else arg

def pathNotText : Json.Failure := { reason := "path contains invalid UTF-8 characters" }

def Path.toJson (path : Path) : Except Json.Failure Json :=
  match path.text? with
  | some text => .ok (.text text)
  | none => .error pathNotText

namespace Config

def expectsStderr (config : Config) (group : String) : Bool :=
  config.expectedStderr.contains group

def arguments (config : Config) : List String :=
  templateArgs ++ config.extraArgs

def commandLine (config : Config) : String :=
  String.intercalate " " ((config.binary.display :: config.arguments).map showArgument)

def toJson (config : Config) : Except Json.Failure Json :=
  config.binary.toJson.map fun binary => .object [
    ("binary", binary),
    ("extra_args", .texts config.extraArgs),
    ("ignore", .texts config.ignore.fragments),
    ("expected_stderr", .texts config.expectedStderr),
    ("prune_threshold", .nat config.pruneThreshold)]

end Config

end GroupRunner
