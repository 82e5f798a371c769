import GroupRunner.FileSystem.Error
import GroupRunner.Json.Failure

set_option autoImplicit false

namespace GroupRunner

inductive RunError
  | precondition (reason : String)
  | launch (binary : String) (cause : IoError)
  | capture (path : String) (cause : IoError)
  | io (cause : IoError)
  | json (failure : Json.Failure)
  deriving DecidableEq, Repr

namespace RunError

def message : RunError → String
  | .precondition reason => reason
  | .launch binary cause => "failed to launch " ++ binary ++ ": " ++ cause.message
  | .capture path cause => "failed to create " ++ path ++ ": " ++ cause.message
  | .io cause => "IO error: " ++ cause.message
  | .json failure => "JSON error: " ++ failure.message

def isPrecondition : RunError → Bool
  | .precondition _ => true
  | _ => false

def cause? : RunError → Option String
  | .precondition _ => none
  | .launch _ cause | .capture _ cause | .io cause => some cause.message
  | .json failure => some failure.message

end RunError

end GroupRunner
