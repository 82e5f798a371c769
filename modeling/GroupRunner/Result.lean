import GroupRunner.Path
import GroupRunner.Status
import GroupRunner.Time.Duration

set_option autoImplicit false

namespace GroupRunner

structure TestGroup where
  name : String
  path : Path
  deriving DecidableEq, Repr

structure GroupResult where
  group : TestGroup
  status : Status
  stdoutPath : Option Path := none
  stderrPath : Option Path := none
  stderr : Option String := none
  stderrExpected : Bool := false
  duration : Duration := .zero
  deriving DecidableEq

namespace GroupResult

def verdict (result : GroupResult) : GroupVerdict :=
  result.status.verdict

def failedTests (result : GroupResult) : Nat :=
  result.verdict.failedTests

def harnessProblem? (result : GroupResult) : Option HarnessProblem :=
  result.verdict.harnessProblem?

def hasUnexpectedStderr (result : GroupResult) : Bool :=
  result.stderr.isSome && !result.stderrExpected

end GroupResult

end GroupRunner
