set_option autoImplicit false

namespace GroupRunner

inductive Exit
  | code (n : Int)
  | signal (number : Option Int)
  deriving DecidableEq, Repr

inductive Status
  | exited (code : Int)
  | terminated (signal : Option Int)
  | launchFailed (reason : String)
  | captureFailed (reason : String)
  deriving DecidableEq, Repr

def sentinel : Int := 255

inductive HarnessProblem
  | sentinel
  | launchFailed (reason : String)
  | captureFailed (reason : String)
  | terminated (signal : Option Int)
  | unexpectedCode (code : Int)
  deriving DecidableEq, Repr

inductive GroupVerdict
  | passed
  -- So many tests failed, from 1 to 254.
  | failed (count : Nat)
  | harness (problem : HarnessProblem)
  deriving DecidableEq, Repr

def HarnessProblem.message : HarnessProblem → String
  | .sentinel => "the test binary could not evaluate this group (exit code 255)"
  | .launchFailed reason => "the test binary could not be launched: " ++ reason
  | .captureFailed reason => "output capture could not be set up: " ++ reason
  | .terminated (some signal) => "the test binary was terminated by signal " ++ toString signal
  | .terminated none => "the test binary terminated without an exit code"
  | .unexpectedCode code => "the test binary returned an unexpected exit code " ++ toString code

namespace GroupVerdict

def failedTests : GroupVerdict → Nat
  | .failed count => count
  | _ => 0

def harnessProblem? : GroupVerdict → Option HarnessProblem
  | .harness problem => some problem
  | _ => none

end GroupVerdict

namespace Status

def ofExit : Exit → Status
  | .code n => .exited n
  | .signal number => .terminated number

def verdict : Status → GroupVerdict
  | .exited code =>
    if code = 0 then .passed
    else if code = sentinel then .harness .sentinel
    else if 1 ≤ code ∧ code < sentinel then .failed code.toNat
    else .harness (.unexpectedCode code)
  | .terminated signal => .harness (.terminated signal)
  | .launchFailed reason => .harness (.launchFailed reason)
  | .captureFailed reason => .harness (.captureFailed reason)

def exitCode : Status → Int
  | .exited code => code
  | _ => sentinel

end Status

end GroupRunner
