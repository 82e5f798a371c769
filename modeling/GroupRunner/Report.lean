import GroupRunner.Result

set_option autoImplicit false

namespace GroupRunner

inductive Verdict
  | success
  | failed
  deriving DecidableEq, Repr

def Verdict.text : Verdict → String
  | .success => "SUCCESS"
  | .failed => "FAILED"

structure Report where
  results : List GroupResult
  totalFailedTests : Nat
  crashedGroups : List String
  errorOutputGroups : List String
  elapsed : Duration

namespace Report

def ofResults (results : List GroupResult) (elapsed : Duration) : Report where
  results := results
  totalFailedTests := results.foldr (fun r total => r.failedTests + total) 0
  crashedGroups := (results.filter fun r => r.harnessProblem?.isSome).map (·.group.name)
  errorOutputGroups := (results.filter GroupResult.hasUnexpectedStderr).map (·.group.name)
  elapsed := elapsed

def hasFailures (report : Report) : Bool :=
  0 < report.totalFailedTests || !report.crashedGroups.isEmpty

def hasErrorOutput (report : Report) : Bool :=
  !report.errorOutputGroups.isEmpty

def verdict (report : Report) : Verdict :=
  if report.hasFailures || report.hasErrorOutput then .failed else .success

def exitCode (report : Report) : Nat :=
  match report.verdict with
  | .success => 0
  | .failed => 1

def errorOutputs (report : Report) : List (String × String) :=
  (report.results.filter GroupResult.hasUnexpectedStderr).filterMap fun r =>
    r.stderr.map fun content => (r.group.name, content)

end Report

end GroupRunner
