import GroupRunner.Config
import GroupRunner.FileSystem.Operations
import GroupRunner.Log.Event
import GroupRunner.Report
import GroupRunner.RunError
import GroupRunner.Time.Timestamp

set_option autoImplicit false

namespace GroupRunner

structure GroupRecord where
  name : String
  exitCode : Int
  outcome : String
  failedTests : Nat
  problem : Option String
  stdoutPath : Option Path
  stderrPath : Option Path
  stderr : Option String
  durationMillis : Nat
  deriving DecidableEq

namespace GroupRecord

def outcomeOf : GroupVerdict → String
  | .passed => "passed"
  | .failed _ => "failed"
  | .harness _ => "harness"

def ofResult (result : GroupResult) : GroupRecord where
  name := result.group.name
  exitCode := result.status.exitCode
  outcome := outcomeOf result.verdict
  failedTests := result.failedTests
  problem := result.harnessProblem?.map HarnessProblem.message
  stdoutPath := result.stdoutPath
  stderrPath := result.stderrPath
  stderr := result.stderr
  durationMillis := result.duration.wordMillis

def field? (name : String) : Option Json → List (String × Json)
  | none => []
  | some value => [(name, value)]

def pathField? (name : String) : Option Path → Except Json.Failure (List (String × Json))
  | none => .ok []
  | some path => path.toJson.map fun value => [(name, value)]

def toJson (record : GroupRecord) : Except Json.Failure Json := do
  let stdoutPath ← pathField? "stdout_path" record.stdoutPath
  let stderrPath ← pathField? "stderr_path" record.stderrPath
  return .object (
    [("name", .text record.name), ("exit_code", .number record.exitCode),
      ("outcome", .text record.outcome), ("failed_tests", .nat record.failedTests)] ++
    field? "problem" (record.problem.map .text) ++ stdoutPath ++ stderrPath ++
    field? "stderr" (record.stderr.map .text) ++
    [("duration_ms", .nat record.durationMillis)])

end GroupRecord

namespace Report

def groupsJson : List GroupResult → Except Json.Failure (List Json)
  | [] => .ok []
  | result :: rest => do
    let first ← (GroupRecord.ofResult result).toJson
    let others ← groupsJson rest
    return first :: others

def toJson (report : Report) (config : Config) (written : Timestamp) :
    Except Json.Failure Json := do
  let config ← config.toJson
  let groups ← groupsJson report.results
  return .object [
    ("generated_at", .text written.toRfc3339),
    ("verdict", .text report.verdict.text),
    ("total_failed_tests", .nat report.totalFailedTests),
    ("crashed_groups", .texts report.crashedGroups),
    ("error_output_groups", .texts report.errorOutputGroups),
    ("elapsed_ms", .nat report.elapsed.wordMillis),
    ("config", config),
    ("groups", .array groups)]

def writeRecord (report : Report) (config : Config) (written : Timestamp) (path : Path)
    (fs : FileSystem) : Except RunError Unit × FileSystem :=
  match report.toJson config written with
  | .error failure => (.error (.json failure), fs)
  | .ok json =>
    match fs.writeFile path (Utf8.encode json.pretty) with
    | .error e => (.error (.io e), fs)
    | .ok fs => (.ok (), fs)

def recordEvent (path : Path) : Log.Event :=
  { level := .info, source := .record, message := "JSON report written"
    fields := [("path", path.display)] }

end Report

end GroupRunner
