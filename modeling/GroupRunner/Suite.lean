import GroupRunner.Discovery
import GroupRunner.Execution
import GroupRunner.Report

set_option autoImplicit false

namespace GroupRunner

namespace Suite

def select (root : Path) (config : Config) (fs : FileSystem) :
    Except RunError (List TestGroup × List Log.Event) :=
  match ensureTestsDirectory root with
  | .error e => .error e
  | .ok () => discover root config.ignore.accepts fs

-- What is noted while the groups are looked for, also where there is no run then.
def noted (root : Path) (config : Config) (fs : FileSystem) : List Log.Event :=
  match ensureTestsDirectory root with
  | .error _ => []
  | .ok () => Discovery.noted root config.ignore.accepts fs

def startEvent (config : Config) (groups : List TestGroup) : Log.Event :=
  { level := .info, source := .suite, message := "Running test groups"
    fields := [("binary", config.binary.display), ("args", Text.quoteList config.arguments),
      ("groups", toString groups.length)] }

def finishEvent (report : Report) : Log.Event :=
  { level := .info, source := .suite, message := "Run finished"
    fields := [("verdict", report.verdict.text), ("failed", toString report.totalFailedTests),
      ("elapsed_ms", toString report.elapsed.wordMillis)] }

structure Run where
  report : Report
  events : List Log.Event

def run (host : Host) (root : Path) (config : Config) (fs : FileSystem) :
    Except RunError Run × FileSystem :=
  match select root config fs with
  | .error e => (.error e, fs)
  | .ok (groups, found) =>
    let (runs, fs) := Execution.runGroups host config groups fs
    let report := Report.ofResults (runs.map (·.result)) host.totalTime
    (.ok
      { report
        events := found ++ startEvent config groups :: runs.flatMap (·.events) ++
          [finishEvent report] }, fs)

end Suite

end GroupRunner
