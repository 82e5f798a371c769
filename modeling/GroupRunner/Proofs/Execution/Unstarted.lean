import GroupRunner.Programs.Launch
import GroupRunner.Proofs.Discovery
import GroupRunner.Proofs.Execution.Turn
import GroupRunner.Proofs.Report

set_option autoImplicit false

namespace GroupRunner

def Host.RefusesIdly (host : Host) : Prop :=
  ∀ launch fs cause after, host.launch launch fs = (.error cause, after) → after = fs

theorem Programs.host_refusesIdly : Programs.host.RefusesIdly := by
  intro launch fs cause after refused
  change Programs.start launch fs = _ at refused
  rw [Programs.start] at refused
  split at refused
  next =>
    cases refused
    rfl
  next =>
    split at refused
    next =>
      cases refused
      rfl
    next =>
      split at refused
      next =>
        cases refused
        rfl
      next => cases refused

namespace Execution

section Start

variable {host : Host} {config : Config} {group : TestGroup} {fs left : FileSystem}
variable {reason : String} {path : Path}

theorem stops_of_captureFailed
    (failed : statusOf (start host config group fs).1 = .captureFailed reason) :
    group.Stops fs (start host config group fs).2 := by
  rcases start_cases host config group fs with ⟨path, cause, left, started, stops⟩ |
    ⟨stdout, stderr, ready, exit, after, -, -, started⟩
  · rw [started]
    exact stops
  · rw [started] at failed
    cases exit with
    | error cause => cases failed
    | ok exit => cases exit <;> cases failed

theorem readies_of_launchFailed (idle : host.RefusesIdly)
    (failed : statusOf (start host config group fs).1 = .launchFailed reason) :
    ∃ stdout stderr, group.Readies fs stdout stderr (start host config group fs).2 := by
  rcases start_cases host config group fs with ⟨path, cause, left, started, -⟩ |
    ⟨stdout, stderr, ready, exit, after, readies, launched, started⟩
  · rw [started] at failed
    cases failed
  · rw [started] at failed ⊢
    cases exit with
    | ok exit => cases exit <;> cases failed
    | error cause =>
      obtain rfl := idle _ _ _ _ launched
      exact ⟨stdout, stderr, readies⟩

theorem readKept_of_error {e : IoError} (unread : left.readFile path = .error e) :
    readKept path left = "<failed to read " ++ path.display ++ ": " ++ e.message ++ ">" := by
  rw [readKept, Capture.read, unread]

theorem readKept_of_empty (empty : left.readFile path = .ok []) : readKept path left = "" := by
  rw [readKept, Capture.read, empty]
  rfl

end Start

end Execution

namespace GroupResult.Collected

variable {config : Config} {result : GroupResult} {fs opened ready : FileSystem}
variable {place stdout stderr : Location} {cause : IoError}

theorem not_stuck_stdout (collected : result.Collected config opened)
    (slight : opened.Slight config.pruneThreshold result.group.stdoutPath) :
    result.stdoutPath = none ↔ ¬ opened.Stuck result.group.stdoutPath :=
  collected.stdout.trans (and_iff_right slight)

theorem of_readies (collected : result.Collected config ready)
    (readies : result.group.Readies fs stdout stderr ready) :
    let pruned := (Capture.prune result.group.stdoutPath config.pruneThreshold ready).2
    (result.stdoutPath = none ↔ ¬ ready.Stuck result.group.stdoutPath) ∧
    (result.stderrPath = none ↔ ¬ pruned.Stuck result.group.stderrPath) ∧
    ∀ text, result.stderr = some text → text = "" := by
  intro pruned
  obtain ⟨⟨entry, found, empty⟩, entry', found', empty'⟩ := readies.find
  have thins : FileSystem.Thins ready pruned := Capture.thins_prune ..
  have slight : pruned.Slight config.pruneThreshold result.group.stderrPath :=
    (FileSystem.slight_of_emptied found' empty').thinned thins
  refine ⟨collected.not_stuck_stdout (FileSystem.slight_of_emptied found empty),
    collected.stderr.trans (and_iff_right slight), fun text written => ?_⟩
  rw [collected.text, Option.map_eq_some_iff] at written
  obtain ⟨path, kept, rfl⟩ := written
  -- The first capture may have been a link on the way to the second one.
  rcases thins.find found' with same | missing
  · exact Execution.readKept_of_empty (FileSystem.readFile_of_isEmptied same empty')
  · have gone : result.stderrPath = none :=
      collected.stderr.2 ⟨slight, FileSystem.not_stuck_of_missing missing⟩
    rw [gone] at kept
    cases kept

theorem of_refused (collected : result.Collected config opened)
    (first : fs.create result.group.stdoutPath = .ok (place, opened))
    (refused : opened.create result.group.stderrPath = .error cause) :
    (result.stdoutPath = none ↔ ¬ opened.Stuck result.group.stdoutPath) ∧
    ∀ text, result.stderr = some text → ∃ e : IoError,
      text = "<failed to read " ++ result.group.stderrPath.display ++ ": " ++ e.message ++ ">" := by
  constructor
  · obtain ⟨-, empty, -⟩ := FileSystem.emptied_of_create first
    obtain ⟨entry, found, empty'⟩ := FileSystem.find_of_create first (.refl _) empty
    exact collected.not_stuck_stdout (FileSystem.slight_of_emptied found empty')
  · intro text written
    rw [collected.text, Option.map_eq_some_iff] at written
    obtain ⟨-, -, rfl⟩ := written
    have thins : FileSystem.Thins opened
        (Capture.prune result.group.stdoutPath config.pruneThreshold opened).2 :=
      Capture.thins_prune ..
    obtain ⟨e, unread⟩ := FileSystem.readFile_of_refused refused thins
    exact ⟨e, Execution.readKept_of_error unread⟩

end GroupResult.Collected

section Permitted

variable {group : TestGroup} {fs opened ready : FileSystem} {place stdout stderr : Location}
variable {threshold : Nat}

theorem not_stuck_opened (permits : ∀ place, fs.medium.Permits .remove place)
    (first : fs.create group.stdoutPath = .ok (place, opened)) :
    ¬ opened.Stuck group.stdoutPath := by
  obtain ⟨keeps, empty, -⟩ := FileSystem.emptied_of_create first
  obtain ⟨entry, found, empty'⟩ := FileSystem.find_of_create first (.refl _) empty
  rw [← keeps.medium] at permits
  exact FileSystem.not_stuck_of_emptied proper_stdoutName found empty' permits

theorem not_stuck_ready (permits : ∀ place, fs.medium.Permits .remove place)
    (readies : group.Readies fs stdout stderr ready) :
    ¬ ready.Stuck group.stdoutPath ∧
      ¬ (Capture.prune group.stdoutPath threshold ready).2.Stuck group.stderrPath := by
  obtain ⟨⟨entry, found, empty⟩, entry', found', empty'⟩ := readies.find
  rw [← readies.medium] at permits
  refine ⟨FileSystem.not_stuck_of_emptied proper_stdoutName found empty permits, ?_⟩
  have thins : FileSystem.Thins ready (Capture.prune group.stdoutPath threshold ready).2 :=
    Capture.thins_prune ..
  rcases thins.find found' with same | missing
  · rw [← thins.medium] at permits
    exact FileSystem.not_stuck_of_emptied proper_stderrName same empty' permits
  · exact FileSystem.not_stuck_of_missing missing

end Permitted

-- A group whose test binary cannot be launched has no captures, unless they cannot be taken away.
-- Where the captures cannot be opened, the group is told to have those that lie under their names.
theorem unstarted_runGroup {host : Host} (idle : host.RefusesIdly) (config : Config)
    (group : TestGroup) (fs : FileSystem) :
    let result := (Execution.runGroup host config group fs).1.result
    (∀ reason, result.status = .launchFailed reason → ∃ stdout stderr ready,
      group.Readies fs stdout stderr ready ∧ result.Collected config ready ∧
      (result.stdoutPath = none ↔ ¬ ready.Stuck group.stdoutPath) ∧
      (result.stderrPath = none ↔
        ¬ (Capture.prune group.stdoutPath config.pruneThreshold ready).2.Stuck group.stderrPath) ∧
      ∀ text, result.stderr = some text → text = "") ∧
    (∀ reason, result.status = .captureFailed reason →
      (∃ left, group.Stops fs left ∧ result.Collected config left) ∧
      ∀ place opened, fs.create group.stdoutPath = .ok (place, opened) →
        (result.stdoutPath = none ↔ ¬ opened.Stuck group.stdoutPath) ∧
        ∀ text, result.stderr = some text → ∃ e : IoError,
          text = "<failed to read " ++ group.stderrPath.display ++ ": " ++ e.message ++ ">") ∧
    ((∀ place, fs.medium.Permits .remove place) →
      (∀ reason, result.status = .launchFailed reason →
        result.stdoutPath = none ∧ result.stderrPath = none ∧ result.stderr = none) ∧
      ∀ reason, result.status = .captureFailed reason →
        ∀ place opened, fs.create group.stdoutPath = .ok (place, opened) →
          result.stdoutPath = none) ∧
    ∀ reason, result.status = .launchFailed reason ∨ result.status = .captureFailed reason →
      ∀ results elapsed, result ∈ results → (results.map fun r => r.group.name).Nodup →
        let report := Report.ofResults results elapsed
        group.name ∈ report.crashedGroups ∧ (group.name ∈ report.errorOutputGroups ↔
          result.stderr.isSome = true ∧ config.expectsStderr group.name = false) := by
  intro result
  have collected : result.Collected config (Execution.start host config group fs).2 :=
    Execution.collected_collect
  have launch (reason : String) (failed : result.status = .launchFailed reason) :
      ∃ stdout stderr, group.Readies fs stdout stderr (Execution.start host config group fs).2 :=
    Execution.readies_of_launchFailed idle failed
  have capture (reason : String) (failed : result.status = .captureFailed reason) :
      group.Stops fs (Execution.start host config group fs).2 :=
    Execution.stops_of_captureFailed failed
  have refused (reason : String) (failed : result.status = .captureFailed reason)
      (place : Location) (opened : FileSystem)
      (first : fs.create group.stdoutPath = .ok (place, opened)) :
      (result.stdoutPath = none ↔ ¬ opened.Stuck group.stdoutPath) ∧
        ∀ text, result.stderr = some text → ∃ e : IoError,
          text = "<failed to read " ++ group.stderrPath.display ++ ": " ++ e.message ++ ">" := by
    obtain ⟨same, cause, refused⟩ := (capture reason failed).of_opened first
    rw [same] at collected
    exact collected.of_refused first refused
  refine ⟨fun reason failed => ?_, fun reason failed => ?_, fun permits => ⟨?_, ?_⟩, ?_⟩
  · obtain ⟨stdout, stderr, readies⟩ := launch reason failed
    exact ⟨stdout, stderr, _, readies, collected, collected.of_readies readies⟩
  · exact ⟨⟨_, capture reason failed, collected⟩, refused reason failed⟩
  · intro reason failed
    obtain ⟨stdout, stderr, readies⟩ := launch reason failed
    obtain ⟨out, err, -⟩ := collected.of_readies readies
    obtain ⟨freeOut, freeErr⟩ := not_stuck_ready permits readies
    have gone : result.stderrPath = none := err.2 freeErr
    exact ⟨out.2 freeOut, gone, by rw [collected.text, gone, Option.map_none]⟩
  · intro reason failed place opened first
    exact (refused reason failed place opened first).1.2 (not_stuck_opened permits first)
  · intro reason failed results elapsed member apart report
    have problem : result.harnessProblem?.isSome = true := by
      rw [GroupResult.harnessProblem?, GroupResult.verdict]
      rcases failed with failed | failed
      · rw [failed]
        rfl
      · rw [failed]
        rfl
    exact ⟨Report.mem_crashedGroups member problem,
      (Report.mem_errorOutputGroups_iff member apart).trans collected.hasUnexpectedStderr_iff⟩

-- There is no test binary, and the first group has a capture of an earlier run.
theorem tree_unstarted_runGroup :
    let result := (Execution.runGroup Programs.host Sample.config (Sample.group "groupA")
      Sample.tree).1.result
    Programs.host.RefusesIdly ∧ (∃ reason, result.status = .launchFailed reason) ∧
      (result.stdoutPath = none ∧ result.stderrPath = none ∧ result.stderr = none) ∧
      "groupA" ∈ (Report.ofResults [result] .zero).crashedGroups ∧
      "groupA" ∉ (Report.ofResults [result] .zero).errorOutputGroups := by
  intro result
  obtain ⟨-, -, permitted, listed⟩ := unstarted_runGroup Programs.host_refusesIdly Sample.config
    (Sample.group "groupA") Sample.tree
  have failed : result.status =
      .launchFailed "failed to launch /bin/tool: No such file or directory (os error 2)" := by
    decide +kernel
  obtain ⟨crashed, quiet⟩ := listed _ (.inl failed) [result] .zero List.mem_cons_self
    (List.nodup_singleton _)
  have nothing := (permitted fun _ => rfl).1 _ failed
  refine ⟨Programs.host_refusesIdly, ⟨_, failed⟩, nothing, crashed, fun noisy => ?_⟩
  have there := (quiet.1 noisy).1
  rw [nothing.2.2] at there
  cases there

namespace Sample

def blocked : FileSystem :=
  (tree.put (stdoutName :: place "groupB") .directory).put (stderrName :: place "groupB")
    (.file (Utf8.encode "an old error\n") false)

end Sample

theorem stale_stderr_reported :
    let result := (Execution.runGroup Programs.host Sample.config (Sample.group "groupB")
      Sample.blocked).1.result
    result.status = .captureFailed
        "failed to create /tests/groupB/stdout.txt: Is a directory (os error 21)" ∧
      result.stdoutPath = some (Sample.group "groupB").stdoutPath ∧
      result.stderrPath = some (Sample.group "groupB").stderrPath ∧
      result.stderr = some "an old error\n" ∧
      "groupB" ∈ (Report.ofResults [result] .zero).errorOutputGroups := by
  decide +kernel

end GroupRunner
