import GroupRunner.Proofs.Execution.Group
import GroupRunner.Proofs.Execution.Pruning

set_option autoImplicit false

namespace GroupRunner

namespace TestGroup

-- The captures are opened one after the other, and nothing has been written to them yet.
inductive Readies (group : TestGroup) (fs : FileSystem) :
    Location → Location → FileSystem → Prop
  | opened {stdout stderr : Location} {opened ready : FileSystem}
      (first : fs.create group.stdoutPath = .ok (stdout, opened))
      (second : opened.create group.stderrPath = .ok (stderr, ready)) :
      Readies group fs stdout stderr ready

-- The captures cannot both be opened; the first one may have been.
inductive Stops (group : TestGroup) (fs : FileSystem) : FileSystem → Prop
  | stdout {cause : IoError} (refused : fs.create group.stdoutPath = .error cause) :
      Stops group fs fs
  | stderr {place : Location} {opened : FileSystem} {cause : IoError}
      (first : fs.create group.stdoutPath = .ok (place, opened))
      (refused : opened.create group.stderrPath = .error cause) : Stops group fs opened

section Captures

variable {group : TestGroup} {fs left opened ready : FileSystem} {place stdout stderr : Location}

theorem Stops.of_opened (stops : group.Stops fs left)
    (first : fs.create group.stdoutPath = .ok (place, opened)) :
    left = opened ∧ ∃ cause, opened.create group.stderrPath = .error cause := by
  cases stops with
  | stdout refused =>
    rw [first] at refused
    cases refused
  | stderr first' refused =>
    rw [first, Except.ok.injEq, Prod.mk.injEq] at first'
    obtain ⟨-, rfl⟩ := first'
    exact ⟨rfl, _, refused⟩

theorem Readies.find (readies : group.Readies fs stdout stderr ready) :
    (∃ entry, ready.find group.stdoutPath = .ok (stdout, entry) ∧ entry.isEmptied = true) ∧
      ∃ entry, ready.find group.stderrPath = .ok (stderr, entry) ∧ entry.isEmptied = true := by
  obtain ⟨first, second⟩ := readies
  obtain ⟨-, empty, -⟩ := FileSystem.emptied_of_create first
  obtain ⟨keeps, empty', still⟩ := FileSystem.emptied_of_create second
  exact ⟨FileSystem.find_of_create first keeps (still _ empty),
    FileSystem.find_of_create second (.refl _) empty'⟩

theorem Readies.medium (readies : group.Readies fs stdout stderr ready) :
    ready.medium = fs.medium := by
  obtain ⟨first, second⟩ := readies
  exact (FileSystem.emptied_of_create second).1.medium.trans
    (FileSystem.emptied_of_create first).1.medium

end Captures

end TestGroup

-- What a result tells of the captures is what was under their names when they were collected. The
-- first one has been pruned by the time that the second one is looked at.
structure GroupResult.Collected (config : Config) (left : FileSystem) (result : GroupResult) :
    Prop where
  stdout : result.stdoutPath = none ↔ left.Trifling config.pruneThreshold result.group.stdoutPath
  stderr : result.stderrPath = none ↔
    (Capture.prune result.group.stdoutPath config.pruneThreshold left).2.Trifling
      config.pruneThreshold result.group.stderrPath
  text : result.stderr = result.stderrPath.map fun _ => Execution.readKept result.group.stderrPath
    (Capture.prune result.group.stdoutPath config.pruneThreshold left).2
  expected : result.stderrExpected =
    (result.stderrPath.isSome && config.expectsStderr result.group.name)

theorem GroupResult.Collected.hasUnexpectedStderr_iff {config : Config} {left : FileSystem}
    {result : GroupResult} (collected : result.Collected config left) :
    result.hasUnexpectedStderr = true ↔
      result.stderr.isSome = true ∧ config.expectsStderr result.group.name = false := by
  have kept : result.stderrPath.isSome = result.stderr.isSome := by
    rw [collected.text, Option.isSome_map]
  rw [GroupResult.hasUnexpectedStderr, collected.expected, kept]
  cases result.stderr <;> simp

namespace Execution

section Collect

variable {host : Host} {config : Config} {group : TestGroup} {fs left : FileSystem}
variable {status : Status} {duration : Duration} {reason : String}

theorem collected_collect :
    (collect config group status duration left).1.result.Collected config left := by
  refine ⟨keptPath_eq_none_iff, keptPath_eq_none_iff, ?_, rfl⟩
  let pruned := (Capture.prune group.stdoutPath config.pruneThreshold left).2
  let looked := Capture.prune group.stderrPath config.pruneThreshold pruned
  change (keptPath group.stderrPath looked.1).map (fun path => readKept path looked.2) =
    (keptPath group.stderrPath looked.1).map fun _ => readKept group.stderrPath pruned
  by_cases trifling : pruned.Trifling config.pruneThreshold group.stderrPath
  · have gone : keptPath group.stderrPath looked.1 = none :=
      keptPath_eq_none_iff.2 trifling
    rw [gone, Option.map_none, Option.map_none]
  · -- A capture that is kept is read where it was looked at.
    have kept : looked.2 = pruned ∧ keptPath group.stderrPath looked.1 = some group.stderrPath :=
      prune_kept group.stderrPath trifling
    rw [kept.1, kept.2, Option.map_some, Option.map_some]

theorem start_of_readies {stdout stderr : Location} {ready : FileSystem}
    (readies : group.Readies fs stdout stderr ready) :
    start host config group fs =
      let answer := host.launch (launchOf config group stdout stderr) ready
      (answer.1.mapError (.launch config.binary.display), answer.2) := by
  obtain ⟨first, second⟩ := readies
  simp only [start, openCapture, first, second]
  cases host.launch (launchOf config group stdout stderr) ready with
  | mk exit after => cases exit <;> rfl

theorem start_cases (host : Host) (config : Config) (group : TestGroup) (fs : FileSystem) :
    (∃ path cause left, start host config group fs = (.error (.capture path cause), left) ∧
      group.Stops fs left) ∨
    ∃ stdout stderr ready exit after, group.Readies fs stdout stderr ready ∧
      host.launch (launchOf config group stdout stderr) ready = (exit, after) ∧
      start host config group fs = (exit.mapError (.launch config.binary.display), after) := by
  cases out : fs.create group.stdoutPath with
  | error cause =>
    exact .inl ⟨group.stdoutPath.display, cause, fs, by simp [start, openCapture, out], .stdout out⟩
  | ok first =>
    obtain ⟨stdout, opened⟩ := first
    cases err : opened.create group.stderrPath with
    | error cause =>
      exact .inl ⟨group.stderrPath.display, cause, opened, by simp [start, openCapture, out, err],
        .stderr out err⟩
    | ok second =>
      obtain ⟨stderr, ready⟩ := second
      have readies : group.Readies fs stdout stderr ready := .opened out err
      exact .inr ⟨stdout, stderr, ready, _, _, readies, rfl, start_of_readies readies⟩

end Collect

end Execution

end GroupRunner
