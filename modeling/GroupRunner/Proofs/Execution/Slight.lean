import GroupRunner.Programs.Behaviour
import GroupRunner.Proofs.Execution.Groups
import GroupRunner.Proofs.Execution.Unstarted

set_option autoImplicit false

namespace GroupRunner

namespace Report

variable {before after : List GroupResult} {result : GroupResult} {elapsed : Duration}

theorem errorOutputGroups_of_quiet (quiet : result.hasUnexpectedStderr = false) :
    (ofResults (before ++ result :: after) elapsed).errorOutputGroups =
      (ofResults (before ++ after) elapsed).errorOutputGroups := by
  have dropped : (result :: after).filter GroupResult.hasUnexpectedStderr =
      after.filter GroupResult.hasUnexpectedStderr := List.filter_cons_of_neg (by simp [quiet])
  simp only [errorOutputGroups_ofResults, List.filter_append, dropped]

theorem verdict_of_quiet (passed : result.status = .exited 0)
    (quiet : result.hasUnexpectedStderr = false) :
    (ofResults (before ++ result :: after) elapsed).verdict =
      (ofResults (before ++ after) elapsed).verdict := by
  apply verdict_congr
  simp only [verdict_eq_success_iff, List.forall_mem_append, List.forall_mem_cons, passed, quiet,
    and_self, true_and]

end Report

theorem slight_stderr_runGroup {host : Host} {config : Config} {group : TestGroup}
    {fs left : FileSystem} {exit : Exit}
    (started : Execution.start host config group fs = (.ok exit, left))
    (slight : left.Slight config.pruneThreshold group.stderrPath) :
    let result := (Execution.runGroup host config group fs).1.result
    let pruned := (Capture.prune group.stdoutPath config.pruneThreshold left).2
    result.status = .ofExit exit ∧
    (result.hasUnexpectedStderr = true ↔
      pruned.Stuck group.stderrPath ∧ config.expectsStderr group.name = false) ∧
    (pruned.Stuck group.stderrPath → result.stderrPath = some group.stderrPath ∧
      result.stderr = some (Execution.readKept group.stderrPath pruned)) ∧
    (¬ pruned.Stuck group.stderrPath → result.stderrPath = none ∧ result.stderr = none ∧
      ∀ before after elapsed,
        let report := Report.ofResults (before ++ result :: after) elapsed
        let others := Report.ofResults (before ++ after) elapsed
        report.errorOutputGroups = others.errorOutputGroups ∧
        (exit = .code 0 → report.verdict = others.verdict)) ∧
    (pruned.Stuck group.stderrPath ↔ (∃ found, pruned.find group.stderrPath = .ok found) ∧
      ∃ own mine, pruned.findItself group.stderrPath = .ok (own, mine) ∧
        (mine = .directory ∨ ¬ pruned.medium.Permits .remove own)) := by
  intro result pruned
  have collects : result = (Execution.collect config group (.ofExit exit) (host.groupTime group)
      left).1.result := by
    simp only [result, Execution.runGroup, started]
    rfl
  have status : result.status = .ofExit exit := by rw [collects]; rfl
  have own : result.group = group := rfl
  have collected : result.Collected config left := by
    rw [collects]
    exact Execution.collected_collect
  have trifling : pruned.Trifling config.pruneThreshold group.stderrPath ↔
      ¬ pruned.Stuck group.stderrPath :=
    and_iff_right (slight.thinned (Capture.thins_prune ..))
  have gone : result.stderrPath = none ↔ ¬ pruned.Stuck group.stderrPath := by
    rw [collected.stderr, own]
    exact trifling
  have told : result.stderr.isSome = true ↔ pruned.Stuck group.stderrPath := by
    rw [collected.text, Option.isSome_map, Option.isSome_iff_ne_none, ne_eq, gone, not_not]
  refine ⟨status, ?_, fun stuck => ?_, fun free => ?_, FileSystem.stuck_iff proper_stderrName⟩
  · rw [collected.hasUnexpectedStderr_iff, told, own]
  · have kept : result.stderrPath = some group.stderrPath := by
      rw [collects]
      apply (Execution.prune_kept group.stderrPath _).2
      exact fun few => trifling.1 few stuck
    refine ⟨kept, ?_⟩
    rw [collected.text, kept, own, Option.map_some]
  · have empty : result.stderrPath = none := gone.2 free
    have silent : result.stderr = none := by rw [collected.text, empty, Option.map_none]
    have quiet : result.hasUnexpectedStderr = false := by
      rw [GroupResult.hasUnexpectedStderr, silent]
      rfl
    refine ⟨empty, silent, fun before after elapsed => ⟨?_, fun passed => ?_⟩⟩
    · exact Report.errorOutputGroups_of_quiet quiet
    · apply Report.verdict_of_quiet _ quiet
      rw [status, passed]
      rfl

-- One byte was written, and two are allowed.
theorem tree_slight_stderr :
    let group := Sample.group "groupA"
    let started := Execution.start Sample.script.host Sample.config group Sample.tree
    let result := (Execution.runGroup Sample.script.host Sample.config group Sample.tree).1.result
    started.1 = .ok (.code 0) ∧ started.2.size group.stderrPath = .ok 1 ∧
      result.stderrPath = none ∧ result.hasUnexpectedStderr = false ∧
      (Report.ofResults [result] .zero).verdict = .success := by
  intro group started result
  have ended : started.1 = .ok (.code 0) := by decide +kernel
  have few : started.2.size group.stderrPath = .ok 1 := by decide +kernel
  have begun : Execution.start Sample.script.host Sample.config group Sample.tree =
      (.ok (.code 0), started.2) := Prod.ext ended rfl
  obtain ⟨-, unexpected, -, free, -⟩ := slight_stderr_runGroup begun (.inr ⟨1, few, by decide⟩)
  have loose : ¬ (Capture.prune group.stdoutPath Sample.config.pruneThreshold started.2).2.Stuck
      group.stderrPath := by
    rintro ⟨-, cause, refused⟩
    have removed : ((Capture.prune group.stdoutPath Sample.config.pruneThreshold
        started.2).2.removeFile group.stderrPath).isOk = true := by decide +kernel
    rw [refused] at removed
    cases removed
  obtain ⟨gone, -, others⟩ := free loose
  refine ⟨ended, few, gone, ?_, (others [] [] .zero).2 rfl⟩
  rw [Bool.eq_false_iff, ne_eq, unexpected]
  exact fun news => loose news.1

namespace Sample

def untidy : FileSystem :=
  ((Programs.standardFiles.put tests .directory).put (place "groupA") .directory).put
    (Utf8.encode "test_group.c" :: place "groupA")
    (.file (Programs.Behaviour.source { remove := [stderrFile], makeDirs := [stderrFile] }) false)

def lavish : Config :=
  { binary := .ofString "/bin/sh", extraArgs := [], pruneThreshold := 4096 }

end Sample

theorem stuck_stderr_reported :
    let group := Sample.group "groupA"
    let started := Execution.start Programs.host Sample.lavish group Sample.untidy
    let result := (Execution.runGroup Programs.host Sample.lavish group Sample.untidy).1.result
    started.1 = .ok (.code 0) ∧
      started.2.Slight Sample.lavish.pruneThreshold group.stderrPath ∧
      result.hasUnexpectedStderr = true ∧
      (Report.ofResults [result] .zero).errorOutputGroups = ["groupA"] ∧
      (Report.ofResults [result] .zero).verdict = .failed := by
  have held : (Execution.start Programs.host Sample.lavish (Sample.group "groupA")
      Sample.untidy).2.size (Sample.group "groupA").stderrPath = .ok 4096 := by
    decide +kernel
  exact ⟨by decide +kernel, .inr ⟨4096, held, Nat.le_refl _⟩, by decide +kernel,
    by decide +kernel, by decide +kernel⟩

end GroupRunner
