import GroupRunner.Proofs.Execution.Groups
import GroupRunner.Proofs.Report
import Mathlib.Data.List.Pairwise

set_option autoImplicit false

namespace GroupRunner

section Alone

variable {host other : Host} {script : Script} {config : Config} {dir : Location}
variable {fs : FileSystem} {groups order : List TestGroup}

def Script.result (script : Script) (config : Config) (dir : Location) (fs : FileSystem)
    (group : TestGroup) : GroupResult :=
  (script.outcome config dir fs .zero group).1

theorem group_result (group : TestGroup) : (script.result config dir fs group).group = group := rfl

theorem timeless_results (runs : Runs host script config dir fs groups) :
    (Execution.results host config groups fs).map GroupResult.timeless =
      groups.map (script.result config dir fs) := by
  rw [runs.results, List.map_map]
  rfl

theorem report_of_runs (runs : Runs host script config dir fs groups) (elapsed : Duration) :
    let report := Report.ofResults (Execution.results host config groups fs) elapsed
    let sum := Report.ofResults (groups.map (script.result config dir fs)) .zero
    report.totalFailedTests = sum.totalFailedTests ∧ report.verdict = sum.verdict ∧
      report.crashedGroups = sum.crashedGroups ∧
      report.errorOutputGroups = sum.errorOutputGroups := by
  intro report sum
  have alike := timeless_results runs
  refine ⟨?_, ?_, ?_, ?_⟩
  · rw [← Report.totalFailedTests_timeless, alike]
  · rw [← Report.verdict_timeless, alike]
  · rw [← Report.crashedGroups_timeless, alike]
  · rw [← Report.errorOutputGroups_timeless, alike]

theorem timeless_runGroup (follows : host.Follows script) (laid : Laid dir fs groups)
    {group : TestGroup} (member : group ∈ groups) :
    (Execution.runGroup host config group fs).1.result.timeless =
      script.result config dir fs group := by
  rw [(runGroup_eq follows (laid.leads group member) (laid.noLink group member)).1]
  rfl

theorem filter_names (apart : groups.Pairwise fun a b => a.name ≠ b.name)
    (among : ∀ group ∈ order, group ∈ groups) (pick : GroupResult → Bool) :
    ((order.map (script.result config dir fs)).filter pick).map (·.group.name) =
      (order.filter fun group => group.name ∈
        ((groups.map (script.result config dir fs)).filter pick).map (·.group.name)).map
          (·.name) := by
  rw [Report.names_filter group_result]
  congr 1
  apply List.filter_congr
  intro group member
  -- No two groups share a name, so the names pick the groups that they were taken from.
  rw [Bool.eq_iff_iff, decide_eq_true_iff]
  exact (Report.mem_names_iff group_result apart pick (among group member)).symm

end Alone

theorem accepts_wider {narrow wider : IgnoreSet}
    (wide : ∀ fragment ∈ narrow.fragments, fragment ∈ wider.fragments) :
    wider.accepts = fun name => narrow.accepts name && !wider.covers name := by
  funext name
  have covered : narrow.covers name = true → wider.covers name = true := by
    simp only [IgnoreSet.covers, List.any_eq_true]
    rintro ⟨fragment, member, holds⟩
    exact ⟨fragment, wide fragment member, holds⟩
  unfold IgnoreSet.accepts
  cases narrowed : narrow.covers name with
  | true => simp [covered narrowed]
  | false => simp

theorem select_wider {root : Path} {config : Config} {fs : FileSystem} {groups : List TestGroup}
    {found : List Log.Event} {wider : IgnoreSet}
    (wide : ∀ fragment ∈ config.ignore.fragments, fragment ∈ wider.fragments)
    (selected : Suite.select root config fs = .ok (groups, found)) :
    ∃ found', Suite.select root { config with ignore := wider } fs =
      .ok (groups.filter fun group => !wider.covers group.name, found') := by
  obtain ⟨named, entries, listed, rfl, -⟩ := select_eq_ok_iff.1 selected
  obtain ⟨dir, -, same, -⟩ := FileSystem.lists_iff.1 listed
  subst same
  refine ⟨_, select_eq_ok_iff.2 ⟨named, _, listed, ?_, rfl⟩⟩
  change _ = Discovery.groups root wider.accepts (fs.children dir)
  rw [accepts_wider wide, Discovery.groups_and _ (FileSystem.nodup_children fs dir)]

theorem groups_isolated {script : Script} {host other : Host} (follows : host.Follows script)
    (follows' : other.Follows script) {root : Path} {config : Config} {fs : FileSystem}
    {groups : List TestGroup} {found : List Log.Event} (proper : fs.ProperNames)
    (selected : Suite.select root config fs = .ok (groups, found))
    (noLink : ∀ group ∈ groups, fs.NoLink group.stdoutPath ∧ fs.NoLink group.stderrPath) :
    (∀ part, part.Subperm groups →
      (Execution.results host config part fs).map (·.group) = part ∧
      (Execution.results host config part fs).map GroupResult.timeless =
        part.map fun group => (Execution.runGroup other config group fs).1.result.timeless) ∧
    (∀ order, order.Perm groups →
      let report := Report.ofResults (Execution.results host config groups fs) host.totalTime
      let report' := Report.ofResults (Execution.results other config order fs) other.totalTime
      (Execution.after host config groups fs).Same (Execution.after other config order fs) ∧
      report'.totalFailedTests = report.totalFailedTests ∧
      report'.verdict = report.verdict ∧
      report'.exitCode = report.exitCode ∧
      report'.crashedGroups =
        (order.filter fun group => group.name ∈ report.crashedGroups).map (·.name) ∧
      report'.errorOutputGroups =
        (order.filter fun group => group.name ∈ report.errorOutputGroups).map (·.name)) ∧
    ∀ wider : IgnoreSet, (∀ fragment ∈ config.ignore.fragments, fragment ∈ wider.fragments) →
      ∃ run fewer,
        (Suite.run host root config fs).1 = .ok run ∧
        (Suite.run other root { config with ignore := wider } fs).1 = .ok fewer ∧
        fewer.report.results.map GroupResult.timeless =
          (run.report.results.map GroupResult.timeless).filter fun result =>
            !wider.covers result.group.name := by
  obtain ⟨dir, -, -, laid⟩ := laid_of_select proper selected noLink
  have runs := runs_of_laid config follows laid
  refine ⟨fun part among => ?_, fun order perm => ?_, fun wider wide => ?_⟩
  · refine ⟨Execution.groups_of_results part, ?_⟩
    rw [timeless_results (runs_of_laid config follows (laid.subperm among))]
    exact List.map_congr_left fun group member =>
        (timeless_runGroup follows' laid (among.subset member)).symm
  · have runs' := runs_of_laid config follows' (laid.subperm perm.subperm)
    obtain ⟨total, verdict, crashed, errors⟩ := report_of_runs runs host.totalTime
    obtain ⟨total', verdict', crashed', errors'⟩ := report_of_runs runs' other.totalTime
    have perm' := perm.map (script.result config dir fs)
    have sameVerdict := verdict'.trans ((Report.verdict_perm perm').trans verdict.symm)
    have among : ∀ group ∈ order, group ∈ groups := fun group member => perm.mem_iff.1 member
    refine ⟨same_of_runs runs runs' perm, ?_, sameVerdict, ?_, ?_, ?_⟩
    · exact total'.trans ((Report.totalFailedTests_perm perm').trans total.symm)
    · rw [Report.exitCode, Report.exitCode, sameVerdict]
    · rw [crashed, crashed']
      exact filter_names laid.apart among _
    · rw [errors, errors']
      exact filter_names laid.apart among _
  · obtain ⟨found', selected'⟩ := select_wider wide selected
    obtain ⟨run, ran, report⟩ := run_of_select host selected
    obtain ⟨fewer, ran', report'⟩ := run_of_select other selected'
    have fewerRuns := runs_of_laid { config with ignore := wider } follows'
      (laid.subperm (List.filter_sublist (p := fun group => !wider.covers group.name)).subperm)
    refine ⟨run, fewer, by rw [ran], by rw [ran'], ?_⟩
    rw [report, report']
    change (Execution.results ..).map _ = ((Execution.results ..).map _).filter _
    rw [timeless_results runs, timeless_results fewerRuns, List.filter_map]
    rfl

theorem tree_groups_isolated :
    (Execution.results Sample.script.host Sample.config [Sample.group "groupB"] Sample.tree).map
        GroupResult.timeless =
      [(Execution.runGroup Sample.script.host Sample.config (Sample.group "groupB")
        Sample.tree).1.result.timeless] ∧
    (Execution.after Sample.script.host Sample.config
        [Sample.group "groupA", Sample.group "groupB"] Sample.tree).Same
      (Execution.after Sample.script.host Sample.config
        [Sample.group "groupB", Sample.group "groupA"] Sample.tree) := by
  have isolated := groups_isolated Sample.script.host_follows Sample.script.host_follows
    (by decide +kernel) Sample.select_tree (by decide +kernel)
  refine ⟨(isolated.1 [Sample.group "groupB"] ?_).2, (isolated.2.1 _ (.swap ..)).1⟩
  exact (List.Sublist.cons _ (.refl _)).subperm

end GroupRunner
