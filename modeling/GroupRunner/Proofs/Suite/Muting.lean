import GroupRunner.Proofs.Execution.Groups
import GroupRunner.Proofs.Report
import Mathlib.Data.List.Pairwise

set_option autoImplicit false

namespace GroupRunner

theorem Slot.isSome_keptPath {medium : Medium} {place : Location} {tooLong : Bool}
    {threshold : Nat} {slot : Slot} {path : Path} :
    (Execution.keptPath path (slot.pruned medium place tooLong threshold).1).isSome =
      slot.stays medium place tooLong threshold := by
  rw [keptPath_pruned]
  cases slot.stays medium place tooLong threshold <;> rfl

structure Config.Quieter (config quiet : Config) : Prop where
  same : quiet = { config with
    pruneThreshold := quiet.pruneThreshold, expectedStderr := quiet.expectedStderr }
  threshold : config.pruneThreshold ≤ quiet.pruneThreshold
  expected : config.expectedStderr ⊆ quiet.expectedStderr

-- The second result is the first one, but for captures that are no longer kept and error output
-- that is no longer news.
structure GroupResult.Muted (quiet : Config) (loud soft : GroupResult) : Prop where
  group : soft.group = loud.group
  status : soft.status = loud.status
  stdout : soft.stdoutPath = none ∨ soft.stdoutPath = loud.stdoutPath
  stderr : soft.stderrPath = none ∨ soft.stderrPath = loud.stderrPath ∧ soft.stderr = loud.stderr
  unexpected : soft.hasUnexpectedStderr = true ↔ loud.hasUnexpectedStderr = true ∧
    soft.stderrPath.isSome = true ∧ soft.group.name ∉ quiet.expectedStderr

section Group

variable {medium : Medium} {home : Location} {config quiet : Config} {group : TestGroup}
variable {status : Status} {slots : Slots}
variable {script : Script} {duration time : Duration}

theorem keptPath_of_quieter (quieter : config.Quieter quiet) (medium : Medium) (place : Location)
    (tooLong : Bool) (slot : Slot) (path : Path) :
    Execution.keptPath path (slot.pruned medium place tooLong quiet.pruneThreshold).1 = none ∨
      Execution.keptPath path (slot.pruned medium place tooLong quiet.pruneThreshold).1 =
          Execution.keptPath path (slot.pruned medium place tooLong config.pruneThreshold).1 ∧
        (slot.pruned medium place tooLong quiet.pruneThreshold).2 =
          (slot.pruned medium place tooLong config.pruneThreshold).2 := by
  simp only [Slot.keptPath_pruned, Slot.left_pruned]
  cases kept : slot.stays medium place tooLong quiet.pruneThreshold with
  | false => exact .inl rfl
  | true =>
    rw [Slot.stays_of_le quieter.threshold kept]
    exact .inr ⟨rfl, rfl⟩

theorem hasUnexpectedStderr_collect :
    (slots.collect medium home config group status duration).1.hasUnexpectedStderr = true ↔
      (slots.collect medium home config group status duration).1.stderrPath.isSome = true ∧
        group.name ∉ config.expectedStderr := by
  simp only [Slots.collect, GroupResult.hasUnexpectedStderr, Option.isSome_map,
    Config.expectsStderr]
  cases (Execution.keptPath group.stderrPath (slots.stderr.pruned medium (stderrName :: home)
    group.stderrPath.isTooLong config.pruneThreshold).1).isSome <;> simp

theorem muted_collect (quieter : config.Quieter quiet) :
    GroupResult.Muted quiet (slots.collect medium home config group status duration).1
      (slots.collect medium home quiet group status time).1 := by
  have stdout := keptPath_of_quieter quieter medium (stdoutName :: home)
    group.stdoutPath.isTooLong slots.stdout group.stdoutPath
  have stderr := keptPath_of_quieter quieter medium (stderrName :: home)
    group.stderrPath.isTooLong slots.stderr group.stderrPath
  refine ⟨rfl, rfl, stdout.imp_right And.left, ?_, ?_⟩
  · cases stderr with
    | inl gone => exact .inl gone
    | inr kept =>
      right
      simp only [Slots.collect, kept.1, kept.2, and_self]
  · rw [hasUnexpectedStderr_collect, hasUnexpectedStderr_collect]
    constructor
    · rintro ⟨kept, news⟩
      have before : (slots.collect medium home config group status duration).1.stderrPath.isSome =
          true :=
        Slot.isSome_keptPath.trans (Slot.stays_of_le quieter.threshold
          (Slot.isSome_keptPath.symm.trans kept))
      exact ⟨⟨before, fun listed => news (quieter.expected listed)⟩, kept, news⟩
    · rintro ⟨-, kept, news⟩
      exact ⟨kept, news⟩

theorem muted_outcome (quieter : config.Quieter quiet) (dir : Location) (fs : FileSystem)
    (group : TestGroup) :
    GroupResult.Muted quiet (script.outcome config dir fs duration group).1
      (script.outcome quiet dir fs time group).1 := by
  -- What the group is started with is told by the common part of the configurations.
  have started : (fs.slots (group.home dir)).start quiet group (script.child quiet group) =
      (fs.slots (group.home dir)).start config group (script.child config group) := by
    rw [quieter.same]
    rfl
  rw [Script.outcome, Script.outcome, Slots.run, Slots.run, started]
  exact muted_collect quieter

end Group

namespace Report

def keeping (capture : GroupResult → Option Path) (report : Report) : List TestGroup :=
  (report.results.filter fun result => (capture result).isSome).map (·.group)

structure Muted (quiet : Config) (loud soft : Report) : Prop where
  results : List.Forall₂ (GroupResult.Muted quiet) loud.results soft.results
  groups : soft.results.map (·.group) = loud.results.map (·.group)
  statuses : soft.results.map (·.status) = loud.results.map (·.status)
  total : soft.totalFailedTests = loud.totalFailedTests
  crashed : soft.crashedGroups = loud.crashedGroups
  stdout : (soft.keeping (·.stdoutPath)).Sublist (loud.keeping (·.stdoutPath))
  stderr : (soft.keeping (·.stderrPath)).Sublist (loud.keeping (·.stderrPath))
  errors : soft.errorOutputGroups = loud.errorOutputGroups.filter fun name =>
    name ∈ (soft.keeping (·.stderrPath)).map (·.name) ∧ name ∉ quiet.expectedStderr
  success : loud.verdict = .success → soft.verdict = .success

section Muted

variable {quiet : Config} {groups : List TestGroup} {loud soft : TestGroup → GroupResult}
variable {elapsed time : Duration}

theorem map_congr_results {A : Type} {f : GroupResult → A}
    (same : ∀ group, f (soft group) = f (loud group)) :
    (groups.map soft).map f = (groups.map loud).map f := by
  simp only [List.map_map, Function.comp_def, same]

theorem keeping_ofResults (own : ∀ group, (loud group).group = group)
    (capture : GroupResult → Option Path) :
    (ofResults (groups.map loud) elapsed).keeping capture =
      groups.filter fun group => (capture (loud group)).isSome :=
  groups_filter own _

theorem keeping_sublist (own : ∀ group, (loud group).group = group)
    (own' : ∀ group, (soft group).group = group) {capture : GroupResult → Option Path}
    (less : ∀ group, capture (soft group) = none ∨ capture (soft group) = capture (loud group)) :
    ((ofResults (groups.map soft) time).keeping capture).Sublist
      ((ofResults (groups.map loud) elapsed).keeping capture) := by
  rw [keeping_ofResults own', keeping_ofResults own]
  apply List.monotone_filter_right
  intro group kept
  cases less group with
  | inl gone =>
    rw [gone] at kept
    cases kept
  | inr same => rwa [← same]

theorem mem_keeping_iff (own : ∀ group, (loud group).group = group)
    (apart : groups.Pairwise fun a b => a.name ≠ b.name) (capture : GroupResult → Option Path)
    {group : TestGroup} (member : group ∈ groups) :
    group.name ∈ ((ofResults (groups.map loud) elapsed).keeping capture).map (·.name) ↔
      (capture (loud group)).isSome = true := by
  rw [keeping, List.map_map]
  exact mem_names_iff own apart _ member

theorem muted_ofResults (own : ∀ group, (loud group).group = group)
    (muted : ∀ group, GroupResult.Muted quiet (loud group) (soft group))
    (apart : groups.Pairwise fun a b => a.name ≠ b.name) :
    Muted quiet (ofResults (groups.map loud) elapsed) (ofResults (groups.map soft) time) := by
  have own' (group : TestGroup) : (soft group).group = group :=
    (muted group).group.trans (own group)
  have verdict (group : TestGroup) : (soft group).verdict = (loud group).verdict :=
    congrArg Status.verdict (muted group).status
  refine ⟨?_, ?_, ?_, ?_, ?_, ?_, ?_, ?_, ?_⟩
  · change List.Forall₂ _ (groups.map loud) (groups.map soft)
    rw [List.forall₂_map_left_iff, List.forall₂_map_right_iff, List.forall₂_same]
    exact fun group _ => muted group
  · exact map_congr_results fun group => (muted group).group
  · exact map_congr_results fun group => (muted group).status
  · rw [totalFailedTests_ofResults, totalFailedTests_ofResults]
    apply congrArg List.sum
    exact map_congr_results fun group => congrArg GroupVerdict.failedTests (verdict group)
  · rw [crashedGroups_ofResults, crashedGroups_ofResults, names_filter own', names_filter own]
    simp only [GroupResult.harnessProblem?, verdict]
  · apply keeping_sublist own own'
    exact fun group => (muted group).stdout
  · apply keeping_sublist own own'
    exact fun group => (muted group).stderr.imp_right And.left
  · rw [errorOutputGroups_ofResults, errorOutputGroups_ofResults, names_filter own',
      names_filter own, List.filter_map, List.filter_filter]
    congr 1
    apply List.filter_congr
    intro group member
    rw [Bool.eq_iff_iff, (muted group).unexpected, own']
    simp only [Function.comp_apply, Bool.and_eq_true, decide_eq_true_eq,
      mem_keeping_iff own' apart _ member]
    exact and_comm
  · rw [verdict_eq_success_iff, verdict_eq_success_iff, List.forall_mem_map, List.forall_mem_map]
    intro passed group member
    obtain ⟨ended, silent⟩ := passed group member
    refine ⟨(muted group).status.trans ended, ?_⟩
    rw [Bool.eq_false_iff, ne_eq, (muted group).unexpected, silent]
    simp

end Muted

end Report

theorem select_of_quieter {root : Path} {config quiet : Config} {fs : FileSystem}
    (quieter : config.Quieter quiet) :
    Suite.select root quiet fs = Suite.select root config fs := by
  rw [quieter.same]
  rfl

theorem run_muted {script : Script} {host other : Host} (follows : host.Follows script)
    (follows' : other.Follows script) {root : Path} {config quiet : Config}
    (quieter : config.Quieter quiet) {fs : FileSystem} (proper : fs.ProperNames)
    (noLink : ∀ groups found, Suite.select root config fs = .ok (groups, found) →
      ∀ group ∈ groups, fs.NoLink group.stdoutPath ∧ fs.NoLink group.stderrPath) :
    (∀ e, (Suite.run other root quiet fs).1 = .error e ↔
      (Suite.run host root config fs).1 = .error e) ∧
    ∀ run, (Suite.run host root config fs).1 = .ok run → ∃ muted,
      (Suite.run other root quiet fs).1 = .ok muted ∧
      run.report.Muted quiet muted.report := by
  have same : Suite.select root quiet fs = Suite.select root config fs :=
    select_of_quieter quieter
  cases selected : Suite.select root config fs with
  | error e =>
    rw [selected] at same
    simp [Suite.run, same, selected]
  | ok selection =>
    obtain ⟨groups, found⟩ := selection
    rw [selected] at same
    obtain ⟨run, ran, report⟩ := run_of_select host selected
    obtain ⟨muted, ran', report'⟩ := run_of_select other same
    obtain ⟨dir, -, -, laid⟩ := laid_of_select proper selected (noLink groups found selected)
    have runs := runs_of_laid config follows laid
    have runs' := runs_of_laid quiet follows' laid
    rw [ran, ran']
    refine ⟨by simp, fun run' same' => ⟨muted, rfl, ?_⟩⟩
    cases same'
    rw [report, report', runs.results, runs'.results]
    apply Report.muted_ofResults (fun group => rfl)
    · exact fun group => muted_outcome quieter dir fs group
    · exact laid.apart

def Sample.attentive : Config := { Sample.config with pruneThreshold := 0 }

theorem tree_run_muted : ∃ run muted,
    (Suite.run Sample.script.host Sample.root Sample.attentive Sample.tree).1 = .ok run ∧
    (Suite.run Sample.script.host Sample.root Sample.config Sample.tree).1 = .ok muted ∧
    run.report.Muted Sample.config muted.report ∧
    run.report.errorOutputGroups = ["groupA"] ∧ muted.report.errorOutputGroups = [] := by
  have quieter : Sample.attentive.Quieter Sample.config := ⟨rfl, by decide, List.Subset.refl _⟩
  have selected := (select_of_quieter quieter).symm.trans Sample.select_tree
  obtain ⟨run, ran, report⟩ := run_of_select Sample.script.host selected
  have noLink : ∀ groups found,
      Suite.select Sample.root Sample.attentive Sample.tree = .ok (groups, found) →
        ∀ group ∈ groups,
          Sample.tree.NoLink group.stdoutPath ∧ Sample.tree.NoLink group.stderrPath := by
    intro groups found selected'
    rw [selected] at selected'
    cases selected'
    decide +kernel
  obtain ⟨-, mutes⟩ := run_muted Sample.script.host_follows Sample.script.host_follows quieter
    (by decide +kernel) noLink
  obtain ⟨muted, ran', shows⟩ := mutes run (by rw [ran])
  have loud : run.report.errorOutputGroups = ["groupA"] := by
    rw [report]
    decide +kernel
  have kept : muted.report.keeping (·.stderrPath) = [] := by
    obtain ⟨again, ran'', report'⟩ := run_of_select Sample.script.host Sample.select_tree
    rw [ran''] at ran'
    cases ran'
    rw [report']
    decide +kernel
  refine ⟨run, muted, by rw [ran], ran', shows, loud, ?_⟩
  rw [shows.errors, loud, kept]
  rfl

end GroupRunner
