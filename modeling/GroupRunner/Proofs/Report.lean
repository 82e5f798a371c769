import GroupRunner.Report.Text
import Mathlib.Algebra.GroupWithZero.Nat
import Mathlib.Data.List.Nodup
import Mathlib.Logic.Basic

set_option autoImplicit false

namespace GroupRunner

def GroupResult.timeless (result : GroupResult) : GroupResult :=
  { result with duration := .zero }

section Timeless

variable (result : GroupResult)

@[simp] theorem group_timeless : result.timeless.group = result.group := rfl

@[simp] theorem stderr_timeless : result.timeless.stderr = result.stderr := rfl

@[simp] theorem failedTests_timeless : result.timeless.failedTests = result.failedTests := rfl

@[simp] theorem harnessProblem?_timeless :
    result.timeless.harnessProblem? = result.harnessProblem? := rfl

@[simp] theorem hasUnexpectedStderr_timeless :
    result.timeless.hasUnexpectedStderr = result.hasUnexpectedStderr := rfl

@[simp] theorem resultItem?_timeless :
    Report.resultItem? result.timeless = Report.resultItem? result := rfl

end Timeless

namespace Status

theorem verdict_exited (n : Int) :
    (verdict (.exited n)).failedTests = (if 1 ≤ n ∧ n < sentinel then n.toNat else 0) ∧
      (verdict (.exited n)).harnessProblem?.isSome = !(0 ≤ n && n < sentinel) := by
  -- A code says 0, a count of failed tests, the sentinel, or nothing that is known.
  by_cases passed : n = 0
  · subst passed
    decide
  by_cases refused : n = sentinel
  · subst refused
    decide
  by_cases failed : 1 ≤ n ∧ n < sentinel
  · have evaluated : 0 ≤ n := by omega
    simp [verdict, passed, refused, failed, evaluated, GroupVerdict.failedTests,
      GroupVerdict.harnessProblem?]
  · have unknown : ¬ (0 ≤ n ∧ n < sentinel) := by
      rintro ⟨least, most⟩
      exact failed ⟨by omega, most⟩
    have never : (decide (0 ≤ n) && decide (n < sentinel)) = false := by simpa using unknown
    simp [verdict, passed, refused, failed, never, GroupVerdict.failedTests,
      GroupVerdict.harnessProblem?]

theorem failedTests_verdict (status : Status) : status.verdict.failedTests =
    if 1 ≤ status.exitCode ∧ status.exitCode < sentinel then status.exitCode.toNat else 0 := by
  cases status with
  | exited n => exact (verdict_exited n).1
  | terminated signal | launchFailed reason | captureFailed reason => rfl

theorem harnessProblem?_verdict (status : Status) : status.verdict.harnessProblem?.isSome =
    !(0 ≤ status.exitCode && status.exitCode < sentinel) := by
  cases status with
  | exited n => exact (verdict_exited n).2
  | terminated signal | launchFailed reason | captureFailed reason => rfl

end Status

namespace Report

section Sums

variable {results others : List GroupResult} {elapsed time : Duration}

theorem totalFailedTests_ofResults :
    (ofResults results elapsed).totalFailedTests = (results.map GroupResult.failedTests).sum := by
  simp only [ofResults, List.sum, List.foldr_map]

theorem crashedGroups_ofResults : (ofResults results elapsed).crashedGroups =
    (results.filter fun r => r.harnessProblem?.isSome).map (·.group.name) := rfl

theorem errorOutputGroups_ofResults : (ofResults results elapsed).errorOutputGroups =
    (results.filter GroupResult.hasUnexpectedStderr).map (·.group.name) := rfl

theorem mem_crashedGroups {result : GroupResult} (member : result ∈ results)
    (problem : result.harnessProblem?.isSome) :
    result.group.name ∈ (ofResults results elapsed).crashedGroups := by
  rw [crashedGroups_ofResults]
  exact List.mem_map_of_mem (List.mem_filter.2 ⟨member, problem⟩)

theorem mem_names_filter_iff {pick : GroupResult → Bool} {result : GroupResult}
    (member : result ∈ results) (apart : (results.map fun r => r.group.name).Nodup) :
    result.group.name ∈ (results.filter pick).map (·.group.name) ↔ pick result = true := by
  rw [List.mem_map]
  constructor
  · rintro ⟨other, kept, named⟩
    obtain ⟨present, picked⟩ := List.mem_filter.1 kept
    -- The name is that of no other result.
    rwa [← List.inj_on_of_nodup_map apart present member named]
  · exact fun picked => ⟨result, List.mem_filter.2 ⟨member, picked⟩, rfl⟩

theorem mem_errorOutputGroups_iff {result : GroupResult} (member : result ∈ results)
    (apart : (results.map fun r => r.group.name).Nodup) :
    result.group.name ∈ (ofResults results elapsed).errorOutputGroups ↔
      result.hasUnexpectedStderr = true := by
  rw [errorOutputGroups_ofResults]
  exact mem_names_filter_iff member apart

section Groups

variable {groups : List TestGroup} {result : TestGroup → GroupResult}

theorem groups_filter (own : ∀ group, (result group).group = group) (pick : GroupResult → Bool) :
    ((groups.map result).filter pick).map (·.group) =
      groups.filter fun group => pick (result group) := by
  rw [List.filter_map, List.map_map]
  simp [Function.comp_def, own]

theorem names_filter (own : ∀ group, (result group).group = group) (pick : GroupResult → Bool) :
    ((groups.map result).filter pick).map (·.group.name) =
      (groups.filter fun group => pick (result group)).map (·.name) := by
  rw [← groups_filter own, List.map_map]
  rfl

theorem mem_names_iff (own : ∀ group, (result group).group = group)
    (apart : groups.Pairwise fun a b => a.name ≠ b.name) (pick : GroupResult → Bool)
    {group : TestGroup} (member : group ∈ groups) :
    group.name ∈ ((groups.map result).filter pick).map (·.group.name) ↔
      pick (result group) = true := by
  have nodup : ((groups.map result).map fun r => r.group.name).Nodup := by
    rw [List.map_map, List.Nodup, List.pairwise_map]
    simpa [own] using apart
  have named := @mem_names_filter_iff _ pick _ (List.mem_map_of_mem member) nodup
  rwa [own] at named

end Groups

theorem errorOutputs_ofResults : (ofResults results elapsed).errorOutputs =
    (results.filter GroupResult.hasUnexpectedStderr).filterMap fun r =>
      r.stderr.map fun content => (r.group.name, content) := rfl

theorem totalFailedTests_timeless :
    (ofResults (results.map GroupResult.timeless) time).totalFailedTests =
      (ofResults results elapsed).totalFailedTests := by
  simp [totalFailedTests_ofResults, Function.comp_def]

theorem crashedGroups_timeless :
    (ofResults (results.map GroupResult.timeless) time).crashedGroups =
      (ofResults results elapsed).crashedGroups := by
  simp [crashedGroups_ofResults, List.filter_map, Function.comp_def]

theorem errorOutputGroups_timeless :
    (ofResults (results.map GroupResult.timeless) time).errorOutputGroups =
      (ofResults results elapsed).errorOutputGroups := by
  simp [errorOutputGroups_ofResults, List.filter_map, Function.comp_def]

theorem verdict_timeless :
    (ofResults (results.map GroupResult.timeless) time).verdict =
      (ofResults results elapsed).verdict := by
  rw [verdict, verdict, hasFailures, hasFailures, hasErrorOutput, hasErrorOutput,
    totalFailedTests_timeless, crashedGroups_timeless, errorOutputGroups_timeless]

theorem items_timeless :
    (ofResults (results.map GroupResult.timeless) time).items =
      (ofResults results elapsed).items := by
  have outputs : (ofResults (results.map GroupResult.timeless) time).errorOutputs =
      (ofResults results elapsed).errorOutputs := by
    simp [errorOutputs_ofResults, List.filter_map, List.filterMap_map, Function.comp_def]
  have parts : (ofResults (results.map GroupResult.timeless) time).results.filterMap resultItem? =
      (ofResults results elapsed).results.filterMap resultItem? := by
    simp [ofResults, List.filterMap_map, Function.comp_def]
  rw [items, items, verdict_timeless, failureItems, failureItems, errorItems, errorItems,
    hasFailures, hasFailures, hasErrorOutput, hasErrorOutput, totalFailedTests_timeless,
    crashedGroups_timeless, errorOutputGroups_timeless, outputs, parts]

theorem body_congr (same : results.map GroupResult.timeless = others.map GroupResult.timeless)
    (style : Style) :
    (ofResults results elapsed).body style = (ofResults others time).body style := by
  rw [body, body, bodyLines, bodyLines, ← @items_timeless results elapsed .zero,
    same, items_timeless]

end Sums

section Verdict

variable {results order : List GroupResult} {elapsed time : Duration}

theorem counts_nothing_iff {status : Status} :
    status.verdict.failedTests = 0 ∧ status.verdict.harnessProblem? = none ↔
      status = .exited 0 := by
  constructor
  · rintro ⟨total, problem⟩
    -- The other codes count at least one failed test, or are a problem.
    cases status with
    | exited code =>
      rw [Status.verdict] at total problem
      split at total
      next passed => rw [passed]
      next notPassed =>
        rw [if_neg notPassed] at problem
        split at total
        next sentinel =>
          rw [if_pos sentinel] at problem
          cases problem
        next notSentinel =>
          rw [if_neg notSentinel] at problem
          split at total
          next failed =>
            simp only [GroupVerdict.failedTests] at total
            omega
          next notFailed =>
            rw [if_neg notFailed] at problem
            cases problem
    | terminated signal => cases problem
    | launchFailed reason => cases problem
    | captureFailed reason => cases problem
  · rintro rfl
    exact ⟨rfl, rfl⟩

theorem hasFailures_eq_false_iff : (ofResults results elapsed).hasFailures = false ↔
    ∀ r ∈ results, r.status = .exited 0 := by
  rw [hasFailures, totalFailedTests_ofResults, crashedGroups_ofResults]
  simp only [← counts_nothing_iff, Bool.or_eq_false_iff, decide_eq_false_iff_not,
    Nat.not_lt, Nat.le_zero, List.sum_eq_zero_iff_forall_eq_nat, Bool.not_eq_false', List.isEmpty_iff,
    List.map_eq_nil_iff, List.filter_eq_nil_iff, List.forall_mem_map, Option.not_isSome_iff_eq_none]
  exact forall₂_and.symm

theorem hasErrorOutput_eq_false_iff : (ofResults results elapsed).hasErrorOutput = false ↔
    ∀ r ∈ results, r.hasUnexpectedStderr = false := by
  rw [hasErrorOutput, errorOutputGroups_ofResults]
  simp

theorem verdict_eq_success_iff : (ofResults results elapsed).verdict = .success ↔
    ∀ r ∈ results, r.status = .exited 0 ∧ r.hasUnexpectedStderr = false := by
  rw [forall₂_and, ← @hasFailures_eq_false_iff results elapsed,
    ← @hasErrorOutput_eq_false_iff results elapsed, verdict]
  cases (ofResults results elapsed).hasFailures <;>
    cases (ofResults results elapsed).hasErrorOutput <;> simp

theorem exitCode_eq_zero_iff (report : Report) :
    report.exitCode = 0 ↔ report.verdict = .success := by
  rw [exitCode]
  cases report.verdict <;> simp

theorem exitCode_cases (report : Report) : report.exitCode = 0 ∨ report.exitCode = 1 := by
  rw [exitCode]
  cases report.verdict with
  | success => exact .inl rfl
  | failed => exact .inr rfl

theorem totalFailedTests_perm (perm : order.Perm results) :
    (ofResults order time).totalFailedTests = (ofResults results elapsed).totalFailedTests := by
  rw [totalFailedTests_ofResults, totalFailedTests_ofResults]
  exact (perm.map _).sum_nat

theorem verdict_congr {report other : Report}
    (same : report.verdict = .success ↔ other.verdict = .success) :
    report.verdict = other.verdict := by
  cases first : report.verdict <;> cases second : other.verdict <;> simp_all

theorem verdict_perm (perm : order.Perm results) :
    (ofResults order time).verdict = (ofResults results elapsed).verdict := by
  apply verdict_congr
  simp only [verdict_eq_success_iff, perm.mem_iff]

end Verdict

end Report

end GroupRunner
