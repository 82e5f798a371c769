import GroupRunner.Proofs.Report
import GroupRunner.Report.Record
import GroupRunner.Report.Table
import Mathlib.Algebra.Ring.Int.Defs
import Mathlib.Data.List.Forall2
import Mathlib.Data.List.TFAE
import Mathlib.Tactic.TFAE

set_option autoImplicit false

namespace GroupRunner

structure RunRecord where
  writtenAt : String
  verdict : Verdict
  totalFailedTests : Nat
  crashedGroups : List String
  errorOutputGroups : List String
  elapsedMillis : Nat
  config : Config
  groups : List GroupRecord

namespace RunRecord

def ofReport (report : Report) (config : Config) (written : Timestamp) : RunRecord where
  writtenAt := written.toRfc3339
  verdict := report.verdict
  totalFailedTests := report.totalFailedTests
  crashedGroups := report.crashedGroups
  errorOutputGroups := report.errorOutputGroups
  elapsedMillis := report.elapsed.wordMillis
  config := config
  groups := report.results.map GroupRecord.ofResult

def toJson (record : RunRecord) : Except Json.Failure Json := do
  let config ← record.config.toJson
  let groups ← record.groups.mapM GroupRecord.toJson
  return .object [
    ("generated_at", .text record.writtenAt),
    ("verdict", .text record.verdict.text),
    ("total_failed_tests", .nat record.totalFailedTests),
    ("crashed_groups", .texts record.crashedGroups),
    ("error_output_groups", .texts record.errorOutputGroups),
    ("elapsed_ms", .nat record.elapsedMillis),
    ("config", config),
    ("groups", .array groups)]

theorem mapM_ofResult (results : List GroupResult) :
    (results.map GroupRecord.ofResult).mapM GroupRecord.toJson = Report.groupsJson results := by
  induction results with
  | nil => rfl
  | cons result rest ih =>
    rw [List.map_cons, List.mapM_cons, ih]
    rfl

theorem toJson_ofReport (report : Report) (config : Config) (written : Timestamp) :
    (ofReport report config written).toJson = report.toJson config written := by
  simp only [toJson, ofReport, mapM_ofResult]
  rfl

end RunRecord

theorem Status.verdict_eq_passed_iff {status : Status} :
    status.verdict = .passed ↔ status = .exited 0 := by
  constructor
  · intro passed
    apply Report.counts_nothing_iff.1
    rw [passed]
    exact ⟨rfl, rfl⟩
  · rintro rfl
    rfl

namespace GroupRecord

theorem outcome_eq_harness_iff (result : GroupResult) :
    (ofResult result).outcome = "harness" ↔ result.harnessProblem?.isSome = true := by
  change outcomeOf result.verdict = "harness" ↔ result.verdict.harnessProblem?.isSome = true
  cases result.verdict <;> simp [outcomeOf, GroupVerdict.harnessProblem?]

theorem isSome_problem (result : GroupResult) :
    (ofResult result).problem.isSome = result.harnessProblem?.isSome := by
  simp [ofResult]

theorem harnessProblem?_iff_exitCode (result : GroupResult) :
    result.harnessProblem?.isSome = true ↔
      ¬ (0 ≤ (ofResult result).exitCode ∧ (ofResult result).exitCode ≤ 254) := by
  change result.status.verdict.harnessProblem?.isSome = true ↔
    ¬ (0 ≤ result.status.exitCode ∧ result.status.exitCode ≤ 254)
  rw [Status.harnessProblem?_verdict, sentinel]
  simp only [Bool.not_eq_true', Bool.and_eq_false_iff, decide_eq_false_iff_not]
  omega

end GroupRecord

namespace Report

def cell? (heading : String) (row : List Table.Cell) : Option String :=
  ((tableHeader.map (·.text)).zip (row.map (·.text))).lookup heading

theorem cell?_tableRow (style : Style) (result : GroupResult) :
    cell? "Result" (tableRow style result) = some (label result) := by
  simp [cell?, tableHeader, tableRow, List.lookup_cons]

theorem label_eq_passed_iff (result : GroupResult) : label result = "passed" ↔
    result.status = .exited 0 ∧ result.hasUnexpectedStderr = false := by
  rw [← Status.verdict_eq_passed_iff]
  change label result = "passed" ↔ result.verdict = .passed ∧ _
  unfold label
  cases result.verdict <;> cases result.hasUnexpectedStderr <;> simp

theorem label_eq_outcome_iff (result : GroupResult) {word : String}
    (failure : word = "harness" ∨ word = "failed") :
    label result = word ↔ (GroupRecord.ofResult result).outcome = word := by
  change label result = word ↔ GroupRecord.outcomeOf result.verdict = word
  unfold label GroupRecord.outcomeOf
  rcases failure with rfl | rfl <;>
    cases result.verdict <;> cases result.hasUnexpectedStderr <;> simp

section Sums

variable (results : List GroupResult) (elapsed : Duration)

theorem totalFailedTests_eq_sum_exitCode :
    ((ofResults results elapsed).totalFailedTests : Int) =
      ((results.map fun result => result.status.exitCode).filter fun code =>
        1 ≤ code ∧ code ≤ 254).sum := by
  rw [totalFailedTests_ofResults]
  induction results with
  | nil => rfl
  | cons result rest ih =>
    have told : result.failedTests = _ := Status.failedTests_verdict result.status
    rw [sentinel] at told
    rw [List.map_cons, List.sum_cons, Int.natCast_add, ih, List.map_cons]
    by_cases counted : 1 ≤ result.status.exitCode ∧ result.status.exitCode ≤ 254
    · rw [List.filter_cons_of_pos (by simpa using counted), List.sum_cons, told,
        if_pos (by omega)]
      omega
    · rw [List.filter_cons_of_neg (by simpa using counted), told, if_neg (by omega)]
      simp

theorem totalFailedTests_le :
    (ofResults results elapsed).totalFailedTests ≤ 254 * results.length := by
  rw [totalFailedTests_ofResults]
  induction results with
  | nil => exact Nat.le_refl 0
  | cons result rest ih =>
    have few : result.failedTests ≤ 254 := by
      have told := Status.failedTests_verdict result.status
      rw [sentinel] at told
      change result.status.verdict.failedTests ≤ 254
      rw [told]
      split <;> omega
    rw [List.map_cons, List.sum_cons, List.length_cons]
    omega

theorem crashedGroups_eq_harness : (ofResults results elapsed).crashedGroups =
    ((results.map GroupRecord.ofResult).filter fun group => group.outcome = "harness").map
      (·.name) := by
  rw [crashedGroups_ofResults, List.filter_map, List.map_map]
  simp only [Function.comp_def, GroupRecord.outcome_eq_harness_iff, Bool.decide_eq_true]
  rfl

end Sums

theorem items_of_success {report : Report} (success : report.verdict = .success) :
    report.items = [.verdict .success] := by
  have quiet : report.hasFailures = false ∧ report.hasErrorOutput = false := by
    rw [verdict] at success
    split at success
    next => cases success
    next noisy => simpa using noisy
  rw [items, success, failureItems, errorItems, quiet.1, quiet.2]
  rfl

theorem body_plain_eq_success_iff (report : Report) :
    report.body .plain = "SUCCESS" ↔ report.verdict = .success := by
  constructor
  · intro text
    cases read : report.verdict with
    | success => rfl
    | failed =>
      -- The text of a failure begins with another letter.
      have start : (report.body .plain).toList.head? = some 'F' := by
        rw [body, bodyLines, items, read, List.cons_append, List.map_cons]
        cases (report.failureItems ++ report.errorItems).map (Item.write .plain) with
        | nil => rfl
        | cons line lines =>
          rw [String.intercalate_cons_cons, String.toList_append, String.toList_append]
          rfl
      rw [text] at start
      cases start
  · intro success
    rw [body, bodyLines, items_of_success success]
    rfl

end Report

theorem outputs_agree (results : List GroupResult) (elapsed : Duration) (config : Config)
    (written : Timestamp) (style : Style) (paint : Hue → String → String) :
    let report := Report.ofResults results elapsed
    let record := RunRecord.ofReport report config written
    let rows := results.map (Report.tableRow style)
    record.toJson = report.toJson config written ∧
    report.table style paint = Table.draw paint Report.tableHeader rows ∧
    [report.exitCode = 0, record.verdict.text = "SUCCESS", report.body .plain = "SUCCESS",
      ∀ row ∈ rows, Report.cell? "Result" row = some "passed",
      ∀ result ∈ results, result.status = .exited 0 ∧ result.hasUnexpectedStderr = false].TFAE ∧
    record.groups = results.map GroupRecord.ofResult ∧
    record.totalFailedTests = report.totalFailedTests ∧
    report.totalFailedTests = (record.groups.map (·.failedTests)).sum ∧
    (report.totalFailedTests : Int) =
      ((record.groups.map (·.exitCode)).filter fun code => 1 ≤ code ∧ code ≤ 254).sum ∧
    report.totalFailedTests ≤ 254 * results.length ∧
    record.crashedGroups = report.crashedGroups ∧
    report.crashedGroups =
      (record.groups.filter fun group => group.outcome = "harness").map (·.name) ∧
    (∀ group ∈ record.groups,
      (group.outcome = "harness" ↔ ¬ (0 ≤ group.exitCode ∧ group.exitCode ≤ 254)) ∧
      (group.outcome = "harness" ↔ group.problem.isSome = true)) ∧
    List.Forall₂ (fun row group =>
      (Report.cell? "Result" row = some "harness" ↔ group.outcome = "harness") ∧
      (Report.cell? "Result" row = some "failed" ↔ group.outcome = "failed"))
      rows record.groups := by
  intro report record rows
  refine ⟨RunRecord.toJson_ofReport .., rfl, ?_, rfl, rfl, ?_, ?_, ?_, rfl, ?_, ?_, ?_⟩
  · tfae_have 1 ↔ 5 := by
      rw [Report.exitCode_eq_zero_iff, Report.verdict_eq_success_iff]
    tfae_have 2 ↔ 1 := by
      rw [Report.exitCode_eq_zero_iff]
      change report.verdict.text = "SUCCESS" ↔ _
      cases report.verdict <;> simp [Verdict.text]
    tfae_have 3 ↔ 1 := by
      rw [Report.exitCode_eq_zero_iff, Report.body_plain_eq_success_iff]
    tfae_have 4 ↔ 5 := by
      simp only [rows, List.forall_mem_map, Report.cell?_tableRow, Option.some.injEq,
        Report.label_eq_passed_iff]
    tfae_finish
  · rw [Report.totalFailedTests_ofResults]
    change _ = ((results.map GroupRecord.ofResult).map _).sum
    rw [List.map_map]
    rfl
  · rw [Report.totalFailedTests_eq_sum_exitCode]
    change _ = (((results.map GroupRecord.ofResult).map _).filter _).sum
    rw [List.map_map]
    rfl
  · exact Report.totalFailedTests_le results elapsed
  · exact Report.crashedGroups_eq_harness results elapsed
  · intro group member
    obtain ⟨result, -, rfl⟩ := List.mem_map.1 member
    rw [GroupRecord.outcome_eq_harness_iff, GroupRecord.isSome_problem]
    exact ⟨GroupRecord.harnessProblem?_iff_exitCode result, .rfl⟩
  · change List.Forall₂ _ (results.map _) (results.map _)
    rw [List.forall₂_map_left_iff, List.forall₂_map_right_iff, List.forall₂_same]
    intro result member
    rw [Report.cell?_tableRow, Option.some.injEq, Option.some.injEq]
    exact ⟨Report.label_eq_outcome_iff result (.inl rfl),
      Report.label_eq_outcome_iff result (.inr rfl)⟩

end GroupRunner
