import GroupRunner.Proofs.Report.Agreement
import Mathlib.Data.List.Forall2
import Mathlib.Data.List.TakeWhile

set_option autoImplicit false

namespace GroupRunner

namespace Report

-- The lines on how the runs of groups failed, with the number of failed tests that they come to and
-- the groups that were not evaluated. A group that passed has no line.
inductive Blamed : List GroupResult → Nat → List String → List String → Prop
  | nil : Blamed [] 0 [] []
  | passed {result : GroupResult} {rest : List GroupResult} {total : Nat}
      {crashed lines : List String} (verdict : result.verdict = .passed)
      (others : Blamed rest total crashed lines) : Blamed (result :: rest) total crashed lines
  | failed {result : GroupResult} {rest : List GroupResult} {count total : Nat}
      {crashed lines : List String} (verdict : result.verdict = .failed count)
      (others : Blamed rest total crashed lines) :
      Blamed (result :: rest) (count + total) crashed
        (("\tDirectory " ++ result.group.name ++ " has " ++ toString count ++ " failed test(s)") ::
          lines)
  | harness {result : GroupResult} {rest : List GroupResult} {problem : HarnessProblem}
      {total : Nat} {crashed lines : List String} (verdict : result.verdict = .harness problem)
      (others : Blamed rest total crashed lines) :
      Blamed (result :: rest) total (result.group.name :: crashed)
        (("\tHarness problem in " ++ result.group.name ++ ": " ++ problem.message) :: lines)

def crashedLine (groups : List String) : List String :=
  if groups.isEmpty then []
  else ["Failed to run directories: [" ++ String.intercalate ", " groups ++ "]"]

structure FailureSection (results : List GroupResult) (lines : List String) : Prop where
  empty_iff : lines = [] ↔ ∀ result ∈ results, result.verdict = .passed
  layout : lines ≠ [] → ∃ total crashed blames, Blamed results total crashed blames ∧
    lines = crashedLine crashed ++ ("Total number of tests failed: " ++ toString total) :: blames

-- The lines that quote what a group wrote to its error output, but for the line ends behind it.
def Quotes (result : GroupResult) (block : List String) : Prop :=
  ∃ text ends, result.stderr = some (text ++ ends) ∧
    (∀ c ∈ ends.toList, c = '\r' ∨ c = '\n') ∧
    (∀ c ∈ text.toList.getLast?, c ≠ '\r' ∧ c ≠ '\n') ∧
    block = ["Group " ++ result.group.name ++ " has the following errors:", text,
      "---------------------------------------------"]

structure ErrorSection (results : List GroupResult) (lines : List String) : Prop where
  empty_iff : lines = [] ↔ ∀ result ∈ results, result.hasUnexpectedStderr = false
  layout : lines ≠ [] → ∃ blocks,
    lines = ("Unexpected error output in " ++ toString blocks.length ++ " group(s).") ::
      "---------------------------------------------" :: blocks.flatten ∧
    List.Forall₂ Quotes (results.filter GroupResult.hasUnexpectedStderr) blocks

theorem write_harness (group : String) (problem : HarnessProblem) :
    (Item.harness group problem).write .plain =
      "\tHarness problem in " ++ group ++ ": " ++ problem.message := by
  have start : "\t" ++ "Harness problem in" ++ " " = "\tHarness problem in " := by decide
  rw [← start]
  rfl

theorem trimLineEnds_split (text : String) : ∃ ends,
    text = Text.trimLineEnds text ++ ends ∧ (∀ c ∈ ends.toList, c = '\r' ∨ c = '\n') ∧
      ∀ c ∈ (Text.trimLineEnds text).toList.getLast?, c ≠ '\r' ∧ c ≠ '\n' := by
  let isEnd (c : Char) : Bool := c == '\r' || c == '\n'
  refine ⟨String.ofList (text.toList.reverse.takeWhile isEnd).reverse, ?_, ?_, ?_⟩
  · rw [Text.trimLineEnds, ← String.ofList_append, ← List.reverse_append,
      List.takeWhile_append_dropWhile, List.reverse_reverse, String.ofList_toList]
  · intro c member
    rw [String.toList_ofList, List.mem_reverse] at member
    simpa [isEnd] using List.mem_takeWhile_imp member
  · intro c last
    rw [Text.trimLineEnds, String.toList_ofList, List.getLast?_reverse] at last
    have kept : isEnd c = false := by
      have dropped := List.head?_dropWhile_not isEnd text.toList.reverse
      rw [Option.mem_def.1 last] at dropped
      exact dropped
    simpa [isEnd] using kept

section Sections

variable (results : List GroupResult) (elapsed : Duration)

theorem blamed_resultItems : Blamed results (results.map GroupResult.failedTests).sum
    ((results.filter fun result => result.harnessProblem?.isSome).map (·.group.name))
    ((results.filterMap resultItem?).map (Item.write .plain)) := by
  induction results with
  | nil => exact .nil
  | cons result rest ih =>
    have count : result.failedTests = result.verdict.failedTests := rfl
    have crashed : result.harnessProblem? = result.verdict.harnessProblem? := rfl
    rw [List.map_cons, List.sum_cons, List.filter_cons, List.filterMap_cons, count, crashed,
      resultItem?]
    cases ended : result.verdict with
    | passed =>
      have none : GroupVerdict.passed.failedTests = 0 := rfl
      rw [none, Nat.zero_add]
      exact .passed ended ih
    | failed tests => exact .failed ended ih
    | harness problem =>
      have none : (GroupVerdict.harness problem).failedTests = 0 := rfl
      simp only [List.map_cons, write_harness]
      rw [none, Nat.zero_add]
      exact .harness ended ih

theorem failureSection : FailureSection results
    ((ofResults results elapsed).failureItems.map (Item.write .plain)) := by
  have passed : (ofResults results elapsed).hasFailures = false ↔
      ∀ result ∈ results, result.verdict = .passed := by
    rw [hasFailures_eq_false_iff]
    exact forall₂_congr fun result _ => Status.verdict_eq_passed_iff.symm
  unfold failureItems
  cases failures : (ofResults results elapsed).hasFailures with
  | false => exact ⟨by simpa using passed.1 failures, fun filled => absurd rfl filled⟩
  | true =>
    rw [failures] at passed
    refine ⟨by simpa using passed, fun _ => ⟨_, _, _, blamed_resultItems results, ?_⟩⟩
    rw [← @totalFailedTests_ofResults results elapsed,
      ← @crashedGroups_ofResults results elapsed, crashedLine]
    cases (ofResults results elapsed).crashedGroups <;> rfl

theorem quotes_errorOutputs : List.Forall₂ Quotes
    (results.filter GroupResult.hasUnexpectedStderr)
    ((ofResults results elapsed).errorOutputs.map fun (group, content) =>
      [Item.errorsOf group, .errors content, .separator].map (Item.write .plain)) := by
  rw [errorOutputs_ofResults]
  induction results with
  | nil => exact .nil
  | cons result rest ih =>
    cases noisy : result.hasUnexpectedStderr with
    | false => rwa [List.filter_cons_of_neg (by simp [noisy])]
    | true =>
      -- What is unexpected is there.
      obtain ⟨content, written⟩ : ∃ content, result.stderr = some content := by
        rw [GroupResult.hasUnexpectedStderr, Bool.and_eq_true] at noisy
        exact Option.isSome_iff_exists.1 noisy.1
      rw [List.filter_cons_of_pos noisy, List.filterMap_cons_some (by rw [written]; rfl)]
      obtain ⟨ends, split, line, last⟩ := trimLineEnds_split content
      exact .cons ⟨_, ends, written.trans (congrArg some split), line, last, rfl⟩ ih

theorem errorSection : ErrorSection results
    ((ofResults results elapsed).errorItems.map (Item.write .plain)) := by
  have quiet := @hasErrorOutput_eq_false_iff results elapsed
  unfold errorItems
  cases errors : (ofResults results elapsed).hasErrorOutput with
  | false => exact ⟨by simpa using quiet.1 errors, fun filled => absurd rfl filled⟩
  | true =>
    rw [errors] at quiet
    have quotes := quotes_errorOutputs results elapsed
    refine ⟨by simpa using quiet, fun _ => ⟨_, ?_, quotes⟩⟩
    rw [← quotes.length_eq, errorOutputGroups_ofResults, List.length_map]
    simp only [if_true, List.map_cons, List.map_flatMap, ← List.flatMap_def]
    rfl

end Sections

theorem bodyLines_account (results : List GroupResult) (elapsed : Duration) :
    let report := ofResults results elapsed
    let quiet := ∀ result ∈ results,
      result.verdict = .passed ∧ result.hasUnexpectedStderr = false
    (quiet → report.bodyLines .plain = ["SUCCESS"]) ∧
    (¬ quiet → ∃ failures errors,
      report.bodyLines .plain = "FAILED" :: (failures ++ errors) ∧
      FailureSection results failures ∧ ErrorSection results errors) := by
  intro report quiet
  have success : report.verdict = .success ↔ quiet := by
    rw [verdict_eq_success_iff]
    exact forall₂_congr fun result _ => and_congr_left' Status.verdict_eq_passed_iff.symm
  constructor
  · intro calm
    rw [bodyLines, items_of_success (success.2 calm)]
    rfl
  · intro noise
    have failed : report.verdict = .failed := by
      cases told : report.verdict with
      | success => exact absurd (success.1 told) noise
      | failed => rfl
    refine ⟨_, _, ?_, failureSection results elapsed, errorSection results elapsed⟩
    rw [bodyLines, items, failed, ← List.map_append]
    rfl

-- Of two groups that failed one was not evaluated, and a third one wrote what nobody expected.
example : (ofResults [
    { group := ⟨"groupA", ⟨[]⟩⟩, status := .exited 0 },
    { group := ⟨"groupB", ⟨[]⟩⟩, status := .exited 3 },
    { group := ⟨"groupC", ⟨[]⟩⟩, status := .exited 255 },
    { group := ⟨"groupD", ⟨[]⟩⟩, status := .exited 0, stderr := some "leak\n" }] .zero).bodyLines
      .plain = ["FAILED", "Failed to run directories: [groupC]",
        "Total number of tests failed: 3",
        "\tDirectory groupB has 3 failed test(s)",
        "\tHarness problem in groupC: the test binary could not evaluate this group (exit code 255)",
        "Unexpected error output in 1 group(s).", "---------------------------------------------",
        "Group groupD has the following errors:", "leak",
        "---------------------------------------------"] := by
  decide +kernel

end Report

end GroupRunner
