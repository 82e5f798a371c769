import GroupRunner.Proofs.Execution.Groups
import GroupRunner.Proofs.Execution.Turn

set_option autoImplicit false

namespace GroupRunner

namespace GroupResult

def Quiet (result : GroupResult) : Prop :=
  result.status = .exited 0 ∧ result.hasUnexpectedStderr = false

theorem Collected.quiet_iff {config : Config} {left : FileSystem} {result : GroupResult}
    (collected : result.Collected config left) :
    result.hasUnexpectedStderr = false ↔
      (Capture.prune result.group.stdoutPath config.pruneThreshold left).2.Trifling
          config.pruneThreshold result.group.stderrPath ∨
        config.expectsStderr result.group.name = true := by
  have kept : result.stderr.isSome = true ↔ result.stderrPath ≠ none := by
    rw [collected.text, Option.isSome_map, Option.isSome_iff_ne_none]
  rw [← Bool.not_eq_true, collected.hasUnexpectedStderr_iff, kept, not_and_or, not_not,
    collected.stderr, Bool.not_eq_false]

end GroupResult

namespace Execution

variable {host : Host} {config : Config}

-- The program of a group ran on open captures and ended with code 0, and on its error output it
-- left nothing to speak of or what was expected.
inductive Pass (host : Host) (config : Config) (fs : FileSystem) (group : TestGroup) :
    FileSystem → Prop
  | collected {stdout stderr : Location} {ready left : FileSystem}
      (readies : group.Readies fs stdout stderr ready)
      (launched : host.launch (launchOf config group stdout stderr) ready = (.ok (.code 0), left))
      (quiet : (Capture.prune group.stdoutPath config.pruneThreshold left).2.Trifling
          config.pruneThreshold group.stderrPath ∨ config.expectsStderr group.name = true) :
      Pass host config fs group (Capture.prune group.stderrPath config.pruneThreshold
        (Capture.prune group.stdoutPath config.pruneThreshold left).2).2

-- All groups pass, each on the files as the ones before it left them.
inductive Passes (host : Host) (config : Config) :
    FileSystem → List TestGroup → FileSystem → Prop
  | done (fs : FileSystem) : Passes host config fs [] fs
  | next {group : TestGroup} {rest : List TestGroup} {fs middle final : FileSystem}
      (pass : Pass host config fs group middle) (others : Passes host config middle rest final) :
      Passes host config fs (group :: rest) final

theorem statusOf_eq_exited_iff {exit : Except RunError Exit} {n : Int} :
    statusOf exit = .exited n ↔ exit = .ok (.code n) := by
  cases exit with
  | error e => cases e <;> simp [statusOf]
  | ok exit => cases exit <;> simp [statusOf, Status.ofExit]

theorem start_eq_code_iff {group : TestGroup} {fs left : FileSystem} {n : Int} :
    start host config group fs = (.ok (.code n), left) ↔
      ∃ stdout stderr ready, group.Readies fs stdout stderr ready ∧
        host.launch (launchOf config group stdout stderr) ready = (.ok (.code n), left) := by
  constructor
  · intro ended
    rcases start_cases host config group fs with ⟨path, cause, left', started, -⟩ |
      ⟨stdout, stderr, ready, exit, after, readies, launched, started⟩
    · rw [started] at ended
      cases ended
    · rw [started] at ended
      cases exit with
      | error cause => cases ended
      | ok exit =>
        cases ended
        exact ⟨stdout, stderr, ready, readies, launched⟩
  · rintro ⟨stdout, stderr, ready, readies, launched⟩
    rw [start_of_readies readies, launched]
    rfl

theorem pass_iff {group : TestGroup} {fs after : FileSystem} :
    Pass host config fs group after ↔
      (runGroup host config group fs).2 = after ∧
        (runGroup host config group fs).1.result.Quiet := by
  cases started : start host config group fs with
  | mk exit left =>
    have collected : (runGroup host config group fs).1.result.Collected config left := by
      rw [runGroup, started]
      exact collected_collect
    have status : (runGroup host config group fs).1.result.status = statusOf exit := by
      rw [runGroup, started]
      rfl
    have final : (runGroup host config group fs).2 =
        (Capture.prune group.stderrPath config.pruneThreshold
          (Capture.prune group.stdoutPath config.pruneThreshold left).2).2 := by
      rw [runGroup, started]
      rfl
    rw [final, GroupResult.Quiet, status, statusOf_eq_exited_iff, collected.quiet_iff]
    constructor
    · rintro ⟨readies, launched, quiet⟩
      have same := start_eq_code_iff.2 ⟨_, _, _, readies, launched⟩
      rw [started, Prod.mk.injEq] at same
      obtain ⟨rfl, rfl⟩ := same
      exact ⟨rfl, rfl, quiet⟩
    · rintro ⟨rfl, rfl, quiet⟩
      obtain ⟨stdout, stderr, ready, readies, launched⟩ := start_eq_code_iff.1 started
      exact .collected readies launched quiet

theorem passes_iff {groups : List TestGroup} {fs final : FileSystem} :
    Passes host config fs groups final ↔
      after host config groups fs = final ∧
        ∀ result ∈ results host config groups fs, result.Quiet := by
  induction groups generalizing fs with
  | nil =>
    constructor
    · rintro ⟨-⟩
      exact ⟨rfl, fun _ never => nomatch never⟩
    · rintro ⟨rfl, -⟩
      exact .done fs
  | cons group rest ih =>
    rw [after_cons, results_cons, List.forall_mem_cons]
    constructor
    · rintro (- | ⟨pass, others⟩)
      obtain ⟨rfl, quiet⟩ := pass_iff.1 pass
      obtain ⟨same, quiets⟩ := ih.1 others
      exact ⟨same, quiet, quiets⟩
    · rintro ⟨same, quiet, quiets⟩
      exact .next (pass_iff.2 ⟨rfl, quiet⟩) (ih.2 ⟨same, quiets⟩)

end Execution

end GroupRunner
