import GroupRunner.Program
import GroupRunner.Proofs.Execution.Passing
import GroupRunner.Proofs.FileSystem.Writing
import GroupRunner.Proofs.Report

set_option autoImplicit false

namespace GroupRunner

section Prepare

variable {options : Options} {root : Path} {host : Host} {fs : FileSystem} {e : RunError}

theorem prepare_error (refused : options.prepare root = .error e) : e.isPrecondition = true := by
  rw [Options.prepare, ensureTestsDirectory] at refused
  split at refused
  next wrong =>
    split at wrong <;> cases wrong
    cases refused
    rfl
  next =>
    split at refused <;> cases refused
    rfl

theorem runIn_of_refused (refused : options.prepare root = .error e) :
    Program.runIn host root options fs = ({ result := .ok 1, complaints := [e.message] }, fs) := by
  rw [Program.runIn, refused]
  simp only [prepare_error refused, if_true]
  rfl

theorem prepare_of_wrong_directory
    (wrong : root.fileName ≠ some (Utf8.encode testsDirectoryName)) :
    options.prepare root = .error (notTestsDirectory root) := by
  rw [Options.prepare, ensureTestsDirectory, if_neg wrong]

theorem prepare_of_no_arguments (named : root.fileName = some (Utf8.encode testsDirectoryName))
    (none : options.args = []) :
    options.prepare root = .error (.precondition missingBinaryText) := by
  rw [Options.prepare, ensureTestsDirectory, if_pos named]
  simp only [none]

end Prepare

section Record

variable {host : Host} {options : Options} {config : Config} {report : Report}
variable {fs final : FileSystem} {events : List Log.Event}

def Recorded (options : Options) (config : Config) (now : Timestamp) (report : Report)
    (fs final : FileSystem) : Prop :=
  match options.jsonReport with
  | none => final = fs
  | some path => ∃ json, report.toJson config now = .ok json ∧
      fs.writeFile path (Utf8.encode json.pretty) = .ok final

theorem record_eq_ok_iff :
    (∃ events, Program.record host options config report fs = (.ok events, final)) ↔
      Recorded options config host.now report fs final := by
  unfold Program.record Recorded
  cases options.jsonReport with
  | none => simp [eq_comm]
  | some path =>
    unfold Report.writeRecord
    cases report.toJson config host.now with
    | error failure => simp
    | ok json =>
      simp only [Except.ok.injEq, exists_eq_left']
      cases fs.writeFile path (Utf8.encode json.pretty) with
      | error e => simp
      | ok after => simp

theorem readFile_of_recorded {now : Timestamp}
    (recorded : Recorded options config now report fs final) {path : Path}
    (asked : options.jsonReport = some path)
    (noDevice : ∀ place kind, final.find path ≠ .ok (place, .device kind)) :
    ∃ json, report.toJson config now = .ok json ∧
      final.readFile path = .ok (Utf8.encode json.pretty) := by
  rw [Recorded, asked] at recorded
  obtain ⟨json, printed, written⟩ := recorded
  exact ⟨json, printed, FileSystem.readFile_writeFile written noDevice⟩

end Record

section Run

variable {host : Host} {options : Options} {config : Config} {root : Path} {fs : FileSystem}

theorem report_of_run {run : Suite.Run} {after : FileSystem} {groups : List TestGroup}
    {found : List Log.Event} (ran : Suite.run host root config fs = (.ok run, after))
    (selected : Suite.select root config fs = .ok (groups, found)) :
    after = Execution.after host config groups fs ∧
      run.report = .ofResults (Execution.results host config groups fs) host.totalTime := by
  obtain ⟨run', ran', report⟩ := run_of_select host selected
  rw [ran', Prod.mk.injEq, Except.ok.injEq] at ran
  obtain ⟨rfl, rfl⟩ := ran
  exact ⟨rfl, report⟩

theorem of_run {run : Suite.Run} {after : FileSystem}
    (ran : Suite.run host root config fs = (.ok run, after)) :
    ∃ groups found, Suite.select root config fs = .ok (groups, found) ∧
      run.report.results.map (·.group) = groups ∧
      ∃ elapsed, run.report = .ofResults run.report.results elapsed := by
  cases selected : Suite.select root config fs with
  | error e => simp [Suite.run, selected] at ran
  | ok selection =>
    obtain ⟨groups, found⟩ := selection
    obtain ⟨-, report⟩ := report_of_run ran selected
    refine ⟨groups, found, rfl, ?_, host.totalTime, ?_⟩
    · rw [report]
      exact Execution.groups_of_results groups
    · rw [report]
      rfl

theorem passes_of_run {run : Suite.Run} {after : FileSystem} {groups : List TestGroup}
    {found : List Log.Event} (ran : Suite.run host root config fs = (.ok run, after))
    (selected : Suite.select root config fs = .ok (groups, found)) :
    Execution.Passes host config fs groups after ↔
      ∀ result ∈ run.report.results,
        result.status = .exited 0 ∧ result.hasUnexpectedStderr = false := by
  obtain ⟨rfl, report⟩ := report_of_run ran selected
  rw [report, Execution.passes_iff, and_iff_right rfl]
  rfl

theorem runGroups_result_iff {n : Nat} :
    (Program.runGroups host root options config fs).1.result = .ok n ↔
      ∃ run after, Suite.run host root config fs = (.ok run, after) ∧ run.report.exitCode = n ∧
        Recorded options config host.now run.report after
          (Program.runGroups host root options config fs).2 := by
  unfold Program.runGroups
  obtain ⟨result, after⟩ := Suite.run host root config fs
  cases result with
  | error e => simp
  | ok run =>
    simp only
    cases recorded : Program.record host options config run.report after with
    | mk result final =>
      cases result with
      | error e =>
        have unrecorded : ¬ Recorded options config host.now run.report after final := by
          rw [← record_eq_ok_iff, recorded]
          simp
        simp [unrecorded]
      | ok events =>
        have done : Recorded options config host.now run.report after final :=
          record_eq_ok_iff.1 ⟨events, recorded⟩
        simp [done]

end Run

section Program

variable {host : Host} {options : Options} {config : Config} {root : Path} {fs : FileSystem}

theorem runIn_of_list (prepared : options.prepare root = .ok config) (list : options.list = true) :
    Program.runIn host root options fs = (Program.listGroups root config fs, fs) := by
  rw [Program.runIn, prepared]
  simp only [list, if_true]

theorem runIn_of_run (prepared : options.prepare root = .ok config) (list : options.list = false) :
    Program.runIn host root options fs = Program.runGroups host root options config fs := by
  rw [Program.runIn, prepared]
  simp only [list, Bool.false_eq_true, if_false]

theorem listGroups_result_iff {n : Nat} :
    (Program.listGroups root config fs).result = .ok n ↔
      n = 0 ∧ ∃ selection, Suite.select root config fs = .ok selection := by
  unfold Program.listGroups
  cases Suite.select root config fs with
  | error e => simp
  | ok selection => simp [eq_comm]

theorem exitCode_of_runIn {n : Nat}
    (ended : (Program.runIn host root options fs).1.result = .ok n) : n = 0 ∨ n = 1 := by
  cases prepared : options.prepare root with
  | error e =>
    rw [runIn_of_refused prepared] at ended
    cases ended
    exact .inr rfl
  | ok config =>
    cases list : options.list with
    | true =>
      rw [runIn_of_list prepared list] at ended
      exact .inl (listGroups_result_iff.1 ended).1
    | false =>
      rw [runIn_of_run prepared list] at ended
      obtain ⟨run, after, -, rfl, -⟩ := runGroups_result_iff.1 ended
      exact Report.exitCode_cases run.report

end Program

theorem runIn_exitCode (host : Host) (root : Path) (options : Options) (fs : FileSystem) :
    let outcome := (Program.runIn host root options fs).1
    let final := (Program.runIn host root options fs).2
    (outcome.result = .ok 0 ↔
      ∃ config, options.prepare root = .ok config ∧
        (options.list = true ∧ (∃ selection, Suite.select root config fs = .ok selection) ∨
        options.list = false ∧ ∃ run after groups found,
          Suite.run host root config fs = (.ok run, after) ∧
          Suite.select root config fs = .ok (groups, found) ∧
          run.report.results.map (·.group) = groups ∧
          Execution.Passes host config fs groups after ∧
          (∀ result ∈ run.report.results,
            result.status = .exited 0 ∧ result.hasUnexpectedStderr = false) ∧
          Recorded options config host.now run.report after final ∧
          ∀ path, options.jsonReport = some path →
            (∀ place kind, final.find path ≠ .ok (place, .device kind)) →
            ∃ json, run.report.toJson config host.now = .ok json ∧
              final.readFile path = .ok (Utf8.encode json.pretty))) ∧
    (root.fileName ≠ some (Utf8.encode testsDirectoryName) →
      Program.runIn host root options fs =
        ({ result := .ok 1, complaints := [(notTestsDirectory root).message] }, fs)) ∧
    (root.fileName = some (Utf8.encode testsDirectoryName) → options.args = [] →
      Program.runIn host root options fs =
        ({ result := .ok 1, complaints := [missingBinaryText] }, fs)) ∧
    (∀ config run after groups found, Suite.run host root config fs = (.ok run, after) →
      Suite.select root config fs = .ok (groups, found) →
      (Execution.Passes host config fs groups after ↔ ∀ result ∈ run.report.results,
        result.status = .exited 0 ∧ result.hasUnexpectedStderr = false)) ∧
    ∀ n, outcome.result = .ok n → n = 0 ∨ n = 1 := by
  refine ⟨?_, fun wrong => runIn_of_refused (prepare_of_wrong_directory wrong),
    fun named none => runIn_of_refused (prepare_of_no_arguments named none),
    fun config run after groups found => passes_of_run, fun n ended => exitCode_of_runIn ended⟩
  cases prepared : options.prepare root with
  | error e => simp [runIn_of_refused prepared]
  | ok config =>
    simp only [Except.ok.injEq, exists_eq_left']
    cases list : options.list with
    | true => simp [runIn_of_list prepared list, listGroups_result_iff]
    | false =>
      rw [runIn_of_run prepared list, runGroups_result_iff]
      simp only [Bool.false_eq_true, false_and, true_and, false_or]
      constructor
      · rintro ⟨run, after, ran, zero, recorded⟩
        obtain ⟨groups, found, selected, same, elapsed, sum⟩ := of_run ran
        rw [Report.exitCode_eq_zero_iff, sum, Report.verdict_eq_success_iff] at zero
        exact ⟨run, after, groups, found, ran, selected, same,
          (passes_of_run ran selected).2 zero, zero, recorded,
          fun path asked noDevice => readFile_of_recorded recorded asked noDevice⟩
      · rintro ⟨run, after, -, -, ran, -, -, -, passed, recorded, -⟩
        obtain ⟨-, -, -, -, elapsed, sum⟩ := of_run ran
        refine ⟨run, after, ran, ?_, recorded⟩
        rwa [Report.exitCode_eq_zero_iff, sum, Report.verdict_eq_success_iff]

end GroupRunner
