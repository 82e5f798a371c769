import GroupRunner.Proofs.Discovery
import GroupRunner.Proofs.Execution.Child
import GroupRunner.Proofs.Report
import Mathlib.Algebra.GroupWithZero.Nat

set_option autoImplicit false

namespace GroupRunner

section Specification

def Config.kept (config : Config) (path : Path) (bytes : Bytes) : Option Path :=
  if config.pruneThreshold < bytes.length then some path else none

namespace Child

def status (config : Config) : Child → Status
  | .refused cause => .launchFailed (RunError.launch config.binary.display cause).message
  | .ended _ _ exit => .ofExit exit

def result (config : Config) (group : TestGroup) (duration : Duration) (child : Child) :
    GroupResult where
  group := group
  status := child.status config
  stdoutPath := config.kept group.stdoutPath child.stdout
  stderrPath := config.kept group.stderrPath child.stderr
  stderr := (config.kept group.stderrPath child.stderr).map fun _ => Utf8.lossy child.stderr
  stderrExpected :=
    (config.kept group.stderrPath child.stderr).isSome && config.expectsStderr group.name
  duration := duration

def failedTests : Child → Nat
  | .ended _ _ (.code n) => if 1 ≤ n ∧ n < sentinel then n.toNat else 0
  | _ => 0

def isEvaluated : Child → Bool
  | .ended _ _ (.code n) => 0 ≤ n && n < sentinel
  | _ => false

def isNews (config : Config) (group : TestGroup) (child : Child) : Bool :=
  config.pruneThreshold < child.stderr.length && !config.expectsStderr group.name

end Child

structure IsGroup (root : Path) (ignore : IgnoreSet) (entries : List (Name × Entry))
    (group : TestGroup) : Prop where
  directory : (Utf8.encode group.name, .directory) ∈ entries
  path : group.path = root.join ⟨Utf8.encode group.name⟩
  marked : groupMarker.toList <:+: group.name.toList
  kept : ∀ fragment ∈ ignore.fragments, ¬ fragment.toList <:+: group.name.toList

namespace FileSystem

def Ready (fs : FileSystem) (path : Path) : Prop :=
  fs.findItself path = .error .noEntry ∨
    ∃ place content executable, fs.findItself path = .ok (place, .file content executable)

def Holds (fs : FileSystem) (config : Config) (path : Path) (bytes : Bytes) : Prop :=
  if config.pruneThreshold < bytes.length then fs.readFile path = .ok bytes
  else fs.findItself path = .error .noEntry

end FileSystem

-- Each child ends as it is told, and its captures hold what it is to write. It leaves as they are the
-- directories of the groups, the captures of the other groups and the medium.
def Host.Plays (host : Host) (config : Config) (child : TestGroup → Child)
    (selected : TestGroup → Prop) (fs : FileSystem) : Prop :=
  ∀ group, selected group → ∀ (before : FileSystem) (stdout stderr : Location) (x y : Bool),
    before.medium = fs.medium →
    (∀ other, selected other → before.find other.path = fs.find other.path) →
    before.findItself group.stdoutPath = .ok (stdout, .file [] x) →
    before.findItself group.stderrPath = .ok (stderr, .file [] y) →
    let answer := host.launch (Execution.launchOf config group stdout stderr) before
    answer.1 = (child group).exit ∧ answer.2.medium = before.medium ∧
    (∀ other, selected other → answer.2.find other.path = before.find other.path) ∧
    answer.2.findItself group.stdoutPath = .ok (stdout, .file (child group).stdout x) ∧
    answer.2.findItself group.stderrPath = .ok (stderr, .file (child group).stderr y) ∧
    ∀ other, selected other → other ≠ group →
      answer.2.findItself other.stdoutPath = before.findItself other.stdoutPath ∧
      answer.2.findItself other.stderrPath = before.findItself other.stderrPath

end Specification

theorem mem_groups_iff {root : Path} {ignore : IgnoreSet} {entries : List (Name × Entry)}
    {group : TestGroup} :
    group ∈ Discovery.groups root ignore.accepts entries ↔ IsGroup root ignore entries group := by
  rw [Discovery.mem_groups, IgnoreSet.accepts_iff]
  constructor
  · rintro ⟨directory, ⟨marked, kept⟩, path⟩
    exact ⟨directory, path, marked, kept⟩
  · rintro ⟨directory, path, marked, kept⟩
    exact ⟨directory, ⟨marked, kept⟩, path⟩

section Report

variable {config : Config} {group : TestGroup} {duration : Duration} (child : Child)

theorem failedTests_result :
    (child.result config group duration).failedTests = child.failedTests := by
  cases child with
  | refused cause => rfl
  | ended stdout stderr exit =>
    cases exit with
    | signal number => rfl
    | code n => exact (Status.verdict_exited n).1

theorem harnessProblem?_result :
    (child.result config group duration).harnessProblem?.isSome = !child.isEvaluated := by
  cases child with
  | refused cause => rfl
  | ended stdout stderr exit =>
    cases exit with
    | signal number => rfl
    | code n => exact (Status.verdict_exited n).2

theorem hasUnexpectedStderr_result :
    (child.result config group duration).hasUnexpectedStderr = child.isNews config group := by
  by_cases more : config.pruneThreshold < child.stderr.length <;>
    simp [GroupResult.hasUnexpectedStderr, Child.result, Child.isNews, Config.kept, more]

theorem status_result_eq_zero_iff :
    (child.result config group duration).status = .exited 0 ↔ child.exit = .ok (.code 0) := by
  cases child with
  | refused cause => simp [Child.result, Child.status, Child.exit]
  | ended stdout stderr exit =>
    cases exit <;> simp [Child.result, Child.status, Child.exit, Status.ofExit]

end Report

structure Report.Tells (report : Report) (config : Config) (child : TestGroup → Child)
    (selected : TestGroup → Prop) : Prop where
  ascending : (report.results.map (·.group)).Pairwise fun a b =>
    Utf8.encode a.name < Utf8.encode b.name
  complete : ∀ group, group ∈ report.results.map (·.group) ↔ selected group
  results : ∀ result ∈ report.results,
    result = (child result.group).result config result.group result.duration
  total : report.totalFailedTests =
    (report.results.map fun result => (child result.group).failedTests).sum
  crashed : report.crashedGroups =
    (report.results.filter fun result => !(child result.group).isEvaluated).map (·.group.name)
  errors : report.errorOutputGroups =
    (report.results.filter fun result =>
      (child result.group).isNews config result.group).map (·.group.name)
  success : report.verdict = .success ↔ ∀ group, selected group →
    (child group).exit = .ok (.code 0) ∧ (child group).isNews config group = false

theorem tells_of_results {config : Config} {child : TestGroup → Child} {groups : List TestGroup}
    {duration : TestGroup → Duration} {elapsed : Duration}
    (ascending : groups.Pairwise Discovery.Before) :
    (Report.ofResults (groups.map fun group => (child group).result config group (duration group))
      elapsed).Tells config child fun group => group ∈ groups := by
  let results := groups.map fun group => (child group).result config group (duration group)
  have told : results.map (·.group) = groups := by
    rw [List.map_map]
    exact List.map_id groups
  have single : ∀ result ∈ results,
      result = (child result.group).result config result.group result.duration := by
    intro result member
    obtain ⟨group, -, rfl⟩ := List.mem_map.1 member
    rfl
  refine ⟨?_, ?_, single, ?_, ?_, ?_, ?_⟩
  · change (results.map (·.group)).Pairwise _
    rw [told]
    exact ascending
  · intro group
    change group ∈ results.map (·.group) ↔ _
    rw [told]
  · rw [Report.totalFailedTests_ofResults]
    congr 1
    refine List.map_congr_left fun result member => ?_
    rw [single result member]
    exact failedTests_result _
  · rw [Report.crashedGroups_ofResults]
    congr 1
    refine List.filter_congr fun result member => ?_
    rw [single result member]
    exact harnessProblem?_result _
  · rw [Report.errorOutputGroups_ofResults]
    congr 1
    refine List.filter_congr fun result member => ?_
    rw [single result member]
    exact hasUnexpectedStderr_result _
  · rw [Report.verdict_eq_success_iff]
    simp only [List.forall_mem_map, status_result_eq_zero_iff, hasUnexpectedStderr_result]

end GroupRunner
