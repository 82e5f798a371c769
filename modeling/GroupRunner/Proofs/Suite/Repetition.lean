import GroupRunner.Proofs.Suite.Isolation

set_option autoImplicit false

namespace GroupRunner

def Entry.isPlain : Entry → Bool
  | .file .. | .directory => true
  | _ => false

namespace Slot

variable {medium : Medium} {place : Location} {tooLong : Bool} {threshold : Nat} {slot : Slot}

def Plain (tooLong : Bool) (slot : Slot) : Prop :=
  tooLong = true ∨ ∀ entry ∈ slot, entry.isPlain = true

structure Alike (medium : Medium) (place : Location) (tooLong : Bool) (threshold : Nat)
    (first second : Slot) : Prop where
  stays : first.stays medium place tooLong threshold = second.stays medium place tooLong threshold
  left : (first.pruned medium place tooLong threshold).2 =
    (second.pruned medium place tooLong threshold).2

theorem Alike.refl (slot : Slot) : Alike medium place tooLong threshold slot slot :=
  ⟨rfl, rfl⟩

theorem Alike.kept {first second : Slot} (alike : Alike medium place tooLong threshold first second)
    (path : Path) : Execution.keptPath path (first.pruned medium place tooLong threshold).1 =
      Execution.keptPath path (second.pruned medium place tooLong threshold).1 := by
  rw [keptPath_pruned, keptPath_pruned, alike.stays]

theorem alike_of_gone {first second : Slot}
    (gone : first.stays medium place tooLong threshold = false)
    (gone' : second.stays medium place tooLong threshold = false) :
    Alike medium place tooLong threshold first second := by
  refine ⟨gone.trans gone'.symm, ?_⟩
  rw [left_pruned, left_pruned, gone, gone']
  rfl

theorem short_of_gone (gone : slot.stays medium place tooLong threshold = false) :
    tooLong = false := by
  cases slot with
  | none => exact gone
  | some entry =>
    simp only [stays, Bool.or_eq_false_iff] at gone
    exact gone.1.1.1

theorem pruned_alike (slot : Slot) :
    Alike medium place tooLong threshold (slot.pruned medium place tooLong threshold).2 slot := by
  rw [left_pruned]
  cases kept : slot.stays medium place tooLong threshold with
  | true => exact .refl slot
  | false => exact alike_of_gone (short_of_gone kept) kept

theorem opened_pruned_error {cause : IoError} (plain : Plain tooLong slot)
    (refused : opened tooLong slot = .error cause) :
    opened tooLong (slot.pruned medium place tooLong threshold).2 = .error cause := by
  rcases plain with rfl | plain
  · exact refused
  cases tooLong with
  | true => exact refused
  | false =>
    cases slot with
    | none => cases refused
    | some entry =>
      cases entry with
      | file content executable => cases refused
      | link target => exact absurd (plain _ rfl) (by simp [Entry.isPlain])
      | device kind => exact absurd (plain _ rfl) (by simp [Entry.isPlain])
      | directory =>
        have kept : stays medium place false threshold (some .directory) = true := by simp [stays]
        rwa [left_pruned, if_pos kept]

theorem stays_file {content : Bytes} {executable : Bool} :
    stays medium place tooLong threshold (some (.file content executable)) =
      (tooLong || decide (threshold < content.length) ||
        (medium.refusal .remove place).isSome) := by
  have file : decide (Entry.file content executable = .directory) = false := by simp
  rw [stays, file, Bool.or_false]
  rfl

theorem opened_again {opened' : Slot} (medium : Medium) (place : Location) (threshold : Nat)
    (plain : Plain tooLong slot) (success : opened tooLong slot = .ok opened') (bytes : Bytes) :
    ∃ again,
      opened tooLong ((opened'.written bytes).pruned medium place tooLong threshold).2 = .ok again ∧
      Alike medium place tooLong threshold (again.written bytes) (opened'.written bytes) := by
  cases tooLong with
  | true => cases success
  | false =>
    -- What is opened and is no device is an empty file.
    obtain ⟨executable, rfl⟩ : ∃ executable, opened' = some (.file [] executable) := by
      rcases plain with never | plain
      · cases never
      cases slot with
      | none =>
        cases success
        exact ⟨_, rfl⟩
      | some entry =>
        cases entry with
        | file content executable =>
          cases success
          exact ⟨_, rfl⟩
        | link target => cases success
        | directory => cases success
        | device kind => exact absurd (plain _ rfl) (by simp [Entry.isPlain])
    simp only [written, FileSystem.overwrite_empty]
    rw [left_pruned]
    cases kept : stays medium place false threshold (some (.file bytes executable)) with
    | true =>
      refine ⟨some (.file [] executable), rfl, ?_⟩
      simp only [FileSystem.overwrite_empty]
      exact .refl _
    | false =>
      refine ⟨some (.file [] false), rfl, ?_⟩
      simp only [FileSystem.overwrite_empty]
      -- A file that is made anew has the bytes of the old one.
      exact alike_of_gone ((stays_file.trans stays_file.symm).trans kept) kept

end Slot

namespace Slots

variable {medium : Medium} {home : Location} {config : Config} {group : TestGroup} {slots : Slots}

def Plain (group : TestGroup) (slots : Slots) : Prop :=
  slots.stdout.Plain group.stdoutPath.isTooLong ∧ slots.stderr.Plain group.stderrPath.isTooLong

structure Alike (medium : Medium) (home : Location) (config : Config) (group : TestGroup)
    (first second : Slots) : Prop where
  stdout : Slot.Alike medium (stdoutName :: home) group.stdoutPath.isTooLong config.pruneThreshold
    first.stdout second.stdout
  stderr : Slot.Alike medium (stderrName :: home) group.stderrPath.isTooLong config.pruneThreshold
    first.stderr second.stderr

theorem collect_alike {first second : Slots} (status : Status) (duration : Duration)
    (alike : Alike medium home config group first second) :
    first.collect medium home config group status duration =
      second.collect medium home config group status duration := by
  simp only [collect, alike.stdout.kept, alike.stdout.left, alike.stderr.kept, alike.stderr.left]

theorem start_again (medium : Medium) (home : Location) (config : Config) (child : Child)
    (plain : slots.Plain group) (status : Status) (duration : Duration) :
    let started := slots.start config group child
    let again :=
      (started.2.collect medium home config group status duration).2.start config group child
    again.1 = started.1 ∧ Alike medium home config group again.2 started.2 := by
  intro started again
  cases out : slots.stdout.opened group.stdoutPath.isTooLong with
  | error cause =>
    have begun : started = (.error (.capture group.stdoutPath.display cause), slots) :=
      start_stdout_error out
    have begun' : again = (.error (.capture group.stdoutPath.display cause),
        (started.2.collect medium home config group status duration).2) := by
      refine start_stdout_error ?_
      rw [begun]
      exact Slot.opened_pruned_error plain.1 out
    rw [begun', begun]
    exact ⟨rfl, Slot.pruned_alike _, Slot.pruned_alike _⟩
  | ok stdout =>
    cases err : slots.stderr.opened group.stderrPath.isTooLong with
    | error cause =>
      -- The first capture was emptied and nothing was written to it.
      have begun : started =
          (.error (.capture group.stderrPath.display cause), { slots with stdout }) :=
        start_stderr_error out err
      obtain ⟨stdout', out', alike⟩ :=
        Slot.opened_again medium (stdoutName :: home) config.pruneThreshold plain.1 out []
      rw [Slot.written_nil] at out' alike
      have begun' : again = (.error (.capture group.stderrPath.display cause),
          { (started.2.collect medium home config group status duration).2 with
            stdout := stdout' }) := by
        refine start_stderr_error ?_ ?_
        · rw [begun]
          exact out'
        · rw [begun]
          exact Slot.opened_pruned_error plain.2 err
      rw [begun', begun]
      rw [Slot.written_nil] at alike
      exact ⟨rfl, alike, Slot.pruned_alike _⟩
    | ok stderr =>
      have begun : started = (child.exit.mapError (.launch config.binary.display),
          ⟨stdout.written child.stdout, stderr.written child.stderr⟩) := start_ok out err
      obtain ⟨stdout', out', alikeOut⟩ := Slot.opened_again medium (stdoutName :: home)
        config.pruneThreshold plain.1 out child.stdout
      obtain ⟨stderr', err', alikeErr⟩ := Slot.opened_again medium (stderrName :: home)
        config.pruneThreshold plain.2 err child.stderr
      have begun' : again = (child.exit.mapError (.launch config.binary.display),
          ⟨stdout'.written child.stdout, stderr'.written child.stderr⟩) := by
        refine start_ok ?_ ?_
        · rw [begun]
          exact out'
        · rw [begun]
          exact err'
      rw [begun', begun]
      exact ⟨rfl, alikeOut, alikeErr⟩

theorem run_again (child : Child) (duration : Duration) (plain : slots.Plain group) :
    (slots.run medium home config group child duration).2.run medium home config group child
        duration =
      slots.run medium home config group child duration := by
  let started := slots.start config group child
  obtain ⟨exit, alike⟩ := start_again medium home config child plain
    (Execution.statusOf started.1) duration
  change Slots.collect medium home config group (Execution.statusOf (Slots.start ..).1) duration
    (Slots.start ..).2 = _
  rw [show (slots.run medium home config group child duration).2 =
    (started.2.collect medium home config group (Execution.statusOf started.1) duration).2 from rfl,
    exit, collect_alike _ _ alike]
  rfl

end Slots

section Run

variable {host : Host} {script : Script} {config : Config} {dir : Location} {fs : FileSystem}
variable {root : Path} {groups : List TestGroup}

theorem after_fixed (follows : host.Follows script) (laid : Laid dir fs groups)
    (fixed : ∀ group ∈ groups, ∀ duration,
      (script.outcome config dir fs duration group).2 = fs.slots (group.home dir)) :
    Execution.after host config groups fs = fs := by
  -- Each group sets its captures to what they are.
  induction groups with
  | nil => rfl
  | cons group rest ih =>
    have first := List.mem_cons_self (a := group) (l := rest)
    obtain ⟨-, final⟩ := @runGroup_eq host config group fs _ script follows
      (laid.leads group first) (laid.noLink group first)
    change _ = fs.setSlots (group.home dir)
      (script.outcome config dir fs (host.groupTime group) group).2 at final
    rw [fixed group first, FileSystem.setSlots_slots] at final
    have later : Laid dir fs rest :=
      laid.subperm (List.sublist_cons_self group rest).subperm
    rw [Execution.after_cons, final]
    exact ih later fun next member => fixed next (List.mem_cons_of_mem _ member)

theorem Runs.laid (runs : Runs host script config dir fs groups) (laid : Laid dir fs groups) :
    Laid dir (Execution.after host config groups fs) groups := by
  refine ⟨fun group member => (laid.leads group member).keep runs.keeps,
    fun group member => ?_, laid.apart⟩
  have noLink := laid.noLink group member
  obtain ⟨out, err⟩ : (fs.slots (group.home dir)).Settles
      (script.outcome config dir fs (host.groupTime group) group).2 := settles_outcome _ noLink
  rw [runs.slots group member]
  exact ⟨Slot.noLink_of_settles out noLink.1, Slot.noLink_of_settles err noLink.2⟩

theorem Runs.outcome_again (runs : Runs host script config dir fs groups)
    (plain : ∀ group ∈ groups, (fs.slots (group.home dir)).Plain group) {group : TestGroup}
    (member : group ∈ groups) (duration : Duration) :
    script.outcome config dir (Execution.after host config groups fs) duration group =
      script.outcome config dir fs duration group := by
  rw [Script.outcome, runs.slots group member, runs.keeps.medium]
  exact Slots.run_again _ duration (plain group member)

theorem find_of_keeps {path : Path} {after : FileSystem} (keeps : FileSystem.Keeps fs after)
    (found : fs.find path = .ok (dir, .directory)) : after.find path = .ok (dir, .directory) := by
  have leads := FileSystem.leadsTo_of_find found
  refine (leads.keep keeps).find_eq ?_
  cases long : path.isTooLong with
  | false => rfl
  | true =>
    rw [FileSystem.find_eq_ok_iff, leads.resolve_self, long] at found
    cases found

theorem select_after (found : fs.find root = .ok (dir, .directory))
    (runs : Runs host script config dir fs groups) :
    Suite.select root config (Execution.after host config groups fs) =
      Suite.select root config fs := by
  have shows (child : Name × Entry) :
      (Execution.after host config groups fs).showEntry dir child = fs.showEntry dir child := by
    rw [FileSystem.showEntry, FileSystem.showEntry, runs.keeps.medium]
  simp only [Suite.select, discover, FileSystem.readDir, found, find_of_keeps runs.keeps found,
    runs.children, runs.keeps.medium, List.map_congr_left fun child _ => shows child]

section Twice

variable {other : Host}

theorem results_again (runs : Runs host script config dir fs groups)
    (laid : Laid dir fs groups) (follows : other.Follows script)
    (plain : ∀ group ∈ groups, (fs.slots (group.home dir)).Plain group) :
    (Execution.results other config groups (Execution.after host config groups fs)).map
        GroupResult.timeless =
      (Execution.results host config groups fs).map GroupResult.timeless := by
  rw [timeless_results runs, timeless_results (runs_of_laid config follows (runs.laid laid))]
  refine List.map_congr_left fun group member => ?_
  rw [Script.result, runs.outcome_again plain member]
  rfl

theorem after_again (runs : Runs host script config dir fs groups)
    (laid : Laid dir fs groups) (follows : other.Follows script)
    (plain : ∀ group ∈ groups, (fs.slots (group.home dir)).Plain group) :
    Execution.after other config groups (Execution.after host config groups fs) =
      Execution.after host config groups fs := by
  refine after_fixed follows (runs.laid laid) fun group member duration => ?_
  rw [runs.outcome_again plain member, runs.slots group member]
  rfl

end Twice

end Run

theorem run_repeated {script : Script} {first second : Host} (follows : first.Follows script)
    (follows' : second.Follows script) {root : Path} {config : Config} {fs : FileSystem}
    (proper : fs.ProperNames)
    (plain : ∀ groups found, Suite.select root config fs = .ok (groups, found) →
      ∀ group ∈ groups, fs.Ends Entry.isPlain group.stdoutPath ∧
        fs.Ends Entry.isPlain group.stderrPath) :
    let once := Suite.run first root config fs
    let twice := Suite.run second root config once.2
    Suite.select root config once.2 = Suite.select root config fs ∧
    twice.2 = once.2 ∧
    (∀ run, once.1 = .ok run → ∃ again, twice.1 = .ok again ∧
      again.report.results.map GroupResult.timeless = run.report.results.map GroupResult.timeless ∧
      ∀ style, again.report.body style = run.report.body style) ∧
    ∀ e, once.1 = .error e → twice.1 = .error e := by
  intro once twice
  cases selected : Suite.select root config fs with
  | error e =>
    have failed : once = (.error e, fs) := by simp only [once, Suite.run, selected]
    have failed' : twice = (.error e, fs) := by simp only [twice, failed, Suite.run, selected]
    rw [failed', failed]
    refine ⟨selected, rfl, ?_, fun _ same => same⟩
    intro run never
    cases never
  | ok found =>
    obtain ⟨groups, found⟩ := found
    have noLink {path : Path} (ends : fs.Ends Entry.isPlain path) : fs.NoLink path := by
      intro place entry held
      have plain := ends place entry held
      cases entry <;> first | rfl | cases plain
    obtain ⟨dir, held, -, laid⟩ := laid_of_select proper selected fun group member =>
      (plain groups found selected group member).imp noLink noLink
    have slots : ∀ group ∈ groups, (fs.slots (group.home dir)).Plain group := by
      intro group member
      obtain ⟨stdout, stderr⟩ := plain groups found selected group member
      exact ⟨kind_of_ends (laid.leads group member) proper_stdoutName stdout,
        kind_of_ends (laid.leads group member) proper_stderrName stderr⟩
    have runs := runs_of_laid config follows laid
    obtain ⟨run, ran, report⟩ := run_of_select first selected
    have selected' : Suite.select root config (Execution.after first config groups fs) =
        .ok (groups, found) := (select_after held runs).trans selected
    obtain ⟨again, ran', report'⟩ := run_of_select second selected'
    have results : again.report.results.map GroupResult.timeless =
        run.report.results.map GroupResult.timeless := by
      rw [report, report']
      exact results_again runs laid follows' slots
    have fixed := after_again runs laid follows' slots
    have once_eq : once = (.ok run, Execution.after first config groups fs) := ran
    have twice_eq : twice = (.ok again, Execution.after first config groups fs) := by
      simp only [twice, once_eq, ran', fixed]
    rw [twice_eq, once_eq]
    refine ⟨selected', rfl, ?_, ?_⟩
    · intro other same
      cases same
      refine ⟨again, rfl, results, fun style => ?_⟩
      rw [report, report'] at results ⊢
      exact Report.body_congr results style
    · intro e never
      cases never

theorem tree_run_repeated :
    let once := Suite.run Sample.script.host Sample.root Sample.config Sample.tree
    (Suite.run Sample.script.host Sample.root Sample.config once.2).2 = once.2 := by
  refine (run_repeated Sample.script.host_follows Sample.script.host_follows
    (by decide +kernel) ?_).2.1
  intro groups found selected
  rw [Sample.select_tree] at selected
  cases selected
  decide +kernel

end GroupRunner
