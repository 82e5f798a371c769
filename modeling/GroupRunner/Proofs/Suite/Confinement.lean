import GroupRunner.Proofs.Capture
import GroupRunner.Proofs.Execution.Groups

set_option autoImplicit false

namespace GroupRunner

open FileSystem (Confined LeadsOnly OpensAt)

def Host.WritesCaptures (host : Host) : Prop :=
  ∀ launch fs, Confined (fun _ => False)
    (fun place => place = launch.stdout ∨ place = launch.stderr) fs (host.launch launch fs).2

theorem confined_pour {own written : Location → Prop} (fs : FileSystem) {place : Location}
    (bytes : Bytes) (opened : written place) : Confined own written fs (fs.pour place bytes) := by
  unfold FileSystem.pour FileSystem.writeAt
  cases bytes with
  | nil => exact .refl ..
  | cons b bytes =>
    cases held : fs.get? place with
    | none => exact .refl ..
    | some entry =>
      cases entry with
      | file content executable =>
        cases place with
        | nil => simp [FileSystem.get?] at held
        | cons name parent =>
          exact FileSystem.confined_write opened (by simp [held, Entry.isWay])
      | link target => exact .refl ..
      | directory => exact .refl ..
      | device kind => cases kind <;> exact .refl ..

theorem Host.Follows.writesCaptures {host : Host} {script : Script} (follows : host.Follows script) :
    host.WritesCaptures := by
  intro launch fs
  rw [follows, Child.act]
  exact (confined_pour fs _ (.inl rfl)).trans (confined_pour _ _ (.inr rfl))

inductive TestGroup.Opens (group : TestGroup) (fs : FileSystem) : Location → Prop
  | stdout {place : Location} (opened : fs.OpensAt group.stdoutPath place) :
      TestGroup.Opens group fs place
  | stderr {place first : Location} {next : FileSystem}
      (before : fs.create group.stdoutPath = .ok (first, next))
      (opened : next.OpensAt group.stderrPath place) : TestGroup.Opens group fs place

namespace Execution

inductive Opens (host : Host) (config : Config) : List TestGroup → FileSystem → Location → Prop
  | here {group : TestGroup} {rest : List TestGroup} {fs : FileSystem} {place : Location}
      (opened : group.Opens fs place) : Opens host config (group :: rest) fs place
  | later {group : TestGroup} {rest : List TestGroup} {fs : FileSystem} {place : Location}
      (opened : Opens host config rest (runGroup host config group fs).2 place) :
      Opens host config (group :: rest) fs place

section Steps

variable {host : Host} {config : Config} {group : TestGroup} {groups : List TestGroup}
variable {fs : FileSystem} {own written : Location → Prop} {dir home : Location} {name : Name}

theorem confined_start (writes : host.WritesCaptures) (group : TestGroup) (fs : FileSystem) :
    Confined own (group.Opens fs) fs (start host config group fs).2 := by
  unfold start openCapture
  cases out : fs.create group.stdoutPath with
  | error cause => exact .refl ..
  | ok opened =>
    obtain ⟨stdout, next⟩ := opened
    have first : Confined own (group.Opens fs) fs next :=
      (FileSystem.confined_create out).imp (fun _ mine => mine) fun _ => .stdout
    cases err : next.create group.stderrPath with
    | error cause => simpa only [err] using first
    | ok opened' =>
      obtain ⟨stderr, both⟩ := opened'
      have second : Confined own (group.Opens fs) next both :=
        (FileSystem.confined_create err).imp (fun _ mine => mine) fun _ => .stderr out
      have third : Confined own (group.Opens fs) both
          (host.launch (launchOf config group stdout stderr) both).2 := by
        refine (writes _ _).imp (fun _ never => never.elim) fun place opened => ?_
        rcases opened with rfl | rfl
        · exact .stdout (FileSystem.opensAt_of_create out)
        · exact .stderr out (FileSystem.opensAt_of_create err)
      have whole := first.trans (second.trans third)
      simp only [err]
      cases answered : host.launch (launchOf config group stdout stderr) both with
      | mk exit final =>
        rw [answered] at whole
        cases exit <;> exact whole

theorem confined_prune {path : Path} (leads : fs.LeadsOnly path home) (proper : ProperName name)
    (mine : own (name :: home)) (threshold : Nat) :
    Confined own written fs (Capture.prune (path.join ⟨name⟩) threshold fs).2 := by
  obtain ⟨outcome, ran, prunes⟩ := Capture.exists_prunes (path.join ⟨name⟩) threshold fs
  rw [ran]
  cases prunes with
  | kept | absent | unseen | stuck => exact .refl ..
  | removed _ _ removed => exact FileSystem.confined_removeFile leads proper mine removed

theorem confined_collect (status : Status) (duration : Duration)
    (leads : fs.LeadsOnly group.path home) (stdout : own (stdoutName :: home))
    (stderr : own (stderrName :: home)) :
    Confined own written fs (collect config group status duration fs).2 := by
  have first : Confined own written fs
      (Capture.prune group.stdoutPath config.pruneThreshold fs).2 :=
    confined_prune leads proper_stdoutName stdout _
  exact first.trans (confined_prune (leads.confined first) proper_stderrName stderr _)

theorem confined_runGroup (writes : host.WritesCaptures) (leads : fs.LeadsOnly group.path home)
    (stdout : own (stdoutName :: home)) (stderr : own (stderrName :: home)) :
    Confined own (group.Opens fs) fs (runGroup host config group fs).2 := by
  have started : Confined own (group.Opens fs) fs (start host config group fs).2 :=
    confined_start writes group fs
  exact started.trans (confined_collect (Execution.statusOf (start host config group fs).1)
    (host.groupTime group) (leads.confined started) stdout stderr)

theorem confined_runGroups (writes : host.WritesCaptures)
    (leads : ∀ group ∈ groups, fs.LeadsOnly group.path (group.home dir)) :
    Confined (fun place => ¬ Aside dir groups place) (Opens host config groups fs) fs
      (after host config groups fs) := by
  -- Each group finds that its path and those of later ones lead where they led, or nowhere.
  induction groups generalizing fs with
  | nil => exact .refl ..
  | cons group rest ih =>
    have first : Confined (fun place => ¬ Aside dir (group :: rest) place)
        (Opens host config (group :: rest) fs) fs (runGroup host config group fs).2 :=
      (confined_runGroup writes (leads group List.mem_cons_self)
        (fun aside => (aside group List.mem_cons_self).1 rfl)
        (fun aside => (aside group List.mem_cons_self).2 rfl)).imp (fun _ mine => mine)
          fun _ => .here
    have onward := ih fun next member =>
      (leads next (List.mem_cons_of_mem _ member)).confined first
    refine first.trans (onward.imp (fun place mine aside => mine ?_) fun _ => .later)
    exact fun next member => aside next (List.mem_cons_of_mem _ member)

end Steps

end Execution

section Run

variable {root : Path} {config : Config} {fs : FileSystem} {groups : List TestGroup}
variable {found : List Log.Event} {dir : Location} {group : TestGroup} {place : Location}

theorem leadsOnly_of_select (proper : fs.ProperNames)
    (selected : Suite.select root config fs = .ok (groups, found)) :
    ∃ dir, fs.find root = .ok (dir, .directory) ∧ ∀ group ∈ groups,
      fs.LeadsOnly group.path (group.home dir) ∧ fs.get? (group.home dir) = some .directory ∧
        config.ignore.accepts group.name = true := by
  obtain ⟨-, entries, listed, rfl, -⟩ := select_eq_ok_iff.1 selected
  obtain ⟨dir, held, rfl, -⟩ := FileSystem.lists_iff.1 listed
  refine ⟨dir, held, fun group member => ?_⟩
  obtain ⟨present, accepted, -⟩ := Discovery.mem_groups.1 member
  have leads : fs.LeadsTo group.path (group.home dir) :=
    leadsTo_of_mem proper (FileSystem.leadsTo_of_find held) member
  exact ⟨leads.only, (fs.mem_children_iff ..).1 present, accepted⟩

theorem within_cons {top : Location} {name : Name} :
    FileSystem.within (name :: place) top = true ↔
      top = name :: place ∨ FileSystem.within place top = true := by
  rw [FileSystem.within, FileSystem.within, List.isSuffixOf_iff_suffix, List.isSuffixOf_iff_suffix]
  exact List.suffix_cons_iff

theorem within_capture {top : Location}
    (capture : place = stdoutName :: group.home dir ∨ place = stderrName :: group.home dir)
    (inside : FileSystem.within place top = true) :
    top = place ∨ FileSystem.within (group.home dir) top = true := by
  rcases capture with rfl | rfl
  · exact within_cons.1 inside
  · exact within_cons.1 inside

theorem name_of_within_capture {name : Name}
    (capture : place = stdoutName :: group.home dir ∨ place = stderrName :: group.home dir)
    (inside : FileSystem.within place (name :: dir) = true) : name = Utf8.encode group.name := by
  -- A capture lies two names below the root, and this is the upper one.
  rcases within_capture capture inside with whole | around
  · rcases capture with rfl | rfl
    · exact absurd (List.cons.inj whole).2.symm (List.cons_ne_self _ _)
    · exact absurd (List.cons.inj whole).2.symm (List.cons_ne_self _ _)
  · rcases within_cons.1 around with same | above
    · exact (List.cons.inj same).1
    · have shorter := (List.isSuffixOf_iff_suffix.1 above).length_le
      simp only [List.length_cons] at shorter
      omega

theorem run_confined {host : Host} (writes : host.WritesCaptures) (root : Path) (config : Config)
    {fs : FileSystem} (proper : fs.ProperNames) :
    let after := (Suite.run host root config fs).2
    after.cwd = fs.cwd ∧
    (∀ place, after.get? place = some .directory ↔ fs.get? place = some .directory) ∧
    (∀ cause, Suite.select root config fs = .error cause → after = fs) ∧
    ∀ groups found, Suite.select root config fs = .ok (groups, found) →
      ∃ dir, fs.find root = .ok (dir, .directory) ∧
        (∀ group ∈ groups, fs.get? (group.home dir) = some .directory) ∧
        (∀ place, after.get? place ≠ fs.get? place →
          (∃ group ∈ groups,
            place = stdoutName :: group.home dir ∨ place = stderrName :: group.home dir) ∨
          (Execution.Opens host config groups fs place ∧
            (∀ entry ∈ fs.get? place, entry.isWay = false) ∧
            ∃ entry ∈ after.get? place, entry.IsFile)) ∧
        (∀ top, fs.get? top = some .directory →
          (∀ group ∈ groups, FileSystem.within (group.home dir) top = false) →
          ∀ place, FileSystem.within place top = true → after.get? place ≠ fs.get? place →
            Execution.Opens host config groups fs place) ∧
        ∀ name, (fs.get? (name :: dir) ≠ some .directory ∨
            ∀ text, name = Utf8.encode text → config.ignore.accepts text = false) →
          ∀ place, FileSystem.within place (name :: dir) = true →
            after.get? place ≠ fs.get? place →
              Execution.Opens host config groups fs place := by
  intro after
  cases selected : Suite.select root config fs with
  | error cause =>
    have same : after = fs := by simp only [after, Suite.run, selected]
    rw [same]
    exact ⟨rfl, fun _ => .rfl, fun _ _ => rfl, fun _ _ never => by cases never⟩
  | ok selection =>
    obtain ⟨groups, found⟩ := selection
    obtain ⟨dir, held, leads⟩ := leadsOnly_of_select proper selected
    have ran : after = Execution.after host config groups fs := by
      obtain ⟨run, ran, -⟩ := run_of_select host selected
      simp only [after, ran]
    have confined : Confined (fun place => ¬ Aside dir groups place)
        (Execution.Opens host config groups fs) fs after := by
      rw [ran]
      exact Execution.confined_runGroups writes fun group member => (leads group member).1
    have changed {place : Location} (differs : after.get? place ≠ fs.get? place) :=
      ((confined.places place).resolve_left differs).imp_left capture_of_not_aside
    refine ⟨confined.cwd, confined.directories, fun _ never => (by cases never), ?_⟩
    rintro _ _ ⟨⟩
    refine ⟨dir, held, fun group member => (leads group member).2.1, fun _ => changed, ?_, ?_⟩
    · intro top directory outside place inside differs
      rcases changed differs with ⟨group, member, capture⟩ | ⟨opened, -, -⟩
      · rcases within_capture capture inside with rfl | around
        · exact absurd (((confined.directories _).2 directory).trans directory.symm) differs
        · rw [outside group member] at around
          cases around
      · exact opened
    · intro name unselected place inside differs
      rcases changed differs with ⟨group, member, capture⟩ | ⟨opened, -, -⟩
      · obtain ⟨-, directory, accepted⟩ := leads group member
        have same : name = Utf8.encode group.name := name_of_within_capture capture inside
        rcases unselected with other | other
        · exact absurd (same ▸ directory) other
        · rw [other group.name same] at accepted
          cases accepted
      · exact opened

end Run

namespace Sample

-- A capture of the first group is a link to a file outside of it.
def linked : FileSystem :=
  tree.put (stdoutName :: place "groupA") (.link (.ofString "../notes"))

theorem select_linked : Suite.select root config linked =
    .ok ([group "groupA", group "groupB"],
      Discovery.events root config.ignore.accepts (linked.children tests)) :=
  select_eq_ok_iff.2 ⟨by decide +kernel, linked.children tests, rfl, groups_tree.symm, rfl⟩

end Sample

theorem linked_run_confined :
    let after := (Suite.run Sample.script.host Sample.root Sample.config Sample.linked).2
    after.get? (Sample.place "notes") = some (.file [0x6E, 0x65, 0x77] false) ∧
      Execution.Opens Sample.script.host Sample.config
        [Sample.group "groupA", Sample.group "groupB"] Sample.linked (Sample.place "notes") := by
  intro after
  obtain ⟨-, -, -, frame⟩ := run_confined Sample.script.host_follows.writesCaptures Sample.root
    Sample.config (by decide +kernel : Sample.linked.ProperNames)
  obtain ⟨dir, held, -, -, -, unselected⟩ := frame _ _ Sample.select_linked
  obtain rfl : Sample.tests = dir := by
    have found : Sample.linked.find Sample.root = .ok (Sample.tests, .directory) := rfl
    rw [found, Except.ok.injEq, Prod.mk.injEq] at held
    exact held.1
  have notes : after.get? (Sample.place "notes") = some (.file [0x6E, 0x65, 0x77] false) := by
    obtain ⟨run, ran, -⟩ := run_of_select Sample.script.host Sample.select_linked
    simp only [after, ran]
    decide +kernel
  refine ⟨notes, unselected (Utf8.encode "notes") (.inl (by decide +kernel)) _
    (by decide +kernel) ?_⟩
  change after.get? _ ≠ _
  rw [notes]
  decide +kernel

end GroupRunner
