import GroupRunner.Proofs.Execution.Groups
import GroupRunner.Proofs.Suite.Specification
import Mathlib.Data.List.Pairwise

set_option autoImplicit false

namespace GroupRunner

section Captures

variable {config : Config} {group : TestGroup} {duration : Duration}

def Short (group : TestGroup) : Prop :=
  group.stdoutPath.isTooLong = false ∧ group.stderrPath.isTooLong = false

instance (group : TestGroup) : Decidable (Short group) :=
  inferInstanceAs (Decidable (_ ∧ _))

def Slot.Ready (slot : Slot) : Prop :=
  slot = none ∨ ∃ content executable, slot = some (.file content executable)

theorem opened_ready {slot : Slot} (ready : slot.Ready) :
    ∃ executable, slot.opened false = .ok (some (.file [] executable)) := by
  rcases ready with rfl | ⟨content, executable, rfl⟩
  · exact ⟨false, rfl⟩
  · exact ⟨executable, rfl⟩

theorem noLink_ready {tooLong : Bool} {slot : Slot} (ready : slot.Ready) :
    slot.NoLink tooLong := by
  rcases ready with rfl | ⟨content, executable, rfl⟩
  · exact .inr (by simp)
  · exact .inr (by simp)

def Config.left (config : Config) (bytes : Bytes) (executable : Bool) : Slot :=
  if config.pruneThreshold < bytes.length then some (.file bytes executable) else none

theorem settles_left (bytes : Bytes) (executable : Bool) :
    Slot.Settles (some (.file bytes executable)) (config.left bytes executable) := by
  unfold Config.left
  split <;> simp [Slot.Settles, Entry.isWay]

theorem pruned_written {medium : Medium} {place : Location}
    (erasable : medium.Permits .remove place) (path : Path) (bytes : Bytes) (executable : Bool) :
    let pruned := Slot.pruned medium place false config.pruneThreshold
      (some (.file bytes executable))
    Execution.keptPath path pruned.1 = config.kept path bytes ∧
      pruned.2 = config.left bytes executable := by
  have told : medium.refusal .remove place = none := erasable
  unfold Config.kept Config.left
  by_cases more : config.pruneThreshold < bytes.length
  · have kept : ¬ bytes.length ≤ config.pruneThreshold := Nat.not_le.2 more
    simp [Slot.pruned, Medium.size, kept, more, Execution.keptPath, Pruned.isKept]
  · have trifle : bytes.length ≤ config.pruneThreshold := Nat.not_lt.1 more
    simp [Slot.pruned, Medium.size, told, trifle, more, Execution.keptPath, Pruned.isKept]

theorem collect_written {medium : Medium} {home : Location}
    (erasable : ∀ place, medium.Permits .remove place) (short : Short group) (child : Child)
    (x y : Bool) :
    Slots.collect medium home config group (child.status config) duration
        ⟨some (.file child.stdout x), some (.file child.stderr y)⟩ =
      (child.result config group duration,
        ⟨config.left child.stdout x, config.left child.stderr y⟩) := by
  obtain ⟨stdoutKept, stdoutLeft⟩ := @pruned_written config medium _ (erasable (stdoutName :: home))
    group.stdoutPath child.stdout x
  obtain ⟨stderrKept, stderrLeft⟩ := @pruned_written config medium _ (erasable (stderrName :: home))
    group.stderrPath child.stderr y
  -- The text is read after the pruning, but only of a capture that is still there.
  have text : (config.kept group.stderrPath child.stderr).map (fun path =>
      Slots.words path ((config.left child.stderr y).text false)) =
        (config.kept group.stderrPath child.stderr).map fun _ => Utf8.lossy child.stderr := by
    unfold Config.kept Config.left
    split <;> rfl
  simp only [Slots.collect, short.1, short.2, stdoutKept, stdoutLeft, stderrKept, stderrLeft, text,
    Child.result]

theorem collect_of_written {fs : FileSystem} {dir : Location} {child : Child} {x y : Bool}
    (erasable : ∀ place, fs.medium.Permits .remove place) (short : Short group)
    (leads : fs.LeadsTo group.path dir)
    (held : fs.slots dir = ⟨some (.file child.stdout x), some (.file child.stderr y)⟩) :
    (Execution.collect config group (child.status config) duration fs).1.result =
        child.result config group duration ∧
      (Execution.collect config group (child.status config) duration fs).2 =
        fs.setSlots dir ⟨config.left child.stdout x, config.left child.stderr y⟩ := by
  have noLink : (fs.slots dir).NoLink group := by
    rw [held]
    exact ⟨noLink_ready (.inr ⟨_, _, rfl⟩), noLink_ready (.inr ⟨_, _, rfl⟩)⟩
  obtain ⟨result, final⟩ :=
    @collect_eq config group fs dir (child.status config) duration leads noLink
  rw [held, collect_written erasable short] at result final
  exact ⟨result, final⟩

theorem statusOf_exit (child : Child) :
    Execution.statusOf (child.exit.mapError (.launch config.binary.display)) =
      child.status config := by
  cases child <;> rfl

end Captures

section Views

variable {fs after : FileSystem} {path : Path} {dir : Location} {name : Name}

theorem findItself_short (leads : fs.LeadsTo path dir) (proper : ProperName name)
    (short : (path.join ⟨name⟩).isTooLong = false) :
    fs.findItself (path.join ⟨name⟩) =
      (Target.ofSlot dir name (fs.get? (name :: dir))).entry := by
  rw [leads.findItself_join proper, short]
  rfl

theorem findItself_eq_iff (leads : fs.LeadsTo path dir) (leads' : after.LeadsTo path dir)
    (proper : ProperName name) (short : (path.join ⟨name⟩).isTooLong = false) :
    after.findItself (path.join ⟨name⟩) = fs.findItself (path.join ⟨name⟩) ↔
      after.get? (name :: dir) = fs.get? (name :: dir) := by
  rw [findItself_short leads proper short, findItself_short leads' proper short]
  cases after.get? (name :: dir) <;> cases fs.get? (name :: dir) <;>
    simp [Target.ofSlot, Target.entry]

theorem findItself_eq_ok_iff (leads : fs.LeadsTo path dir) (proper : ProperName name)
    (short : (path.join ⟨name⟩).isTooLong = false) {place : Location} {entry : Entry} :
    fs.findItself (path.join ⟨name⟩) = .ok (place, entry) ↔
      name :: dir = place ∧ fs.get? (name :: dir) = some entry := by
  rw [findItself_short leads proper short]
  cases fs.get? (name :: dir) <;> simp [Target.ofSlot, Target.entry]

theorem ready_slot (leads : fs.LeadsTo path dir) (proper : ProperName name)
    (ready : fs.Ready (path.join ⟨name⟩)) :
    (path.join ⟨name⟩).isTooLong = false ∧ Slot.Ready (fs.get? (name :: dir)) := by
  have different : IoError.nameTooLong ≠ .noEntry := by decide
  rw [FileSystem.Ready, leads.findItself_join proper] at ready
  cases long : (path.join ⟨name⟩).isTooLong with
  | true => simp [long, different] at ready
  | false =>
    refine ⟨rfl, ?_⟩
    simp only [long, Bool.false_eq_true, if_false] at ready
    cases held : fs.get? (name :: dir) with
    | none => exact .inl rfl
    | some entry =>
      simp only [held, Target.ofSlot, Target.entry, Except.ok.injEq, Prod.mk.injEq, reduceCtorEq,
        false_or] at ready
      obtain ⟨-, content, executable, -, same⟩ := ready
      exact .inr ⟨content, executable, congrArg some same⟩

theorem holds_left {config : Config} (leads : fs.LeadsTo path dir) (proper : ProperName name)
    (short : (path.join ⟨name⟩).isTooLong = false) {bytes : Bytes}
    (left : ∃ executable, fs.get? (name :: dir) = config.left bytes executable) :
    fs.Holds config (path.join ⟨name⟩) bytes := by
  obtain ⟨executable, left⟩ := left
  unfold FileSystem.Holds
  by_cases more : config.pruneThreshold < bytes.length
  · rw [Config.left, if_pos more] at left
    have noLink : Slot.NoLink (path.join ⟨name⟩).isTooLong (fs.get? (name :: dir)) := by
      rw [left]
      exact .inr (by simp)
    rw [if_pos more, FileSystem.readFile, FileSystem.find_join leads proper noLink, short, left]
    rfl
  · rw [Config.left, if_neg more] at left
    rw [if_neg more, findItself_short leads proper short, left]
    rfl

end Views

section Run

variable {host : Host} {config : Config} {child : TestGroup → Child} {dir : Location}
variable {fs before mid after : FileSystem} {groups rest : List TestGroup} {group : TestGroup}

theorem find_home (short : Short group) (leads : fs.LeadsTo group.path (group.home dir)) :
    fs.find group.path = .ok (group.home dir, .directory) := by
  refine leads.find_eq ?_
  have longer := Path.length_join proper_stdoutName leads.nonempty
  have fits : (group.path.join ⟨stdoutName⟩).isTooLong = false := short.1
  rw [Path.isTooLong, decide_eq_false_iff_not] at fits ⊢
  omega

structure Stands (dir : Location) (groups : List TestGroup) (fs : FileSystem) : Prop where
  leads : ∀ group ∈ groups, fs.LeadsTo group.path (group.home dir)
  short : ∀ group ∈ groups, Short group
  apart : ∀ group ∈ groups, ∀ other ∈ groups, other ≠ group → other.home dir ≠ group.home dir
  erasable : ∀ place, fs.medium.Permits .remove place

theorem Stands.keep (stands : Stands dir groups before) (medium : after.medium = before.medium)
    (leads : ∀ group ∈ groups, after.LeadsTo group.path (group.home dir)) :
    Stands dir groups after :=
  ⟨leads, stands.short, stands.apart, by rw [medium]; exact stands.erasable⟩

-- The captures of the groups that are done hold what their children wrote, and those of the other
-- groups are as before.
structure Progress (config : Config) (child : TestGroup → Child) (dir : Location)
    (groups done : List TestGroup) (before after : FileSystem) : Prop where
  medium : after.medium = before.medium
  leads : ∀ group ∈ groups, after.LeadsTo group.path (group.home dir)
  settled : ∀ group ∈ done, ∃ x y, after.slots (group.home dir) =
    ⟨config.left (child group).stdout x, config.left (child group).stderr y⟩
  others : ∀ group ∈ groups, group ∉ done →
    after.slots (group.home dir) = before.slots (group.home dir)

theorem Progress.cons (member : group ∈ groups) (fresh : group ∉ rest)
    (first : Progress config child dir groups [group] before mid)
    (second : Progress config child dir groups rest mid after) :
    Progress config child dir groups (group :: rest) before after := by
  refine ⟨second.medium.trans first.medium, second.leads, fun next done => ?_,
    fun other among pending => ?_⟩
  · cases List.mem_cons.1 done with
    | inl same =>
      -- To the later groups the first one is one of the others.
      rw [same, second.others group member fresh]
      exact first.settled group List.mem_cons_self
    | inr later => exact second.settled next later
  · rw [List.mem_cons, not_or] at pending
    rw [second.others other among pending.2]
    exact first.others other among (by simpa using pending.1)

theorem answer_of_plays (plays : host.Plays config child (fun group => group ∈ groups) fs)
    (initial : Stands dir groups fs) (stands : Stands dir groups before)
    (medium : before.medium = fs.medium) (member : group ∈ groups) {x y : Bool}
    (held : before.slots (group.home dir) = ⟨some (.file [] x), some (.file [] y)⟩) :
    let answer := answer host config group (group.home dir) before
    answer.1 = (child group).exit ∧ answer.2.medium = before.medium ∧
    (∀ other ∈ groups, answer.2.LeadsTo other.path (other.home dir)) ∧
    answer.2.slots (group.home dir) =
      ⟨some (.file (child group).stdout x), some (.file (child group).stderr y)⟩ ∧
    ∀ other ∈ groups, other ≠ group →
      answer.2.slots (other.home dir) = before.slots (other.home dir) := by
  have short := initial.short
  -- The host asks for what is seen through paths, and answers with it.
  have homes : ∀ other ∈ groups, before.find other.path = fs.find other.path := by
    intro other among
    rw [find_home (short other among) (stands.leads other among),
      find_home (short other among) (initial.leads other among)]
  obtain ⟨ending, left, finds, stdout, stderr, others⟩ := plays group member before
    (stdoutName :: group.home dir) (stderrName :: group.home dir) x y medium homes
    ((findItself_eq_ok_iff (stands.leads group member) proper_stdoutName
      (short group member).1).2 ⟨rfl, congrArg Slots.stdout held⟩)
    ((findItself_eq_ok_iff (stands.leads group member) proper_stderrName
      (short group member).2).2 ⟨rfl, congrArg Slots.stderr held⟩)
  intro answer
  have leads : ∀ other ∈ groups, answer.2.LeadsTo other.path (other.home dir) := by
    intro other among
    apply FileSystem.leadsTo_of_find
    exact (finds other among).trans (find_home (short other among) (stands.leads other among))
  refine ⟨ending, left, leads, ?_, fun other among differ => ?_⟩
  · have out := (findItself_eq_ok_iff (leads group member) proper_stdoutName
      (short group member).1).1 stdout
    have err := (findItself_eq_ok_iff (leads group member) proper_stderrName
      (short group member).2).1 stderr
    rw [FileSystem.slots, out.2, err.2]
  · obtain ⟨out, err⟩ := others other among differ
    rw [FileSystem.slots, FileSystem.slots]
    congr 1
    · exact (findItself_eq_iff (stands.leads other among) (leads other among) proper_stdoutName
        (short other among).1).1 out
    · exact (findItself_eq_iff (stands.leads other among) (leads other among) proper_stderrName
        (short other among).2).1 err

theorem runGroup_of_plays (plays : host.Plays config child (fun group => group ∈ groups) fs)
    (initial : Stands dir groups fs) (stands : Stands dir groups before)
    (medium : before.medium = fs.medium) (member : group ∈ groups)
    (stdout : (before.slots (group.home dir)).stdout.Ready)
    (stderr : (before.slots (group.home dir)).stderr.Ready) :
    (Execution.runGroup host config group before).1.result =
        (child group).result config group (host.groupTime group) ∧
      Progress config child dir groups [group] before
        (Execution.runGroup host config group before).2 := by
  obtain ⟨x, out⟩ := opened_ready stdout
  obtain ⟨y, err⟩ := opened_ready stderr
  have short := initial.short group member
  rw [← short.1] at out
  rw [← short.2] at err
  let opened := before.setSlots (group.home dir) ⟨some (.file [] x), some (.file [] y)⟩
  let answered := answer host config group (group.home dir) opened
  have started : Execution.start host config group before =
      (answered.1.mapError (.launch config.binary.display), answered.2) := by
    rw [start_launch (stands.leads group member) ⟨noLink_ready stdout, noLink_ready stderr⟩ out err]
    rfl
  have keeps : FileSystem.Keeps before opened :=
    FileSystem.keeps_setSlots ⟨Slot.settles_opened out, Slot.settles_opened err⟩
  obtain ⟨ending, left, leads, held, others⟩ := answer_of_plays plays initial
    (stands.keep keeps.medium fun other among => (stands.leads other among).keep keeps)
    (keeps.medium.trans medium) member FileSystem.slots_setSlots
  have same : answered.2.medium = before.medium := left.trans keeps.medium
  have status : Execution.statusOf (answered.1.mapError (.launch config.binary.display)) =
      (child group).status config := by
    rw [ending, statusOf_exit]
  obtain ⟨result, final⟩ := @collect_of_written config group (host.groupTime group) answered.2 _
    _ _ _ (by rw [same]; exact stands.erasable) short (leads group member) held
  have ran : (Execution.runGroup host config group before).2 = answered.2.setSlots
      (group.home dir) ⟨config.left (child group).stdout x, config.left (child group).stderr y⟩ := by
    rw [Execution.runGroup, started]
    simp only [status]
    exact final
  refine ⟨?_, ?_, ?_, ?_, ?_⟩
  · rw [Execution.runGroup, started]
    simp only [status]
    exact result
  · rw [ran, FileSystem.medium_setSlots]
    exact same
  · intro other among
    rw [ran]
    refine (leads other among).keep (FileSystem.keeps_setSlots ?_)
    rw [held]
    exact ⟨settles_left _ _, settles_left _ _⟩
  · intro done only
    rw [List.mem_singleton.1 only, ran]
    exact ⟨x, y, FileSystem.slots_setSlots⟩
  · intro other among pending
    have differ : other ≠ group := by simpa using pending
    have apart := initial.apart group member other among differ
    rw [ran, FileSystem.slots_setSlots_of_ne apart, others other among differ,
      FileSystem.slots_setSlots_of_ne apart]

theorem runGroups_of_plays (plays : host.Plays config child (fun group => group ∈ groups) fs)
    (initial : Stands dir groups fs) (stands : Stands dir groups before)
    (medium : before.medium = fs.medium) (among : ∀ group ∈ rest, group ∈ groups)
    (distinct : rest.Nodup)
    (ready : ∀ group ∈ rest, (before.slots (group.home dir)).stdout.Ready ∧
      (before.slots (group.home dir)).stderr.Ready) :
    Execution.results host config rest before = rest.map (fun group =>
        (child group).result config group (host.groupTime group)) ∧
      Progress config child dir groups rest before (Execution.after host config rest before) := by
  induction rest generalizing before with
  | nil => exact ⟨rfl, rfl, stands.leads, by simp, fun _ _ _ => rfl⟩
  | cons group rest ih =>
    have first := List.mem_cons_self (a := group) (l := rest)
    have later {next : TestGroup} (next_mem : next ∈ rest) : next ∈ group :: rest :=
      List.mem_cons_of_mem _ next_mem
    obtain ⟨fresh, distinct⟩ := List.nodup_cons.1 distinct
    obtain ⟨result, progress⟩ := runGroup_of_plays plays initial stands medium
      (among group first) (ready group first).1 (ready group first).2
    obtain ⟨results, onward⟩ := ih (stands.keep progress.medium progress.leads)
      (progress.medium.trans medium)
      (fun next member => among next (later member)) distinct fun next member => by
        have pending : next ∉ [group] := fun only =>
          fresh (List.mem_singleton.1 only ▸ member)
        rw [progress.others next (among next (later member)) pending]
        exact ready next (later member)
    refine ⟨?_, progress.cons (among group first) fresh onward⟩
    rw [Execution.results_cons, result, results]
    rfl

end Run

theorem plays_of_follows {host : Host} {script : Script} {config : Config} {dir : Location}
    {fs : FileSystem} {groups : List TestGroup} (follows : host.Follows script)
    (stands : Stands dir groups fs) :
    host.Plays config (script.child config) (fun group => group ∈ groups) fs := by
  intro group member before stdout stderr x y medium finds out err
  have short := stands.short
  have home : ∀ other ∈ groups, before.find other.path = .ok (other.home dir, .directory) :=
    fun other among =>
      (finds other among).trans (find_home (short other among) (stands.leads other among))
  have leads : ∀ other ∈ groups, before.LeadsTo other.path (other.home dir) :=
    fun other among => FileSystem.leadsTo_of_find (home other among)
  obtain ⟨rfl, heldOut⟩ := (findItself_eq_ok_iff (leads group member) proper_stdoutName
    (short group member).1).1 out
  obtain ⟨rfl, heldErr⟩ := (findItself_eq_ok_iff (leads group member) proper_stderrName
    (short group member).2).1 err
  let written : Slots := ⟨some (.file (script.child config group).stdout x),
    some (.file (script.child config group).stderr y)⟩
  have answered : host.launch (Execution.launchOf config group (stdoutName :: group.home dir)
      (stderrName :: group.home dir)) before =
        ((script.child config group).exit, before.setSlots (group.home dir) written) := by
    rw [follows, Child.act]
    refine Prod.ext rfl ?_
    change (before.pour (stdoutName :: group.home dir) _).pour (stderrName :: group.home dir) _ = _
    rw [pour_captures, FileSystem.slots, heldOut, heldErr]
    simp only [Slot.written, FileSystem.overwrite_empty]
    rfl
  have keeps : FileSystem.Keeps before (before.setSlots (group.home dir) written) := by
    refine FileSystem.keeps_setSlots ?_
    rw [FileSystem.slots, heldOut, heldErr]
    exact ⟨.inr (by simp [written, Entry.isWay]), .inr (by simp [written, Entry.isWay])⟩
  have leads' : ∀ other ∈ groups,
      (before.setSlots (group.home dir) written).LeadsTo other.path (other.home dir) :=
    fun other among => (leads other among).keep keeps
  have held : (before.setSlots (group.home dir) written).slots (group.home dir) = written :=
    FileSystem.slots_setSlots
  rw [answered]
  refine ⟨rfl, FileSystem.medium_setSlots, fun other among => ?_, ?_, ?_,
    fun other among differ => ?_⟩
  · rw [home other among, find_home (short other among) (leads' other among)]
  · exact (findItself_eq_ok_iff (leads' group member) proper_stdoutName
      (short group member).1).2 ⟨rfl, congrArg Slots.stdout held⟩
  · exact (findItself_eq_ok_iff (leads' group member) proper_stderrName
      (short group member).2).2 ⟨rfl, congrArg Slots.stderr held⟩
  · have same : (before.setSlots (group.home dir) written).slots (other.home dir) =
        before.slots (other.home dir) :=
      FileSystem.slots_setSlots_of_ne (stands.apart group member other among differ)
    exact ⟨(findItself_eq_iff (leads other among) (leads' other among) proper_stdoutName
        (short other among).1).2 (congrArg Slots.stdout same),
      (findItself_eq_iff (leads other among) (leads' other among) proper_stderrName
        (short other among).2).2 (congrArg Slots.stderr same)⟩

theorem run_refines {host : Host} {config : Config} {child : TestGroup → Child} {root : Path}
    {fs : FileSystem} {entries : List (Name × Entry)} (proper : fs.ProperNames)
    (named : root.fileName = some (Utf8.encode testsDirectoryName))
    (listed : fs.Lists root entries) (erasable : ∀ place, fs.medium.Permits .remove place)
    (ready : ∀ group, IsGroup root config.ignore entries group →
      fs.Ready group.stdoutPath ∧ fs.Ready group.stderrPath)
    (plays : host.Plays config child (IsGroup root config.ignore entries) fs) :
    ∃ run after, Suite.run host root config fs = (.ok run, after) ∧
      run.report.Tells config child (IsGroup root config.ignore entries) ∧
      ∀ group, IsGroup root config.ignore entries group →
        after.Holds config group.stdoutPath (child group).stdout ∧
        after.Holds config group.stderrPath (child group).stderr := by
  obtain ⟨dir, found, rfl, -⟩ := FileSystem.lists_iff.1 listed
  let groups := Discovery.groups root config.ignore.accepts (fs.children dir)
  have distinct := FileSystem.nodup_children fs dir
  have selected : IsGroup root config.ignore (fs.children dir) = fun group => group ∈ groups :=
    funext fun group => propext mem_groups_iff.symm
  rw [selected] at ready plays ⊢
  have leads : ∀ group ∈ groups, fs.LeadsTo group.path (group.home dir) := fun group member =>
    leadsTo_of_mem proper (FileSystem.leadsTo_of_find found) member
  have slots : ∀ group ∈ groups, Short group ∧
      (fs.slots (group.home dir)).stdout.Ready ∧ (fs.slots (group.home dir)).stderr.Ready := by
    intro group member
    obtain ⟨stdout, stderr⟩ := ready group member
    obtain ⟨shortOut, readyOut⟩ := ready_slot (leads group member) proper_stdoutName stdout
    obtain ⟨shortErr, readyErr⟩ := ready_slot (leads group member) proper_stderrName stderr
    exact ⟨⟨shortOut, shortErr⟩, readyOut, readyErr⟩
  have symm : Std.Symm fun a b : TestGroup => a.name ≠ b.name := ⟨fun _ _ => Ne.symm⟩
  have stands : Stands dir groups fs :=
    ⟨leads, fun group member => (slots group member).1, fun group member other among differ =>
      home_apart ((Discovery.names_apart distinct).forall among member differ), erasable⟩
  obtain ⟨results, progress⟩ := runGroups_of_plays plays stands stands rfl (fun _ member => member)
    (Discovery.nodup_groups distinct) fun group member => (slots group member).2
  have chosen : Suite.select root config fs =
      .ok (groups, Discovery.events root config.ignore.accepts (fs.children dir)) :=
    select_eq_ok_iff.2 ⟨named, _, listed, rfl, rfl⟩
  obtain ⟨run, ran, report⟩ := run_of_select host chosen
  refine ⟨run, _, ran, ?_, fun group member => ?_⟩
  · rw [report, results]
    exact tells_of_results (Discovery.groups_ascending distinct)
  · obtain ⟨x, y, settled⟩ := progress.settled group member
    have short := stands.short group member
    exact ⟨holds_left (progress.leads group member) proper_stdoutName short.1
        ⟨x, congrArg Slots.stdout settled⟩,
      holds_left (progress.leads group member) proper_stderrName short.2
        ⟨y, congrArg Slots.stderr settled⟩⟩

theorem stands_tree :
    Stands Sample.tests [Sample.group "groupA", Sample.group "groupB"] Sample.tree := by
  refine ⟨?_, by decide +kernel, by decide +kernel, fun _ => rfl⟩
  simp only [List.forall_mem_cons, List.not_mem_nil, false_imp_iff, implies_true, and_true]
  exact ⟨FileSystem.leadsTo_of_find rfl, FileSystem.leadsTo_of_find rfl⟩

theorem tree_run_refines :
    ∃ run after, Suite.run Sample.script.host Sample.root Sample.config Sample.tree =
        (.ok run, after) ∧
      run.report.Tells Sample.config (Sample.script.child Sample.config)
        (IsGroup Sample.root Sample.config.ignore (Sample.tree.children Sample.tests)) ∧
      after.readFile (Sample.group "groupA").stdoutPath = .ok [0x6E, 0x65, 0x77] ∧
      after.findItself (Sample.group "groupA").stderrPath = .error .noEntry := by
  have selected : IsGroup Sample.root Sample.config.ignore (Sample.tree.children Sample.tests) =
      fun group => group ∈ [Sample.group "groupA", Sample.group "groupB"] := by
    funext group
    rw [← Sample.groups_tree]
    exact propext mem_groups_iff.symm
  have plays : Sample.script.host.Plays Sample.config (Sample.script.child Sample.config)
      (fun group => group ∈ [Sample.group "groupA", Sample.group "groupB"]) Sample.tree :=
    plays_of_follows Sample.script.host_follows stands_tree
  have ready : ∀ group ∈ [Sample.group "groupA", Sample.group "groupB"],
      Sample.tree.Ready group.stdoutPath ∧ Sample.tree.Ready group.stderrPath := by
    simp only [List.forall_mem_cons, List.not_mem_nil, false_imp_iff, implies_true, and_true]
    exact ⟨⟨.inr ⟨_, _, _, rfl⟩, .inl rfl⟩, ⟨.inl rfl, .inl rfl⟩⟩
  have listed : Sample.tree.Lists Sample.root (Sample.tree.children Sample.tests) := rfl
  obtain ⟨run, after, ran, tells, holds⟩ := run_refines (by decide +kernel) (by decide +kernel)
    listed (fun _ => rfl) (by rw [selected]; exact ready) (by rw [selected]; exact plays)
  have first : IsGroup Sample.root Sample.config.ignore (Sample.tree.children Sample.tests)
      (Sample.group "groupA") := by
    rw [selected]
    exact List.mem_cons_self
  exact ⟨run, after, ran, tells, (holds _ first).1, (holds _ first).2⟩

end GroupRunner
