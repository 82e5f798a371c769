import GroupRunner.Proofs.Discovery
import GroupRunner.Proofs.Execution.Group
import Mathlib.Data.List.Perm.Subperm

set_option autoImplicit false

namespace GroupRunner

def TestGroup.home (dir : Location) (group : TestGroup) : Location :=
  Utf8.encode group.name :: dir

theorem home_apart {dir : Location} {a b : TestGroup} (apart : a.name ≠ b.name) :
    a.home dir ≠ b.home dir :=
  fun same => apart (Utf8.encode_injective (List.cons.inj same).1)

namespace Execution

def results (host : Host) (config : Config) (groups : List TestGroup) (fs : FileSystem) :
    List GroupResult :=
  (runGroups host config groups fs).1.map (·.result)

def after (host : Host) (config : Config) (groups : List TestGroup) (fs : FileSystem) :
    FileSystem :=
  (runGroups host config groups fs).2

section Steps

variable {host : Host} {config : Config} {group : TestGroup} {rest : List TestGroup}
variable {fs : FileSystem}

theorem results_cons : results host config (group :: rest) fs =
    (runGroup host config group fs).1.result ::
      results host config rest (runGroup host config group fs).2 := rfl

theorem groups_of_results (groups : List TestGroup) :
    (results host config groups fs).map (·.group) = groups := by
  induction groups generalizing fs with
  | nil => rfl
  | cons group rest ih =>
    rw [results_cons, List.map_cons, ih]
    rfl

theorem after_cons : after host config (group :: rest) fs =
    after host config rest (runGroup host config group fs).2 := rfl

end Steps

end Execution

structure Laid (dir : Location) (fs : FileSystem) (groups : List TestGroup) : Prop where
  leads : ∀ group ∈ groups, fs.LeadsTo group.path (group.home dir)
  noLink : ∀ group ∈ groups, (fs.slots (group.home dir)).NoLink group
  apart : groups.Pairwise fun a b => a.name ≠ b.name

def Aside (dir : Location) (groups : List TestGroup) (place : Location) : Prop :=
  ∀ group ∈ groups, place ≠ stdoutName :: group.home dir ∧ place ≠ stderrName :: group.home dir

theorem capture_of_not_aside {dir : Location} {groups : List TestGroup} {place : Location}
    (inside : ¬ Aside dir groups place) : ∃ group ∈ groups,
      place = stdoutName :: group.home dir ∨ place = stderrName :: group.home dir := by
  simp only [Aside, not_forall] at inside
  obtain ⟨group, member, inside⟩ := inside
  exact ⟨group, member, by grind⟩

namespace FileSystem

theorem slots_setSlots_of_ne {fs : FileSystem} {dir other : Location} {slots : Slots}
    (apart : other ≠ dir) : (fs.setSlots dir slots).slots other = fs.slots other := by
  have differ (name name' : Name) : name :: other ≠ name' :: dir :=
    fun same => apart (List.cons.inj same).2
  rw [FileSystem.slots, FileSystem.slots, get?_setSlots (differ _ _) (differ _ _),
    get?_setSlots (differ _ _) (differ _ _)]

end FileSystem

namespace Laid

variable {dir : Location} {fs : FileSystem} {group : TestGroup} {groups rest : List TestGroup}

theorem subperm {part : List TestGroup} (laid : Laid dir fs groups) (among : part.Subperm groups) :
    Laid dir fs part := by
  refine ⟨fun group member => laid.leads group (among.subset member),
    fun group member => laid.noLink group (among.subset member), ?_⟩
  obtain ⟨order, perm, sublist⟩ := among
  exact (perm.pairwise_iff Ne.symm).1 (laid.apart.sublist sublist)

theorem step (laid : Laid dir fs (group :: rest)) {slots : Slots}
    (settles : (fs.slots (group.home dir)).Settles slots) :
    Laid dir (fs.setSlots (group.home dir) slots) rest := by
  obtain ⟨apart, others⟩ := List.pairwise_cons.1 laid.apart
  refine ⟨fun next member => ?_, fun next member => ?_, others⟩
  · exact (laid.leads next (List.mem_cons_of_mem _ member)).keep
      (FileSystem.keeps_setSlots settles)
  · rw [FileSystem.slots_setSlots_of_ne (home_apart (apart next member)).symm]
    exact laid.noLink next (List.mem_cons_of_mem _ member)

end Laid

section Run

variable {host : Host} {script : Script} {config : Config} {dir : Location} {fs : FileSystem}
variable {groups : List TestGroup}

def Script.outcome (script : Script) (config : Config) (dir : Location) (fs : FileSystem)
    (duration : Duration) (group : TestGroup) : GroupResult × Slots :=
  (fs.slots (group.home dir)).run fs.medium (group.home dir) config group
    (script.child config group) duration

theorem outcome_setSlots {group other : TestGroup} {slots : Slots} {duration : Duration}
    (apart : other.name ≠ group.name) :
    script.outcome config dir (fs.setSlots (group.home dir) slots) duration other =
      script.outcome config dir fs duration other := by
  rw [Script.outcome, FileSystem.slots_setSlots_of_ne (home_apart apart),
    FileSystem.medium_setSlots]
  rfl

theorem settles_outcome {group : TestGroup} (duration : Duration)
    (noLink : (fs.slots (group.home dir)).NoLink group) :
    (fs.slots (group.home dir)).Settles (script.outcome config dir fs duration group).2 :=
  Slots.settles_run fs.medium _ config group _ duration noLink

-- What a run of groups gives and leaves, each group told by itself.
structure Runs (host : Host) (script : Script) (config : Config) (dir : Location)
    (fs : FileSystem) (groups : List TestGroup) : Prop where
  results : Execution.results host config groups fs = groups.map fun group =>
    (script.outcome config dir fs (host.groupTime group) group).1
  keeps : FileSystem.Keeps fs (Execution.after host config groups fs)
  slots : ∀ group ∈ groups, (Execution.after host config groups fs).slots (group.home dir) =
    (script.outcome config dir fs (host.groupTime group) group).2
  frame : ∀ place, Aside dir groups place →
    (Execution.after host config groups fs).get? place = fs.get? place
  children : (Execution.after host config groups fs).children dir = fs.children dir

theorem runs_of_laid (config : Config) (follows : host.Follows script) (laid : Laid dir fs groups) :
    Runs host script config dir fs groups := by
  -- All groups find what is told of the beginning: earlier ones worked on other places.
  induction groups generalizing fs with
  | nil => exact ⟨rfl, .refl fs, by simp, fun _ _ => rfl, rfl⟩
  | cons group rest ih =>
    obtain ⟨apart, -⟩ := List.pairwise_cons.1 laid.apart
    have noLink := laid.noLink group List.mem_cons_self
    obtain ⟨result, final⟩ :=
      @runGroup_eq host config group fs _ script follows (laid.leads group List.mem_cons_self) noLink
    have settles : (fs.slots (group.home dir)).Settles
        (script.outcome config dir fs (host.groupTime group) group).2 :=
      settles_outcome (host.groupTime group) noLink
    have onward := ih (laid.step settles)
    change _ = fs.setSlots (group.home dir)
      (script.outcome config dir fs (host.groupTime group) group).2 at final
    refine ⟨?_, ?_, ?_, ?_, ?_⟩
    · rw [Execution.results_cons, result, final, onward.results, List.map_cons]
      congr 1
      refine List.map_congr_left fun next member => ?_
      rw [outcome_setSlots (apart next member).symm]
    · rw [Execution.after_cons, final]
      exact (FileSystem.keeps_setSlots settles).trans onward.keeps
    · intro next member
      rw [Execution.after_cons, final]
      cases List.mem_cons.1 member with
      | inl same =>
        -- None of the later groups touches the captures of the first one.
        have aside (name : Name) : Aside dir rest (name :: group.home dir) := fun next member =>
          have differ : group.home dir ≠ next.home dir := home_apart (apart next member)
          ⟨fun same => differ (List.cons.inj same).2, fun same => differ (List.cons.inj same).2⟩
        rw [same, FileSystem.slots, onward.frame _ (aside _), onward.frame _ (aside _)]
        exact FileSystem.slots_setSlots
      | inr later =>
        rw [onward.slots next later, outcome_setSlots (apart next later).symm]
    · intro place aside
      obtain ⟨notOut, notErr⟩ := aside group List.mem_cons_self
      rw [Execution.after_cons, final,
        onward.frame place fun next member => aside next (List.mem_cons_of_mem _ member)]
      exact FileSystem.get?_setSlots notOut notErr
    · rw [Execution.after_cons, final, onward.children]
      have below : group.home dir ≠ dir := List.cons_ne_self _ _
      rw [FileSystem.setSlots, FileSystem.children_set below, FileSystem.children_set below]

-- No process can tell the two apart but by the order of their listings.
structure FileSystem.Same (fs other : FileSystem) : Prop where
  cwd : other.cwd = fs.cwd
  medium : other.medium = fs.medium
  entries : ∀ place, other.get? place = fs.get? place

theorem same_of_runs {other : Host} {order : List TestGroup}
    (runs : Runs host script config dir fs groups) (runs' : Runs other script config dir fs order)
    (perm : order.Perm groups) :
    (Execution.after host config groups fs).Same (Execution.after other config order fs) := by
  refine ⟨runs'.keeps.cwd.trans runs.keeps.cwd.symm,
    runs'.keeps.medium.trans runs.keeps.medium.symm, fun place => ?_⟩
  -- Beside the captures nothing has changed, and each capture is what its own group left of it.
  by_cases aside : Aside dir groups place
  · rw [runs.frame place aside,
      runs'.frame place fun group member => aside group (perm.mem_iff.1 member)]
  · obtain ⟨group, member, inside⟩ := capture_of_not_aside aside
    have slots : (Execution.after other config order fs).slots (group.home dir) =
        (Execution.after host config groups fs).slots (group.home dir) :=
      (runs'.slots group (perm.mem_iff.2 member)).trans (runs.slots group member).symm
    cases inside with
    | inl stdout =>
      rw [stdout]
      exact congrArg Slots.stdout slots
    | inr stderr =>
      rw [stderr]
      exact congrArg Slots.stderr slots

end Run

section Selection

variable {root : Path} {config : Config} {fs : FileSystem} {groups : List TestGroup}
variable {found : List Log.Event}

def FileSystem.Ends (fs : FileSystem) (kind : Entry → Bool) (path : Path) : Prop :=
  ∀ place entry, fs.findItself path = .ok (place, entry) → kind entry = true

instance (fs : FileSystem) (kind : Entry → Bool) (path : Path) : Decidable (fs.Ends kind path) :=
  match found : fs.findItself path with
  | .error e => .isTrue fun _ _ found' => by rw [found] at found'; cases found'
  | .ok (place, entry) => decidable_of_iff (kind entry = true)
    ⟨fun fits _ _ found' => by rw [found] at found'; cases found'; exact fits,
      fun ends => ends place entry found⟩

def Entry.isLink : Entry → Bool
  | .link _ => true
  | _ => false

abbrev FileSystem.NoLink (fs : FileSystem) (path : Path) : Prop :=
  fs.Ends (fun entry => !entry.isLink) path

theorem kind_of_ends {path : Path} {dir : Location} {name : Name} {kind : Entry → Bool}
    (leads : fs.LeadsTo path dir) (proper : ProperName name)
    (ends : fs.Ends kind (path.join ⟨name⟩)) :
    (path.join ⟨name⟩).isTooLong = true ∨
      ∀ entry ∈ fs.get? (name :: dir), kind entry = true := by
  cases long : (path.join ⟨name⟩).isTooLong with
  | true => exact .inl rfl
  | false =>
    refine .inr fun entry held => ends (name :: dir) entry ?_
    rw [leads.findItself_join proper, long, held]
    rfl

theorem noLink_slot {path : Path} {dir : Location} {name : Name} (leads : fs.LeadsTo path dir)
    (proper : ProperName name) (noLink : fs.NoLink (path.join ⟨name⟩)) :
    Slot.NoLink (path.join ⟨name⟩).isTooLong (fs.get? (name :: dir)) := by
  refine (kind_of_ends leads proper noLink).imp_right fun kind target held => ?_
  have never := kind _ held
  cases never

theorem laid_of_select (proper : fs.ProperNames)
    (selected : Suite.select root config fs = .ok (groups, found))
    (noLink : ∀ group ∈ groups, fs.NoLink group.stdoutPath ∧ fs.NoLink group.stderrPath) :
    ∃ dir, fs.find root = .ok (dir, .directory) ∧
      groups = Discovery.groups root config.ignore.accepts (fs.children dir) ∧
      Laid dir fs groups := by
  obtain ⟨-, entries, listed, rfl, -⟩ := select_eq_ok_iff.1 selected
  obtain ⟨dir, held, rfl, -⟩ := FileSystem.lists_iff.1 listed
  have leads : ∀ group ∈ Discovery.groups root config.ignore.accepts (fs.children dir),
      fs.LeadsTo group.path (group.home dir) := fun group member =>
    leadsTo_of_mem proper (FileSystem.leadsTo_of_find held) member
  refine ⟨dir, held, rfl, leads, fun group member => ⟨?_, ?_⟩,
    Discovery.names_apart (FileSystem.nodup_children fs dir)⟩
  · exact noLink_slot (leads group member) proper_stdoutName (noLink group member).1
  · exact noLink_slot (leads group member) proper_stderrName (noLink group member).2

theorem run_of_select (host : Host) (selected : Suite.select root config fs = .ok (groups, found)) :
    ∃ run, Suite.run host root config fs = (.ok run, Execution.after host config groups fs) ∧
      run.report = .ofResults (Execution.results host config groups fs) host.totalTime := by
  rw [Suite.run, selected]
  exact ⟨_, rfl, rfl⟩

end Selection

namespace Sample

def script : Script := fun _ _ directory =>
  if directory = (group "groupA").path then .ended [0x6E, 0x65, 0x77] [0x65] (.code 0)
  else .refused .noEntry

end Sample

end GroupRunner
