import GroupRunner.Proofs.Execution.Child

set_option autoImplicit false

namespace GroupRunner

def stdoutName : Name := Utf8.encode stdoutFile

def stderrName : Name := Utf8.encode stderrFile

theorem proper_stdoutName : ProperName stdoutName := by decide +kernel

theorem proper_stderrName : ProperName stderrName := by decide +kernel

theorem captures_apart (dir : Location) : stdoutName :: dir ≠ stderrName :: dir := by
  have names : stdoutName ≠ stderrName := by decide +kernel
  exact fun same => names (List.cons.inj same).1

structure Slots where
  stdout : Slot
  stderr : Slot

namespace Slots

def NoLink (group : TestGroup) (slots : Slots) : Prop :=
  slots.stdout.NoLink group.stdoutPath.isTooLong ∧ slots.stderr.NoLink group.stderrPath.isTooLong

def Settles (before after : Slots) : Prop :=
  before.stdout.Settles after.stdout ∧ before.stderr.Settles after.stderr

end Slots

namespace FileSystem

def slots (fs : FileSystem) (dir : Location) : Slots :=
  ⟨fs.get? (stdoutName :: dir), fs.get? (stderrName :: dir)⟩

def setSlots (fs : FileSystem) (dir : Location) (slots : Slots) : FileSystem :=
  (fs.set (stdoutName :: dir) slots.stdout).set (stderrName :: dir) slots.stderr

section Slots

variable {fs : FileSystem} {dir : Location} {first second : Slots}

theorem slots_setSlots : (fs.setSlots dir first).slots dir = first := by
  rw [slots, setSlots, get?_set_self, get?_set_of_ne (captures_apart dir), get?_set_self]

@[simp] theorem medium_setSlots : (fs.setSlots dir first).medium = fs.medium := by
  rw [setSlots, medium_set, medium_set]

theorem setSlots_slots : fs.setSlots dir (fs.slots dir) = fs := by
  rw [slots, setSlots, set_get?, set_get?]

theorem get?_setSlots {place : Location} (notOut : place ≠ stdoutName :: dir)
    (notErr : place ≠ stderrName :: dir) : (fs.setSlots dir first).get? place = fs.get? place := by
  rw [setSlots, get?_set_of_ne notErr, get?_set_of_ne notOut]

theorem setSlots_setSlots (stdout : first.stdout.isSome ∨ second.stdout = none)
    (stderr : first.stderr.isSome ∨ second.stderr = none) :
    (fs.setSlots dir first).setSlots dir second = fs.setSlots dir second := by
  have held : ((fs.set (stdoutName :: dir) first.stdout).get? (stdoutName :: dir)).isSome ∨
      second.stdout = none := by
    rw [get?_set_self]
    exact stdout
  simp only [setSlots]
  rw [set_comm (captures_apart dir) held, set_set stdout, set_set stderr]

theorem keeps_setSlots (settles : (fs.slots dir).Settles first) :
    Keeps fs (fs.setSlots dir first) := by
  refine (keeps_set settles.1).trans (keeps_set ?_)
  rw [get?_set_of_ne (captures_apart dir).symm]
  exact settles.2

end Slots

end FileSystem

namespace Slots

def start (config : Config) (group : TestGroup) (child : Child) (slots : Slots) :
    Except RunError Exit × Slots :=
  match slots.stdout.opened group.stdoutPath.isTooLong with
  | .error cause => (.error (.capture group.stdoutPath.display cause), slots)
  | .ok stdout =>
    match slots.stderr.opened group.stderrPath.isTooLong with
    | .error cause => (.error (.capture group.stderrPath.display cause), { slots with stdout })
    | .ok stderr =>
      (child.exit.mapError (.launch config.binary.display),
        ⟨stdout.written child.stdout, stderr.written child.stderr⟩)

section Start

variable {config : Config} {group : TestGroup} {child : Child} {slots : Slots}
variable {cause : IoError} {stdout stderr : Slot}

theorem start_stdout_error (out : slots.stdout.opened group.stdoutPath.isTooLong = .error cause) :
    slots.start config group child = (.error (.capture group.stdoutPath.display cause), slots) := by
  simp only [start, out]

theorem start_stderr_error (out : slots.stdout.opened group.stdoutPath.isTooLong = .ok stdout)
    (err : slots.stderr.opened group.stderrPath.isTooLong = .error cause) :
    slots.start config group child =
      (.error (.capture group.stderrPath.display cause), { slots with stdout }) := by
  simp only [start, out, err]

theorem start_ok (out : slots.stdout.opened group.stdoutPath.isTooLong = .ok stdout)
    (err : slots.stderr.opened group.stderrPath.isTooLong = .ok stderr) :
    slots.start config group child = (child.exit.mapError (.launch config.binary.display),
      ⟨stdout.written child.stdout, stderr.written child.stderr⟩) := by
  simp only [start, out, err]

end Start

def words (path : Path) : Except IoError String → String
  | .ok text => text
  | .error e => "<failed to read " ++ path.display ++ ": " ++ e.message ++ ">"

def collect (medium : Medium) (home : Location) (config : Config) (group : TestGroup)
    (status : Status) (duration : Duration) (slots : Slots) : GroupResult × Slots :=
  let (stdout, out) := slots.stdout.pruned medium (stdoutName :: home) group.stdoutPath.isTooLong
    config.pruneThreshold
  let (stderr, err) := slots.stderr.pruned medium (stderrName :: home) group.stderrPath.isTooLong
    config.pruneThreshold
  let stderrPath := Execution.keptPath group.stderrPath stderr
  ({ group, status, duration
     stdoutPath := Execution.keptPath group.stdoutPath stdout
     stderrPath
     stderr := stderrPath.map fun path => words path (err.text group.stderrPath.isTooLong)
     stderrExpected := stderrPath.isSome && config.expectsStderr group.name }, ⟨out, err⟩)

def run (medium : Medium) (home : Location) (config : Config) (group : TestGroup) (child : Child)
    (duration : Duration) (slots : Slots) : GroupResult × Slots :=
  let (exit, slots) := slots.start config group child
  slots.collect medium home config group (Execution.statusOf exit) duration

theorem settles_collect (medium : Medium) (home : Location) (config : Config) (group : TestGroup)
    (status : Status) (duration : Duration) {slots : Slots} (noLink : slots.NoLink group) :
    slots.Settles (slots.collect medium home config group status duration).2 :=
  ⟨Slot.settles_pruned noLink.1, Slot.settles_pruned noLink.2⟩

theorem settles_start (config : Config) (group : TestGroup) (child : Child) (slots : Slots) :
    slots.Settles (slots.start config group child).2 := by
  cases out : slots.stdout.opened group.stdoutPath.isTooLong with
  | error cause =>
    rw [start_stdout_error out]
    exact ⟨.inl rfl, .inl rfl⟩
  | ok stdout =>
    cases err : slots.stderr.opened group.stderrPath.isTooLong with
    | error cause =>
      rw [start_stderr_error out err]
      exact ⟨Slot.settles_opened out, .inl rfl⟩
    | ok stderr =>
      rw [start_ok out err]
      exact ⟨(Slot.settles_opened out).trans (Slot.settles_written _ _),
        (Slot.settles_opened err).trans (Slot.settles_written _ _)⟩

theorem noLink_start (config : Config) (group : TestGroup) (child : Child) {slots : Slots}
    (noLink : slots.NoLink group) : (slots.start config group child).2.NoLink group :=
  ⟨Slot.noLink_of_settles (settles_start ..).1 noLink.1,
    Slot.noLink_of_settles (settles_start ..).2 noLink.2⟩

theorem settles_run (medium : Medium) (home : Location) (config : Config) (group : TestGroup)
    (child : Child) (duration : Duration) {slots : Slots} (noLink : slots.NoLink group) :
    slots.Settles (slots.run medium home config group child duration).2 := by
  have started := settles_start config group child slots
  have collected := settles_collect medium home config group
    (Execution.statusOf (slots.start config group child).1) duration
    (noLink_start config group child noLink)
  exact ⟨started.1.trans collected.1, started.2.trans collected.2⟩

end Slots

section Simulation

variable {host : Host} {config : Config} {group : TestGroup} {fs : FileSystem} {dir : Location}

theorem map_keptPath {B : Type} {path : Path} {pruned : Except IoError Pruned} {f g : Path → B}
    (same : f path = g path) :
    (Execution.keptPath path pruned).map f = (Execution.keptPath path pruned).map g := by
  -- A path that is kept at all is the capture's own.
  cases pruned with
  | error e => exact congrArg some same
  | ok pruned => cases pruned <;> simp [Execution.keptPath, Pruned.isKept, same]

theorem collect_eq (status : Status) (duration : Duration) (leads : fs.LeadsTo group.path dir)
    (noLink : (fs.slots dir).NoLink group) :
    (Execution.collect config group status duration fs).1.result =
        ((fs.slots dir).collect fs.medium dir config group status duration).1 ∧
      (Execution.collect config group status duration fs).2 =
        fs.setSlots dir ((fs.slots dir).collect fs.medium dir config group status duration).2 := by
  let out := (fs.slots dir).stdout.pruned fs.medium (stdoutName :: dir) group.stdoutPath.isTooLong
    config.pruneThreshold
  let err := (fs.slots dir).stderr.pruned fs.medium (stderrName :: dir) group.stderrPath.isTooLong
    config.pruneThreshold
  have settlesOut : (fs.slots dir).stdout.Settles out.2 := Slot.settles_pruned noLink.1
  have settlesErr : (fs.slots dir).stderr.Settles err.2 := Slot.settles_pruned noLink.2
  have pruneOut : Capture.prune group.stdoutPath config.pruneThreshold fs =
      (out.1, fs.set (stdoutName :: dir) out.2) :=
    FileSystem.prune_join leads proper_stdoutName noLink.1 _
  -- The second capture does not notice what became of the first one.
  have untouched : (fs.set (stdoutName :: dir) out.2).get? (stderrName :: dir) =
      (fs.slots dir).stderr := FileSystem.get?_set_of_ne (captures_apart dir).symm _
  have pruneErr : Capture.prune group.stderrPath config.pruneThreshold
      (fs.set (stdoutName :: dir) out.2) = (err.1, fs.setSlots dir ⟨out.2, err.2⟩) := by
    have pruned := FileSystem.prune_join (leads.keep (FileSystem.keeps_set settlesOut))
      proper_stderrName (by rw [untouched]; exact noLink.2) config.pruneThreshold
    rw [untouched, FileSystem.medium_set] at pruned
    exact pruned
  have read : Capture.read group.stderrPath (fs.setSlots dir ⟨out.2, err.2⟩) =
      err.2.text group.stderrPath.isTooLong := by
    have keeps : FileSystem.Keeps fs (fs.setSlots dir ⟨out.2, err.2⟩) :=
      FileSystem.keeps_setSlots ⟨settlesOut, settlesErr⟩
    have held : (fs.setSlots dir ⟨out.2, err.2⟩).get? (stderrName :: dir) = err.2 :=
      congrArg Slots.stderr FileSystem.slots_setSlots
    have text := FileSystem.read_join (leads.keep keeps) proper_stderrName
      (by rw [held]; exact Slot.noLink_of_settles settlesErr noLink.2)
    rw [held] at text
    exact text
  have words : Execution.readKept group.stderrPath (fs.setSlots dir ⟨out.2, err.2⟩) =
      Slots.words group.stderrPath (err.2.text group.stderrPath.isTooLong) := by
    rw [Execution.readKept, read]
    rfl
  unfold Execution.collect
  simp only [pruneOut, pruneErr]
  refine ⟨?_, rfl⟩
  rw [map_keptPath (f := fun path => Execution.readKept path _)
    (g := fun path => Slots.words path (err.2.text group.stderrPath.isTooLong)) words]
  rfl

def answer (host : Host) (config : Config) (group : TestGroup) (dir : Location)
    (fs : FileSystem) : Except IoError Exit × FileSystem :=
  host.launch (Execution.launchOf config group (stdoutName :: dir) (stderrName :: dir)) fs

section Start

variable {cause : IoError} {stdout stderr : Slot}

theorem create_stdout (leads : fs.LeadsTo group.path dir) (noLink : (fs.slots dir).NoLink group) :
    fs.create group.stdoutPath =
      ((fs.slots dir).stdout.opened group.stdoutPath.isTooLong).map
        fun slot => (stdoutName :: dir, fs.set (stdoutName :: dir) slot) :=
  FileSystem.create_join leads proper_stdoutName noLink.1

theorem create_stderr (leads : fs.LeadsTo group.path dir) (noLink : (fs.slots dir).NoLink group)
    (out : (fs.slots dir).stdout.opened group.stdoutPath.isTooLong = .ok stdout) :
    (fs.set (stdoutName :: dir) stdout).create group.stderrPath =
      ((fs.slots dir).stderr.opened group.stderrPath.isTooLong).map
        fun slot => (stderrName :: dir, fs.setSlots dir ⟨stdout, slot⟩) := by
  have keeps : FileSystem.Keeps fs (fs.set (stdoutName :: dir) stdout) :=
    FileSystem.keeps_set (Slot.settles_opened out)
  have untouched : (fs.set (stdoutName :: dir) stdout).get? (stderrName :: dir) =
      (fs.slots dir).stderr := FileSystem.get?_set_of_ne (captures_apart dir).symm _
  have created := FileSystem.create_join (leads.keep keeps) proper_stderrName
    (by rw [untouched]; exact noLink.2)
  rw [untouched] at created
  exact created

theorem start_error_stdout (leads : fs.LeadsTo group.path dir)
    (noLink : (fs.slots dir).NoLink group)
    (out : (fs.slots dir).stdout.opened group.stdoutPath.isTooLong = .error cause) :
    Execution.start host config group fs =
      (.error (.capture group.stdoutPath.display cause), fs) := by
  have created := create_stdout leads noLink
  rw [out] at created
  simp only [Execution.start, Execution.openCapture, created, Except.map]

theorem start_error_stderr (leads : fs.LeadsTo group.path dir)
    (noLink : (fs.slots dir).NoLink group)
    (out : (fs.slots dir).stdout.opened group.stdoutPath.isTooLong = .ok stdout)
    (err : (fs.slots dir).stderr.opened group.stderrPath.isTooLong = .error cause) :
    Execution.start host config group fs =
      (.error (.capture group.stderrPath.display cause),
        fs.setSlots dir { fs.slots dir with stdout }) := by
  have created := create_stdout leads noLink
  have created' := create_stderr leads noLink out
  rw [out] at created
  rw [err] at created'
  have untouched : (fs.set (stdoutName :: dir) stdout).get? (stderrName :: dir) =
      (fs.slots dir).stderr := FileSystem.get?_set_of_ne (captures_apart dir).symm _
  simp only [Execution.start, Execution.openCapture, created, created', Except.map]
  rw [FileSystem.setSlots, ← untouched, FileSystem.set_get?]

theorem start_launch (leads : fs.LeadsTo group.path dir) (noLink : (fs.slots dir).NoLink group)
    (out : (fs.slots dir).stdout.opened group.stdoutPath.isTooLong = .ok stdout)
    (err : (fs.slots dir).stderr.opened group.stderrPath.isTooLong = .ok stderr) :
    Execution.start host config group fs =
      (answer host config group dir (fs.setSlots dir ⟨stdout, stderr⟩)).map
        (Except.mapError (.launch config.binary.display)) id := by
  have created := create_stdout leads noLink
  have created' := create_stderr leads noLink out
  rw [out] at created
  rw [err] at created'
  simp only [Execution.start, Execution.openCapture, created, created', Except.map]
  rw [answer]
  obtain ⟨exit, after⟩ := host.launch
    (Execution.launchOf config group (stdoutName :: dir) (stderrName :: dir))
    (fs.setSlots dir ⟨stdout, stderr⟩)
  cases exit <;> rfl

end Start

theorem pour_captures (fs : FileSystem) (dir : Location) (stdout stderr : Bytes) :
    (fs.pour (stdoutName :: dir) stdout).pour (stderrName :: dir) stderr =
      fs.setSlots dir
        ⟨(fs.slots dir).stdout.written stdout, (fs.slots dir).stderr.written stderr⟩ := by
  rw [FileSystem.pour_eq, FileSystem.pour_eq,
    FileSystem.get?_set_of_ne (captures_apart dir).symm]
  rfl

theorem answer_eq {script : Script} (follows : host.Follows script) (slots : Slots) :
    answer host config group dir (fs.setSlots dir slots) =
      ((script.child config group).exit, (fs.setSlots dir slots).setSlots dir
        ⟨slots.stdout.written (script.child config group).stdout,
          slots.stderr.written (script.child config group).stderr⟩) := by
  rw [answer, follows, Child.act]
  refine Prod.ext rfl ?_
  change ((fs.setSlots dir slots).pour (stdoutName :: dir) _).pour (stderrName :: dir) _ = _
  rw [pour_captures, FileSystem.slots_setSlots]
  rfl

theorem start_eq {script : Script} (follows : host.Follows script)
    (leads : fs.LeadsTo group.path dir) (noLink : (fs.slots dir).NoLink group) :
    Execution.start host config group fs =
      (((fs.slots dir).start config group (script.child config group)).1,
        fs.setSlots dir ((fs.slots dir).start config group (script.child config group)).2) := by
  cases out : (fs.slots dir).stdout.opened group.stdoutPath.isTooLong with
  | error cause =>
    rw [start_error_stdout leads noLink out, Slots.start_stdout_error out,
      FileSystem.setSlots_slots]
  | ok stdout =>
    cases err : (fs.slots dir).stderr.opened group.stderrPath.isTooLong with
    | error cause =>
      rw [start_error_stderr leads noLink out err, Slots.start_stderr_error out err]
    | ok stderr =>
      rw [start_launch leads noLink out err, Slots.start_ok out err, answer_eq follows,
        FileSystem.setSlots_setSlots (.inl (Slot.isSome_of_opened out))
          (.inl (Slot.isSome_of_opened err))]
      rfl

theorem runGroup_eq {script : Script} (follows : host.Follows script)
    (leads : fs.LeadsTo group.path dir) (noLink : (fs.slots dir).NoLink group) :
    (Execution.runGroup host config group fs).1.result =
        ((fs.slots dir).run fs.medium dir config group (script.child config group)
          (host.groupTime group)).1 ∧
      (Execution.runGroup host config group fs).2 = fs.setSlots dir
        ((fs.slots dir).run fs.medium dir config group (script.child config group)
          (host.groupTime group)).2 := by
  let started := (fs.slots dir).start config group (script.child config group)
  have settles : (fs.slots dir).Settles started.2 := Slots.settles_start ..
  have slots : (fs.setSlots dir started.2).slots dir = started.2 := FileSystem.slots_setSlots
  obtain ⟨result, final⟩ := @collect_eq config group _ dir
    (Execution.statusOf started.1) (host.groupTime group)
    (leads.keep (FileSystem.keeps_setSlots settles))
    (by rw [slots]; exact Slots.noLink_start config group _ noLink)
  rw [slots, FileSystem.medium_setSlots] at result final
  simp only [Execution.runGroup, start_eq follows leads noLink]
  refine ⟨result, final.trans ?_⟩
  -- Pruning takes captures away and makes none.
  have kept {slot : Slot} (place : Location) (path : Path) : slot.isSome ∨
      (slot.pruned fs.medium place path.isTooLong config.pruneThreshold).2 = none := by
    rcases @Slot.pruned_eq_or_none fs.medium place path.isTooLong config.pruneThreshold slot with
      same | gone
    · cases slot with
      | none => exact .inr same
      | some entry => exact .inl rfl
    · exact .inr gone
  exact FileSystem.setSlots_setSlots (kept _ _) (kept _ _)

end Simulation

end GroupRunner
