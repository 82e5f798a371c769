import GroupRunner.Proofs.FileSystem.Confinement

set_option autoImplicit false

namespace GroupRunner

namespace Entry

-- A file without content, or a device, which holds none.
def isEmptied : Entry → Bool
  | .file content _ => content.isEmpty
  | .device _ => true
  | _ => false

variable {entry : Entry}

theorem isWay_of_isEmptied (empty : entry.isEmptied = true) : entry.isWay = false := by
  cases entry with
  | file content executable | device kind => rfl
  | directory | link target => cases empty

theorem size_of_isEmptied (empty : entry.isEmptied = true) (medium : Medium) (place : Location) :
    medium.size place entry = 0 := by
  cases entry with
  | file content executable =>
    rw [isEmptied, List.isEmpty_iff] at empty
    rw [Medium.size, empty, List.length_nil]
  | device kind => rfl
  | directory | link target => cases empty

end Entry

namespace FileSystem

-- Files and links may have gone; nothing else has changed.
structure Thins (before after : FileSystem) : Prop where
  cwd : after.cwd = before.cwd
  medium : after.medium = before.medium
  directories : ∀ place,
    after.get? place = some .directory ↔ before.get? place = some .directory
  places : ∀ place, after.get? place = before.get? place ∨ after.get? place = none

def Misses (outcome : Except IoError Target) : Prop :=
  outcome = .error .noEntry ∨ ∃ parent name, outcome = .ok (.vacant parent name)

theorem misses_of_free {fs : FileSystem} {ending : Ending} {links : Nat} {place : Location}
    {name : Name} {rest : List Name} (looked : Looked name) (allowed : Allowed ending rest)
    (free : fs.get? (name :: place) = none) :
    Misses (fs.walk ending links place (name :: rest)) := by
  rw [walk_look looked allowed, free]
  cases rest with
  | nil => exact .inr ⟨place, name, rfl⟩
  | cons next rest => exact .inl rfl

theorem thins_erase {fs : FileSystem} {place : Location}
    (noDirectory : fs.get? place ≠ some .directory) : Thins fs (fs.erase place) := by
  cases place with
  | nil => exact absurd rfl noDirectory
  | cons name dir =>
    have held (other : Location) : (fs.erase (name :: dir)).get? other =
        if other = name :: dir then none else fs.get? other := get?_set fs name dir other none
    refine ⟨rfl, rfl, fun other => ?_, fun other => ?_⟩
    · rw [held]
      split
      next same =>
        subst same
        exact ⟨fun never => (nomatch never), fun directory => absurd directory noDirectory⟩
      next => exact .rfl
    · rw [held]
      split
      · exact .inr rfl
      · exact .inl rfl

namespace Thins

variable {fs after : FileSystem} {ending : Ending} {links : Nat} {place : Location}
variable {steps : List Name} {target : Target} {path : Path} {entry : Entry}

theorem refl (fs : FileSystem) : Thins fs fs := ⟨rfl, rfl, fun _ => .rfl, fun _ => .inl rfl⟩

theorem origin (thins : Thins fs after) (path : Path) : after.origin path = fs.origin path := by
  have inside : after.isDirectory after.cwd = fs.isDirectory fs.cwd := by
    rw [isDirectory, isDirectory, thins.cwd, Bool.eq_iff_iff, beq_iff_eq, beq_iff_eq]
    exact thins.directories _
  rw [FileSystem.origin, FileSystem.origin, inside, thins.cwd]

theorem held (thins : Thins fs after) (later : after.get? place = some entry) :
    fs.get? place = some entry := by
  rcases thins.places place with same | gone
  · rw [← same, later]
  · rw [gone] at later
    cases later

theorem walks (thins : Thins fs after) (walks : Walks after ending links place steps target)
    (found : ∃ final entry, target = .found final entry) :
    Walks fs ending links place steps target := by
  induction walks with
  | done => exact .done
  | stay here _ ih => exact .stay here (ih found)
  | up _ ih => exact .up (ih found)
  | down looked allowed later _ ih => exact .down looked allowed (thins.held later) (ih found)
  | follow looked allowed later followed _ ih =>
    exact .follow looked allowed (thins.held later) followed (ih found)
  | free looked _ =>
    obtain ⟨_, _, never⟩ := found
    cases never
  | last looked later plain => exact .last looked (thins.held later) plain
  | link looked later itself => exact .link looked (thins.held later) itself

theorem passes {left : Nat} {dir : Location} (thins : Thins fs after)
    (passes : Passes after links place steps left dir) : Passes fs links place steps left dir := by
  have confined : Confined (fun place => after.get? place = none) (fun _ => False) fs after :=
    ⟨thins.cwd, thins.directories, fun _ _ later => thins.held later,
      fun place => (thins.places place).imp_right .inl⟩
  exact confined.passes passes

theorem walk (thins : Thins fs after) (walks : Walks fs ending links place steps target) :
    after.walk ending links place steps = .ok target ∨
      Misses (after.walk ending links place steps) := by
  -- The walk is the same up to the first place that is gone.
  induction walks with
  | done => exact .inl walk_nil
  | stay here _ ih => rwa [walk_stay here]
  | up _ ih => rwa [walk_up]
  | down looked allowed before _ ih =>
    rw [walk_look looked allowed, (thins.directories _).2 before]
    exact ih
  | @follow _ place name _ _ _ looked allowed before followed _ ih =>
    rcases thins.places (name :: place) with same | gone
    · rw [walk_look looked allowed, same, before]
      simp only
      rw [if_neg (by simpa using not_and_or.2 followed)]
      exact ih
    · exact .inr (misses_of_free looked allowed gone)
  | @free _ place name looked before =>
    refine .inr (misses_of_free looked (by simp [Allowed]) ?_)
    rcases thins.places (name :: place) with same | gone
    · rw [same, before]
    · exact gone
  | @last _ place name _ looked before plain =>
    rcases thins.places (name :: place) with same | gone
    · exact .inl (walk_of_walks (.last looked (same.trans before) plain))
    · exact .inr (misses_of_free looked (by simp [Allowed]) gone)
  | @link _ place name _ looked before itself =>
    rcases thins.places (name :: place) with same | gone
    · exact .inl (walk_of_walks (.link looked (same.trans before) itself))
    · exact .inr (misses_of_free looked (by simp [Allowed]) gone)

theorem misses_walkWith (thins : Thins fs after)
    {again again' : Location → List Name → Except IoError Target}
    (onward : ∀ place steps, Misses (again place steps) → Misses (again' place steps))
    (steps : List Name) (place : Location) (misses : Misses (walkWith again fs ending place steps)) :
    Misses (walkWith again' after ending place steps) := by
  induction steps generalizing place with
  | nil => simp [walkWith, Misses] at misses
  | cons name rest ih =>
    rw [walkWith] at misses ⊢
    by_cases here : (decide (name = Path.stay) || decide (name = Path.dot)) = true
    · rw [if_pos here] at misses ⊢
      exact ih _ misses
    rw [if_neg here] at misses ⊢
    by_cases above : name = Path.dots
    · rw [if_pos above] at misses ⊢
      exact ih _ misses
    rw [if_neg above] at misses ⊢
    by_cases slash : (decide (ending = .opened) && decide (rest = [Path.stay])) = true
    · rwa [if_pos slash] at misses ⊢
    rw [if_neg slash] at misses ⊢
    by_cases long : maxName < name.length
    · rwa [if_pos long] at misses ⊢
    rw [if_neg long] at misses ⊢
    rcases thins.places (name :: place) with same | gone
    · rw [same]
      cases held : fs.get? (name :: place) with
      | none => simpa only [held] using misses
      | some entry =>
        rw [held] at misses
        cases entry with
        | directory => exact ih _ misses
        | link target =>
          simp only at misses ⊢
          split at misses
          next itself => rwa [if_pos itself]
          next followed =>
            rw [if_neg followed]
            exact onward _ _ misses
        | file content executable => exact misses
        | device kind => exact misses
    · rw [gone]
      cases rest with
      | nil => exact .inr ⟨place, name, rfl⟩
      | cons next rest => exact .inl rfl

theorem misses_walk (thins : Thins fs after) (misses : Misses (fs.walk ending links place steps)) :
    Misses (after.walk ending links place steps) := by
  induction links generalizing place steps with
  | zero => exact thins.misses_walkWith (fun _ _ never => never) steps place misses
  | succ links ih => exact thins.misses_walkWith (fun _ _ => ih) steps place misses

theorem find_missing (thins : Thins fs after) (missing : fs.find path = .error .noEntry) :
    after.find path = .error .noEntry := by
  rw [FileSystem.find, resolve, resolveSteps] at missing ⊢
  rw [thins.origin]
  cases begun : fs.origin path with
  | error e => rwa [begun] at missing
  | ok start =>
    simp only [begun] at missing
    have misses : Misses (fs.walk .followed maxLinks start path.steps) := by
      cases walked : fs.walk .followed maxLinks start path.steps with
      | error e =>
        simp only [walked] at missing
        cases missing
        exact .inl rfl
      | ok target =>
        simp only [walked] at missing
        cases target with
        | vacant parent name => exact .inr ⟨parent, name, rfl⟩
        | found place entry => cases missing
    rcases thins.misses_walk misses with missed | ⟨parent, name, free⟩
    · simp [missed]
    · simp [free, Target.entry]

theorem find (thins : Thins fs after) (found : fs.find path = .ok (place, entry)) :
    after.find path = .ok (place, entry) ∨ after.find path = .error .noEntry := by
  obtain ⟨start, begun, walks⟩ := of_resolve (find_eq_ok_iff.1 found)
  rw [FileSystem.find, resolve, resolveSteps, thins.origin, begun]
  rcases thins.walk walks with walked | missed | ⟨parent, name, free⟩
  · simp only [walked]
    exact .inl rfl
  · simp [missed]
  · simp [free, Target.entry]

theorem found (thins : Thins fs after) (found : after.find path = .ok (place, entry)) :
    fs.find path = .ok (place, entry) := by
  obtain ⟨start, begun, walks⟩ := of_resolve (find_eq_ok_iff.1 found)
  rw [thins.origin] at begun
  rw [find_eq_ok_iff, resolve, resolveSteps, begun]
  exact walk_of_walks (thins.walks walks ⟨place, entry, rfl⟩)

end Thins

section Remove

variable {fs after : FileSystem} {path : Path} {name : Name} {place own : Location} {entry mine : Entry}

theorem findItself_of_find (proper : ProperName name)
    (found : fs.find (path.join ⟨name⟩) = .ok (place, entry)) :
    ∃ own mine, fs.findItself (path.join ⟨name⟩) = .ok (own, mine) ∧
      (mine = entry ∨ ∃ target, mine = .link target) := by
  obtain ⟨start, begun, walks⟩ := of_resolve (find_eq_ok_iff.1 found)
  rw [Path.steps_join proper] at walks
  obtain ⟨left, dir, passes, last⟩ := walks.split_last
  have looked := looked_of_proper proper
  have walked : fs.walk .itself maxLinks start (path.pieces ++ [name]) =
      fs.walk .itself left dir [name] := passes.walk_append (by simp) (by simp [Allowed])
  simp only [findItself, resolve, resolveSteps, begun, Path.steps_join proper]
  rw [walked, walk_look looked (by simp [Allowed])]
  cases last with
  | stay here onward =>
    rcases here with same | same
    · exact absurd same looked.notStay
    · exact absurd same looked.notDot
  | up onward => exact absurd rfl looked.notDots
  | down _ _ held onward =>
    cases onward
    simp only [held, walk_nil]
    exact ⟨_, _, rfl, .inl rfl⟩
  | follow _ _ held _ _ =>
    simp only [held]
    exact ⟨_, _, rfl, .inr ⟨_, rfl⟩⟩
  | last _ held plain =>
    rw [held]
    cases entry with
    | directory => cases plain
    | link target => cases plain
    | file content executable => exact ⟨_, _, rfl, .inl rfl⟩
    | device kind => exact ⟨_, _, rfl, .inl rfl⟩
  | link _ held itself => cases itself

theorem thins_of_findItself (found : fs.findItself path = .ok (own, mine))
    (noDirectory : mine ≠ .directory) : Thins fs (fs.erase own) := by
  refine thins_erase ?_
  rw [held_of_findItself found noDirectory]
  exact fun same => noDirectory (Option.some.inj same)

theorem find_erase (itself : fs.findItself path = .ok (own, mine)) (noDirectory : mine ≠ .directory) :
    ∀ found, (fs.erase own).find path ≠ .ok found := by
  have thins : Thins fs (fs.erase own) := thins_of_findItself itself noDirectory
  obtain ⟨start, init, name, left, dir, begun, whole, rfl, looked, passes, -⟩ :=
    under_name_of_findItself itself noDirectory
  rintro ⟨place, entry⟩ found
  obtain ⟨start', begun', walks⟩ := of_resolve (find_eq_ok_iff.1 found)
  rw [thins.origin, begun, Except.ok.injEq] at begun'
  subst begun'
  -- The walk still comes to the same directory, and there the last name is free.
  rw [whole] at walks
  obtain ⟨left', dir', passes', last⟩ := walks.split_last
  obtain rfl := passes.dir_unique (thins.passes passes')
  have gone : (fs.erase (name :: dir)).get? (name :: dir) = none := get?_set_self fs name dir none
  have walked := walk_of_walks last
  rw [walk_look looked (by simp [Allowed]), gone] at walked
  cases walked

theorem find_removed (found : fs.find path = .ok (place, entry))
    (removed : fs.removeFile path = .ok after) : after.find path = .error .noEntry := by
  obtain ⟨own, mine, itself, noDirectory, -, rfl⟩ := removeFile_eq_ok_iff.1 removed
  have thins : Thins fs (fs.erase own) := thins_of_findItself itself noDirectory
  exact (thins.find found).resolve_left (find_erase itself noDirectory _)

end Remove

section Emptied

variable {fs mid after : FileSystem} {path : Path} {place other : Location} {entry : Entry}

def EmptiedAt (fs : FileSystem) (place : Location) : Prop :=
  ∃ entry, fs.get? place = some entry ∧ entry.isEmptied = true

theorem emptiedAt_set (emptied : fs.EmptiedAt other) (name : Name) (dir : Location)
    (executable : Bool) : (fs.set (name :: dir) (some (.file [] executable))).EmptiedAt other := by
  by_cases same : other = name :: dir
  · subst same
    exact ⟨_, get?_set_self .., rfl⟩
  · obtain ⟨entry, held, empty⟩ := emptied
    exact ⟨entry, (get?_set_of_ne same _).trans held, empty⟩

theorem emptied_of_create (created : fs.create path = .ok (place, mid)) :
    Keeps fs mid ∧ mid.EmptiedAt place ∧ ∀ other, fs.EmptiedAt other → mid.EmptiedAt other := by
  obtain ⟨target, resolved, rfl, ⟨rfl, kind, device⟩ | ⟨-, name, dir, executable, here, plain, rfl⟩⟩ :=
    create_cases created
  · obtain ⟨start, -, walks⟩ := of_resolve resolved
    have shown := walks.shown
    rw [device] at shown
    exact ⟨.refl _, ⟨_, shown.resolve_left (by simp), rfl⟩, fun _ emptied => emptied⟩
  · rw [here] at plain ⊢
    exact ⟨keeps_set (.inr ⟨plain, by simp [Entry.isWay]⟩), ⟨_, get?_set_self .., rfl⟩,
      fun other emptied => emptiedAt_set emptied name dir executable⟩

theorem find_of_create (created : fs.create path = .ok (place, mid)) (keeps : Keeps mid after)
    (emptied : after.EmptiedAt place) :
    ∃ entry, after.find path = .ok (place, entry) ∧ entry.isEmptied = true := by
  obtain ⟨entry, held, empty⟩ := emptied
  have keeps' := (emptied_of_create created).1.trans keeps
  obtain ⟨target, resolved, rfl, opened⟩ := create_cases created
  have noDirectory (dir : Location) : target ≠ .found dir .directory := by
    rcases opened with ⟨-, kind, device⟩ | ⟨noDirectory, -⟩
    · rw [device]
      simp
    · exact noDirectory dir
  exact ⟨entry, find_eq_ok_iff.2 (resolve_of_keeps resolved noDirectory keeps' held
    (Entry.isWay_of_isEmptied empty)), empty⟩

theorem readFile_of_isEmptied (found : fs.find path = .ok (place, entry))
    (empty : entry.isEmptied = true) : fs.readFile path = .ok [] := by
  rw [readFile, found]
  cases entry with
  | file content executable =>
    rw [Entry.isEmptied, List.isEmpty_iff] at empty
    rw [empty]
  | device kind => rfl
  | directory | link target => cases empty

end Emptied

section Open

variable {fs : FileSystem} {links : Nat} {place : Location} {steps : List Name} {target : Target}
variable {path : Path} {entry : Entry}

theorem Walks.directory_of_stay {ending : Ending}
    (walks : Walks fs ending links place (steps ++ [Path.stay]) target) :
    ∃ dir, target = .found dir .directory := by
  obtain ⟨left, dir, -, last⟩ := walks.split_last
  have walked := walk_of_walks last
  rw [walk_stay (.inl rfl), walk_nil, Except.ok.injEq] at walked
  exact ⟨dir, walked.symm⟩

theorem Walks.opened (walks : Walks fs .followed links place steps target)
    (noDirectory : ∀ dir, target ≠ .found dir .directory) :
    Walks fs .opened links place steps target := by
  induction walks with
  | done => exact absurd rfl (noDirectory _)
  | stay here _ ih => exact .stay here (ih noDirectory)
  | up _ ih => exact .up (ih noDirectory)
  | down looked _ held onward ih =>
    refine .down looked ?_ held (ih noDirectory)
    rintro ⟨-, rfl⟩
    obtain ⟨dir, directory⟩ := @directory_of_stay _ _ _ [] _ _ onward
    exact noDirectory dir directory
  | follow looked _ held _ onward ih =>
    refine .follow looked ?_ held (.inr (by decide)) (ih noDirectory)
    rintro ⟨-, rfl⟩
    obtain ⟨dir, directory⟩ := onward.directory_of_stay
    exact noDirectory dir directory
  | free looked held => exact .free looked held
  | last looked held plain => exact .last looked held plain
  | link _ _ itself => cases itself

theorem create_of_find (found : fs.find path = .ok (place, entry)) (plain : entry.isWay = false) :
    ∃ after, fs.create path = .ok (place, after) := by
  obtain ⟨start, begun, walks⟩ := of_resolve (find_eq_ok_iff.1 found)
  have noDirectory (dir : Location) : Target.found place entry ≠ .found dir .directory := by
    rintro same
    cases same
    cases plain
  rw [create, resolve, resolveSteps, begun]
  simp only [walk_of_walks (walks.opened noDirectory)]
  cases entry with
  | directory => cases plain
  | link target => cases plain
  | file content executable => exact ⟨_, rfl⟩
  | device kind => exact ⟨_, rfl⟩

theorem readFile_of_refused {after : FileSystem} {cause : IoError}
    (refused : fs.create path = .error cause) (thins : Thins fs after) :
    ∃ e, after.readFile path = .error e := by
  rw [readFile]
  cases sought : after.find path with
  | error e => exact ⟨e, rfl⟩
  | ok found =>
    obtain ⟨place, entry⟩ := found
    have never (plain : entry.isWay = false) : False := by
      obtain ⟨opened, created⟩ := create_of_find (thins.found sought) plain
      rw [refused] at created
      cases created
    cases entry with
    | directory => exact ⟨_, rfl⟩
    | link target => exact ⟨_, rfl⟩
    | file content executable => exact (never rfl).elim
    | device kind => exact (never rfl).elim

end Open

end FileSystem

end GroupRunner
