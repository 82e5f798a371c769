import GroupRunner.Proofs.FileSystem.OwnEntry

set_option autoImplicit false

namespace GroupRunner

namespace Entry

def IsFile (entry : Entry) : Prop :=
  ∃ content executable, entry = .file content executable

end Entry

namespace FileSystem

-- Nothing has changed but at places of two kinds: own ones, which may have become empty, and
-- written ones, which were no way and hold a file.
structure Confined (own written : Location → Prop) (before after : FileSystem) : Prop where
  cwd : after.cwd = before.cwd
  directories : ∀ place,
    after.get? place = some .directory ↔ before.get? place = some .directory
  links : ∀ place target,
    after.get? place = some (.link target) → before.get? place = some (.link target)
  places : ∀ place, after.get? place = before.get? place ∨ own place ∨
    (written place ∧ (∀ entry ∈ before.get? place, entry.isWay = false) ∧
      ∃ entry ∈ after.get? place, entry.IsFile)

namespace Confined

variable {own own' written written' : Location → Prop} {fs mid after : FileSystem}

theorem refl (own written : Location → Prop) (fs : FileSystem) : Confined own written fs fs :=
  ⟨rfl, fun _ => .rfl, fun _ _ held => held, fun _ => .inl rfl⟩

theorem trans (first : Confined own written fs mid) (second : Confined own written mid after) :
    Confined own written fs after := by
  refine ⟨second.cwd.trans first.cwd,
    fun place => (second.directories place).trans (first.directories place),
    fun place target held => first.links place target (second.links place target held), ?_⟩
  intro place
  rcases second.places place with same | own | ⟨written, plain, file⟩
  · rw [same]
    exact first.places place
  · exact .inr (.inl own)
  · -- Written to only now, the place was before what it was in the middle.
    rcases first.places place with same | own | ⟨-, plain', -⟩
    · rw [same] at plain
      exact .inr (.inr ⟨written, plain, file⟩)
    · exact .inr (.inl own)
    · exact .inr (.inr ⟨written, plain', file⟩)

theorem imp (confined : Confined own written fs after) (more : ∀ place, own place → own' place)
    (more' : ∀ place, written place → written' place) : Confined own' written' fs after := by
  refine ⟨confined.cwd, confined.directories, confined.links, fun place => ?_⟩
  rcases confined.places place with same | own | ⟨written, plain, file⟩
  · exact .inl same
  · exact .inr (.inl (more place own))
  · exact .inr (.inr ⟨more' place written, plain, file⟩)

theorem passes (confined : Confined own written fs after) {links left : Nat}
    {place dir : Location} {steps : List Name} (passes : Passes after links place steps left dir) :
    Passes fs links place steps left dir := by
  induction passes with
  | done => exact .done
  | stay here _ ih => exact .stay here ih
  | up _ ih => exact .up ih
  | down looked held _ ih => exact .down looked ((confined.directories _).1 held) ih
  | follow looked held _ ih => exact .follow looked (confined.links _ _ held) ih

end Confined

section Set

variable {own written : Location → Prop} {fs : FileSystem} {name : Name} {dir : Location}

theorem get?_set_way {slot : Slot} {entry : Entry} (way : entry.isWay = true)
    (plain : ∀ next ∈ slot, next.isWay = false) {place : Location}
    (held : (fs.set (name :: dir) slot).get? place = some entry) : fs.get? place = some entry := by
  rw [get?_set] at held
  split at held
  next =>
    rw [plain entry held] at way
    cases way
  next => exact held

theorem confined_set {slot : Slot} (plain : ∀ entry ∈ slot, entry.isWay = false)
    (noDirectory : fs.get? (name :: dir) ≠ some .directory)
    (allowed : own (name :: dir) ∨ (written (name :: dir) ∧
      (∀ entry ∈ fs.get? (name :: dir), entry.isWay = false) ∧ ∃ entry ∈ slot, entry.IsFile)) :
    Confined own written fs (fs.set (name :: dir) slot) := by
  refine ⟨cwd_set .., fun place => ⟨get?_set_way rfl plain, fun held => ?_⟩,
    fun place target => get?_set_way rfl plain, fun place => ?_⟩
  · rwa [get?_set_of_ne (fun same => noDirectory (same ▸ held))]
  · by_cases same : place = name :: dir
    · subst same
      rw [get?_set_self]
      exact .inr allowed
    · exact .inl (get?_set_of_ne same slot)

theorem confined_write {content : Bytes} {executable : Bool} (opened : written (name :: dir))
    (plain : ∀ entry ∈ fs.get? (name :: dir), entry.isWay = false) :
    Confined own written fs (fs.set (name :: dir) (some (.file content executable))) := by
  refine confined_set (by simp [Entry.isWay]) (fun held => ?_)
    (.inr ⟨opened, plain, _, rfl, content, executable, rfl⟩)
  have never := plain _ held
  cases never

end Set

section Create

variable {own : Location → Prop} {fs after : FileSystem} {path : Path} {place : Location}

-- The place of the file that a path comes to, over whatever links, and that is opened there.
def OpensAt (fs : FileSystem) (path : Path) (place : Location) : Prop :=
  (∃ target, fs.resolve .followed path = .ok target ∧ target.place = place) ∧
    ∃ after, fs.create path = .ok (place, after)

theorem opensAt_of_create (created : fs.create path = .ok (place, after)) :
    fs.OpensAt path place := by
  obtain ⟨target, resolved, here, -⟩ := create_cases created
  exact ⟨⟨target, resolve_followed resolved, here⟩, after, created⟩

theorem get?_writeFile {bytes : Bytes} (written : fs.writeFile path bytes = .ok after) :
    ∃ place, fs.OpensAt path place ∧ ∀ other, other ≠ place → after.get? other = fs.get? other := by
  obtain ⟨place, opened, created, ⟨same, -⟩ | ⟨name, parent, executable, rfl, same, -⟩⟩ :=
    writeFile_cases written
  · refine ⟨place, opensAt_of_create created, fun other _ => ?_⟩
    rw [same]
  · refine ⟨_, opensAt_of_create created, fun other apart => ?_⟩
    rw [same, get?_set_of_ne apart]

theorem confined_create (created : fs.create path = .ok (place, after)) :
    Confined own (fs.OpensAt path) fs after := by
  obtain ⟨target, -, -, ⟨same, -⟩ | ⟨-, name, parent, executable, rfl, plain, written⟩⟩ :=
    create_cases created
  · rw [same]
    exact .refl ..
  · rw [written]
    exact confined_write (opensAt_of_create created) plain

end Create

section Remove

variable {fs after : FileSystem} {path : Path} {dir : Location} {name : Name}

structure LeadsOnly (fs : FileSystem) (path : Path) (dir : Location) : Prop where
  nonempty : path.bytes ≠ []
  passes : ∀ left other, Passes fs maxLinks (fs.base path) path.pieces left other → other = dir

theorem LeadsTo.only (leads : fs.LeadsTo path dir) : fs.LeadsOnly path dir := by
  obtain ⟨left, passes⟩ := leads.passes
  exact ⟨leads.nonempty, fun _ _ passes' => passes'.dir_unique passes⟩

theorem LeadsOnly.confined {own written : Location → Prop} (leads : fs.LeadsOnly path dir)
    (confined : Confined own written fs after) : after.LeadsOnly path dir := by
  refine ⟨leads.nonempty, fun left other passes => leads.passes left other ?_⟩
  rw [base, confined.cwd] at passes
  exact confined.passes passes

theorem removeFile_eq_ok (leads : fs.LeadsOnly path dir) (proper : ProperName name)
    (removed : fs.removeFile (path.join ⟨name⟩) = .ok after) :
    fs.get? (name :: dir) ≠ some .directory ∧ after = fs.set (name :: dir) none := by
  obtain ⟨own, mine, itself, noDirectory, -, rfl⟩ := removeFile_eq_ok_iff.1 removed
  obtain ⟨start, init, last, left, other, begun, whole, rfl, -, passes, held⟩ :=
    under_name_of_findItself itself noDirectory
  -- The steps before the name are those of the directory's path.
  obtain ⟨-, -, -, -, rfl⟩ := of_origin begun
  rw [Path.steps_join proper] at whole
  obtain ⟨rfl, rfl⟩ := List.append_singleton_inj.1 whole
  rw [base, Path.isAbsolute_join proper leads.nonempty, ← base] at passes
  obtain rfl := leads.passes left other passes
  refine ⟨fun directory => noDirectory ?_, rfl⟩
  rw [held] at directory
  exact Option.some.inj directory

theorem confined_removeFile {own written : Location → Prop} (leads : fs.LeadsOnly path dir)
    (proper : ProperName name) (mine : own (name :: dir))
    (removed : fs.removeFile (path.join ⟨name⟩) = .ok after) :
    Confined own written fs after := by
  obtain ⟨noDirectory, rfl⟩ := removeFile_eq_ok leads proper removed
  exact confined_set (by simp) noDirectory (.inl mine)

end Remove

end FileSystem

end GroupRunner
