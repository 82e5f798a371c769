import GroupRunner.Proofs.FileSystem.Directory

set_option autoImplicit false

namespace GroupRunner

def Target.place : Target → Location
  | .found place _ => place
  | .vacant parent name => name :: parent

def Target.Shown (fs : FileSystem) : Target → Prop
  | .found place entry => entry = .directory ∨ fs.get? place = some entry
  | .vacant parent name => fs.get? (name :: parent) = none

namespace FileSystem

theorem overwrite_empty (bytes : Bytes) : overwrite [] 0 bytes = bytes := by
  simp [overwrite]

namespace Walks

variable {fs final : FileSystem} {links : Nat} {place : Location} {steps : List Name}
variable {target : Target}

theorem followed (walks : Walks fs .opened links place steps target) :
    Walks fs .followed links place steps target := by
  have allowed {rest : List Name} : Allowed .followed rest := by simp [Allowed]
  induction walks with
  | done => exact .done
  | stay here _ ih => exact .stay here ih
  | up _ ih => exact .up ih
  | down looked _ held _ ih => exact .down looked allowed held ih
  | follow looked _ held _ _ ih => exact .follow looked allowed held (.inr (by decide)) ih
  | free looked held => exact .free looked held
  | last looked held plain => exact .last looked held plain
  | link looked held itself => cases itself

theorem shown {ending : Ending} (walks : Walks fs ending links place steps target) :
    target.Shown fs := by
  induction walks with
  | done => exact .inl rfl
  | stay _ _ ih | up _ ih => exact ih
  | down _ _ _ _ ih | follow _ _ _ _ _ ih => exact ih
  | free _ held => exact held
  | last _ held _ | link _ held _ => exact .inr held

theorem put_plain {entry : Entry} (walks : Walks fs .followed links place steps target)
    (noDirectory : ∀ dir, target ≠ .found dir .directory) (keeps : Keeps fs final)
    (held : final.get? target.place = some entry) (plain : entry.isWay = false) :
    Walks final .followed links place steps (.found target.place entry) := by
  -- Directories and links on the way are still there, so only the last step differs.
  induction walks with
  | done => exact absurd rfl (noDirectory _)
  | stay here _ ih => exact .stay here (ih noDirectory held)
  | up _ ih => exact .up (ih noDirectory held)
  | down looked allowed before _ ih =>
    exact .down looked allowed (keeps.ways _ _ rfl before) (ih noDirectory held)
  | follow looked allowed before followed _ ih =>
    exact .follow looked allowed (keeps.ways _ _ rfl before) followed (ih noDirectory held)
  | free looked _ => exact .last looked held plain
  | last looked _ _ => exact .last looked held plain
  | link _ _ itself => cases itself

end Walks

section ReadBack

variable {fs final : FileSystem} {path : Path} {bytes : Bytes} {target : Target}

theorem writeAt_emptied {name : Name} {parent : Location} {executable : Bool}
    (written : (fs.set (name :: parent) (some (.file [] executable))).writeAt (name :: parent) 0
      bytes = .ok final) :
    final = fs.set (name :: parent) (some (.file bytes executable)) := by
  rw [writeAt, get?_set_self] at written
  cases bytes with
  | nil =>
    cases written
    rfl
  | cons b bytes =>
    cases written
    rw [overwrite_empty]
    change (fs.set _ (some (.file [] executable))).set _ (some _) = _
    exact set_set (.inl rfl)

theorem of_resolve {ending : Ending} (resolved : fs.resolve ending path = .ok target) :
    ∃ start, fs.origin path = .ok start ∧ Walks fs ending maxLinks start path.steps target := by
  rw [resolve, resolveSteps] at resolved
  cases begun : fs.origin path with
  | error e => simp [begun] at resolved
  | ok start =>
    simp only [begun] at resolved
    exact ⟨start, rfl, walks_of_walk resolved⟩

theorem resolve_followed (resolved : fs.resolve .opened path = .ok target) :
    fs.resolve .followed path = .ok target := by
  obtain ⟨start, begun, walks⟩ := of_resolve resolved
  rw [resolve, resolveSteps, begun]
  exact walk_of_walks walks.followed

theorem origin_of_keeps {start : Location} (keeps : Keeps fs final)
    (begun : fs.origin path = .ok start) : final.origin path = .ok start := by
  obtain ⟨nonempty, noNul, rooted, short, rfl⟩ := of_origin begun
  have fits : path.isTooLong = false := by simpa [Path.isTooLong] using short
  have rooted' : path.isAbsolute = true ∨ final.isDirectory final.cwd = true := by
    refine rooted.imp_right fun inside => ?_
    rw [isDirectory, beq_iff_eq] at inside ⊢
    rw [keeps.cwd]
    exact keeps.ways _ _ rfl inside
  rw [origin_eq nonempty noNul rooted', fits, base, keeps.cwd]
  rfl

theorem resolve_of_keeps {entry : Entry} (resolved : fs.resolve .opened path = .ok target)
    (noDirectory : ∀ dir, target ≠ .found dir .directory) (keeps : Keeps fs final)
    (held : final.get? target.place = some entry) (plain : entry.isWay = false) :
    final.resolve .followed path = .ok (.found target.place entry) := by
  obtain ⟨start, begun, walks⟩ := of_resolve resolved
  rw [resolve, resolveSteps, origin_of_keeps keeps begun]
  exact walk_of_walks (walks.followed.put_plain noDirectory keeps held plain)

theorem create_cases {place : Location} {after : FileSystem}
    (created : fs.create path = .ok (place, after)) :
    ∃ target, fs.resolve .opened path = .ok target ∧ target.place = place ∧
      ((after = fs ∧ ∃ kind, target = .found place (.device kind)) ∨
        ((∀ dir, target ≠ .found dir .directory) ∧ ∃ name parent executable,
          place = name :: parent ∧ (∀ entry ∈ fs.get? place, entry.isWay = false) ∧
          after = fs.set place (some (.file [] executable)))) := by
  rw [create] at created
  cases resolved : fs.resolve .opened path with
  | error e => simp [resolved] at created
  | ok target =>
    obtain ⟨start, -, walks⟩ := of_resolve resolved
    have shown := walks.shown
    refine ⟨target, rfl, ?_⟩
    cases target with
    | vacant parent name =>
      simp only [resolved, Except.ok.injEq, Prod.mk.injEq] at created
      obtain ⟨rfl, rfl⟩ := created
      have free : fs.get? (name :: parent) = none := shown
      exact ⟨rfl, .inr ⟨by simp, name, parent, false, rfl, by simp [free], rfl⟩⟩
    | found other entry =>
      cases entry with
      | file content executable =>
        simp only [resolved, Except.ok.injEq, Prod.mk.injEq] at created
        obtain ⟨rfl, rfl⟩ := created
        have held : fs.get? other = some (.file content executable) :=
          shown.resolve_left (by simp)
        cases other with
        | nil => simp [get?] at held
        | cons name parent =>
          exact ⟨rfl, .inr ⟨by simp, name, parent, executable, rfl, by simp [held, Entry.isWay],
            rfl⟩⟩
      | device kind =>
        simp only [resolved, Except.ok.injEq, Prod.mk.injEq] at created
        obtain ⟨rfl, rfl⟩ := created
        exact ⟨rfl, .inl ⟨rfl, kind, rfl⟩⟩
      | directory => simp [resolved] at created
      | link target => simp [resolved] at created

theorem writeFile_cases (written : fs.writeFile path bytes = .ok final) :
    ∃ place after, fs.create path = .ok (place, after) ∧
      ((final = fs ∧ ∃ kind, fs.find path = .ok (place, .device kind)) ∨
        ∃ name parent executable, place = name :: parent ∧
          final = fs.set place (some (.file bytes executable)) ∧
          final.find path = .ok (place, .file bytes executable)) := by
  rw [writeFile] at written
  cases created : fs.create path with
  | error cause => simp [created] at written
  | ok opened =>
    obtain ⟨place, mid⟩ := opened
    simp only [created] at written
    refine ⟨place, mid, rfl, ?_⟩
    obtain ⟨target, resolved, rfl, ⟨untouched, kind, device⟩ |
      ⟨noDirectory, name, parent, executable, place, plain, rfl⟩⟩ := create_cases created
    · left
      rw [untouched] at written
      obtain ⟨start, -, walks⟩ := of_resolve resolved
      have shown := walks.shown
      rw [device] at shown
      have held : fs.get? target.place = some (.device kind) := shown.resolve_left (by simp)
      -- The null device takes every byte, and the full one none but nothing.
      have same : final = fs := by
        rw [writeAt, held] at written
        cases bytes <;> cases kind <;> cases written <;> rfl
      refine ⟨same, kind, ?_⟩
      apply find_eq_ok_iff.2
      rw [← device]
      exact resolve_followed resolved
    · -- The file is found again where it was opened, with the bytes.
      right
      rw [place] at written plain
      obtain rfl := writeAt_emptied written
      have settles : Slot.Settles (fs.get? (name :: parent)) (some (.file bytes executable)) :=
        .inr ⟨plain, by simp [Entry.isWay]⟩
      have resolved' := resolve_of_keeps resolved noDirectory (keeps_set settles)
        (by rw [place, get?_set_self]) rfl
      rw [place] at resolved' ⊢
      exact ⟨name, parent, executable, rfl, rfl, find_eq_ok_iff.2 resolved'⟩

theorem readFile_writeFile (written : fs.writeFile path bytes = .ok final)
    (noDevice : ∀ place kind, final.find path ≠ .ok (place, .device kind)) :
    final.readFile path = .ok bytes := by
  obtain ⟨place, after, -, ⟨same, kind, device⟩ |
    ⟨name, parent, executable, -, -, found⟩⟩ := writeFile_cases written
  · rw [← same] at device
    exact absurd device (noDevice place kind)
  · rw [readFile, found]

theorem readFile_of_writeFile (written : fs.writeFile path bytes = .ok final)
    (noDevice : ∀ place kind, fs.find path ≠ .ok (place, .device kind)) :
    final.readFile path = .ok bytes := by
  obtain ⟨place, -, -, ⟨-, kind, device⟩ | ⟨-, -, executable, -, -, found⟩⟩ :=
    writeFile_cases written
  · exact absurd device (noDevice place kind)
  · rw [readFile, found]

theorem exists_writeFile {place : Location} {after : FileSystem}
    (created : fs.create path = .ok (place, after))
    (room : ∀ place, fs.find path ≠ .ok (place, .device .full)) (bytes : Bytes) :
    ∃ final, fs.writeFile path bytes = .ok final := by
  rw [writeFile, created]
  simp only [writeAt]
  split
  next => exact ⟨after, rfl⟩
  next =>
    split
    next => exact ⟨_, rfl⟩
    next full =>
      -- Only a device that was there before is full.
      obtain ⟨target, resolved, -, ⟨rfl, kind, rfl⟩ |
        ⟨-, name, parent, executable, rfl, -, rfl⟩⟩ := create_cases created
      · obtain ⟨start, -, walks⟩ := of_resolve resolved
        have held : after.get? place = some (.device kind) := walks.shown.resolve_left (by simp)
        rw [full] at held
        cases held
        exact absurd (find_eq_ok_iff.2 (resolve_followed resolved)) (room place)
      · rw [get?_set_self] at full
        cases full
    next => exact ⟨after, rfl⟩

end ReadBack

end FileSystem

end GroupRunner
