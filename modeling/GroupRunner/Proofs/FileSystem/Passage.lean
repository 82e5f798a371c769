import GroupRunner.Proofs.FileSystem.Store
import GroupRunner.Proofs.FileSystem.Walk

set_option autoImplicit false

namespace GroupRunner

namespace Slot

-- A directory or a link in a place stays there, and none comes there.
def Settles (before after : Slot) : Prop :=
  after = before ∨ ((∀ entry ∈ before, entry.isWay = false) ∧ ∀ entry ∈ after, entry.isWay = false)

theorem Settles.trans {first second third : Slot} (before : Settles first second)
    (after : Settles second third) : Settles first third := by
  rcases before with rfl | ⟨plain, plain'⟩
  · exact after
  · rcases after with rfl | ⟨-, plain''⟩
    · exact .inr ⟨plain, plain'⟩
    · exact .inr ⟨plain, plain''⟩

end Slot

namespace FileSystem

-- Steps lead from a place to a directory; the numbers are the links that may still be followed,
-- before and after.
inductive Passes (fs : FileSystem) : Nat → Location → List Name → Nat → Location → Prop
  | done {links : Nat} {place : Location} : Passes fs links place [] links place
  | stay {links left : Nat} {place dir : Location} {name : Name} {rest : List Name}
      (here : name = Path.stay ∨ name = Path.dot) (onward : Passes fs links place rest left dir) :
      Passes fs links place (name :: rest) left dir
  | up {links left : Nat} {place dir : Location} {rest : List Name}
      (onward : Passes fs links place.tail rest left dir) :
      Passes fs links place (Path.dots :: rest) left dir
  | down {links left : Nat} {place dir : Location} {name : Name} {rest : List Name}
      (looked : Looked name) (held : fs.get? (name :: place) = some .directory)
      (onward : Passes fs links (name :: place) rest left dir) :
      Passes fs links place (name :: rest) left dir
  | follow {links left : Nat} {place dir : Location} {name : Name} {rest : List Name}
      {target : Path} (looked : Looked name) (held : fs.get? (name :: place) = some (.link target))
      (onward : Passes fs links (if target.isAbsolute then [] else place) (target.steps ++ rest)
        left dir) :
      Passes fs (links + 1) place (name :: rest) left dir

theorem passes_of_walks {fs : FileSystem} {links : Nat} {place : Location} {steps : List Name}
    {target : Target} (walks : Walks fs .followed links place steps target) {dir : Location}
    (directory : target = .found dir .directory) : ∃ left, Passes fs links place steps left dir := by
  induction walks with
  | @done links place =>
    cases directory
    exact ⟨links, .done⟩
  | stay here _ ih =>
    obtain ⟨left, onward⟩ := ih directory
    exact ⟨left, .stay here onward⟩
  | up _ ih =>
    obtain ⟨left, onward⟩ := ih directory
    exact ⟨left, .up onward⟩
  | down looked _ held _ ih =>
    obtain ⟨left, onward⟩ := ih directory
    exact ⟨left, .down looked held onward⟩
  | follow looked _ held _ _ ih =>
    obtain ⟨left, onward⟩ := ih directory
    exact ⟨left, .follow looked held onward⟩
  | free looked held => cases directory
  | last looked held plain =>
    cases directory
    cases plain
  | link looked held itself => cases itself

theorem allowed_append {ending : Ending} {before rest : List Name}
    (onward : rest = [] → ending = .followed) (allowed : Allowed ending rest) :
    Allowed ending (before ++ rest) := by
  rintro ⟨opened, last⟩
  cases before with
  | nil => exact allowed ⟨opened, last⟩
  | cons name before =>
    have nothing : rest = [] := by
      rw [List.cons_append, List.cons.injEq, List.append_eq_nil_iff] at last
      exact last.2.2
    rw [onward nothing] at opened
    cases opened

namespace Passes

variable {fs : FileSystem} {links left : Nat} {place dir : Location} {steps rest : List Name}

theorem walk_append {ending : Ending} (passes : Passes fs links place steps left dir)
    (onward : rest = [] → ending = .followed) (allowed : Allowed ending rest) :
    fs.walk ending links place (steps ++ rest) = fs.walk ending left dir rest := by
  induction passes with
  | done => rfl
  | stay here _ ih => rw [List.cons_append, walk_stay here, ih]
  | up _ ih => rw [List.cons_append, walk_up, ih]
  | down looked held _ ih =>
    rw [List.cons_append, walk_look looked (allowed_append onward allowed), held]
    exact ih
  | @follow _ _ _ _ _ between _ looked held _ ih =>
    have more : ((between ++ rest).isEmpty && decide (ending = .itself)) = false := by
      cases rest with
      | nil => simp [onward rfl]
      | cons name rest => simp
    rw [List.cons_append, walk_look looked (allowed_append onward allowed), held]
    simp only [more, Bool.false_eq_true, if_false]
    -- What the link stands for comes before the rest.
    rw [← List.append_assoc, ih]

theorem append {less : Nat} {mid : Location} (first : Passes fs links place steps less mid)
    (second : Passes fs less mid rest left dir) :
    Passes fs links place (steps ++ rest) left dir := by
  induction first with
  | done => exact second
  | stay here _ ih => exact .stay here (ih second)
  | up _ ih => exact .up (ih second)
  | down looked held _ ih => exact .down looked held (ih second)
  | follow looked held _ ih =>
    have joined := ih second
    rw [List.append_assoc] at joined
    exact .follow looked held joined

theorem of_stay (passes : Passes fs links place (steps ++ [Path.stay]) left dir) :
    Passes fs links place steps left dir := by
  -- The induction is on the way; what it is made of is kept in an equation.
  generalize whole : steps ++ [Path.stay] = all at passes
  induction passes generalizing steps with
  | done => simp at whole
  | @stay links left place dir name rest here onward ih =>
    cases steps with
    | nil =>
      obtain ⟨rfl, rfl⟩ := List.cons.inj whole
      exact onward
    | cons first others =>
      obtain ⟨rfl, rfl⟩ := List.cons.inj whole
      exact .stay here (ih rfl)
  | up _ ih =>
    cases steps with
    | nil => simp [Path.stay, Path.dots] at whole
    | cons first others =>
      obtain ⟨rfl, rfl⟩ := List.cons.inj whole
      exact .up (ih rfl)
  | down looked held _ ih =>
    cases steps with
    | nil => exact absurd (List.cons.inj whole).1.symm looked.notStay
    | cons first others =>
      obtain ⟨rfl, rfl⟩ := List.cons.inj whole
      exact .down looked held (ih rfl)
  | follow looked held _ ih =>
    cases steps with
    | nil => exact absurd (List.cons.inj whole).1.symm looked.notStay
    | cons first others =>
      obtain ⟨rfl, rfl⟩ := List.cons.inj whole
      exact .follow looked held (ih (List.append_assoc ..))

end Passes

structure Keeps (before after : FileSystem) : Prop where
  cwd : after.cwd = before.cwd
  medium : after.medium = before.medium
  ways : ∀ place entry, entry.isWay = true → before.get? place = some entry →
    after.get? place = some entry

namespace Keeps

variable {fs mid after : FileSystem}

theorem refl (fs : FileSystem) : Keeps fs fs := ⟨rfl, rfl, fun _ _ _ held => held⟩

theorem trans (first : Keeps fs mid) (second : Keeps mid after) : Keeps fs after :=
  ⟨second.cwd.trans first.cwd, second.medium.trans first.medium,
    fun place entry way held => second.ways place entry way (first.ways place entry way held)⟩

theorem passes (keeps : Keeps fs after) {links left : Nat} {place dir : Location}
    {steps : List Name} (passes : Passes fs links place steps left dir) :
    Passes after links place steps left dir := by
  induction passes with
  | done => exact .done
  | stay here _ ih => exact .stay here ih
  | up _ ih => exact .up ih
  | down looked held _ ih => exact .down looked (keeps.ways _ _ rfl held) ih
  | follow looked held _ ih => exact .follow looked (keeps.ways _ _ rfl held) ih

end Keeps

theorem keeps_set {fs : FileSystem} {name : Name} {dir : Location} {slot : Slot}
    (settles : Slot.Settles (fs.get? (name :: dir)) slot) :
    Keeps fs (fs.set (name :: dir) slot) := by
  refine ⟨cwd_set .., medium_set .., fun place entry way held => ?_⟩
  rw [get?_set]
  split
  next same =>
    subst same
    rcases settles with rfl | ⟨plain, -⟩
    · exact held
    · rw [plain entry held] at way
      cases way
  next => exact held

end FileSystem

end GroupRunner
