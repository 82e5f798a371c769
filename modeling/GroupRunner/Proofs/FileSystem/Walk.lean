import GroupRunner.FileSystem.Operations
import GroupRunner.Proofs.Path
import Mathlib.Logic.Basic

set_option autoImplicit false

namespace GroupRunner

def Entry.isWay : Entry → Bool
  | .directory | .link _ => true
  | _ => false

namespace FileSystem

structure Looked (name : Name) : Prop where
  notStay : name ≠ Path.stay
  notDot : name ≠ Path.dot
  notDots : name ≠ Path.dots
  short : name.length ≤ maxName

theorem looked_of_proper {name : Name} (proper : ProperName name) : Looked name :=
  ⟨proper.nonempty, proper.notDot, proper.notDots, proper.short⟩

section Walk

variable {fs : FileSystem} {ending : Ending} {links : Nat} {place : Location} {name : Name}
variable {rest : List Name}

theorem walk_nil : fs.walk ending links place [] = .ok (.found place .directory) := by
  cases links <;> rfl

theorem walk_stay (here : name = Path.stay ∨ name = Path.dot) :
    fs.walk ending links place (name :: rest) = fs.walk ending links place rest := by
  cases links <;> simp [walk, walkWith, here]

theorem walk_up : fs.walk ending links place (Path.dots :: rest) =
    fs.walk ending links place.tail rest := by
  have other : ¬ (Path.dots = Path.stay ∨ Path.dots = Path.dot) := by decide
  cases links <;> simp [walk, walkWith, other]

def Allowed (ending : Ending) (rest : List Name) : Prop :=
  ¬ (ending = .opened ∧ rest = [Path.stay])

theorem walk_look (looked : Looked name) (allowed : Allowed ending rest) :
    fs.walk ending links place (name :: rest) =
      match fs.get? (name :: place) with
      | none => if rest.isEmpty then .ok (.vacant place name) else .error .noEntry
      | some .directory => fs.walk ending links (name :: place) rest
      | some (.link target) =>
        if rest.isEmpty && ending = .itself then .ok (.found (name :: place) (.link target))
        else match links with
          | 0 => .error .tooManyLinks
          | links + 1 =>
            fs.walk ending links (if target.isAbsolute then [] else place) (target.steps ++ rest)
      | some entry => if rest.isEmpty then .ok (.found (name :: place) entry)
        else .error .notDirectory := by
  -- The name passes all the tests that stand before the lookup.
  have here : (decide (name = Path.stay) || decide (name = Path.dot)) = false := by
    simp [looked.notStay, looked.notDot]
  have fits : ¬ maxName < name.length := Nat.not_lt.2 looked.short
  have openable : (decide (ending = .opened) && decide (rest = [Path.stay])) = false := by
    simpa [Allowed] using allowed
  cases links <;> cases held : fs.get? (name :: place) with
    | none =>
      simp only [walk, walkWith, here, looked.notDots, openable, fits, held, Bool.false_eq_true,
        if_false]
    | some entry =>
      cases entry <;>
        simp only [walk, walkWith, here, looked.notDots, openable, fits, held, Bool.false_eq_true,
          if_false]

end Walk

-- The steps lead from a place to the target, with so many links to be followed at most.
inductive Walks (fs : FileSystem) (ending : Ending) : Nat → Location → List Name → Target → Prop
  | done {links : Nat} {place : Location} : Walks fs ending links place [] (.found place .directory)
  | stay {links : Nat} {place : Location} {name : Name} {rest : List Name} {target : Target}
      (here : name = Path.stay ∨ name = Path.dot)
      (onward : Walks fs ending links place rest target) :
      Walks fs ending links place (name :: rest) target
  | up {links : Nat} {place : Location} {rest : List Name} {target : Target}
      (onward : Walks fs ending links place.tail rest target) :
      Walks fs ending links place (Path.dots :: rest) target
  | down {links : Nat} {place : Location} {name : Name} {rest : List Name} {target : Target}
      (looked : Looked name) (allowed : Allowed ending rest)
      (held : fs.get? (name :: place) = some .directory)
      (onward : Walks fs ending links (name :: place) rest target) :
      Walks fs ending links place (name :: rest) target
  | follow {links : Nat} {place : Location} {name : Name} {rest : List Name} {target : Target}
      {path : Path} (looked : Looked name) (allowed : Allowed ending rest)
      (held : fs.get? (name :: place) = some (.link path))
      (followed : rest ≠ [] ∨ ending ≠ .itself)
      (onward : Walks fs ending links (if path.isAbsolute then [] else place) (path.steps ++ rest)
        target) :
      Walks fs ending (links + 1) place (name :: rest) target
  | free {links : Nat} {place : Location} {name : Name} (looked : Looked name)
      (held : fs.get? (name :: place) = none) :
      Walks fs ending links place [name] (.vacant place name)
  | last {links : Nat} {place : Location} {name : Name} {entry : Entry} (looked : Looked name)
      (held : fs.get? (name :: place) = some entry) (plain : entry.isWay = false) :
      Walks fs ending links place [name] (.found (name :: place) entry)
  | link {links : Nat} {place : Location} {name : Name} {path : Path} (looked : Looked name)
      (held : fs.get? (name :: place) = some (.link path)) (itself : ending = .itself) :
      Walks fs ending links place [name] (.found (name :: place) (.link path))

theorem walks_of_walkWith {fs : FileSystem} {ending : Ending}
    {again : Location → List Name → Except IoError Target} {links : Nat} {target : Target}
    (followed : ∀ place steps, again place steps = .ok target →
      ∃ less, links = less + 1 ∧ Walks fs ending less place steps target)
    (steps : List Name) (place : Location)
    (found : walkWith again fs ending place steps = .ok target) :
    Walks fs ending links place steps target := by
  -- The cases are the tests of the walk, in their order.
  induction steps generalizing place with
  | nil =>
    cases found
    exact .done
  | cons name rest ih =>
    by_cases here : name = Path.stay ∨ name = Path.dot
    · rw [walkWith, if_pos (by simpa using here)] at found
      exact .stay here (ih _ found)
    rw [walkWith, if_neg (by simpa using here)] at found
    by_cases above : name = Path.dots
    · subst above
      rw [if_pos rfl] at found
      exact .up (ih _ found)
    rw [if_neg above] at found
    by_cases slash : ending = .opened ∧ rest = [Path.stay]
    · rw [if_pos (by simpa using slash)] at found
      cases found
    rw [if_neg (by simpa using slash)] at found
    by_cases long : maxName < name.length
    · rw [if_pos long] at found
      cases found
    rw [if_neg long] at found
    have looked : Looked name :=
      ⟨fun h => here (.inl h), fun h => here (.inr h), above, Nat.not_lt.1 long⟩
    cases held : fs.get? (name :: place) with
    | none =>
      simp only [held] at found
      cases rest with
      | nil =>
        cases found
        exact .free looked held
      | cons next rest => cases found
    | some entry =>
      cases entry with
      | directory =>
        simp only [held] at found
        exact .down looked slash held (ih _ found)
      | link path =>
        simp only [held] at found
        by_cases itself : rest = [] ∧ ending = .itself
        · obtain ⟨rfl, rfl⟩ := itself
          cases found
          exact .link looked held rfl
        · rw [if_neg (by simpa using itself)] at found
          obtain ⟨less, rfl, onward⟩ := followed _ _ found
          exact .follow looked slash held (not_and_or.1 itself) onward
      | file content executable =>
        simp only [held] at found
        cases rest with
        | nil =>
          cases found
          exact .last looked held rfl
        | cons next rest => cases found
      | device kind =>
        simp only [held] at found
        cases rest with
        | nil =>
          cases found
          exact .last looked held rfl
        | cons next rest => cases found

theorem walks_of_walk {fs : FileSystem} {ending : Ending} {links : Nat} {place : Location}
    {steps : List Name} {target : Target} (found : fs.walk ending links place steps = .ok target) :
    Walks fs ending links place steps target := by
  -- Only a link spends one of the links; the other steps make the list shorter.
  induction links generalizing place steps with
  | zero => exact walks_of_walkWith (fun _ _ never => by simp at never) steps place found
  | succ links ih =>
    exact walks_of_walkWith (fun _ _ onward => ⟨links, rfl, ih onward⟩) steps place found

theorem walk_of_walks {fs : FileSystem} {ending : Ending} {links : Nat} {place : Location}
    {steps : List Name} {target : Target} (walks : Walks fs ending links place steps target) :
    fs.walk ending links place steps = .ok target := by
  induction walks with
  | done => exact walk_nil
  | stay here _ ih => rw [walk_stay here, ih]
  | up _ ih => rw [walk_up, ih]
  | down looked allowed held _ ih =>
    rw [walk_look looked allowed, held]
    exact ih
  | follow looked allowed held followed _ ih =>
    rw [walk_look looked allowed, held]
    simp only
    rw [if_neg (by simpa using not_and_or.2 followed)]
    exact ih
  | free looked held =>
    rw [walk_look looked (by simp [Allowed]), held]
    rfl
  | @last _ _ _ entry looked held plain =>
    rw [walk_look looked (by simp [Allowed]), held]
    cases entry with
    | file content executable => rfl
    | device kind => rfl
    | directory => cases plain
    | link path => cases plain
  | link looked held itself =>
    subst itself
    rw [walk_look looked (by simp [Allowed]), held]
    rfl

end FileSystem

end GroupRunner
