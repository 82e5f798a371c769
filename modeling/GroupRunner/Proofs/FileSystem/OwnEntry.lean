import GroupRunner.Proofs.FileSystem.Writing

set_option autoImplicit false

namespace GroupRunner

namespace FileSystem

section OwnEntry

variable {fs after : FileSystem} {path linked : Path} {place own dir : Location} {name : Name}
variable {entry mine : Entry} {links left : Nat} {steps : List Name}

theorem Passes.dir_unique {left' : Nat} {dir' : Location}
    (first : Passes fs links place steps left dir)
    (second : Passes fs links place steps left' dir') : dir = dir' := by
  -- Both are the end of the one walk along the steps.
  have walked := @Passes.walk_append fs links left place dir steps [] .followed first
    (fun _ => rfl) (by simp [Allowed])
  have walked' := @Passes.walk_append fs links left' place dir' steps [] .followed second
    (fun _ => rfl) (by simp [Allowed])
  rw [walk_nil] at walked walked'
  rw [walked, Except.ok.injEq, Target.found.injEq] at walked'
  exact walked'.1

theorem Walks.split_last {ending : Ending} {target : Target}
    (walks : Walks fs ending links place (steps ++ [name]) target) :
    ∃ left dir, Passes fs links place steps left dir ∧ Walks fs ending left dir [name] target := by
  generalize whole : steps ++ [name] = all at walks
  induction walks generalizing steps with
  | done => simp at whole
  | @stay links place first rest target here onward ih =>
    cases steps with
    | nil =>
      obtain ⟨rfl, rfl⟩ := List.cons.inj whole
      exact ⟨links, place, .done, .stay here onward⟩
    | cons step others =>
      obtain ⟨rfl, rfl⟩ := List.cons.inj whole
      obtain ⟨left, dir, passes, last⟩ := ih rfl
      exact ⟨left, dir, .stay here passes, last⟩
  | @up links place rest target onward ih =>
    cases steps with
    | nil =>
      obtain ⟨rfl, rfl⟩ := List.cons.inj whole
      exact ⟨links, place, .done, .up onward⟩
    | cons step others =>
      obtain ⟨rfl, rfl⟩ := List.cons.inj whole
      obtain ⟨left, dir, passes, last⟩ := ih rfl
      exact ⟨left, dir, .up passes, last⟩
  | @down links place first rest target looked allowed held onward ih =>
    cases steps with
    | nil =>
      obtain ⟨rfl, rfl⟩ := List.cons.inj whole
      exact ⟨links, place, .done, .down looked allowed held onward⟩
    | cons step others =>
      obtain ⟨rfl, rfl⟩ := List.cons.inj whole
      obtain ⟨left, dir, passes, last⟩ := ih rfl
      exact ⟨left, dir, .down looked held passes, last⟩
  | @follow links place first rest target path looked allowed held followed onward ih =>
    cases steps with
    | nil =>
      obtain ⟨rfl, rfl⟩ := List.cons.inj whole
      exact ⟨links + 1, place, .done, .follow looked allowed held followed onward⟩
    | cons step others =>
      obtain ⟨rfl, rfl⟩ := List.cons.inj whole
      -- The name is still the last one behind what the link stands for.
      obtain ⟨left, dir, passes, last⟩ := ih (List.append_assoc ..)
      exact ⟨left, dir, .follow looked held passes, last⟩
  | @free links place first looked held =>
    obtain ⟨rfl, rfl⟩ := @List.append_singleton_inj _ _ _ steps [] |>.1 whole
    exact ⟨links, place, .done, .free looked held⟩
  | @last links place first entry looked held plain =>
    obtain ⟨rfl, rfl⟩ := @List.append_singleton_inj _ _ _ steps [] |>.1 whole
    exact ⟨links, place, .done, .last looked held plain⟩
  | @link links place first path looked held itself =>
    obtain ⟨rfl, rfl⟩ := @List.append_singleton_inj _ _ _ steps [] |>.1 whole
    exact ⟨links, place, .done, .link looked held itself⟩

theorem Walks.under_name (walks : Walks fs .itself links place steps (.found own mine))
    (noDirectory : mine ≠ .directory) :
    ∃ init name left dir, steps = init ++ [name] ∧ own = name :: dir ∧ Looked name ∧
      Passes fs links place init left dir ∧ fs.get? own = some mine := by
  rcases List.eq_nil_or_concat steps with rfl | ⟨init, name, rfl⟩
  · cases walks
    exact absurd rfl noDirectory
  rw [List.concat_eq_append] at walks
  obtain ⟨left, dir, passes, last⟩ := walks.split_last
  refine ⟨init, name, left, dir, List.concat_eq_append, ?_⟩
  cases last with
  | stay _ onward | up onward | down _ _ _ onward =>
    cases onward
    exact absurd rfl noDirectory
  | follow _ _ _ followed _ =>
    rcases followed with more | more
    · exact absurd rfl more
    · exact absurd rfl more
  | last looked held _ | link looked held _ => exact ⟨rfl, looked, passes, held⟩

theorem under_name_of_findItself (itself : fs.findItself path = .ok (own, mine))
    (noDirectory : mine ≠ .directory) :
    ∃ start init name left dir, fs.origin path = .ok start ∧ path.steps = init ++ [name] ∧
      own = name :: dir ∧ Looked name ∧ Passes fs maxLinks start init left dir ∧
      fs.get? own = some mine := by
  obtain ⟨start, begun, walks⟩ := of_resolve (findItself_iff_resolve.1 itself)
  obtain ⟨init, name, left, dir, stands⟩ := walks.under_name noDirectory
  exact ⟨start, init, name, left, dir, begun, stands⟩

theorem held_of_findItself (itself : fs.findItself path = .ok (own, mine))
    (noDirectory : mine ≠ .directory) : fs.get? own = some mine := by
  obtain ⟨_, _, _, _, _, -, -, -, -, -, held⟩ := under_name_of_findItself itself noDirectory
  exact held

theorem removeFile_eq (noSlash : path.endsInSlash = false) :
    fs.removeFile path = match fs.findItself path with
      | .error e => .error e
      | .ok (own, mine) =>
        if mine = .directory then .error .isDirectory
        else fs.medium.permit .remove own (fs.erase own) := by
  rw [removeFile, resolveName_eq noSlash, findItself, noSlash]
  cases fs.resolve .itself path with
  | error e => rfl
  | ok target =>
    cases target with
    | vacant parent name => rfl
    | found own mine => cases mine <;> rfl

theorem removeFile_of_findItself (proper : ProperName name)
    (found : fs.findItself (path.join ⟨name⟩) = .ok (own, mine)) :
    fs.removeFile (path.join ⟨name⟩) =
      if mine = .directory then .error .isDirectory
      else fs.medium.permit .remove own (fs.erase own) := by
  rw [removeFile_eq (Path.endsInSlash_join proper), found]

theorem removeFile_eq_ok_iff : fs.removeFile path = .ok after ↔
    ∃ own mine, fs.findItself path = .ok (own, mine) ∧ mine ≠ .directory ∧
      fs.medium.Permits .remove own ∧ after = fs.erase own := by
  cases slash : path.endsInSlash with
  | true =>
    constructor
    · intro removed
      rw [removeFile, slash] at removed
      split at removed <;> cases removed
    · rintro ⟨own, mine, itself, noDirectory, -, -⟩
      obtain ⟨_, init, name, _, _, -, whole, -, looked, -⟩ :=
        under_name_of_findItself itself noDirectory
      rw [Path.steps, slash, if_pos rfl] at whole
      exact absurd (List.append_inj_right' whole rfl) (by simpa using looked.notStay.symm)
  | false =>
    rw [removeFile_eq slash]
    cases itself : fs.findItself path with
    | error e => simp
    | ok held =>
      obtain ⟨own, mine⟩ := held
      by_cases directory : mine = .directory
      · simp [directory]
      · simp only [if_neg directory, Medium.permit_eq_ok_iff, Except.ok.injEq, Prod.mk.injEq]
        constructor
        · rintro ⟨permits, rfl⟩
          exact ⟨own, mine, ⟨rfl, rfl⟩, directory, permits, rfl⟩
        · rintro ⟨_, _, ⟨rfl, rfl⟩, -, permits, rfl⟩
          exact ⟨permits, rfl⟩

theorem Walks.avoids {target : Target} (walks : Walks fs .followed links place steps target)
    (link : fs.get? own = some (.link linked)) (outside : ¬ own <:+ place) :
    target.place ≠ own := by
  induction walks with
  | @done _ place =>
    rintro rfl
    exact outside (List.suffix_refl place)
  | stay _ _ ih => exact ih outside
  | up _ ih => exact ih fun inside => outside (inside.trans (List.tail_suffix _))
  | down _ _ held _ ih =>
    refine ih fun inside => ?_
    rcases List.suffix_cons_iff.1 inside with rfl | inside
    · rw [link] at held
      cases held
    · exact outside inside
  | follow _ _ _ _ _ ih =>
    refine ih ?_
    split
    · rw [List.suffix_nil]
      rintro rfl
      cases link
    · exact outside
  | free _ held =>
    rintro rfl
    rw [Target.place, held] at link
    cases link
  | last _ held plain =>
    rintro rfl
    rw [Target.place, held] at link
    cases link
    cases plain
  | link _ _ itself => cases itself

theorem ne_of_findItself_link (itself : fs.findItself path = .ok (own, .link linked))
    (found : fs.find path = .ok (place, entry)) : place ≠ own := by
  obtain ⟨start, init, name, left, dir, begun, whole, rfl, -, passes, held⟩ :=
    under_name_of_findItself itself (by simp)
  obtain ⟨start', begun', walks⟩ := of_resolve (find_eq_ok_iff.1 found)
  rw [begun, Except.ok.injEq] at begun'
  subst begun'
  rw [whole] at walks
  obtain ⟨left', dir', passes', last⟩ := walks.split_last
  obtain rfl := passes.dir_unique passes'
  refine last.avoids held fun inside => ?_
  have longer := inside.length_le
  rw [List.length_cons] at longer
  omega

end OwnEntry

end FileSystem

end GroupRunner
