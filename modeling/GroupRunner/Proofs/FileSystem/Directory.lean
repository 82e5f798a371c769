import GroupRunner.Proofs.FileSystem.Passage

set_option autoImplicit false

namespace GroupRunner

def Path.isTooLong (path : Path) : Bool :=
  decide (FileSystem.maxPath ≤ path.bytes.length)

def Target.ofSlot (dir : Location) (name : Name) : Option Entry → Target
  | none => .vacant dir name
  | some entry => .found (name :: dir) entry

namespace FileSystem

def base (fs : FileSystem) (path : Path) : Location :=
  if path.isAbsolute then [] else fs.cwd

theorem resolveName_eq {fs : FileSystem} {path : Path} (noSlash : path.endsInSlash = false) :
    fs.resolveName path = fs.resolve .itself path := by
  rw [resolveName, resolve, Path.steps, noSlash, if_neg Bool.false_ne_true, List.append_nil]

theorem resolveName_join {fs : FileSystem} {path : Path} {name : Name} (proper : ProperName name) :
    fs.resolveName (path.join ⟨name⟩) = fs.resolve .itself (path.join ⟨name⟩) :=
  resolveName_eq (Path.endsInSlash_join proper)

-- A path names a directory, whether or not it is too long to be walked.
structure LeadsTo (fs : FileSystem) (path : Path) (dir : Location) : Prop where
  nonempty : path.bytes ≠ []
  noNul : 0 ∉ path.bytes
  rooted : path.isAbsolute = true ∨ fs.isDirectory fs.cwd = true
  passes : ∃ left, Passes fs maxLinks (fs.base path) path.pieces left dir

theorem origin_eq {fs : FileSystem} {path : Path} (nonempty : path.bytes ≠ [])
    (noNul : 0 ∉ path.bytes) (rooted : path.isAbsolute = true ∨ fs.isDirectory fs.cwd = true) :
    fs.origin path = if path.isTooLong then .error .nameTooLong else .ok (fs.base path) := by
  have filled : path.bytes.isEmpty = false := by simpa using nonempty
  have clean : path.bytes.contains 0 = false := by simpa using noNul
  unfold origin Path.isTooLong base
  rw [clean, filled]
  by_cases long : maxPath ≤ path.bytes.length
  · simp [long]
  · rcases rooted with absolute | inside
    · simp [long, absolute]
    · cases path.isAbsolute <;> simp [long, inside]

theorem of_origin {fs : FileSystem} {path : Path} {start : Location}
    (begun : fs.origin path = .ok start) :
    path.bytes ≠ [] ∧ 0 ∉ path.bytes ∧ (path.isAbsolute = true ∨ fs.isDirectory fs.cwd = true) ∧
      path.bytes.length < maxPath ∧ start = fs.base path := by
  unfold origin at begun
  by_cases nul : path.bytes.contains 0 = true
  · rw [if_pos nul] at begun
    cases begun
  rw [if_neg nul] at begun
  by_cases empty : path.bytes.isEmpty = true
  · rw [if_pos empty] at begun
    cases begun
  rw [if_neg empty] at begun
  by_cases long : maxPath ≤ path.bytes.length
  · rw [if_pos long] at begun
    cases begun
  rw [if_neg long] at begun
  have nonempty : path.bytes ≠ [] := by simpa using empty
  have noNul : 0 ∉ path.bytes := by simpa using nul
  refine ⟨nonempty, noNul, ?_⟩
  by_cases absolute : path.isAbsolute = true
  · rw [if_pos absolute, Except.ok.injEq] at begun
    exact ⟨.inl absolute, Nat.lt_of_not_le long, by rw [base, if_pos absolute, begun]⟩
  · rw [if_neg absolute] at begun
    by_cases inside : fs.isDirectory fs.cwd = true
    · rw [if_pos inside, Except.ok.injEq] at begun
      exact ⟨.inr inside, Nat.lt_of_not_le long, by rw [base, if_neg absolute, begun]⟩
    · rw [if_neg inside] at begun
      cases begun

theorem find_eq_ok_iff {fs : FileSystem} {path : Path} {place : Location} {entry : Entry} :
    fs.find path = .ok (place, entry) ↔ fs.resolve .followed path = .ok (.found place entry) := by
  unfold find
  cases fs.resolve .followed path with
  | error e => simp
  | ok target => cases target <;> simp [Target.entry]

theorem find_of_size {fs : FileSystem} {path : Path} {bytes : Nat}
    (sized : fs.size path = .ok bytes) :
    ∃ place entry, fs.find path = .ok (place, entry) ∧ fs.medium.size place entry = bytes := by
  rw [size] at sized
  cases found : fs.find path with
  | error e =>
    rw [found] at sized
    cases sized
  | ok held =>
    rw [found] at sized
    cases sized
    exact ⟨held.1, held.2, rfl, rfl⟩

theorem findItself_iff_resolve {fs : FileSystem} {path : Path} {place : Location} {entry : Entry} :
    fs.findItself path = .ok (place, entry) ↔
      fs.resolve .itself path = .ok (.found place entry) := by
  unfold findItself
  cases fs.resolve .itself path with
  | error e => simp
  | ok target => cases target <;> simp [Target.entry]

theorem leadsTo_of_find {fs : FileSystem} {path : Path} {dir : Location}
    (found : fs.find path = .ok (dir, .directory)) : fs.LeadsTo path dir := by
  rw [find_eq_ok_iff, resolve, resolveSteps] at found
  cases begun : fs.origin path with
  | error e => simp [begun] at found
  | ok start =>
    obtain ⟨nonempty, noNul, rooted, -, rfl⟩ := of_origin begun
    simp only [begun] at found
    obtain ⟨left, passes⟩ := passes_of_walks (walks_of_walk found) rfl
    -- A slash at the end asks for a directory, and one was found.
    refine ⟨nonempty, noNul, rooted, left, ?_⟩
    rw [Path.steps] at passes
    cases ends : path.endsInSlash with
    | true => exact .of_stay (by simpa [ends] using passes)
    | false => simpa [ends] using passes

namespace LeadsTo

variable {fs after : FileSystem} {path : Path} {dir : Location} {name : Name}

theorem resolve_self (leads : fs.LeadsTo path dir) :
    fs.resolve .followed path =
      if path.isTooLong then .error .nameTooLong else .ok (.found dir .directory) := by
  obtain ⟨left, passes⟩ := leads.passes
  rw [resolve, resolveSteps, origin_eq leads.nonempty leads.noNul leads.rooted]
  cases path.isTooLong with
  | true => rfl
  | false =>
    have slash : Passes fs left dir (if path.endsInSlash then [Path.stay] else []) left dir := by
      cases path.endsInSlash
      · exact .done
      · exact .stay (.inl rfl) .done
    have walked : fs.walk .followed maxLinks (fs.base path) (path.steps ++ []) =
        fs.walk .followed left dir [] :=
      (passes.append slash).walk_append (fun _ => rfl) (by simp [Allowed])
    rw [List.append_nil, walk_nil] at walked
    exact walked

theorem find_eq (leads : fs.LeadsTo path dir) (short : path.isTooLong = false) :
    fs.find path = .ok (dir, .directory) := by
  rw [find_eq_ok_iff, leads.resolve_self, short]
  rfl

theorem keep (leads : fs.LeadsTo path dir) (keeps : Keeps fs after) : after.LeadsTo path dir := by
  obtain ⟨left, passes⟩ := leads.passes
  refine ⟨leads.nonempty, leads.noNul, ?_, left, ?_⟩
  · refine leads.rooted.imp_right fun inside => ?_
    rw [isDirectory, beq_iff_eq] at inside ⊢
    rw [keeps.cwd]
    exact keeps.ways _ _ rfl inside
  · rw [base, keeps.cwd]
    exact keeps.passes passes

theorem join (leads : fs.LeadsTo path dir) (proper : ProperName name)
    (held : fs.get? (name :: dir) = some .directory) :
    fs.LeadsTo (path.join ⟨name⟩) (name :: dir) := by
  obtain ⟨left, passes⟩ := leads.passes
  have absolute := Path.isAbsolute_join proper leads.nonempty
  refine ⟨?_, Path.noNul_join proper leads.nonempty leads.noNul, ?_, left, ?_⟩
  · obtain ⟨before, joined, -⟩ := Path.join_bytes proper leads.nonempty
    simp [joined]
  · rw [absolute]
    exact leads.rooted
  · rw [base, absolute, Path.pieces_join proper]
    exact passes.append (.down (looked_of_proper proper) held .done)

theorem resolve_join (leads : fs.LeadsTo path dir) (proper : ProperName name) {ending : Ending}
    (shown : ending = .itself ∨ (path.join ⟨name⟩).isTooLong = true ∨
      ∀ target, fs.get? (name :: dir) ≠ some (.link target)) :
    fs.resolve ending (path.join ⟨name⟩) =
      if (path.join ⟨name⟩).isTooLong then .error .nameTooLong
      else .ok (.ofSlot dir name (fs.get? (name :: dir))) := by
  obtain ⟨left, passes⟩ := leads.passes
  have absolute := Path.isAbsolute_join proper leads.nonempty
  have filled : (path.join ⟨name⟩).bytes ≠ [] := by
    obtain ⟨before, joined, -⟩ := Path.join_bytes proper leads.nonempty
    simp [joined]
  rw [resolve, resolveSteps, origin_eq filled (Path.noNul_join proper leads.nonempty leads.noNul)
    (by rw [absolute]; exact leads.rooted)]
  cases long : (path.join ⟨name⟩).isTooLong with
  | true => rfl
  | false =>
    have looked := looked_of_proper proper
    have allowed : Allowed ending [name] := fun ⟨_, last⟩ => looked.notStay (List.cons.inj last).1
    have start : fs.base (path.join ⟨name⟩) = fs.base path := by rw [base, absolute, base]
    simp only [Bool.false_eq_true, if_false]
    rw [start, Path.steps_join proper, passes.walk_append (by simp) allowed,
      walk_look looked (by simp [Allowed])]
    cases held : fs.get? (name :: dir) with
    | none => rfl
    | some entry =>
      cases entry with
      | link target =>
        -- A link at the end is shown only where it is not followed.
        rcases shown with rfl | long' | noLink
        · rfl
        · rw [long] at long'
          cases long'
        · exact absurd held (noLink target)
      | directory => exact walk_nil
      | file content executable => rfl
      | device kind => rfl

theorem findItself_join (leads : fs.LeadsTo path dir) (proper : ProperName name) :
    fs.findItself (path.join ⟨name⟩) =
      if (path.join ⟨name⟩).isTooLong then .error .nameTooLong
      else (Target.ofSlot dir name (fs.get? (name :: dir))).entry := by
  rw [findItself, leads.resolve_join proper (.inl rfl)]
  cases (path.join ⟨name⟩).isTooLong <;> rfl

end LeadsTo

end FileSystem

end GroupRunner
