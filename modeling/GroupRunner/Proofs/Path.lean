import GroupRunner.FileSystem.Resolve

set_option autoImplicit false

namespace GroupRunner

structure ProperName (name : Name) : Prop where
  nonempty : name ≠ []
  notDot : name ≠ Path.dot
  notDots : name ≠ Path.dots
  noSlash : Path.slash ∉ name
  noNul : 0 ∉ name
  short : name.length ≤ maxName

instance (name : Name) : Decidable (ProperName name) :=
  decidable_of_iff
    (name ≠ [] ∧ name ≠ Path.dot ∧ name ≠ Path.dots ∧ Path.slash ∉ name ∧ 0 ∉ name ∧
      name.length ≤ maxName)
    ⟨fun ⟨a, b, c, d, e, f⟩ => ⟨a, b, c, d, e, f⟩, fun ⟨a, b, c, d, e, f⟩ => ⟨a, b, c, d, e, f⟩⟩

namespace Path

theorem pieces_append_slash (before after : Bytes) :
    pieces ⟨before ++ slash :: after⟩ = pieces ⟨before⟩ ++ pieces ⟨after⟩ := by
  simp only [pieces, List.splitOn_append_cons_self, List.filter_append]

theorem pieces_name {name : Name} (proper : ProperName name) : pieces ⟨name⟩ = [name] := by
  have nonempty := proper.nonempty
  simp [pieces, List.splitOn_eq_singleton proper.noSlash, nonempty]

theorem isAbsolute_name {name : Name} (proper : ProperName name) :
    isAbsolute ⟨name⟩ = false := by
  cases name with
  | nil => rfl
  | cons b rest =>
    have other : b ≠ slash := fun same => proper.noSlash (by simp [same])
    simp [isAbsolute, other]

theorem join_bytes {path : Path} {name : Name} (proper : ProperName name)
    (nonempty : path.bytes ≠ []) :
    ∃ before, (path.join ⟨name⟩).bytes = before ++ slash :: name ∧
      (path.bytes = before ∨ path.bytes = before ++ [slash]) := by
  have relative := isAbsolute_name proper
  cases ends : path.endsInSlash with
  | false =>
    refine ⟨path.bytes, ?_, .inl rfl⟩
    simp [join, relative, ends, nonempty]
  | true =>
    rw [endsInSlash, beq_iff_eq, List.getLast?_eq_some_iff] at ends
    obtain ⟨before, split⟩ := ends
    refine ⟨before, ?_, .inr split⟩
    simp [join, relative, endsInSlash, split]

theorem pieces_join {path : Path} {name : Name} (proper : ProperName name) :
    (path.join ⟨name⟩).pieces = path.pieces ++ [name] := by
  obtain ⟨bytes⟩ := path
  by_cases nonempty : bytes = []
  · subst nonempty
    have alone : join ⟨[]⟩ ⟨name⟩ = ⟨name⟩ := by simp [join, isAbsolute_name proper]
    rw [alone, pieces_name proper]
    rfl
  obtain ⟨before, joined, same | split⟩ := @join_bytes ⟨bytes⟩ name proper nonempty
  · change bytes = before at same
    subst same
    change pieces ⟨(join ⟨bytes⟩ ⟨name⟩).bytes⟩ = _
    rw [joined, pieces_append_slash, pieces_name proper]
  · change bytes = before ++ [slash] at split
    subst split
    change pieces ⟨(join ⟨before ++ [slash]⟩ ⟨name⟩).bytes⟩ = _
    have closed : pieces ⟨before ++ [slash]⟩ = pieces ⟨before⟩ := by
      rw [pieces_append_slash]
      exact List.append_nil _
    rw [joined, pieces_append_slash, closed, pieces_name proper]

theorem endsInSlash_join {path : Path} {name : Name} (proper : ProperName name) :
    (path.join ⟨name⟩).endsInSlash = false := by
  obtain ⟨init, b, split⟩ : ∃ init b, name = init ++ [b] :=
    ⟨_, _, (List.dropLast_concat_getLast proper.nonempty).symm⟩
  have other : b ≠ slash := fun same => proper.noSlash (by simp [split, same])
  have last (before : Bytes) : endsInSlash ⟨before ++ name⟩ = false := by
    simp [endsInSlash, split, ← List.append_assoc, other]
  by_cases empty : path.bytes = []
  · simpa [join, isAbsolute_name proper, empty] using last []
  obtain ⟨before, joined, -⟩ := join_bytes proper empty
  change endsInSlash ⟨(path.join ⟨name⟩).bytes⟩ = false
  rw [joined]
  simpa using last (before ++ [slash])

theorem steps_join {path : Path} {name : Name} (proper : ProperName name) :
    (path.join ⟨name⟩).steps = path.pieces ++ [name] := by
  rw [steps, pieces_join proper, endsInSlash_join proper]
  exact List.append_nil _

theorem isAbsolute_join {path : Path} {name : Name} (proper : ProperName name)
    (nonempty : path.bytes ≠ []) : (path.join ⟨name⟩).isAbsolute = path.isAbsolute := by
  obtain ⟨before, joined, same | split⟩ := join_bytes proper nonempty
  · cases before with
    | nil => exact absurd same nonempty
    | cons b rest => simp [isAbsolute, joined, same]
  · cases before with
    | nil => simp [isAbsolute, joined, split]
    | cons b rest => simp [isAbsolute, joined, split]

theorem length_join {path : Path} {name : Name} (proper : ProperName name)
    (nonempty : path.bytes ≠ []) :
    path.bytes.length + name.length ≤ (path.join ⟨name⟩).bytes.length := by
  obtain ⟨before, joined, same | split⟩ := join_bytes proper nonempty
  · simp only [joined, same, List.length_append, List.length_cons]
    omega
  · simp only [joined, split, List.length_append, List.length_cons, List.length_nil]
    omega

theorem noNul_join {path : Path} {name : Name} (proper : ProperName name)
    (nonempty : path.bytes ≠ []) (clean : 0 ∉ path.bytes) : 0 ∉ (path.join ⟨name⟩).bytes := by
  have other : (0 : UInt8) ≠ slash := by decide
  obtain ⟨before, joined, same | split⟩ := join_bytes proper nonempty
  · simp [joined, ← same, clean, other, proper.noNul]
  · rw [split] at clean
    simp only [List.mem_append, not_or] at clean
    simp [joined, clean.1, other, proper.noNul]

def countedPieces (bytes : Bytes) : List Name :=
  (bytes.splitOn slash).filter fun piece => piece ≠ [] ∧ piece ≠ dot

theorem counts_iff {piece : Name} : counts piece = true ↔ piece ≠ [] ∧ piece ≠ dot := by
  simp [counts]

theorem countedPieces_noSlash {piece : Name} (noSlash : slash ∉ piece) :
    countedPieces piece = if counts piece then [piece] else [] := by
  rw [countedPieces, List.splitOn_eq_singleton noSlash, List.filter_cons, List.filter_nil]
  simp only [counts_iff, decide_eq_true_eq]

theorem countedPieces_append_slash (before after : Bytes) :
    countedPieces (before ++ slash :: after) = countedPieces before ++ countedPieces after := by
  simp only [countedPieces, List.splitOn_append_cons_self, List.filter_append]

theorem lastPiece?_eq {piece : Name} (noSlash : slash ∉ piece) (bytes : Bytes) :
    lastPiece? piece bytes = (countedPieces (bytes.reverse ++ piece)).getLast? := by
  induction bytes generalizing piece with
  | nil =>
    rw [List.reverse_nil, List.nil_append, countedPieces_noSlash noSlash, lastPiece?]
    cases counts piece <;> rfl
  | cons b before ih =>
    have split : (b :: before).reverse ++ piece = before.reverse ++ b :: piece := by simp
    rw [lastPiece?, split]
    by_cases ends : b = slash
    · subst ends
      rw [if_pos rfl, countedPieces_append_slash, countedPieces_noSlash noSlash]
      cases counts piece with
      | true => simp
      | false => simpa using ih List.not_mem_nil
    · rw [if_neg ends]
      exact ih (by simp [Ne.symm ends, noSlash])

theorem fileName_eq_some_iff {bytes : Bytes} {name : Name} (notDots : name ≠ dots) :
    fileName ⟨bytes⟩ = some name ↔ (countedPieces bytes).getLast? = some name := by
  rw [fileName, lastPiece?_eq List.not_mem_nil, List.reverse_reverse, List.append_nil]
  cases (countedPieces bytes).getLast? with
  | none => rfl
  | some last =>
    by_cases up : last = dots
    · simp [up, Ne.symm notDots]
    · simp [up]

end Path

end GroupRunner
