import GroupRunner.Text.Search

set_option autoImplicit false

namespace GroupRunner

structure IgnoreSet where
  fragments : List String
  nodup : fragments.Nodup
  deriving DecidableEq

namespace IgnoreSet

def empty : IgnoreSet := ⟨[], .nil⟩

def insert (set : IgnoreSet) (fragment : String) : IgnoreSet :=
  if h : fragment ∈ set.fragments then set
  else ⟨set.fragments ++ [fragment], by
    simp [List.nodup_append, set.nodup]
    exact fun a ha hf => h (hf ▸ ha)⟩

def ofList (fragments : List String) : IgnoreSet :=
  fragments.foldl insert empty

def covers (set : IgnoreSet) (name : String) : Bool :=
  set.fragments.any (Text.contains name)

theorem mem_insert {set : IgnoreSet} {fragment other : String} :
    other ∈ (set.insert fragment).fragments ↔ other = fragment ∨ other ∈ set.fragments := by
  unfold insert
  split
  · grind
  · simp [or_comm]

theorem covers_iff {set : IgnoreSet} {name : String} :
    set.covers name = true ↔ ∃ fragment ∈ set.fragments, fragment.toList <:+: name.toList := by
  simp only [covers, Text.contains, List.any_eq_true, Text.occursIn_iff]

theorem fragments_ofList (fragments : List String) :
    (ofList fragments).fragments = fragments.eraseDups := by
  rw [← List.reverse_reverse fragments]
  induction fragments.reverse with
  | nil => rfl
  | cons fragment before ih =>
    have known : fragment ∈ (ofList before.reverse).fragments ↔ fragment ∈ before.reverse := by
      rw [ih, List.mem_eraseDups]
    rw [List.reverse_cons, List.eraseDups_append, ofList, List.foldl_append]
    change ((ofList before.reverse).insert fragment).fragments = _
    unfold insert
    split
    next present =>
      have seen : fragment ∈ before := by simpa using known.1 present
      simp [ih, List.cons_removeAll, seen]
    next absent =>
      have new : fragment ∉ before := by simpa [known] using absent
      simp [ih, List.cons_removeAll, new, List.eraseDups_cons]

end IgnoreSet

end GroupRunner
