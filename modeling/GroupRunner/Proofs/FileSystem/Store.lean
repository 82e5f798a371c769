import GroupRunner.FileSystem.Basic

set_option autoImplicit false

namespace GroupRunner

abbrev Slot := Option Entry

namespace FileSystem

theorem eq_of_entries {fs other : FileSystem} (entries : fs.entries = other.entries)
    (cwd : fs.cwd = other.cwd) (medium : fs.medium = other.medium) : fs = other := by
  cases fs
  cases other
  simp_all

def set (fs : FileSystem) (place : Location) : Slot → FileSystem
  | some entry => fs.put place entry
  | none => fs.erase place

@[simp] theorem cwd_set (fs : FileSystem) (place : Location) (slot : Slot) :
    (fs.set place slot).cwd = fs.cwd := by
  cases slot <;> rfl

@[simp] theorem medium_set (fs : FileSystem) (place : Location) (slot : Slot) :
    (fs.set place slot).medium = fs.medium := by
  cases slot <;> rfl

theorem get?_set (fs : FileSystem) (name : Name) (parent other : Location) (slot : Slot) :
    (fs.set (name :: parent) slot).get? other =
      if other = name :: parent then slot else fs.get? other := by
  cases slot with
  | some entry => exact get?_put fs name parent other entry
  | none =>
    cases other with
    | nil => simp [get?]
    | cons head above => exact get?_erase fs _ _ (by simp)

theorem get?_set_self (fs : FileSystem) (name : Name) (parent : Location) (slot : Slot) :
    (fs.set (name :: parent) slot).get? (name :: parent) = slot := by
  rw [get?_set, if_pos rfl]

theorem get?_set_of_ne {fs : FileSystem} {name : Name} {parent other : Location}
    (apart : other ≠ name :: parent) (slot : Slot) :
    (fs.set (name :: parent) slot).get? other = fs.get? other := by
  rw [get?_set, if_neg apart]

theorem get?_erase_of_ne {fs : FileSystem} {place other : Location} (apart : other ≠ place) :
    (fs.erase place).get? other = fs.get? other := by
  cases other with
  | nil => rfl
  | cons name parent => rw [get?_erase fs place _ (List.cons_ne_nil _ _), if_neg apart]

section Entries

variable {place other : Location} {entry next : Entry} {entries : List (Location × Entry)}

theorem assign_assign :
    assign place next (assign place entry entries) = assign place next entries := by
  induction entries with
  | nil => simp [assign]
  | cons head rest ih =>
    obtain ⟨key, old⟩ := head
    by_cases same : key = place
    · simp [assign, same]
    · simp [assign, same, ih]

theorem assign_lookup (held : entries.lookup place = some entry) :
    assign place entry entries = entries := by
  induction entries with
  | nil => simp at held
  | cons head rest ih =>
    obtain ⟨key, old⟩ := head
    by_cases same : key = place
    · subst same
      simp only [List.lookup_cons, BEq.rfl, Option.some.injEq] at held
      simp [assign, held]
    · rw [List.lookup_cons, beq_false_of_ne (Ne.symm same)] at held
      simp [assign, same, ih held]

theorem assign_comm (apart : place ≠ other) (held : (entries.lookup place).isSome) :
    assign place next (assign other entry entries) =
      assign other entry (assign place next entries) := by
  induction entries with
  | nil => simp at held
  | cons head rest ih =>
    obtain ⟨key, old⟩ := head
    by_cases here : key = place
    · subst here
      simp [assign, apart]
    · -- The place comes later in the list, so nothing is added at the end for it.
      rw [List.lookup_cons, beq_false_of_ne (Ne.symm here)] at held
      by_cases there : key = other
      · subst there
        simp [assign, here]
      · simp [assign, here, there, ih held]

def without (place : Location) (entries : List (Location × Entry)) : List (Location × Entry) :=
  entries.filter fun pair => !(pair.1 == place)

theorem without_assign : without place (assign place entry entries) = without place entries := by
  induction entries with
  | nil => simp [assign, without]
  | cons head rest ih =>
    obtain ⟨key, old⟩ := head
    by_cases same : key = place
    · simp [assign, same, without]
    · simp only [without] at ih
      simp [assign, same, without, ih]

theorem without_assign_of_ne (apart : place ≠ other) :
    without place (assign other entry entries) = assign other entry (without place entries) := by
  induction entries with
  | nil => simp [assign, without, Ne.symm apart]
  | cons head rest ih =>
    obtain ⟨key, old⟩ := head
    simp only [without] at ih
    by_cases here : key = place
    · subst here
      simp [assign, apart, without, ih]
    · by_cases there : key = other
      · subst there
        simp [assign, without, here]
      · simp [assign, without, here, there, ih]

theorem without_of_lookup (free : entries.lookup place = none) :
    without place entries = entries := by
  rw [without, List.filter_eq_self]
  intro pair member
  have apart := List.lookup_eq_none_iff.1 free pair member
  rw [bne_iff_ne] at apart
  simpa using Ne.symm apart

theorem without_comm :
    without place (without other entries) = without other (without place entries) := by
  simp only [without, List.filter_filter, Bool.and_comm]

variable {B : Type} {pick : Location × Entry → Option B}

theorem filterMap_assign (ignored : ∀ entry, pick (place, entry) = none) :
    (assign place entry entries).filterMap pick = entries.filterMap pick := by
  induction entries with
  | nil => simp [assign, ignored]
  | cons head rest ih =>
    obtain ⟨key, old⟩ := head
    by_cases same : key = place
    · simp [assign, same, ignored]
    · simp [assign, same, List.filterMap_cons, ih]

theorem filterMap_without (ignored : ∀ entry, pick (place, entry) = none) :
    (without place entries).filterMap pick = entries.filterMap pick := by
  induction entries with
  | nil => rfl
  | cons head rest ih =>
    obtain ⟨key, old⟩ := head
    simp only [without] at ih
    by_cases same : key = place
    · subst same
      simp [without, ignored, ih]
    · simp [without, same, List.filterMap_cons, ih]

end Entries

theorem entries_put (fs : FileSystem) (place : Location) (entry : Entry) :
    (fs.put place entry).entries = assign place entry fs.entries := rfl

theorem entries_erase (fs : FileSystem) (place : Location) :
    (fs.erase place).entries = without place fs.entries := rfl

section Places

variable {fs : FileSystem} {name other : Name} {parent above : Location}

theorem set_set {first second : Slot} (kept : first.isSome ∨ second = none) :
    (fs.set (name :: parent) first).set (name :: parent) second =
      fs.set (name :: parent) second := by
  cases first with
  | some entry =>
    cases second with
    | some next => exact eq_of_entries (by simp only [set, entries_put, assign_assign]) rfl rfl
    | none =>
      exact eq_of_entries (by simp only [set, entries_put, entries_erase, without_assign]) rfl rfl
  | none =>
    -- An entry that came back would stand at the end.
    obtain rfl : second = none := by simpa using kept
    refine eq_of_entries ?_ rfl rfl
    simp only [set, entries_erase, without, List.filter_filter, Bool.and_self]

theorem set_get? : fs.set (name :: parent) (fs.get? (name :: parent)) = fs := by
  cases held : fs.get? (name :: parent) with
  | some entry => exact eq_of_entries (assign_lookup held) rfl rfl
  | none => exact eq_of_entries (without_of_lookup held) rfl rfl

theorem set_comm {first second : Slot} (apart : name :: parent ≠ other :: above)
    (held : (fs.get? (name :: parent)).isSome ∨ second = none) :
    (fs.set (other :: above) first).set (name :: parent) second =
      (fs.set (name :: parent) second).set (other :: above) first := by
  cases second with
  | some next =>
    have present : (fs.entries.lookup (name :: parent)).isSome := by simpa [get?] using held
    cases first with
    | some entry =>
      exact eq_of_entries (by simp only [set, entries_put, assign_comm apart present]) rfl rfl
    | none =>
      refine eq_of_entries ?_ rfl rfl
      simp only [set, entries_put, entries_erase, without_assign_of_ne (Ne.symm apart)]
  | none =>
    cases first with
    | some entry =>
      refine eq_of_entries ?_ rfl rfl
      simp only [set, entries_put, entries_erase, without_assign_of_ne apart]
    | none => exact eq_of_entries (by simp only [set, entries_erase, without_comm]) rfl rfl

theorem children_set {slot : Slot} (apart : parent ≠ above) :
    (fs.set (name :: parent) slot).children above = fs.children above := by
  cases slot with
  | some entry => exact filterMap_assign fun _ => if_neg apart
  | none => exact filterMap_without fun _ => if_neg apart

end Places

end FileSystem

end GroupRunner
