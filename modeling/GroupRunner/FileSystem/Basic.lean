import GroupRunner.FileSystem.Error
import GroupRunner.Path

set_option autoImplicit false

namespace GroupRunner

-- The names on the way from a place up to the root.
abbrev Location := List Name

inductive Device
  | null
  | full
  deriving DecidableEq, Repr

inductive Entry
  | file (content : Bytes) (executable : Bool)
  | link (target : Path)
  | directory
  | device (kind : Device)
  deriving DecidableEq, Repr

inductive Access
  | list
  | next
  | kind
  | remove
  deriving DecidableEq, Repr

-- What a tree is kept on: it may refuse what the tree itself would allow.
structure Medium where
  refusal : Access → Location → Option IoError := fun _ _ => none
  -- The bytes that a directory itself is said to hold.
  directorySize : Location → Nat := fun _ => 4096

namespace Medium

def permit {A : Type} (medium : Medium) (access : Access) (place : Location) (granted : A) :
    Except IoError A :=
  match medium.refusal access place with
  | none => .ok granted
  | some e => .error e

def Permits (medium : Medium) (access : Access) (place : Location) : Prop :=
  medium.refusal access place = none

theorem permit_of_permits {A : Type} {medium : Medium} {access : Access} {place : Location}
    (permits : medium.Permits access place) (granted : A) :
    medium.permit access place granted = .ok granted := by
  rw [permit, permits]

theorem permit_of_not_permits {A : Type} {medium : Medium} {access : Access} {place : Location}
    {granted : A} (refused : ¬ medium.Permits access place) :
    ∃ e, medium.permit access place granted = .error e := by
  unfold permit
  cases told : medium.refusal access place with
  | none => exact absurd told refused
  | some e => exact ⟨e, rfl⟩

theorem permit_eq_ok_iff {A : Type} {medium : Medium} {access : Access} {place : Location}
    {granted result : A} :
    medium.permit access place granted = .ok result ↔
      medium.Permits access place ∧ granted = result := by
  unfold permit Permits
  cases medium.refusal access place <;> simp

end Medium

structure FileSystem where
  -- All places but the root, in the order in which they are listed.
  entries : List (Location × Entry)
  nodup : (entries.map Prod.fst).Nodup
  cwd : Location
  medium : Medium := {}

namespace FileSystem

def empty : FileSystem := { entries := [], nodup := .nil, cwd := [] }

def get? (fs : FileSystem) : Location → Option Entry
  | [] => some .directory
  | place => fs.entries.lookup place

def assign (place : Location) (entry : Entry) : List (Location × Entry) → List (Location × Entry)
  | [] => [(place, entry)]
  | (other, old) :: rest =>
    if other = place then (place, entry) :: rest else (other, old) :: assign place entry rest

theorem mem_keys_assign {place other : Location} {entry : Entry}
    {entries : List (Location × Entry)} :
    other ∈ (assign place entry entries).map Prod.fst ↔
      other = place ∨ other ∈ entries.map Prod.fst := by
  induction entries with
  | nil => simp [assign]
  | cons head rest ih =>
    obtain ⟨key, old⟩ := head
    simp only [assign]
    split
    · subst key; simp
    · simp only [List.map_cons, List.mem_cons, ih]
      grind

theorem nodup_assign {place : Location} {entry : Entry} {entries : List (Location × Entry)}
    (h : (entries.map Prod.fst).Nodup) : ((assign place entry entries).map Prod.fst).Nodup := by
  induction entries with
  | nil => simp [assign]
  | cons head rest ih =>
    obtain ⟨key, old⟩ := head
    simp only [List.map_cons, List.nodup_cons] at h
    simp only [assign]
    split
    · subst key; simpa using h
    · simp only [List.map_cons, List.nodup_cons, mem_keys_assign]
      exact ⟨fun hk => hk.elim (by assumption) h.1, ih h.2⟩

def put (fs : FileSystem) (place : Location) (entry : Entry) : FileSystem :=
  { fs with entries := assign place entry fs.entries, nodup := nodup_assign fs.nodup }

def drop (fs : FileSystem) (picked : Location → Bool) : FileSystem :=
  { fs with
    entries := fs.entries.filter fun pair => !picked pair.1
    nodup := fs.nodup.sublist (List.filter_sublist.map _) }

def erase (fs : FileSystem) (place : Location) : FileSystem :=
  fs.drop (· == place)

def within : Location → Location → Bool
  | place, top => top.isSuffixOf place

def children (fs : FileSystem) (parent : Location) : List (Name × Entry) :=
  fs.entries.filterMap fun
    | (name :: above, entry) => if above = parent then some (name, entry) else none
    | ([], _) => none

def isDirectory (fs : FileSystem) (place : Location) : Bool :=
  fs.get? place == some .directory

theorem lookup_assign {place other : Location} {entry : Entry} {entries : List (Location × Entry)} :
    (assign place entry entries).lookup other =
      if other = place then some entry else entries.lookup other := by
  induction entries with
  | nil =>
    by_cases h : other = place
    · simp [assign, h]
    · simp [assign, List.lookup_cons, beq_false_of_ne h, h]
  | cons head rest ih =>
    obtain ⟨key, old⟩ := head
    simp only [assign]
    split
    · subst key
      simp only [List.lookup_cons]
      split <;> simp_all
    · simp only [List.lookup_cons, ih]
      split <;> simp_all

theorem get?_put (fs : FileSystem) (name : Name) (parent other : Location) (entry : Entry) :
    (fs.put (name :: parent) entry).get? other =
      if other = name :: parent then some entry else fs.get? other := by
  cases other with
  | nil => simp [get?]
  | cons head above => simp [get?, put, lookup_assign]

theorem lookup_filter {picked : Location → Bool} {other : Location}
    {entries : List (Location × Entry)} :
    (entries.filter fun pair => !picked pair.1).lookup other =
      if picked other then none else entries.lookup other := by
  induction entries with
  | nil => simp
  | cons head rest ih =>
    obtain ⟨key, old⟩ := head
    simp only [List.filter_cons, List.lookup_cons]
    by_cases hk : other = key
    · subst key
      cases hp : picked other
      · simp
      · simpa [hp] using ih
    · cases hp : picked key <;> simp [ih, List.lookup_cons, beq_false_of_ne hk]

theorem get?_drop (fs : FileSystem) (picked : Location → Bool) (name : Name) (above : Location) :
    (fs.drop picked).get? (name :: above) =
      if picked (name :: above) then none else fs.get? (name :: above) := by
  simp [get?, drop, lookup_filter]

theorem get?_erase (fs : FileSystem) (place other : Location) (h : other ≠ []) :
    (fs.erase place).get? other = if other = place then none else fs.get? other := by
  cases other with
  | nil => exact absurd rfl h
  | cons name above => simp [erase, get?_drop]

theorem mem_children_iff (fs : FileSystem) (parent : Location) (name : Name) (entry : Entry) :
    (name, entry) ∈ fs.children parent ↔ fs.get? (name :: parent) = some entry := by
  have hmem : (name, entry) ∈ fs.children parent ↔ (name :: parent, entry) ∈ fs.entries := by
    simp only [children, List.mem_filterMap]
    constructor
    · rintro ⟨⟨place, e⟩, hp, h⟩
      cases place with
      | nil => simp at h
      | cons n above =>
        simp only at h
        split at h
        · subst parent
          simp only [Option.some.injEq, Prod.mk.injEq] at h
          obtain ⟨rfl, rfl⟩ := h
          exact hp
        · simp at h
    · intro h
      exact ⟨_, h, by simp⟩
  rw [hmem]
  have key : ∀ {entries : List (Location × Entry)}, (entries.map Prod.fst).Nodup →
      ((name :: parent, entry) ∈ entries ↔ entries.lookup (name :: parent) = some entry) := by
    intro entries
    induction entries with
    | nil => simp
    | cons head rest ih =>
      obtain ⟨k, old⟩ := head
      intro h
      simp only [List.map_cons, List.nodup_cons] at h
      by_cases hk : name :: parent = k
      · subst k
        have : (name :: parent, entry) ∉ rest := fun hr =>
          h.1 (List.mem_map.2 ⟨_, hr, rfl⟩)
        simp [this, eq_comm]
      · simp [List.lookup_cons, beq_false_of_ne hk, hk, ih h.2]
  simpa [get?] using key fs.nodup

end FileSystem

end GroupRunner
