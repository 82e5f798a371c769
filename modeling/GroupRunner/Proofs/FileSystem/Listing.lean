import GroupRunner.Discovery

set_option autoImplicit false

namespace GroupRunner

namespace FileSystem

def DirEntry.whole (child : Name × Entry) : Except IoError DirEntry :=
  .ok { name := child.1, kind := .ok child.2 }

def Lists (fs : FileSystem) (path : Path) (entries : List (Name × Entry)) : Prop :=
  fs.readDir path = .ok (entries.map DirEntry.whole)

def Legible (fs : FileSystem) (dir : Location) : Prop :=
  fs.medium.Permits .list dir ∧ ∀ child ∈ fs.children dir,
    fs.medium.Permits .next (child.1 :: dir) ∧ fs.medium.Permits .kind (child.1 :: dir)

section Lists

variable {fs : FileSystem} {path : Path} {dir : Location} {entries : List (Name × Entry)}
variable {child shown : Name × Entry}

theorem showEntry_eq_whole_iff : fs.showEntry dir child = DirEntry.whole shown ↔
    shown = child ∧ fs.medium.Permits .next (child.1 :: dir) ∧
      fs.medium.Permits .kind (child.1 :: dir) := by
  obtain ⟨name, entry⟩ := child
  obtain ⟨name', entry'⟩ := shown
  rw [showEntry, DirEntry.whole, Medium.permit_eq_ok_iff, DirEntry.mk.injEq,
    Medium.permit_eq_ok_iff, Prod.mk.injEq]
  constructor
  · rintro ⟨next, rfl, kind, rfl⟩
    exact ⟨⟨rfl, rfl⟩, next, kind⟩
  · rintro ⟨⟨rfl, rfl⟩, next, kind⟩
    exact ⟨next, rfl, kind, rfl⟩

theorem map_showEntry_eq_iff {children : List (Name × Entry)} :
    children.map (fs.showEntry dir) = entries.map DirEntry.whole ↔
      entries = children ∧ ∀ child ∈ children, fs.medium.Permits .next (child.1 :: dir) ∧
        fs.medium.Permits .kind (child.1 :: dir) := by
  induction children generalizing entries with
  | nil => simp
  | cons child rest ih =>
    cases entries with
    | nil => simp
    | cons shown others =>
      rw [List.map_cons, List.map_cons, List.cons.injEq, ih, showEntry_eq_whole_iff,
        List.cons.injEq, List.forall_mem_cons]
      exact and_and_and_comm

theorem lists_iff : fs.Lists path entries ↔
    ∃ dir, fs.find path = .ok (dir, .directory) ∧ entries = fs.children dir ∧ fs.Legible dir := by
  unfold Lists readDir Legible
  cases fs.find path with
  | error e => simp
  | ok target =>
    obtain ⟨dir, entry⟩ := target
    cases entry with
    | directory =>
      simp only [Medium.permit_eq_ok_iff, map_showEntry_eq_iff, Except.ok.injEq, Prod.mk.injEq,
        and_true, exists_eq_left']
      exact and_left_comm
    | file | link | device => simp

end Lists

end FileSystem

namespace Discovery

open FileSystem (DirEntry)

-- Why an entry of a listing cannot be read: it is not shown, or its kind is not told.
def unread? : Except IoError DirEntry → Option IoError
  | .error e => some e
  | .ok item =>
    match item.kind with
    | .error e => some e
    | .ok _ => none

section Scan

variable {items : List (Except IoError DirEntry)} {entries : List (Name × Entry)}

theorem scan_cases (item : Except IoError DirEntry) (rest : List (Except IoError DirEntry)) :
    (∃ e, unread? item = some e ∧ scan (item :: rest) = ([], some e)) ∨
    ∃ child, unread? item = none ∧ item = DirEntry.whole child ∧
      scan (item :: rest) = (child :: (scan rest).1, (scan rest).2) := by
  cases item with
  | error e => exact .inl ⟨e, rfl, rfl⟩
  | ok item =>
    obtain ⟨name, kind⟩ := item
    cases kind with
    | error e => exact .inl ⟨e, rfl, rfl⟩
    | ok entry => exact .inr ⟨(name, entry), rfl, rfl, rfl⟩

theorem scan_broken (items : List (Except IoError DirEntry)) :
    (scan items).2 = items.findSome? unread? := by
  induction items with
  | nil => rfl
  | cons item rest ih =>
    rcases scan_cases item rest with ⟨e, unread, scanned⟩ | ⟨child, read, -, scanned⟩
    · rw [scanned, List.findSome?_cons, unread]
    · rw [scanned, List.findSome?_cons, read, ih]

theorem scan_eq_iff : scan items = (entries, none) ↔ items = entries.map DirEntry.whole := by
  induction items generalizing entries with
  | nil => cases entries <;> simp [scan]
  | cons item rest ih =>
    rcases scan_cases item rest with ⟨e, unread, scanned⟩ | ⟨child, -, rfl, scanned⟩
    · rw [scanned]
      constructor
      · intro never
        cases never
      · intro whole
        cases entries with
        | nil => cases whole
        | cons shown others =>
          rw [List.map_cons, List.cons.injEq] at whole
          rw [whole.1] at unread
          cases unread
    · have injective (shown : Name × Entry) : DirEntry.whole child = DirEntry.whole shown ↔
          child = shown := by simp [DirEntry.whole, Prod.ext_iff]
      rw [scanned]
      cases entries with
      | nil => simp
      | cons shown others =>
        rw [List.map_cons, List.cons.injEq, injective, ← @ih others, Prod.mk.injEq,
          List.cons.injEq, and_assoc, @Prod.ext_iff _ _ (scan rest)]

end Scan

end Discovery

end GroupRunner
