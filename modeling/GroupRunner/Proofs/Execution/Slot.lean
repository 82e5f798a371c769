import GroupRunner.Execution
import GroupRunner.Proofs.FileSystem.Directory

set_option autoImplicit false

namespace GroupRunner

namespace Slot

def opened (tooLong : Bool) (slot : Slot) : Except IoError Slot :=
  if tooLong then .error .nameTooLong
  else match slot with
    | none => .ok (some (.file [] false))
    | some (.file _ executable) => .ok (some (.file [] executable))
    | some (.device kind) => .ok (some (.device kind))
    | some .directory => .error .isDirectory
    | some (.link _) => .error .tooManyLinks

def written (bytes : Bytes) : Slot → Slot
  | some (.file content executable) =>
    some (.file (FileSystem.overwrite content 0 bytes) executable)
  | slot => slot

def pruned (medium : Medium) (place : Location) (tooLong : Bool) (threshold : Nat) (slot : Slot) :
    Except IoError Pruned × Slot :=
  if tooLong then (.error .nameTooLong, slot)
  else match slot with
    | none => (.ok .absent, none)
    | some entry =>
      if medium.size place entry ≤ threshold then
        if entry = .directory then (.error .isDirectory, slot)
        else match medium.refusal .remove place with
          | none => (.ok (.removed (medium.size place entry)), none)
          | some e => (.error e, slot)
      else (.ok (.kept (medium.size place entry)), slot)

-- Whether a capture is still there after it was pruned, or could not be looked at.
def stays (medium : Medium) (place : Location) (tooLong : Bool) (threshold : Nat) : Slot → Bool
  | none => tooLong
  | some entry =>
    tooLong || decide (threshold < medium.size place entry) || decide (entry = .directory) ||
      (medium.refusal .remove place).isSome

def text (tooLong : Bool) (slot : Slot) : Except IoError String :=
  if tooLong then .error .nameTooLong
  else match slot with
    | none => .error .noEntry
    | some (.file content _) => .ok (Utf8.lossy content)
    | some (.device _) => .ok (Utf8.lossy [])
    | some .directory => .error .isDirectory
    | some (.link _) => .error .tooManyLinks

def NoLink (tooLong : Bool) (slot : Slot) : Prop :=
  tooLong = true ∨ ∀ target, slot ≠ some (.link target)

theorem noLink_of_settles {tooLong : Bool} {before after : Slot} (settles : Settles before after)
    (noLink : NoLink tooLong before) : NoLink tooLong after := by
  rcases settles with rfl | ⟨-, plain⟩
  · exact noLink
  · right
    rintro target rfl
    exact absurd (plain _ rfl) (by simp [Entry.isWay])

theorem settles_opened {tooLong : Bool} {slot after : Slot}
    (success : opened tooLong slot = .ok after) : Settles slot after := by
  unfold opened at success
  cases tooLong with
  | true => cases success
  | false =>
    simp only [Bool.false_eq_true, if_false] at success
    split at success <;> cases success <;> simp [Settles, Entry.isWay]

theorem isSome_of_opened {tooLong : Bool} {slot after : Slot}
    (success : opened tooLong slot = .ok after) : after.isSome = true := by
  unfold opened at success
  cases tooLong with
  | true => cases success
  | false =>
    simp only [Bool.false_eq_true, if_false] at success
    split at success <;> cases success <;> rfl

theorem settles_written (bytes : Bytes) (slot : Slot) : Settles slot (slot.written bytes) := by
  unfold written
  split <;> simp [Settles, Entry.isWay]

theorem written_nil (slot : Slot) : slot.written [] = slot := by
  unfold written
  split <;> simp [FileSystem.overwrite]

section Pruned

variable {medium : Medium} {place : Location} {tooLong : Bool} {threshold low high : Nat}
variable {slot : Slot}

theorem pruned_stays :
    (∀ path, Execution.keptPath path (slot.pruned medium place tooLong threshold).1 =
      if slot.stays medium place tooLong threshold then some path else none) ∧
    (slot.pruned medium place tooLong threshold).2 =
      if slot.stays medium place tooLong threshold then slot else none := by
  unfold pruned stays
  cases tooLong with
  | true => cases slot <;> exact ⟨fun _ => rfl, rfl⟩
  | false =>
    cases slot with
    | none => exact ⟨fun _ => rfl, rfl⟩
    | some entry =>
      by_cases small : medium.size place entry ≤ threshold
      · have few : ¬ threshold < medium.size place entry := Nat.not_lt.2 small
        by_cases directory : entry = .directory
        · subst directory
          simp [small, Execution.keptPath]
        · cases refused : medium.refusal .remove place <;>
            simp [small, few, directory, Execution.keptPath, Pruned.isKept]
      · have many : threshold < medium.size place entry := Nat.lt_of_not_le small
        simp [small, many, Execution.keptPath, Pruned.isKept]

theorem keptPath_pruned (path : Path) :
    Execution.keptPath path (slot.pruned medium place tooLong threshold).1 =
      if slot.stays medium place tooLong threshold then some path else none :=
  pruned_stays.1 path

theorem left_pruned : (slot.pruned medium place tooLong threshold).2 =
    if slot.stays medium place tooLong threshold then slot else none :=
  pruned_stays.2

theorem stays_of_le (le : low ≤ high) (kept : slot.stays medium place tooLong high = true) :
    slot.stays medium place tooLong low = true := by
  cases slot with
  | none => exact kept
  | some entry =>
    simp only [stays, Bool.or_eq_true, decide_eq_true_eq] at kept ⊢
    rcases kept with ((long | large) | directory) | refused
    · exact .inl (.inl (.inl long))
    · exact .inl (.inl (.inr (Nat.lt_of_le_of_lt le large)))
    · exact .inl (.inr directory)
    · exact .inr refused

theorem pruned_eq_or_none : (slot.pruned medium place tooLong threshold).2 = slot ∨
    (slot.pruned medium place tooLong threshold).2 = none := by
  rw [left_pruned]
  split
  · exact .inl rfl
  · exact .inr rfl

theorem settles_pruned (noLink : NoLink tooLong slot) :
    Settles slot (slot.pruned medium place tooLong threshold).2 := by
  rw [left_pruned]
  split
  next => exact .inl rfl
  next gone =>
    refine .inr ⟨fun entry held => ?_, by simp⟩
    cases held
    cases entry with
    | file content executable => rfl
    | device kind => rfl
    | directory => simp [stays] at gone
    | link target =>
      rcases noLink with rfl | noLink
      · simp [stays] at gone
      · exact absurd rfl (noLink target)

end Pruned

end Slot

namespace FileSystem

section Capture

variable {fs : FileSystem} {path : Path} {dir : Location} {name : Name}

theorem create_join (leads : fs.LeadsTo path dir) (proper : ProperName name)
    (noLink : Slot.NoLink (path.join ⟨name⟩).isTooLong (fs.get? (name :: dir))) :
    fs.create (path.join ⟨name⟩) =
      (Slot.opened (path.join ⟨name⟩).isTooLong (fs.get? (name :: dir))).map
        fun slot => (name :: dir, fs.set (name :: dir) slot) := by
  rw [create, leads.resolve_join proper (.inr noLink)]
  unfold Slot.opened
  cases (path.join ⟨name⟩).isTooLong with
  | true => rfl
  | false =>
    cases held : fs.get? (name :: dir) with
    | none => rfl
    | some entry =>
      cases entry with
      | file content executable => rfl
      | link target => rfl
      | directory => rfl
      | device kind =>
        simp only [Bool.false_eq_true, if_false, Except.map, Target.ofSlot, ← held, set_get?]

theorem find_join (leads : fs.LeadsTo path dir) (proper : ProperName name)
    (noLink : Slot.NoLink (path.join ⟨name⟩).isTooLong (fs.get? (name :: dir))) :
    fs.find (path.join ⟨name⟩) =
      if (path.join ⟨name⟩).isTooLong then .error .nameTooLong
      else match fs.get? (name :: dir) with
        | none => .error .noEntry
        | some entry => .ok (name :: dir, entry) := by
  rw [find, leads.resolve_join proper (.inr noLink)]
  cases (path.join ⟨name⟩).isTooLong with
  | true => rfl
  | false => cases fs.get? (name :: dir) <;> rfl

theorem prune_join (leads : fs.LeadsTo path dir) (proper : ProperName name)
    (noLink : Slot.NoLink (path.join ⟨name⟩).isTooLong (fs.get? (name :: dir))) (threshold : Nat) :
    Capture.prune (path.join ⟨name⟩) threshold fs =
      let (outcome, slot) := Slot.pruned fs.medium (name :: dir) (path.join ⟨name⟩).isTooLong
        threshold (fs.get? (name :: dir))
      (outcome, fs.set (name :: dir) slot) := by
  have different : IoError.nameTooLong ≠ .noEntry := by decide
  rw [Capture.prune, size, find_join leads proper noLink, removeFile, resolveName_join proper,
    leads.resolve_join proper (.inl rfl), Path.endsInSlash_join proper]
  unfold Slot.pruned Medium.permit
  cases long : (path.join ⟨name⟩).isTooLong with
  | true => simp [different, set_get?]
  | false =>
    cases held : fs.get? (name :: dir) with
    | none => simp [← held, set_get?]
    | some entry =>
      by_cases small : fs.medium.size (name :: dir) entry ≤ threshold
      · cases entry with
        | link target =>
          -- A link itself would be taken away, though its size is not looked at.
          rcases noLink with long' | noLink
          · rw [long] at long'
            cases long'
          · exact absurd held (noLink target)
        | directory => simp [small, Target.ofSlot, ← held, set_get?]
        | file | device =>
          cases refused : fs.medium.refusal .remove (name :: dir) with
          | none => simp [small, Target.ofSlot, set, refused]
          | some e => simp [small, Target.ofSlot, ← held, set_get?, refused]
      · simp [small, ← held, set_get?]

theorem read_join (leads : fs.LeadsTo path dir) (proper : ProperName name)
    (noLink : Slot.NoLink (path.join ⟨name⟩).isTooLong (fs.get? (name :: dir))) :
    Capture.read (path.join ⟨name⟩) fs =
      Slot.text (path.join ⟨name⟩).isTooLong (fs.get? (name :: dir)) := by
  rw [Capture.read, readFile, find_join leads proper noLink]
  unfold Slot.text
  cases (path.join ⟨name⟩).isTooLong with
  | true => rfl
  | false =>
    cases fs.get? (name :: dir) with
    | none => rfl
    | some entry => cases entry <;> rfl

end Capture

end FileSystem

end GroupRunner
