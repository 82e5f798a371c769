import GroupRunner.Execution
import GroupRunner.Proofs.Capture

set_option autoImplicit false

namespace GroupRunner

namespace FileSystem

def Slight (fs : FileSystem) (threshold : Nat) (path : Path) : Prop :=
  fs.find path = .error .noEntry ∨ ∃ bytes, fs.size path = .ok bytes ∧ bytes ≤ threshold

-- The path leads to something, and what stands under its name cannot be taken away.
def Stuck (fs : FileSystem) (path : Path) : Prop :=
  (∃ found, fs.find path = .ok found) ∧ ∃ cause, fs.removeFile path = .error cause

def Trifling (fs : FileSystem) (threshold : Nat) (path : Path) : Prop :=
  fs.Slight threshold path ∧ ¬ fs.Stuck path

section Slight

variable {fs after : FileSystem} {threshold : Nat} {path : Path} {name : Name}
variable {place : Location} {entry : Entry}

theorem slight_of_find (found : fs.find path = .ok (place, entry))
    (few : fs.medium.size place entry ≤ threshold) : fs.Slight threshold path :=
  .inr ⟨_, by rw [size, found], few⟩

theorem not_stuck_of_missing (missing : fs.find path = .error .noEntry) : ¬ fs.Stuck path := by
  rintro ⟨⟨found, there⟩, -⟩
  rw [missing] at there
  cases there

theorem Slight.thinned (slight : fs.Slight threshold path) (thins : Thins fs after) :
    after.Slight threshold path := by
  rcases slight with missing | ⟨bytes, sized, few⟩
  · exact .inl (thins.find_missing missing)
  · obtain ⟨place, entry, found, rfl⟩ := find_of_size sized
    rcases thins.find found with same | gone
    · refine slight_of_find same ?_
      rwa [thins.medium]
    · exact .inl gone

theorem stuck_iff (proper : ProperName name) : fs.Stuck (path.join ⟨name⟩) ↔
    (∃ found, fs.find (path.join ⟨name⟩) = .ok found) ∧
      ∃ own mine, fs.findItself (path.join ⟨name⟩) = .ok (own, mine) ∧
        (mine = .directory ∨ ¬ fs.medium.Permits .remove own) := by
  apply and_congr_right
  rintro ⟨⟨place, entry⟩, found⟩
  obtain ⟨own, mine, itself, -⟩ := findItself_of_find proper found
  rw [removeFile_of_findItself proper itself, itself]
  constructor
  · rintro ⟨cause, refused⟩
    refine ⟨own, mine, rfl, or_iff_not_imp_left.2 fun other permits => ?_⟩
    rw [if_neg other, Medium.permit_of_permits permits] at refused
    cases refused
  · rintro ⟨_, _, ⟨⟩, directory | refused⟩
    · exact ⟨.isDirectory, if_pos directory⟩
    · by_cases directory : mine = .directory
      · exact ⟨.isDirectory, if_pos directory⟩
      · rw [if_neg directory]
        exact Medium.permit_of_not_permits refused

theorem slight_of_emptied (found : fs.find path = .ok (place, entry))
    (empty : entry.isEmptied = true) : fs.Slight threshold path := by
  refine slight_of_find found ?_
  rw [Entry.size_of_isEmptied empty]
  exact Nat.zero_le _

theorem not_stuck_of_emptied (proper : ProperName name)
    (found : fs.find (path.join ⟨name⟩) = .ok (place, entry)) (empty : entry.isEmptied = true)
    (permits : ∀ place, fs.medium.Permits .remove place) : ¬ fs.Stuck (path.join ⟨name⟩) := by
  rw [stuck_iff proper]
  rintro ⟨-, own, mine, itself, directory | refused⟩
  · obtain ⟨own', mine', itself', kind⟩ := findItself_of_find proper found
    rw [itself, Except.ok.injEq, Prod.mk.injEq, directory] at itself'
    obtain ⟨-, rfl⟩ := itself'
    rcases kind with rfl | ⟨target, link⟩
    · cases empty
    · cases link
  · exact refused (permits own)

end Slight

end FileSystem

namespace Execution

variable {fs : FileSystem} {threshold : Nat} {path : Path}

theorem keptPath_cases (shown : Path) (outcome : Except IoError Pruned) :
    keptPath shown outcome = none ∨ keptPath shown outcome = some shown := by
  cases outcome with
  | error e => exact .inr rfl
  | ok pruned => cases pruned <;> simp [keptPath, Pruned.isKept]

theorem keptPath_eq_none_iff {shown : Path} :
    keptPath shown (Capture.prune path threshold fs).1 = none ↔ fs.Trifling threshold path := by
  obtain ⟨outcome, ran, prunes⟩ := Capture.exists_prunes path threshold fs
  rw [ran]
  cases prunes with
  | kept found large =>
    have many := Nat.not_le.2 large
    simp [keptPath, Pruned.isKept, FileSystem.Trifling, FileSystem.Slight, FileSystem.size, found,
      many]
  | absent missing =>
    simp only [keptPath, Pruned.isKept, Bool.false_eq_true, if_false, true_iff]
    exact ⟨.inl missing, FileSystem.not_stuck_of_missing missing⟩
  | removed found small removed =>
    simp only [keptPath, Pruned.isKept, Bool.false_eq_true, if_false, true_iff]
    refine ⟨FileSystem.slight_of_find found small, ?_⟩
    rintro ⟨-, cause, refused⟩
    rw [removed] at refused
    cases refused
  | unseen refused other =>
    simp [keptPath, FileSystem.Trifling, FileSystem.Slight, FileSystem.size, refused, other]
  | stuck found small refused =>
    simp only [keptPath, reduceCtorEq, false_iff]
    exact fun trifling => trifling.2 ⟨⟨_, found⟩, _, refused⟩

theorem prune_kept (shown : Path) (kept : ¬ fs.Trifling threshold path) :
    (Capture.prune path threshold fs).2 = fs ∧
      keptPath shown (Capture.prune path threshold fs).1 = some shown := by
  have told : keptPath shown (Capture.prune path threshold fs).1 = some shown :=
    (keptPath_cases shown _).resolve_left fun gone => kept (keptPath_eq_none_iff.1 gone)
  refine ⟨?_, told⟩
  obtain ⟨outcome, ran, prunes⟩ := Capture.exists_prunes path threshold fs
  rw [ran] at told ⊢
  cases prunes with
  | kept | absent | unseen | stuck => rfl
  | removed => cases told

end Execution

end GroupRunner
