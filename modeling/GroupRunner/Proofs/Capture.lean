import GroupRunner.Capture
import GroupRunner.Proofs.FileSystem.Removal

set_option autoImplicit false

namespace GroupRunner

namespace Capture

inductive Prunes (path : Path) (threshold : Nat) (fs : FileSystem) :
    Except IoError Pruned × FileSystem → Prop
  | kept {place : Location} {entry : Entry} (found : fs.find path = .ok (place, entry))
      (large : threshold < fs.medium.size place entry) :
      Prunes path threshold fs (.ok (.kept (fs.medium.size place entry)), fs)
  | absent (missing : fs.find path = .error .noEntry) : Prunes path threshold fs (.ok .absent, fs)
  | removed {place : Location} {entry : Entry} {after : FileSystem}
      (found : fs.find path = .ok (place, entry)) (small : fs.medium.size place entry ≤ threshold)
      (removed : fs.removeFile path = .ok after) :
      Prunes path threshold fs (.ok (.removed (fs.medium.size place entry)), after)
  | unseen {cause : IoError} (refused : fs.find path = .error cause) (other : cause ≠ .noEntry) :
      Prunes path threshold fs (.error cause, fs)
  | stuck {place : Location} {entry : Entry} {cause : IoError}
      (found : fs.find path = .ok (place, entry)) (small : fs.medium.size place entry ≤ threshold)
      (refused : fs.removeFile path = .error cause) : Prunes path threshold fs (.error cause, fs)

def sift (path : Path) (threshold : Nat) (fs : FileSystem) :
    Except IoError (Option Path) × FileSystem :=
  let (outcome, after) := prune path threshold fs
  (outcome.map fun pruned => if pruned.isKept then some path else none, after)

section Prune

variable {path : Path} {threshold second : Nat} {fs : FileSystem}

theorem Prunes.eq {outcome : Except IoError Pruned × FileSystem}
    (prunes : Prunes path threshold fs outcome) : prune path threshold fs = outcome := by
  cases prunes with
  | kept found large => simp [prune, FileSystem.size, found, Nat.not_le.2 large]
  | absent missing => simp [prune, FileSystem.size, missing]
  | removed found small removed => simp [prune, FileSystem.size, found, small, removed]
  | unseen refused other => simp [prune, FileSystem.size, refused, other]
  | stuck found small refused => simp [prune, FileSystem.size, found, small, refused]

theorem exists_prunes (path : Path) (threshold : Nat) (fs : FileSystem) :
    ∃ outcome, prune path threshold fs = outcome ∧ Prunes path threshold fs outcome := by
  have ends {outcome : Except IoError Pruned × FileSystem}
      (prunes : Prunes path threshold fs outcome) :
      ∃ outcome, prune path threshold fs = outcome ∧ Prunes path threshold fs outcome :=
    ⟨outcome, prunes.eq, prunes⟩
  cases found : fs.find path with
  | error cause =>
    by_cases missing : cause = .noEntry
    · exact ends (.absent (missing ▸ found))
    · exact ends (.unseen found missing)
  | ok held =>
    by_cases small : fs.medium.size held.1 held.2 ≤ threshold
    · cases removed : fs.removeFile path with
      | error cause => exact ends (.stuck found small removed)
      | ok after => exact ends (.removed found small removed)
    · exact ends (.kept found (Nat.lt_of_not_le small))

theorem thins_prune (path : Path) (threshold : Nat) (fs : FileSystem) :
    FileSystem.Thins fs (prune path threshold fs).2 := by
  obtain ⟨outcome, ran, prunes⟩ := exists_prunes path threshold fs
  rw [ran]
  cases prunes with
  | kept | absent | unseen | stuck => exact .refl fs
  | removed found small removed =>
    obtain ⟨own, mine, itself, noDirectory, -, rfl⟩ := FileSystem.removeFile_eq_ok_iff.1 removed
    exact FileSystem.thins_of_findItself itself noDirectory

end Prune

section Sift

variable {path : Path} {threshold second : Nat} {fs : FileSystem}

theorem sift_eq {outcome : Except IoError Pruned × FileSystem}
    (prunes : Prunes path threshold fs outcome) : sift path threshold fs =
      (outcome.1.map fun pruned => if pruned.isKept then some path else none, outcome.2) := by
  rw [sift, prunes.eq]

theorem sift_kept_iff : (sift path threshold fs).1 = .ok (some path) ↔
    ∃ place entry, fs.find path = .ok (place, entry) ∧ threshold < fs.medium.size place entry := by
  constructor
  · intro answer
    obtain ⟨outcome, -, prunes⟩ := exists_prunes path threshold fs
    rw [sift_eq prunes] at answer
    cases prunes with
    | kept found large => exact ⟨_, _, found, large⟩
    | absent | removed | unseen | stuck => cases answer
  · rintro ⟨place, entry, found, large⟩
    rw [sift_eq (.kept found large)]
    rfl

theorem sift_none_iff : (sift path threshold fs).1 = .ok none ↔
    fs.find path = .error .noEntry ∨ ∃ place entry own mine,
      fs.find path = .ok (place, entry) ∧ fs.medium.size place entry ≤ threshold ∧
        fs.findItself path = .ok (own, mine) ∧ mine ≠ .directory ∧
        fs.medium.Permits .remove own := by
  constructor
  · intro answer
    obtain ⟨outcome, -, prunes⟩ := exists_prunes path threshold fs
    rw [sift_eq prunes] at answer
    cases prunes with
    | absent missing => exact .inl missing
    | removed found small removed =>
      obtain ⟨own, mine, itself, noDirectory, permits, -⟩ :=
        FileSystem.removeFile_eq_ok_iff.1 removed
      exact .inr ⟨_, _, own, mine, found, small, itself, noDirectory, permits⟩
    | kept | unseen | stuck => cases answer
  · rintro (missing | ⟨place, entry, own, mine, found, small, itself, noDirectory, permits⟩)
    · rw [sift_eq (.absent missing)]
      rfl
    · have removed :=
        FileSystem.removeFile_eq_ok_iff.2 ⟨own, mine, itself, noDirectory, permits, rfl⟩
      rw [sift_eq (.removed found small removed)]
      rfl

theorem sift_after : (sift path threshold fs).2 = fs ∨
    (sift path threshold fs).1 = .ok none ∧ ∃ own mine, fs.findItself path = .ok (own, mine) ∧
      mine ≠ .directory ∧ fs.medium.Permits .remove own ∧
        (sift path threshold fs).2 = fs.erase own := by
  obtain ⟨outcome, -, prunes⟩ := exists_prunes path threshold fs
  rw [sift_eq prunes]
  cases prunes with
  | kept | absent | unseen | stuck => exact .inl rfl
  | removed found small removed => exact .inr ⟨rfl, FileSystem.removeFile_eq_ok_iff.1 removed⟩

theorem find_sift (answer : (sift path threshold fs).1 = .ok none) :
    (sift path threshold fs).2.find path = .error .noEntry := by
  obtain ⟨outcome, -, prunes⟩ := exists_prunes path threshold fs
  rw [sift_eq prunes] at answer ⊢
  cases prunes with
  | absent missing => exact missing
  | removed found small removed => exact FileSystem.find_removed found removed
  | kept | unseen | stuck => cases answer

theorem sift_sift {kept : Option Path} (answer : (sift path threshold fs).1 = .ok kept) :
    sift path second (sift path threshold fs).2 = sift path (max threshold second) fs := by
  obtain ⟨outcome, -, prunes⟩ := exists_prunes path threshold fs
  rw [sift_eq prunes] at answer ⊢
  cases prunes with
  | @kept place entry found large =>
    by_cases more : second < fs.medium.size place entry
    · rw [sift_eq (.kept found more), sift_eq (.kept found (Nat.max_lt.2 ⟨large, more⟩))]
    · -- Only the second threshold decides.
      have small : fs.medium.size place entry ≤ second := Nat.le_of_not_lt more
      have small' : fs.medium.size place entry ≤ max threshold second :=
        Nat.le_trans small (Nat.le_max_right ..)
      cases removed : fs.removeFile path with
      | error cause =>
        rw [sift_eq (.stuck found small removed), sift_eq (.stuck found small' removed)]
      | ok after =>
        rw [sift_eq (.removed found small removed), sift_eq (.removed found small' removed)]
  | absent missing => rw [sift_eq (.absent missing), sift_eq (.absent missing)]
  | removed found small removed =>
    have small' := Nat.le_trans small (Nat.le_max_left threshold second)
    have missing := FileSystem.find_removed found removed
    rw [sift_eq (.absent missing), sift_eq (.removed found small' removed)]
    rfl
  | unseen | stuck => cases answer

theorem sift_again :
    sift path threshold (sift path threshold fs).2 = sift path threshold fs := by
  cases answer : (sift path threshold fs).1 with
  | ok kept => rw [sift_sift answer, Nat.max_self]
  | error cause =>
    rcases @sift_after path threshold fs with unchanged | ⟨nothing, -⟩
    · rw [unchanged]
    · rw [answer] at nothing
      cases nothing

end Sift

theorem sift_exact (path : Path) (threshold : Nat) (fs : FileSystem) :
    let answer := (sift path threshold fs).1
    let after := (sift path threshold fs).2
    (answer = .ok (some path) ↔
      ∃ place entry, fs.find path = .ok (place, entry) ∧ threshold < fs.medium.size place entry) ∧
    (answer = .ok (some path) → after = fs) ∧
    (answer = .ok none ↔ fs.find path = .error .noEntry ∨ ∃ place entry own mine,
      fs.find path = .ok (place, entry) ∧ fs.medium.size place entry ≤ threshold ∧
        fs.findItself path = .ok (own, mine) ∧ mine ≠ .directory ∧
        fs.medium.Permits .remove own) ∧
    (answer = .ok none → ∀ found, after.find path ≠ .ok found) ∧
    (∀ cause, answer = .error cause → after = fs) ∧
    after.cwd = fs.cwd ∧
    (∀ place, (∀ mine, fs.findItself path ≠ .ok (place, mine)) →
      after.get? place = fs.get? place) ∧
    (∀ own target place entry, fs.findItself path = .ok (own, .link target) →
      fs.find path = .ok (place, entry) → after.get? place = fs.get? place) ∧
    (∀ second kept, answer = .ok kept →
      sift path second after = sift path (max threshold second) fs) ∧
    sift path threshold after = (answer, after) := by
  intro answer after
  have same {other : Except IoError (Option Path)} (answered : answer = other)
      (settled : other ≠ .ok none) : after = fs := by
    rcases @sift_after path threshold fs with unchanged | ⟨nothing, -⟩
    · exact unchanged
    · exact absurd (answered.symm.trans nothing) settled
  have elsewhere (place : Location) (apart : ∀ mine, fs.findItself path ≠ .ok (place, mine)) :
      after.get? place = fs.get? place := by
    rcases @sift_after path threshold fs with unchanged | ⟨-, own, mine, itself, -, -, erased⟩
    · exact congrArg (·.get? place) unchanged
    · rw [show after = fs.erase own from erased]
      exact FileSystem.get?_erase_of_ne fun here => apart mine (here ▸ itself)
  refine ⟨sift_kept_iff, fun kept => same kept (by simp), sift_none_iff, fun answered found => ?_,
    fun cause failed => same failed (by simp), (thins_prune path threshold fs).cwd, elsewhere,
    fun own target place entry link found => ?_, fun second kept => sift_sift, sift_again⟩
  · exact fun never => nomatch never.symm.trans (find_sift answered)
  · refine elsewhere place fun mine itself => FileSystem.ne_of_findItself_link link found ?_
    rw [itself, Except.ok.injEq, Prod.mk.injEq] at link
    exact link.1

end Capture

namespace Sample

def shortcut : FileSystem :=
  (FileSystem.empty.put [Utf8.encode "notes"] (.file [0x6E] false)).put [Utf8.encode "out"]
    (.link (.ofString "notes"))

end Sample

theorem shortcut_sift_exact :
    let out := Path.ofString "/out"
    let after := (Capture.sift out 2 Sample.shortcut).2
    (∀ found, after.find out ≠ .ok found) ∧
      after.get? [Utf8.encode "notes"] = some (.file [0x6E] false) ∧
      Capture.sift out 0 after = Capture.sift out 2 Sample.shortcut := by
  intro out after
  obtain ⟨-, -, answered, missing, -, -, -, target, twice, -⟩ :=
    Capture.sift_exact out 2 Sample.shortcut
  have link : Sample.shortcut.findItself out =
      .ok ([Utf8.encode "out"], .link (.ofString "notes")) := rfl
  have found : Sample.shortcut.find out = .ok ([Utf8.encode "notes"], .file [0x6E] false) := rfl
  have gone : (Capture.sift out 2 Sample.shortcut).1 = .ok none :=
    answered.2 (.inr ⟨_, _, _, _, found, by decide, link, by simp, rfl⟩)
  have kept : Sample.shortcut.get? [Utf8.encode "notes"] = some (.file [0x6E] false) := by
    decide +kernel
  exact ⟨missing gone, (target _ _ _ _ link found).trans kept, twice 0 none gone⟩

end GroupRunner
