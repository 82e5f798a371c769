import GroupRunner.Discovery
import GroupRunner.Proofs.Path

set_option autoImplicit false

namespace GroupRunner

namespace Path

structure IsStep (piece : Name) : Prop where
  nonempty : piece ≠ []
  notDot : piece ≠ dot
  noSlash : slash ∉ piece

instance (piece : Name) : Decidable (IsStep piece) :=
  decidable_of_iff (piece ≠ [] ∧ piece ≠ dot ∧ slash ∉ piece)
    ⟨fun ⟨a, b, c⟩ => ⟨a, b, c⟩, fun ⟨a, b, c⟩ => ⟨a, b, c⟩⟩

def Idle (part : Bytes) : Prop :=
  part = [slash] ∨ part = slash :: dot

instance (part : Bytes) : Decidable (Idle part) :=
  inferInstanceAs (Decidable (part = [slash] ∨ part = slash :: dot))

theorem countedPieces_step {piece : Name} (step : IsStep piece) : countedPieces piece = [piece] := by
  rw [countedPieces_noSlash step.noSlash, if_pos (counts_iff.2 ⟨step.nonempty, step.notDot⟩)]

theorem countedPieces_append_idle {part : Bytes} (idle : Idle part) (bytes : Bytes) :
    countedPieces (bytes ++ part) = countedPieces bytes := by
  cases idle with
  | inl closed =>
    rw [closed, countedPieces_append_slash]
    exact List.append_nil _
  | inr stays =>
    rw [stays, countedPieces_append_slash]
    exact List.append_nil _

theorem countedPieces_append_flatten {parts : List Bytes} (idle : ∀ part ∈ parts, Idle part)
    (bytes : Bytes) : countedPieces (bytes ++ parts.flatten) = countedPieces bytes := by
  induction parts generalizing bytes with
  | nil => rw [List.flatten_nil, List.append_nil]
  | cons part rest ih =>
    rw [List.forall_mem_cons] at idle
    rw [List.flatten_cons, ← List.append_assoc, ih idle.2, countedPieces_append_idle idle.1]

end Path

open GroupRunner.Path

theorem ensureTestsDirectory_ok_iff (bytes : Bytes) : ensureTestsDirectory ⟨bytes⟩ = .ok () ↔
    (countedPieces bytes).getLast? = some (Utf8.encode "tests") := by
  have notDots : Utf8.encode testsDirectoryName ≠ dots := by decide +kernel
  change _ ↔ _ = some (Utf8.encode testsDirectoryName)
  rw [← fileName_eq_some_iff notDots, ensureTestsDirectory]
  split
  next named => exact iff_of_true rfl named
  next other => exact iff_of_false (by simp) other

theorem ensureTestsDirectory_exact (bytes : Bytes) :
    (ensureTestsDirectory ⟨bytes⟩ = .ok () ↔
      (countedPieces bytes).getLast? = some (Utf8.encode "tests")) ∧
    (ensureTestsDirectory ⟨bytes⟩ ≠ .ok () →
      ∃ reason, ensureTestsDirectory ⟨bytes⟩ = .error (.precondition reason)) ∧
    (∀ parts : List Bytes, (∀ part ∈ parts, Idle part) →
      (ensureTestsDirectory ⟨bytes ++ parts.flatten⟩ = .ok () ↔
        ensureTestsDirectory ⟨bytes⟩ = .ok ())) ∧
    (∀ step, IsStep step → (ensureTestsDirectory ⟨bytes ++ slash :: step⟩ = .ok () ↔
      step = Utf8.encode "tests")) ∧
    ∀ step, IsStep step → (ensureTestsDirectory ⟨step⟩ = .ok () ↔ step = Utf8.encode "tests") := by
  refine ⟨ensureTestsDirectory_ok_iff bytes, fun refused => ?_, fun parts idle => ?_,
    fun step isStep => ?_, fun step isStep => ?_⟩
  · rw [ensureTestsDirectory] at refused ⊢
    split
    next named => exact absurd (if_pos named) refused
    next => exact ⟨_, rfl⟩
  · rw [ensureTestsDirectory_ok_iff, ensureTestsDirectory_ok_iff, countedPieces_append_flatten idle]
  · rw [ensureTestsDirectory_ok_iff, countedPieces_append_slash, countedPieces_step isStep,
      List.getLast?_concat, Option.some_inj]
  · rw [ensureTestsDirectory_ok_iff, countedPieces_step isStep, List.getLast?_singleton,
      Option.some_inj]

-- A name that is no text and a step up stand before the last step.
theorem odd_ensureTestsDirectory :
    let odd : Bytes := [0xFF] ++ Utf8.encode "/../tests"
    ensureTestsDirectory ⟨odd⟩ = .ok () ∧
      ensureTestsDirectory ⟨odd ++ Utf8.encode "/.//"⟩ = .ok () ∧
      (∃ reason, ensureTestsDirectory ⟨odd ++ Utf8.encode "/.."⟩ =
        .error (.precondition reason)) := by
  intro odd
  have accepted : ensureTestsDirectory ⟨odd⟩ = .ok () := by
    obtain ⟨-, -, -, last, -⟩ := ensureTestsDirectory_exact [0xFF, 0x2F, 0x2E, 0x2E]
    exact (last (Utf8.encode "tests") (by decide +kernel)).2 rfl
  obtain ⟨-, -, idle, last, -⟩ := ensureTestsDirectory_exact odd
  have upwards : ensureTestsDirectory ⟨odd ++ slash :: dots⟩ ≠ .ok () :=
    fun never => absurd ((last dots (by decide +kernel)).1 never) (by decide +kernel)
  refine ⟨accepted, ?_, ?_⟩
  · exact (idle [slash :: dot, [slash], [slash]] (by decide +kernel)).2 accepted
  · exact (ensureTestsDirectory_exact (odd ++ slash :: dots)).2.1 upwards

end GroupRunner
