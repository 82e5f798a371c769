import GroupRunner.Proofs.Json.Writing
import GroupRunner.Proofs.Time.Rounding

set_option autoImplicit false

namespace GroupRunner

def numberOf? (text : String) : Option ℚ :=
  match Json.number? text.toList with
  | some (.number mantissa exponent) => some (mantissa * 10 ^ exponent)
  | _ => none

theorem numberOf?_writeThousandths (n : Nat) :
    numberOf? (writeThousandths n) = some ((n : ℚ) / 1000) := by
  have chars : (writeThousandths n).toList =
      Nat.toDigits 10 (n / 1000) ++ '.' :: (padZeros 3 (n % 1000)).toList := by
    rw [writeThousandths, String.toList_append, String.toList_append, toList_padZeros_one,
      List.append_assoc]
    rfl
  have bound : n % 1000 < 10 ^ 3 := Nat.mod_lt n (by decide)
  have places : (padZeros 3 (n % 1000)).toList.length = 3 := length_padZeros (by decide) bound
  have fraction : Json.fraction? ('.' :: (padZeros 3 (n % 1000)).toList) =
      some ((padZeros 3 (n % 1000)).toList, []) := by
    apply Json.fraction?_of_digits _ fun _ => isDigit_of_mem_padZeros
    rw [← List.length_pos_iff, places]
    decide
  have whole : Nat.ofDigitChars 10
      (Nat.toDigits 10 (n / 1000) ++ (padZeros 3 (n % 1000)).toList) 0 = n := by
    rw [Nat.ofDigitChars_append, Nat.ofDigitChars_ten_toDigits,
      ofDigitChars_padZeros (by decide) bound]
    exact Nat.div_add_mod n 1000
  rw [numberOf?, chars, Json.number?_of_signed (Json.signed_toDigits _ _) rfl fraction, whole, places]
  norm_num [div_eq_mul_inv]

namespace Duration

def exact (d : Duration) : ℚ :=
  d.total / 1000000000

def written (d : Duration) : ℚ :=
  d.thousandths / 1000

theorem numberOf?_inSeconds (d : Duration) : numberOf? d.inSeconds = some d.written :=
  numberOf?_writeThousandths d.thousandths

section Order

open Binary64

variable {seconds : Nat}

theorem held_seconds (fits : seconds ≤ 2 ^ 53) : Held (seconds * one) := by
  obtain ⟨scale, unit⟩ := exists_one_eq
  rw [unit, Nat.mul_comm]
  exact held_pow_mul fits

theorem round_seconds_correct (seconds : Nat) :
    RoundsTo (seconds * one : Nat) (round seconds 1) := by
  have rounds := @round_correct seconds 1 Nat.one_pos
  rwa [Nat.cast_one, div_one, ← Nat.cast_mul] at rounds

theorem round_seconds (fits : seconds ≤ 2 ^ 53) : round seconds 1 = seconds * one :=
  (round_seconds_correct seconds).eq (held_seconds fits)

theorem round_nanos_lt (d : Duration) : round d.nanos 1000000000 < one := by
  have longest : round 999999999 1000000000 < one := by decide +kernel
  apply Nat.lt_of_le_of_lt _ longest
  exact round_mono (by decide) (Nat.le_of_lt_succ d.nanos_lt)

theorem binarySeconds_of_long {d : Duration} (long : 2 ^ 53 ≤ d.seconds.toNat) :
    d.binarySeconds = round d.seconds.toNat 1 := by
  have rounds := round_seconds_correct d.seconds.toNat
  have reached : 2 ^ 53 * one ≤ round d.seconds.toNat 1 := by
    apply rounds.ge (held_seconds (Nat.le_refl _))
    exact_mod_cast Nat.mul_le_mul_right one long
  have wide : 2 * one ≤ spacing (round d.seconds.toNat 1) := by
    have least : spacing (2 ^ 53 * one) = 2 * one := by decide +kernel
    rw [← least]
    exact Nat.le_of_dvd (spacing_pos _) (spacing_dvd_spacing reached)
  apply add_of_small rounds.held
  have part := round_nanos_lt d
  omega

theorem binarySeconds_correct (d : Duration) :
    RoundsTo (round d.seconds.toNat 1 + round d.nanos 1000000000) d.binarySeconds :=
  add_correct _ _

theorem binarySeconds_mono {first second : Duration} (ordered : first.total ≤ second.total) :
    first.binarySeconds ≤ second.binarySeconds := by
  have part := first.nanos_lt
  have part' := second.nanos_lt
  unfold total at ordered
  rcases Nat.lt_trichotomy first.seconds.toNat second.seconds.toNat with less | same | more
  next =>
    have whole : round second.seconds.toNat 1 ≤ second.binarySeconds :=
      le_add (round_seconds_correct _).held _
    apply Nat.le_trans _ whole
    by_cases long : 2 ^ 53 ≤ first.seconds.toNat
    next =>
      rw [binarySeconds_of_long long]
      exact round_mono Nat.one_pos less.le
    next =>
      -- The second that begins next is exact, and no sum is rounded beyond it.
      apply first.binarySeconds_correct.le (round_seconds_correct _).held
      have next : (first.seconds.toNat + 1) * one ≤ round second.seconds.toNat 1 := by
        rw [← round_seconds (by omega)]
        exact round_mono Nat.one_pos less
      have part := round_nanos_lt first
      rw [round_seconds (by omega)]
      rw [Nat.add_one_mul] at next
      have sum : first.seconds.toNat * one + round first.nanos 1000000000 ≤
          round second.seconds.toNat 1 := by omega
      exact_mod_cast sum
  next =>
    have ordered : first.nanos ≤ second.nanos := by omega
    have parts := @round_mono _ _ 1000000000 (by decide) ordered
    unfold binarySeconds add
    rw [same]
    exact round_mono one_pos (Nat.add_le_add_left parts _)
  next => omega

theorem thousandths_mono {first second : Duration} (ordered : first.total ≤ second.total) :
    first.thousandths ≤ second.thousandths :=
  roundHalfEven_mono one_pos (Nat.mul_le_mul_right 1000 (binarySeconds_mono ordered))

end Order

section Accuracy

open Binary64

variable {d : Duration}

theorem exact_mul_one (d : Duration) :
    d.exact * one = d.seconds.toNat * one + d.nanos * one / 1000000000 := by
  rw [exact, total]
  push_cast
  ring

theorem binarySeconds_error (short : d.seconds.toNat < 2 ^ 24) :
    |(d.binarySeconds : ℚ) / one - d.exact| ≤ 1 / 2 ^ 30 + 1 / 2 ^ 54 := by
  have unit : (0 : ℚ) < one := by exact_mod_cast one_pos
  have whole : round d.seconds.toNat 1 = d.seconds.toNat * one := round_seconds (by omega)
  have part : |(round d.nanos 1000000000 : ℚ) - d.nanos * one / 1000000000| ≤ one / 2 ^ 54 := by
    have error := @round_error_le d.nanos 1000000000 0 (by decide) (by simpa using d.nanos_lt)
    rwa [pow_zero, one_mul] at error
  have below : round d.seconds.toNat 1 + round d.nanos 1000000000 < 2 ^ 24 * one := by
    have seconds := Nat.mul_le_mul_right one short
    have nanos := round_nanos_lt d
    rw [Nat.succ_mul] at seconds
    omega
  have sum : |(d.binarySeconds : ℚ) - (round d.seconds.toNat 1 + round d.nanos 1000000000)| ≤
      2 ^ 24 * one / 2 ^ 54 := add_error_le below
  rw [whole, Nat.cast_mul] at sum
  have scaled : (d.binarySeconds : ℚ) / one - d.exact = (d.binarySeconds - d.exact * one) / one := by
    rw [sub_div, mul_div_cancel_right₀ _ unit.ne']
  rw [scaled, abs_div, abs_of_pos unit, div_le_iff₀ unit, exact_mul_one]
  calc
    |(d.binarySeconds : ℚ) - (d.seconds.toNat * one + d.nanos * one / 1000000000)| ≤
        |(d.binarySeconds : ℚ) - (d.seconds.toNat * one + round d.nanos 1000000000)| +
          |(d.seconds.toNat * one + round d.nanos 1000000000 : ℚ) -
            (d.seconds.toNat * one + d.nanos * one / 1000000000)| := abs_sub_le _ _ _
    _ ≤ 2 ^ 24 * one / 2 ^ 54 + one / 2 ^ 54 := by
      rw [add_sub_add_left_eq_sub]
      exact add_le_add sum part
    _ = (1 / 2 ^ 30 + 1 / 2 ^ 54) * one := by ring

-- Durations are whole nanoseconds, and so are the middles between the thousandths: an error of less
-- than a nanosecond more is none.
theorem error_le_of_lt {thousandths nanos : Nat}
    (near : |(thousandths : ℚ) / 1000 - nanos / 1000000000| < 1 / 2000 + 1 / 1000000000) :
    |(thousandths : ℚ) / 1000 - nanos / 1000000000| ≤ 1 / 2000 := by
  obtain ⟨k, scaled⟩ : ∃ k : Int, (thousandths : ℚ) / 1000 - nanos / 1000000000 = k / 1000000000 := by
    refine ⟨1000000 * thousandths - nanos, ?_⟩
    push_cast
    ring
  have size : (0 : ℚ) < 1000000000 := by norm_num
  rw [scaled, abs_div, abs_of_pos size] at near ⊢
  have less : |(k : ℚ)| < 500001 := by linarith
  have less : |k| < 500001 := by exact_mod_cast less
  have within : |(k : ℚ)| ≤ 500000 := by exact_mod_cast Int.le_of_lt_add_one less
  linarith

theorem written_error (short : d.seconds.toNat < 2 ^ 24) : |d.written - d.exact| ≤ 1 / 2000 := by
  have places : |(d.thousandths : ℚ) - (d.binarySeconds * 1000 : Nat) / one| ≤ 1 / 2 :=
    roundHalfEven_error one_pos
  have rounded : |d.written - d.binarySeconds / one| ≤ 1 / 2000 := by
    have scaled : d.written - d.binarySeconds / one =
        (d.thousandths - (d.binarySeconds * 1000 : Nat) / one) / 1000 := by
      rw [written]
      push_cast
      ring
    rw [scaled, abs_div, abs_of_pos (by norm_num : (0 : ℚ) < 1000)]
    linarith
  have held := binarySeconds_error short
  apply error_le_of_lt
  calc
    |d.written - d.exact| ≤ |d.written - d.binarySeconds / one| +
        |(d.binarySeconds : ℚ) / one - d.exact| := abs_sub_le _ _ _
    _ ≤ 1 / 2000 + (1 / 2 ^ 30 + 1 / 2 ^ 54) := add_le_add rounded held
    _ < 1 / 2000 + 1 / 1000000000 := by norm_num

theorem written_nearest (short : d.seconds.toNat < 2 ^ 24)
    (uneven : ∀ m : Int, d.exact ≠ (m + 1 / 2) / 1000) {m : Int} (other : m / 1000 ≠ d.written) :
    |d.written - d.exact| < |m / 1000 - d.exact| := by
  have error := written_error short
  have apart : (1 : ℚ) / 1000 ≤ |m / 1000 - d.written| := by
    have different : m ≠ (d.thousandths : Int) := by
      rintro rfl
      exact other (by rw [written, Int.cast_natCast])
    rw [written, ← sub_div, abs_div, abs_of_pos (by norm_num : (0 : ℚ) < 1000)]
    have step := one_le_abs_sub different
    rw [Int.cast_natCast] at step
    linarith
  have half : |d.written - d.exact| ≠ 1 / 2000 := by
    intro half
    rcases (abs_eq (by norm_num)).1 half with above | below
    next =>
      apply uneven (d.thousandths - 1)
      rw [written] at above
      push_cast
      linarith
    next =>
      apply uneven d.thousandths
      rw [written] at below
      push_cast
      linarith
  have less := lt_of_le_of_ne error half
  have detour := abs_sub_le (m / 1000 : ℚ) d.exact d.written
  rw [abs_sub_comm d.exact] at detour
  linarith

theorem seconds_lt (short : d.exact < 2 ^ 24) : d.seconds.toNat < 2 ^ 24 := by
  rw [exact, div_lt_iff₀ (by norm_num)] at short
  have short : d.total < 2 ^ 24 * 1000000000 := by exact_mod_cast short
  unfold total at short
  omega

end Accuracy

theorem total_le {first second : Duration} (ordered : first.exact ≤ second.exact) :
    first.total ≤ second.total := by
  rw [exact, exact, div_le_div_iff_of_pos_right (by norm_num)] at ordered
  exact_mod_cast ordered

theorem inSeconds_ordered_near (first second : Duration) :
    ∃ printed printed' : ℚ,
      numberOf? first.inSeconds = some printed ∧ numberOf? second.inSeconds = some printed' ∧
        (first.exact ≤ second.exact → printed ≤ printed') ∧
        (first.exact < 2 ^ 24 →
          |printed - first.exact| ≤ 1 / 2000 ∧
            ((∀ m : Int, first.exact ≠ (m + 1 / 2) / 1000) →
              ∀ m : Int, m / 1000 ≠ printed →
                |printed - first.exact| < |m / 1000 - first.exact|)) := by
  refine ⟨first.written, second.written, numberOf?_inSeconds first, numberOf?_inSeconds second, ?_, ?_⟩
  next =>
    intro ordered
    have thousandths : (first.thousandths : ℚ) ≤ second.thousandths := by
      exact_mod_cast thousandths_mono (total_le ordered)
    exact div_le_div_of_nonneg_right thousandths (by norm_num)
  next =>
    intro short
    have short := seconds_lt short
    exact ⟨written_error short, fun uneven _ other => written_nearest short uneven other⟩

end Duration

namespace Sample

def shy : Duration := { seconds := 16777215, nanos := 999499999 }

def past : Duration := { seconds := 16777215, nanos := 999500001 }

theorem shy_uneven (m : Int) : shy.exact ≠ (m + 1 / 2) / 1000 := by
  intro same
  have total : shy.exact = 16777215999499999 / 1000000000 := by decide +kernel
  rw [total] at same
  have nanos : (1000000 * m + 500000 : ℚ) = 16777215999499999 := by linarith
  have nanos : 1000000 * m + 500000 = 16777215999499999 := by exact_mod_cast nanos
  omega

end Sample

theorem shy_inSeconds_ordered_near :
    Sample.shy.inSeconds = "16777215.999" ∧ Sample.past.inSeconds = "16777216.000" ∧
      ∃ printed printed' : ℚ,
        numberOf? Sample.shy.inSeconds = some printed ∧
        numberOf? Sample.past.inSeconds = some printed' ∧ printed ≤ printed' ∧
        |printed - Sample.shy.exact| ≤ 1 / 2000 ∧
        ∀ m : Int, m / 1000 ≠ printed →
          |printed - Sample.shy.exact| < |m / 1000 - Sample.shy.exact| := by
  have ordered : Sample.shy.exact ≤ Sample.past.exact := by decide +kernel
  have short : Sample.shy.exact < 2 ^ 24 := by decide +kernel
  obtain ⟨printed, printed', reads, reads', later, near⟩ :=
    Duration.inSeconds_ordered_near Sample.shy Sample.past
  have near := near short
  exact ⟨by decide +kernel, by decide +kernel, printed, printed', reads, reads', later ordered,
    near.1, near.2 Sample.shy_uneven⟩

end GroupRunner
