import GroupRunner.Time.Binary64
import Mathlib.Algebra.Order.Field.Basic
import Mathlib.Algebra.Order.Ring.Rat
import Mathlib.Algebra.Ring.Parity
import Mathlib.Data.Nat.Cast.Order.Field
import Mathlib.Data.Nat.Log
import Mathlib.Data.Rat.Cast.Order
import Mathlib.Tactic.FieldSimp
import Mathlib.Tactic.Linarith
import Mathlib.Tactic.LinearCombination
import Mathlib.Tactic.Ring

set_option autoImplicit false

namespace GroupRunner

theorem le_of_nearest {exact exact' near near' : ℚ} (ordered : exact < exact')
    (nearest : |near - exact| ≤ |near' - exact|) (nearest' : |near' - exact'| ≤ |near - exact'|) :
    near ≤ near' := by
  grind

section Integers

variable {n d : Nat}

theorem roundHalfEven_bounds (positive : 0 < d) :
    2 * (d * roundHalfEven n d) ≤ 2 * n + d ∧ 2 * n ≤ 2 * (d * roundHalfEven n d) + d := by
  have whole := Nat.div_add_mod n d
  simp only [roundHalfEven]
  split
  next less => omega
  next notLess =>
    split
    next more =>
      have rest := Nat.mod_lt n positive
      rw [Nat.mul_add]
      omega
    next notMore =>
      rcases Nat.mod_two_eq_zero_or_one (n / d) with even | odd
      next =>
        rw [even, Nat.add_zero]
        omega
      next =>
        rw [odd, Nat.mul_add]
        omega

theorem even_roundHalfEven (positive : 0 < d)
    (half : 2 * (d * roundHalfEven n d) = 2 * n + d ∨ 2 * n = 2 * (d * roundHalfEven n d) + d) :
    Even (roundHalfEven n d) := by
  have whole := Nat.div_add_mod n d
  simp only [roundHalfEven] at half ⊢
  split at half
  next less => omega
  next notLess =>
    split at half
    next more =>
      rw [Nat.mul_add] at half
      have rest := Nat.mod_lt n positive
      omega
    next notMore =>
      rw [if_neg notLess, if_neg notMore, Nat.even_iff]
      omega

theorem roundHalfEven_error (positive : 0 < d) :
    |(roundHalfEven n d : ℚ) - n / d| ≤ 1 / 2 := by
  have size : (0 : ℚ) < d := by exact_mod_cast positive
  have upper : (2 : ℚ) * (d * roundHalfEven n d) ≤ 2 * n + d := by
    exact_mod_cast (roundHalfEven_bounds positive).1
  have lower : (2 : ℚ) * n ≤ 2 * (d * roundHalfEven n d) + d := by
    exact_mod_cast (roundHalfEven_bounds positive).2
  have scaled : (n / d : ℚ) * d = n := div_mul_cancel₀ _ size.ne'
  rw [abs_le]
  constructor <;> nlinarith

theorem one_le_abs_sub {m k : Int} (other : m ≠ k) : (1 : ℚ) ≤ |(m : ℚ) - k| := by
  exact_mod_cast Int.one_le_abs (sub_ne_zero.2 other)

theorem one_le_abs_add {m k : Int} (other : m ≠ k) (exact : ℚ) :
    1 ≤ |(m : ℚ) - exact| + |(k : ℚ) - exact| := by
  rw [abs_sub_comm (k : ℚ)]
  exact (one_le_abs_sub other).trans (abs_sub_le _ _ _)

theorem roundHalfEven_nearest (positive : 0 < d) (m : Int) :
    |(roundHalfEven n d : ℚ) - n / d| ≤ |(m : ℚ) - n / d| := by
  by_cases same : m = roundHalfEven n d
  next => rw [same, Int.cast_natCast]
  next =>
    have error := roundHalfEven_error (n := n) positive
    have apart := one_le_abs_add same (n / d)
    rw [Int.cast_natCast] at apart
    linarith

theorem roundHalfEven_tie (positive : 0 < d) {m : Int} (other : m ≠ roundHalfEven n d)
    (near : |(m : ℚ) - n / d| = |(roundHalfEven n d : ℚ) - n / d|) :
    Even (roundHalfEven n d) := by
  have error := roundHalfEven_error (n := n) positive
  have apart := one_le_abs_add other (n / d)
  rw [Int.cast_natCast, near] at apart
  have half : |(roundHalfEven n d : ℚ) - n / d| = 1 / 2 := by linarith
  have size : (0 : ℚ) < d := by exact_mod_cast positive
  have scaled : (n / d : ℚ) * d = n := div_mul_cancel₀ _ size.ne'
  apply even_roundHalfEven positive
  rcases (abs_eq (by norm_num)).1 half with above | below
  next =>
    left
    have doubled : (2 : ℚ) * (d * roundHalfEven n d) = 2 * n + d := by
      linear_combination 2 * (d : ℚ) * above + 2 * scaled
    exact_mod_cast doubled
  next =>
    right
    have doubled : (2 : ℚ) * n = 2 * (d * roundHalfEven n d) + d := by
      linear_combination -2 * (d : ℚ) * below - 2 * scaled
    exact_mod_cast doubled

theorem roundHalfEven_mono {m : Nat} (positive : 0 < d) (ordered : n ≤ m) :
    roundHalfEven n d ≤ roundHalfEven m d := by
  rcases Nat.eq_or_lt_of_le ordered with rfl | less
  next => exact Nat.le_refl _
  next =>
    have size : (0 : ℚ) < d := by exact_mod_cast positive
    have less : (n : ℚ) < m := by exact_mod_cast less
    have nearest := roundHalfEven_nearest (n := n) positive (roundHalfEven m d)
    have nearest' := roundHalfEven_nearest (n := m) positive (roundHalfEven n d)
    exact_mod_cast le_of_nearest ((div_lt_div_iff_of_pos_right size).2 less) nearest nearest'

end Integers

namespace Binary64

def Held (units : Nat) : Prop :=
  spacing units ∣ units

theorem one_pos : 0 < one := by
  decide +kernel

theorem exists_one_eq : ∃ scale, one = 2 ^ (53 + scale) :=
  ⟨1021, by decide +kernel⟩

theorem spacing_pos (units : Nat) : 0 < spacing units :=
  Nat.two_pow_pos _

theorem spacing_dvd_spacing {low high : Nat} (ordered : low ≤ high) :
    spacing low ∣ spacing high := by
  apply Nat.pow_dvd_pow 2
  apply Nat.sub_le_sub_right
  rw [Nat.log2_eq_log_two, Nat.log2_eq_log_two]
  exact Nat.log_mono_right ordered

theorem spacing_dvd_pow {units scale : Nat} (small : units < 2 ^ 53 * 2 ^ scale) :
    spacing units ∣ 2 ^ scale := by
  by_cases nothing : units = 0
  next =>
    rw [nothing]
    exact one_dvd _
  next =>
    rw [← Nat.pow_add] at small
    have size := (Nat.log2_lt nothing).2 small
    exact Nat.pow_dvd_pow 2 (by omega)

theorem lt_mul_spacing (units : Nat) : units < 2 ^ 53 * spacing units := by
  calc
    units < 2 ^ (units.log2 + 1) := Nat.lt_log2_self
    _ ≤ 2 ^ (53 + (units.log2 - 52)) := Nat.pow_le_pow_right (by decide) (by omega)
    _ = 2 ^ 53 * spacing units := Nat.pow_add ..

theorem mul_spacing_dvd {factor significand scale : Nat} (fits : significand ≤ 2 ^ 53)
    (divides : factor ∣ significand) (divides' : factor ∣ 2 ^ 52) :
    factor * spacing (2 ^ scale * significand) ∣ 2 ^ scale * significand := by
  rcases Nat.lt_or_eq_of_le fits with small | largest
  next =>
    rw [Nat.mul_comm (2 ^ scale) significand]
    apply Nat.mul_dvd_mul divides
    apply spacing_dvd_pow
    exact Nat.mul_lt_mul_of_pos_right small (Nat.two_pow_pos scale)
  next =>
    -- One bit too many: this is a power of two, and its significand is 2^52.
    have shifted : 2 ^ scale * 2 ^ 53 = 2 ^ 52 * 2 ^ (scale + 1) := by
      rw [Nat.pow_succ 2 scale]
      omega
    rw [largest, shifted]
    apply Nat.mul_dvd_mul divides'
    apply spacing_dvd_pow
    exact Nat.mul_lt_mul_of_pos_right (by decide) (Nat.two_pow_pos _)

theorem held_pow_mul {significand scale : Nat} (fits : significand ≤ 2 ^ 53) :
    Held (2 ^ scale * significand) := by
  have held := @mul_spacing_dvd 1 significand scale fits (Nat.one_dvd _) (Nat.one_dvd _)
  rwa [Nat.one_mul] at held

-- Either the spacing at `units` fits into a number that is held, or the number lies below all that
-- have this spacing.
theorem Held.dvd_or_lt {held units : Nat} (holds : Held held) :
    spacing units ∣ held ∨
      held < 2 ^ 52 * spacing units ∧ 2 ^ 52 * spacing units ≤ units := by
  by_cases below : held.log2 < units.log2 ∧ 52 < units.log2
  next =>
    have start : 2 ^ 52 * spacing units = 2 ^ units.log2 := by
      rw [spacing, Nat.pow_eq, ← Nat.pow_add]
      congr 1
      omega
    right
    rw [start]
    have positive : units ≠ 0 := by
      rintro rfl
      exact absurd below.2 (by decide)
    have lower : held < 2 ^ (held.log2 + 1) := Nat.lt_log2_self
    have ordered : 2 ^ (held.log2 + 1) ≤ 2 ^ units.log2 :=
      Nat.pow_le_pow_right (by decide) (by omega)
    exact ⟨by omega, Nat.log2_self_le positive⟩
  next =>
    left
    apply Nat.dvd_trans _ holds
    exact Nat.pow_dvd_pow 2 (by omega)

theorem Held.add_spacing_le {low high : Nat} (held : Held low) (held' : Held high)
    (ordered : low < high) : low + spacing low ≤ high := by
  have finer : spacing low ∣ high :=
    Nat.dvd_trans (spacing_dvd_spacing ordered.le) held'
  have apart := Nat.le_of_dvd (Nat.sub_pos_of_lt ordered) (Nat.dvd_sub finer held)
  omega

theorem Held.add_spacing {units : Nat} (held : Held units) : Held (units + spacing units) := by
  obtain ⟨significand, shape⟩ := held
  have fits : significand < 2 ^ 53 := by
    have bound : spacing units * significand < spacing units * 2 ^ 53 := by
      rw [← shape, Nat.mul_comm]
      exact lt_mul_spacing units
    exact Nat.lt_of_mul_lt_mul_left bound
  have next : units + spacing units = 2 ^ (units.log2 - 52) * (significand + 1) := by
    rw [Nat.mul_add_one]
    exact congrArg (· + spacing units) shape
  rw [next]
  exact held_pow_mul fits

section Rounding

variable {n d : Nat}

def gap (n d : Nat) : Nat :=
  spacing (n * one / d)

def significand (n d : Nat) : Nat :=
  roundHalfEven (n * one) (d * gap n d)

theorem round_eq (n d : Nat) : round n d = gap n d * significand n d :=
  rfl

theorem abs_gap_mul_sub (positive : 0 < d) (count : ℚ) :
    |gap n d * count - n * one / d| =
      gap n d * |count - (n * one : Nat) / (d * gap n d : Nat)| := by
  have size : (0 : ℚ) < gap n d := by exact_mod_cast spacing_pos _
  have nonzero : (d : ℚ) ≠ 0 := by exact_mod_cast positive.ne'
  rw [← abs_of_pos size, ← abs_mul, abs_of_pos size]
  congr 1
  push_cast
  field_simp

theorem divisor_pos (positive : 0 < d) : 0 < d * gap n d :=
  Nat.mul_pos positive (spacing_pos _)

theorem gap_le {scale : Nat} (positive : 0 < d) (below : n < 2 ^ scale * d) :
    2 ^ 53 * gap n d ≤ 2 ^ scale * one := by
  obtain ⟨places, unit⟩ := exists_one_eq
  have unit : 2 ^ scale * one = 2 ^ 53 * 2 ^ (scale + places) := by
    rw [unit, Nat.pow_add, Nat.mul_left_comm, ← Nat.pow_add]
  rw [unit]
  apply Nat.mul_le_mul_left
  apply Nat.le_of_dvd (Nat.two_pow_pos _)
  apply spacing_dvd_pow
  rw [← unit, Nat.div_lt_iff_lt_mul positive, Nat.mul_right_comm]
  exact Nat.mul_lt_mul_of_pos_right below one_pos

theorem round_error (positive : 0 < d) : |(round n d : ℚ) - n * one / d| ≤ gap n d / 2 := by
  have size : (0 : ℚ) ≤ gap n d := Nat.cast_nonneg _
  have error : |(significand n d : ℚ) - (n * one : Nat) / (d * gap n d : Nat)| ≤ 1 / 2 :=
    roundHalfEven_error (divisor_pos positive)
  rw [round_eq, Nat.cast_mul, abs_gap_mul_sub positive]
  calc
    _ ≤ gap n d * (1 / 2 : ℚ) := mul_le_mul_of_nonneg_left error size
    _ = gap n d / 2 := by ring

theorem round_error_le {scale : Nat} (positive : 0 < d) (below : n < 2 ^ scale * d) :
    |(round n d : ℚ) - n * one / d| ≤ 2 ^ scale * one / 2 ^ 54 := by
  have narrow : (2 ^ 53 * gap n d : ℚ) ≤ 2 ^ scale * one := by exact_mod_cast gap_le positive below
  calc
    |(round n d : ℚ) - n * one / d| ≤ gap n d / 2 := round_error positive
    _ = 2 ^ 53 * gap n d / 2 ^ 54 := by ring
    _ ≤ 2 ^ scale * one / 2 ^ 54 := by linarith

theorem exact_lt (positive : 0 < d) : (n * one / d : ℚ) < 2 ^ 53 * gap n d := by
  have quotient := lt_mul_spacing (n * one / d)
  rw [Nat.div_lt_iff_lt_mul positive] at quotient
  rw [div_lt_iff₀ (by exact_mod_cast positive)]
  exact_mod_cast quotient

theorem significand_le (positive : 0 < d) : significand n d ≤ 2 ^ 53 := by
  have size : (0 : ℚ) < gap n d := by exact_mod_cast spacing_pos _
  have error := (abs_le.1 (round_error (n := n) positive)).2
  have below := exact_lt (n := n) positive
  rw [round_eq, Nat.cast_mul] at error
  apply Nat.le_of_lt_succ
  have bounded : (gap n d : ℚ) * significand n d < gap n d * (2 ^ 53 + 1) := by linarith
  exact_mod_cast lt_of_mul_lt_mul_left bounded size.le

theorem round_nearest_gap (positive : 0 < d) (count : Nat) :
    |(round n d : ℚ) - n * one / d| ≤ |(gap n d * count : Nat) - (n * one / d : ℚ)| := by
  rw [round_eq, Nat.cast_mul, Nat.cast_mul, abs_gap_mul_sub positive, abs_gap_mul_sub positive]
  apply mul_le_mul_of_nonneg_left _ (Nat.cast_nonneg _)
  exact roundHalfEven_nearest (divisor_pos positive) count

theorem even_significand (positive : 0 < d) {count : Nat} (other : count ≠ significand n d)
    (near : |(gap n d * count : Nat) - (n * one / d : ℚ)| = |(round n d : ℚ) - n * one / d|) :
    Even (significand n d) := by
  have size : (gap n d : ℚ) ≠ 0 := by exact_mod_cast (spacing_pos _).ne'
  rw [round_eq, Nat.cast_mul, Nat.cast_mul, abs_gap_mul_sub positive,
    abs_gap_mul_sub positive] at near
  apply roundHalfEven_tie (m := count) (divisor_pos positive)
  next => exact_mod_cast other
  next => exact mul_left_cancel₀ size near

theorem round_nearer (positive : 0 < d) {units : Nat} (below : units < 2 ^ 52 * gap n d)
    (start : 2 ^ 52 * gap n d ≤ n * one / d) :
    |(round n d : ℚ) - n * one / d| < |(units : ℚ) - n * one / d| := by
  have reached : ((2 ^ 52 * gap n d : Nat) : ℚ) ≤ n * one / d := by
    calc
      ((2 ^ 52 * gap n d : Nat) : ℚ) ≤ (n * one / d : Nat) := by exact_mod_cast start
      _ ≤ (n * one : Nat) / d := Nat.cast_div_le
      _ = n * one / d := by rw [Nat.cast_mul]
  have farther : (units : ℚ) < (2 ^ 52 * gap n d : Nat) := by exact_mod_cast below
  have near := round_nearest_gap (n := n) positive (2 ^ 52)
  rw [Nat.mul_comm, abs_of_nonpos (sub_nonpos.2 reached)] at near
  rw [abs_of_neg (sub_neg.2 (farther.trans_le reached))]
  exact near.trans_lt (neg_lt_neg (sub_lt_sub_right farther _))

end Rounding

-- Of the numbers that are held the nearest, and the one with the even significand where another one
-- is as near.
structure RoundsTo (exact : ℚ) (units : Nat) : Prop where
  held : Held units
  nearest : ∀ other, Held other → |units - exact| ≤ |other - exact|
  even : ∀ other, Held other → other ≠ units → |other - exact| = |units - exact| →
    2 * spacing units ∣ units

theorem round_correct {n d : Nat} (positive : 0 < d) : RoundsTo (n * one / d) (round n d) := by
  have fits := significand_le (n := n) positive
  constructor
  case held => exact held_pow_mul fits
  case nearest =>
    intro other held
    rcases @Held.dvd_or_lt other (n * one / d) held with divides | ⟨below, start⟩
    next =>
      obtain ⟨count, rfl⟩ := divides
      exact round_nearest_gap positive count
    next => exact (round_nearer positive below start).le
  case even =>
    intro other held different near
    rcases @Held.dvd_or_lt other (n * one / d) held with divides | ⟨below, start⟩
    next =>
      obtain ⟨count, rfl⟩ := divides
      have different' : count ≠ significand n d := by
        rintro rfl
        exact different rfl
      have even := even_significand positive different' near
      exact mul_spacing_dvd fits even.two_dvd (by decide)
    next => exact absurd near (round_nearer positive below start).ne'

section Consequences

variable {exact : ℚ} {units : Nat}

theorem RoundsTo.le (rounds : RoundsTo exact units) {bound : Nat} (held : Held bound)
    (below : exact ≤ bound) : units ≤ bound := by
  by_contra above
  have above : (bound : ℚ) < units := by exact_mod_cast Nat.lt_of_not_le above
  have nearest := rounds.nearest bound held
  rw [abs_of_nonneg (by linarith), abs_of_nonneg (by linarith)] at nearest
  linarith

theorem RoundsTo.ge (rounds : RoundsTo exact units) {bound : Nat} (held : Held bound)
    (above : bound ≤ exact) : bound ≤ units := by
  by_contra below
  have below : (units : ℚ) < bound := by exact_mod_cast Nat.lt_of_not_le below
  have nearest := rounds.nearest bound held
  rw [abs_of_nonpos (by linarith), abs_of_nonpos (by linarith)] at nearest
  linarith

theorem RoundsTo.eq {held : Nat} (rounds : RoundsTo held units) (holds : Held held) :
    units = held :=
  Nat.le_antisymm (rounds.le holds le_rfl) (rounds.ge holds le_rfl)

theorem RoundsTo.not_lt (rounds : RoundsTo exact units) {units' : Nat}
    (rounds' : RoundsTo exact units') : ¬ units < units' := by
  intro less
  have apart : (units : ℚ) < units' := by exact_mod_cast less
  have near := le_antisymm (rounds.nearest units' rounds'.held) (rounds'.nearest units rounds.held)
  have size : (0 : ℚ) < spacing units := by exact_mod_cast spacing_pos units
  rcases (rounds.held.add_spacing_le rounds'.held less).eq_or_lt with neighbour | between
  next =>
    -- Of two neighbours one is odd.
    have even := rounds.even units' rounds'.held less.ne' near.symm
    have even' := rounds'.even units rounds.held less.ne near
    have even' : 2 * spacing units ∣ units + spacing units := by
      rw [neighbour]
      exact Nat.dvd_trans (Nat.mul_dvd_mul_left 2 (spacing_dvd_spacing less.le)) even'
    have tooMuch := Nat.le_of_dvd (spacing_pos units) ((Nat.dvd_add_right even).1 even')
    have positive := spacing_pos units
    omega
  next =>
    have between : (units : ℚ) + spacing units < units' := by exact_mod_cast between
    have nearest := rounds.nearest _ rounds.held.add_spacing
    push_cast at nearest
    grind

theorem RoundsTo.unique (rounds : RoundsTo exact units) {units' : Nat}
    (rounds' : RoundsTo exact units') : units = units' :=
  Nat.le_antisymm (Nat.le_of_not_lt (rounds'.not_lt rounds))
    (Nat.le_of_not_lt (rounds.not_lt rounds'))

theorem RoundsTo.mono (rounds : RoundsTo exact units) {exact' : ℚ} {units' : Nat}
    (rounds' : RoundsTo exact' units') (ordered : exact ≤ exact') : units ≤ units' := by
  rcases ordered.eq_or_lt with rfl | less
  next => exact (rounds.unique rounds').le
  next =>
    have nearest := rounds.nearest units' rounds'.held
    have nearest' := rounds'.nearest units rounds.held
    exact_mod_cast le_of_nearest less nearest nearest'

theorem round_mono {n m d : Nat} (positive : 0 < d) (ordered : n ≤ m) : round n d ≤ round m d := by
  apply (round_correct positive).mono (round_correct positive)
  apply div_le_div_of_nonneg_right _ (Nat.cast_nonneg d)
  exact mul_le_mul_of_nonneg_right (Nat.cast_le.2 ordered) (Nat.cast_nonneg one)

theorem add_correct (a b : Nat) : RoundsTo (a + b) (add a b) := by
  have unit : (one : ℚ) ≠ 0 := by exact_mod_cast one_pos.ne'
  have rounds := @round_correct (a + b) one one_pos
  rwa [Nat.cast_add, mul_div_cancel_right₀ _ unit] at rounds

theorem add_error_le {a b scale : Nat} (below : a + b < 2 ^ scale * one) :
    |(add a b : ℚ) - (a + b)| ≤ 2 ^ scale * one / 2 ^ 54 := by
  have unit : (one : ℚ) ≠ 0 := by exact_mod_cast one_pos.ne'
  have error := round_error_le one_pos below
  rwa [Nat.cast_add, mul_div_cancel_right₀ _ unit] at error

theorem le_add {a : Nat} (held : Held a) (b : Nat) : a ≤ add a b := by
  apply (add_correct a b).ge held
  exact le_add_of_nonneg_right (Nat.cast_nonneg b)

theorem add_of_small {a b : Nat} (held : Held a) (small : 2 * b < spacing a) : add a b = a := by
  have rounds := add_correct a b
  apply Nat.le_antisymm _ (le_add held b)
  by_contra above
  have next : (a : ℚ) + spacing a ≤ add a b := by
    exact_mod_cast held.add_spacing_le rounds.held (Nat.lt_of_not_le above)
  have small : (2 : ℚ) * b < spacing a := by exact_mod_cast small
  have nearest := rounds.nearest a held
  have part : (0 : ℚ) ≤ b := Nat.cast_nonneg b
  rw [abs_of_nonneg (by linarith), abs_of_nonpos (by linarith)] at nearest
  linarith

end Consequences

end Binary64

end GroupRunner
