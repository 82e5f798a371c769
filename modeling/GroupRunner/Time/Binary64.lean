set_option autoImplicit false

namespace GroupRunner

def roundHalfEven (n d : Nat) : Nat :=
  let quotient := n / d
  let rest := n % d
  if 2 * rest < d then quotient
  else if d < 2 * rest then quotient + 1
  else quotient + quotient % 2

namespace Binary64

-- A proof that unfolds it has to write out more than three hundred digits.
@[irreducible] def one : Nat := Nat.pow 2 1074

-- The distance of two neighbours, in units: the significand has 53 bits.
def spacing (units : Nat) : Nat :=
  Nat.pow 2 (units.log2 - 52)

def round (n d : Nat) : Nat :=
  let gap := spacing (n * one / d)
  gap * roundHalfEven (n * one) (d * gap)

def add (a b : Nat) : Nat :=
  round (a + b) one

end Binary64

end GroupRunner
