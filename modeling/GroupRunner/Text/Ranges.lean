set_option autoImplicit false

namespace GroupRunner.Text

abbrev Ranges := Array (Nat × Nat)

namespace Ranges

-- Halves the part of the table from `low` to before `high`; no table takes more steps than it has
-- ranges.
def search (ranges : Ranges) (code : Nat) : Nat → Nat → Nat → Bool
  | 0, _, _ => false
  | steps + 1, low, high =>
    if high ≤ low then false
    else
      let middle := (low + high) / 2
      match ranges[middle]? with
      | none => false
      | some (first, last) =>
        if code < first then search ranges code steps low middle
        else if last < code then search ranges code steps (middle + 1) high
        else true

def has (ranges : Ranges) (c : Char) : Bool :=
  ranges.search c.toNat ranges.size 0 ranges.size

end Ranges

end GroupRunner.Text
