import GroupRunner.Time.Binary64
import GroupRunner.Time.Duration

set_option autoImplicit false

namespace GroupRunner

namespace Duration

-- The whole seconds, the fraction and their sum are rounded one after the other.
def binarySeconds (d : Duration) : Nat :=
  Binary64.add (Binary64.round d.seconds.toNat 1) (Binary64.round d.nanos (1000000000))

def thousandths (d : Duration) : Nat :=
  roundHalfEven (d.binarySeconds * 1000) Binary64.one

end Duration

def padZeros (width n : Nat) : String :=
  let digits := Nat.toDigits 10 n
  String.ofList (List.replicate (width - digits.length) '0' ++ digits)

def writeThousandths (n : Nat) : String :=
  padZeros 1 (n / 1000) ++ "." ++ padZeros 3 (n % 1000)

def Duration.inSeconds (d : Duration) : String :=
  writeThousandths d.thousandths

end GroupRunner
