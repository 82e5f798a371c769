set_option autoImplicit false

namespace GroupRunner

structure Duration where
  seconds : UInt64
  nanos : Nat
  nanos_lt : nanos < 1000000000 := by decide
  deriving DecidableEq

namespace Duration

def zero : Duration := { seconds := 0, nanos := 0 }

def total (d : Duration) : Nat :=
  d.seconds.toNat * 1000000000 + d.nanos

def millis (d : Duration) : Nat :=
  d.seconds.toNat * 1000 + d.nanos / 1000000

def wordMillis (d : Duration) : Nat :=
  d.millis % UInt64.size

end Duration

end GroupRunner
