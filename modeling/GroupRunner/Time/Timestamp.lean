import GroupRunner.Time.Seconds

set_option autoImplicit false

namespace GroupRunner

structure Timestamp where
  seconds : Int
  nanos : Nat
  deriving DecidableEq

structure Date where
  year : Int
  month : Nat
  day : Nat
  deriving DecidableEq, Repr

-- Years are counted from March, so that the leap day ends one, in eras of 400 years.
def Date.ofDays (days : Int) : Date :=
  let shifted := days + 719468
  let era := shifted.fdiv 146097
  let dayOfEra := (shifted.fmod 146097).toNat
  let yearOfEra := (dayOfEra - dayOfEra / 1460 + dayOfEra / 36524 - dayOfEra / 146096) / 365
  let dayOfYear := dayOfEra - (365 * yearOfEra + yearOfEra / 4 - yearOfEra / 100)
  let march := (5 * dayOfYear + 2) / 153
  let month := if march < 10 then march + 3 else march - 9
  { year := era * 400 + yearOfEra + (if month ≤ 2 then 1 else 0)
    month := month
    day := dayOfYear - (153 * march + 2) / 5 + 1 }

def writeYear (year : Int) : String :=
  if 0 ≤ year ∧ year ≤ 9999 then padZeros 4 year.toNat
  else (if year < 0 then "-" else "+") ++ padZeros 4 year.natAbs

def writeFraction (nanos : Nat) : String :=
  if nanos = 0 then ""
  else if nanos % 1000000 = 0 then "." ++ padZeros 3 (nanos / 1000000)
  else if nanos % 1000 = 0 then "." ++ padZeros 6 (nanos / 1000)
  else "." ++ padZeros 9 nanos

namespace Timestamp

def epoch : Timestamp := ⟨0, 0⟩

def toRfc3339 (t : Timestamp) : String :=
  let date := Date.ofDays (t.seconds.fdiv 86400)
  let clock := (t.seconds.fmod 86400).toNat
  let leap := t.nanos / 1000000000
  writeYear date.year ++ "-" ++ padZeros 2 date.month ++ "-" ++ padZeros 2 date.day ++ "T" ++
    padZeros 2 (clock / 3600) ++ ":" ++ padZeros 2 (clock / 60 % 60) ++ ":" ++
    padZeros 2 (clock % 60 + leap) ++ writeFraction (t.nanos % 1000000000) ++ "Z"

end Timestamp

end GroupRunner
