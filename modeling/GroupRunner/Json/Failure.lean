set_option autoImplicit false

namespace GroupRunner.Json

structure Failure where
  reason : String
  -- Counted from one; on line zero there is no place.
  line : Nat := 0
  column : Nat := 0
  deriving DecidableEq, Repr

namespace Failure

def message (failure : Failure) : String :=
  if failure.line = 0 then failure.reason
  else failure.reason ++ " at line " ++ toString failure.line ++ " column " ++
    toString failure.column

end Failure

end GroupRunner.Json
