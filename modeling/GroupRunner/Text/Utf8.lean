set_option autoImplicit false

namespace GroupRunner

abbrev Bytes := List UInt8

namespace Utf8

-- Between characters, or inside one with `more` bytes after the next, which has to lie from `low`
-- to `high`; `value` holds the bits read so far.
inductive State
  | start
  | inside (more : Nat) (low high : UInt8) (value : Nat)
  deriving DecidableEq, Repr

def lead (b : UInt8) : List (Option Char) × State :=
  let n := b.toNat
  if n < 0x80 then ([some (Char.ofNat n)], .start)
  else if n < 0xC2 then ([none], .start)
  else if n < 0xE0 then ([], .inside 0 0x80 0xBF (n - 0xC0))
  else if n = 0xE0 then ([], .inside 1 0xA0 0xBF 0)
  else if n = 0xED then ([], .inside 1 0x80 0x9F 0xD)
  else if n < 0xF0 then ([], .inside 1 0x80 0xBF (n - 0xE0))
  else if n = 0xF0 then ([], .inside 2 0x90 0xBF 0)
  else if n < 0xF4 then ([], .inside 2 0x80 0xBF (n - 0xF0))
  else if n = 0xF4 then ([], .inside 2 0x80 0x8F 4)
  else ([none], .start)

def step : State → UInt8 → List (Option Char) × State
  | .start, b => lead b
  | .inside more low high value, b =>
    if low ≤ b ∧ b ≤ high then
      let value := value * 64 + (b.toNat - 0x80)
      match more with
      | 0 => ([some (Char.ofNat value)], .start)
      | more + 1 => ([], .inside more 0x80 0xBF value)
    else (none :: (lead b).1, (lead b).2)

def State.finish : State → List (Option Char)
  | .start => []
  | .inside .. => [none]

def read : State → Bytes → List (Option Char)
  | state, [] => state.finish
  | state, b :: rest => (step state b).1 ++ read (step state b).2 rest

def pieces (bytes : Bytes) : List (Option Char) :=
  read .start bytes

def replacement : Char := '\uFFFD'

def lossy (bytes : Bytes) : String :=
  String.ofList ((pieces bytes).map fun piece => piece.getD replacement)

def wellFormed : List (Option Char) → Option (List Char)
  | [] => some []
  | none :: _ => none
  | some c :: rest => (wellFormed rest).map (c :: ·)

def decode? (bytes : Bytes) : Option String :=
  (wellFormed (pieces bytes)).map String.ofList

def encode (text : String) : Bytes :=
  text.toList.flatMap String.utf8EncodeChar

end Utf8

end GroupRunner
