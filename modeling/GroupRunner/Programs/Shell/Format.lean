import GroupRunner.Programs.Shell.Reader

set_option autoImplicit false

namespace GroupRunner.Programs.Shell

inductive Directive
  | byte (b : UInt8)
  | argument
  deriving DecidableEq, Repr

abbrev Format := List Directive

def octal? (b : UInt8) : Option Nat :=
  if code '0' ≤ b ∧ b ≤ code '7' then some (b.toNat - (code '0').toNat) else none

namespace Format

def octalByte? (a b c : UInt8) : Option UInt8 :=
  match octal? a, octal? b, octal? c with
  | some x, some y, some z => some (64 * x + 8 * y + z).toUInt8
  | _, _, _ => none

def ofBytes : Bytes → Format
  | [] => []
  | [b] => [.byte b]
  | b :: c :: rest =>
    if b = code '%' then
      if c = code 's' then .argument :: ofBytes rest
      else if c = code '%' then .byte c :: ofBytes rest
      else .byte b :: ofBytes (c :: rest)
    else if b = code '\\' then
      match rest with
      | d :: e :: rest =>
        match octalByte? c d e with
        | some value => .byte value :: ofBytes rest
        | none => escape c :: ofBytes (d :: e :: rest)
      | rest => escape c :: ofBytes rest
    else .byte b :: ofBytes (c :: rest)
where
  escape (c : UInt8) : Directive := .byte (if c = code 'n' then code '\n' else c)

def fill : Format → List Bytes → Bytes × List Bytes
  | [], args => ([], args)
  | .byte b :: rest, args =>
    let (out, args) := fill rest args
    (b :: out, args)
  | .argument :: rest, args =>
    let (out, left) := fill rest args.tail
    (args.headD [] ++ out, left)

def outputWithin (format : Format) : Nat → List Bytes → Bytes
  | 0, _ => []
  | passes + 1, args =>
    let (out, left) := fill format args
    if left.isEmpty || !format.contains .argument then out
    else out ++ outputWithin format passes left

-- Every pass but the last takes an argument, so their number bounds the passes.
def output (format : Format) (args : List Bytes) : Bytes :=
  outputWithin format (args.length + 1) args

def isPlain (b : UInt8) : Bool :=
  0x20 ≤ b && b < 0x7F && b != code '%' && b != code '\\' && b != code '-'

def octalDigit (n : Nat) : UInt8 := (n % 8).toUInt8 + code '0'

def source (bytes : Bytes) : Bytes :=
  bytes.flatMap fun b =>
    if isPlain b then [b]
    else [code '\\', octalDigit (b.toNat / 64), octalDigit (b.toNat / 8), octalDigit b.toNat]

end Format

end GroupRunner.Programs.Shell
