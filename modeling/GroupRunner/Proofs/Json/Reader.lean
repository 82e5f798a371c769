import GroupRunner.Json

set_option autoImplicit false

namespace GroupRunner.Json

inductive Value
  | null
  | truth (holds : Bool)
  | number (mantissa exponent : Int)
  | text (s : String)
  | array (items : List Value)
  | object (fields : List (String × Value))

inductive Token
  | opensArray
  | closesArray
  | opensObject
  | closesObject
  | comma
  | colon
  | scalar (value : Value)

section Scanner

def isBlank (c : Char) : Bool :=
  c = ' ' || c = '\n' || c = '\t' || c = '\r'

def isBare (c : Char) : Bool :=
  c.isAlphanum || c = '-' || c = '+' || c = '.'

def mark? : Char → Option Token
  | '[' => some .opensArray
  | ']' => some .closesArray
  | '\x7b' => some .opensObject
  | '\x7d' => some .closesObject
  | ',' => some .comma
  | ':' => some .colon
  | _ => none

def unescape? : Char → Option Char
  | '"' => some '"'
  | '\\' => some '\\'
  | '/' => some '/'
  | 'b' => some '\x08'
  | 'f' => some '\x0c'
  | 'n' => some '\n'
  | 'r' => some '\r'
  | 't' => some '\t'
  | _ => none

def hexDigit? (c : Char) : Option Nat :=
  if c.isDigit then some (c.toNat - '0'.toNat)
  else if 'a' ≤ c ∧ c ≤ 'f' then some (c.toNat - 'a'.toNat + 10)
  else if 'A' ≤ c ∧ c ≤ 'F' then some (c.toNat - 'A'.toNat + 10)
  else none

def signed : List Char → Int × List Char
  | '-' :: rest => (-1, rest)
  | chars => (1, chars)

def digits? (chars : List Char) : Option (List Char) :=
  if chars.isEmpty || !chars.all Char.isDigit then none else some chars

def whole? (chars : List Char) : Option (List Char) :=
  if chars.head? = some '0' && chars.length ≠ 1 then none else digits? chars

def exponent? : List Char → Option Int
  | [] => some 0
  | letter :: rest =>
    if letter = 'e' || letter = 'E' then
      let (sign, chars) := match rest with
        | '+' :: rest => (1, rest)
        | rest => signed rest
      (digits? chars).map fun digits => sign * Nat.ofDigitChars 10 digits 0
    else none

def fraction? : List Char → Option (List Char × List Char)
  | '.' :: rest =>
    (digits? (rest.takeWhile Char.isDigit)).map fun digits =>
      (digits, rest.dropWhile Char.isDigit)
  | rest => some ([], rest)

def number? (chars : List Char) : Option Value := do
  let (sign, body) := signed chars
  let whole ← whole? (body.takeWhile Char.isDigit)
  let (fraction, rest) ← fraction? (body.dropWhile Char.isDigit)
  let exponent ← exponent? rest
  return .number (sign * Nat.ofDigitChars 10 (whole ++ fraction) 0) (exponent - fraction.length)

def bare? (chars : List Char) : Option Value :=
  if chars = "null".toList then some .null
  else if chars = "true".toList then some (.truth true)
  else if chars = "false".toList then some (.truth false)
  else number? chars

-- What has been read of a token is kept in reverse, and the first half of a surrogate pair waits
-- for the second one.
inductive Scan
  | between
  | bare (read : List Char)
  | text (read : List Char) (high : Option Nat)
  | escape (read : List Char) (high : Option Nat)
  -- Inside of a character's number, with so many digits to come after the next one.
  | unicode (read : List Char) (high : Option Nat) (left code : Nat)

def isHigh (code : Nat) : Bool := 0xD800 ≤ code && code < 0xDC00

def isLow (code : Nat) : Bool := 0xDC00 ≤ code && code < 0xE000

def Scan.joined (read : List Char) (code : Nat) : Option Nat → Option Scan
  | none =>
    if isHigh code then some (.text read (some code))
    else if isLow code then none
    else some (.text (Char.ofNat code :: read) none)
  | some high =>
    if isLow code then
      some (.text (Char.ofNat (0x10000 + (high - 0xD800) * 0x400 + (code - 0xDC00)) :: read) none)
    else none

def Scan.begin (c : Char) : Option (List Token × Scan) :=
  if isBlank c then some ([], .between)
  else if c = '"' then some ([], .text [] none)
  else if isBare c then some ([], .bare [c])
  else (mark? c).map fun token => ([token], .between)

def Scan.step : Scan → Char → Option (List Token × Scan)
  | .between, c => begin c
  | .bare read, c =>
    if isBare c then some ([], .bare (c :: read))
    else do
      let value ← bare? read.reverse
      let (tokens, next) ← begin c
      return (.scalar value :: tokens, next)
  | .text read high, c =>
    if c = '\\' then some ([], .escape read high)
    else if high.isSome then none
    else if c = '"' then some ([.scalar (.text (String.ofList read.reverse))], .between)
    else if c.toNat < 0x20 then none
    else some ([], .text (c :: read) none)
  | .escape read high, c =>
    if c = 'u' then some ([], .unicode read high 3 0)
    else if high.isSome then none
    else (unescape? c).map fun plain => ([], .text (plain :: read) none)
  | .unicode read high left code, c => do
    let digit ← hexDigit? c
    match left with
    | 0 => (joined read (16 * code + digit) high).map fun next => ([], next)
    | left + 1 => return ([], .unicode read high left (16 * code + digit))

def Scan.finish : Scan → Option (List Token)
  | .between => some []
  | .bare read => (bare? read.reverse).map fun value => [.scalar value]
  | _ => none

def scan : Scan → List Char → Option (List Token)
  | state, [] => state.finish
  | state, c :: rest =>
    (state.step c).bind fun (tokens, next) => (scan next rest).map (tokens ++ ·)

end Scanner

section Parser

inductive Frame
  | items (read : List Value)
  | fields (read : List (String × Value)) (name : String)

inductive Parse
  | expecting (frames : List Frame)
  | firstItem (frames : List Frame)
  | firstName (frames : List Frame)
  | nextName (read : List (String × Value)) (frames : List Frame)
  | named (read : List (String × Value)) (name : String) (frames : List Frame)
  | complete (value : Value) (frames : List Frame)

namespace Parse

def begin (frames : List Frame) : Token → Option Parse
  | .scalar value => some (.complete value frames)
  | .opensArray => some (.firstItem frames)
  | .opensObject => some (.firstName frames)
  | _ => none

def step : Parse → Token → Option Parse
  | .expecting frames, token => begin frames token
  | .firstItem frames, .closesArray => some (.complete (.array []) frames)
  | .firstItem frames, token => begin (.items [] :: frames) token
  | .firstName frames, .closesObject => some (.complete (.object []) frames)
  | .firstName frames, .scalar (.text name) => some (.named [] name frames)
  | .nextName read frames, .scalar (.text name) => some (.named read name frames)
  | .named read name frames, .colon => some (.expecting (.fields read name :: frames))
  | .complete value (.items read :: frames), .comma =>
    some (.expecting (.items (read ++ [value]) :: frames))
  | .complete value (.items read :: frames), .closesArray =>
    some (.complete (.array (read ++ [value])) frames)
  | .complete value (.fields read name :: frames), .comma =>
    some (.nextName (read ++ [(name, value)]) frames)
  | .complete value (.fields read name :: frames), .closesObject =>
    some (.complete (.object (read ++ [(name, value)])) frames)
  | _, _ => none

def result? : Parse → Option Value
  | .complete value [] => some value
  | _ => none

end Parse

end Parser

def parse (state : Parse) (tokens : List Token) : Option Parse :=
  tokens.foldlM Parse.step state

def read? (text : String) : Option Value := do
  let tokens ← scan .between text.toList
  let last ← parse (.expecting []) tokens
  last.result?

end GroupRunner.Json
