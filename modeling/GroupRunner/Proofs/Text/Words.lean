import GroupRunner.Proofs.Json.Writing
import GroupRunner.Text.Quoted

set_option autoImplicit false

namespace GroupRunner.Text

def unescape? : Char → Option Char
  | '0' => some '\x00'
  | 't' => some '\t'
  | 'n' => some '\n'
  | 'r' => some '\r'
  | '"' => some '"'
  | '\\' => some '\\'
  | _ => none

def character? (code : Nat) : Option Char :=
  if code.isValidChar then some (Char.ofNat code) else none

inductive Scan
  | outset
  | bare (read : List Char)
  | quoted (read : List Char)
  | escaped (read : List Char)
  | announced (read : List Char)
  | code (read : List Char) (value : Nat)
  | closed (read : List Char)

namespace Scan

def word? : Scan → Option String
  | .bare read => some (String.ofList read.reverse)
  | .closed read => some (String.ofList read.reverse)
  | _ => none

def step : Scan → Char → Option Scan
  | .outset, c => if c = '"' then some (.quoted []) else if c = ' ' then none else some (.bare [c])
  | .bare read, c => some (.bare (c :: read))
  | .quoted read, c =>
    if c = '"' then some (.closed read)
    else if c = '\\' then some (.escaped read)
    else some (.quoted (c :: read))
  | .escaped read, c =>
    if c = 'u' then some (.announced read)
    else (unescape? c).map fun plain => .quoted (plain :: read)
  | .announced read, c => if c = '\x7b' then some (.code read 0) else none
  | .code read value, c =>
    if c = '\x7d' then (character? value).map fun plain => .quoted (plain :: read)
    else (Json.hexDigit? c).map fun digit => .code read (16 * value + digit)
  | .closed _, _ => none

end Scan

def scan : Scan → List Char → Option (List String)
  | state, [] => state.word?.map fun word => [word]
  | state, c :: rest =>
    if c = ' ' ∧ state.word?.isSome then
      state.word?.bind fun word => (scan .outset rest).map (word :: ·)
    else (state.step c).bind fun next => scan next rest

def words? (line : String) : Option (List String) := scan .outset line.toList

section Scanning

variable {state next : Scan} {c : Char} {read rest : List Char}

theorem scan_blank {word : String} (complete : state.word? = some word) :
    scan state (' ' :: rest) = (scan .outset rest).map (word :: ·) := by
  rw [scan, if_pos ⟨rfl, by rw [complete, Option.isSome_some]⟩, complete, Option.bind_some]

theorem scan_step (stepped : state.step c = some next) (inside : c ≠ ' ' ∨ state.word? = none) :
    scan state (c :: rest) = scan next rest := by
  have within : ¬(c = ' ' ∧ state.word?.isSome) := by
    rintro ⟨blank, complete⟩
    rcases inside with solid | incomplete
    · exact solid blank
    · rw [incomplete] at complete
      cases complete
  rw [scan, if_neg within, stepped, Option.bind_some]

theorem scan_bare {chars : List Char} (solid : ∀ c ∈ chars, c ≠ ' ') :
    scan (.bare read) (chars ++ rest) = scan (.bare (chars.reverse ++ read)) rest := by
  induction chars generalizing read with
  | nil => rfl
  | cons c chars ih =>
    rw [List.cons_append, scan_step rfl (.inl (solid c List.mem_cons_self)),
      ih fun d member => solid d (List.mem_cons_of_mem _ member), List.reverse_cons,
      List.append_assoc]
    rfl

theorem character?_toNat (c : Char) : character? c.toNat = some c := by
  have valid : c.toNat.isValidChar := c.valid
  rw [character?, if_pos valid, Char.ofNat_toNat]

theorem notBrace_of_hexDigit? {digit : Nat} (known : Json.hexDigit? c = some digit) :
    c ≠ '\x7d' := by
  rintro rfl
  cases known

theorem step_code (read : List Char) (value : Nat) {digit : Nat} (known : Json.hexDigit? c = some digit) :
    Scan.step (.code read value) c = some (.code read (16 * value + digit)) := by
  rw [Scan.step, if_neg (notBrace_of_hexDigit? known), known, Option.map_some]

theorem scan_toDigits (n : Nat) :
    scan (.code read 0) (Nat.toDigits 16 n ++ rest) = scan (.code read n) rest := by
  -- The last digit is read after the number that the digits before it make.
  induction n using Nat.strongRecOn generalizing rest with
  | ind n ih =>
    by_cases small : n < 16
    · have digit := step_code read 0 (Json.hexDigit?_digitChar n small)
      rw [Nat.toDigits_of_lt_base small, List.singleton_append, scan_step digit (.inr rfl)]
      simp
    · have digit := step_code read (n / 16)
        (Json.hexDigit?_digitChar (n % 16) (Nat.mod_lt n (by decide)))
      rw [Nat.toDigits_of_base_le (by decide) (Nat.not_lt.1 small), List.append_assoc,
        ih (n / 16) (by omega), List.singleton_append, scan_step digit (.inr rfl), Nat.div_add_mod]

theorem scan_codePoint :
    scan (.quoted read) (codePoint c ++ rest) = scan (.quoted (c :: read)) rest := by
  have closed : Scan.step (.code read c.toNat) '\x7d' = some (.quoted (c :: read)) := by
    rw [Scan.step, if_pos rfl, character?_toNat, Option.map_some]
  have backslash : Scan.step (.quoted read) '\\' = some (.escaped read) := rfl
  have announced : Scan.step (.escaped read) 'u' = some (.announced read) := rfl
  have opened : Scan.step (.announced read) '\x7b' = some (.code read 0) := rfl
  simp only [codePoint, List.cons_append, List.append_assoc, List.nil_append]
  rw [scan_step backslash (.inr rfl), scan_step announced (.inr rfl), scan_step opened (.inr rfl),
    scan_toDigits, scan_step closed (.inr rfl)]

theorem scan_short {letter : Char} (plain : unescape? letter = some c) :
    scan (.quoted read) ('\\' :: letter :: rest) = scan (.quoted (c :: read)) rest := by
  have other : letter ≠ 'u' := by
    rintro rfl
    cases plain
  have opened : Scan.step (.quoted read) '\\' = some (.escaped read) := rfl
  have closed : Scan.step (.escaped read) letter = some (.quoted (c :: read)) := by
    rw [Scan.step, if_neg other, plain, Option.map_some]
  rw [scan_step opened (.inr rfl), scan_step closed (.inr rfl)]

theorem scan_escape (c : Char) (read : List Char) :
    scan (.quoted read) (escape c ++ rest) = scan (.quoted (c :: read)) rest := by
  unfold escape
  split
  next same =>
    subst same
    exact scan_short rfl
  split
  next same =>
    subst same
    exact scan_short rfl
  split
  next same =>
    subst same
    exact scan_short rfl
  split
  next same =>
    subst same
    exact scan_short rfl
  split
  next same =>
    subst same
    exact scan_short rfl
  split
  next same =>
    subst same
    exact scan_short rfl
  next quote backslash =>
    split
    · exact scan_codePoint
    · refine scan_step ?_ (.inr rfl)
      rw [Scan.step, if_neg quote, if_neg backslash]

theorem scan_quote (text : List Char) :
    scan .outset (quoteChars text ++ rest) = scan (.closed text.reverse) rest := by
  have inside (read : List Char) (after : List Char) :
      scan (.quoted read) (text.flatMap escape ++ after) =
        scan (.quoted (text.reverse ++ read)) after := by
    induction text generalizing read with
    | nil => rfl
    | cons c text ih =>
      rw [List.flatMap_cons, List.append_assoc, scan_escape, ih, List.reverse_cons,
        List.append_assoc]
      rfl
  have opened : Scan.step .outset '"' = some (.quoted []) := rfl
  have closed : Scan.step (.quoted text.reverse) '"' = some (.closed text.reverse) := rfl
  rw [quoteChars, List.cons_append, List.cons_append, scan_step opened (.inr rfl),
    List.append_assoc, inside, List.append_nil]
  exact scan_step closed (.inr rfl)

end Scanning

end GroupRunner.Text
