import GroupRunner.Proofs.Json.Reader
import GroupRunner.Proofs.Text.Digits
import Mathlib.Data.List.TakeWhile

set_option autoImplicit false

namespace GroupRunner.Json

mutual

def value : Json → Value
  | .number n => .number n 0
  | .text s => .text s
  | .array items => .array (itemValues items)
  | .object fields => .object (fieldValues fields)

def itemValues : List Json → List Value
  | [] => []
  | item :: items => item.value :: itemValues items

def fieldValues : List (String × Json) → List (String × Value)
  | [] => []
  | (name, field) :: fields => (name, field.value) :: fieldValues fields

end

mutual

def tokens : Json → List Token
  | .number n => [.scalar (.number n 0)]
  | .text s => [.scalar (.text s)]
  | .array [] => [.opensArray, .closesArray]
  | .array (item :: items) => .opensArray :: item.tokens ++ itemTokens items ++ [.closesArray]
  | .object [] => [.opensObject, .closesObject]
  | .object ((name, field) :: fields) =>
    .opensObject :: .scalar (.text name) :: .colon :: field.tokens ++ fieldTokens fields ++
      [.closesObject]

def itemTokens : List Json → List Token
  | [] => []
  | item :: items => .comma :: item.tokens ++ itemTokens items

def fieldTokens : List (String × Json) → List Token
  | [] => []
  | (name, field) :: fields =>
    .comma :: .scalar (.text name) :: .colon :: field.tokens ++ fieldTokens fields

end

section Parsing

variable {frames : List Frame}

theorem parse_append (state : Parse) (first second : List Token) :
    parse state (first ++ second) = (parse state first).bind fun next => parse next second :=
  List.foldlM_append

theorem parse_cons (state : Parse) (token : Token) (rest : List Token) :
    parse state (token :: rest) = (state.step token).bind fun next => parse next rest :=
  List.foldlM_cons

theorem parse_firstItem (json : Json) (rest : List Token) :
    parse (.firstItem frames) (json.tokens ++ rest) =
      parse (.expecting (.items [] :: frames)) (json.tokens ++ rest) := by
  -- No value begins with the bracket that would close the list.
  cases json with
  | number n => rfl
  | text s => rfl
  | array items => cases items <;> rfl
  | object fields => cases fields <;> rfl

mutual

theorem parse_tokens (json : Json) (frames : List Frame) :
    parse (.expecting frames) json.tokens = some (.complete json.value frames) := by
  match json with
  | .number n => rfl
  | .text s => rfl
  | .array [] => rfl
  | .array (item :: items) =>
    simp only [tokens, List.cons_append, List.append_assoc, parse_cons, Parse.step, Parse.begin,
      Option.bind_some]
    rw [parse_firstItem, parse_append, parse_tokens item]
    exact parse_itemTokens items item.value [] frames
  | .object [] => rfl
  | .object ((name, field) :: fields) =>
    simp only [tokens, List.cons_append, List.append_assoc, parse_cons, Parse.step, Parse.begin,
      Option.bind_some]
    rw [parse_append, parse_tokens field]
    exact parse_fieldTokens fields name field.value [] frames

theorem parse_itemTokens (items : List Json) (value : Value) (read : List Value)
    (frames : List Frame) :
    parse (.complete value (.items read :: frames)) (itemTokens items ++ [.closesArray]) =
      some (.complete (.array (read ++ value :: itemValues items)) frames) := by
  match items with
  | [] => rfl
  | item :: items =>
    simp only [itemTokens, List.cons_append, List.append_assoc, parse_cons, Parse.step,
      Option.bind_some]
    rw [parse_append, parse_tokens item, Option.bind_some, parse_itemTokens items]
    simp only [itemValues, List.append_assoc, List.cons_append, List.nil_append]

theorem parse_fieldTokens (fields : List (String × Json)) (name : String) (value : Value)
    (read : List (String × Value)) (frames : List Frame) :
    parse (.complete value (.fields read name :: frames)) (fieldTokens fields ++ [.closesObject]) =
      some (.complete (.object (read ++ (name, value) :: fieldValues fields)) frames) := by
  match fields with
  | [] => rfl
  | (next, field) :: fields =>
    simp only [fieldTokens, List.cons_append, List.append_assoc, parse_cons, Parse.step,
      Option.bind_some]
    rw [parse_append, parse_tokens field, Option.bind_some, parse_fieldTokens fields]
    simp only [fieldValues, List.append_assoc, List.cons_append, List.nil_append]

end

end Parsing

section Scanning

variable {rest : List Char}

def Breaks (rest : List Char) : Prop :=
  ∀ c ∈ rest.head?, isBare c = false

theorem scan_quiet {state next : Scan} {c : Char} (stepped : state.step c = some ([], next)) :
    scan state (c :: rest) = scan next rest := by
  rw [scan, stepped]
  exact Option.map_id_apply

theorem scan_token {state next : Scan} {c : Char} {token : Token}
    (stepped : state.step c = some ([token], next)) :
    scan state (c :: rest) = (scan next rest).map (token :: ·) := by
  rw [scan, stepped]
  rfl

theorem scan_blanks {gap : List Char} (blank : ∀ c ∈ gap, isBlank c = true) :
    scan .between (gap ++ rest) = scan .between rest := by
  induction gap with
  | nil => rfl
  | cons c gap ih =>
    have here := blank c List.mem_cons_self
    have stepped : Scan.step .between c = some ([], .between) := by
      rw [Scan.step, Scan.begin, if_pos here]
    rw [List.cons_append, scan_quiet stepped]
    exact ih fun d member => blank d (List.mem_cons_of_mem _ member)

theorem scan_bare {chars read : List Char} (bare : ∀ c ∈ chars, isBare c = true)
    (ends : Breaks rest) :
    scan (.bare read) (chars ++ rest) = (bare? (read.reverse ++ chars)).bind fun value =>
      (scan .between rest).map (.scalar value :: ·) := by
  induction chars generalizing read with
  | nil =>
    rw [List.nil_append, List.append_nil]
    cases rest with
    | nil => cases known : bare? read.reverse <;> simp [scan, Scan.finish, known]
    | cons c rest =>
      have ended : isBare c = false := ends c rfl
      rw [scan, scan, Scan.step, Scan.step, ended]
      cases bare? read.reverse with
      | none => rfl
      | some value => cases Scan.begin c <;> simp [Function.comp_def]
  | cons c chars ih =>
    have stepped : Scan.step (.bare read) c = some ([], .bare (c :: read)) := by
      rw [Scan.step, if_pos (bare c List.mem_cons_self)]
    rw [List.cons_append, scan_quiet stepped,
      ih fun d member => bare d (List.mem_cons_of_mem _ member), List.reverse_cons,
      List.append_assoc]
    rfl

theorem isBare_of_isDigit {c : Char} (digit : c.isDigit = true) : isBare c = true := by
  simp [isBare, Char.isAlphanum, digit]

theorem digitChar_ne_zero : ∀ n < 10, n ≠ 0 → Nat.digitChar n ≠ '0' := by decide

theorem head?_toDigits {n : Nat} (positive : n ≠ 0) :
    (Nat.toDigits 10 n).head? ≠ some '0' := by
  -- The first digit is that of the number without its last one.
  induction n using Nat.strongRecOn with
  | ind n ih =>
    by_cases small : n < 10
    · rw [Nat.toDigits_of_lt_base small]
      simpa using digitChar_ne_zero n small positive
    · rw [Nat.toDigits_of_base_le (by decide) (Nat.not_lt.1 small), List.head?_append]
      have first := ih (n / 10) (by omega) (by omega)
      cases digits : Nat.toDigits 10 (n / 10) with
      | nil => exact absurd digits Nat.toDigits_ne_nil
      | cons c more =>
        rw [digits] at first
        exact first

theorem whole?_toDigits (n : Nat) :
    whole? (Nat.toDigits 10 n) = some (Nat.toDigits 10 n) := by
  have digits : digits? (Nat.toDigits 10 n) = some (Nat.toDigits 10 n) := by
    simpa [digits?, Nat.toDigits_ne_nil] using fun c => isDigit_of_mem_toDigits (n := n)
  by_cases zero : n = 0
  · subst zero
    rfl
  · rw [whole?, if_neg (by simp [head?_toDigits zero]), digits]

theorem signed_toDigits (n : Nat) (rest : List Char) :
    signed (Nat.toDigits 10 n ++ rest) = (1, Nat.toDigits 10 n ++ rest) := by
  cases digits : Nat.toDigits 10 n with
  | nil => exact absurd digits Nat.toDigits_ne_nil
  | cons c more =>
    have digit : c.isDigit = true := isDigit_of_mem_toDigits (n := n) (by simp [digits])
    rw [List.cons_append]
    unfold signed
    split
    next same => cases same; cases digit
    next => rfl

theorem fraction?_of_digits {digits : List Char} (filled : digits ≠ [])
    (only : ∀ c ∈ digits, c.isDigit = true) : fraction? ('.' :: digits) = some (digits, []) := by
  have taken : digits.takeWhile Char.isDigit = digits := List.takeWhile_eq_self_iff.2 only
  have dropped : digits.dropWhile Char.isDigit = [] := List.dropWhile_eq_nil_iff.2 only
  have accepted : digits? digits = some digits := by simpa [digits?, filled] using only
  rw [fraction?, taken, accepted, dropped]
  rfl

theorem number?_of_signed {chars rest fraction : List Char} {sign : Int} {n : Nat}
    (split : signed chars = (sign, Nat.toDigits 10 n ++ rest))
    (ends : rest.takeWhile Char.isDigit = []) (read : fraction? rest = some (fraction, [])) :
    number? chars = some (.number
      (sign * Nat.ofDigitChars 10 (Nat.toDigits 10 n ++ fraction) 0) (-fraction.length)) := by
  have digits : ∀ c ∈ Nat.toDigits 10 n, c.isDigit = true := fun _ => isDigit_of_mem_toDigits
  have whole : (Nat.toDigits 10 n ++ rest).takeWhile Char.isDigit = Nat.toDigits 10 n := by
    rw [List.takeWhile_append_of_pos digits, ends, List.append_nil]
  have others : (Nat.toDigits 10 n ++ rest).dropWhile Char.isDigit = rest := by
    have parts := @List.takeWhile_append_dropWhile _ Char.isDigit rest
    rw [List.dropWhile_append_of_pos digits]
    rwa [ends, List.nil_append] at parts
  simp only [number?, split, whole, others, whole?_toDigits, read, exponent?,
    Option.bind_eq_bind, Option.bind_some, Int.zero_sub]
  rfl

theorem number?_toDigits {chars : List Char} {sign : Int} {n : Nat}
    (split : signed chars = (sign, Nat.toDigits 10 n)) :
    number? chars = some (.number (sign * n) 0) := by
  rw [← List.append_nil (Nat.toDigits 10 n)] at split
  rw [number?_of_signed split rfl rfl, List.append_nil, Nat.ofDigitChars_ten_toDigits]
  rfl

theorem bare?_eq_number? {c : Char} {chars : List Char} (start : c = '-' ∨ c.isDigit = true) :
    bare? (c :: chars) = number? (c :: chars) := by
  have letters : c ≠ 'n' ∧ c ≠ 't' ∧ c ≠ 'f' := by
    rcases start with rfl | digit
    · decide
    · refine ⟨?_, ?_, ?_⟩ <;> rintro rfl <;> cases digit
  simp [bare?, letters]

theorem bare?_writeNumber (n : Int) : bare? (writeNumber n) = some (.number n 0) := by
  cases n with
  | ofNat n =>
    have split := signed_toDigits n []
    rw [writeNumber]
    cases digits : Nat.toDigits 10 n with
    | nil => exact absurd digits Nat.toDigits_ne_nil
    | cons c more =>
      have digit : c.isDigit = true := isDigit_of_mem_toDigits (n := n) (by simp [digits])
      rw [List.append_nil] at split
      rw [bare?_eq_number? (.inr digit), ← digits, number?_toDigits split, Int.one_mul]
      rfl
  | negSucc n =>
    rw [writeNumber, bare?_eq_number? (.inl rfl), @number?_toDigits _ (-1) (n + 1) rfl]
    congr 2
    omega

theorem step_bare {c : Char} (bare : isBare c = true) :
    Scan.step .between c = some ([], .bare [c]) := by
  have notBlank : isBlank c = false := by
    cases blank : isBlank c with
    | false => rfl
    | true =>
      simp only [isBlank, Bool.or_eq_true, decide_eq_true_eq] at blank
      rcases blank with ((rfl | rfl) | rfl) | rfl <;> cases bare
  have notQuote : c ≠ '"' := by
    rintro rfl
    cases bare
  simp [Scan.step, Scan.begin, notBlank, notQuote, bare]

theorem bare_of_writeNumber (n : Int) : ∀ c ∈ writeNumber n, isBare c = true := by
  cases n with
  | ofNat n => exact fun c member => isBare_of_isDigit (isDigit_of_mem_toDigits member)
  | negSucc n =>
    intro c member
    rcases List.mem_cons.1 member with rfl | member
    · rfl
    · exact isBare_of_isDigit (isDigit_of_mem_toDigits member)

theorem scan_writeNumber (n : Int) (ends : Breaks rest) :
    scan .between (writeNumber n ++ rest) =
      (scan .between rest).map (.scalar (.number n 0) :: ·) := by
  have number := bare?_writeNumber n
  have bare := bare_of_writeNumber n
  cases written : writeNumber n with
  | nil =>
    rw [written] at number
    cases number
  | cons c chars =>
    rw [written] at number bare
    rw [List.cons_append, scan_quiet (step_bare (bare c List.mem_cons_self)),
      scan_bare (fun d member => bare d (List.mem_cons_of_mem _ member)) ends]
    change (bare? (c :: chars)).bind _ = _
    rw [number]
    rfl

theorem hexDigit?_digitChar : ∀ n < 16, hexDigit? (Nat.digitChar n) = some n := by decide

theorem scan_short {c letter : Char} {read : List Char} (plain : unescape? letter = some c) :
    scan (.text read none) ('\\' :: letter :: rest) = scan (.text (c :: read) none) rest := by
  have opened : Scan.step (.text read none) '\\' = some ([], .escape read none) := rfl
  have other : letter ≠ 'u' := by
    rintro rfl
    cases plain
  have closed : Scan.step (.escape read none) letter = some ([], .text (c :: read) none) := by
    simp [Scan.step, other, plain]
  rw [scan_quiet opened, scan_quiet closed]

theorem step_unicode {c : Char} {read : List Char} {left code digit : Nat}
    (known : hexDigit? c = some digit) :
    Scan.step (.unicode read none (left + 1) code) c =
      some ([], .unicode read none left (16 * code + digit)) := by
  simp [Scan.step, known]

theorem scan_control {c : Char} (control : c.toNat < 0x20) (read : List Char) :
    scan (.text read none) (['\\', 'u', '0', '0', Nat.digitChar (c.toNat / 16),
        Nat.digitChar (c.toNat % 16)] ++ rest) = scan (.text (c :: read) none) rest := by
  have high := hexDigit?_digitChar (c.toNat / 16) (by omega)
  have low := hexDigit?_digitChar (c.toNat % 16) (by omega)
  have code : 16 * (16 * (16 * (16 * 0 + 0) + 0) + c.toNat / 16) + c.toNat % 16 = c.toNat := by
    omega
  have opened : Scan.step (.text read none) '\\' = some ([], .escape read none) := rfl
  have announced : Scan.step (.escape read none) 'u' = some ([], .unicode read none 3 0) := rfl
  have closed : Scan.step (.unicode read none 0 (16 * (16 * (16 * 0 + 0) + 0) + c.toNat / 16))
      (Nat.digitChar (c.toNat % 16)) = some ([], .text (c :: read) none) := by
    have notHigh : isHigh c.toNat = false := by
      simp only [isHigh, Bool.and_eq_false_iff, decide_eq_false_iff_not]
      omega
    have notLow : isLow c.toNat = false := by
      simp only [isLow, Bool.and_eq_false_iff, decide_eq_false_iff_not]
      omega
    have joined : Scan.joined read c.toNat none = some (.text (c :: read) none) := by
      simp [Scan.joined, notHigh, notLow]
    simp only [Scan.step, low, Option.bind_eq_bind, Option.bind_some, code, joined,
      Option.map_some]
  simp only [List.cons_append, List.nil_append]
  rw [scan_quiet opened, scan_quiet announced, scan_quiet (@step_unicode '0' _ _ _ 0 rfl),
    scan_quiet (@step_unicode '0' _ _ _ 0 rfl), scan_quiet (step_unicode high), scan_quiet closed]

theorem scan_escape (c : Char) (read : List Char) :
    scan (.text read none) (escape c ++ rest) = scan (.text (c :: read) none) rest := by
  unfold escape
  by_cases quote : c = '"'
  · rw [if_pos quote, quote]
    exact scan_short rfl
  rw [if_neg quote]
  by_cases backslash : c = '\\'
  · rw [if_pos backslash, backslash]
    exact scan_short rfl
  rw [if_neg backslash]
  split
  next same => exact same ▸ scan_short rfl
  split
  next same => exact same ▸ scan_short rfl
  split
  next same => exact same ▸ scan_short rfl
  split
  next same => exact same ▸ scan_short rfl
  split
  next same => exact same ▸ scan_short rfl
  by_cases control : c.toNat < 0x20
  · rw [if_pos control]
    exact scan_control control read
  · rw [if_neg control]
    exact scan_quiet (by simp [Scan.step, backslash, quote, control])

theorem scan_writeText (s : String) :
    scan .between (writeText s ++ rest) =
      (scan .between rest).map (.scalar (.text s) :: ·) := by
  have inside (chars read : List Char) (after : List Char) :
      scan (.text read none) (chars.flatMap escape ++ after) =
        scan (.text (chars.reverse ++ read) none) after := by
    induction chars generalizing read with
    | nil => rfl
    | cons c chars ih =>
      rw [List.flatMap_cons, List.append_assoc, scan_escape, ih, List.reverse_cons,
        List.append_assoc]
      rfl
  have opened : Scan.step .between '"' = some ([], .text [] none) := rfl
  have closed : Scan.step (.text s.toList.reverse none) '"' =
      some ([.scalar (.text s)], .between) := by
    simp [Scan.step]
  rw [writeText, List.cons_append, List.cons_append, scan_quiet opened, List.append_assoc, inside,
    List.append_nil]
  exact scan_token closed

end Scanning

section Reading

structure Layout.Blank (layout : Layout) : Prop where
  gap : ∀ depth, ∀ c ∈ layout.gap depth, isBlank c = true
  colon : ∃ blanks, layout.colon = ':' :: blanks ∧ ∀ c ∈ blanks, isBlank c = true

theorem blank_pretty : Layout.pretty.Blank := by
  refine ⟨fun depth c member => ?_, [' '], rfl, by simp [isBlank]⟩
  rcases List.mem_cons.1 member with rfl | member
  · rfl
  · rw [List.eq_of_mem_replicate member]
    rfl

variable {layout : Layout} {rest : List Char}

theorem isBare_of_isBlank {c : Char} (blank : isBlank c = true) : isBare c = false := by
  simp only [isBlank, Bool.or_eq_true, decide_eq_true_eq] at blank
  rcases blank with ((rfl | rfl) | rfl) | rfl <;> rfl

theorem breaks_gap (blank : layout.Blank) (depth : Nat) (ends : Breaks rest) :
    Breaks (layout.gap depth ++ rest) := by
  cases gap : layout.gap depth with
  | nil => exact ends
  | cons c more =>
    rintro d ⟨⟩
    exact isBare_of_isBlank (blank.gap depth c (by simp [gap]))

theorem breaks_mark {c : Char} (mark : isBare c = false) : Breaks (c :: rest) := by
  rintro d ⟨⟩
  exact mark

theorem scan_colon (blank : layout.Blank) :
    scan .between (layout.colon ++ rest) = (scan .between rest).map (.colon :: ·) := by
  obtain ⟨blanks, colon, blank⟩ := blank.colon
  have marked : Scan.step .between ':' = some ([.colon], .between) := rfl
  rw [colon, List.cons_append, scan_token marked, scan_blanks blank]

theorem breaks_writeItems {depth : Nat} (items : List Json) (ends : Breaks rest) :
    Breaks (writeItems layout depth items ++ rest) := by
  cases items with
  | nil => exact ends
  | cons item items => exact breaks_mark rfl

theorem breaks_writeFields {depth : Nat} (fields : List (String × Json)) (ends : Breaks rest) :
    Breaks (writeFields layout depth fields ++ rest) := by
  cases fields with
  | nil => exact ends
  | cons field fields => exact breaks_mark rfl

theorem step_marks :
    Scan.step .between '[' = some ([.opensArray], .between) ∧
    Scan.step .between ']' = some ([.closesArray], .between) ∧
    Scan.step .between '\x7b' = some ([.opensObject], .between) ∧
    Scan.step .between '\x7d' = some ([.closesObject], .between) ∧
    Scan.step .between ',' = some ([.comma], .between) := ⟨rfl, rfl, rfl, rfl, rfl⟩

mutual

theorem scan_write (blank : layout.Blank) (json : Json) (depth : Nat) (rest : List Char)
    (ends : Breaks rest) :
    scan .between (write layout depth json ++ rest) =
      (scan .between rest).map (json.tokens ++ ·) := by
  obtain ⟨opensArray, closesArray, opensObject, closesObject, -⟩ := step_marks
  match json with
  | .number n => exact scan_writeNumber n ends
  | .text s => exact scan_writeText s
  | .array [] =>
    simp only [write, List.cons_append, List.nil_append]
    rw [scan_token opensArray, scan_token closesArray, Option.map_map]
    rfl
  | .array (item :: items) =>
    have closing : Breaks (layout.gap depth ++ ']' :: rest) :=
      breaks_gap blank depth (breaks_mark rfl)
    simp only [write, List.cons_append, List.append_assoc, List.nil_append]
    rw [scan_token opensArray, scan_blanks (blank.gap _),
      scan_write blank item _ _ (breaks_writeItems items closing),
      scan_writeItems blank items _ _ closing, scan_blanks (blank.gap _), scan_token closesArray]
    simp [tokens, Option.map_map, Function.comp_def]
  | .object [] =>
    simp only [write, List.cons_append, List.nil_append]
    rw [scan_token opensObject, scan_token closesObject, Option.map_map]
    rfl
  | .object ((name, field) :: fields) =>
    have closing : Breaks (layout.gap depth ++ '\x7d' :: rest) :=
      breaks_gap blank depth (breaks_mark rfl)
    simp only [write, List.cons_append, List.append_assoc, List.nil_append]
    rw [scan_token opensObject, scan_blanks (blank.gap _), scan_writeText, scan_colon blank,
      scan_write blank field _ _ (breaks_writeFields fields closing),
      scan_writeFields blank fields _ _ closing, scan_blanks (blank.gap _),
      scan_token closesObject]
    simp [tokens, Option.map_map, Function.comp_def]

theorem scan_writeItems (blank : layout.Blank) (items : List Json) (depth : Nat)
    (rest : List Char) (ends : Breaks rest) :
    scan .between (writeItems layout depth items ++ rest) =
      (scan .between rest).map (itemTokens items ++ ·) := by
  match items with
  | [] => exact Option.map_id_apply.symm
  | item :: items =>
    simp only [writeItems, List.cons_append, List.append_assoc]
    rw [scan_token step_marks.2.2.2.2, scan_blanks (blank.gap _),
      scan_write blank item _ _ (breaks_writeItems items ends),
      scan_writeItems blank items _ _ ends]
    simp [itemTokens, Option.map_map, Function.comp_def]

theorem scan_writeFields (blank : layout.Blank) (fields : List (String × Json)) (depth : Nat)
    (rest : List Char) (ends : Breaks rest) :
    scan .between (writeFields layout depth fields ++ rest) =
      (scan .between rest).map (fieldTokens fields ++ ·) := by
  match fields with
  | [] => exact Option.map_id_apply.symm
  | (name, field) :: fields =>
    simp only [writeFields, List.cons_append, List.append_assoc]
    rw [scan_token step_marks.2.2.2.2, scan_blanks (blank.gap _), scan_writeText,
      scan_colon blank, scan_write blank field _ _ (breaks_writeFields fields ends),
      scan_writeFields blank fields _ _ ends]
    simp [fieldTokens, Option.map_map, Function.comp_def]

end

theorem read?_write (blank : layout.Blank) (json : Json) (depth : Nat) :
    read? (String.ofList (write layout depth json)) = some json.value := by
  have scanned := scan_write blank json depth [] (by simp [Breaks])
  rw [List.append_nil] at scanned
  rw [read?, String.toList_ofList, scanned]
  simp [scan, Scan.finish, parse_tokens, Parse.result?]

theorem read?_pretty (json : Json) : read? json.pretty = some json.value :=
  read?_write blank_pretty json 0

example : (read? "[1, -2.5e+3, \"\\ud83d\\ude00\", [null]]").isSome = true := by decide +kernel

-- What is no JSON is refused.
example : (["[1,]", "01", "+1", "1.", "[1] 2", "nul", "\"\n\"", "\"\\ud83d\"", "\"\\x\""].all
    fun text => (read? text).isNone) = true := by decide +kernel

end Reading

end GroupRunner.Json
