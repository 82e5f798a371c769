import GroupRunner.Text.Utf8

set_option autoImplicit false

namespace GroupRunner.Utf8

theorem lead_one {b : UInt8} (most : b.toNat < 0x80) :
    lead b = ([some (Char.ofNat b.toNat)], .start) := by
  simp [lead, most]

theorem lead_two {b : UInt8} (least : 0xC2 ≤ b.toNat) (most : b.toNat < 0xE0) :
    lead b = ([], .inside 0 0x80 0xBF (b.toNat - 0xC0)) := by
  unfold lead
  rw [if_neg (by omega), if_neg (by omega), if_pos most]

-- The second byte keeps out long forms after E0 and surrogates after ED.
theorem lead_three {b : UInt8} (least : 0xE0 ≤ b.toNat) (most : b.toNat < 0xF0) :
    lead b = ([], .inside 1 (if b.toNat = 0xE0 then 0xA0 else 0x80)
      (if b.toNat = 0xED then 0x9F else 0xBF) (b.toNat - 0xE0)) := by
  unfold lead
  rw [if_neg (by omega), if_neg (by omega), if_neg (by omega)]
  by_cases first : b.toNat = 0xE0
  · simp [first]
  by_cases surrogate : b.toNat = 0xED
  · simp [surrogate]
  simp [first, surrogate, most]

-- The second byte keeps out long forms after F0 and what lies beyond the last plane after F4.
theorem lead_four {b : UInt8} (least : 0xF0 ≤ b.toNat) (most : b.toNat ≤ 0xF4) :
    lead b = ([], .inside 2 (if b.toNat = 0xF0 then 0x90 else 0x80)
      (if b.toNat = 0xF4 then 0x8F else 0xBF) (b.toNat - 0xF0)) := by
  unfold lead
  rw [if_neg (by omega), if_neg (by omega), if_neg (by omega), if_neg (by omega),
    if_neg (by omega), if_neg (by omega)]
  by_cases first : b.toNat = 0xF0
  · simp [first]
  by_cases last : b.toNat = 0xF4
  · simp [last]
  have inner : b.toNat < 0xF4 := by omega
  simp [first, last, inner]

theorem lead_other {b : UInt8} (least : 0x80 ≤ b.toNat)
    (outside : b.toNat < 0xC2 ∨ 0xF4 < b.toNat) : lead b = ([none], .start) := by
  unfold lead
  rw [if_neg (by omega)]
  by_cases low : b.toNat < 0xC2
  · rw [if_pos low]
  rw [if_neg low, if_neg (by omega), if_neg (by omega), if_neg (by omega), if_neg (by omega),
    if_neg (by omega), if_neg (by omega), if_neg (by omega)]

theorem read_start (b : UInt8) (rest : Bytes) :
    read .start (b :: rest) = (lead b).1 ++ read (lead b).2 rest := rfl

theorem read_inside {more : Nat} {low high b : UInt8} {value : Nat} {rest : Bytes}
    (between : low ≤ b ∧ b ≤ high) :
    read (.inside more low high value) (b :: rest) =
      match more with
      | 0 => some (Char.ofNat (value * 64 + (b.toNat - 0x80))) :: read .start rest
      | more + 1 => read (.inside more 0x80 0xBF (value * 64 + (b.toNat - 0x80))) rest := by
  cases more <;> simp only [read, step, if_pos between] <;> rfl

theorem wellFormed_inside {more : Nat} {low high : UInt8} {value : Nat} {bytes : Bytes}
    {cs : List Char} (read : wellFormed (read (.inside more low high value) bytes) = some cs) :
    ∃ b rest, bytes = b :: rest ∧ low ≤ b ∧ b ≤ high := by
  cases bytes with
  | nil => simp [Utf8.read, State.finish, wellFormed] at read
  | cons b rest =>
    by_cases between : low ≤ b ∧ b ≤ high
    · exact ⟨b, rest, rfl, between⟩
    · simp [Utf8.read, step, if_neg between, wellFormed] at read

theorem toNat_ofNat {n : Nat} (small : n < 256) : (UInt8.ofNat n).toNat = n := by
  rw [UInt8.toNat_ofNat']
  omega

theorem toNat_lt (c : Char) : c.toNat < 0x110000 := by
  rcases c.valid with low | high
  · exact Nat.lt_trans low (by decide)
  · exact high.2

theorem utf8EncodeChar_eq (c : Char) :
    String.utf8EncodeChar c =
      if c.toNat < 0x80 then [UInt8.ofNat c.toNat]
      else if c.toNat < 0x800 then
        [UInt8.ofNat (c.toNat / 64 + 0xC0), UInt8.ofNat (c.toNat % 64 + 0x80)]
      else if c.toNat < 0x10000 then
        [UInt8.ofNat (c.toNat / 4096 + 0xE0), UInt8.ofNat (c.toNat / 64 % 64 + 0x80),
          UInt8.ofNat (c.toNat % 64 + 0x80)]
      else
        [UInt8.ofNat (c.toNat / 262144 + 0xF0), UInt8.ofNat (c.toNat / 4096 % 64 + 0x80),
          UInt8.ofNat (c.toNat / 64 % 64 + 0x80), UInt8.ofNat (c.toNat % 64 + 0x80)] := by
  have limit := toNat_lt c
  change (if c.toNat ≤ 0x7F then _ else if c.toNat ≤ 0x7FF then _
    else if c.toNat ≤ 0xFFFF then _ else _) = _
  by_cases one : c.toNat < 0x80
  · rw [if_pos one, if_pos (by omega)]
    rfl
  rw [if_neg one, if_neg (by omega)]
  by_cases two : c.toNat < 0x800
  · rw [if_pos two, if_pos (by omega), ← Nat.mod_eq_of_lt (show c.toNat / 64 < 32 by omega)]
    rfl
  rw [if_neg two, if_neg (by omega)]
  by_cases three : c.toNat < 0x10000
  · rw [if_pos three, if_pos (by omega), ← Nat.mod_eq_of_lt (show c.toNat / 4096 < 16 by omega)]
    rfl
  rw [if_neg three, if_neg (by omega), ← Nat.mod_eq_of_lt (show c.toNat / 262144 < 8 by omega)]
  rfl

theorem between_ofNat {low high : UInt8} {n : Nat} (small : n < 256) (least : low.toNat ≤ n)
    (most : n ≤ high.toNat) : low ≤ UInt8.ofNat n ∧ UInt8.ofNat n ≤ high := by
  rw [UInt8.le_iff_toNat_le, UInt8.le_iff_toNat_le, toNat_ofNat small]
  exact ⟨least, most⟩

theorem toNat_between {low high b : UInt8} (between : low ≤ b ∧ b ≤ high) :
    low.toNat ≤ b.toNat ∧ b.toNat ≤ high.toNat := by
  simpa only [UInt8.le_iff_toNat_le] using between

theorem read_encodeChar (c : Char) (rest : Bytes) :
    read .start (String.utf8EncodeChar c ++ rest) = some c :: read .start rest := by
  have limit := toNat_lt c
  have scalar : c.toNat < 0xD800 ∨ 0xDFFF < c.toNat := by
    rcases c.valid with low | high
    · exact .inl low
    · exact .inr high.1
  rw [utf8EncodeChar_eq]
  by_cases one : c.toNat < 0x80
  · rw [if_pos one, List.singleton_append, read_start,
      lead_one (by rw [toNat_ofNat] <;> omega), toNat_ofNat (by omega), Char.ofNat_toNat]
    rfl
  rw [if_neg one]
  by_cases two : c.toNat < 0x800
  · have first : (UInt8.ofNat (c.toNat / 64 + 0xC0)).toNat = c.toNat / 64 + 0xC0 :=
      toNat_ofNat (by omega)
    have value : (c.toNat / 64 + 0xC0 - 0xC0) * 64 + (c.toNat % 64 + 0x80 - 0x80) = c.toNat := by
      omega
    rw [if_pos two]
    simp only [List.cons_append, List.nil_append]
    rw [read_start, lead_two (by omega) (by omega), List.nil_append,
      read_inside (between_ofNat (by omega) (by simp) (by simp; omega)), first,
      toNat_ofNat (by omega), value, Char.ofNat_toNat]
  rw [if_neg two]
  by_cases three : c.toNat < 0x10000
  · have first : (UInt8.ofNat (c.toNat / 4096 + 0xE0)).toNat = c.toNat / 4096 + 0xE0 :=
      toNat_ofNat (by omega)
    have value : ((c.toNat / 4096 + 0xE0 - 0xE0) * 64 + (c.toNat / 64 % 64 + 0x80 - 0x80)) * 64 +
        (c.toNat % 64 + 0x80 - 0x80) = c.toNat := by omega
    rw [if_pos three]
    simp only [List.cons_append, List.nil_append]
    rw [read_start, lead_three (by omega) (by omega), List.nil_append,
      read_inside (between_ofNat (by omega) (by split <;> simp; omega)
        (by split <;> simp <;> omega)), first, toNat_ofNat (by omega)]
    dsimp only
    rw [read_inside (between_ofNat (by omega) (by simp) (by simp; omega)),
      toNat_ofNat (by omega), value, Char.ofNat_toNat]
  · have first : (UInt8.ofNat (c.toNat / 262144 + 0xF0)).toNat = c.toNat / 262144 + 0xF0 :=
      toNat_ofNat (by omega)
    have value : (((c.toNat / 262144 + 0xF0 - 0xF0) * 64 +
        (c.toNat / 4096 % 64 + 0x80 - 0x80)) * 64 + (c.toNat / 64 % 64 + 0x80 - 0x80)) * 64 +
        (c.toNat % 64 + 0x80 - 0x80) = c.toNat := by omega
    rw [if_neg three]
    simp only [List.cons_append, List.nil_append]
    rw [read_start, lead_four (by omega) (by omega), List.nil_append,
      read_inside (between_ofNat (by omega) (by split <;> simp; omega)
        (by split <;> simp <;> omega)), first, toNat_ofNat (by omega)]
    dsimp only
    rw [read_inside (between_ofNat (by omega) (by simp) (by simp; omega)),
      toNat_ofNat (by omega)]
    dsimp only
    rw [read_inside (between_ofNat (by omega) (by simp) (by simp; omega)),
      toNat_ofNat (by omega), value, Char.ofNat_toNat]

theorem decode?_encode (text : String) : decode? (encode text) = some text := by
  have pieces (cs : List Char) :
      wellFormed (read .start (cs.flatMap String.utf8EncodeChar)) = some cs := by
    induction cs with
    | nil => rfl
    | cons c cs ih =>
      rw [List.flatMap_cons, read_encodeChar, wellFormed, ih]
      rfl
  simp [decode?, Utf8.pieces, encode, pieces]

theorem toNat_ofNat_of_scalar {n : Nat} (scalar : n < 0xD800 ∨ 0xDFFF < n ∧ n < 0x110000) :
    (Char.ofNat n).toNat = n := by
  have valid : n.isValidChar := scalar
  rw [Char.ofNat, dif_pos valid]
  rfl

theorem eq_ofNat {b : UInt8} {n : Nat} (value : b.toNat = n) : b = UInt8.ofNat n := by
  rw [← value, UInt8.ofNat_toNat]

theorem encodeChar_one {a : UInt8} (most : a.toNat < 0x80) :
    String.utf8EncodeChar (Char.ofNat a.toNat) = [a] := by
  rw [utf8EncodeChar_eq, toNat_ofNat_of_scalar (by omega), if_pos most, UInt8.ofNat_toNat]

theorem encodeChar_two {a b : UInt8} (lead : 0xC2 ≤ a.toNat ∧ a.toNat < 0xE0)
    (tail : 0x80 ≤ b.toNat ∧ b.toNat ≤ 0xBF) :
    String.utf8EncodeChar (Char.ofNat ((a.toNat - 0xC0) * 64 + (b.toNat - 0x80))) = [a, b] := by
  generalize read : (a.toNat - 0xC0) * 64 + (b.toNat - 0x80) = n
  rw [utf8EncodeChar_eq, toNat_ofNat_of_scalar (by omega), if_neg (by omega), if_pos (by omega),
    ← eq_ofNat (b := a) (by omega), ← eq_ofNat (b := b) (by omega)]

theorem encodeChar_three {a b c : UInt8} (lead : 0xE0 ≤ a.toNat ∧ a.toNat < 0xF0)
    (second : 0x80 ≤ b.toNat ∧ b.toNat ≤ 0xBF) (long : a.toNat = 0xE0 → 0xA0 ≤ b.toNat)
    (surrogate : a.toNat = 0xED → b.toNat ≤ 0x9F) (tail : 0x80 ≤ c.toNat ∧ c.toNat ≤ 0xBF) :
    String.utf8EncodeChar (Char.ofNat
      (((a.toNat - 0xE0) * 64 + (b.toNat - 0x80)) * 64 + (c.toNat - 0x80))) = [a, b, c] := by
  generalize read : ((a.toNat - 0xE0) * 64 + (b.toNat - 0x80)) * 64 + (c.toNat - 0x80) = n
  rw [utf8EncodeChar_eq, toNat_ofNat_of_scalar (by omega), if_neg (by omega), if_neg (by omega),
    if_pos (by omega), ← eq_ofNat (b := a) (by omega), ← eq_ofNat (b := b) (by omega),
    ← eq_ofNat (b := c) (by omega)]

theorem encodeChar_four {a b c d : UInt8} (lead : 0xF0 ≤ a.toNat ∧ a.toNat ≤ 0xF4)
    (second : 0x80 ≤ b.toNat ∧ b.toNat ≤ 0xBF) (long : a.toNat = 0xF0 → 0x90 ≤ b.toNat)
    (last : a.toNat = 0xF4 → b.toNat ≤ 0x8F) (third : 0x80 ≤ c.toNat ∧ c.toNat ≤ 0xBF)
    (tail : 0x80 ≤ d.toNat ∧ d.toNat ≤ 0xBF) :
    String.utf8EncodeChar (Char.ofNat
      ((((a.toNat - 0xF0) * 64 + (b.toNat - 0x80)) * 64 + (c.toNat - 0x80)) * 64 +
        (d.toNat - 0x80))) = [a, b, c, d] := by
  generalize read : (((a.toNat - 0xF0) * 64 + (b.toNat - 0x80)) * 64 + (c.toNat - 0x80)) * 64 +
    (d.toNat - 0x80) = n
  rw [utf8EncodeChar_eq, toNat_ofNat_of_scalar (by omega), if_neg (by omega), if_neg (by omega),
    if_neg (by omega), ← eq_ofNat (b := a) (by omega), ← eq_ofNat (b := b) (by omega),
    ← eq_ofNat (b := c) (by omega), ← eq_ofNat (b := d) (by omega)]

theorem eq_encode_of_wellFormed {bytes : Bytes} {cs : List Char}
    (text : wellFormed (read .start bytes) = some cs) :
    bytes = cs.flatMap String.utf8EncodeChar := by
  match bytes with
  | [] =>
    simp only [read, State.finish, wellFormed, Option.some.injEq] at text
    rw [← text]
    rfl
  | a :: rest =>
    rw [read_start] at text
    -- The first byte tells how many bytes follow; after them the reader is at a start again.
    by_cases one : a.toNat < 0x80
    · rw [lead_one one] at text
      obtain ⟨others, ends, rfl⟩ := Option.map_eq_some_iff.1 text
      rw [List.flatMap_cons, encodeChar_one one, ← eq_encode_of_wellFormed ends]
      rfl
    by_cases outside : a.toNat < 0xC2 ∨ 0xF4 < a.toNat
    · rw [lead_other (by omega) outside] at text
      simp [wellFormed] at text
    by_cases two : a.toNat < 0xE0
    · rw [lead_two (by omega) two, List.nil_append] at text
      obtain ⟨b, rest, rfl, between⟩ := wellFormed_inside text
      rw [read_inside between] at text
      obtain ⟨others, ends, rfl⟩ := Option.map_eq_some_iff.1 text
      rw [List.flatMap_cons, encodeChar_two ⟨by omega, two⟩ (toNat_between between),
        ← eq_encode_of_wellFormed ends]
      rfl
    by_cases three : a.toNat < 0xF0
    · rw [lead_three (by omega) three, List.nil_append] at text
      obtain ⟨b, rest, rfl, second⟩ := wellFormed_inside text
      rw [read_inside second] at text
      obtain ⟨c, rest, rfl, tail⟩ := wellFormed_inside text
      dsimp only at text
      rw [read_inside tail] at text
      obtain ⟨others, ends, rfl⟩ := Option.map_eq_some_iff.1 text
      -- The range of the second byte leaves out what is too small or a surrogate.
      obtain ⟨low, high⟩ := toNat_between second
      simp only [apply_ite UInt8.toNat, UInt8.reduceToNat] at low high
      rw [List.flatMap_cons, encodeChar_three ⟨by omega, three⟩
        ⟨by split at low <;> omega, by split at high <;> omega⟩ (fun first => by simp_all)
        (fun surrogate => by simp_all) (toNat_between tail), ← eq_encode_of_wellFormed ends]
      rfl
    · rw [lead_four (by omega) (by omega), List.nil_append] at text
      obtain ⟨b, rest, rfl, second⟩ := wellFormed_inside text
      rw [read_inside second] at text
      obtain ⟨c, rest, rfl, third⟩ := wellFormed_inside text
      dsimp only at text
      rw [read_inside third] at text
      obtain ⟨d, rest, rfl, tail⟩ := wellFormed_inside text
      dsimp only at text
      rw [read_inside tail] at text
      obtain ⟨others, ends, rfl⟩ := Option.map_eq_some_iff.1 text
      obtain ⟨low, high⟩ := toNat_between second
      simp only [apply_ite UInt8.toNat, UInt8.reduceToNat] at low high
      rw [List.flatMap_cons, encodeChar_four ⟨by omega, by omega⟩
        ⟨by split at low <;> omega, by split at high <;> omega⟩ (fun first => by simp_all)
        (fun last => by simp_all) (toNat_between third) (toNat_between tail),
        ← eq_encode_of_wellFormed ends]
      rfl
termination_by bytes.length
decreasing_by all_goals simp_all <;> omega

theorem decode?_eq_some_iff {bytes : Bytes} {text : String} :
    decode? bytes = some text ↔ bytes = encode text := by
  constructor
  · intro read
    obtain ⟨cs, formed, rfl⟩ := Option.map_eq_some_iff.1 read
    rw [encode, String.toList_ofList]
    exact eq_encode_of_wellFormed formed
  · rintro rfl
    exact decode?_encode text

theorem encode_injective {a b : String} (same : encode a = encode b) : a = b := by
  have read := decode?_encode a
  rw [same, decode?_encode] at read
  exact (Option.some.inj read).symm

end GroupRunner.Utf8
