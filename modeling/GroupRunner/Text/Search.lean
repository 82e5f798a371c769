set_option autoImplicit false

namespace GroupRunner.Text

def occursIn (fragment : List Char) : List Char → Bool
  | [] => fragment.isEmpty
  | c :: rest => fragment.isPrefixOf (c :: rest) || occursIn fragment rest

def contains (text fragment : String) : Bool :=
  occursIn fragment.toList text.toList

def trimLineEnds (text : String) : String :=
  String.ofList (text.toList.reverse.dropWhile fun c => c == '\r' || c == '\n').reverse

def lines (text : String) : List String :=
  (text.toList.splitOn '\n').map String.ofList

theorem occursIn_iff {fragment text : List Char} :
    occursIn fragment text = true ↔ fragment <:+: text := by
  induction text with
  | nil => simp [occursIn]
  | cons c rest ih => simp [occursIn, ih, List.infix_cons_iff]

end GroupRunner.Text
