import GroupRunner.Config
import GroupRunner.Proofs.Text.Words

set_option autoImplicit false

namespace GroupRunner

open Text

-- A word that is shown as it is and yet begins with a quote.
def LooksQuoted (word : String) : Prop :=
  word.toList.head? = some '"' ∧ word.toList.any isBlank = false
  deriving Decidable

section Words

variable {word : String} {words : List String}

theorem showArgument_cases (word : String) :
    showArgument word = quote word ∨
      showArgument word = word ∧ word.toList ≠ [] ∧ word.toList.any isBlank = false := by
  unfold showArgument
  split
  next => exact .inl rfl
  next plain =>
    rw [Bool.or_eq_true, not_or, Bool.not_eq_true, Bool.not_eq_true] at plain
    obtain ⟨nonempty, solid⟩ := plain
    refine .inr ⟨rfl, fun empty => ?_, solid⟩
    rw [String.toList_eq_nil_iff] at empty
    rw [empty] at nonempty
    cases nonempty

theorem scan_showArgument (honest : ¬LooksQuoted word) :
    ∃ state : Scan, state.word? = some word ∧ ∀ rest,
      scan .outset ((showArgument word).toList ++ rest) = scan state rest := by
  rcases showArgument_cases word with quoted | ⟨plain, nonempty, solid⟩
  · refine ⟨.closed word.toList.reverse, ?_, fun rest => ?_⟩
    · rw [Scan.word?, List.reverse_reverse, String.ofList_toList]
    · rw [quoted, quote, String.toList_ofList, scan_quote]
  · obtain ⟨c, chars, spelt⟩ := List.exists_cons_of_ne_nil nonempty
    have noSpace (d : Char) (member : d ∈ c :: chars) : d ≠ ' ' := by
      rintro rfl
      exact List.any_eq_false.1 solid ' ' (spelt ▸ member) (by decide)
    have noQuote : c ≠ '"' := by
      rintro rfl
      exact honest ⟨by rw [spelt, List.head?_cons], solid⟩
    have first : Scan.step .outset c = some (.bare [c]) := by
      rw [Scan.step, if_neg noQuote, if_neg (noSpace c List.mem_cons_self)]
    refine ⟨.bare (chars.reverse ++ [c]), ?_, fun rest => ?_⟩
    · rw [Scan.word?, ← List.reverse_cons, List.reverse_reverse, ← spelt, String.ofList_toList]
    · rw [plain, spelt, List.cons_append, scan_step first (.inr rfl),
        scan_bare fun d member => noSpace d (List.mem_cons_of_mem _ member)]

theorem words?_intercalate (nonempty : words ≠ []) (honest : ∀ word ∈ words, ¬LooksQuoted word) :
    words? (String.intercalate " " (words.map showArgument)) = some words := by
  induction words with
  | nil => exact absurd rfl nonempty
  | cons word words ih =>
    obtain ⟨state, complete, reached⟩ := scan_showArgument (honest word List.mem_cons_self)
    cases words with
    | nil =>
      have ended := reached []
      rw [List.append_nil] at ended
      rw [List.map_cons, List.map_nil, String.intercalate_singleton, words?, ended, scan, complete,
        Option.map_some]
    | cons second words =>
      have later := ih (List.cons_ne_nil _ _) fun other member =>
        honest other (List.mem_cons_of_mem _ member)
      have space : " ".toList = [' '] := rfl
      rw [List.map_cons, words?] at later
      rw [List.map_cons, List.map_cons, String.intercalate_cons_cons, words?, String.toList_append,
        String.toList_append, List.append_assoc, reached, space, List.singleton_append,
        scan_blank complete, later, Option.map_some]

end Words

namespace Config

def words (config : Config) : List String := config.binary.display :: config.arguments

theorem words?_commandLine {config : Config} (honest : ∀ word ∈ config.words, ¬LooksQuoted word) :
    words? config.commandLine = some config.words :=
  words?_intercalate (List.cons_ne_nil _ _) honest

theorem commandLine_read_back (config other : Config) :
    ((∀ word ∈ config.words, ¬LooksQuoted word) →
      words? config.commandLine =
        some (config.binary.display :: templateArgs ++ config.extraArgs)) ∧
    (config.commandLine = other.commandLine →
      config.words = other.words ∨ ∃ word ∈ config.words ++ other.words, LooksQuoted word) := by
  refine ⟨words?_commandLine, fun alike => ?_⟩
  by_cases honest : ∃ word ∈ config.words ++ other.words, LooksQuoted word
  · exact .inr honest
  · simp only [not_exists, not_and, List.mem_append] at honest
    have mine := words?_commandLine fun word member => honest word (.inl member)
    have theirs := words?_commandLine fun word member => honest word (.inr member)
    rw [alike, theirs] at mine
    exact .inl (Option.some.inj mine).symm

end Config

def Sample.awkward : Config where
  binary := .ofString "/opt/test runs/tool"
  extraArgs := ["", " ", "say \"no\"", "\"two words\"", "back\\slash", "\\u\x7b20\x7d",
    "tab\tand\nline", "\u00a0", "e\u0301 \u200b", "-v"]

theorem awkward_commandLine_read_back :
    (∀ word ∈ Sample.awkward.words, ¬LooksQuoted word) ∧
      Text.words? Sample.awkward.commandLine = some
        (Sample.awkward.binary.display :: templateArgs ++ Sample.awkward.extraArgs) := by
  have honest : ∀ word ∈ Sample.awkward.words, ¬LooksQuoted word := by decide +kernel
  exact ⟨honest, (Config.commandLine_read_back Sample.awkward Sample.awkward).1 honest⟩

-- An empty argument and one that consists of two quotes are echoed alike.
example :
    let quoted : Config := { Sample.awkward with extraArgs := ["\"\""] }
    let empty : Config := { Sample.awkward with extraArgs := [""] }
    quoted.commandLine = empty.commandLine ∧ quoted.words ≠ empty.words := by
  decide +kernel

end GroupRunner
