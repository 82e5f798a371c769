import GroupRunner.Program
import GroupRunner.Proofs.Execution.Turn
import GroupRunner.Proofs.Text.Digits
import Mathlib.Data.List.Induction
import Mathlib.Data.List.TakeWhile

set_option autoImplicit false

namespace GroupRunner

def Dashed (text : String) : Prop := text.toList.head? = some '-'

instance (text : String) : Decidable (Dashed text) := inferInstanceAs (Decidable (_ = _))

def decimal (text : String) : Nat := Nat.ofDigitChars 10 text.toList 0

inductive Occurrence
  | flag (f : Flag)
  | joined (option : Valued) (value : String)
  | apart (option : Valued) (value : String)
  deriving DecidableEq

def Valued.Accepts (option : Valued) (value : String) : Prop :=
  match option with
  | .ignore | .expectStderr => True
  | .pruneThreshold =>
    value ≠ "" ∧ value.toList.all Char.isDigit = true ∧ decimal value < UInt64.size
  | .jsonReport => value ≠ ""

instance (option : Valued) (value : String) : Decidable (option.Accepts value) :=
  match option with
  | .ignore | .expectStderr => .isTrue trivial
  | .pruneThreshold => inferInstanceAs (Decidable (_ ∧ _ ∧ _))
  | .jsonReport => inferInstanceAs (Decidable (_ ≠ _))

namespace Occurrence

def name : Occurrence → OptionName
  | .flag f => .flag f
  | .joined option _ | .apart option _ => .valued option

def words : Occurrence → List String
  | .flag f => ["--" ++ f.word]
  | .joined option value => ["--" ++ option.word ++ "=" ++ value]
  | .apart option value => ["--" ++ option.word, value]

def value? (wanted : Valued) : Occurrence → Option String
  | .flag _ => none
  | .joined option value | .apart option value => if option = wanted then some value else none

-- A value in a word of its own must not look like an option.
def Fits : Occurrence → Prop
  | .flag f => f ≠ .help ∧ f ≠ .version
  | .joined option value => option.Accepts value
  | .apart option value => option.Accepts value ∧ ¬ Dashed value

instance (occurrence : Occurrence) : Decidable occurrence.Fits :=
  match occurrence with
  | .flag _ => inferInstanceAs (Decidable (_ ∧ _))
  | .joined option value => inferInstanceAs (Decidable (option.Accepts value))
  | .apart _ _ => inferInstanceAs (Decidable (_ ∧ _))

-- Only the options that add to a list may come more than once.
def Once (occurrences : List Occurrence) : Prop :=
  ∀ name, name ≠ .valued .ignore → name ≠ .valued .expectStderr →
    (occurrences.map Occurrence.name).count name ≤ 1

def values (wanted : Valued) (occurrences : List Occurrence) : List String :=
  occurrences.filterMap (value? wanted)

end Occurrence

open Occurrence (values)

def Options.given (occurrences : List Occurrence) : Options where
  ignore := values .ignore occurrences
  expectStderr := values .expectStderr occurrences
  pruneThreshold := (values .pruneThreshold occurrences).head?.map decimal
  list := .flag .list ∈ occurrences
  summary := .flag .summary ∈ occurrences
  jsonReport := (values .jsonReport occurrences).head?.map .ofString
  noColor := .flag .noColor ∈ occurrences

section Words

theorem ofWord?_word (name : OptionName) : OptionName.ofWord? name.word = some name := by
  cases name with
  | valued option => cases option <;> decide +kernel
  | flag flag => cases flag <;> decide +kernel

theorem word_plain (name : OptionName) : '=' ∉ name.word.toList ∧ name.word.toList ≠ [] := by
  cases name with
  | valued option => cases option <;> decide +kernel
  | flag flag => cases flag <;> decide +kernel

namespace CommandWord

theorem splitLong_word {word : List Char} (plain : '=' ∉ word) :
    splitLong word = (String.ofList word, none) := by
  have whole : word.takeWhile (· != '=') = word := by
    rw [List.takeWhile_eq_self_iff]
    intro c member
    exact bne_iff_ne.2 fun same => plain (same ▸ member)
  rw [splitLong, whole, List.drop_length]

theorem splitLong_joined {word : List Char} (plain : '=' ∉ word) (value : List Char) :
    splitLong (word ++ '=' :: value) = (String.ofList word, some (String.ofList value)) := by
  have upTo : (word ++ '=' :: value).takeWhile (· != '=') = word := by
    rw [List.takeWhile_append_of_pos, List.takeWhile_cons_of_neg, List.append_nil]
    · simp
    · intro c member
      exact bne_iff_ne.2 fun same => plain (same ▸ member)
  rw [splitLong, upTo, List.drop_left]

theorem ofText_long {text : String} {long : List Char} (shape : text.toList = '-' :: '-' :: long)
    (filled : long ≠ []) {name : OptionName} {value : Option String}
    (split : splitLong long = (name.word, value)) : ofText text = .option name value := by
  cases long with
  | nil => exact absurd rfl filled
  | cons c rest =>
    unfold ofText
    rw [shape]
    simp only [split, ofWord?_word]

theorem ofText_option (name : OptionName) : ofText ("--" ++ name.word) = .option name none := by
  obtain ⟨plain, filled⟩ := word_plain name
  refine ofText_long (by rw [String.toList_append]; rfl) filled ?_
  rw [splitLong_word plain, String.ofList_toList]

theorem ofText_joined (name : OptionName) (value : String) :
    ofText ("--" ++ name.word ++ "=" ++ value) = .option name (some value) := by
  obtain ⟨plain, filled⟩ := word_plain name
  have shape : ("--" ++ name.word ++ "=" ++ value).toList =
      '-' :: '-' :: (name.word.toList ++ '=' :: value.toList) := by
    simp only [String.toList_append, List.append_assoc]
    rfl
  refine ofText_long shape (by simp) ?_
  rw [splitLong_joined plain, String.ofList_toList, String.ofList_toList]

theorem ofText_other {text : String} (plain : ¬ Dashed text) : ofText text = .other text := by
  unfold ofText
  cases shape : text.toList with
  | nil => rfl
  | cons c rest =>
    have other : c ≠ '-' := fun same => plain (by rw [Dashed, shape, same]; rfl)
    split <;> simp_all

end CommandWord

end Words

section Numbers

theorem le_ofDigitChars (digits : List Char) (n : Nat) : n ≤ Nat.ofDigitChars 10 digits n := by
  induction digits generalizing n with
  | nil => simp
  | cons c rest ih =>
    rw [Nat.ofDigitChars_cons]
    exact Nat.le_trans (by omega) (ih _)

theorem readNumber_go {digits : List Char} (allDigits : ∀ c ∈ digits, c.isDigit = true) {n : Nat}
    (fits : Nat.ofDigitChars 10 digits n < UInt64.size) :
    readNumber.go n digits = .ok (Nat.ofDigitChars 10 digits n) := by
  induction digits generalizing n with
  | nil => simp [readNumber.go]
  | cons c rest ih =>
    rw [Nat.ofDigitChars_cons] at fits ⊢
    -- A number never shrinks by further digits, so it fits at every digit if it fits at the end.
    have inside := Nat.lt_of_le_of_lt (le_ofDigitChars rest _) fits
    rw [readNumber.go, if_pos (allDigits c List.mem_cons_self), if_pos inside]
    exact ih (fun d member => allDigits d (List.mem_cons_of_mem _ member)) fits

theorem readNumber_decimal {text : String} (accepts : Valued.pruneThreshold.Accepts text) :
    readNumber text = .ok (decimal text) := by
  obtain ⟨filled, allDigits, fits⟩ := accepts
  unfold readNumber decimal at *
  cases shape : text.toList with
  | nil => exact absurd (String.toList_inj.1 shape) filled
  | cons c rest =>
    rw [shape] at allDigits fits
    have allDigits := List.all_eq_true.1 allDigits
    have digit := allDigits c List.mem_cons_self
    split
    · simp_all
    · simp_all
    · simp_all
    · exact readNumber_go allDigits fits

theorem accepts_toString {n : Nat} (fits : n < UInt64.size) :
    Valued.pruneThreshold.Accepts (toString n) ∧ decimal (toString n) = n := by
  have chars := toList_toString n
  have value : decimal (toString n) = n := by
    rw [decimal, chars, Nat.ofDigitChars_ten_toDigits]
  refine ⟨⟨fun empty => ?_, List.all_eq_true.2 fun c member => ?_, value.symm ▸ fits⟩, value⟩
  · rw [empty] at chars
    exact Nat.toDigits_ne_nil chars.symm
  · exact isDigit_of_mem_toString member

end Numbers

section Reading

variable {options current next : Options} {waiting : Option Options.Waiting}
variable {prior occurrences : List Occurrence} {occurrence : Occurrence} {rest : List String}

def Options.put (options : Options) : Occurrence → Except OptionStop Options
  | .flag f => options.setFlag f
  | .joined option value | .apart option value => options.setValue option value

theorem read_words (rest : List String) (settled : options.settle waiting = .ok current)
    (put : current.put occurrence = .ok next) (fits : occurrence.Fits) :
    ∃ (options' : Options) (waiting' : Option Options.Waiting),
      options.read waiting (occurrence.words ++ rest) = options'.read waiting' rest ∧
        options'.settle waiting' = .ok next := by
  cases occurrence with
  | flag f =>
    refine ⟨next, none, ?_, rfl⟩
    have set : current.setFlag f = .ok next := put
    have word := CommandWord.ofText_option (.flag f)
    simp only [Occurrence.words, List.cons_append, List.nil_append]
    rw [Options.read, show "--" ++ f.word = "--" ++ (OptionName.flag f).word from rfl, word]
    simp only [settled, set]
  | joined option value =>
    refine ⟨next, none, ?_, rfl⟩
    have set : current.setValue option value = .ok next := put
    have word := CommandWord.ofText_joined (.valued option) value
    simp only [Occurrence.words, List.cons_append, List.nil_append]
    rw [Options.read, show option.word = (OptionName.valued option).word from rfl, word]
    simp only [settled, set]
  | apart option value =>
    -- The value has been read, but it is settled only by what comes next.
    refine ⟨current, some ⟨option, some value⟩, ?_, put⟩
    have word := CommandWord.ofText_option (.valued option)
    have other := CommandWord.ofText_other fits.2
    simp only [Occurrence.words, List.cons_append, List.nil_append]
    rw [Options.read, show option.word = (OptionName.valued option).word from rfl, word]
    simp only [settled]
    rw [Options.read, other]

theorem read_binary {binary : String} (settled : options.settle waiting = .ok current)
    (plain : ¬ Dashed binary) :
    options.read waiting (binary :: rest) = .ok { current with args := binary :: rest } := by
  rw [Options.read, CommandWord.ofText_other plain]
  cases waiting with
  | none =>
    simp only [settled]
    rfl
  | some pending =>
    obtain ⟨option, value⟩ := pending
    cases value with
    | none => cases settled
    | some value =>
      simp only [settled]
      rfl

theorem values_append (wanted : Valued) : values wanted (prior ++ occurrences) =
    values wanted prior ++ values wanted occurrences := List.filterMap_append

theorem not_mem_of_once {name : OptionName} (once : Occurrence.Once (prior ++ [occurrence]))
    (named : occurrence.name = name) (ignore : name ≠ .valued .ignore)
    (expectStderr : name ≠ .valued .expectStderr) : name ∉ prior.map Occurrence.name := by
  have few := once name ignore expectStderr
  rw [List.map_append, List.count_append, List.map_singleton, named, List.count_singleton_self] at few
  exact List.count_eq_zero.1 (by omega)

theorem flag_not_mem {f : Flag} (absent : OptionName.flag f ∉ prior.map Occurrence.name) :
    Occurrence.flag f ∉ prior :=
  fun member => absent (List.mem_map.2 ⟨_, member, rfl⟩)

theorem values_eq_nil {option : Valued}
    (absent : OptionName.valued option ∉ prior.map Occurrence.name) : values option prior = [] := by
  rw [values, List.filterMap_eq_nil_iff]
  intro other member
  have differ : other.name ≠ .valued option := fun same => absent (List.mem_map.2 ⟨_, member, same⟩)
  cases other with
  | flag f => rfl
  | joined name value | apart name value =>
    exact if_neg fun same => differ (congrArg OptionName.valued same)

theorem setFlag_given {f : Flag} (fits : f ≠ .help ∧ f ≠ .version)
    (once : Occurrence.Once (prior ++ [.flag f])) :
    (Options.given prior).setFlag f = .ok (Options.given (prior ++ [.flag f])) := by
  have absent : Occurrence.flag f ∉ prior :=
    flag_not_mem (not_mem_of_once once rfl (by simp) (by simp))
  cases f with
  | list | summary | noColor =>
    simp [Options.setFlag, Options.given, values, Occurrence.value?, absent]
  | help => exact absurd rfl fits.1
  | version => exact absurd rfl fits.2

theorem setValue_given {option : Valued} {value : String} (accepts : option.Accepts value)
    (once : Occurrence.Once (prior ++ [.joined option value])) :
    (Options.given prior).setValue option value =
      .ok (Options.given (prior ++ [.joined option value])) := by
  cases option with
  | ignore | expectStderr =>
    simp [Options.setValue, Options.given, values, Occurrence.value?]
  | pruneThreshold =>
    have absent : values .pruneThreshold prior = [] :=
      values_eq_nil (not_mem_of_once once rfl (by simp) (by simp))
    simp [Options.setValue, Options.given, values_append, absent, readNumber_decimal accepts]
    simp [values, Occurrence.value?]
  | jsonReport =>
    have absent : values .jsonReport prior = [] :=
      values_eq_nil (not_mem_of_once once rfl (by simp) (by simp))
    have filled : value ≠ "" := accepts
    simp [Options.setValue, Options.given, values_append, absent, filled]
    simp [values, Occurrence.value?]

theorem put_given (fits : occurrence.Fits) (once : Occurrence.Once (prior ++ [occurrence])) :
    (Options.given prior).put occurrence = .ok (Options.given (prior ++ [occurrence])) := by
  cases occurrence with
  | flag f => exact setFlag_given fits once
  | joined option value => exact setValue_given fits once
  | apart option value =>
    -- The two ways to write a value say the same.
    have same : Options.given (prior ++ [.apart option value]) =
        Options.given (prior ++ [.joined option value]) := by
      simp [Options.given, values, Occurrence.value?, List.filterMap_cons]
    have once' : Occurrence.Once (prior ++ [.joined option value]) := by
      simpa [Occurrence.Once, Occurrence.name] using once
    rw [same]
    exact setValue_given fits.1 once'

theorem read_occurrences {binary : String} (settled : options.settle waiting = .ok (.given prior))
    (fits : ∀ occurrence ∈ occurrences, occurrence.Fits)
    (once : Occurrence.Once (prior ++ occurrences)) (plain : ¬ Dashed binary) :
    options.read waiting (occurrences.flatMap Occurrence.words ++ binary :: rest) =
      .ok { Options.given (prior ++ occurrences) with args := binary :: rest } := by
  -- What has been read, with what still waits to be settled, is what the options so far say.
  induction occurrences generalizing prior options waiting with
  | nil =>
    rw [List.append_nil]
    exact read_binary settled plain
  | cons occurrence later ih =>
    have onward : prior ++ occurrence :: later = (prior ++ [occurrence]) ++ later := by simp
    rw [onward] at once ⊢
    have once' : Occurrence.Once (prior ++ [occurrence]) := by
      intro name ignore expectStderr
      have few := once name ignore expectStderr
      rw [List.map_append, List.count_append] at few
      omega
    have fit := fits occurrence List.mem_cons_self
    obtain ⟨options', waiting', read, settled'⟩ :=
      read_words (later.flatMap Occurrence.words ++ binary :: rest) settled (put_given fit once') fit
    rw [List.flatMap_cons, List.append_assoc, read]
    exact ih settled' (fun next member => fits next (List.mem_cons_of_mem _ member)) once

end Reading

theorem ofArguments_of_written {occurrences : List Occurrence} {binary : String}
    (rest : List String) (fits : ∀ occurrence ∈ occurrences, occurrence.Fits)
    (once : Occurrence.Once occurrences) (plain : ¬ Dashed binary) :
    let options := { Options.given occurrences with args := binary :: rest }
    Options.ofArguments (occurrences.flatMap Occurrence.words ++ binary :: rest) = .ok options ∧
    (∀ n < UInt64.size,
      Valued.pruneThreshold.Accepts (toString n) ∧ decimal (toString n) = n) ∧
    ∀ root, ensureTestsDirectory root = .ok () → ∃ config, options.prepare root = .ok config ∧
      config.binary = .ofString binary ∧
      config.arguments = ["test_group.c", "-t", "test-file.txt"] ++ rest ∧
      config.ignore.fragments = (if values .ignore occurrences = [] then ["groupH", "groupJ"]
        else values .ignore occurrences).eraseDups ∧
      config.expectedStderr = (if values .expectStderr occurrences = [] then ["groupH"]
        else values .expectStderr occurrences) ∧
      config.pruneThreshold = ((values .pruneThreshold occurrences).head?.map decimal).getD 2 ∧
      (∀ group stdout stderr,
        (Execution.launchOf config group stdout stderr).binary = .ofString binary ∧
        (Execution.launchOf config group stdout stderr).arguments =
          ["test_group.c", "-t", "test-file.txt"] ++ rest) ∧
      ∀ host group fs stdout stderr ready, TestGroup.Readies group fs stdout stderr ready →
        Execution.start host config group fs =
          let answer := host.launch
            { binary := .ofString binary
              arguments := ["test_group.c", "-t", "test-file.txt"] ++ rest
              directory := group.path, stdout, stderr } ready
          (answer.1.mapError (.launch config.binary.display), answer.2) := by
  intro options
  refine ⟨?_, fun n fits => accepts_toString fits, fun root here => ?_⟩
  · change Options.read {} none _ = .ok { Options.given ([] ++ occurrences) with args := _ }
    exact read_occurrences rfl fits once plain
  · refine ⟨options.config binary rest, ?_, rfl, rfl, ?_, ?_, rfl, fun _ _ _ => ⟨rfl, rfl⟩,
      fun host group fs stdout stderr ready readies => Execution.start_of_readies readies⟩
    · rw [Options.prepare, here]
    · rw [← IgnoreSet.fragments_ofList]
      change (if (values .ignore occurrences).isEmpty then .ofList defaultIgnore
        else .ofList (values .ignore occurrences) : IgnoreSet).fragments = _
      cases values .ignore occurrences with
      | nil => rfl
      | cons fragment others => rfl
    · change (if (values .expectStderr occurrences).isEmpty then defaultExpectedStderr
        else values .expectStderr occurrences) = _
      cases values .expectStderr occurrences with
      | nil => rfl
      | cons group others => rfl

theorem ofArguments_of_sample :
    let occurrences : List Occurrence :=
      [.joined .ignore "--list", .flag .summary, .apart .pruneThreshold (toString 0),
        .apart .ignore "", .joined .jsonReport "-"]
    let command := occurrences.flatMap Occurrence.words ++ "/opt/jcut" :: ["--list", "--", "--help"]
    (∀ occurrence ∈ occurrences, occurrence.Fits) ∧ Occurrence.Once occurrences ∧
    ¬ Dashed "/opt/jcut" ∧ ensureTestsDirectory (.ofString "/jcut/tests") = .ok () ∧
    ∃ options config, Options.ofArguments command = .ok options ∧
      options.prepare (.ofString "/jcut/tests") = .ok config ∧
      config.arguments = ["test_group.c", "-t", "test-file.txt", "--list", "--", "--help"] ∧
      config.ignore.fragments = ["--list", ""] ∧ config.pruneThreshold = 0 := by
  intro occurrences command
  have fits : ∀ occurrence ∈ occurrences, occurrence.Fits := by decide +kernel
  have once : Occurrence.Once occurrences := by
    intro name ignore expectStderr
    cases name with
    | valued option =>
      cases option with
      | ignore => exact absurd rfl ignore
      | expectStderr => exact absurd rfl expectStderr
      | pruneThreshold | jsonReport => decide
    | flag f => cases f <;> decide
  have plain : ¬ Dashed "/opt/jcut" := by decide +kernel
  have here : ensureTestsDirectory (.ofString "/jcut/tests") = .ok () := by decide +kernel
  refine ⟨fits, once, plain, here, ?_⟩
  obtain ⟨read, -, prepared⟩ := ofArguments_of_written ["--list", "--", "--help"] fits once plain
  obtain ⟨config, made, -, arguments, ignore, -, threshold, -, -⟩ := prepared _ here
  refine ⟨_, config, read, made, arguments, ?_, ?_⟩
  · rw [ignore]
    decide +kernel
  · rw [threshold]
    decide +kernel

end GroupRunner
