import GroupRunner.Proofs.Text.Digits
import GroupRunner.Report.Text
import Mathlib.Data.List.Find

set_option autoImplicit false

namespace GroupRunner

def escape : Char := '\x1b'

namespace Tint

def sequences : List (List Char) :=
  [opening .success, opening .failure, opening .warning, reset]

def sequence? (text : List Char) : Option (List Char) :=
  sequences.find? fun sequence => sequence.isPrefixOf text

-- The sequences are taken out in one pass from left to right: what comes together when one goes is
-- left. So many characters still belong to a sequence.
def strip : Nat → List Char → List Char
  | _, [] => []
  | skipped + 1, _ :: rest => strip skipped rest
  | 0, c :: rest =>
    match sequence? (c :: rest) with
    | some sequence => strip (sequence.length - 1) rest
    | none => c :: strip 0 rest

section Strip

variable {text sequence : List Char}

theorem sequence?_of_ne {c : Char} (other : c ≠ escape) (rest : List Char) :
    sequence? (c :: rest) = none := by
  have begins : ∀ sequence ∈ sequences, sequence.head? = some escape := by decide
  rw [sequence?, List.find?_eq_none]
  intro sequence member
  have first := begins sequence member
  cases sequence with
  | nil => cases first
  | cons d more =>
    obtain rfl := Option.some.inj first
    simp [List.isPrefixOf, Ne.symm other]

theorem sequence?_append (member : sequence ∈ sequences) (rest : List Char) :
    sequence? (sequence ++ rest) = some sequence := by
  simp only [sequences, List.mem_cons, List.not_mem_nil, or_false] at member
  rcases member with rfl | rfl | rfl | rfl <;> rfl

theorem begins_of_sequence? (found : sequence? text = some sequence) : sequence <+: text := by
  rw [sequence?] at found
  simpa using List.find?_some found

theorem strip_skip (skipped rest : List Char) :
    strip skipped.length (skipped ++ rest) = strip 0 rest := by
  induction skipped with
  | nil => rfl
  | cons c skipped ih => exact ih

theorem strip_sequence (member : sequence ∈ sequences) (rest : List Char) :
    strip 0 (sequence ++ rest) = strip 0 rest := by
  have known := sequence?_append member rest
  cases sequence with
  | nil => rfl
  | cons c more =>
    rw [List.cons_append] at known ⊢
    simp only [strip, known]
    exact strip_skip more rest

theorem strip_clean (clean : escape ∉ text) (rest : List Char) :
    strip 0 (text ++ rest) = text ++ strip 0 rest := by
  induction text with
  | nil => rfl
  | cons c text ih =>
    rw [List.mem_cons, not_or] at clean
    simp only [List.cons_append, strip, sequence?_of_ne (Ne.symm clean.1), ih clean.2]

theorem reopen_clean (tint : Tint) (clean : escape ∉ text) : tint.reopen text = text := by
  induction text with
  | nil => rfl
  | cons c text ih =>
    rw [List.mem_cons, not_or] at clean
    rw [reopen, ih clean.2]
    rintro rest rfl -
    exact clean.1 rfl

theorem strip_paint (tint : Tint) (clean : escape ∉ text) (rest : List Char) :
    strip 0 (tint.paint text ++ rest) = text ++ strip 0 rest := by
  have opens : tint.opening ∈ sequences := by cases tint <;> decide
  have closes : reset ∈ sequences := by decide
  rw [paint, reopen_clean tint clean, List.append_assoc, List.append_assoc, strip_sequence opens,
    strip_clean clean, strip_sequence closes]

theorem sequence?_append_newline (before after : List Char) :
    sequence? (before ++ '\n' :: after) = sequence? before := by
  have whole : ∀ sequence ∈ sequences, '\n' ∉ sequence := by decide
  have begins : ∀ sequence ∈ sequences,
      sequence.isPrefixOf (before ++ '\n' :: after) = sequence.isPrefixOf before := by
    intro sequence member
    have inside := whole sequence member
    clear member
    induction sequence generalizing before with
    | nil => rfl
    | cons c sequence ih =>
      rw [List.mem_cons, not_or] at inside
      cases before with
      | nil => simp [List.isPrefixOf, Ne.symm inside.1]
      | cons d before => simp only [List.cons_append, List.isPrefixOf, ih before inside.2]
  rw [sequence?, sequence?]
  exact List.find?_congr begins

theorem strip_append_newline {skipped : Nat} {before : List Char} (fits : skipped ≤ before.length)
    (after : List Char) : strip skipped (before ++ '\n' :: after) =
      strip skipped before ++ '\n' :: strip 0 after := by
  induction before generalizing skipped with
  | nil =>
    obtain rfl := Nat.le_zero.1 fits
    have apart : '\n' ≠ escape := by decide
    simp only [List.nil_append, strip, sequence?_of_ne apart]
  | cons c before ih =>
    cases skipped with
    | succ skipped => exact ih (Nat.le_of_succ_le_succ fits)
    | zero =>
      have same := sequence?_append_newline (c :: before) after
      rw [List.cons_append] at same
      simp only [List.cons_append, strip, same]
      cases found : sequence? (c :: before) with
      | none => simp only [ih (Nat.zero_le _), List.cons_append]
      | some sequence =>
        apply ih
        have short := (begins_of_sequence? found).length_le
        rw [List.length_cons] at short
        omega

theorem strip_intercalate (lines : List (List Char)) :
    strip 0 (['\n'].intercalate lines) = ['\n'].intercalate (lines.map (strip 0)) := by
  induction lines with
  | nil => rfl
  | cons line rest ih =>
    cases rest with
    | nil => simp only [List.map_cons, List.map_nil, List.intercalate_singleton]
    | cons next rest =>
      simp only [List.map_cons, List.intercalate_cons_cons, List.append_assoc,
        List.singleton_append] at ih ⊢
      rw [strip_append_newline (Nat.zero_le _), ih]

end Strip

end Tint

def uncolored (text : String) : String :=
  String.ofList (Tint.strip 0 text.toList)

example : uncolored "\x1b\x1b[0m[33m\x1b[33m" = "\x1b[33m" := by decide +kernel

theorem uncolored_lines (lines : List String) : uncolored (String.intercalate "\n" lines) =
    String.intercalate "\n" (lines.map uncolored) := by
  apply String.toList_inj.1
  rw [uncolored, String.toList_ofList, String.toList_intercalate, String.toList_intercalate,
    List.map_map]
  change Tint.strip 0 (['\n'].intercalate _) = ['\n'].intercalate _
  rw [Tint.strip_intercalate, List.map_map]
  simp [Function.comp_def, uncolored]

theorem uncolored_append {text : String} (clean : escape ∉ text.toList) (rest : String) :
    uncolored (text ++ rest) = text ++ uncolored rest := by
  apply String.toList_inj.1
  rw [uncolored, String.toList_append, Tint.strip_clean clean, String.toList_ofList,
    String.toList_append, uncolored, String.toList_ofList]

theorem uncolored_empty : uncolored "" = "" := rfl

theorem uncolored_clean {text : String} (clean : escape ∉ text.toList) : uncolored text = text := by
  have cut := uncolored_append clean ""
  rwa [String.append_empty, uncolored_empty, String.append_empty] at cut

theorem uncolored_paint (style : Style) (tint : Tint) {text : String}
    (clean : escape ∉ text.toList) (rest : String) :
    uncolored (style.paint tint text ++ rest) = text ++ uncolored rest := by
  cases style with
  | plain => exact uncolored_append clean rest
  | color =>
    apply String.toList_inj.1
    rw [Style.paint, uncolored, String.toList_append, String.toList_ofList, String.toList_ofList,
      Tint.strip_paint tint clean, String.toList_append, uncolored, String.toList_ofList]

namespace Report

-- No text that the report takes from elsewhere holds an escape.
structure Unescaped (report : Report) : Prop where
  crashed : ∀ name ∈ report.crashedGroups, escape ∉ name.toList
  names : ∀ result ∈ report.results, escape ∉ result.group.name.toList
  problems : ∀ result ∈ report.results, ∀ problem ∈ result.harnessProblem?,
    escape ∉ problem.message.toList
  errors : ∀ result ∈ report.results, ∀ content ∈ result.stderr, escape ∉ content.toList

theorem uncolored_verdict (style : Style) (verdict : Verdict) :
    uncolored (Item.write style (.verdict verdict)) = verdict.text := by
  have clean : escape ∉ verdict.text.toList := by cases verdict <;> decide +kernel
  have painted (tint : Tint) : uncolored (style.paint tint verdict.text) = verdict.text := by
    have whole := uncolored_paint style tint clean ""
    rwa [String.append_empty, uncolored_empty, String.append_empty] at whole
  cases verdict with
  | success => exact painted .success
  | failed => exact painted .failure

theorem uncolored_harness (style : Style) (group : String) (problem : HarnessProblem) :
    uncolored (Item.write style (.harness group problem)) =
      "\t" ++ ("Harness problem in" ++ uncolored (" " ++ (group ++ (": " ++ problem.message)))) := by
  have tab : escape ∉ "\t".toList := by decide +kernel
  have words : escape ∉ "Harness problem in".toList := by decide +kernel
  have shape : Item.write style (.harness group problem) =
      "\t" ++ style.paint .warning "Harness problem in" ++ " " ++ group ++ ": " ++
        problem.message := rfl
  rw [shape, String.append_assoc, String.append_assoc, String.append_assoc, String.append_assoc,
    uncolored_append tab, uncolored_paint style .warning words]

theorem uncolored_write (style other : Style) (item : Item) :
    uncolored (item.write style) = uncolored (item.write other) := by
  cases item with
  | verdict verdict => rw [uncolored_verdict, uncolored_verdict]
  | harness group problem => rw [uncolored_harness, uncolored_harness]
  | _ => rfl

theorem uncolored_body (style other : Style) (report : Report) :
    uncolored (report.body style) = uncolored (report.body other) := by
  rw [body, body, uncolored_lines, uncolored_lines, bodyLines, bodyLines, List.map_map,
    List.map_map]
  congr 2
  exact funext (uncolored_write style other)

theorem uncolored_render (style other : Style) (report : Report) :
    uncolored (report.render style) = uncolored (report.render other) := by
  rw [render, render, uncolored_lines, uncolored_lines, bodyLines, bodyLines, List.map_append,
    List.map_append, List.map_map, List.map_map]
  congr 3
  exact funext (uncolored_write style other)

section Plain

variable {report : Report} {item : Item}

theorem escape_not_mem_toString (n : Nat) : escape ∉ (toString n).toList :=
  fun member => nomatch isDigit_of_mem_toString member

theorem escape_not_mem_padZeros (width n : Nat) : escape ∉ (padZeros width n).toList :=
  fun member => nomatch isDigit_of_mem_padZeros member

theorem escape_not_mem_append {first second : String} (clean : escape ∉ first.toList)
    (clean' : escape ∉ second.toList) : escape ∉ (first ++ second).toList := by
  rw [String.toList_append, List.mem_append, not_or]
  exact ⟨clean, clean'⟩

theorem escape_not_mem_inSeconds (d : Duration) : escape ∉ d.inSeconds.toList := by
  apply escape_not_mem_append _ (escape_not_mem_padZeros 3 _)
  exact escape_not_mem_append (escape_not_mem_padZeros 1 _) (by decide +kernel)

theorem escape_not_mem_intercalate {separator : String} (plain : escape ∉ separator.toList)
    {texts : List String} (clean : ∀ text ∈ texts, escape ∉ text.toList) :
    escape ∉ (String.intercalate separator texts).toList := by
  induction texts with
  | nil => simp
  | cons text rest ih =>
    rw [List.forall_mem_cons] at clean
    cases rest with
    | nil =>
      rw [String.intercalate_singleton]
      exact clean.1
    | cons next rest =>
      rw [String.intercalate_cons_cons]
      exact escape_not_mem_append (escape_not_mem_append clean.1 plain) (ih clean.2)

theorem escape_not_mem_trimLineEnds {text : String} (clean : escape ∉ text.toList) :
    escape ∉ (Text.trimLineEnds text).toList := by
  intro member
  rw [Text.trimLineEnds, String.toList_ofList, List.mem_reverse] at member
  exact clean (List.mem_reverse.1 ((List.dropWhile_sublist _).subset member))

def Item.Clean : Item → Prop
  | .crashed groups => ∀ name ∈ groups, escape ∉ name.toList
  | .failed group _ | .errorsOf group => escape ∉ group.toList
  | .harness group problem => escape ∉ group.toList ∧ escape ∉ problem.message.toList
  | .errors content => escape ∉ content.toList
  | _ => True

theorem escape_not_mem_write (clean : item.Clean) : escape ∉ (item.write .plain).toList := by
  cases item with
  | verdict verdict => cases verdict <;> decide +kernel
  | separator => decide +kernel
  | errors content => exact escape_not_mem_trimLineEnds clean
  | total count =>
    exact escape_not_mem_append (by decide +kernel) (escape_not_mem_toString count)
  | errorOutput count =>
    apply escape_not_mem_append _ (by decide +kernel)
    exact escape_not_mem_append (by decide +kernel) (escape_not_mem_toString count)
  | errorsOf group =>
    apply escape_not_mem_append _ (by decide +kernel)
    exact escape_not_mem_append (by decide +kernel) clean
  | crashed groups =>
    apply escape_not_mem_append _ (by decide +kernel)
    exact escape_not_mem_append (by decide +kernel)
      (escape_not_mem_intercalate (by decide +kernel) clean)
  | failed group count =>
    apply escape_not_mem_append _ (by decide +kernel)
    apply escape_not_mem_append _ (escape_not_mem_toString count)
    apply escape_not_mem_append _ (by decide +kernel)
    exact escape_not_mem_append (by decide +kernel) clean
  | harness group problem =>
    apply escape_not_mem_append _ clean.2
    apply escape_not_mem_append _ (by decide +kernel)
    exact escape_not_mem_append (by decide +kernel) clean.1

theorem clean_of_mem_failureItems (unescaped : report.Unescaped)
    (member : item ∈ report.failureItems) : item.Clean := by
  rw [failureItems] at member
  split at member
  next =>
    rw [List.mem_append, List.mem_cons, List.mem_filterMap] at member
    rcases member with crashed | rfl | ⟨result, held, made⟩
    · split at crashed
      next => cases crashed
      next =>
        obtain rfl := List.mem_singleton.1 crashed
        exact unescaped.crashed
    · trivial
    · have named := unescaped.names result held
      have problems := unescaped.problems result held
      rw [GroupResult.harnessProblem?] at problems
      rw [resultItem?] at made
      split at made
      next => cases made
      next =>
        cases made
        exact named
      next problem told =>
        cases made
        exact ⟨named, problems problem (by rw [told]; rfl)⟩
  next => cases member

theorem clean_of_mem_errorItems (unescaped : report.Unescaped)
    (member : item ∈ report.errorItems) : item.Clean := by
  rw [errorItems] at member
  split at member
  next =>
    rw [List.mem_cons, List.mem_cons, List.mem_flatMap] at member
    rcases member with rfl | rfl | ⟨⟨group, content⟩, told, part⟩
    · trivial
    · trivial
    · rw [errorOutputs, List.mem_filterMap] at told
      obtain ⟨result, held, written⟩ := told
      obtain ⟨text, wrote, same⟩ := Option.map_eq_some_iff.1 written
      cases same
      have present : result ∈ report.results := (List.mem_filter.1 held).1
      simp only [List.mem_cons, List.not_mem_nil, or_false] at part
      rcases part with rfl | rfl | rfl
      · exact unescaped.names result present
      · exact unescaped.errors result present _ wrote
      · trivial
  next => cases member

theorem clean_of_mem_items (unescaped : report.Unescaped) (member : item ∈ report.items) :
    item.Clean := by
  rw [items] at member
  split at member
  next =>
    rw [List.cons_append, List.mem_cons, List.mem_append] at member
    rcases member with rfl | failure | error
    · trivial
    · exact clean_of_mem_failureItems unescaped failure
    · exact clean_of_mem_errorItems unescaped error
  next =>
    rw [List.mem_append, List.mem_append, List.mem_singleton] at member
    rcases member with (failure | error) | rfl
    · exact clean_of_mem_failureItems unescaped failure
    · exact clean_of_mem_errorItems unescaped error
    · trivial

theorem escape_not_mem_bodyLines (unescaped : report.Unescaped) :
    ∀ line ∈ report.bodyLines .plain, escape ∉ line.toList := by
  intro line member
  obtain ⟨item, held, rfl⟩ := List.mem_map.1 member
  exact escape_not_mem_write (clean_of_mem_items unescaped held)

theorem escape_not_mem_body (unescaped : report.Unescaped) :
    escape ∉ (report.body .plain).toList :=
  escape_not_mem_intercalate (by decide +kernel) (escape_not_mem_bodyLines unescaped)

theorem escape_not_mem_render (unescaped : report.Unescaped) :
    escape ∉ (report.render .plain).toList := by
  apply escape_not_mem_intercalate (by decide +kernel)
  intro line member
  rw [List.mem_append, List.mem_cons, List.mem_singleton] at member
  rcases member with body | rfl | rfl
  · exact escape_not_mem_bodyLines unescaped line body
  · decide +kernel
  · apply escape_not_mem_append _ (by decide +kernel)
    exact escape_not_mem_append (by decide +kernel) (escape_not_mem_inSeconds _)

end Plain

theorem uncolored_report (report : Report) :
    uncolored (report.render .color) = uncolored (report.render .plain) ∧
    uncolored (report.body .color) = uncolored (report.body .plain) ∧
    (report.Unescaped → uncolored (report.render .color) = report.render .plain ∧
      uncolored (report.body .color) = report.body .plain) := by
  refine ⟨uncolored_render .color .plain report, uncolored_body .color .plain report,
    fun unescaped => ⟨?_, ?_⟩⟩
  · rw [uncolored_render .color .plain, uncolored_clean (escape_not_mem_render unescaped)]
  · rw [uncolored_body .color .plain, uncolored_clean (escape_not_mem_body unescaped)]

-- The verdict and the harness problem are painted; what the last group wrote ends like a sequence.
theorem painted_uncolored_report :
    let report := ofResults [
      { group := ⟨"groupB", ⟨[]⟩⟩, status := .exited 3 },
      { group := ⟨"groupC", ⟨[]⟩⟩, status := .terminated (some 9) },
      { group := ⟨"groupD", ⟨[]⟩⟩, status := .exited 0, stderr := some "[0mleak\n" }] .zero
    report.Unescaped ∧ report.body .color ≠ report.body .plain ∧
      uncolored (report.body .color) = report.body .plain := by
  intro report
  have unescaped : report.Unescaped := by
    constructor <;> decide +kernel
  obtain ⟨-, -, same⟩ := uncolored_report report
  exact ⟨unescaped, by decide +kernel, (same unescaped).2⟩

end Report

end GroupRunner
