import GroupRunner.Proofs.Discovery
import GroupRunner.Proofs.FileSystem.Writing
import GroupRunner.Proofs.Json.Writing
import GroupRunner.Proofs.Report.Agreement
import GroupRunner.Proofs.Utf8

set_option autoImplicit false

namespace GroupRunner

namespace Json.Value

def field? (name : String) : Value → Option Value
  | .object fields => fields.lookup name
  | _ => none

def keys : Value → List String
  | .object fields => fields.map (·.1)
  | _ => []

def text? : Value → Option String
  | .text s => some s
  | _ => none

def int? : Value → Option Int
  | .number n 0 => some n
  | _ => none

def nat? (value : Value) : Option Nat :=
  value.int?.bind fun n => if 0 ≤ n then some n.toNat else none

def path? (value : Value) : Option Path :=
  value.text?.map .ofString

def list? {A : Type} (item? : Value → Option A) : Value → Option (List A)
  | .array items => items.mapM item?
  | _ => none

def optional? {A : Type} (read : Value → Option A) : Option Value → Option (Option A)
  | none => some none
  | some value => (read value).map some

end Json.Value

open Json (Value)

def IgnoreSet.ofFragments? (fragments : List String) : Option IgnoreSet :=
  if nodup : fragments.Nodup then some ⟨fragments, nodup⟩ else none

def Verdict.ofText? : String → Option Verdict
  | "SUCCESS" => some .success
  | "FAILED" => some .failed
  | _ => none

def Config.ofValue? (value : Value) : Option Config := do
  let binary ← (← value.field? "binary").path?
  let extraArgs ← (← value.field? "extra_args").list? Value.text?
  let ignore ← IgnoreSet.ofFragments? (← (← value.field? "ignore").list? Value.text?)
  let expectedStderr ← (← value.field? "expected_stderr").list? Value.text?
  let pruneThreshold ← (← value.field? "prune_threshold").nat?
  return { binary, extraArgs, ignore, expectedStderr, pruneThreshold }

namespace GroupRecord

def ofValue? (value : Value) : Option GroupRecord := do
  let name ← (← value.field? "name").text?
  let exitCode ← (← value.field? "exit_code").int?
  let outcome ← (← value.field? "outcome").text?
  let failedTests ← (← value.field? "failed_tests").nat?
  let problem ← Value.optional? Value.text? (value.field? "problem")
  let stdoutPath ← Value.optional? Value.path? (value.field? "stdout_path")
  let stderrPath ← Value.optional? Value.path? (value.field? "stderr_path")
  let stderr ← Value.optional? Value.text? (value.field? "stderr")
  let durationMillis ← (← value.field? "duration_ms").nat?
  return {
    name, exitCode, outcome, failedTests, problem, stdoutPath, stderrPath, stderr, durationMillis }

def keys (record : GroupRecord) : List String :=
  ["name", "exit_code", "outcome", "failed_tests"] ++
    (record.problem.map fun _ => "problem").toList ++
    (record.stdoutPath.map fun _ => "stdout_path").toList ++
    (record.stderrPath.map fun _ => "stderr_path").toList ++
    (record.stderr.map fun _ => "stderr").toList ++ ["duration_ms"]

end GroupRecord

def RunRecord.ofValue? (value : Value) : Option RunRecord := do
  let writtenAt ← (← value.field? "generated_at").text?
  let verdict ← Verdict.ofText? (← (← value.field? "verdict").text?)
  let totalFailedTests ← (← value.field? "total_failed_tests").nat?
  let crashedGroups ← (← value.field? "crashed_groups").list? Value.text?
  let errorOutputGroups ← (← value.field? "error_output_groups").list? Value.text?
  let elapsedMillis ← (← value.field? "elapsed_ms").nat?
  let config ← Config.ofValue? (← value.field? "config")
  let groups ← (← value.field? "groups").list? GroupRecord.ofValue?
  return {
    writtenAt, verdict, totalFailedTests, crashedGroups, errorOutputGroups, elapsedMillis, config,
    groups }

namespace Json

theorem itemValues_eq (items : List Json) : itemValues items = items.map value := by
  induction items with
  | nil => rfl
  | cons item items ih => rw [itemValues, ih, List.map_cons]

theorem fieldValues_append (first second : List (String × Json)) :
    fieldValues (first ++ second) = fieldValues first ++ fieldValues second := by
  induction first with
  | nil => rfl
  | cons field fields ih => rw [List.cons_append, fieldValues, fieldValues, ih, List.cons_append]

theorem nat?_nat (n : Nat) : (nat n).value.nat? = some n := by
  simp [nat, value, Value.nat?, Value.int?]

theorem list?_texts (items : List String) :
    (texts items).value.list? Value.text? = some items := by
  rw [texts, value, Value.list?, itemValues_eq, List.map_map]
  induction items with
  | nil => rfl
  | cons item items ih =>
    rw [List.map_cons, List.mapM_cons, ih]
    rfl

end Json

theorem bind_eq_ok {E A B : Type} {x : Except E A} {f : A → Except E B} {b : B} :
    (x >>= f) = .ok b ↔ ∃ a, x = .ok a ∧ f a = .ok b := by
  cases x with
  | error e => simp [bind, Except.bind]
  | ok a => simp [bind, Except.bind]

theorem mapM_read {E A B : Type} {write : A → Except E Json} {read : Value → Option B} {f : A → B}
    (inverse : ∀ item json, write item = .ok json → read json.value = some (f item))
    {items : List A} {jsons : List Json} (written : items.mapM write = .ok jsons) :
    (Json.itemValues jsons).mapM read = some (items.map f) := by
  induction items generalizing jsons with
  | nil =>
    cases written
    rfl
  | cons item items ih =>
    rw [List.mapM_cons] at written
    obtain ⟨json, first, written⟩ := bind_eq_ok.1 written
    obtain ⟨others, onward, written⟩ := bind_eq_ok.1 written
    cases written
    rw [Json.itemValues, List.mapM_cons, inverse item json first, ih onward]
    rfl

theorem Path.toJson_eq_ok {path : Path} {json : Json} (written : path.toJson = .ok json) :
    ∃ text, path = .ofString text ∧ json = .text text := by
  unfold Path.toJson at written
  cases read : path.text? with
  | none => simp [read] at written
  | some text =>
    simp only [read, Except.ok.injEq] at written
    refine ⟨text, ?_, written.symm⟩
    cases path
    rw [Path.text?, Utf8.decode?_eq_some_iff] at read
    rw [Path.ofString, ← read]

theorem Path.path?_toJson {path : Path} {json : Json} (written : path.toJson = .ok json) :
    json.value.path? = some path := by
  obtain ⟨text, rfl, rfl⟩ := Path.toJson_eq_ok written
  rfl

theorem Config.ofValue?_toJson {config : Config} {json : Json}
    (written : config.toJson = .ok json) : Config.ofValue? json.value = some config := by
  unfold Config.toJson at written
  cases path : config.binary.toJson with
  | error failure => simp [path, Except.map] at written
  | ok binary =>
    simp only [path, Except.map, Except.ok.injEq] at written
    subst written
    have ignore : IgnoreSet.ofFragments? config.ignore.fragments = some config.ignore := by
      rw [IgnoreSet.ofFragments?, dif_pos config.ignore.nodup]
    simp [Config.ofValue?, Json.value, Json.fieldValues, Value.field?, List.lookup_cons,
      Path.path?_toJson path, Json.list?_texts, Json.nat?_nat, ignore]

namespace GroupRecord

theorem lookup_field? (name key : String) (json : Option Json) :
    (Json.fieldValues (field? name json)).lookup key =
      if key = name then json.map Json.value else none := by
  cases json with
  | none => simp [field?, Json.fieldValues]
  | some json =>
    by_cases same : key = name
    · simp [field?, Json.fieldValues, same]
    · simp [field?, Json.fieldValues, List.lookup_cons, beq_false_of_ne same, same]

theorem names_field? (name : String) (json : Option Json) :
    (Json.fieldValues (field? name json)).map (·.1) = (json.map fun _ => name).toList := by
  cases json <;> rfl

theorem optional?_text (text : Option String) :
    Value.optional? Value.text? (text.map (Json.value ∘ Json.text)) = some text := by
  cases text <;> rfl

theorem pathField?_eq_ok {name : String} {path : Option Path} {fields : List (String × Json)}
    (written : pathField? name path = .ok fields) :
    ∃ json : Option Json, fields = field? name json ∧
      Value.optional? Value.path? (json.map Json.value) = some path ∧
      (json.map fun _ => name) = path.map fun _ => name := by
  cases path with
  | none =>
    cases written
    exact ⟨none, rfl, rfl, rfl⟩
  | some path =>
    unfold pathField? at written
    cases converted : path.toJson with
    | error failure => simp [converted, Except.map] at written
    | ok json =>
      simp only [converted, Except.map, Except.ok.injEq] at written
      refine ⟨some json, written.symm, ?_, rfl⟩
      simp [Value.optional?, Path.path?_toJson converted]

theorem toJson_eq_ok {record : GroupRecord} {json : Json} (written : record.toJson = .ok json) :
    ofValue? json.value = some record ∧ json.value.keys = record.keys := by
  unfold toJson at written
  obtain ⟨stdout, out, written⟩ := bind_eq_ok.1 written
  obtain ⟨stderr, err, written⟩ := bind_eq_ok.1 written
  obtain ⟨outJson, rfl, outRead, outName⟩ := pathField?_eq_ok out
  obtain ⟨errJson, rfl, errRead, errName⟩ := pathField?_eq_ok err
  cases written
  constructor
  · simp [ofValue?, Json.value, Value.field?, Json.fieldValues_append, Json.fieldValues,
      List.lookup_append, List.lookup_cons, lookup_field?, optional?_text, outRead, errRead,
      Json.nat?_nat, Value.text?, Value.int?]
  · simp [Json.value, Value.keys, keys, Json.fieldValues_append, Json.fieldValues, names_field?,
      outName, errName, Function.comp_def]

end GroupRecord

theorem RunRecord.ofValue?_toJson {record : RunRecord} {json : Json}
    (written : record.toJson = .ok json) :
    ofValue? json.value = some record ∧
      (json.value.field? "groups").bind (Value.list? fun group => some group.keys) =
        some (record.groups.map GroupRecord.keys) := by
  unfold toJson at written
  obtain ⟨config, configured, written⟩ := bind_eq_ok.1 written
  obtain ⟨groups, grouped, written⟩ := bind_eq_ok.1 written
  cases written
  have verdict : Verdict.ofText? record.verdict.text = some record.verdict := by
    cases record.verdict <;> rfl
  have read : (Value.array (Json.itemValues groups)).list? GroupRecord.ofValue? =
      some record.groups := by
    rw [Value.list?, mapM_read (fun _ _ written => (GroupRecord.toJson_eq_ok written).1) grouped]
    exact congrArg some (List.map_id _)
  have names : (Value.array (Json.itemValues groups)).list? (fun group => some group.keys) =
      some (record.groups.map GroupRecord.keys) :=
    mapM_read (fun _ _ written => by rw [(GroupRecord.toJson_eq_ok written).2]) grouped
  constructor
  · simp [ofValue?, Json.value, Value.field?, Json.fieldValues, List.lookup_cons, Value.text?,
      verdict, Json.nat?_nat, Json.list?_texts, Config.ofValue?_toJson configured, read]
  · simp [Json.value, Value.field?, Json.fieldValues, List.lookup_cons, names]

section Writable

theorem exists_mapM {E A B : Type} {write : A → Except E B} {items : List A}
    (each : ∀ item ∈ items, ∃ result, write item = .ok result) :
    ∃ results, items.mapM write = .ok results := by
  induction items with
  | nil => exact ⟨[], rfl⟩
  | cons item items ih =>
    obtain ⟨first, here⟩ := each item List.mem_cons_self
    obtain ⟨others, onward⟩ := ih fun next member => each next (List.mem_cons_of_mem _ member)
    refine ⟨first :: others, ?_⟩
    rw [List.mapM_cons, here, onward]
    rfl

theorem exists_path {path : Path} (text : path.text?.isSome = true) :
    ∃ json, path.toJson = .ok json := by
  obtain ⟨s, read⟩ := Option.isSome_iff_exists.1 text
  exact ⟨.text s, by rw [Path.toJson, read]⟩

theorem exists_pathField (name : String) {path : Option Path}
    (text : ∀ path' ∈ path, path'.text?.isSome = true) :
    ∃ fields, GroupRecord.pathField? name path = .ok fields := by
  cases path with
  | none => exact ⟨[], rfl⟩
  | some path =>
    obtain ⟨json, written⟩ := exists_path (text path rfl)
    exact ⟨[(name, json)], by rw [GroupRecord.pathField?, written]; rfl⟩

theorem exists_group {record : GroupRecord}
    (kept : ∀ path, path ∈ record.stdoutPath ∨ path ∈ record.stderrPath →
      path.text?.isSome = true) : ∃ json, record.toJson = .ok json := by
  obtain ⟨stdout, out⟩ := exists_pathField "stdout_path" fun path held => kept path (.inl held)
  obtain ⟨stderr, err⟩ := exists_pathField "stderr_path" fun path held => kept path (.inr held)
  rw [GroupRecord.toJson, out, err]
  exact ⟨_, rfl⟩

theorem exists_record {record : RunRecord} (binary : record.config.binary.text?.isSome = true)
    (kept : ∀ group ∈ record.groups, ∀ path,
      path ∈ group.stdoutPath ∨ path ∈ group.stderrPath → path.text?.isSome = true) :
    ∃ json, record.toJson = .ok json := by
  obtain ⟨path, written⟩ := exists_path binary
  obtain ⟨groups, grouped⟩ := exists_mapM fun group member => exists_group (kept group member)
  rw [RunRecord.toJson, Config.toJson, written, grouped]
  exact ⟨_, rfl⟩

end Writable

namespace Sample

-- The error output needs every kind of escape, and one path is kept.
def noisyReport : Report :=
  .ofResults [
    { group := group "groupA", status := .exited 3
      stderrPath := some (.ofString "/tests/groupA/stderr.txt")
      stderr := some "\"\\\x01\n\u00e9" }] .zero

end Sample

end GroupRunner
