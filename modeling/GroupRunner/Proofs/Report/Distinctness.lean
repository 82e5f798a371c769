import GroupRunner.Proofs.Report.Reading
import GroupRunner.Report.Text
import Std.Data.String.ToInt

set_option autoImplicit false

namespace GroupRunner

namespace HarnessProblem

-- The first words of a message, and how what follows them is read.
structure Reading where
  lead : String
  read : String → Option HarnessProblem

namespace Reading

def Apart (first second : Reading) : Prop :=
  ¬ first.lead.toList <+: second.lead.toList ∧ ¬ second.lead.toList <+: first.lead.toList

instance (first second : Reading) : Decidable (first.Apart second) :=
  inferInstanceAs (Decidable (_ ∧ _))

def bare (lead : String) (problem : HarnessProblem) : Reading :=
  ⟨lead, fun rest => if rest = "" then some problem else none⟩

def text (lead : String) (problem : String → HarnessProblem) : Reading :=
  ⟨lead, fun rest => some (problem rest)⟩

def number (lead : String) (problem : Int → HarnessProblem) : Reading :=
  ⟨lead, fun rest => rest.toInt?.map problem⟩

def ofMessage? : List Reading → String → Option HarnessProblem
  | [], _ => none
  | reading :: others, text =>
    if reading.lead.toList <+: text.toList then
      reading.read (String.ofList (text.toList.drop reading.lead.toList.length))
    else ofMessage? others text

theorem ofMessage?_lead {readings : List Reading} {reading : Reading}
    (apart : readings.Pairwise Apart) (member : reading ∈ readings) (rest : String) :
    ofMessage? readings (reading.lead ++ rest) = reading.read rest := by
  have begins : reading.lead.toList <+: (reading.lead ++ rest).toList := by
    rw [String.toList_append]
    exact List.prefix_append _ _
  induction readings with
  | nil => cases member
  | cons first others ih =>
    obtain ⟨differ, apart⟩ := List.pairwise_cons.1 apart
    cases member with
    | head =>
      rw [ofMessage?, if_pos begins, String.toList_append, List.drop_left, String.ofList_toList]
    | tail _ later =>
      obtain ⟨shorter, longer⟩ := differ reading later
      have other : ¬ first.lead.toList <+: (reading.lead ++ rest).toList := by
        intro begins'
        cases List.prefix_or_prefix_of_prefix begins' begins with
        | inl within => exact shorter within
        | inr within => exact longer within
      rw [ofMessage?, if_neg other]
      exact ih apart later

end Reading

def reading : HarnessProblem → Reading
  | .sentinel => .bare "the test binary could not evaluate this group (exit code 255)" .sentinel
  | .launchFailed _ => .text "the test binary could not be launched: " .launchFailed
  | .captureFailed _ => .text "output capture could not be set up: " .captureFailed
  | .terminated (some _) =>
    .number "the test binary was terminated by signal " fun signal => .terminated (some signal)
  | .terminated none => .bare "the test binary terminated without an exit code" (.terminated none)
  | .unexpectedCode _ =>
    .number "the test binary returned an unexpected exit code " .unexpectedCode

def rest : HarnessProblem → String
  | .launchFailed reason | .captureFailed reason => reason
  | .terminated (some n) | .unexpectedCode n => toString n
  | .sentinel | .terminated none => ""

def readings : List Reading := [
  reading .sentinel, reading (.launchFailed ""), reading (.captureFailed ""),
  reading (.terminated (some 0)), reading (.terminated none), reading (.unexpectedCode 0)]

theorem readings_apart : readings.Pairwise Reading.Apart := by decide +kernel

def ofMessage? (text : String) : Option HarnessProblem :=
  Reading.ofMessage? readings text

section Message

variable (problem : HarnessProblem)

theorem reading_mem : problem.reading ∈ readings := by
  cases problem with
  | sentinel => exact .head _
  | launchFailed reason => exact .tail _ (.head _)
  | captureFailed reason => exact .tail _ (.tail _ (.head _))
  | terminated signal =>
    cases signal with
    | some signal => exact .tail _ (.tail _ (.tail _ (.head _)))
    | none => exact .tail _ (.tail _ (.tail _ (.tail _ (.head _))))
  | unexpectedCode code => exact .tail _ (.tail _ (.tail _ (.tail _ (.tail _ (.head _)))))

theorem message_eq : problem.message = problem.reading.lead ++ problem.rest := by
  cases problem with
  | sentinel | launchFailed reason | captureFailed reason | unexpectedCode code => rfl
  | terminated signal => cases signal <;> rfl

theorem read_rest : problem.reading.read problem.rest = some problem := by
  have number (n : Int) : (toString n).toInt? = some n := by
    rw [Int.toString_eq_repr, Int.toInt?_repr]
  cases problem with
  | sentinel | launchFailed reason | captureFailed reason => rfl
  | unexpectedCode code => exact congrArg (Option.map _) (number code)
  | terminated signal =>
    cases signal with
    | none => rfl
    | some signal => exact congrArg (Option.map _) (number signal)

theorem ofMessage?_message : ofMessage? problem.message = some problem := by
  rw [message_eq, ofMessage?, Reading.ofMessage?_lead readings_apart (reading_mem problem),
    read_rest]

end Message

theorem message_injective : Function.Injective message := by
  intro first second same
  have read := ofMessage?_message first
  rw [same, ofMessage?_message] at read
  exact (Option.some.inj read).symm

theorem eq_of_line {style : Style} {group : String} {first second : HarnessProblem}
    (same : Report.Item.write style (.harness group first) =
      Report.Item.write style (.harness group second)) : first = second := by
  have line (problem : HarnessProblem) : Report.Item.write style (.harness group problem) =
      "\t" ++ style.warning "Harness problem in" ++ " " ++ group ++ ": " ++ problem.message := rfl
  rw [line, line, String.append_right_inj] at same
  exact message_injective same

def status : HarnessProblem → Status
  | .sentinel => .exited GroupRunner.sentinel
  | .launchFailed reason => .launchFailed reason
  | .captureFailed reason => .captureFailed reason
  | .terminated signal => .terminated signal
  | .unexpectedCode code => .exited code

end HarnessProblem

theorem Status.harness_cases (status : Status) :
    status.verdict.harnessProblem? = none ∧ status = .exited status.exitCode ∨
      ∃ problem, status.verdict.harnessProblem? = some problem ∧ problem.status = status := by
  cases status with
  | terminated signal => exact .inr ⟨.terminated signal, rfl, rfl⟩
  | launchFailed reason => exact .inr ⟨.launchFailed reason, rfl, rfl⟩
  | captureFailed reason => exact .inr ⟨.captureFailed reason, rfl, rfl⟩
  | exited code =>
    rw [verdict]
    split
    next => exact .inl ⟨rfl, rfl⟩
    next =>
      split
      next refused => exact .inr ⟨.sentinel, rfl, congrArg exited refused.symm⟩
      next =>
        split
        next => exact .inl ⟨rfl, rfl⟩
        next => exact .inr ⟨.unexpectedCode code, rfl, rfl⟩

namespace GroupRecord

def status? (record : GroupRecord) : Option Status :=
  match record.problem with
  | none => some (.exited record.exitCode)
  | some text => (HarnessProblem.ofMessage? text).map HarnessProblem.status

theorem status?_ofResult (result : GroupResult) :
    (ofResult result).status? = some result.status := by
  have told : (ofResult result).problem =
      result.status.verdict.harnessProblem?.map HarnessProblem.message := rfl
  rw [status?, told]
  cases result.status.harness_cases with
  | inl evaluated =>
    rw [evaluated.1]
    exact congrArg some evaluated.2.symm
  | inr harness =>
    obtain ⟨problem, blamed, ended⟩ := harness
    rw [blamed]
    simp only [Option.map_some, HarnessProblem.ofMessage?_message, ended]

theorem status_eq_of_record {first second : GroupResult}
    (code : (ofResult first).exitCode = (ofResult second).exitCode)
    (problem : (ofResult first).problem = (ofResult second).problem) :
    first.status = second.status := by
  have alike : (ofResult first).status? = (ofResult second).status? := by
    rw [status?, status?, code, problem]
  rwa [status?_ofResult, status?_ofResult, Option.some.injEq] at alike

theorem record_congr {first second : GroupResult} (same : first.status = second.status) :
    (ofResult first).exitCode = (ofResult second).exitCode ∧
      (ofResult first).outcome = (ofResult second).outcome ∧
      (ofResult first).failedTests = (ofResult second).failedTests ∧
      (ofResult first).problem = (ofResult second).problem := by
  simp only [ofResult, GroupResult.failedTests, GroupResult.harnessProblem?, GroupResult.verdict,
    same, and_self]

end GroupRecord

namespace RunRecord

variable {first second : Report} {config config' : Config} {written written' : Timestamp}
variable {json json' : Json}

theorem ofReport_eq_of_pretty (made : first.toJson config written = .ok json)
    (made' : second.toJson config' written' = .ok json') (same : json.pretty = json'.pretty) :
    ofReport first config written = ofReport second config' written' := by
  rw [← toJson_ofReport] at made made'
  have values : json.value = json'.value := by
    apply Option.some.inj
    rw [← Json.read?_pretty json, same, Json.read?_pretty json']
  have read := (ofValue?_toJson made).1
  rw [values, (ofValue?_toJson made').1] at read
  exact (Option.some.inj read).symm

theorem statuses_of_pretty (made : first.toJson config written = .ok json)
    (made' : second.toJson config' written' = .ok json') (same : json.pretty = json'.pretty) :
    first.results.map (·.status) = second.results.map (·.status) := by
  have groups : first.results.map GroupRecord.ofResult = second.results.map GroupRecord.ofResult :=
    congrArg RunRecord.groups (ofReport_eq_of_pretty made made' same)
  have read (report : Report) : (report.results.map GroupRecord.ofResult).map GroupRecord.status? =
      (report.results.map (·.status)).map some := by
    simp only [List.map_map, Function.comp_def, GroupRecord.status?_ofResult]
  apply List.map_injective_iff.2 fun _ _ => Option.some.inj
  rw [← read, groups, read]

end RunRecord

theorem record_tells_statuses_apart :
    (∀ first second : GroupResult,
      let record := GroupRecord.ofResult first
      let record' := GroupRecord.ofResult second
      (record.exitCode = record'.exitCode ∧ record.outcome = record'.outcome ∧
        record.failedTests = record'.failedTests ∧ record.problem = record'.problem ↔
          first.status = second.status) ∧
      (record.exitCode = 255 → record'.exitCode = 255 → first.status ≠ second.status →
        record.problem ≠ record'.problem)) ∧
    Function.Injective HarnessProblem.message ∧
    (∀ style group, Function.Injective fun problem =>
      Report.Item.write style (.harness group problem)) ∧
    ∀ (first second : Report) config config' written written' json json',
      first.toJson config written = .ok json → second.toJson config' written' = .ok json' →
      json.pretty = json'.pretty →
        first.results.map (·.status) = second.results.map (·.status) := by
  refine ⟨fun first second => ⟨⟨?_, GroupRecord.record_congr⟩, ?_⟩,
    HarnessProblem.message_injective, ?_, ?_⟩
  · rintro ⟨code, -, -, problem⟩
    exact GroupRecord.status_eq_of_record code problem
  · intro code code' differ problem
    apply differ
    exact GroupRecord.status_eq_of_record (code.trans code'.symm) problem
  · intro style group problem problem' same
    exact HarnessProblem.eq_of_line same
  · intro first second config config' written written' json json' made made' same
    exact RunRecord.statuses_of_pretty made made' same

theorem sentinels_told_apart :
    ([.exited 255, .launchFailed "", .captureFailed "", .terminated none, .terminated (some 255)] :
      List Status).Pairwise fun status status' =>
        (GroupRecord.ofResult { group := Sample.group "groupA", status }).problem ≠
          (GroupRecord.ofResult { group := Sample.group "groupA", status := status' }).problem := by
  obtain ⟨tells, -⟩ := record_tells_statuses_apart
  have apart : ([.exited 255, .launchFailed "", .captureFailed "", .terminated none,
      .terminated (some 255)] : List Status).Pairwise fun status status' =>
        status.exitCode = 255 ∧ status'.exitCode = 255 ∧ status ≠ status' := by decide
  apply apart.imp
  rintro status status' ⟨code, code', differ⟩
  exact (tells { group := Sample.group "groupA", status }
    { group := Sample.group "groupA", status := status' }).2 code code' differ

end GroupRunner
