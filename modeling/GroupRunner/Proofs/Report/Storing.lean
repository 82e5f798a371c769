import GroupRunner.Proofs.FileSystem.Confinement
import GroupRunner.Proofs.Report.Reading

set_option autoImplicit false

namespace GroupRunner

def Path.IsText (path : Path) : Prop :=
  ∃ text, path.bytes = Utf8.encode text

section Form

variable {E A B : Type}

theorem isSome_text?_iff {path : Path} : path.text?.isSome = true ↔ path.IsText := by
  simp only [Path.text?, Option.isSome_iff_exists, Utf8.decode?_eq_some_iff, Path.IsText]

theorem exists_error_iff {x : Except E A} : (∃ e, x = .error e) ↔ ¬ ∃ a, x = .ok a := by
  cases x <;> simp

theorem exists_mapM_iff {write : A → Except E B} {items : List A} :
    (∃ results, items.mapM write = .ok results) ↔
      ∀ item ∈ items, ∃ result, write item = .ok result := by
  refine ⟨?_, exists_mapM⟩
  induction items with
  | nil => simp
  | cons item items ih =>
    rintro ⟨results, written⟩ next member
    rw [List.mapM_cons] at written
    obtain ⟨first, here, written⟩ := bind_eq_ok.1 written
    obtain ⟨others, onward, -⟩ := bind_eq_ok.1 written
    cases List.mem_cons.1 member with
    | inl same => exact ⟨first, same ▸ here⟩
    | inr later => exact ih ⟨others, onward⟩ next later

theorem Path.exists_toJson_iff {path : Path} : (∃ json, path.toJson = .ok json) ↔ path.IsText := by
  constructor
  · rintro ⟨json, written⟩
    obtain ⟨text, rfl, -⟩ := Path.toJson_eq_ok written
    exact ⟨text, rfl⟩
  · intro text
    apply exists_path
    exact isSome_text?_iff.2 text

theorem Config.exists_toJson_iff {config : Config} :
    (∃ json, config.toJson = .ok json) ↔ config.binary.IsText := by
  rw [← Path.exists_toJson_iff, Config.toJson]
  cases config.binary.toJson <;> simp [Except.map]

namespace GroupRecord

theorem exists_pathField_iff {name : String} {path : Option Path} :
    (∃ fields, pathField? name path = .ok fields) ↔ ∀ kept ∈ path, kept.IsText := by
  cases path with
  | none => simp [pathField?]
  | some path =>
    simp only [Option.mem_def, Option.some.injEq, forall_eq', ← Path.exists_toJson_iff, pathField?]
    cases path.toJson <;> simp [Except.map]

theorem exists_toJson_iff {record : GroupRecord} : (∃ json, record.toJson = .ok json) ↔
    ∀ path, path ∈ record.stdoutPath ∨ path ∈ record.stderrPath → path.IsText := by
  constructor
  · rintro ⟨json, written⟩ path kept
    rw [toJson] at written
    obtain ⟨stdout, out, written⟩ := bind_eq_ok.1 written
    obtain ⟨stderr, err, -⟩ := bind_eq_ok.1 written
    cases kept with
    | inl kept => exact exists_pathField_iff.1 ⟨stdout, out⟩ path kept
    | inr kept => exact exists_pathField_iff.1 ⟨stderr, err⟩ path kept
  · intro text
    apply exists_group
    exact fun path kept => isSome_text?_iff.2 (text path kept)

end GroupRecord

theorem RunRecord.exists_toJson_iff {record : RunRecord} : (∃ json, record.toJson = .ok json) ↔
    record.config.binary.IsText ∧ ∀ group ∈ record.groups, ∀ path,
      path ∈ group.stdoutPath ∨ path ∈ group.stderrPath → path.IsText := by
  constructor
  · rintro ⟨json, written⟩
    rw [toJson] at written
    obtain ⟨config, configured, written⟩ := bind_eq_ok.1 written
    obtain ⟨groups, grouped, -⟩ := bind_eq_ok.1 written
    refine ⟨Config.exists_toJson_iff.1 ⟨config, configured⟩, fun group member => ?_⟩
    apply GroupRecord.exists_toJson_iff.1
    exact exists_mapM_iff.1 ⟨groups, grouped⟩ group member
  · rintro ⟨binary, kept⟩
    apply exists_record
    · exact isSome_text?_iff.2 binary
    · exact fun group member path held => isSome_text?_iff.2 (kept group member path held)

def Report.Names (report : Report) (config : Config) (path : Path) : Prop :=
  path = config.binary ∨ ∃ result ∈ report.results,
    path ∈ result.stdoutPath ∨ path ∈ result.stderrPath

theorem Report.exists_toJson_iff {report : Report} {config : Config} {written : Timestamp} :
    (∃ json, report.toJson config written = .ok json) ↔
      ∀ path, report.Names config path → path.IsText := by
  rw [← RunRecord.toJson_ofReport, RunRecord.exists_toJson_iff]
  simp only [RunRecord.ofReport, List.forall_mem_map, Report.Names]
  constructor
  · rintro ⟨binary, kept⟩ path (rfl | ⟨result, member, held⟩)
    · exact binary
    · exact kept result member path held
  · intro text
    exact ⟨text _ (.inl rfl), fun result member path held => text path (.inr ⟨result, member, held⟩)⟩

end Form

section Store

variable {report : Report} {config : Config} {written : Timestamp} {path : Path}
variable {fs : FileSystem}

theorem toJson_error_iff : (∃ failure, report.toJson config written = .error failure) ↔
    ∃ named, report.Names config named ∧ ¬ named.IsText := by
  rw [exists_error_iff, Report.exists_toJson_iff]
  simp only [not_forall, exists_prop]

theorem writeRecord_cases :
    (∃ failure, report.toJson config written = .error failure ∧
      report.writeRecord config written path fs = (.error (.json failure), fs)) ∨
    ∃ json, report.toJson config written = .ok json ∧
      ((∃ cause, report.writeRecord config written path fs = (.error (.io cause), fs)) ∨
        ∃ final, fs.writeFile path (Utf8.encode json.pretty) = .ok final ∧
          report.writeRecord config written path fs = (.ok (), final)) := by
  rw [Report.writeRecord]
  cases report.toJson config written with
  | error failure => exact .inl ⟨failure, rfl, rfl⟩
  | ok json =>
    refine .inr ⟨json, rfl, ?_⟩
    cases stored : fs.writeFile path (Utf8.encode json.pretty) with
    | error cause => exact .inl ⟨cause, by simp only [stored]⟩
    | ok final => exact .inr ⟨final, rfl, by simp only [stored]⟩

theorem writeRecord_json_iff :
    (∃ failure, (report.writeRecord config written path fs).1 = .error (.json failure)) ↔
      ∃ named, report.Names config named ∧ ¬ named.IsText := by
  rw [← @toJson_error_iff report config written]
  obtain ⟨failure, unmade, ended⟩ | ⟨json, made, ⟨cause, ended⟩ | ⟨final, -, ended⟩⟩ :=
    @writeRecord_cases report config written path fs
  · simp [unmade, ended]
  · simp [made, ended]
  · simp [made, ended]

theorem writeRecord_error {e : RunError}
    (failed : (report.writeRecord config written path fs).1 = .error e) :
    (report.writeRecord config written path fs).2 = fs := by
  obtain ⟨failure, -, ended⟩ | ⟨json, -, ⟨cause, ended⟩ | ⟨final, -, ended⟩⟩ :=
    @writeRecord_cases report config written path fs
  · rw [ended]
  · rw [ended]
  · rw [ended] at failed
    cases failed

theorem writeRecord_eq_ok
    (done : (report.writeRecord config written path fs).1 = .ok ()) :
    ∃ json, report.toJson config written = .ok json ∧
      fs.writeFile path (Utf8.encode json.pretty) =
        .ok (report.writeRecord config written path fs).2 := by
  obtain ⟨failure, -, ended⟩ | ⟨json, made, ⟨cause, ended⟩ | ⟨final, stored, ended⟩⟩ :=
    @writeRecord_cases report config written path fs
  · rw [ended] at done
    cases done
  · rw [ended] at done
    cases done
  · rw [ended]
    exact ⟨json, made, stored⟩

theorem writeRecord_of_created {place : Location} {after : FileSystem}
    (text : ∀ named, report.Names config named → named.IsText)
    (created : fs.create path = .ok (place, after))
    (room : ∀ place, fs.find path ≠ .ok (place, .device .full)) :
    (report.writeRecord config written path fs).1 = .ok () := by
  obtain ⟨json, made⟩ := (@Report.exists_toJson_iff report config written).2 text
  obtain ⟨final, stored⟩ := FileSystem.exists_writeFile created room (Utf8.encode json.pretty)
  simp only [Report.writeRecord, made, stored]

end Store

theorem writeRecord_whole (report : Report) (config : Config) (written : Timestamp) (path : Path)
    (fs : FileSystem) :
    let outcome := (report.writeRecord config written path fs).1
    let final := (report.writeRecord config written path fs).2
    ((∃ failure, outcome = .error (.json failure)) ↔
      ∃ named, report.Names config named ∧ ¬ named.IsText) ∧
    (∀ failure, outcome = .error (.json failure) → final = fs) ∧
    (outcome = .ok () → ∃ json, report.toJson config written = .ok json ∧
      (∃ place, fs.OpensAt path place ∧
        ∀ other, other ≠ place → final.get? other = fs.get? other) ∧
      ((∀ place kind, fs.find path ≠ .ok (place, .device kind)) →
        final.readFile path = .ok (Utf8.encode json.pretty))) ∧
    ((∀ named, report.Names config named → named.IsText) →
      (∃ opened, fs.create path = .ok opened) →
      (∀ place, fs.find path ≠ .ok (place, .device .full)) → outcome = .ok ()) := by
  intro outcome final
  refine ⟨writeRecord_json_iff, fun failure failed => writeRecord_error failed, fun done => ?_,
    fun text ⟨_, created⟩ room => writeRecord_of_created text created room⟩
  obtain ⟨json, made, stored⟩ := writeRecord_eq_ok done
  refine ⟨json, made, FileSystem.get?_writeFile stored, fun noDevice => ?_⟩
  exact FileSystem.readFile_of_writeFile stored noDevice

namespace Sample

def recordPath : Path := .ofString "/tests/groupB"

-- The path is that of a link to a file that holds more than the record.
def longer : FileSystem :=
  (tree.put (place "notes") (.file (List.replicate 2048 0x6F) false)).put (place "groupB")
    (.link (.ofString "notes"))

theorem find_longer : longer.find recordPath =
    .ok (place "notes", .file (List.replicate 2048 0x6F) false) := by decide +kernel

end Sample

theorem longer_writeRecord_whole :
    (∃ json, Sample.noisyReport.toJson Sample.config .epoch = .ok json ∧
      (Sample.noisyReport.writeRecord Sample.config .epoch Sample.recordPath
        Sample.longer).2.readFile Sample.recordPath = .ok (Utf8.encode json.pretty)) ∧
    (Sample.noisyReport.writeRecord { Sample.config with binary := ⟨[0xFF]⟩ } .epoch
      Sample.recordPath Sample.longer).2 = Sample.longer := by
  constructor
  · obtain ⟨-, -, whole, works⟩ := writeRecord_whole Sample.noisyReport Sample.config .epoch
      Sample.recordPath Sample.longer
    have text : ∀ named, Sample.noisyReport.Names Sample.config named → named.IsText := by
      rintro named (rfl | ⟨result, member, kept⟩)
      · exact ⟨_, rfl⟩
      · obtain rfl := List.mem_singleton.1 member
        rcases kept with kept | kept <;> cases kept
        exact ⟨_, rfl⟩
    have noDevice : ∀ place kind,
        Sample.longer.find Sample.recordPath ≠ .ok (place, .device kind) := by
      intro place kind found
      rw [Sample.find_longer] at found
      cases found
    have done := works text ⟨_, rfl⟩ fun place => noDevice place .full
    obtain ⟨json, made, -, read⟩ := whole done
    exact ⟨json, made, read noDevice⟩
  · obtain ⟨refuses, unchanged, -⟩ := writeRecord_whole Sample.noisyReport
      { Sample.config with binary := ⟨[0xFF]⟩ } .epoch Sample.recordPath Sample.longer
    have formless : ¬ Path.IsText ⟨[0xFF]⟩ := by
      rw [← isSome_text?_iff]
      decide +kernel
    obtain ⟨failure, failed⟩ := refuses.2 ⟨_, .inl rfl, formless⟩
    exact unchanged failure failed

end GroupRunner
