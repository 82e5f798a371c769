import GroupRunner.Proofs.Program.ExitCode
import GroupRunner.Proofs.Text.Digits

set_option autoImplicit false

namespace GroupRunner

section Select

variable {root : Path} {config : Config} {fs : FileSystem} {e : RunError}

inductive Suite.Refuses (root : Path) (fs : FileSystem) : RunError → Prop
  | directory (wrong : root.fileName ≠ some (Utf8.encode testsDirectoryName)) :
    Refuses root fs (notTestsDirectory root)
  | listing {cause : IoError} (named : root.fileName = some (Utf8.encode testsDirectoryName))
    (unread : fs.readDir root = .error cause) : Refuses root fs (.io cause)
  -- The first entry that cannot be read is the reason.
  | entry {items : List (Except IoError FileSystem.DirEntry)} {cause : IoError}
    (named : root.fileName = some (Utf8.encode testsDirectoryName))
    (shown : fs.readDir root = .ok items)
    (unread : items.findSome? Discovery.unread? = some cause) : Refuses root fs (.io cause)

theorem select_eq_error_iff :
    Suite.select root config fs = .error e ↔ Suite.Refuses root fs e := by
  unfold Suite.select ensureTestsDirectory
  by_cases named : root.fileName = some (Utf8.encode testsDirectoryName)
  · rw [if_pos named, discover_eq_error_iff]
    constructor
    · rintro (⟨cause, unread, rfl⟩ | ⟨items, cause, shown, unread, rfl⟩)
      · exact .listing named unread
      · exact .entry named shown unread
    · intro refused
      cases refused with
      | directory wrong => exact absurd named wrong
      | listing named unread => exact .inl ⟨_, unread, rfl⟩
      | entry named shown unread => exact .inr ⟨_, _, shown, unread, rfl⟩
  · rw [if_neg named]
    constructor
    · intro failed
      cases failed
      exact .directory named
    · intro refused
      cases refused with
      | directory wrong => rfl
      | listing named' unread => exact absurd named' named
      | entry named' shown unread => exact absurd named' named

theorem exists_refuses_iff : (∃ e, Suite.Refuses root fs e) ↔
    root.fileName ≠ some (Utf8.encode testsDirectoryName) ∨
      (∃ cause, fs.readDir root = .error cause) ∨
      ∃ items, fs.readDir root = .ok items ∧
        ∃ item ∈ items, (Discovery.unread? item).isSome = true := by
  constructor
  · rintro ⟨e, refused⟩
    cases refused with
    | directory wrong => exact .inl wrong
    | listing named unread => exact .inr (.inl ⟨_, unread⟩)
    | @entry items cause named shown unread =>
      have broken : (items.findSome? Discovery.unread?).isSome = true := by rw [unread]; rfl
      exact .inr (.inr ⟨items, shown, List.findSome?_isSome_iff.1 broken⟩)
  · intro reasons
    by_cases named : root.fileName = some (Utf8.encode testsDirectoryName)
    · rcases reasons with wrong | ⟨cause, unread⟩ | ⟨items, shown, broken⟩
      · exact absurd named wrong
      · exact ⟨_, .listing named unread⟩
      · obtain ⟨cause, unread⟩ := Option.isSome_iff_exists.1 (List.findSome?_isSome_iff.2 broken)
        exact ⟨_, .entry named shown unread⟩
    · exact ⟨_, .directory named⟩

theorem select_of_not_refused (never : ∀ e, ¬ Suite.Refuses root fs e) :
    ∃ groups found, Suite.select root config fs = .ok (groups, found) := by
  cases selected : Suite.select root config fs with
  | error e => exact absurd (select_eq_error_iff.1 selected) (never e)
  | ok selection => exact ⟨selection.1, selection.2, rfl⟩

theorem run_of_refused (host : Host) (refused : Suite.Refuses root fs e) :
    Suite.run host root config fs = (.error e, fs) := by
  rw [Suite.run, select_eq_error_iff.2 refused]

theorem run_eq_error_iff {host : Host} :
    (Suite.run host root config fs).1 = .error e ↔ Suite.Refuses root fs e := by
  rw [← @select_eq_error_iff root config]
  cases selected : Suite.select root config fs with
  | error cause => simp [run_of_refused host (select_eq_error_iff.1 selected)]
  | ok selection =>
    obtain ⟨run, ran, -⟩ := run_of_select host selected
    simp [ran]

end Select

section Names

theorem lines_intercalate {lines : List String} (nonempty : lines ≠ [])
    (whole : ∀ line ∈ lines, '\n' ∉ line.toList) :
    Text.lines (String.intercalate "\n" lines) = lines := by
  rw [Text.lines, String.toList_intercalate]
  change List.map String.ofList (List.splitOn '\n' (['\n'].intercalate _)) = lines
  rw [List.splitOn_intercalate '\n' (by simpa using whole) (by simpa using nonempty),
    List.map_map]
  simp [Function.comp_def]

def listedNames (text : String) : List String :=
  ((Text.lines text).drop 1).map fun line => String.ofList (line.toList.drop 1)

theorem listedNames_renderGroupList {names : List String}
    (whole : ∀ name ∈ names, '\n' ∉ name.toList) : listedNames (renderGroupList names) = names := by
  have lines : Text.lines (renderGroupList names) =
      (toString names.length ++ " test group(s) selected:") :: names.map ("\t" ++ ·) := by
    apply lines_intercalate (List.cons_ne_nil _ _)
    intro line member
    cases List.mem_cons.1 member with
    | inl header =>
      rw [header, String.toList_append, List.mem_append, not_or]
      exact ⟨fun newline => (nomatch isDigit_of_mem_toString newline), by decide⟩
    | inr shown =>
      obtain ⟨name, held, rfl⟩ := List.mem_map.1 shown
      simpa using whole name held
  rw [listedNames, lines, List.drop_one, List.tail_cons, List.map_map]
  simp [Function.comp_def]

end Names

section Program

variable {host : Host} {options : Options} {config : Config} {root : Path} {fs : FileSystem}
variable {e : RunError}

theorem listGroups_error_iff :
    (Program.listGroups root config fs).result = .error e ↔ Suite.Refuses root fs e := by
  rw [← @select_eq_error_iff root config, Program.listGroups]
  cases Suite.select root config fs with
  | error e' => simp
  | ok selection => simp

theorem names_of_groups {results : List GroupResult} {groups : List TestGroup}
    (same : results.map (·.group) = groups) :
    results.map (·.group.name) = groups.map (·.name) := by
  rw [← same, List.map_map]
  rfl

theorem listGroups_of_run {run : Suite.Run} {after : FileSystem}
    (ran : Suite.run host root config fs = (.ok run, after)) :
    (Program.listGroups root config fs).result = .ok 0 ∧
      (Program.listGroups root config fs).printed =
        [renderGroupList (run.report.results.map (·.group.name))] := by
  obtain ⟨groups, found, selected, same, -⟩ := of_run ran
  rw [Program.listGroups, selected, names_of_groups same]
  exact ⟨rfl, rfl⟩

theorem runGroups_of_refused (host : Host) (options : Options) (config : Config)
    (refused : Suite.Refuses root fs e) : Program.runGroups host root options config fs =
      ({ result := .error e, printed := [config.renderCommand]
         events := Suite.noted root config fs }, fs) := by
  rw [Program.runGroups, run_of_refused host refused]

theorem runGroups_printed {run : Suite.Run} {after : FileSystem}
    (ran : Suite.run host root config fs = (.ok run, after)) :
    (Program.runGroups host root options config fs).1.printed =
      config.renderCommand :: Program.reportTexts host options run.report := by
  rw [Program.runGroups, ran]
  simp only
  obtain ⟨result, final⟩ := Program.record host options config run.report after
  cases result <;> rfl

end Program

theorem run_fails_before_groups (root : Path) (config : Config) (fs : FileSystem) :
    (∀ host e, (Suite.run host root config fs).1 = .error e ↔ Suite.Refuses root fs e) ∧
    (∀ host, (∃ e, (Suite.run host root config fs).1 = .error e) ↔
      root.fileName ≠ some (Utf8.encode testsDirectoryName) ∨
        (∃ cause, fs.readDir root = .error cause) ∨
        ∃ items, fs.readDir root = .ok items ∧
          ∃ item ∈ items, (Discovery.unread? item).isSome = true) ∧
    (∀ host e, Suite.Refuses root fs e → Suite.run host root config fs = (.error e, fs)) ∧
    ((∀ e, ¬ Suite.Refuses root fs e) → ∃ groups found,
      Suite.select root config fs = .ok (groups, found) ∧
      ∀ host, ∃ run after, Suite.run host root config fs = (.ok run, after) ∧
        run.report.results.map (·.group) = groups) ∧
    ∀ options, Options.prepare options root = .ok config → ∃ listing,
      (∀ host, Program.runIn host root { options with list := true } fs = (listing, fs)) ∧
      (∀ e, listing.result = .error e ↔ Suite.Refuses root fs e) ∧
      ∀ host, let running := Program.runIn host root { options with list := false } fs
        (∀ e, listing.result = .error e ↔ (Suite.run host root config fs).1 = .error e) ∧
        (∀ e, (Suite.run host root config fs).1 = .error e →
          running = ({ result := .error e, printed := [config.renderCommand]
                       events := Suite.noted root config fs }, fs)) ∧
        ∀ run after, Suite.run host root config fs = (.ok run, after) →
          let names := run.report.results.map (·.group.name)
          running.1.printed = config.renderCommand :: Program.reportTexts host options run.report ∧
          listing.result = .ok 0 ∧ listing.printed = [renderGroupList names] ∧
          ((∀ name ∈ names, '\n' ∉ name.toList) →
            listing.printed.flatMap listedNames = names) := by
  refine ⟨fun host e => run_eq_error_iff, fun host => ?_, fun host e => run_of_refused host, ?_,
    ?_⟩
  · simp only [run_eq_error_iff, exists_refuses_iff]
  · intro never
    obtain ⟨groups, found, selected⟩ := select_of_not_refused never
    refine ⟨groups, found, selected, fun host => ?_⟩
    obtain ⟨run, ran, report⟩ := run_of_select host selected
    refine ⟨run, _, ran, ?_⟩
    rw [report]
    exact Execution.groups_of_results groups
  · intro options prepared
    refine ⟨Program.listGroups root config fs, fun host => runIn_of_list prepared rfl,
      fun e => listGroups_error_iff, ?_⟩
    intro host running
    have ran : running = Program.runGroups host root options config fs :=
      runIn_of_run prepared rfl
    rw [ran]
    refine ⟨fun e => listGroups_error_iff.trans run_eq_error_iff.symm, ?_, ?_⟩
    · intro e failed
      apply runGroups_of_refused
      exact run_eq_error_iff.1 failed
    · intro run after ended names
      obtain ⟨done, shown⟩ := listGroups_of_run ended
      refine ⟨runGroups_printed ended, done, shown, fun whole => ?_⟩
      rw [shown, List.flatMap_singleton, listedNames_renderGroupList whole]

theorem tree_listing : ∃ listing,
    (∀ host, Program.runIn host Sample.root { args := ["/bin/tool"], list := true } Sample.tree =
      (listing, Sample.tree)) ∧
    listing.printed = ["2 test group(s) selected:\n\tgroupA\n\tgroupB"] := by
  obtain ⟨-, -, -, runs, lists⟩ := run_fails_before_groups Sample.root Sample.config Sample.tree
  obtain ⟨listing, unchanged, -, agree⟩ := lists { args := ["/bin/tool"] } (by decide +kernel)
  refine ⟨listing, unchanged, ?_⟩
  have never (e : RunError) : ¬ Suite.Refuses Sample.root Sample.tree e := fun refused => by
    have failed : Suite.select Sample.root Sample.config Sample.tree = .error e :=
      select_eq_error_iff.2 refused
    rw [Sample.select_tree] at failed
    cases failed
  obtain ⟨groups, found, selected, finish⟩ := runs never
  rw [Sample.select_tree] at selected
  cases selected
  obtain ⟨run, after, ran, same⟩ := finish Sample.script.host
  obtain ⟨-, -, shown, -⟩ := (agree Sample.script.host).2.2 run after ran
  rw [shown, names_of_groups same]
  rfl

-- An entry that is no group, and whose kind is not told, keeps the groups from running.
example :
    let refusal access place :=
      if access = .kind ∧ place = Sample.place "notes" then some IoError.accessDenied else none
    let fs := { Sample.tree with medium := { refusal } }
    (Suite.run Sample.script.host Sample.root Sample.config fs).1 = .error (.io .accessDenied) := by
  rfl

end GroupRunner
