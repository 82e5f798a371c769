import GroupRunner.Proofs.FileSystem.Directory
import GroupRunner.Proofs.FileSystem.Listing
import GroupRunner.Proofs.FileSystem.Store
import GroupRunner.Proofs.Utf8
import GroupRunner.Suite
import Mathlib.Logic.ExistsUnique

set_option autoImplicit false

namespace GroupRunner

namespace FileSystem

def ProperNames (fs : FileSystem) : Prop :=
  ∀ pair ∈ fs.entries, ∀ name ∈ pair.1, ProperName name

instance (fs : FileSystem) : Decidable fs.ProperNames :=
  inferInstanceAs (Decidable (∀ pair ∈ fs.entries, ∀ name ∈ pair.1, ProperName name))

theorem nodup_children (fs : FileSystem) (dir : Location) :
    ((fs.children dir).map Prod.fst).Nodup := by
  have places := fs.nodup
  rw [List.Nodup, List.pairwise_map] at places ⊢
  rw [children, List.pairwise_filterMap]
  refine places.imp fun {first second} apart => ?_
  intro child picked child' picked'
  obtain ⟨place, entry⟩ := first
  obtain ⟨place', entry'⟩ := second
  cases place with
  | nil => simp at picked
  | cons name above =>
    cases place' with
    | nil => simp at picked'
    | cons name' above' =>
      simp only [Option.ite_none_right_eq_some, Option.some.injEq] at picked picked'
      obtain ⟨rfl, rfl⟩ := picked
      obtain ⟨rfl, rfl⟩ := picked'
      rintro rfl
      exact apart rfl

theorem properName_of_children {fs : FileSystem} (proper : fs.ProperNames) {dir : Location}
    {name : Name} {entry : Entry} (held : (name, entry) ∈ fs.children dir) : ProperName name := by
  simp only [children, List.mem_filterMap] at held
  obtain ⟨⟨place, other⟩, member, picked⟩ := held
  cases place with
  | nil => simp at picked
  | cons first above =>
    simp only [Option.ite_none_right_eq_some, Option.some.injEq, Prod.mk.injEq] at picked
    obtain ⟨-, rfl, -⟩ := picked
    exact proper _ member _ List.mem_cons_self

end FileSystem

theorem IgnoreSet.accepts_iff {ignore : IgnoreSet} {name : String} :
    ignore.accepts name = true ↔ groupMarker.toList <:+: name.toList ∧
      ∀ fragment ∈ ignore.fragments, ¬ fragment.toList <:+: name.toList := by
  rw [accepts, Bool.and_eq_true, Text.contains, Text.occursIn_iff, Bool.not_eq_true',
    ← Bool.not_eq_true, covers_iff]
  simp only [not_exists, not_and]

namespace Discovery

theorem bytesLe_iff {a b : Bytes} : bytesLe a b = true ↔ a ≤ b := by
  induction a generalizing b with
  | nil => simp [bytesLe]
  | cons x xs ih =>
    cases b with
    | nil => simp [bytesLe]
    | cons y ys => simp [bytesLe, List.cons_le_cons_iff, ih]

theorem groupLe_iff {a b : TestGroup} :
    groupLe a b = true ↔ Utf8.encode a.name ≤ Utf8.encode b.name := bytesLe_iff

def Before (a b : TestGroup) : Prop := Utf8.encode a.name < Utf8.encode b.name

theorem eq_of_ascending {first second : List TestGroup} (ascending : first.Pairwise Before)
    (ascending' : second.Pairwise Before) (same : ∀ group, group ∈ first ↔ group ∈ second) :
    first = second := by
  have nodup {groups : List TestGroup} (ascending : groups.Pairwise Before) : groups.Nodup := by
    refine ascending.imp fun {a b} less equal => ?_
    subst equal
    exact List.lt_irrefl _ less
  refine ((List.perm_ext_iff_of_nodup (nodup ascending) (nodup ascending')).2 same).eq_of_pairwise
    ?_ ascending ascending'
  intro a b _ _ less more
  exact absurd more (List.lt_asymm less)

section Groups

variable {root : Path} {accepts : GroupPredicate} {entries : List (Name × Entry)}

theorem group?_inspect {name : Name} {entry : Entry} {group : TestGroup} :
    (inspect root accepts (name, entry)).group? = some group ↔
      entry = .directory ∧ name = Utf8.encode group.name ∧ accepts group.name = true ∧
        group.path = root.join ⟨Utf8.encode group.name⟩ := by
  obtain ⟨text, path⟩ := group
  cases entry with
  | directory =>
    simp only [inspect, true_and]
    cases read : Utf8.decode? name with
    | none =>
      have other : name ≠ Utf8.encode text := fun same => by
        rw [Utf8.decode?_eq_some_iff.2 same] at read
        cases read
      simp [Finding.group?, other]
    | some found =>
      -- A name that reads as text is the encoding of that text and of no other.
      obtain rfl := Utf8.decode?_eq_some_iff.1 read
      have same : Utf8.encode found = Utf8.encode text ↔ found = text :=
        ⟨Utf8.encode_injective, congrArg _⟩
      rw [same]
      by_cases accepted : accepts found = true
      · simp only [accepted, if_true, Finding.group?, Option.some.injEq, TestGroup.mk.injEq]
        constructor
        · rintro ⟨rfl, rfl⟩
          exact ⟨rfl, accepted, rfl⟩
        · rintro ⟨rfl, -, rfl⟩
          exact ⟨rfl, rfl⟩
      · simp only [accepted, Finding.group?]
        constructor
        · intro never
          cases never
        · rintro ⟨rfl, accepted', -⟩
          exact absurd accepted' accepted
  | file content executable => simp [inspect, Finding.group?]
  | link target => simp [inspect, Finding.group?]
  | device kind => simp [inspect, Finding.group?]

theorem mem_groups {group : TestGroup} :
    group ∈ groups root accepts entries ↔
      (Utf8.encode group.name, .directory) ∈ entries ∧ accepts group.name = true ∧
        group.path = root.join ⟨Utf8.encode group.name⟩ := by
  simp only [groups, List.mem_mergeSort, List.mem_filterMap, Prod.exists, group?_inspect]
  constructor
  · rintro ⟨name, entry, member, rfl, rfl, accepted, path⟩
    exact ⟨member, accepted, path⟩
  · rintro ⟨member, accepted, path⟩
    exact ⟨_, _, member, rfl, rfl, accepted, path⟩

theorem names_apart (distinct : (entries.map Prod.fst).Nodup) :
    (groups root accepts entries).Pairwise fun a b => a.name ≠ b.name := by
  rw [groups, (List.mergeSort_perm _ _).pairwise_iff (fun apart => Ne.symm apart),
    List.pairwise_filterMap]
  rw [List.Nodup, List.pairwise_map] at distinct
  refine distinct.imp fun {first second} apart => ?_
  intro group picked group' picked' same
  obtain ⟨-, name, -⟩ := group?_inspect.1 picked
  obtain ⟨-, name', -⟩ := group?_inspect.1 picked'
  exact apart (by rw [name, name', same])

theorem groups_ascending (distinct : (entries.map Prod.fst).Nodup) :
    (groups root accepts entries).Pairwise Before := by
  have sorted : (groups root accepts entries).Pairwise fun a b => groupLe a b = true := by
    apply List.pairwise_mergeSort
    · intro a b c first second
      rw [groupLe_iff] at first second ⊢
      exact List.le_trans first second
    · intro a b
      rw [Bool.or_eq_true, groupLe_iff, groupLe_iff]
      exact List.le_total _ _
  refine (sorted.and (names_apart distinct)).imp fun ⟨le, apart⟩ => ?_
  rcases List.le_iff_lt_or_eq.1 (groupLe_iff.1 le) with less | same
  · exact less
  · exact absurd (Utf8.encode_injective same) apart

theorem nodup_groups (distinct : (entries.map Prod.fst).Nodup) :
    (groups root accepts entries).Nodup :=
  (names_apart distinct).imp fun apart same => apart (congrArg TestGroup.name same)

theorem groups_and (more : GroupPredicate) (distinct : (entries.map Prod.fst).Nodup) :
    groups root (fun name => accepts name && more name) entries =
      (groups root accepts entries).filter fun group => more group.name := by
  have ascending : (groups root accepts entries).Pairwise Before := groups_ascending distinct
  refine eq_of_ascending (groups_ascending distinct) (ascending.filter _) fun group => ?_
  simp only [mem_groups, List.mem_filter, Bool.and_eq_true]
  grind

def Accepted (accepts : GroupPredicate) (entries : List (Name × Entry)) (name : String) : Prop :=
  (Utf8.encode name, .directory) ∈ entries ∧ accepts name = true

theorem existsUnique_group {name : String} (accepted : Accepted accepts entries name) :
    ∃! group, group ∈ groups root accepts entries ∧ group.name = name := by
  refine ⟨⟨name, root.join ⟨Utf8.encode name⟩⟩,
    ⟨mem_groups.2 ⟨accepted.1, accepted.2, rfl⟩, rfl⟩, ?_⟩
  rintro ⟨_, path⟩ ⟨member, rfl⟩
  obtain ⟨-, -, joined⟩ := mem_groups.1 member
  exact congrArg _ joined

theorem groups_eq_of_accepted {others : List (Name × Entry)}
    (distinct : (entries.map Prod.fst).Nodup) (distinct' : (others.map Prod.fst).Nodup)
    (same : ∀ name, Accepted accepts others name ↔ Accepted accepts entries name) :
    groups root accepts others = groups root accepts entries := by
  refine eq_of_ascending (groups_ascending distinct') (groups_ascending distinct) fun group => ?_
  rw [mem_groups, mem_groups, ← and_assoc, ← and_assoc]
  exact and_congr_left' (same group.name)

end Groups

end Discovery

section Select

variable {root : Path} {config : Config} {fs : FileSystem} {groups : List TestGroup}
variable {found : List Log.Event}

theorem discover_of_listed (accepts : GroupPredicate) {entries : List (Name × Entry)}
    (listed : fs.Lists root entries) :
    (entries.map Prod.fst).Nodup ∧ discover root accepts fs =
      .ok (Discovery.groups root accepts entries, Discovery.events root accepts entries) := by
  obtain ⟨dir, -, same, -⟩ := FileSystem.lists_iff.1 listed
  constructor
  · rw [same]
    exact FileSystem.nodup_children fs dir
  · rw [FileSystem.Lists] at listed
    simp only [discover, listed, Discovery.scan_eq_iff.2 rfl]

theorem discover_eq_ok_iff {accepts : GroupPredicate} :
    discover root accepts fs = .ok (groups, found) ↔
      ∃ entries, fs.Lists root entries ∧ groups = Discovery.groups root accepts entries ∧
        found = Discovery.events root accepts entries := by
  constructor
  · intro discovered
    rw [discover] at discovered
    cases listed : fs.readDir root with
    | error e =>
      rw [listed] at discovered
      cases discovered
    | ok items =>
      simp only [listed] at discovered
      split at discovered
      next => cases discovered
      next entries scanned =>
        rw [Discovery.scan_eq_iff.1 scanned] at listed
        cases discovered
        exact ⟨entries, listed, rfl, rfl⟩
  · rintro ⟨entries, listed, rfl, rfl⟩
    exact (discover_of_listed accepts listed).2

theorem discover_eq_error_iff {accepts : GroupPredicate} {e : RunError} :
    discover root accepts fs = .error e ↔
      (∃ cause, fs.readDir root = .error cause ∧ e = .io cause) ∨
      ∃ items cause, fs.readDir root = .ok items ∧
        items.findSome? Discovery.unread? = some cause ∧ e = .io cause := by
  rw [discover]
  cases fs.readDir root with
  | error cause => simp [eq_comm]
  | ok items =>
    cases scanned : Discovery.scan items with
    | mk entries broken =>
      cases broken <;> simp [← Discovery.scan_broken, scanned, eq_comm]

theorem select_eq_ok_iff :
    Suite.select root config fs = .ok (groups, found) ↔
      root.fileName = some (Utf8.encode testsDirectoryName) ∧
        ∃ entries, fs.Lists root entries ∧
          groups = Discovery.groups root config.ignore.accepts entries ∧
          found = Discovery.events root config.ignore.accepts entries := by
  rw [Suite.select, ensureTestsDirectory, ← discover_eq_ok_iff]
  by_cases named : root.fileName = some (Utf8.encode testsDirectoryName)
  · simp [named]
  · simp [named]

theorem leadsTo_of_mem (proper : fs.ProperNames) {dir : Location} {accepts : GroupPredicate}
    (leads : fs.LeadsTo root dir) {group : TestGroup}
    (member : group ∈ Discovery.groups root accepts (fs.children dir)) :
    fs.LeadsTo group.path (Utf8.encode group.name :: dir) := by
  obtain ⟨held, -, path⟩ := Discovery.mem_groups.1 member
  rw [path]
  exact leads.join (FileSystem.properName_of_children proper held)
    ((fs.mem_children_iff ..).1 held)

end Select

namespace Sample

def tests : Location := [Utf8.encode testsDirectoryName]

def place (name : String) : Location := Utf8.encode name :: tests

def mixed : FileSystem :=
  [(tests, .directory), (place "groupB", .directory), (place "groupC", .link (.ofString "groupB")),
    ([0x67, 0xFF] :: tests, .directory), (place "group.txt", .file [] false),
    (place "groupA", .directory), (place "groupH", .directory)].foldl
      (fun fs pair => fs.put pair.1 pair.2) .empty

def tree : FileSystem :=
  [(tests, .directory), (place "groupA", .directory),
    (Utf8.encode stdoutFile :: place "groupA", .file [0x6F, 0x6C, 0x64] true),
    (place "groupB", .directory), (place "groupH", .directory),
    (place "notes", .file [] false)].foldl (fun fs pair => fs.put pair.1 pair.2) .empty

def root : Path := .ofString "/tests"

def config : Config := { binary := .ofString "/bin/tool", extraArgs := [] }

def group (name : String) : TestGroup := ⟨name, root.join (.ofString name)⟩

theorem groups_tree : Discovery.groups root config.ignore.accepts (tree.children tests) =
    [group "groupA", group "groupB"] := by
  rw [Discovery.groups, List.mergeSort_of_pairwise (by decide +kernel)]
  decide +kernel

theorem select_tree : Suite.select root config tree =
    .ok ([group "groupA", group "groupB"],
      Discovery.events root config.ignore.accepts (tree.children tests)) :=
  select_eq_ok_iff.2 ⟨by decide +kernel, tree.children tests, rfl, groups_tree.symm, rfl⟩

end Sample

theorem discover_exact {root : Path} {fs : FileSystem} {entries : List (Name × Entry)}
    (accepts : GroupPredicate) (listed : fs.Lists root entries) :
    ∃ groups found, discover root accepts fs = .ok (groups, found) ∧
      groups.Pairwise (fun a b => Utf8.encode a.name < Utf8.encode b.name) ∧
      (∀ group ∈ groups, Discovery.Accepted accepts entries group.name ∧
        group.path = root.join ⟨Utf8.encode group.name⟩) ∧
      (∀ name text, (name, Entry.directory) ∈ entries → Utf8.decode? name = some text →
        accepts text = true → ∃! group, group ∈ groups ∧ group.name = text) ∧
      (∀ order, order.Perm entries → Discovery.groups root accepts order = groups) ∧
      (∀ other others, FileSystem.Lists other root others →
        (∀ name, Discovery.Accepted accepts others name ↔
          Discovery.Accepted accepts entries name) →
        ∃ found', discover root accepts other = .ok (groups, found')) ∧
      ∀ ignore : IgnoreSet, accepts = ignore.accepts → ∀ name, accepts name = true ↔
        "group".toList <:+: name.toList ∧
          ∀ fragment ∈ ignore.fragments, ¬ fragment.toList <:+: name.toList := by
  obtain ⟨distinct, discovered⟩ := discover_of_listed accepts listed
  refine ⟨_, _, discovered, Discovery.groups_ascending distinct, ?_, ?_, ?_, ?_, ?_⟩
  · intro group member
    obtain ⟨held, accepted, path⟩ := Discovery.mem_groups.1 member
    exact ⟨⟨held, accepted⟩, path⟩
  · intro name text held read accepted
    obtain rfl := Utf8.decode?_eq_some_iff.1 read
    exact Discovery.existsUnique_group ⟨held, accepted⟩
  · intro order perm
    refine Discovery.groups_eq_of_accepted distinct ?_ fun name => ?_
    · exact (perm.map Prod.fst).nodup_iff.2 distinct
    · exact and_congr_left' perm.mem_iff
  · intro other others listed' same
    obtain ⟨distinct', discovered'⟩ := discover_of_listed accepts listed'
    exact ⟨_, by rw [discovered', Discovery.groups_eq_of_accepted distinct distinct' same]⟩
  · rintro ignore rfl name
    exact IgnoreSet.accepts_iff

theorem mixed_discover_exact : ∃ found,
    discover Sample.root Sample.config.ignore.accepts Sample.mixed =
      .ok ([Sample.group "groupA", Sample.group "groupB"], found) := by
  have listed : Sample.mixed.Lists Sample.root (Sample.mixed.children Sample.tests) := rfl
  obtain ⟨groups, found, discovered, -, -, -, order, -, -⟩ :=
    discover_exact Sample.config.ignore.accepts listed
  -- Listed the other way round, the groups come in order at once.
  have sorted := order (Sample.mixed.children Sample.tests).reverse (List.reverse_perm _)
  rw [Discovery.groups, List.mergeSort_of_pairwise (by decide +kernel)] at sorted
  have read : ((Sample.mixed.children Sample.tests).reverse.filterMap fun entry =>
      (Discovery.inspect Sample.root Sample.config.ignore.accepts entry).group?) =
        [Sample.group "groupA", Sample.group "groupB"] := by decide +kernel
  exact ⟨found, by rw [discovered, ← sorted, read]⟩

end GroupRunner
