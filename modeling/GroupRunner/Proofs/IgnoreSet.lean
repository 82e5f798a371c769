import GroupRunner.Proofs.Discovery

set_option autoImplicit false

namespace GroupRunner

namespace IgnoreSet

inductive Use
  | insert (fragment : String)
  | lookUp (name : String)
  deriving DecidableEq

def Use.fragment? : Use → Option String
  | .insert fragment => some fragment
  | .lookUp _ => none

def step (set : IgnoreSet) : Use → Option Bool × IgnoreSet
  | .insert fragment => (none, set.insert fragment)
  | .lookUp name => (some (set.covers name), set)

def run (set : IgnoreSet) : List Use → List (Option Bool) × IgnoreSet
  | [] => ([], set)
  | first :: rest =>
    let (answer, set) := set.step first
    let (answers, set) := set.run rest
    (answer :: answers, set)

-- The set holds each of these fragments, in the order in which they came first.
structure Collects (set : IgnoreSet) (inserted : List String) : Prop where
  members : ∀ fragment, fragment ∈ set.fragments ↔ fragment ∈ inserted
  order : set.fragments.Pairwise fun a b => inserted.idxOf a < inserted.idxOf b

namespace Collects

variable {set : IgnoreSet} {inserted : List String}

theorem empty : empty.Collects [] := ⟨fun _ => .rfl, .nil⟩

theorem insert (collects : set.Collects inserted) (fragment : String) :
    (set.insert fragment).Collects (inserted ++ [fragment]) := by
  have early {a : String} (member : a ∈ set.fragments) :
      (inserted ++ [fragment]).idxOf a = inserted.idxOf a := by
    rw [List.idxOf_append, if_pos ((collects.members a).1 member)]
  have kept : set.fragments.Pairwise fun a b =>
      (inserted ++ [fragment]).idxOf a < (inserted ++ [fragment]).idxOf b := by
    refine collects.order.imp_of_mem fun {a b} member member' less => ?_
    rwa [early member, early member']
  refine ⟨fun other => ?_, ?_⟩
  · rw [mem_insert, collects.members, List.mem_append, List.mem_singleton, or_comm]
  · unfold IgnoreSet.insert
    split
    next => exact kept
    next absent =>
      -- A new fragment comes after all that were there.
      have new : fragment ∉ inserted := fun member => absent ((collects.members fragment).2 member)
      refine List.pairwise_append.2 ⟨kept, List.pairwise_singleton _ _, fun a member b last => ?_⟩
      obtain rfl := List.mem_singleton.1 last
      rw [early member, List.idxOf_append, if_neg new, List.idxOf_cons_self, Nat.zero_add]
      exact List.idxOf_lt_length_iff.2 ((collects.members a).1 member)

theorem foldl (collects : set.Collects inserted) (more : List String) :
    (more.foldl IgnoreSet.insert set).Collects (inserted ++ more) := by
  induction more generalizing set inserted with
  | nil => rwa [List.append_nil]
  | cons fragment rest ih =>
    have onward := ih (collects.insert fragment)
    rwa [List.append_assoc, List.singleton_append] at onward

theorem covers_iff (collects : set.Collects inserted) {name : String} :
    set.covers name = true ↔ ∃ fragment ∈ inserted, fragment.toList <:+: name.toList := by
  simp only [IgnoreSet.covers_iff, collects.members]

end Collects

section Run

variable {set : IgnoreSet} {before after : List Use}

theorem run_append : set.run (before ++ after) =
    ((set.run before).1 ++ ((set.run before).2.run after).1, ((set.run before).2.run after).2) := by
  induction before generalizing set with
  | nil => rfl
  | cons first rest ih => simp only [List.cons_append, run, ih]

theorem length_answers : (set.run before).1.length = before.length := by
  induction before generalizing set with
  | nil => rfl
  | cons first rest ih => simp only [run, List.length_cons, ih]

theorem set_run : (set.run before).2 = (before.filterMap Use.fragment?).foldl insert set := by
  induction before generalizing set with
  | nil => rfl
  | cons first rest ih =>
    cases first with
    | insert fragment => exact ih
    | lookUp name => exact ih

theorem answer_lookUp {name : String} :
    (set.run (before ++ .lookUp name :: after)).1[before.length]? =
      some (some ((set.run before).2.covers name)) := by
  rw [run_append, List.getElem?_append_right (Nat.le_of_eq length_answers), length_answers,
    Nat.sub_self]
  rfl

theorem collects_run (fragments : List String) (uses : List Use) :
    ((ofList fragments).run uses).2.Collects (fragments ++ uses.filterMap Use.fragment?) := by
  rw [set_run]
  exact (Collects.empty.foldl fragments).foldl _

end Run

theorem accepts_insert {set : IgnoreSet} {fragment name : String} :
    (set.insert fragment).accepts name = true ↔
      set.accepts name = true ∧ ¬ fragment.toList <:+: name.toList := by
  simp only [accepts_iff, mem_insert, forall_eq_or_imp]
  constructor
  · exact fun ⟨marked, new, old⟩ => ⟨⟨marked, old⟩, new⟩
  · exact fun ⟨⟨marked, old⟩, new⟩ => ⟨marked, new, old⟩

theorem run_exact (fragments : List String) (uses : List Use) :
    let inserted := fragments ++ uses.filterMap Use.fragment?
    let (answers, set) := (ofList fragments).run uses
    set.fragments.Nodup ∧
    (∀ fragment, fragment ∈ set.fragments ↔ fragment ∈ inserted) ∧
    set.fragments.Pairwise (fun a b => inserted.idxOf a < inserted.idxOf b) ∧
    (∀ name, set.covers name = true ↔
      ∃ fragment ∈ inserted, fragment.toList <:+: name.toList) ∧
    (∀ before name after, uses = before ++ .lookUp name :: after →
      ∃ covered, answers[before.length]? = some (some covered) ∧ (covered = true ↔
        ∃ fragment ∈ fragments ++ before.filterMap Use.fragment?,
          fragment.toList <:+: name.toList)) ∧
    (∀ fragments' uses',
      (∀ fragment, fragment ∈ fragments' ++ uses'.filterMap Use.fragment? ↔ fragment ∈ inserted) →
      ∀ name, ((ofList fragments').run uses').2.covers name = set.covers name) ∧
    ∀ fragment name, (set.insert fragment).accepts name = true ↔
      set.accepts name = true ∧ ¬ fragment.toList <:+: name.toList := by
  intro inserted
  have collects := collects_run fragments uses
  refine ⟨IgnoreSet.nodup _, collects.members, collects.order, fun _ => collects.covers_iff, ?_, ?_,
    fun _ _ => accepts_insert⟩
  · rintro before name after rfl
    exact ⟨_, answer_lookUp, (collects_run fragments before).covers_iff⟩
  · intro fragments' uses' same name
    rw [Bool.eq_iff_iff, collects.covers_iff, (collects_run fragments' uses').covers_iff]
    simp only [same, inserted]

-- The occurrences of the fragment overlap in the name, and one fragment comes twice.
theorem overlapping_run_exact :
    let uses := [Use.lookUp "HH", .insert "HH", .insert "groupJ", .lookUp "groupHHH"]
    let (answers, set) := (ofList ["groupJ"]).run uses
    set.fragments = ["groupJ", "HH"] ∧ answers[3]? = some (some true) ∧
      ∀ name, ((ofList ["HH", "groupJ", "HH"]).run []).2.covers name = set.covers name := by
  intro uses
  obtain ⟨-, -, -, -, answered, same, -⟩ := run_exact ["groupJ"] uses
  refine ⟨by decide +kernel, ?_, same _ _ fun fragment => ?_⟩
  · obtain ⟨covered, answer, holds⟩ := answered (uses.take 3) "groupHHH" [] rfl
    have covers : covered = true := holds.2
      ⟨"HH", by decide +kernel, "group".toList, "H".toList, by decide +kernel⟩
    rwa [covers] at answer
  · change fragment ∈ ["HH", "groupJ", "HH"] ↔ fragment ∈ ["groupJ", "HH", "groupJ"]
    grind

end IgnoreSet

end GroupRunner
