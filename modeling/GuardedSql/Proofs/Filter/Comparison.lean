import GuardedSql.Proofs.Filter.Grammar
import GuardedSql.Session

set_option autoImplicit false

/-!
A comparison alone and as a condition of a filter.

A comparison may be checked for a column by itself, or as a condition whose only member is named for
the column. The two checks accept the same comparisons, give the same filter and reject for the same
cause, with one exception: a comparator that is no column is a misplaced word in a filter and an
unknown name otherwise. The names of connectives are apart from this. As members of a filter they
are never columns, even if columns have these names, so that no accepted filter compares such a
column: `checkComparison_agrees_check`.
-/

namespace GuardedSql

namespace Filter

mutual

/-- The columns on the left of the comparisons in a filter, from left to right. -/
def subjects : Filter → List String
  | group _ children => subjectsAll children
  | compare column _ _ => [column]
  | list column _ _ => [column]

def subjectsAll : List Filter → List String
  | [] => []
  | child :: rest => subjects child ++ subjectsAll rest

end

theorem mem_subjectsAll_iff {column : String} {children : List Filter} :
    column ∈ subjectsAll children ↔ ∃ child ∈ children, column ∈ child.subjects := by
  induction children with
  | nil => simp only [subjectsAll, List.not_mem_nil, false_and, exists_false]
  | cons child rest inductionHypothesis =>
      rw [subjectsAll, List.mem_append, inductionHypothesis, List.exists_mem_cons_iff]

variable {allow : AllowList}

theorem Describes.ne_connective {node : Json} {filter : Filter}
    (described : Describes allow node filter) :
    ∀ column ∈ filter.subjects, column ≠ "AND" ∧ column ≠ "OR" := by
  refine Describes.induct ?group ?compare ?list described
  case group =>
    intro word connective nodes filters _ _ _ each column member
    obtain ⟨child, inside, ofChild⟩ := mem_subjectsAll_iff.mp member
    exact forall_mem_of_forall₂ each child inside column ofChild
  case compare =>
    intro column kind word comparator value operand unreserved _ _ _ subject member
    exact List.mem_singleton.mp member ▸ unreserved
  case list =>
    intro column kind word comparator entries values unreserved _ _ _ _ subject member
    exact List.mem_singleton.mp member ▸ unreserved

section Condition

variable {name : String} {comparison : Json}

theorem check_of_column (unreserved : name ≠ "AND" ∧ name ≠ "OR")
    (listed : allow.hasColumn name = true) :
    check allow (.object [(name, comparison)]) = checkComparison allow name comparison := by
  have unread := connective_ofToken?_eq_none_iff.mpr unreserved
  unfold check
  simp only [unread, if_pos listed]

/-- A name that is no column is judged as a word. -/
theorem check_of_unlisted (unreserved : name ≠ "AND" ∧ name ≠ "OR")
    (unlisted : ¬allow.hasColumn name = true) :
    check allow (.object [(name, comparison)]) =
      .error (if isAnyComparator name = true then .misplacedComparator name
        else .unknownCondition name) := by
  have unread := connective_ofToken?_eq_none_iff.mpr unreserved
  unfold check
  simp only [unread, if_neg unlisted]
  split <;> rfl

theorem checkComparison_of_unlisted (unlisted : ¬allow.hasColumn name = true) :
    checkComparison allow name comparison = .error (.unknownCondition name) := by
  have untyped : allow.typeOfColumn? name = none := Option.not_isSome_iff_eq_none.mp unlisted
  rw [checkComparison, untyped]

theorem check_of_notListed (reserved : name ∈ ["AND", "OR"])
    (notListed : ∀ nodes, comparison ≠ .array nodes) :
    check allow (.object [(name, comparison)]) = .error (.conditionsNotListed name) := by
  obtain ⟨connective, read⟩ :=
    Option.isSome_iff_exists.mp (Connective.isSome_ofToken?_iff.mpr reserved)
  unfold check
  cases comparison with
  | array nodes => exact absurd rfl (notListed nodes)
  | _ => simp only [read]

/-- The name of a connective stands before a list of conditions. -/
theorem exists_group_of_check (reserved : name ∈ ["AND", "OR"]) {filter : Filter}
    (accepted : check allow (.object [(name, comparison)]) = .ok filter) :
    ∃ connective children, filter = .group connective children := by
  rcases cases_of_check accepted with
    ⟨word, connective, nodes, children, _, _, _, _, isGroup⟩ | ⟨column, other, same, unreserved, _⟩
  · exact ⟨connective, children, isGroup⟩
  · cases same
    simp only [List.mem_cons, List.not_mem_nil, or_false] at reserved
    exact (reserved.elim unreserved.1 unreserved.2).elim

theorem acceptsComparison_iff :
    acceptsComparison allow name comparison = true ↔
      ∃ filter, checkComparison allow name comparison = .ok filter := by
  rw [acceptsComparison]
  cases checkComparison allow name comparison with
  | error cause => exact ⟨nofun, fun ⟨_, accepted⟩ => nomatch accepted⟩
  | ok filter => exact ⟨fun _ => ⟨filter, rfl⟩, fun _ => rfl⟩

theorem exists_renderFilter_iff {node : Json} :
    (∃ bound, (renderFilter allow node).value = .ok bound) ↔
      ∃ filter, check allow node = .ok filter := by
  change (∃ bound, sqlOf allow node = .ok bound) ↔ _
  rw [sqlOf]
  cases check allow node with
  | error cause =>
      constructor
      · rintro ⟨_, accepted⟩
        cases accepted
      · rintro ⟨_, accepted⟩
        cases accepted
  | ok filter => exact ⟨fun _ => ⟨filter, rfl⟩, fun _ => ⟨filter.render, rfl⟩⟩

theorem acceptsComparison_iff_renderFilter (unreserved : name ≠ "AND" ∧ name ≠ "OR") :
    acceptsComparison allow name comparison = true ↔
      ∃ bound, (renderFilter allow (.object [(name, comparison)])).value = .ok bound := by
  rw [acceptsComparison_iff, exists_renderFilter_iff]
  by_cases listed : allow.hasColumn name = true
  · rw [check_of_column unreserved listed]
  · rw [checkComparison_of_unlisted listed, check_of_unlisted unreserved listed]
    exact ⟨nofun, nofun⟩

end Condition

/-- A comparison for a name other than a connective has the same outcome alone and in a filter,
unless the name is a comparator and no column. A connective is never the left side of a comparison,
neither at the top of a filter nor inside it. -/
theorem checkComparison_agrees_check (allow : AllowList) :
    (∀ name comparison, name ≠ "AND" ∧ name ≠ "OR" →
      (acceptsComparison allow name comparison = true ↔
        ∃ bound, (renderFilter allow (.object [(name, comparison)])).value = .ok bound) ∧
      if allow.hasColumn name = false ∧
          name ∈ ["=", ">", "<", ">=", "<=", "<>", "!=", "BETWEEN", "IN"] then
        checkComparison allow name comparison = .error (.unknownCondition name) ∧
          check allow (.object [(name, comparison)]) = .error (.misplacedComparator name)
      else
        checkComparison allow name comparison = check allow (.object [(name, comparison)])) ∧
    (∀ name ∈ ["AND", "OR"], ∀ body,
      ((∀ nodes, body ≠ .array nodes) →
        check allow (.object [(name, body)]) = .error (.conditionsNotListed name)) ∧
      ∀ filter, check allow (.object [(name, body)]) = .ok filter →
        ∃ connective children, filter = .group connective children) ∧
    ∀ node filter, check allow node = .ok filter →
      ∀ column ∈ filter.subjects, column ≠ "AND" ∧ column ≠ "OR" := by
  refine ⟨fun name comparison unreserved => ⟨acceptsComparison_iff_renderFilter unreserved, ?_⟩,
    fun name reserved body => ⟨check_of_notListed reserved,
      fun filter accepted => exists_group_of_check reserved accepted⟩,
    fun node filter accepted => (describes_of_check accepted).ne_connective⟩
  by_cases listed : allow.hasColumn name = true
  · rw [if_neg fun both => Bool.false_ne_true (both.1.symm.trans listed),
      check_of_column unreserved listed]
  · rw [checkComparison_of_unlisted listed, check_of_unlisted unreserved listed]
    by_cases comparator : name ∈ ["=", ">", "<", ">=", "<=", "<>", "!=", "BETWEEN", "IN"]
    · rw [if_pos ⟨Bool.eq_false_iff.mpr listed, comparator⟩,
        if_pos (isAnyComparator_iff.mpr comparator)]
      exact ⟨rfl, rfl⟩
    · rw [if_neg fun both => comparator both.2,
        if_neg fun word => comparator (isAnyComparator_iff.mp word)]

/-- Columns that are named like words of a filter. -/
def wordColumns : AllowList :=
  .build [.column "AND" .integer, .column "IN" .string]

/-- A column named like a comparator is compared, a column named like a connective is not, and a
comparator that is no column is judged differently alone and in a filter. -/
theorem checkComparison_wordColumns :
    let comparison := Json.object [("IN", .array [.string "AND"])]
    (∃ bound, (renderFilter wordColumns (.object [("IN", comparison)])).value = .ok bound) ∧
    checkComparison wordColumns "=" comparison = .error (.unknownCondition "=") ∧
    check wordColumns (.object [("=", comparison)]) = .error (.misplacedComparator "=") ∧
    check wordColumns (.object [("AND", comparison)]) = .error (.conditionsNotListed "AND") := by
  intro comparison
  have agrees := checkComparison_agrees_check wordColumns
  have asColumn := agrees.1 "IN" comparison (by decide)
  have asWord := agrees.1 "=" comparison (by decide)
  have asConnective := agrees.2.1 "AND" (by decide) comparison
  rw [if_pos (by decide)] at asWord
  exact ⟨asColumn.1.mp rfl, asWord.2.1, asWord.2.2, asConnective.1 nofun⟩

end Filter

end GuardedSql
