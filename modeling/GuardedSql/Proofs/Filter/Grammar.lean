import GuardedSql.Filter
import GuardedSql.Proofs.Keyword.Spelling
import GuardedSql.Proofs.Result

set_option autoImplicit false

/-!
Which filter a value describes.

The relation `Filter.Describes` says under which allow-list a value describes a filter, with one
rule for groups, one for comparisons with an operand and one for comparisons with a list. It names
the accepted words and lengths itself and does not mention the check. The check gives a filter
exactly when the value describes it: `check_eq_ok_iff_describes`.

Whatever holds of every accepted filter is proved by induction over the relation,
`Filter.Describes.induct`; no such proof looks into the check.
-/

namespace GuardedSql

open List (Forall₂)

namespace AllowList

def NamesColumn (allow : AllowList) (value : Json) : Prop :=
  ∃ name, value = .string name ∧ allow.hasColumn name = true

theorem columnNamed?_eq_some_iff {allow : AllowList} {value : Json} {name : String} :
    allow.columnNamed? value = some name ↔ value = .string name ∧ allow.hasColumn name = true := by
  cases value with
  | string text =>
      simp only [columnNamed?, Option.ite_none_right_eq_some, Option.some.injEq,
        Json.string.injEq]
      constructor
      · rintro ⟨listed, rfl⟩
        exact ⟨rfl, listed⟩
      · rintro ⟨rfl, listed⟩
        exact ⟨listed, rfl⟩
  | _ => simp only [columnNamed?, reduceCtorEq, false_and]

theorem columnNamed?_eq_none_iff {allow : AllowList} {value : Json} :
    allow.columnNamed? value = none ↔ ¬allow.NamesColumn value := by
  rw [Option.eq_none_iff_forall_ne_some, NamesColumn, not_exists]
  exact forall_congr' fun name => not_congr columnNamed?_eq_some_iff

theorem hasColumn_of_typeOfColumn? {allow : AllowList} {name : String} {kind : ColumnType}
    (listed : allow.typeOfColumn? name = some kind) : allow.hasColumn name = true :=
  Option.isSome_iff_exists.mpr ⟨kind, listed⟩

end AllowList

theorem ColumnType.literal?_eq_some_iff {kind : ColumnType} {value : Json}
    {parameter : Parameter} :
    kind.literal? value = some parameter ↔
      kind.accepts value = true ∧ Parameter.ofJson? value = some parameter := by
  simp only [literal?, Option.ite_none_right_eq_some]

variable {allow : AllowList} {kind : ColumnType}

/-- A value describes a column if it names a listed one, and otherwise the literal it is, which
has to be of the expected type. -/
inductive Term.Describes (allow : AllowList) (kind : ColumnType) : Json → Term → Prop where
  | column {name : String} (listed : allow.hasColumn name = true) :
      Describes allow kind (.string name) (.column name)
  | literal {value : Json} {parameter : Parameter} (unnamed : ¬allow.NamesColumn value)
      (accepted : kind.accepts value = true) (bound : Parameter.ofJson? value = some parameter) :
      Describes allow kind value (.value parameter)

theorem Term.check?_eq_some_iff {value : Json} {term : Term} :
    check? allow kind value = some term ↔ Describes allow kind value term := by
  unfold check?
  cases named : allow.columnNamed? value with
  | some name =>
      obtain ⟨rfl, listed⟩ := AllowList.columnNamed?_eq_some_iff.mp named
      constructor
      · intro found
        cases found
        exact .column listed
      · intro described
        cases described with
        | column _ => rfl
        | literal unnamed _ _ => exact absurd ⟨name, rfl, listed⟩ unnamed
  | none =>
      have unnamed := AllowList.columnNamed?_eq_none_iff.mp named
      constructor
      · intro found
        obtain ⟨parameter, literal, rfl⟩ := Option.map_eq_some_iff.mp found
        obtain ⟨accepted, bound⟩ := ColumnType.literal?_eq_some_iff.mp literal
        exact .literal unnamed accepted bound
      · intro described
        cases described with
        | column listed => exact absurd ⟨_, rfl, listed⟩ unnamed
        | literal _ accepted bound =>
            rw [ColumnType.literal?_eq_some_iff.mpr ⟨accepted, bound⟩]
            rfl

/-- A value describes an operand if it describes a term, or if it is an object whose only member
is an aggregate with a value that describes a term. -/
inductive Operand.Describes (allow : AllowList) (kind : ColumnType) : Json → Operand → Prop where
  | term {value : Json} {argument : Term} (described : Term.Describes allow kind value argument) :
      Describes allow kind value (.term argument)
  | aggregate {word : String} {function : Aggregate} {value : Json} {argument : Term}
      (spelled : (word, function) ∈ Aggregate.spellings)
      (described : Term.Describes allow kind value argument) :
      Describes allow kind (.object [(word, value)]) (.aggregate function argument)

private theorem Operand.describes_of_checkAggregate? {value : Json} {operand : Operand}
    (found : checkAggregate? allow kind value = some operand) :
    Describes allow kind value operand := by
  unfold checkAggregate? at found
  split at found
  · rename_i word argument
    split at found
    · cases found
    · rename_i function read
      obtain ⟨term, checked, rfl⟩ := Option.map_eq_some_iff.mp found
      exact .aggregate (Aggregate.ofToken?_eq_some_iff.mp read)
        (Term.check?_eq_some_iff.mp checked)
  · cases found

theorem Operand.check?_eq_some_iff {value : Json} {operand : Operand} :
    check? allow kind value = some operand ↔ Describes allow kind value operand := by
  constructor
  · intro found
    cases value with
    | object members => exact describes_of_checkAggregate? found
    | _ =>
        obtain ⟨term, checked, rfl⟩ := Option.map_eq_some_iff.mp found
        exact .term (Term.check?_eq_some_iff.mp checked)
  · intro described
    cases described with
    | term described =>
        have checked := Term.check?_eq_some_iff.mpr described
        cases value with
        | object members =>
            -- An object is no scalar, so no term is described by it.
            cases described with
            | literal _ _ bound => cases bound
        | _ => exact Option.map_eq_some_iff.mpr ⟨_, checked, rfl⟩
    | aggregate spelled described =>
        simp only [check?, checkAggregate?, Aggregate.ofToken?_eq_some_iff.mpr spelled,
          Term.check?_eq_some_iff.mpr described, Option.map_some]

/-- An entry of a list describes the literal it is, if it names a listed column or is of the
expected type. -/
structure ListComparator.EntryDescribes (allow : AllowList) (kind : ColumnType) (entry : Json)
    (parameter : Parameter) : Prop where
  fitting : allow.NamesColumn entry ∨ kind.accepts entry = true
  bound : Parameter.ofJson? entry = some parameter

theorem AllowList.entry?_eq_some_iff {entry : Json} {parameter : Parameter} :
    allow.entry? kind entry = some parameter ↔
      ListComparator.EntryDescribes allow kind entry parameter := by
  unfold entry?
  cases named : allow.columnNamed? entry with
  | some name =>
      obtain ⟨rfl, listed⟩ := columnNamed?_eq_some_iff.mp named
      exact ⟨fun same => ⟨.inl ⟨name, rfl, listed⟩, same⟩, fun described => described.bound⟩
  | none =>
      have unnamed := columnNamed?_eq_none_iff.mp named
      rw [ColumnType.literal?_eq_some_iff]
      exact ⟨fun both => ⟨.inr both.1, both.2⟩,
        fun described => ⟨described.fitting.resolve_left unnamed, described.bound⟩⟩

theorem ListComparator.acceptsLength_eq_true_iff {comparator : ListComparator} {length : Nat} :
    comparator.acceptsLength length = true ↔
      comparator = .between ∧ length = 2 ∨ comparator = .within ∧ 1 ≤ length := by
  cases comparator <;> simp [acceptsLength]

theorem ListComparator.check?_eq_some_iff {comparator : ListComparator} {value : Json}
    {values : List Parameter} :
    comparator.check? allow kind value = some values ↔ ∃ entries, value = .array entries ∧
      comparator.acceptsLength entries.length = true ∧
        Forall₂ (EntryDescribes allow kind) entries values := by
  have entriesRead : (fun entry parameter => allow.entry? kind entry = some parameter) =
      EntryDescribes allow kind := by
    funext entry parameter
    exact propext AllowList.entry?_eq_some_iff
  cases value with
  | array entries =>
      simp only [check?, Option.ite_none_right_eq_some, Option.mapM_eq_some_iff, entriesRead,
        Json.array.injEq]
      constructor
      · rintro ⟨counted, described⟩
        exact ⟨entries, rfl, counted, described⟩
      · rintro ⟨_, rfl, counted, described⟩
        exact ⟨counted, described⟩
  | _ => simp only [check?, reduceCtorEq, false_and, exists_false]

/-! ### Filters -/

namespace Filter

/-- The rules by which a value describes a filter. -/
inductive Describes (allow : AllowList) : Json → Filter → Prop where
  | group {word : String} {connective : Connective} {nodes : List Json} {filters : List Filter}
      (spelled : (word, connective) ∈ Connective.spellings) (several : 2 ≤ nodes.length)
      (described : Forall₂ (Describes allow) nodes filters) :
      Describes allow (.object [(word, .array nodes)]) (.group connective filters)
  | compare {column : String} {kind : ColumnType} {word : String} {comparator : Comparator}
      {value : Json} {operand : Operand} (unreserved : column ≠ "AND" ∧ column ≠ "OR")
      (listed : allow.typeOfColumn? column = some kind)
      (spelled : (word, comparator) ∈ Comparator.spellings)
      (described : Operand.Describes allow kind value operand) :
      Describes allow (.object [(column, .object [(word, value)])])
        (.compare column comparator operand)
  | list {column : String} {kind : ColumnType} {word : String} {comparator : ListComparator}
      {entries : List Json} {values : List Parameter}
      (unreserved : column ≠ "AND" ∧ column ≠ "OR")
      (listed : allow.typeOfColumn? column = some kind)
      (spelled : (word, comparator) ∈ ListComparator.spellings)
      (counted : comparator = .between ∧ entries.length = 2 ∨
        comparator = .within ∧ 1 ≤ entries.length)
      (described : Forall₂ (ListComparator.EntryDescribes allow kind) entries values) :
      Describes allow (.object [(column, .object [(word, .array entries)])])
        (.list column comparator values)

/-- Induction over the values that describe filters. A group may use what is to be shown of each
of its conditions. -/
@[elab_as_elim]
theorem Describes.induct {motive : Json → Filter → Prop}
    (group : ∀ {word connective nodes filters}, (word, connective) ∈ Connective.spellings →
      2 ≤ nodes.length → Forall₂ (Describes allow) nodes filters → Forall₂ motive nodes filters →
      motive (.object [(word, .array nodes)]) (.group connective filters))
    (compare : ∀ {column kind word comparator value operand}, column ≠ "AND" ∧ column ≠ "OR" →
      allow.typeOfColumn? column = some kind → (word, comparator) ∈ Comparator.spellings →
      Operand.Describes allow kind value operand →
      motive (.object [(column, .object [(word, value)])]) (.compare column comparator operand))
    (list : ∀ {column kind word comparator entries values}, column ≠ "AND" ∧ column ≠ "OR" →
      allow.typeOfColumn? column = some kind → (word, comparator) ∈ ListComparator.spellings →
      (comparator = .between ∧ entries.length = 2 ∨ comparator = .within ∧ 1 ≤ entries.length) →
      Forall₂ (ListComparator.EntryDescribes allow kind) entries values →
      motive (.object [(column, .object [(word, .array entries)])])
        (.list column comparator values))
    {node : Json} {filter : Filter} (described : Describes allow node filter) :
    motive node filter :=
  @Describes.rec allow (fun node filter _ => motive node filter)
    (fun nodes filters _ => Forall₂ motive nodes filters)
    group compare list .nil (fun _ _ head tail => .cons head tail) node filter described

theorem checkAll_eq_mapM (nodes : List Json) : checkAll allow nodes = nodes.mapM (check allow) := by
  induction nodes with
  | nil => rfl
  | cons node rest inductionHypothesis =>
      rw [List.mapM_cons, checkAll, inductionHypothesis]
      cases check allow node with
      | error cause => rfl
      | ok filter =>
          cases rest.mapM (check allow) with
          | error cause => rfl
          | ok filters => rfl

theorem connective_ofToken?_eq_none_iff {word : String} :
    Connective.ofToken? word = none ↔ word ≠ "AND" ∧ word ≠ "OR" := by
  simp only [Connective.ofToken?]
  by_cases isAnd : word = "AND" <;> by_cases isOr : word = "OR" <;> simp [isAnd, isOr]

/-- No word is a comparator of both kinds. -/
theorem comparator_ofToken?_eq_none {word : String} {comparator : ListComparator}
    (spelled : (word, comparator) ∈ ListComparator.spellings) :
    Comparator.ofToken? word = none := by
  have words : word = "BETWEEN" ∨ word = "IN" := by
    simp only [ListComparator.spellings, List.mem_cons, Prod.mk.injEq, List.not_mem_nil,
      or_false] at spelled
    exact spelled.imp And.left And.left
  rcases words with rfl | rfl <;> rfl

/-- An accepted comparison stands for a listed column and describes a filter on it. -/
theorem describes_of_checkComparison {column : String} {comparison : Json} {filter : Filter}
    (unreserved : column ≠ "AND" ∧ column ≠ "OR")
    (accepted : checkComparison allow column comparison = .ok filter) :
    Describes allow (.object [(column, comparison)]) filter := by
  unfold checkComparison at accepted
  split at accepted
  · cases accepted
  · rename_i kind listed
    split at accepted
    · rename_i word operand
      simp only [checkMember] at accepted
      split at accepted
      · rename_i comparator read
        split at accepted
        · rename_i checked found
          cases accepted
          exact .compare unreserved listed (Comparator.ofToken?_eq_some_iff.mp read)
            (Operand.check?_eq_some_iff.mp found)
        · cases accepted
      · split at accepted
        · rename_i comparator read
          split at accepted
          · rename_i values found
            cases accepted
            obtain ⟨entries, rfl, counted, described⟩ :=
              ListComparator.check?_eq_some_iff.mp found
            exact .list unreserved listed (ListComparator.ofToken?_eq_some_iff.mp read)
              (ListComparator.acceptsLength_eq_true_iff.mp counted) described
          · cases accepted
        · cases accepted
    · cases accepted
    · cases accepted

/-- What an accepted value looks like at its outermost level. -/
theorem cases_of_check {node : Json} {filter : Filter} (accepted : check allow node = .ok filter) :
    (∃ word connective nodes filters, node = .object [(word, .array nodes)] ∧
      (word, connective) ∈ Connective.spellings ∧ 2 ≤ nodes.length ∧
      checkAll allow nodes = .ok filters ∧ filter = .group connective filters) ∨
    ∃ column comparison, node = .object [(column, comparison)] ∧
      (column ≠ "AND" ∧ column ≠ "OR") ∧ checkComparison allow column comparison = .ok filter := by
  unfold check at accepted
  split at accepted
  · cases accepted
  · rename_i name body
    split at accepted
    · rename_i connective read
      have spelled := Connective.ofToken?_eq_some_iff.mp read
      split at accepted
      · rename_i nodes
        split at accepted
        · cases accepted
        · rename_i several
          split at accepted
          · rename_i filters checked
            cases accepted
            exact .inl ⟨name, connective, nodes, filters, rfl, spelled, Nat.le_of_not_lt several,
              checked, rfl⟩
          · cases accepted
      · cases accepted
    · rename_i unread
      split at accepted
      · exact .inr ⟨name, body, rfl, connective_ofToken?_eq_none_iff.mp unread, accepted⟩
      · split at accepted <;> cases accepted
  · cases accepted
  · cases accepted

/-- Everything the check accepts follows the rules. -/
theorem describes_of_check {node : Json} {filter : Filter}
    (accepted : check allow node = .ok filter) : Describes allow node filter := by
  rcases cases_of_check accepted with
    ⟨word, connective, nodes, filters, rfl, spelled, several, checked, rfl⟩ |
    ⟨column, comparison, rfl, unreserved, checked⟩
  · -- The conditions stand in a list inside the value, so the recursion is on their size.
    rw [checkAll_eq_mapM, Except.mapM_eq_ok_iff] at checked
    refine .group spelled several (forall₂_imp_of_mem ?_ checked)
    intro child inside described childAccepted
    exact describes_of_check childAccepted
  · exact describes_of_checkComparison unreserved checked
termination_by sizeOf node
decreasing_by
  subst node
  have smaller := List.sizeOf_lt_of_mem inside
  simp only [Json.object.sizeOf_spec, Json.array.sizeOf_spec, List.cons.sizeOf_spec,
    Prod.mk.sizeOf_spec]
  omega

/-- Everything that follows the rules is accepted. -/
theorem check_of_describes {node : Json} {filter : Filter}
    (described : Describes allow node filter) : check allow node = .ok filter := by
  refine Describes.induct ?group ?compare ?list described
  case group =>
    intro word connective nodes filters spelled several _ checked
    have enough := Nat.not_lt.mpr several
    rw [← Except.mapM_eq_ok_iff, ← checkAll_eq_mapM] at checked
    simp only [check, Connective.ofToken?_eq_some_iff.mpr spelled, if_neg enough, checked]
  case compare =>
    intro column kind word comparator value operand unreserved listed spelled described
    have unread := connective_ofToken?_eq_none_iff.mpr unreserved
    have isColumn := AllowList.hasColumn_of_typeOfColumn? listed
    simp only [check, unread, if_pos isColumn, checkComparison, listed, checkMember,
      Comparator.ofToken?_eq_some_iff.mpr spelled, Operand.check?_eq_some_iff.mpr described]
  case list =>
    intro column kind word comparator entries values unreserved listed spelled counted described
    have unread := connective_ofToken?_eq_none_iff.mpr unreserved
    have isColumn := AllowList.hasColumn_of_typeOfColumn? listed
    have accepted := ListComparator.acceptsLength_eq_true_iff.mpr counted
    have found := ListComparator.check?_eq_some_iff.mpr ⟨entries, rfl, accepted, described⟩
    simp only [check, unread, if_pos isColumn, checkComparison, listed, checkMember,
      comparator_ofToken?_eq_none spelled, ListComparator.ofToken?_eq_some_iff.mpr spelled, found]

theorem sqlOf_eq_ok_iff {node : Json} {bound : BoundSql} :
    sqlOf allow node = .ok bound ↔
      ∃ filter, Describes allow node filter ∧ filter.render = bound := by
  rw [sqlOf, Except.map_eq_ok_iff]
  constructor
  · rintro ⟨filter, accepted, rendered⟩
    exact ⟨filter, describes_of_check accepted, rendered⟩
  · rintro ⟨filter, described, rendered⟩
    exact ⟨filter, check_of_describes described, rendered⟩

/-- The check gives a filter exactly when the value describes it. -/
theorem check_eq_ok_iff_describes (allow : AllowList) (node : Json) (filter : Filter) :
    check allow node = .ok filter ↔ Describes allow node filter :=
  ⟨describes_of_check, check_of_describes⟩

end Filter

end GuardedSql
