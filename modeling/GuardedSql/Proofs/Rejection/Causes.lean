import GuardedSql.Proofs.Filter.FirstFault
import GuardedSql.Proofs.Statement.FirstFault

set_option autoImplicit false

/-!
What filters and requests are rejected for.

Not every cause that can be written down is ever given: a column type has one of four names, a field
of a request is always missed as the same kind of value, several members are at least two, and only
the cause in a filter stands inside another one. `Rejection.OfFilter` and `Rejection.OfRequest` list
the causes of filters and of requests. Both follow from the faults that the checks report.
-/

namespace GuardedSql

/-- The kind of value that each field of a request has to have. -/
def Statement.fieldKinds : List (String × String) :=
  [("query", "string"), ("items", "list"), ("table", "string"), ("connection", "string")]

namespace Rejection

/-- What a filter may be rejected for. -/
inductive OfFilter : Rejection → Prop where
  | emptyCondition : OfFilter .emptyCondition
  | unknownCondition (text : String) : OfFilter (.unknownCondition text)
  | severalMembers {names : List String} (several : 2 ≤ names.length) :
      OfFilter (.severalMembers names)
  | conditionsNotListed (connective : String) : OfFilter (.conditionsNotListed connective)
  | tooFewConditions : OfFilter .tooFewConditions
  | operandMismatch (column : String) (kind : ColumnType) :
      OfFilter (.operandMismatch column kind.name)
  | unknownComparator (word : String) : OfFilter (.unknownComparator word)
  | misplacedComparator (word : String) : OfFilter (.misplacedComparator word)

/-- What a request may be rejected for. -/
inductive OfRequest : Rejection → Prop where
  | missingField (field : String) : OfRequest (.missingField field)
  | fieldMismatch {field expected : String} (known : (field, expected) ∈ Statement.fieldKinds) :
      OfRequest (.fieldMismatch field expected)
  | unlistedQuery (query : String) : OfRequest (.unlistedQuery query)
  | unlistedItem (item : String) : OfRequest (.unlistedItem item)
  | unlistedTable (table : String) : OfRequest (.unlistedTable table)
  | unlistedConnection (connection : String) : OfRequest (.unlistedConnection connection)
  | inFilter {cause : Rejection} (inside : OfFilter cause) : OfRequest (.inFilter cause)

end Rejection

variable {allow : AllowList} {cause : Rejection}

namespace Filter

theorem ofFilter_of_comparisonFault? {column : String} {kind : ColumnType} {comparison : Json}
    (faulty : comparisonFault? allow column kind comparison = some cause) : cause.OfFilter := by
  unfold comparisonFault? at faulty
  split at faulty
  · split at faulty
    · split at faulty
      · cases faulty
      · cases faulty
        exact .operandMismatch column kind
    · split at faulty
      · split at faulty
        · cases faulty
        · cases faulty
          exact .operandMismatch column kind
      · cases faulty
        exact .unknownComparator _
  · cases faulty
    exact .severalMembers (Nat.le_add_left 2 _)
  · cases faulty
    exact .operandMismatch column kind

theorem ofFilter_of_fault? {condition : Json} (faulty : fault? allow condition = some cause) :
    cause.OfFilter := by
  unfold fault? at faulty
  split at faulty
  · cases faulty
    exact .emptyCondition
  · split at faulty
    · split at faulty
      · split at faulty
        · cases faulty
          exact .tooFewConditions
        · cases faulty
      · cases faulty
        exact .conditionsNotListed _
    · split at faulty
      · exact ofFilter_of_comparisonFault? faulty
      · split at faulty
        · cases faulty
          exact .misplacedComparator _
        · cases faulty
          exact .unknownCondition _
  · cases faulty
    exact .severalMembers (Nat.le_add_left 2 _)
  · cases faulty
    exact .unknownCondition _

theorem ofFilter_of_sqlOf {node : Json} (rejected : sqlOf allow node = .error cause) :
    cause.OfFilter := by
  rw [← failure?_eq_some_iff, sqlOf, failure?_map, failure?_check] at rejected
  obtain ⟨_, _, faulty⟩ := List.exists_of_findSome?_eq_some rejected
  exact ofFilter_of_fault? faulty

end Filter

namespace Statement

theorem ofRequest_of_mem_fieldFaults {field expected : String} {fits : Json → Bool}
    {value : Option Json} (known : (field, expected) ∈ fieldKinds)
    (member : cause ∈ fieldFaults field expected fits value) : cause.OfRequest := by
  unfold fieldFaults at member
  split at member
  · cases List.mem_singleton.mp member
    exact .missingField field
  · split at member
    · cases member
    · cases List.mem_singleton.mp member
      exact .fieldMismatch known

theorem ofRequest_of_mem_wordFaults {set : NameSet} {about : String → Rejection}
    {value : Option Json} (each : ∀ word, (about word).OfRequest)
    (member : cause ∈ wordFaults set about value) : cause.OfRequest := by
  unfold wordFaults at member
  split at member
  · split at member
    · cases member
    · cases List.mem_singleton.mp member
      exact each _
  · cases member

theorem ofRequest_of_mem_itemFaults {value : Json} (member : cause ∈ Item.faults allow value) :
    cause.OfRequest := by
  unfold Item.faults at member
  split at member
  · split at member
    · split at member
      · cases member
      · cases List.mem_singleton.mp member
        exact .unlistedItem _
    · cases List.mem_singleton.mp member
      exact .unlistedItem _
  · split at member
    · cases member
    · cases List.mem_singleton.mp member
      exact .unlistedItem _

theorem ofRequest_of_mem_itemsFaults {value : Option Json}
    (member : cause ∈ itemsFaults allow value) : cause.OfRequest := by
  unfold itemsFaults at member
  split at member
  · cases List.mem_singleton.mp member
    exact .unlistedItem _
  · obtain ⟨_, _, atItem⟩ := List.mem_flatMap.mp member
    exact ofRequest_of_mem_itemFaults atItem
  · cases member

theorem ofRequest_of_mem_connectionFaults {value : Option Json}
    (member : cause ∈ connectionFaults allow value) : cause.OfRequest := by
  unfold connectionFaults at member
  split at member
  · cases member
  · rcases List.mem_append.mp member with mistyped | unlisted
    · exact ofRequest_of_mem_fieldFaults (by decide) mistyped
    · exact ofRequest_of_mem_wordFaults .unlistedConnection unlisted

theorem ofRequest_of_mem_logicFaults {connection logic : Option Json}
    (member : cause ∈ logicFaults allow connection logic) : cause.OfRequest := by
  unfold logicFaults at member
  split at member
  · cases member
  · rcases List.mem_append.mp member with unconnected | inside
    · split at unconnected
      · cases List.mem_singleton.mp unconnected
        exact .missingField _
      · cases unconnected
    · split at inside
      · cases inside
      · rename_i rejected
        cases List.mem_singleton.mp inside
        exact .inFilter (Filter.ofFilter_of_sqlOf rejected)

theorem ofRequest_of_mem_faults {request : Json} (member : cause ∈ faults allow request) :
    cause.OfRequest := by
  unfold faults at member
  split at member
  · simp only [List.flatten_cons, List.flatten_nil, List.append_nil, List.mem_append] at member
    rcases member with query | items | table | unlistedQuery | badItem | unlistedTable |
      connection | logic
    · exact ofRequest_of_mem_fieldFaults (by decide) query
    · exact ofRequest_of_mem_fieldFaults (by decide) items
    · exact ofRequest_of_mem_fieldFaults (by decide) table
    · exact ofRequest_of_mem_wordFaults .unlistedQuery unlistedQuery
    · exact ofRequest_of_mem_itemsFaults badItem
    · exact ofRequest_of_mem_wordFaults .unlistedTable unlistedTable
    · exact ofRequest_of_mem_connectionFaults connection
    · exact ofRequest_of_mem_logicFaults logic
  · cases List.mem_singleton.mp member
    exact .missingField _

theorem ofRequest_of_sqlOf {request : Json} (rejected : sqlOf allow request = .error cause) :
    cause.OfRequest := by
  rw [← failure?_eq_some_iff, failure?_sqlOf] at rejected
  exact ofRequest_of_mem_faults (List.mem_of_head? rejected)

end Statement

end GuardedSql
