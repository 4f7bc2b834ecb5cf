import GuardedSql.Proofs.Statement.Grammar

set_option autoImplicit false

/-!
Which condition a filter is rejected for.

`Filter.conditions` lists a value and the conditions inside it, each before those inside it, and
`Filter.fault?` judges one condition without looking at the conditions inside it. A filter is
rejected for the first fault in this order, and accepted if there is none:
`check_eq_error_iff_first_fault`. However many faults there are and however deep they lie, the
recursive check and the flat search find the same one.
-/

namespace GuardedSql

/-- Whether a value is one literal of a type or names a listed column. -/
def AllowList.admits (allow : AllowList) (kind : ColumnType) : Json → Bool
  | .string text => allow.hasColumn text || kind.accepts (.string text)
  | value => kind.accepts value

def AllowList.admitsOperand (allow : AllowList) (kind : ColumnType) : Json → Bool
  | .object [(function, argument)] =>
      ["MIN", "MAX", "SUM", "AVG", "COUNT"].contains function && allow.admits kind argument
  | value => allow.admits kind value

def AllowList.admitsEntries (allow : AllowList) (kind : ColumnType) (word : String) : Json → Bool
  | .array entries =>
      (if word = "BETWEEN" then entries.length == 2 else 1 ≤ entries.length) &&
        entries.all (allow.admits kind)
  | _ => false

namespace Filter

def comparisonFault? (allow : AllowList) (column : String) (kind : ColumnType) :
    Json → Option Rejection
  | .object [(word, operand)] =>
      if word ∈ ["=", ">", "<", ">=", "<=", "<>", "!="] then
        if allow.admitsOperand kind operand then none
        else some (.operandMismatch column kind.name)
      else if word ∈ ["BETWEEN", "IN"] then
        if allow.admitsEntries kind word operand then none
        else some (.operandMismatch column kind.name)
      else
        some (.unknownComparator word)
  | .object (first :: second :: others) =>
      some (.severalMembers ((first :: second :: others).map Prod.fst))
  | _ => some (.operandMismatch column kind.name)

/-- What is wrong with a condition, whatever is wrong with the conditions inside it. -/
def fault? (allow : AllowList) : Json → Option Rejection
  | .object [] => some .emptyCondition
  | .object [(name, body)] =>
      if name ∈ ["AND", "OR"] then
        match body with
        | .array nodes => if nodes.length < 2 then some .tooFewConditions else none
        | _ => some (.conditionsNotListed name)
      else
        match allow.typeOfColumn? name with
        | some kind => comparisonFault? allow name kind body
        | none =>
            if name ∈ ["=", ">", "<", ">=", "<=", "<>", "!=", "BETWEEN", "IN"] then
              some (.misplacedComparator name)
            else
              some (.unknownCondition name)
  | .object (first :: second :: others) =>
      some (.severalMembers ((first :: second :: others).map Prod.fst))
  | value => some (.unknownCondition value.display)

mutual

/-- A value and the conditions inside it, from left to right and each before those inside it. -/
def conditions : Json → List Json
  | .object [(name, .array nodes)] =>
      .object [(name, .array nodes)] ::
        if name ∈ ["AND", "OR"] then conditionsAll nodes else []
  | node => [node]

def conditionsAll : List Json → List Json
  | [] => []
  | node :: rest => conditions node ++ conditionsAll rest

end

end Filter

variable {allow : AllowList} {kind : ColumnType}

theorem ColumnType.isSome_literal? (value : Json) :
    (kind.literal? value).isSome = kind.accepts value := by
  by_cases accepted : kind.accepts value = true
  · have scalar : (Parameter.ofJson? value).isSome = true := by
      cases value with
      | array _ => cases kind <;> cases accepted
      | object _ => cases kind <;> cases accepted
      | _ => rfl
    rw [literal?, if_pos accepted, scalar, accepted]
  · rw [literal?, if_neg accepted, Option.isSome_none, Bool.eq_false_iff.mpr accepted]

theorem Term.isSome_check? (value : Json) :
    (check? allow kind value).isSome = allow.admits kind value := by
  have unnamed (noName : allow.columnNamed? value = none) :
      (check? allow kind value).isSome = kind.accepts value := by
    rw [check?, noName, Option.isSome_map, ColumnType.isSome_literal?]
  cases value with
  | string text =>
      by_cases listed : allow.hasColumn text = true
      · have named : allow.columnNamed? (.string text) = some text := if_pos listed
        rw [check?, named, AllowList.admits, listed]
        rfl
      · rw [unnamed (if_neg listed), AllowList.admits, Bool.eq_false_iff.mpr listed,
          Bool.false_or]
  | _ => exact unnamed rfl

theorem AllowList.isSome_entry? (value : Json) :
    (allow.entry? kind value).isSome = allow.admits kind value := by
  rw [← Term.isSome_check?, entry?, Term.check?]
  cases allow.columnNamed? value with
  | some name => rfl
  | none => rw [Option.isSome_map]

theorem Operand.isSome_checkAggregate? (function : String) (argument : Json) :
    (checkAggregate? allow kind (.object [(function, argument)])).isSome =
      allow.admitsOperand kind (.object [(function, argument)]) := by
  have known : (Aggregate.ofToken? function).isSome = true ↔
      ["MIN", "MAX", "SUM", "AVG", "COUNT"].contains function = true := by
    rw [Aggregate.isSome_ofToken?_iff, List.contains_iff_mem]
  rw [AllowList.admitsOperand, ← Term.isSome_check?, checkAggregate?, ← Bool.coe_iff_coe.mp known]
  cases Aggregate.ofToken? function with
  | none => rfl
  | some aggregate => exact Option.isSome_map

theorem Operand.isSome_check? (value : Json) :
    (check? allow kind value).isSome = allow.admitsOperand kind value := by
  cases value with
  | object members =>
      rcases members with _ | ⟨⟨function, argument⟩, _ | ⟨second, others⟩⟩
      · cases kind <;> rfl
      · exact isSome_checkAggregate? function argument
      · cases kind <;> rfl
  | _ => exact Option.isSome_map.trans (Term.isSome_check? _)

theorem ListComparator.acceptsLength_of_spelled {word : String} {comparator : ListComparator}
    (spelled : (word, comparator) ∈ spellings) (length : Nat) :
    comparator.acceptsLength length =
      if word = "BETWEEN" then length == 2 else decide (1 ≤ length) := by
  rw [eq_token_of_spelled spelled]
  cases comparator <;> rfl

theorem ListComparator.isSome_check? {word : String} {comparator : ListComparator}
    (spelled : (word, comparator) ∈ spellings) (value : Json) :
    (comparator.check? allow kind value).isSome = allow.admitsEntries kind word value := by
  cases value with
  | array entries =>
      have counted := acceptsLength_of_spelled spelled entries.length
      have each : (entries.mapM (allow.entry? kind)).isSome = entries.all (allow.admits kind) := by
        rw [Option.isSome_mapM]
        exact congrArg entries.all (funext fun entry => AllowList.isSome_entry? entry)
      rw [check?, AllowList.admitsEntries, ← counted, ← each]
      cases comparator.acceptsLength entries.length <;> rfl
  | _ => rfl

namespace Filter

theorem failure?_checkMember (column word : String) (operand : Json) :
    failure? (checkMember allow column kind word operand) =
      comparisonFault? allow column kind (.object [(word, operand)]) := by
  simp only [comparisonFault?, checkMember, ← Operand.isSome_check?,
    ← Comparator.isSome_ofToken?_iff, ← ListComparator.isSome_ofToken?_iff]
  cases Comparator.ofToken? word with
  | some comparator =>
      cases Operand.check? allow kind operand with
      | some checked => rfl
      | none => rfl
  | none =>
      cases read : ListComparator.ofToken? word with
      | none => rfl
      | some comparator =>
          have spelled := ListComparator.ofToken?_eq_some_iff.mp read
          rw [← ListComparator.isSome_check? spelled operand]
          dsimp only
          cases comparator.check? allow kind operand with
          | some values => rfl
          | none => rfl

theorem failure?_checkComparison {column : String} (comparison : Json)
    (listed : allow.typeOfColumn? column = some kind) :
    failure? (checkComparison allow column comparison) =
      comparisonFault? allow column kind comparison := by
  rw [checkComparison, listed]
  cases comparison with
  | object members =>
      rcases members with _ | ⟨⟨word, operand⟩, _ | ⟨second, others⟩⟩
      · rfl
      · exact failure?_checkMember column word operand
      · rfl
  | _ => rfl

/-- A condition that is no group is rejected for its own fault. -/
theorem failure?_check_of_column {name : String} (body : Json)
    (unreserved : name ∉ ["AND", "OR"]) :
    failure? (check allow (.object [(name, body)])) = fault? allow (.object [(name, body)]) := by
  have unread : Connective.ofToken? name = none :=
    Option.not_isSome_iff_eq_none.mp fun known =>
      unreserved (Connective.isSome_ofToken?_iff.mp known)
  unfold check fault?
  simp only [unread, if_neg unreserved, ← isAnyComparator_iff]
  change failure? (if (allow.typeOfColumn? name).isSome = true then _ else _) = _
  cases listed : allow.typeOfColumn? name with
  | some kind => exact failure?_checkComparison body listed
  | none => cases isAnyComparator name <;> rfl

theorem failure?_check_of_connective {name : String} {body : Json}
    (reserved : name ∈ ["AND", "OR"]) (notListed : ∀ nodes, body ≠ .array nodes) :
    failure? (check allow (.object [(name, body)])) = fault? allow (.object [(name, body)]) := by
  obtain ⟨connective, read⟩ :=
    Option.isSome_iff_exists.mp (Connective.isSome_ofToken?_iff.mpr reserved)
  cases body with
  | array nodes => exact absurd rfl (notListed nodes)
  | _ => simp only [check, read, fault?, if_pos reserved, failure?]

/-- A condition without a list is rejected for its own fault. -/
theorem failure?_check_of_notListed {node : Json}
    (notListed : ∀ name nodes, node ≠ .object [(name, .array nodes)]) :
    failure? (check allow node) = fault? allow node := by
  cases node with
  | object members =>
      rcases members with _ | ⟨⟨name, body⟩, _ | ⟨second, others⟩⟩
      · rfl
      · by_cases reserved : name ∈ ["AND", "OR"]
        · refine failure?_check_of_connective reserved ?_
          rintro nodes rfl
          exact notListed name nodes rfl
        · exact failure?_check_of_column body reserved
      · rfl
  | _ => rfl

theorem failure?_check_group {name : String} {nodes : List Json} (reserved : name ∈ ["AND", "OR"]) :
    failure? (check allow (.object [(name, .array nodes)])) =
      (fault? allow (.object [(name, .array nodes)])).or (failure? (checkAll allow nodes)) := by
  obtain ⟨connective, read⟩ :=
    Option.isSome_iff_exists.mp (Connective.isSome_ofToken?_iff.mpr reserved)
  rw [check, read, fault?, if_pos reserved]
  by_cases few : nodes.length < 2
  · simp only [if_pos few, failure?, Option.some_or]
  · simp only [if_neg few, Option.none_or]
    cases checkAll allow nodes with
    | error cause => rfl
    | ok filters => rfl

theorem failure?_checkAll_cons (node : Json) (rest : List Json) :
    failure? (checkAll allow (node :: rest)) =
      (failure? (check allow node)).or (failure? (checkAll allow rest)) := by
  rw [checkAll]
  cases check allow node with
  | error cause => rfl
  | ok filter =>
      cases checkAll allow rest with
      | error cause => rfl
      | ok filters => rfl

/-- The check fails for the first fault, and only for a fault. -/
theorem failure?_check (node : Json) :
    failure? (check allow node) = (conditions node).findSome? (fault? allow) := by
  refine conditions.induct
    (fun node => failure? (check allow node) = (conditions node).findSome? (fault? allow))
    (fun nodes => failure? (checkAll allow nodes) = (conditionsAll nodes).findSome? (fault? allow))
    ?listed ?notListed ?nil ?cons node
  case listed =>
    intro name nodes each
    by_cases reserved : name ∈ ["AND", "OR"]
    · rw [failure?_check_group reserved, each, conditions, if_pos reserved, List.findSome?_cons]
      cases fault? allow (.object [(name, .array nodes)]) with
      | some cause => rfl
      | none => rfl
    · rw [failure?_check_of_column _ reserved, conditions, if_neg reserved,
        List.findSome?_singleton]
  case notListed =>
    intro node notListed
    rw [failure?_check_of_notListed notListed, conditions.eq_2 node notListed,
      List.findSome?_singleton]
  case nil => rfl
  case cons =>
    intro node rest first others
    rw [failure?_checkAll_cons, first, others, conditionsAll, List.findSome?_append]

/-! ### Sorted values -/

theorem sorted_of_mem_conditions (node : Json) :
    node.Sorted → ∀ condition ∈ conditions node, condition.Sorted := by
  refine conditions.induct
    (fun node => node.Sorted → ∀ condition ∈ conditions node, condition.Sorted)
    (fun nodes => Json.SortedElements nodes →
      ∀ condition ∈ conditionsAll nodes, condition.Sorted) ?listed ?notListed ?nil ?cons node
  case listed =>
    intro name nodes each sorted condition member
    rw [conditions, List.mem_cons] at member
    rcases member with rfl | inside
    · exact sorted
    · split at inside
      · exact each sorted.2.1 condition inside
      · cases inside
  case notListed =>
    intro node notListed sorted condition member
    rw [conditions.eq_2 node notListed, List.mem_singleton] at member
    exact member ▸ sorted
  case nil =>
    intro _ condition member
    cases member
  case cons =>
    intro node rest first others sorted condition member
    rw [conditionsAll, List.mem_append] at member
    exact member.elim (first sorted.1 condition) (others sorted.2 condition)

theorem pairwise_names {members : List (String × Json)} (sorted : (Json.object members).Sorted) :
    (members.map Prod.fst).Pairwise (· < ·) :=
  List.pairwise_map.mpr sorted.1

theorem pairwise_of_comparisonFault? {column : String} {comparison : Json} {names : List String}
    (sorted : comparison.Sorted)
    (faulty : comparisonFault? allow column kind comparison = some (.severalMembers names)) :
    names.Pairwise (· < ·) := by
  unfold comparisonFault? at faulty
  split at faulty
  · split at faulty
    · split at faulty <;> cases faulty
    · split at faulty
      · split at faulty <;> cases faulty
      · cases faulty
  · cases faulty
    exact pairwise_names sorted
  · cases faulty

theorem pairwise_of_fault? {condition : Json} {names : List String} (sorted : condition.Sorted)
    (faulty : fault? allow condition = some (.severalMembers names)) :
    names.Pairwise (· < ·) := by
  unfold fault? at faulty
  split at faulty
  · cases faulty
  · split at faulty
    · split at faulty
      · split at faulty <;> cases faulty
      · cases faulty
    · split at faulty
      · exact pairwise_of_comparisonFault? sorted.2.1 faulty
      · split at faulty <;> cases faulty
  · cases faulty
    exact pairwise_names sorted
  · cases faulty

/-- A filter is rejected for the first fault among its conditions, and accepted if there is none.
The names that a fault lists are in increasing order if the members of every object are. -/
theorem check_eq_error_iff_first_fault (allow : AllowList) (node : Json) :
    (∀ cause, check allow node = .error cause ↔
      ∃ before failing after, conditions node = before ++ failing :: after ∧
        (∀ earlier ∈ before, fault? allow earlier = none) ∧ fault? allow failing = some cause) ∧
    ((∃ filter, check allow node = .ok filter) ↔
      ∀ condition ∈ conditions node, fault? allow condition = none) ∧
    (node.Sorted → ∀ names, check allow node = .error (.severalMembers names) →
      names.Pairwise (· < ·)) := by
  refine ⟨?_, ?_, ?_⟩
  · intro cause
    rw [← failure?_eq_some_iff, failure?_check, List.findSome?_eq_some_iff]
    simp only [and_comm]
  · rw [← failure?_eq_none_iff, failure?_check, List.findSome?_eq_none_iff]
  · intro sorted names rejected
    rw [← failure?_eq_some_iff, failure?_check] at rejected
    obtain ⟨failing, member, faulty⟩ := List.exists_of_findSome?_eq_some rejected
    exact pairwise_of_fault? (sorted_of_mem_conditions node sorted failing member) faulty

/-- A filter with two faults, one behind the other in a group inside a group. -/
def faultyOrders : Json :=
  .object [("AND", .array [.object [("total", .object [("=", .string "total")])],
    .object [("OR", .array [.object [("IN", .null), ("total", .null)], .object []])]])]

theorem check_faultyOrders :
    faultyOrders.Sorted ∧
    check Orders.allowList faultyOrders = .error (.severalMembers ["IN", "total"]) ∧
    ["IN", "total"].Pairwise (· < ·) := by
  have found := check_eq_error_iff_first_fault Orders.allowList faultyOrders
  have sorted : faultyOrders.Sorted := by
    simp only [faultyOrders, Json.Sorted, Json.SortedMembers, Json.SortedElements, Ascending,
      List.pairwise_singleton, List.pairwise_pair, true_and, and_true]
    decide
  have rejected : check Orders.allowList faultyOrders =
      .error (.severalMembers ["IN", "total"]) := by
    refine (found.1 _).mpr ⟨[faultyOrders, _, _], _, [_], rfl, ?_, rfl⟩
    decide
  exact ⟨sorted, rejected, found.2.2 sorted _ rejected⟩

end Filter

end GuardedSql
