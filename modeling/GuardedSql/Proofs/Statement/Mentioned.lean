import GuardedSql.Proofs.Statement.Grammar

set_option autoImplicit false

/-!
Only the entries of an allow-list that a value mentions matter.

`Json.strings` lists every string in a value, names of members included. If two allow-lists hold the
same about each of these strings, the value has the same outcome under both, as a filter and as a
request: the same SQL, or the same rejection with the same text in it: `sqlOf_eq_of_agreesOn`.

Every function that consults an allow-list consults it about a string of the value before it, so
there is one lemma for each of them, and the agreement passes from a value to what is in it.
-/

namespace GuardedSql

namespace Json

mutual

/-- Every text and every name of a member in a value, at any depth. -/
def strings : Json → List String
  | string text => [text]
  | array elements => stringsOfElements elements
  | object members => stringsOfMembers members
  | _ => []

def stringsOfElements : List Json → List String
  | [] => []
  | element :: rest => strings element ++ stringsOfElements rest

def stringsOfMembers : List (String × Json) → List String
  | [] => []
  | (name, value) :: rest => name :: strings value ++ stringsOfMembers rest

end

theorem stringsOfElements_eq_flatMap (elements : List Json) :
    stringsOfElements elements = elements.flatMap strings := by
  induction elements with
  | nil => rfl
  | cons element rest inductionHypothesis =>
      rw [stringsOfElements, inductionHypothesis, List.flatMap_cons]

theorem stringsOfMembers_eq_flatMap (members : List (String × Json)) :
    stringsOfMembers members = members.flatMap fun member => member.1 :: member.2.strings := by
  induction members with
  | nil => rfl
  | cons member rest inductionHypothesis =>
      rw [stringsOfMembers, inductionHypothesis, List.flatMap_cons]

end Json

namespace AllowList

/-- Two allow-lists hold the same about a name: they list it for the same positions, and as a column
of the same type. -/
structure SameEntries (first second : AllowList) (name : String) : Prop where
  queries : first.queries.contains name = second.queries.contains name
  items : first.items.contains name = second.items.contains name
  tables : first.tables.contains name = second.tables.contains name
  connections : first.connections.contains name = second.connections.contains name
  columns : first.typeOfColumn? name = second.typeOfColumn? name

instance (first second : AllowList) (name : String) : Decidable (first.SameEntries second name) :=
  decidable_of_iff
    (first.queries.contains name = second.queries.contains name ∧
      first.items.contains name = second.items.contains name ∧
      first.tables.contains name = second.tables.contains name ∧
      first.connections.contains name = second.connections.contains name ∧
      first.typeOfColumn? name = second.typeOfColumn? name)
    ⟨fun ⟨queries, items, tables, connections, columns⟩ =>
        ⟨queries, items, tables, connections, columns⟩,
      fun ⟨queries, items, tables, connections, columns⟩ =>
        ⟨queries, items, tables, connections, columns⟩⟩

/-- Two allow-lists hold the same about every string in a value. -/
def AgreesOn (first second : AllowList) (value : Json) : Prop :=
  ∀ text ∈ value.strings, first.SameEntries second text

instance (first second : AllowList) (value : Json) : Decidable (first.AgreesOn second value) :=
  List.decidableBAll (first.SameEntries second) value.strings

variable {first second : AllowList}

theorem SameEntries.hasColumn {name : String} (same : first.SameEntries second name) :
    first.hasColumn name = second.hasColumn name :=
  congrArg Option.isSome same.columns

namespace AgreesOn

theorem text {text : String} (agrees : first.AgreesOn second (.string text)) :
    first.SameEntries second text :=
  agrees text List.mem_cons_self

theorem element {elements : List Json} {element : Json}
    (agrees : first.AgreesOn second (.array elements)) (inside : element ∈ elements) :
    first.AgreesOn second element := by
  intro text member
  apply agrees
  rw [Json.strings, Json.stringsOfElements_eq_flatMap]
  exact List.mem_flatMap.mpr ⟨element, inside, member⟩

theorem name {members : List (String × Json)} {member : String × Json}
    (agrees : first.AgreesOn second (.object members)) (inside : member ∈ members) :
    first.SameEntries second member.1 := by
  apply agrees
  rw [Json.strings, Json.stringsOfMembers_eq_flatMap]
  exact List.mem_flatMap.mpr ⟨member, inside, List.mem_cons_self⟩

theorem value {members : List (String × Json)} {member : String × Json}
    (agrees : first.AgreesOn second (.object members)) (inside : member ∈ members) :
    first.AgreesOn second member.2 := by
  intro text found
  apply agrees
  rw [Json.strings, Json.stringsOfMembers_eq_flatMap]
  exact List.mem_flatMap.mpr ⟨member, inside, List.mem_cons_of_mem _ found⟩

/-- The value of a field is in the object that has it. -/
theorem field {members : List (String × Json)} {field : String} {value : Json}
    (agrees : first.AgreesOn second (.object members)) (found : members.lookup field = some value) :
    first.AgreesOn second value := by
  obtain ⟨before, behind, rfl, _⟩ := List.lookup_eq_some_iff.mp found
  exact agrees.value (List.mem_append_right before List.mem_cons_self)

end AgreesOn

end AllowList

variable {first second : AllowList} {kind : ColumnType}

theorem AllowList.columnNamed?_congr {value : Json} (agrees : first.AgreesOn second value) :
    first.columnNamed? value = second.columnNamed? value := by
  cases value with
  | string text => rw [columnNamed?, columnNamed?, agrees.text.hasColumn]
  | _ => rfl

theorem Term.check?_congr {value : Json} (agrees : first.AgreesOn second value) :
    check? first kind value = check? second kind value := by
  rw [check?, check?, AllowList.columnNamed?_congr agrees]

theorem Operand.checkAggregate?_congr {value : Json} (agrees : first.AgreesOn second value) :
    checkAggregate? first kind value = checkAggregate? second kind value := by
  unfold checkAggregate?
  split
  · rw [Term.check?_congr (agrees.value List.mem_cons_self)]
  · rfl

theorem Operand.check?_congr {value : Json} (agrees : first.AgreesOn second value) :
    check? first kind value = check? second kind value := by
  cases value with
  | object members => exact checkAggregate?_congr agrees
  | _ => exact congrArg (Option.map Operand.term) (Term.check?_congr agrees)

theorem AllowList.entry?_congr {value : Json} (agrees : first.AgreesOn second value) :
    first.entry? kind value = second.entry? kind value := by
  unfold entry?
  rw [columnNamed?_congr agrees]

theorem ListComparator.check?_congr (comparator : ListComparator) {value : Json}
    (agrees : first.AgreesOn second value) :
    comparator.check? first kind value = comparator.check? second kind value := by
  cases value with
  | array entries =>
      have same : entries.mapM (first.entry? kind) = entries.mapM (second.entry? kind) :=
        mapM_congr_of_mem fun entry inside => AllowList.entry?_congr (agrees.element inside)
      rw [check?, check?, same]
  | _ => rfl

namespace Filter

theorem checkMember_congr (column word : String) {operand : Json}
    (agrees : first.AgreesOn second operand) :
    checkMember first column kind word operand = checkMember second column kind word operand := by
  simp only [checkMember, Operand.check?_congr agrees, ListComparator.check?_congr _ agrees]

theorem checkComparison_congr {column : String} {comparison : Json}
    (named : first.SameEntries second column) (agrees : first.AgreesOn second comparison) :
    checkComparison first column comparison = checkComparison second column comparison := by
  unfold checkComparison
  rw [named.columns]
  split
  · rfl
  · split
    · exact checkMember_congr column _ (agrees.value List.mem_cons_self)
    · rfl
    · rfl

theorem check_member_congr {name : String} {body : Json} (named : first.SameEntries second name)
    (bodyAgrees : first.AgreesOn second body)
    (each : ∀ nodes, body = .array nodes → checkAll first nodes = checkAll second nodes) :
    check first (.object [(name, body)]) = check second (.object [(name, body)]) := by
  unfold check
  rw [named.hasColumn, checkComparison_congr named bodyAgrees]
  cases body with
  | array nodes => simp only [each nodes rfl]
  | _ => rfl

theorem check_congr {node : Json} (agrees : first.AgreesOn second node) :
    check first node = check second node := by
  match node with
  | .object [(name, body)] =>
      have bodyAgrees : first.AgreesOn second body := agrees.value List.mem_cons_self
      refine check_member_congr (agrees.name List.mem_cons_self) bodyAgrees ?_
      intro nodes isArray
      have nodesAgree : first.AgreesOn second (.array nodes) := isArray ▸ bodyAgrees
      rw [checkAll_eq_mapM, checkAll_eq_mapM]
      exact mapM_congr_of_mem fun child inside => check_congr (nodesAgree.element inside)
  | .object [] => rfl
  | .object (_ :: _ :: _) => rfl
  | .null => rfl
  | .bool _ => rfl
  | .number _ => rfl
  | .string _ => rfl
  | .array _ => rfl
termination_by sizeOf node
decreasing_by
  have smaller := List.sizeOf_lt_of_mem inside
  simp only [isArray, Json.object.sizeOf_spec, Json.array.sizeOf_spec, List.cons.sizeOf_spec,
    Prod.mk.sizeOf_spec]
  omega

theorem sqlOf_congr {node : Json} (agrees : first.AgreesOn second node) :
    sqlOf first node = sqlOf second node :=
  congrArg (Except.map render) (check_congr agrees)

end Filter

theorem Item.check_congr {value : Json} (agrees : first.AgreesOn second value) :
    check first value = check second value := by
  unfold check
  split
  · rw [agrees.text.items]
  · have argumentAgrees := agrees.value List.mem_cons_self
    split
    · rfl
    · split
      · rw [argumentAgrees.text.items]
      · rfl
  · rfl

namespace Statement

variable {members : List (String × Json)}

theorem checkItems_congr {elements : List Json} (agrees : first.AgreesOn second (.array elements)) :
    checkItems first elements = checkItems second elements := by
  unfold checkItems
  split
  · rfl
  · exact mapM_congr_of_mem fun element inside => Item.check_congr (agrees.element inside)

theorem checkConnection_congr (agrees : first.AgreesOn second (.object members)) :
    checkConnection first members = checkConnection second members := by
  unfold checkConnection
  split
  · rfl
  · refine Except.bind_congr_ok fun word isWord => ?_
    have named := (agrees.field (requiredString_eq_ok_iff.mp isWord)).text
    rw [requireListed, requireListed, named.connections]

theorem checkClause_congr (connection : Option String)
    (agrees : first.AgreesOn second (.object members)) :
    checkClause first members connection = checkClause second members connection := by
  unfold checkClause
  split
  · rfl
  · rename_i node found
    rw [Filter.check_congr (agrees.field found)]

theorem checkMembers_congr (agrees : first.AgreesOn second (.object members)) :
    checkMembers first members = checkMembers second members := by
  unfold checkMembers
  refine Except.bind_congr_ok fun query hasQuery => ?_
  refine Except.bind_congr_ok fun elements hasItems => ?_
  refine Except.bind_congr_ok fun table hasTable => ?_
  have queryNamed := (agrees.field (requiredString_eq_ok_iff.mp hasQuery)).text
  have itemsAgree := agrees.field (requiredList_eq_ok_iff.mp hasItems)
  have tableNamed := (agrees.field (requiredString_eq_ok_iff.mp hasTable)).text
  simp only [requireListed, queryNamed.queries, tableNamed.tables, checkItems_congr itemsAgree,
    checkConnection_congr agrees, checkClause_congr _ agrees]

theorem sqlOf_congr {request : Json} (agrees : first.AgreesOn second request) :
    sqlOf first request = sqlOf second request := by
  cases request with
  | object members => exact congrArg (Except.map render) (checkMembers_congr agrees)
  | _ => rfl

end Statement

/-- Allow-lists that hold the same about every string in a value give it the same outcome. -/
theorem sqlOf_eq_of_agreesOn {value : Json} (agrees : first.AgreesOn second value) :
    Filter.sqlOf first value = Filter.sqlOf second value ∧
    Statement.sqlOf first value = Statement.sqlOf second value :=
  ⟨Filter.sqlOf_congr agrees, Statement.sqlOf_congr agrees⟩

namespace Orders

/-- The allow-list with a name more at each position, none of which the requests on orders have. -/
def otherNames : AllowList :=
  [.query "DELETE", .item "secret", .table "users", .connection "HAVING",
    .column "secret" .integer].foldl AllowList.add allowList

/-- A filter whose literal is not of the type of its column. -/
def mismatched : Json :=
  .object [("total", .object [("=", .string "paid")])]

/-- An accepted request and a rejected filter. The rejection tells the type of the column that the
filter names. -/
theorem sqlOf_otherNames :
    otherNames.AgreesOn allowList (request "paid") ∧ otherNames.AgreesOn allowList mismatched ∧
    Statement.sqlOf otherNames (request "paid") = Statement.sqlOf allowList (request "paid") ∧
    Filter.sqlOf otherNames mismatched = .error (.operandMismatch "total" "float") := by
  have agrees : otherNames.AgreesOn allowList (request "paid") := by decide
  have mismatchedAgrees : otherNames.AgreesOn allowList mismatched := by decide
  exact ⟨agrees, mismatchedAgrees, (sqlOf_eq_of_agreesOn agrees).2,
    (sqlOf_eq_of_agreesOn mismatchedAgrees).1⟩

end Orders

end GuardedSql
