import GuardedSql.Proofs.Filter.Bindings
import GuardedSql.Proofs.Json.Values

set_option autoImplicit false

/-!
Written SQL is read back with all its parameters.

Parameters are written without a mark of their kind, and still no two of them are confused: a whole
number is written without a fraction and a double with one or with an exponent, and text is quoted.
Only a double that is not finite would be written like null, and no rendered SQL binds one.

`BoundSql.CarriedBy` says how a value holds SQL text and its parameters. Every way of writing
rendered SQL is read as a value that carries it and carries nothing else, as long as the doubles
among its parameters are read back one by one: `BoundSql.readFrom_written_iff`.
-/

namespace GuardedSql

namespace Parameter

/-- If the parameter is a double, it is a finite one. -/
def Finite (parameter : Parameter) : Prop :=
  ∀ value, parameter = .float value → ∃ number : Binary64, value = number.toDouble

theorem floatJson_toDouble (number : Binary64) :
    floatJson number.toDouble = .number (.float number) := by
  rw [floatJson, Double.finite?_eq_some_iff.mpr rfl]

theorem ofJson?_integerJson (value : Int64) :
    ofJson? (integerJson value) = some (integer value) := by
  have small : value.toInt < 0x8000000000000000 := Int64.toInt_lt value
  rw [integerJson, Json.ofInt, ofJson?, ofNumber, if_pos small, Int64.ofInt_toInt]

/-- A parameter is what its written value stands for. -/
theorem ofJson?_toJson {parameter : Parameter} (finite : parameter.Finite) :
    ofJson? parameter.toJson = some parameter := by
  cases parameter with
  | null => rfl
  | bool value => rfl
  | integer value => exact ofJson?_integerJson value
  | float value =>
      obtain ⟨number, rfl⟩ := finite value rfl
      rw [toJson, floatJson_toDouble]
      rfl
  | text value => rfl

theorem floatJson_eq (value : Double) :
    floatJson value = .null ∨
      ∃ number : Binary64, value = number.toDouble ∧ floatJson value = .number (.float number) := by
  unfold floatJson
  cases isFinite : value.finite? with
  | none => exact .inl rfl
  | some number => exact .inr ⟨number, Double.finite?_eq_some_iff.mp isFinite, rfl⟩

/-- A parameter is written as a scalar value: there are neither members nor brackets in it. -/
theorem flat_toJson (parameter : Parameter) :
    parameter.toJson.Sorted ∧ ∀ limit, parameter.toJson.document.nestsWithin limit = true := by
  cases parameter with
  | float value =>
      rcases floatJson_eq value with isNull | ⟨number, _, isNumber⟩
      · rw [toJson, isNull]
        exact ⟨trivial, fun _ => rfl⟩
      · rw [toJson, isNumber]
        exact ⟨trivial, fun _ => rfl⟩
  | _ => exact ⟨trivial, fun _ => rfl⟩

theorem readBack_toJson {read : DoubleReader} {parameter : Parameter}
    (readsBack : ∀ number : Binary64, parameter = .float number.toDouble → read.ReadsBack number) :
    parameter.toJson.ReadBack read := by
  cases parameter with
  | null => exact .null
  | bool value => exact .bool value
  | integer value => exact .integer _
  | float value =>
      rcases floatJson_eq value with isNull | ⟨number, rfl, isNumber⟩
      · rw [toJson, isNull]
        exact .null
      · rw [toJson, isNumber]
        exact .float (readsBack number rfl)
  | text value => exact .string value

end Parameter

section Rendered

variable {allow : AllowList}

theorem Occurrence.Binds.finite {occurrence : Occurrence} {parameter : Parameter}
    (binds : Binds allow occurrence parameter) : parameter.Finite := by
  rintro value rfl
  cases binds with
  | literal _ _ bound =>
      cases bound with
      | large _ _ => exact ⟨_, rfl⟩
      | float number => exact ⟨number, rfl⟩

theorem Filter.Describes.finite_params {node : Json} {filter : Filter}
    (described : Describes allow node filter) :
    ∀ parameter ∈ filter.render.params, parameter.Finite :=
  forall_mem_of_forall₂ (described.binds.imp fun _ _ binds => binds.finite)

/-- A statement binds what the filter in its clause binds. -/
theorem Statement.Describes.finite_params {members : List (String × Json)} {statement : Statement}
    (described : Describes allow members statement) :
    ∀ parameter ∈ statement.render.params, parameter.Finite := by
  obtain ⟨_, _, claused⟩ := described.clause
  unfold render
  cases isClause : statement.clause with
  | none => exact List.forall_mem_nil _
  | some clause =>
      rw [isClause] at claused
      cases claused with
      | present _ _ filterDescribed => exact filterDescribed.finite_params

/-- What a filter or a request is rendered as under the allow-list. -/
inductive BoundSql.RenderedUnder (allow : AllowList) (bound : BoundSql) : Prop where
  | filter {node : Json} (accepted : Filter.sqlOf allow node = .ok bound) :
      RenderedUnder allow bound
  | request {request : Json} (accepted : Statement.sqlOf allow request = .ok bound) :
      RenderedUnder allow bound

theorem BoundSql.RenderedUnder.finite_params {bound : BoundSql}
    (rendered : bound.RenderedUnder allow) : ∀ parameter ∈ bound.params, parameter.Finite := by
  cases rendered with
  | filter accepted =>
      obtain ⟨_, described, rfl⟩ := Filter.sqlOf_eq_ok_iff.mp accepted
      exact described.finite_params
  | request accepted =>
      obtain ⟨_, _, _, described, rfl⟩ := Statement.sqlOf_eq_ok_iff.mp accepted
      exact described.finite_params

end Rendered

namespace BoundSql

/-- The value is an object with the SQL text under its name, and under the name of the parameters a
list whose entries stand for the parameters, one for one and in their order. -/
inductive CarriedBy (bound : BoundSql) : Json → Prop where
  | intro {members : List (String × Json)} {entries : List Json}
      (sql : members.lookup "sql" = some (.string bound.sql))
      (params : members.lookup "params" = some (.array entries))
      (each : List.Forall₂ (fun entry parameter => Parameter.ofJson? entry = some parameter)
        entries bound.params) :
      CarriedBy bound (.object members)

theorem rightUnique_ofJson? :
    Relator.RightUnique fun entry parameter => Parameter.ofJson? entry = some parameter :=
  fun _ _ _ stands standsToo => Option.some.inj (stands.symm.trans standsToo)

theorem CarriedBy.unique {first second : BoundSql} {value : Json}
    (carries : first.CarriedBy value) (carriesToo : second.CarriedBy value) : first = second := by
  obtain ⟨sql, params⟩ := first
  obtain ⟨sqlToo, paramsToo⟩ := second
  obtain ⟨isSql, isParams, each⟩ := carries
  obtain ⟨isSqlToo, isParamsToo, eachToo⟩ := carriesToo
  cases isSql.symm.trans isSqlToo
  cases isParams.symm.trans isParamsToo
  have sameParams : params = paramsToo := rightUnique_ofJson?.forall₂ each eachToo
  rw [sameParams]

theorem params_lt_sql : "params" < "sql" := by
  decide

theorem toSortedJson_eq (bound : BoundSql) :
    bound.toSortedJson = .object [("params", bound.paramsJson), ("sql", .string bound.sql)] := by
  simp only [toSortedJson, Json.ofMembers, NameMap.ofList, List.foldl_cons, List.foldl_nil,
    NameMap.insert, NameMap.empty, insertEntry, if_pos params_lt_sql]

theorem carriedBy_toSortedJson {bound : BoundSql}
    (finite : ∀ parameter ∈ bound.params, parameter.Finite) :
    bound.CarriedBy bound.toSortedJson := by
  rw [toSortedJson_eq]
  refine .intro rfl rfl ?_
  rw [List.forall₂_map_left_iff, List.forall₂_same]
  exact fun parameter member => Parameter.ofJson?_toJson (finite parameter member)

theorem sorted_paramsJson (bound : BoundSql) : bound.paramsJson.Sorted := by
  rw [paramsJson, Json.Sorted, Json.sortedElements_iff, List.forall_mem_map]
  exact fun parameter _ => parameter.flat_toJson.1

theorem sorted_toSortedJson (bound : BoundSql) : bound.toSortedJson.Sorted := by
  rw [toSortedJson_eq]
  exact ⟨List.pairwise_pair.mpr params_lt_sql, bound.sorted_paramsJson, trivial, trivial⟩

theorem elementsNestWithin_toJson (parameters : List Parameter) (limit : Nat) :
    Document.elementsNestWithin limit
      (Json.elementDocuments (parameters.map Parameter.toJson)) = true := by
  induction parameters with
  | nil => rfl
  | cons parameter rest inductionHypothesis =>
      rw [List.map_cons, Json.elementDocuments, Document.elementsNestWithin,
        parameter.flat_toJson.2, inductionHypothesis, Bool.and_self]

theorem nestsWithin_paramsJson (bound : BoundSql) {limit : Nat} (positive : 0 < limit) :
    bound.paramsJson.document.nestsWithin limit = true := by
  rw [paramsJson, Json.document, Document.nestsWithin, elementsNestWithin_toJson, Bool.and_true,
    decide_eq_true positive]

theorem nestsWithin_toJson (bound : BoundSql) :
    bound.toJson.document.nestsWithin Json.nestingLimit = true := by
  have params := bound.nestsWithin_paramsJson (by decide : 0 < Json.nestingLimit - 1)
  rw [toJson, Json.document, Document.nestsWithin]
  simp only [Json.memberDocuments, Document.membersNestWithin, params]
  rfl

theorem nestsWithin_toSortedJson (bound : BoundSql) :
    bound.toSortedJson.document.nestsWithin Json.nestingLimit = true := by
  have params := bound.nestsWithin_paramsJson (by decide : 0 < Json.nestingLimit - 1)
  rw [toSortedJson_eq, Json.document, Document.nestsWithin]
  simp only [Json.memberDocuments, Document.membersNestWithin, params]
  rfl

/-! ### Reading the output -/

section Reading

variable {read : DoubleReader} {bound : BoundSql}

/-- The doubles among the parameters are read back, each from its own text. -/
def FloatsReadBack (read : DoubleReader) (bound : BoundSql) : Prop :=
  ∀ number : Binary64, .float number.toDouble ∈ bound.params → read.ReadsBack number

theorem FloatsReadBack.paramsJson (readBack : bound.FloatsReadBack read) :
    bound.paramsJson.ReadBack read := by
  refine .array (List.forall_mem_map.mpr fun parameter member => ?_)
  apply Parameter.readBack_toJson
  rintro number rfl
  exact readBack number member

theorem FloatsReadBack.toJson (readBack : bound.FloatsReadBack read) :
    bound.toJson.ReadBack read := by
  refine .object (List.forall_mem_cons.mpr ⟨.string bound.sql, ?_⟩)
  exact List.forall_mem_singleton.mpr readBack.paramsJson

theorem FloatsReadBack.toSortedJson (readBack : bound.FloatsReadBack read) :
    bound.toSortedJson.ReadBack read := by
  rw [toSortedJson_eq]
  refine .object (List.forall_mem_cons.mpr ⟨readBack.paramsJson, ?_⟩)
  exact List.forall_mem_singleton.mpr (.string bound.sql)

theorem FloatsReadBack.ofDocument?_toJson (readBack : bound.FloatsReadBack read) :
    Json.ofDocument? read bound.toJson.document = some bound.toSortedJson := by
  apply Json.ofDocument?_document_object readBack.toJson
  simp only [List.forall_mem_cons]
  exact ⟨trivial, bound.sorted_paramsJson, nofun⟩

/-- The text is read as a value that carries the SQL text and the parameters. -/
def ReadFrom (read : DoubleReader) (bound : BoundSql) (text : String) : Prop :=
  ∃ value, Json.ofText? read text = some value ∧ bound.CarriedBy value

theorem readFrom_iff {other : BoundSql} {text : String} {value : Json}
    (isValue : Json.ofText? read text = some value) (carries : bound.CarriedBy value) :
    other.ReadFrom read text ↔ other = bound := by
  constructor
  · rintro ⟨found, isRead, carriesToo⟩
    cases isRead.symm.trans isValue
    exact carriesToo.unique carries
  · rintro rfl
    exact ⟨value, isValue, carries⟩

/-- From each text in which rendered SQL is written, with its members in either order and on one or
on several lines, exactly this SQL is read: its text and its parameters. Of the reader for doubles
nothing is assumed but that it reads back the doubles among the parameters. -/
theorem readFrom_written_iff {allow : AllowList} (rendered : bound.RenderedUnder allow)
    (readBack : bound.FloatsReadBack read) (other : BoundSql) :
    (other.ReadFrom read bound.toJson.compact ↔ other = bound) ∧
      (other.ReadFrom read bound.toJson.pretty ↔ other = bound) ∧
      (other.ReadFrom read bound.toSortedJson.compact ↔ other = bound) ∧
      (other.ReadFrom read bound.toSortedJson.pretty ↔ other = bound) := by
  have carries := carriedBy_toSortedJson rendered.finite_params
  have compact : Json.ofText? read bound.toJson.compact = some bound.toSortedJson := by
    rw [Json.ofText?_of_reads bound.toJson.reads_compact bound.nestsWithin_toJson,
      readBack.ofDocument?_toJson]
  have pretty : Json.ofText? read bound.toJson.pretty = some bound.toSortedJson := by
    rw [Json.pretty, Json.ofText?_of_reads (bound.toJson.reads_prettyAt 0) bound.nestsWithin_toJson,
      readBack.ofDocument?_toJson]
  obtain ⟨sortedCompact, sortedPretty⟩ :=
    Json.ofText?_written readBack.toSortedJson bound.sorted_toSortedJson
      bound.nestsWithin_toSortedJson
  exact ⟨readFrom_iff compact carries, readFrom_iff pretty carries,
    readFrom_iff sortedCompact carries, readFrom_iff sortedPretty carries⟩

end Reading

/-- Doubles that are written in both layouts, a whole number, the name of a column among literals,
and a text that has to be escaped. -/
def mixedOrders : Json :=
  .object [("AND", .array [
    .object [("total", .object [("BETWEEN", .array [
      .number (.float ⟨false, 0x3FB999999999999A, by decide⟩),
      .number (.float ⟨true, 0x444B1AE4D6E2EF50, by decide⟩)])])],
    .object [("total", .object [("IN", .array [Json.ofInt 1 (by decide), .string "IN"])])],
    .object [("IN", .object [("=", .string "\"1\\\n\x00\"")])]])]

def mixedParams : List Parameter :=
  [.float ⟨false, 0x3FB999999999999A, by decide⟩, .float ⟨true, 0x444B1AE4D6E2EF50, by decide⟩,
    .integer 1, .text "IN", .text "\"1\\\n\x00\""]

def mixedSql : BoundSql where
  sql := "(total BETWEEN ? AND ? AND total IN (?,?) AND IN = ?)"
  params := mixedParams

theorem floatsReadBack_mixedSql : mixedSql.FloatsReadBack .stepwise := by
  intro number member
  have isOne : number = ⟨false, 0x3FB999999999999A, by decide⟩ ∨
      number = ⟨true, 0x444B1AE4D6E2EF50, by decide⟩ := by
    simp only [mixedSql, mixedParams, List.mem_cons, Parameter.float.injEq, reduceCtorEq,
      List.not_mem_nil, or_false] at member
    exact member.imp Binary64.eq_of_toDouble_eq Binary64.eq_of_toDouble_eq
  rcases isOne with rfl | rfl
  · exact DoubleReader.readsBack_stepwise (by decide +kernel) (by decide +kernel)
  · exact DoubleReader.readsBack_stepwise (by decide +kernel) (by decide +kernel)

/-- The reader that rounds in steps reads the text back, and so does the one that rounds once. -/
theorem readFrom_mixedOrders :
    Filter.sqlOf Orders.allowList mixedOrders = .ok mixedSql ∧
      mixedSql.toSortedJson.compact =
        "\x7b\"params\":[0.1,-1e+21,1,\"IN\",\"\\\"1\\\\\\n\\u0000\\\"\"]," ++
          "\"sql\":\"(total BETWEEN ? AND ? AND total IN (?,?) AND IN = ?)\"\x7d" ∧
      mixedSql.FloatsReadBack .stepwise ∧
      mixedSql.ReadFrom .stepwise mixedSql.toSortedJson.compact ∧
      mixedSql.ReadFrom .nearest mixedSql.toJson.pretty := by
  have accepted : Filter.sqlOf Orders.allowList mixedOrders = .ok mixedSql := rfl
  have byNearest : mixedSql.FloatsReadBack .nearest := fun number _ =>
    DoubleReader.readsBack_nearest number
  obtain ⟨_, _, sortedCompact, _⟩ :=
    readFrom_written_iff (.filter accepted) floatsReadBack_mixedSql mixedSql
  obtain ⟨_, pretty, _, _⟩ := readFrom_written_iff (.filter accepted) byNearest mixedSql
  exact ⟨accepted, by decide +kernel, floatsReadBack_mixedSql, sortedCompact.mpr rfl,
    pretty.mpr rfl⟩

end BoundSql

end GuardedSql
