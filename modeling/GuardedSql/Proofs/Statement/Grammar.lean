import GuardedSql.Proofs.Filter.Grammar
import GuardedSql.Statement

set_option autoImplicit false

/-!
Which statement a request describes.

`Statement.Describes` collects what the members of a request have to satisfy, each fact once and
independent of the order in which the check looks at them. The check gives a statement exactly when
the request is an object whose members describe it: `Statement.check_eq_ok_iff`.
-/

namespace GuardedSql

open List (Forall₂)

variable {allow : AllowList} {members : List (String × Json)}

inductive Item.Describes (allow : AllowList) : Json → Item → Prop where
  | plain {name : String} (listed : allow.items.contains name = true) :
      Describes allow (.string name) (.plain name)
  | aggregate {word : String} {function : Aggregate} {name : String}
      (spelled : (word, function) ∈ Aggregate.spellings)
      (listed : allow.items.contains name = true) :
      Describes allow (.object [(word, .string name)]) (.aggregate function name)

theorem Item.check_eq_ok_iff {value : Json} {item : Item} :
    check allow value = .ok item ↔ Describes allow value item := by
  constructor
  · intro accepted
    unfold check at accepted
    split at accepted
    · split at accepted
      · rename_i name listed
        cases accepted
        exact .plain listed
      · cases accepted
    · split at accepted
      · cases accepted
      · rename_i function read
        split at accepted
        · split at accepted
          · rename_i name listed
            cases accepted
            exact .aggregate (Aggregate.ofToken?_eq_some_iff.mp read) listed
          · cases accepted
        · cases accepted
    · cases accepted
  · intro described
    cases described with
    | plain listed => simp only [check, if_pos listed]
    | aggregate spelled listed =>
        simp only [check, Aggregate.ofToken?_eq_some_iff.mpr spelled, if_pos listed]

namespace Statement

theorem requiredString_eq_ok_iff {field text : String} :
    requiredString members field = .ok text ↔ members.lookup field = some (.string text) := by
  unfold requiredString
  cases members.lookup field with
  | none => simp only [reduceCtorEq]
  | some value => cases value <;> simp only [Except.ok.injEq, Option.some.injEq,
      Json.string.injEq, reduceCtorEq]

theorem requiredList_eq_ok_iff {field : String} {elements : List Json} :
    requiredList members field = .ok elements ↔ members.lookup field = some (.array elements) := by
  unfold requiredList
  cases members.lookup field with
  | none => simp only [reduceCtorEq]
  | some value => cases value <;> simp only [Except.ok.injEq, Option.some.injEq,
      Json.array.injEq, reduceCtorEq]

theorem requireListed_eq_ok_iff {set : NameSet} {cause : String → Rejection} {word : String}
    {checked : Unit} :
    requireListed set cause word = .ok checked ↔ set.contains word = true := by
  unfold requireListed
  by_cases listed : set.contains word = true
  · simp only [listed, if_true]
  · simp only [listed, if_false, reduceCtorEq]

theorem checkItems_eq_ok_iff {elements : List Json} {items : List Item} :
    checkItems allow elements = .ok items ↔
      elements ≠ [] ∧ Forall₂ (Item.Describes allow) elements items := by
  have itemsRead : (fun element item => Item.check allow element = .ok item) =
      Item.Describes allow := by
    funext element item
    exact propext Item.check_eq_ok_iff
  unfold checkItems
  split
  · simp
  · rename_i notEmpty
    rw [Except.mapM_eq_ok_iff, itemsRead]
    exact (and_iff_right fun empty => notEmpty empty).symm

/-- The connection word of a request. A request may have none; if it has one, it is listed. -/
inductive ConnectionDescribes (allow : AllowList) (members : List (String × Json)) :
    Option String → Prop where
  | absent (missing : members.lookup "connection" = none) : ConnectionDescribes allow members none
  | present {word : String} (found : members.lookup "connection" = some (.string word))
      (listed : allow.connections.contains word = true) :
      ConnectionDescribes allow members (some word)

theorem checkConnection_eq_ok_iff {connection : Option String} :
    checkConnection allow members = .ok connection ↔
      ConnectionDescribes allow members connection := by
  unfold checkConnection
  cases found : members.lookup "connection" with
  | none =>
      constructor
      · intro accepted
        cases accepted
        exact .absent found
      · intro described
        cases described with
        | absent _ => rfl
        | present other _ => rw [found] at other; cases other
  | some value =>
      simp only [Except.bind_eq_ok_iff, requiredString_eq_ok_iff, requireListed_eq_ok_iff]
      constructor
      · rintro ⟨word, isString, _, listed, accepted⟩
        cases accepted
        exact .present isString listed
      · intro described
        cases described with
        | absent missing => rw [found] at missing; cases missing
        | present isString listed => exact ⟨_, isString, (), listed, rfl⟩

/-- The filter of a request, behind its connection word. -/
inductive ClauseDescribes (allow : AllowList) (members : List (String × Json))
    (connection : Option String) : Option Clause → Prop where
  | absent (missing : members.lookup "logic" = none) :
      ClauseDescribes allow members connection none
  | present {word : String} {node : Json} {filter : Filter}
      (found : members.lookup "logic" = some node) (connected : connection = some word)
      (described : Filter.Describes allow node filter) :
      ClauseDescribes allow members connection (some ⟨word, filter⟩)

theorem checkClause_eq_ok_iff {connection : Option String} {clause : Option Clause} :
    checkClause allow members connection = .ok clause ↔
      ClauseDescribes allow members connection clause := by
  unfold checkClause
  cases found : members.lookup "logic" with
  | none =>
      constructor
      · intro accepted
        cases accepted
        exact .absent found
      · intro described
        cases described with
        | absent _ => rfl
        | present other _ _ => rw [found] at other; cases other
  | some node =>
      dsimp only
      constructor
      · intro accepted
        cases connection with
        | none => cases accepted
        | some word =>
            cases checked : Filter.check allow node with
            | error cause => rw [checked] at accepted; cases accepted
            | ok filter =>
                rw [checked] at accepted
                cases accepted
                exact .present found rfl (Filter.describes_of_check checked)
      · intro described
        cases described with
        | absent missing => rw [found] at missing; cases missing
        | present other connected described =>
            cases found.symm.trans other
            simp only [connected, Filter.check_of_describes described]

structure Describes (allow : AllowList) (members : List (String × Json)) (statement : Statement) :
    Prop where
  query : members.lookup "query" = some (.string statement.query)
  queryListed : allow.queries.contains statement.query = true
  items : ∃ elements, members.lookup "items" = some (.array elements) ∧ elements ≠ [] ∧
    Forall₂ (Item.Describes allow) elements statement.items
  table : members.lookup "table" = some (.string statement.table)
  tableListed : allow.tables.contains statement.table = true
  clause : ∃ connection, ConnectionDescribes allow members connection ∧
    ClauseDescribes allow members connection statement.clause

theorem checkMembers_eq_ok_iff {statement : Statement} :
    checkMembers allow members = .ok statement ↔ Describes allow members statement := by
  unfold checkMembers
  simp only [Except.bind_eq_ok_iff, requiredString_eq_ok_iff, requiredList_eq_ok_iff,
    requireListed_eq_ok_iff, checkItems_eq_ok_iff, checkConnection_eq_ok_iff,
    checkClause_eq_ok_iff]
  constructor
  · rintro ⟨query, hasQuery, elements, hasItems, table, hasTable, _, queryListed, items,
      ⟨notEmpty, described⟩, _, tableListed, connection, connected, clause, claused, accepted⟩
    cases accepted
    exact ⟨hasQuery, queryListed, ⟨elements, hasItems, notEmpty, described⟩, hasTable, tableListed,
      ⟨connection, connected, claused⟩⟩
  · intro described
    obtain ⟨elements, hasItems, notEmpty, items⟩ := described.items
    obtain ⟨connection, connected, claused⟩ := described.clause
    exact ⟨_, described.query, elements, hasItems, _, described.table, (), described.queryListed,
      _, ⟨notEmpty, items⟩, (), described.tableListed, connection, connected, _, claused, rfl⟩

theorem check_eq_ok_iff {request : Json} {statement : Statement} :
    check allow request = .ok statement ↔
      ∃ members, request = .object members ∧ Describes allow members statement := by
  cases request with
  | object members =>
      simp only [check, checkMembers_eq_ok_iff, Json.object.injEq, exists_eq_left']
  | _ => simp only [check, reduceCtorEq, false_and, exists_false]

theorem sqlOf_eq_ok_iff {request : Json} {bound : BoundSql} :
    sqlOf allow request = .ok bound ↔ ∃ members statement, request = .object members ∧
      Describes allow members statement ∧ statement.render = bound := by
  rw [sqlOf, Except.map_eq_ok_iff]
  constructor
  · rintro ⟨statement, accepted, rendered⟩
    obtain ⟨members, isObject, described⟩ := check_eq_ok_iff.mp accepted
    exact ⟨members, statement, isObject, described, rendered⟩
  · rintro ⟨members, statement, isObject, described, rendered⟩
    exact ⟨statement, check_eq_ok_iff.mpr ⟨members, isObject, described⟩, rendered⟩

end Statement

namespace Orders

def allowList : AllowList :=
  .build [.query "SELECT", .item "price", .table "orders", .connection "WHERE",
    .column "total" .float, .column "IN" .string]

/-- A filter with an aggregate, a column that is named like a comparator, and two literals, one of
which is the name of that column. -/
def filter (state : String) : Json :=
  .object [("OR", .array [.object [("total", .object [("!=", .object [("AVG", .string "total")])])],
    .object [("IN", .object [("IN", .array [.string state, .string "IN"])])]])]

def request (state : String) : Json :=
  .object [("connection", .string "WHERE"),
    ("items", .array [.string "price", .object [("MAX", .string "price")]]),
    ("logic", filter state), ("query", .string "SELECT"), ("table", .string "orders")]

end Orders

example : Statement.sqlOf Orders.allowList (Orders.request "paid") =
    .ok ⟨"SELECT price,MAX(price) FROM orders WHERE (total <> AVG(total) OR IN IN (?,?))",
      [.text "paid", .text "IN"]⟩ :=
  rfl

end GuardedSql
