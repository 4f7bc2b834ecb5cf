import GuardedSql.Proofs.Statement.Language

set_option autoImplicit false

/-!
Which statement a request gives, and which fault it is rejected for.

`Statement.Renders` says when a request is accepted and what its SQL is; its filter has the SQL that
the filter has on its own. `Statement.faults` lists all that is wrong with a request in the order of
precedence, and judges each member without regard to the others. A request is rejected for the first
fault of this list, however many there are: `sqlOf_eq_iff_renders_or_first_fault`.
-/

namespace GuardedSql

open List (Forall₂)

variable {allow : AllowList} {members : List (String × Json)}

inductive Item.Renders (allow : AllowList) : Json → String → Prop where
  | plain {name : String} (listed : allow.items.contains name = true) :
      Renders allow (.string name) name
  | call {function name : String} (known : function ∈ ["MIN", "MAX", "SUM", "AVG", "COUNT"])
      (listed : allow.items.contains name = true) :
      Renders allow (.object [(function, .string name)]) (function ++ "(" ++ name ++ ")")

namespace Statement

/-- The text before the filter, from the members of a request. -/
inductive RendersHead (allow : AllowList) (members : List (String × Json)) : String → Prop where
  | intro {query table : String} {elements : List Json} {items : List String}
      (hasQuery : members.lookup "query" = some (.string query))
      (queryListed : allow.queries.contains query = true)
      (hasItems : members.lookup "items" = some (.array elements)) (nonempty : elements ≠ [])
      (each : Forall₂ (Item.Renders allow) elements items)
      (hasTable : members.lookup "table" = some (.string table))
      (tableListed : allow.tables.contains table = true) :
      RendersHead allow members (query ++ " " ++ ",".intercalate items ++ " FROM " ++ table)

/-- A request without a filter may have a connection word, which then has to be listed. -/
inductive Renders (allow : AllowList) : Json → BoundSql → Prop where
  | plain {members : List (String × Json)} {head : String}
      (start : RendersHead allow members head)
      (connected : ∀ value, members.lookup "connection" = some value →
        ∃ word, value = .string word ∧ allow.connections.contains word = true)
      (unfiltered : members.lookup "logic" = none) :
      Renders allow (.object members) ⟨head, []⟩
  | filtered {members : List (String × Json)} {head word : String} {node : Json}
      {filter : BoundSql} (start : RendersHead allow members head)
      (hasConnection : members.lookup "connection" = some (.string word))
      (listed : allow.connections.contains word = true)
      (hasLogic : members.lookup "logic" = some node)
      (accepted : Filter.sqlOf allow node = .ok filter) :
      Renders allow (.object members) ⟨head ++ " " ++ word ++ " " ++ filter.sql, filter.params⟩

end Statement

/-- Whether a value is the name of a listed item. -/
def AllowList.namesItem (allow : AllowList) : Json → Bool
  | .string name => allow.items.contains name
  | _ => false

/-- An item is at fault as a whole, or for its function, or for what the function is called on. -/
def Item.faults (allow : AllowList) : Json → List Rejection
  | .object [(function, argument)] =>
      if function ∈ ["MIN", "MAX", "SUM", "AVG", "COUNT"] then
        if allow.namesItem argument then [] else [.unlistedItem argument.display]
      else
        [.unlistedItem function]
  | value => if allow.namesItem value then [] else [.unlistedItem value.display]

namespace Statement

/-- A required field has to be there, and of its kind. -/
def fieldFaults (field expected : String) (fits : Json → Bool) : Option Json → List Rejection
  | none => [.missingField field]
  | some value => if fits value then [] else [.fieldMismatch field expected]

def isString : Json → Bool
  | .string _ => true
  | _ => false

def isList : Json → Bool
  | .array _ => true
  | _ => false

/-- A word that is there has to be listed. -/
def wordFaults (set : NameSet) (cause : String → Rejection) : Option Json → List Rejection
  | some (.string word) => if set.contains word then [] else [cause word]
  | _ => []

def itemsFaults (allow : AllowList) : Option Json → List Rejection
  | some (.array []) => [.unlistedItem "[]"]
  | some (.array elements) => elements.flatMap (Item.faults allow)
  | _ => []

/-- A connection word that is there has to be a string, even if there is no filter. -/
def connectionFaults (allow : AllowList) : Option Json → List Rejection
  | none => []
  | some value =>
      fieldFaults "connection" "string" isString (some value) ++
        wordFaults allow.connections .unlistedConnection (some value)

/-- A filter needs a connection word, and has to be accepted on its own. -/
def logicFaults (allow : AllowList) (connection : Option Json) : Option Json → List Rejection
  | none => []
  | some node =>
      (if connection = none then [.missingField "connection"] else []) ++
        match Filter.sqlOf allow node with
        | .ok _ => []
        | .error cause => [.inFilter cause]

/-- All that is wrong with a request, in the order of precedence. -/
def faults (allow : AllowList) : Json → List Rejection
  | .object members =>
      [fieldFaults "query" "string" isString (members.lookup "query"),
        fieldFaults "items" "list" isList (members.lookup "items"),
        fieldFaults "table" "string" isString (members.lookup "table"),
        wordFaults allow.queries .unlistedQuery (members.lookup "query"),
        itemsFaults allow (members.lookup "items"),
        wordFaults allow.tables .unlistedTable (members.lookup "table"),
        connectionFaults allow (members.lookup "connection"),
        logicFaults allow (members.lookup "connection") (members.lookup "logic")].flatten
  | _ => [.missingField "query"]

end Statement

theorem Item.renders_iff {value : Json} {text : String} :
    Renders allow value text ↔ ∃ item, Describes allow value item ∧ item.render = text := by
  constructor
  · intro renders
    cases renders with
    | plain listed => exact ⟨_, .plain listed, rfl⟩
    | call known listed =>
        obtain ⟨function, read⟩ :=
          Option.isSome_iff_exists.mp (Aggregate.isSome_ofToken?_iff.mpr known)
        have spelled := Aggregate.ofToken?_eq_some_iff.mp read
        refine ⟨_, .aggregate spelled listed, ?_⟩
        rw [render, Aggregate.applyTo, ← Aggregate.eq_token_of_spelled spelled]
  · rintro ⟨item, described, rfl⟩
    cases described with
    | plain listed => exact .plain listed
    | @aggregate word function name spelled listed =>
        rw [Aggregate.eq_token_of_spelled spelled]
        exact .call function.token_mem listed

theorem Item.forall₂_renders_iff {values : List Json} {texts : List String} :
    Forall₂ (Renders allow) values texts ↔
      ∃ items, Forall₂ (Describes allow) values items ∧ items.map render = texts := by
  constructor
  · intro each
    induction each with
    | nil => exact ⟨[], .nil, rfl⟩
    | cons head _ inductionHypothesis =>
        obtain ⟨item, described, rendered⟩ := renders_iff.mp head
        obtain ⟨items, others, restRendered⟩ := inductionHypothesis
        exact ⟨item :: items, .cons described others, by rw [List.map_cons, rendered, restRendered]⟩
  · rintro ⟨items, each, rfl⟩
    rw [List.forall₂_map_right_iff]
    exact each.imp fun value item described => renders_iff.mpr ⟨item, described, rfl⟩

namespace Statement

theorem Describes.rendersHead {statement : Statement}
    (described : Describes allow members statement) :
    RendersHead allow members statement.head := by
  obtain ⟨elements, hasItems, nonempty, items⟩ := described.items
  exact .intro described.query described.queryListed hasItems nonempty
    (Item.forall₂_renders_iff.mpr ⟨_, items, rfl⟩) described.table described.tableListed

theorem Describes.renders {statement : Statement} (described : Describes allow members statement) :
    Renders allow (.object members) statement.render := by
  have start := described.rendersHead
  obtain ⟨connection, connected, claused⟩ := described.clause
  unfold render
  generalize statement.clause = clause at claused
  cases claused with
  | absent unfiltered =>
      refine .plain start ?_ unfiltered
      intro value found
      cases connected with
      | absent missing => rw [missing] at found; cases found
      | present isWord listed =>
          cases isWord.symm.trans found
          exact ⟨_, rfl, listed⟩
  | present hasLogic same filtered =>
      cases connected with
      | absent _ => cases same
      | present isWord listed =>
          cases same
          exact .filtered start isWord listed hasLogic
            (Filter.sqlOf_eq_ok_iff.mpr ⟨_, filtered, rfl⟩)

/-- A text before the filter is the head of a statement that differs from others in its filter
only. -/
theorem RendersHead.exists_describes {head : String} (start : RendersHead allow members head)
    {connection : Option String} {clause : Option Clause}
    (connected : ConnectionDescribes allow members connection)
    (claused : ClauseDescribes allow members connection clause) :
    ∃ statement, Describes allow members statement ∧ statement.head = head ∧
      statement.clause = clause := by
  obtain @⟨query, table, elements, texts, hasQuery, queryListed, hasItems, nonempty, each, hasTable,
    tableListed⟩ := start
  obtain ⟨items, described, rfl⟩ := Item.forall₂_renders_iff.mp each
  exact ⟨⟨query, items, table, clause⟩,
    { query := hasQuery
      queryListed := queryListed
      items := ⟨elements, hasItems, nonempty, described⟩
      table := hasTable
      tableListed := tableListed
      clause := ⟨connection, connected, claused⟩ }, rfl, rfl⟩

theorem exists_connectionDescribes
    (connected : ∀ value, members.lookup "connection" = some value →
      ∃ word, value = .string word ∧ allow.connections.contains word = true) :
    ∃ connection, ConnectionDescribes allow members connection := by
  cases found : members.lookup "connection" with
  | none => exact ⟨none, .absent found⟩
  | some value =>
      obtain ⟨word, rfl, listed⟩ := connected value found
      exact ⟨some word, .present found listed⟩

theorem Renders.exists_describes {request : Json} {bound : BoundSql}
    (renders : Renders allow request bound) :
    ∃ members statement, request = .object members ∧ Describes allow members statement ∧
      statement.render = bound := by
  cases renders with
  | @plain members head start connected unfiltered =>
      obtain ⟨connection, isConnected⟩ := exists_connectionDescribes connected
      obtain ⟨statement, described, rfl, noClause⟩ :=
        start.exists_describes isConnected (.absent unfiltered)
      refine ⟨members, statement, rfl, described, ?_⟩
      rw [render, noClause]
      rfl
  | @filtered members head word node filter start hasConnection listed hasLogic accepted =>
      obtain ⟨checked, filterDescribed, rfl⟩ := Filter.sqlOf_eq_ok_iff.mp accepted
      obtain ⟨statement, described, rfl, hasClause⟩ :=
        start.exists_describes (.present hasConnection listed)
          (.present hasLogic rfl filterDescribed)
      refine ⟨members, statement, rfl, described, ?_⟩
      rw [render, hasClause]
      rfl

theorem sqlOf_eq_ok_iff_renders {request : Json} {bound : BoundSql} :
    sqlOf allow request = .ok bound ↔ Renders allow request bound := by
  rw [sqlOf_eq_ok_iff]
  constructor
  · rintro ⟨members, statement, rfl, described, rfl⟩
    exact described.renders
  · exact Renders.exists_describes

end Statement

/-! ### What a rejected request is rejected for -/

theorem Item.failure?_check (value : Json) :
    failure? (check allow value) = (faults allow value).head? := by
  cases value with
  | string name =>
      simp only [check, faults, AllowList.namesItem, Json.display]
      exact failure?_ite ..
  | object members =>
      rcases members with _ | ⟨⟨function, argument⟩, _ | ⟨second, others⟩⟩
      · rfl
      · simp only [check, faults, ← Aggregate.isSome_ofToken?_iff]
        cases Aggregate.ofToken? function with
        | none => rfl
        | some aggregate =>
            cases argument with
            | string name =>
                simp only [AllowList.namesItem, Json.display, Option.isSome_some, if_true]
                exact failure?_ite ..
            | _ => rfl
      · rfl
  | _ => rfl

namespace Statement

theorem failure?_requiredString (field : String) :
    failure? (requiredString members field) =
      (fieldFaults field "string" isString (members.lookup field)).head? := by
  rw [requiredString]
  cases members.lookup field with
  | none => rfl
  | some value => cases value <;> rfl

theorem failure?_requiredList (field : String) :
    failure? (requiredList members field) =
      (fieldFaults field "list" isList (members.lookup field)).head? := by
  rw [requiredList]
  cases members.lookup field with
  | none => rfl
  | some value => cases value <;> rfl

theorem failure?_requireListed (set : NameSet) (cause : String → Rejection) (word : String) :
    failure? (requireListed set cause word) =
      (wordFaults set cause (some (.string word))).head? :=
  failure?_ite ..

theorem failure?_checkItems (elements : List Json) :
    failure? (checkItems allow elements) =
      (itemsFaults allow (some (.array elements))).head? := by
  cases elements with
  | nil => rfl
  | cons first others => exact failure?_mapM_eq_head? Item.failure?_check (first :: others)

theorem failure?_checkConnection :
    failure? (checkConnection allow members) =
      (connectionFaults allow (members.lookup "connection")).head? := by
  rw [checkConnection]
  cases found : members.lookup "connection" with
  | none => rfl
  | some value =>
      have typed : failure? (requiredString members "connection") =
          (fieldFaults "connection" "string" isString (some value)).head? :=
        found ▸ failure?_requiredString "connection"
      refine failure?_bind_eq_head? typed fun word isWord => ?_
      rw [requiredString_eq_ok_iff, found] at isWord
      cases isWord
      rw [← List.append_nil (wordFaults _ _ _)]
      exact failure?_bind_eq_head? (failure?_requireListed _ _ word) fun _ _ => rfl

theorem failure?_checkClause {connection : Option String}
    (connected : checkConnection allow members = .ok connection) :
    failure? (checkClause allow members connection) =
      (logicFaults allow (members.lookup "connection") (members.lookup "logic")).head? := by
  rw [checkClause]
  cases members.lookup "logic" with
  | none => rfl
  | some node =>
      cases checkConnection_eq_ok_iff.mp connected with
      | absent missing =>
          rw [missing]
          rfl
      | present found listed =>
          simp only [found, logicFaults, Filter.sqlOf, reduceCtorEq, if_false, List.nil_append]
          cases Filter.check allow node <;> rfl

theorem failure?_checkMembers :
    failure? (checkMembers allow members) = (faults allow (.object members)).head? := by
  simp only [checkMembers, faults, List.flatten_cons, List.flatten_nil]
  refine failure?_bind_eq_head? (failure?_requiredString "query") fun query hasQuery => ?_
  refine failure?_bind_eq_head? (failure?_requiredList "items") fun elements hasItems => ?_
  refine failure?_bind_eq_head? (failure?_requiredString "table") fun table hasTable => ?_
  -- The fields are known from here on, so that each further check is about what they hold.
  rw [requiredString_eq_ok_iff] at hasQuery hasTable
  rw [requiredList_eq_ok_iff] at hasItems
  rw [hasQuery, hasItems, hasTable]
  refine failure?_bind_eq_head? (failure?_requireListed _ _ query) fun _ _ => ?_
  refine failure?_bind_eq_head? (failure?_checkItems elements) fun items _ => ?_
  refine failure?_bind_eq_head? (failure?_requireListed _ _ table) fun _ _ => ?_
  refine failure?_bind_eq_head? failure?_checkConnection fun connection connected => ?_
  exact failure?_bind_eq_head? (failure?_checkClause connected) fun clause _ => rfl

theorem failure?_sqlOf (request : Json) :
    failure? (sqlOf allow request) = (faults allow request).head? := by
  rw [sqlOf, failure?_map]
  cases request with
  | object members => exact failure?_checkMembers
  | _ => rfl

/-- A request is accepted with the SQL that its members make, and otherwise rejected for the first
of its faults. -/
theorem sqlOf_eq_iff_renders_or_first_fault (allow : AllowList) (request : Json) :
    (∀ bound, sqlOf allow request = .ok bound ↔ Renders allow request bound) ∧
    ∀ cause, sqlOf allow request = .error cause ↔
      (faults allow request).head? = some cause := by
  refine ⟨fun bound => sqlOf_eq_ok_iff_renders, fun cause => ?_⟩
  rw [← failure?_sqlOf, failure?_eq_some_iff]

example : faults Orders.allowList (.object [("connection", .string "WHERE"), ("items", .array
    [.string "price", .object [("DROP", .string "price")], .object [("MAX", .string "id")]]),
    ("logic", .null), ("query", .string "DELETE")]) =
    [.missingField "table", .unlistedQuery "DELETE", .unlistedItem "DROP", .unlistedItem "id",
      .inFilter (.unknownCondition "null")] :=
  rfl

end Statement

end GuardedSql
