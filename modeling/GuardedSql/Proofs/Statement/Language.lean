import GuardedSql.Proofs.Statement.Grammar

set_option autoImplicit false

/-!
The language of the SQL texts.

`StatementText` generates texts from nothing but fixed words and the names of an allow-list, each
name at the positions of its own set, and from placeholders. The text of every accepted request is
generated by it, so a string of a request reaches the text only as a listed name in its place.
-/

namespace GuardedSql

open List (Forall₂)

variable {allow : AllowList} {kind : ColumnType}

/-- What may stand to the right of a comparator. -/
inductive OperandText (allow : AllowList) : String → Prop where
  | placeholder : OperandText allow "?"
  | column {name : String} (listed : allow.hasColumn name = true) : OperandText allow name
  | columnCall {function name : String} (known : function ∈ ["MIN", "MAX", "SUM", "AVG", "COUNT"])
      (listed : allow.hasColumn name = true) : OperandText allow (function ++ "(" ++ name ++ ")")
  | placeholderCall {function : String} (known : function ∈ ["MIN", "MAX", "SUM", "AVG", "COUNT"]) :
      OperandText allow (function ++ "(" ++ "?" ++ ")")

inductive FilterText (allow : AllowList) : String → Prop where
  | compare {column comparator operand : String} (listed : allow.hasColumn column = true)
      (known : comparator ∈ ["=", ">", "<", ">=", "<=", "<>"])
      (right : OperandText allow operand) :
      FilterText allow (column ++ " " ++ comparator ++ " " ++ operand)
  | between {column : String} (listed : allow.hasColumn column = true) :
      FilterText allow (column ++ " BETWEEN ? AND ?")
  | within {column : String} {count : Nat} (listed : allow.hasColumn column = true)
      (nonempty : 1 ≤ count) :
      FilterText allow (column ++ " IN (" ++ ",".intercalate (List.replicate count "?") ++ ")")
  | conjunction {conditions : List String} (several : 2 ≤ conditions.length)
      (each : ∀ condition ∈ conditions, FilterText allow condition) :
      FilterText allow ("(" ++ " AND ".intercalate conditions ++ ")")
  | disjunction {conditions : List String} (several : 2 ≤ conditions.length)
      (each : ∀ condition ∈ conditions, FilterText allow condition) :
      FilterText allow ("(" ++ " OR ".intercalate conditions ++ ")")

inductive ItemText (allow : AllowList) : String → Prop where
  | plain {name : String} (listed : allow.items.contains name = true) : ItemText allow name
  | call {function name : String} (known : function ∈ ["MIN", "MAX", "SUM", "AVG", "COUNT"])
      (listed : allow.items.contains name = true) :
      ItemText allow (function ++ "(" ++ name ++ ")")

/-- The part of a statement before its filter. -/
inductive HeadText (allow : AllowList) : String → Prop where
  | select {query table : String} {items : List String}
      (queryListed : allow.queries.contains query = true) (nonempty : items ≠ [])
      (each : ∀ item ∈ items, ItemText allow item)
      (tableListed : allow.tables.contains table = true) :
      HeadText allow (query ++ " " ++ ",".intercalate items ++ " FROM " ++ table)

inductive StatementText (allow : AllowList) : String → Prop where
  | plain {head : String} (start : HeadText allow head) : StatementText allow head
  | filtered {head connection filter : String} (start : HeadText allow head)
      (listed : allow.connections.contains connection = true)
      (condition : FilterText allow filter) :
      StatementText allow (head ++ " " ++ connection ++ " " ++ filter)

theorem Comparator.token_mem (comparator : Comparator) :
    comparator.token ∈ ["=", ">", "<", ">=", "<=", "<>"] := by
  cases comparator <;> decide

theorem Aggregate.token_mem (aggregate : Aggregate) :
    aggregate.token ∈ ["MIN", "MAX", "SUM", "AVG", "COUNT"] := by
  cases aggregate <;> decide

theorem Operand.Describes.operandText {value : Json} {operand : Operand}
    (described : Operand.Describes allow kind value operand) :
    OperandText allow operand.render.sql := by
  cases described with
  | term described =>
      cases described with
      | column listed => exact .column listed
      | literal _ _ _ => exact .placeholder
  | @aggregate _ function _ _ _ described =>
      cases described with
      | column listed => exact .columnCall function.token_mem listed
      | literal _ _ _ => exact .placeholderCall function.token_mem

/-- A list of literals is written as its placeholders. -/
theorem map_sql_map_bind (values : List Parameter) :
    (values.map BoundSql.bind).map BoundSql.sql = List.replicate values.length "?" := by
  rw [List.map_map]
  exact List.map_const'

theorem filterText_of_list {column : String} {comparator : ListComparator}
    {values : List Parameter} (listed : allow.hasColumn column = true)
    (counted : comparator = .between ∧ values.length = 2 ∨
      comparator = .within ∧ 1 ≤ values.length) :
    FilterText allow (Filter.list column comparator values).render.sql := by
  rcases counted with ⟨rfl, two⟩ | ⟨rfl, nonempty⟩
  · have written : (Filter.list column .between values).render.sql =
        column ++ " BETWEEN ? AND ?" := by
      simp only [Filter.render, ListComparator.renderValues, BoundSql.after, BoundSql.joinWith,
        map_sql_map_bind, two, String.append_assoc]
      rfl
    rw [written]
    exact .between listed
  · have written : (Filter.list column .within values).render.sql =
        column ++ " IN (" ++ ",".intercalate (List.replicate values.length "?") ++ ")" := by
      simp only [Filter.render, ListComparator.renderValues, BoundSql.after,
        BoundSql.parenthesized, BoundSql.joinWith, map_sql_map_bind, String.append_assoc]
      rfl
    rw [written]
    exact .within listed nonempty

theorem filterText_of_group {connective : Connective} {filters : List Filter}
    (several : 2 ≤ filters.length)
    (each : ∀ filter ∈ filters, FilterText allow filter.render.sql) :
    FilterText allow (Filter.group connective filters).render.sql := by
  have severalTexts : 2 ≤ (filters.map fun filter => filter.render.sql).length := by
    rwa [List.length_map]
  have eachText : ∀ text ∈ filters.map (fun filter => filter.render.sql),
      FilterText allow text := by
    intro text member
    obtain ⟨filter, inside, rfl⟩ := List.mem_map.mp member
    exact each filter inside
  have written : (Filter.group connective filters).render.sql =
      "(" ++ (" " ++ connective.token ++ " ").intercalate
        (filters.map fun filter => filter.render.sql) ++ ")" := by
    simp only [Filter.render, Filter.renderAll_eq_map, BoundSql.parenthesized, BoundSql.joinWith,
      List.map_map, Function.comp_def]
  rw [written]
  cases connective with
  | and => exact .conjunction severalTexts eachText
  | or => exact .disjunction severalTexts eachText

theorem Filter.Describes.filterText {node : Json} {filter : Filter}
    (described : Filter.Describes allow node filter) : FilterText allow filter.render.sql := by
  refine Filter.Describes.induct ?group ?compare ?list described
  case group =>
    intro word connective nodes filters _ several matched each
    rw [matched.length_eq] at several
    exact filterText_of_group several (forall_mem_of_forall₂ each)
  case compare =>
    intro column kind word comparator value operand _ listed _ right
    exact .compare (AllowList.hasColumn_of_typeOfColumn? listed) comparator.token_mem
      right.operandText
  case list =>
    intro column kind word comparator entries values _ listed _ counted matched
    rw [matched.length_eq] at counted
    exact filterText_of_list (AllowList.hasColumn_of_typeOfColumn? listed) counted

theorem Item.Describes.itemText {value : Json} {item : Item}
    (described : Item.Describes allow value item) : ItemText allow item.render := by
  cases described with
  | plain listed => exact .plain listed
  | @aggregate _ function _ _ listed => exact .call function.token_mem listed

theorem Statement.Describes.headText {members : List (String × Json)} {statement : Statement}
    (described : Statement.Describes allow members statement) : HeadText allow statement.head := by
  obtain ⟨elements, _, nonempty, items⟩ := described.items
  refine .select described.queryListed ?_ ?_ described.tableListed
  · intro empty
    have noItems : statement.items = [] := List.map_eq_nil_iff.mp empty
    rw [noItems, List.forall₂_nil_right_iff] at items
    exact nonempty items
  · intro text member
    obtain ⟨item, inside, rfl⟩ := List.mem_map.mp member
    exact forall_mem_of_forall₂ (items.imp fun _ _ described => described.itemText) item inside

theorem Statement.Describes.statementText {members : List (String × Json)} {statement : Statement}
    (described : Statement.Describes allow members statement) :
    StatementText allow statement.render.sql := by
  have start := described.headText
  obtain ⟨connection, connected, claused⟩ := described.clause
  unfold Statement.render
  generalize statement.clause = clause at claused
  cases claused with
  | absent _ => exact .plain start
  | present _ same filtered =>
      cases connected with
      | absent _ => cases same
      | present _ listed =>
          cases same
          exact .filtered start listed filtered.filterText

/-- The text of every accepted request is generated from the allow-list. -/
theorem statementText_of_sqlOf {request : Json} {bound : BoundSql}
    (accepted : Statement.sqlOf allow request = .ok bound) : StatementText allow bound.sql := by
  obtain ⟨members, statement, _, described, rfl⟩ := Statement.sqlOf_eq_ok_iff.mp accepted
  exact described.statementText

theorem statementText_orders :
    Statement.sqlOf Orders.allowList (Orders.request "paid") =
      .ok ⟨"SELECT price,MAX(price) FROM orders WHERE (total <> AVG(total) OR IN IN (?,?))",
        [.text "paid", .text "IN"]⟩ ∧
    StatementText Orders.allowList
      "SELECT price,MAX(price) FROM orders WHERE (total <> AVG(total) OR IN IN (?,?))" := by
  have accepted : Statement.sqlOf Orders.allowList (Orders.request "paid") = .ok ⟨_, _⟩ := rfl
  exact ⟨accepted, statementText_of_sqlOf accepted⟩

end GuardedSql
