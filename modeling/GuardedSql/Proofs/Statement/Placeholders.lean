import GuardedSql.Proofs.BoundSql.Concatenation
import GuardedSql.Proofs.BoundSql.Filling
import GuardedSql.Proofs.Statement.Grammar

set_option autoImplicit false

/-!
How many placeholders a text has.

A name may hold a placeholder character, and then a text has more placeholders than parameters.
`Filter.names` and `Statement.names` list the names that are written, once for each time they are,
and the placeholders of a text are its parameters and those in these names: `placeholders_sqlOf`.
Fixed words have none.

Text with the names that are written in it is accounted for piece by piece: every operation on bound
SQL is a concatenation, and so are the lists of names.
-/

namespace GuardedSql

variable {allow : AllowList} {kind : ColumnType}

def Term.names : Term → List String
  | value _ => []
  | column name => [name]

def Operand.names : Operand → List String
  | term argument => argument.names
  | aggregate _ argument => argument.names

namespace Filter

mutual

/-- The columns that a filter writes, from left to right. -/
def names : Filter → List String
  | group _ children => namesAll children
  | compare column _ operand => column :: operand.names
  | list column _ _ => [column]

def namesAll : List Filter → List String
  | [] => []
  | child :: rest => names child ++ namesAll rest

end

end Filter

def Item.name : Item → String
  | plain name => name
  | aggregate _ name => name

def Clause.names (clause : Clause) : List String :=
  clause.connection :: clause.filter.names

/-- The names that a statement writes, from left to right. -/
def Statement.names (statement : Statement) : List String :=
  statement.query :: statement.items.map Item.name ++
    statement.table :: (statement.clause.map Clause.names).getD []

/-- The name is listed for some position of a statement. -/
def AllowList.Lists (allow : AllowList) (name : String) : Prop :=
  allow.queries.contains name = true ∨ allow.items.contains name = true ∨
    allow.tables.contains name = true ∨ allow.connections.contains name = true ∨
    allow.hasColumn name = true

/-- The placeholders in all of the names together. -/
def placeholdersIn (names : List String) : Nat :=
  (names.flatMap String.toList).count BoundSql.placeholder

theorem placeholdersIn_append (names others : List String) :
    placeholdersIn (names ++ others) = placeholdersIn names + placeholdersIn others := by
  rw [placeholdersIn, List.flatMap_append, List.count_append]
  rfl

theorem placeholdersIn_eq_zero_iff {names : List String} :
    placeholdersIn names = 0 ↔ ∀ name ∈ names, PlaceholderFree name := by
  simp only [placeholdersIn, List.count_eq_zero, List.mem_flatMap, not_exists, not_and,
    PlaceholderFree]

theorem BoundSql.placeholders_append (first second : BoundSql) :
    (first ++ second).placeholders = first.placeholders + second.placeholders := by
  rw [placeholders, sql_append, String.toList_append, List.count_append]
  rfl

/-- The placeholders of bound SQL are its parameters and the placeholders in the given names. -/
def Accounted (names : List String) (bound : BoundSql) : Prop :=
  bound.placeholders = bound.params.length + placeholdersIn names

namespace Accounted

theorem append {names others : List String} {first second : BoundSql}
    (firstAccounted : Accounted names first) (secondAccounted : Accounted others second) :
    Accounted (names ++ others) (first ++ second) := by
  have firstCount : first.placeholders = _ := firstAccounted
  have secondCount : second.placeholders = _ := secondAccounted
  rw [Accounted, BoundSql.placeholders_append, BoundSql.params_append, List.length_append,
    placeholdersIn_append]
  omega

theorem verbatim_append {names others : List String} {first second : String}
    (firstAccounted : Accounted names (.verbatim first))
    (secondAccounted : Accounted others (.verbatim second)) :
    Accounted (names ++ others) (.verbatim (first ++ second)) := by
  rw [BoundSql.verbatim_append]
  exact firstAccounted.append secondAccounted

theorem name (text : String) : Accounted [text] (.verbatim text) := by
  rw [Accounted, placeholdersIn, List.flatMap_singleton]
  exact (Nat.zero_add _).symm

theorem word {text : String} (free : PlaceholderFree text) : Accounted [] (.verbatim text) :=
  List.count_eq_zero.mpr free

theorem bind (parameter : Parameter) : Accounted [] (.bind parameter) := by
  change (String.singleton BoundSql.placeholder).toList.count BoundSql.placeholder = 1
  decide

theorem wordBefore {names : List String} {text : String} {bound : BoundSql}
    (free : PlaceholderFree text) (accounted : Accounted names bound) :
    Accounted names (.verbatim text ++ bound) :=
  (word free).append accounted

theorem wordBehind {names : List String} {text : String} {bound : BoundSql}
    (free : PlaceholderFree text) (accounted : Accounted names bound) :
    Accounted names (bound ++ .verbatim text) := by
  have whole := accounted.append (word free)
  rwa [List.append_nil] at whole

theorem parenthesized {names : List String} {bound : BoundSql}
    (accounted : Accounted names bound) : Accounted names bound.parenthesized := by
  rw [BoundSql.parenthesized_eq_append]
  exact (accounted.wordBehind (by decide)).wordBefore (by decide)

theorem after {names others : List String} {bound : BoundSql} {lead : String}
    (leadAccounted : Accounted names (.verbatim lead)) (accounted : Accounted others bound) :
    Accounted (names ++ others) (bound.after lead) := by
  rw [BoundSql.after_eq_append]
  exact leadAccounted.append (accounted.wordBefore (by decide))

theorem joinWith {α : Type} {write : α → BoundSql} {namesOf : α → List String} {separator : String}
    (free : PlaceholderFree separator) {parts : List α}
    (each : ∀ part ∈ parts, Accounted (namesOf part) (write part)) :
    Accounted (parts.flatMap namesOf) (.joinWith separator (parts.map write)) := by
  induction parts with
  | nil =>
      rw [List.map_nil, BoundSql.joinWith_nil]
      exact word (by decide)
  | cons part rest inductionHypothesis =>
      obtain ⟨first, others⟩ := List.forall_mem_cons.mp each
      have restAccounted := inductionHypothesis others
      cases rest with
      | nil =>
          rw [List.flatMap_cons, List.flatMap_nil, List.append_nil, List.map_cons, List.map_nil,
            BoundSql.joinWith_singleton]
          exact first
      | cons next rest =>
          rw [List.flatMap_cons, List.map_cons, List.map_cons,
            BoundSql.joinWith_cons_cons_eq_append]
          exact first.append (restAccounted.wordBefore free)

end Accounted

theorem Term.accounted (term : Term) : Accounted term.names term.render := by
  cases term with
  | value parameter => exact .bind parameter
  | column name => exact .name name

theorem Operand.accounted (operand : Operand) : Accounted operand.names operand.render := by
  cases operand with
  | term argument => exact argument.accounted
  | aggregate function argument =>
      rw [render_aggregate_eq_append]
      exact ((argument.accounted.wordBehind (by decide)).wordBefore (by decide)).wordBefore
        function.placeholderFree_token

theorem ListComparator.accounted_renderValues (comparator : ListComparator)
    (values : List Parameter) : Accounted [] (comparator.renderValues values) := by
  have joined {separator : String} (free : PlaceholderFree separator) :
      Accounted [] (.joinWith separator (values.map .bind)) := by
    have whole : Accounted (values.flatMap fun _ => []) _ :=
      .joinWith free fun value _ => .bind value
    rwa [List.flatMap_eq_nil_iff.mpr fun _ _ => rfl] at whole
  cases comparator with
  | between => exact joined (by decide)
  | within => exact (joined (by decide)).parenthesized

theorem accounted_lead {column word : String} (free : PlaceholderFree word) :
    Accounted [column] (.verbatim (column ++ " " ++ word)) :=
  ((Accounted.name column).verbatim_append (.word (by decide))).verbatim_append (.word free)

theorem Filter.namesAll_eq_flatMap (children : List Filter) :
    namesAll children = children.flatMap names := by
  induction children with
  | nil => rfl
  | cons child rest inductionHypothesis =>
      rw [namesAll, inductionHypothesis, List.flatMap_cons]

theorem Filter.accounted (filter : Filter) : Accounted filter.names filter.render := by
  refine names.induct (fun filter => Accounted filter.names filter.render)
    (fun filters => ∀ filter ∈ filters, Accounted filter.names filter.render)
    ?group ?compare ?list ?nil ?cons filter
  case group =>
    intro connective children each
    rw [names, render, namesAll_eq_flatMap, renderAll_eq_map]
    exact (Accounted.joinWith connective.placeholderFree_separator each).parenthesized
  case compare =>
    intro column comparator operand
    exact (accounted_lead comparator.placeholderFree_token).after operand.accounted
  case list =>
    intro column comparator values
    have written := comparator.accounted_renderValues values
    exact (accounted_lead comparator.placeholderFree_token).after written
  case nil =>
    intro filter member
    cases member
  case cons =>
    intro child rest first others
    exact List.forall_mem_cons.mpr ⟨first, others⟩

theorem Item.accounted (item : Item) : Accounted [item.name] (.verbatim item.render) := by
  cases item with
  | plain name => exact .name name
  | aggregate function name =>
      have call := Accounted.word function.placeholderFree_call
      exact (call.verbatim_append (.name name)).verbatim_append (.word (by decide))

theorem BoundSql.joinWith_map_verbatim (separator : String) (texts : List String) :
    joinWith separator (texts.map verbatim) = verbatim (separator.intercalate texts) := by
  have sameTexts : (texts.map verbatim).map sql = texts := by
    rw [List.map_map]
    exact List.map_id texts
  have noParams : (texts.map verbatim).flatMap params = [] := by
    rw [List.flatMap_eq_nil_iff, List.forall_mem_map]
    exact fun _ _ => rfl
  rw [joinWith, sameTexts, noParams]
  rfl

namespace Statement

theorem accounted_items (items : List Item) :
    Accounted (items.map Item.name) (.verbatim (",".intercalate (items.map Item.render))) := by
  have joined : Accounted (items.flatMap fun item => [item.name])
      (.joinWith "," (items.map (BoundSql.verbatim ∘ Item.render))) :=
    .joinWith (by decide) fun item _ => item.accounted
  rwa [← List.map_eq_flatMap, ← List.map_map, BoundSql.joinWith_map_verbatim] at joined

theorem accounted_head (statement : Statement) :
    Accounted (statement.query :: statement.items.map Item.name ++ [statement.table])
      (.verbatim statement.head) := by
  have query : Accounted [statement.query] (.verbatim (statement.query ++ " ")) :=
    (Accounted.name statement.query).verbatim_append (.word (by decide))
  have items : Accounted (statement.items.map Item.name ++ [])
      (.verbatim (",".intercalate (statement.items.map Item.render) ++ " FROM ")) :=
    (accounted_items statement.items).verbatim_append (.word (by decide))
  have whole := (query.verbatim_append items).verbatim_append (.name statement.table)
  rw [List.append_nil, ← String.append_assoc] at whole
  exact whole

theorem accounted (statement : Statement) : Accounted statement.names statement.render := by
  have head := statement.accounted_head
  unfold names render
  cases statement.clause with
  | none => exact head
  | some clause =>
      have spaced : Accounted _ (.verbatim (statement.head ++ " ")) :=
        head.verbatim_append (.word (by decide))
      have whole := (spaced.verbatim_append (.name clause.connection)).after clause.filter.accounted
      simp only [List.append_nil, List.append_assoc, List.cons_append, List.nil_append] at whole
      exact whole

end Statement

/-! ### Written names are listed -/

theorem Term.Describes.hasColumn_of_mem {value : Json} {term : Term}
    (described : Term.Describes allow kind value term) :
    ∀ name ∈ term.names, allow.hasColumn name = true := by
  cases described with
  | column listed => exact List.forall_mem_singleton.mpr listed
  | literal _ _ _ => exact fun name member => absurd member List.not_mem_nil

theorem Operand.Describes.hasColumn_of_mem {value : Json} {operand : Operand}
    (described : Operand.Describes allow kind value operand) :
    ∀ name ∈ operand.names, allow.hasColumn name = true := by
  cases described with
  | term described => exact described.hasColumn_of_mem
  | aggregate _ described => exact described.hasColumn_of_mem

theorem Filter.Describes.hasColumn_of_mem {node : Json} {filter : Filter}
    (described : Filter.Describes allow node filter) :
    ∀ name ∈ filter.names, allow.hasColumn name = true := by
  refine Filter.Describes.induct ?group ?compare ?list described
  case group =>
    intro word connective nodes filters _ _ _ each name member
    rw [names, namesAll_eq_flatMap] at member
    obtain ⟨filter, inside, member⟩ := List.mem_flatMap.mp member
    exact forall_mem_of_forall₂ each filter inside name member
  case compare =>
    intro column kind word comparator value operand _ listed _ described
    have isColumn := AllowList.hasColumn_of_typeOfColumn? listed
    exact List.forall_mem_cons.mpr ⟨isColumn, described.hasColumn_of_mem⟩
  case list =>
    intro column kind word comparator entries values _ listed _ _ _
    exact List.forall_mem_singleton.mpr (AllowList.hasColumn_of_typeOfColumn? listed)

theorem Item.Describes.name_listed {value : Json} {item : Item}
    (described : Item.Describes allow value item) : allow.items.contains item.name = true := by
  cases described with
  | plain listed => exact listed
  | aggregate _ listed => exact listed

theorem Statement.Describes.lists_of_mem {members : List (String × Json)} {statement : Statement}
    (described : Statement.Describes allow members statement) :
    ∀ name ∈ statement.names, allow.Lists name := by
  obtain ⟨elements, _, _, items⟩ := described.items
  obtain ⟨connection, connected, claused⟩ := described.clause
  have inItems : ∀ name ∈ statement.items.map Item.name, allow.Lists name := by
    rw [List.forall_mem_map]
    intro item member
    have listed := forall_mem_of_forall₂ (items.imp fun _ _ described => described.name_listed)
    exact .inr (.inl (listed item member))
  have inClause : ∀ name ∈ (statement.clause.map Clause.names).getD [], allow.Lists name := by
    generalize statement.clause = clause at claused
    cases claused with
    | absent _ => exact fun name member => absurd member List.not_mem_nil
    | present _ same filtered =>
        cases connected with
        | absent _ => cases same
        | present _ listed =>
            cases same
            refine List.forall_mem_cons.mpr ⟨.inr (.inr (.inr (.inl listed))), ?_⟩
            intro name member
            exact .inr (.inr (.inr (.inr (filtered.hasColumn_of_mem name member))))
  intro name member
  rw [names, List.cons_append, List.mem_cons, List.mem_append, List.mem_cons] at member
  rcases member with rfl | member | rfl | member
  · exact .inl described.queryListed
  · exact inItems name member
  · exact .inr (.inr (.inl described.tableListed))
  · exact inClause name member

theorem Accounted.eq_length_iff {names : List String} {bound : BoundSql}
    (accounted : Accounted names bound) :
    bound.placeholders = bound.params.length ↔ ∀ name ∈ names, PlaceholderFree name := by
  have count : bound.placeholders = _ := accounted
  rw [← placeholdersIn_eq_zero_iff]
  omega

/-- The placeholders of a text are its parameters and those in the listed names that are written,
for filters and requests. They are as many as the parameters exactly if no such name has one. -/
theorem placeholders_sqlOf (allow : AllowList) :
    (∀ node bound, Filter.sqlOf allow node = .ok bound →
      ∃ filter, Filter.check allow node = .ok filter ∧
        (∀ name ∈ filter.names, allow.hasColumn name = true) ∧
        bound.placeholders = bound.params.length + placeholdersIn filter.names ∧
        (bound.placeholders = bound.params.length ↔
          ∀ name ∈ filter.names, PlaceholderFree name)) ∧
    ∀ request bound, Statement.sqlOf allow request = .ok bound →
      ∃ statement, Statement.check allow request = .ok statement ∧
        (∀ name ∈ statement.names, allow.Lists name) ∧
        bound.placeholders = bound.params.length + placeholdersIn statement.names ∧
        (bound.placeholders = bound.params.length ↔
          ∀ name ∈ statement.names, PlaceholderFree name) := by
  constructor
  · intro node bound accepted
    obtain ⟨filter, described, rfl⟩ := Filter.sqlOf_eq_ok_iff.mp accepted
    exact ⟨filter, Filter.check_of_describes described, described.hasColumn_of_mem,
      filter.accounted, filter.accounted.eq_length_iff⟩
  · intro request bound accepted
    obtain ⟨members, statement, rfl, described, rfl⟩ := Statement.sqlOf_eq_ok_iff.mp accepted
    exact ⟨statement, Statement.check_eq_ok_iff.mpr ⟨members, rfl, described⟩,
      described.lists_of_mem, statement.accounted, statement.accounted.eq_length_iff⟩

namespace Orders

/-- An allow-list with placeholders in two of its names. -/
def markedList : AllowList :=
  .build [.query "SELECT", .item "price?", .table "orders", .connection "WHERE",
    .column "state?" .string]

def markedRequest : Json :=
  .object [("connection", .string "WHERE"), ("items", .array [.string "price?"]),
    ("logic", .object [("state?", .object [("IN", .array [.string "paid", .string "state?"])])]),
    ("query", .string "SELECT"), ("table", .string "orders")]

def markedSql : BoundSql where
  sql := "SELECT price? FROM orders WHERE state? IN (?,?)"
  params := [.text "paid", .text "state?"]

end Orders

theorem placeholders_marked :
    Statement.sqlOf Orders.markedList Orders.markedRequest = .ok Orders.markedSql ∧
    Orders.markedSql.placeholders = 4 ∧
    ∃ statement, Statement.check Orders.markedList Orders.markedRequest = .ok statement ∧
      placeholdersIn statement.names = 2 := by
  have accepted : Statement.sqlOf Orders.markedList Orders.markedRequest =
      .ok Orders.markedSql := rfl
  have four : Orders.markedSql.placeholders = 4 := by decide
  have two : Orders.markedSql.params.length = 2 := rfl
  obtain ⟨statement, checked, _, count, _⟩ :=
    (placeholders_sqlOf Orders.markedList).2 Orders.markedRequest Orders.markedSql accepted
  exact ⟨accepted, four, statement, checked, by omega⟩

end GuardedSql
