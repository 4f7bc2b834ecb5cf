import GuardedSql.Proofs.Statement.Grammar

set_option autoImplicit false

/-!
A longer allow-list accepts no less.

An allow-list extends another if it lists every name of the other one in the same place, and every
column with the same type. What is accepted under an allow-list is accepted under every one that
extends it, `sqlOf_of_extends`. The SQL is the same too, unless a string that stands where one
operand is expected names a column that only the longer list has; under the other list it was a
literal. The entries of lists are bound as literals under both.
-/

namespace GuardedSql

open List (Forall₂)

structure AllowList.Extends (wide narrow : AllowList) : Prop where
  queries : ∀ name, narrow.queries.contains name = true → wide.queries.contains name = true
  items : ∀ name, narrow.items.contains name = true → wide.items.contains name = true
  tables : ∀ name, narrow.tables.contains name = true → wide.tables.contains name = true
  connections : ∀ name, narrow.connections.contains name = true →
    wide.connections.contains name = true
  columns : ∀ name kind, narrow.typeOfColumn? name = some kind →
    wide.typeOfColumn? name = some kind

variable {narrow wide : AllowList} {kind : ColumnType}

theorem AllowList.Extends.hasColumn {name : String} (longer : wide.Extends narrow)
    (listed : narrow.hasColumn name = true) : wide.hasColumn name = true := by
  obtain ⟨kind, found⟩ := Option.isSome_iff_exists.mp listed
  exact hasColumn_of_typeOfColumn? (longer.columns name kind found)

/-- The text is no column of the longer list only. -/
def AllowList.Agrees (narrow wide : AllowList) (text : String) : Prop :=
  wide.hasColumn text = true → narrow.hasColumn text = true

inductive Operand.HasString : Json → String → Prop where
  | operand {text : String} : HasString (.string text) text
  | argument {word : String} {function : Aggregate} {text : String}
      (spelled : (word, function) ∈ Aggregate.spellings) :
      HasString (.object [(word, .string text)]) text

/-- A string in a filter that is compared with as one operand, or the argument of an aggregate. -/
inductive Filter.HasString : Json → String → Prop where
  | group {word : String} {connective : Connective} {nodes : List Json} {node : Json}
      {text : String} (spelled : (word, connective) ∈ Connective.spellings)
      (inside : node ∈ nodes) (found : HasString node text) :
      HasString (.object [(word, .array nodes)]) text
  | compare {column word : String} {comparator : Comparator} {value : Json} {text : String}
      (spelled : (word, comparator) ∈ Comparator.spellings)
      (found : Operand.HasString value text) :
      HasString (.object [(column, .object [(word, value)])]) text

inductive Statement.HasString : Json → String → Prop where
  | logic {members : List (String × Json)} {node : Json} {text : String}
      (isNode : members.lookup "logic" = some node) (found : Filter.HasString node text) :
      HasString (.object members) text

theorem Term.Describes.widen (longer : wide.Extends narrow) {value : Json} {term : Term}
    (described : Term.Describes narrow kind value term) :
    ∃ wider, Term.Describes wide kind value wider ∧
      ((∀ text, value = .string text → narrow.Agrees wide text) → wider = term) := by
  cases described with
  | column listed => exact ⟨_, .column (longer.hasColumn listed), fun _ => rfl⟩
  | @literal _ parameter unnamed accepted bound =>
      by_cases named : wide.NamesColumn value
      · obtain ⟨text, rfl, listed⟩ := named
        refine ⟨.column text, .column listed, ?_⟩
        intro agrees
        exact absurd ⟨text, rfl, agrees text rfl listed⟩ unnamed
      · exact ⟨.value parameter, .literal named accepted bound, fun _ => rfl⟩

theorem Operand.Describes.widen (longer : wide.Extends narrow) {value : Json} {operand : Operand}
    (described : Operand.Describes narrow kind value operand) :
    ∃ wider, Operand.Describes wide kind value wider ∧
      ((∀ text, HasString value text → narrow.Agrees wide text) → wider = operand) := by
  cases described with
  | term described =>
      obtain ⟨wider, widerDescribed, same⟩ := described.widen longer
      refine ⟨.term wider, .term widerDescribed, ?_⟩
      intro agrees
      rw [same fun text isText => agrees text (isText ▸ .operand)]
  | @aggregate _ function _ _ spelled described =>
      obtain ⟨wider, widerDescribed, same⟩ := described.widen longer
      refine ⟨.aggregate function wider, .aggregate spelled widerDescribed, ?_⟩
      intro agrees
      rw [same fun text isText => agrees text (isText ▸ .argument spelled)]

theorem ListComparator.EntryDescribes.widen (longer : wide.Extends narrow) {entry : Json}
    {parameter : Parameter} (described : EntryDescribes narrow kind entry parameter) :
    EntryDescribes wide kind entry parameter := by
  refine ⟨described.fitting.imp_left ?_, described.bound⟩
  rintro ⟨name, rfl, listed⟩
  exact ⟨name, rfl, longer.hasColumn listed⟩

namespace Filter

theorem Describes.widen (longer : wide.Extends narrow) {node : Json} {filter : Filter}
    (described : Describes narrow node filter) :
    ∃ wider, Describes wide node wider ∧
      ((∀ text, HasString node text → narrow.Agrees wide text) → wider = filter) := by
  refine Describes.induct ?group ?compare ?list described
  case group =>
    intro word connective nodes filters spelled several _ each
    obtain ⟨wider, widerDescribed, same⟩ := forall₂_choose each
    refine ⟨.group connective wider, .group spelled several widerDescribed, ?_⟩
    intro agrees
    rw [same fun node inside text found => agrees text (.group spelled inside found)]
  case compare =>
    intro column kind word comparator value operand unreserved listed spelled described
    obtain ⟨wider, widerDescribed, same⟩ := described.widen longer
    refine ⟨.compare column comparator wider,
      .compare unreserved (longer.columns column kind listed) spelled widerDescribed, ?_⟩
    intro agrees
    rw [same fun text found => agrees text (.compare spelled found)]
  case list =>
    intro column kind word comparator entries values unreserved listed spelled counted described
    have widerDescribed := described.imp fun _ _ described =>
      ListComparator.EntryDescribes.widen longer described
    exact ⟨.list column comparator values,
      .list unreserved (longer.columns column kind listed) spelled counted widerDescribed,
      fun _ => rfl⟩

end Filter

theorem Item.Describes.widen (longer : wide.Extends narrow) {value : Json} {item : Item}
    (described : Item.Describes narrow value item) : Item.Describes wide value item := by
  cases described with
  | plain listed => exact .plain (longer.items _ listed)
  | aggregate spelled listed => exact .aggregate spelled (longer.items _ listed)

namespace Statement

variable {members : List (String × Json)}

theorem ConnectionDescribes.widen (longer : wide.Extends narrow) {connection : Option String}
    (described : ConnectionDescribes narrow members connection) :
    ConnectionDescribes wide members connection := by
  cases described with
  | absent missing => exact .absent missing
  | present found listed => exact .present found (longer.connections _ listed)

theorem ClauseDescribes.widen (longer : wide.Extends narrow) {connection : Option String}
    {clause : Option Clause} (described : ClauseDescribes narrow members connection clause) :
    ∃ wider, ClauseDescribes wide members connection wider ∧
      ((∀ text, HasString (.object members) text → narrow.Agrees wide text) → wider = clause) := by
  cases described with
  | absent missing => exact ⟨none, .absent missing, fun _ => rfl⟩
  | @present word _ _ found connected described =>
      obtain ⟨wider, widerDescribed, same⟩ := described.widen longer
      refine ⟨some ⟨word, wider⟩, .present found connected widerDescribed, ?_⟩
      intro agrees
      rw [same fun text hasText => agrees text (.logic found hasText)]

theorem Describes.widen (longer : wide.Extends narrow) {statement : Statement}
    (described : Describes narrow members statement) :
    ∃ wider, Describes wide members wider ∧
      ((∀ text, HasString (.object members) text → narrow.Agrees wide text) →
        wider = statement) := by
  obtain ⟨query, items, table, clause⟩ := statement
  obtain ⟨hasQuery, queryListed, ⟨elements, hasItems, nonempty, itemsDescribed⟩, hasTable,
    tableListed, connection, connected, claused⟩ := described
  obtain ⟨wider, widerClaused, same⟩ := claused.widen longer
  have widerItems := itemsDescribed.imp fun _ _ described => Item.Describes.widen longer described
  refine ⟨⟨query, items, table, wider⟩,
    ⟨hasQuery, longer.queries _ queryListed, ⟨elements, hasItems, nonempty, widerItems⟩, hasTable,
      longer.tables _ tableListed, connection, connected.widen longer, widerClaused⟩, ?_⟩
  intro agrees
  rw [same agrees]

end Statement

/-- Accepted filters and requests stay accepted when the allow-list grows, and their SQL stays the
same if no operand becomes a column. -/
theorem sqlOf_of_extends (longer : wide.Extends narrow) :
    (∀ node bound, Filter.sqlOf narrow node = .ok bound →
      ∃ wider, Filter.sqlOf wide node = .ok wider ∧
        ((∀ text, Filter.HasString node text → narrow.Agrees wide text) → wider = bound)) ∧
    ∀ request bound, Statement.sqlOf narrow request = .ok bound →
      ∃ wider, Statement.sqlOf wide request = .ok wider ∧
        ((∀ text, Statement.HasString request text → narrow.Agrees wide text) →
          wider = bound) := by
  constructor
  · intro node bound accepted
    obtain ⟨filter, described, rfl⟩ := Filter.sqlOf_eq_ok_iff.mp accepted
    obtain ⟨wider, widerDescribed, same⟩ := described.widen longer
    exact ⟨wider.render, Filter.sqlOf_eq_ok_iff.mpr ⟨wider, widerDescribed, rfl⟩,
      fun agrees => congrArg Filter.render (same agrees)⟩
  · intro request bound accepted
    obtain ⟨members, statement, rfl, described, rfl⟩ := Statement.sqlOf_eq_ok_iff.mp accepted
    obtain ⟨wider, widerDescribed, same⟩ := described.widen longer
    exact ⟨wider.render,
      Statement.sqlOf_eq_ok_iff.mpr ⟨members, wider, rfl, widerDescribed, rfl⟩,
      fun agrees => congrArg Statement.render (same agrees)⟩

/-- A literal that names a new column becomes that column. -/
example : Filter.sqlOf (Orders.allowList.add (.column "paid" .string))
    (.object [("IN", .object [("=", .string "paid")])]) = .ok ⟨"IN = paid", []⟩ :=
  rfl

namespace Orders

/-- The allow-list with one more column, which is named like a literal of the request. -/
def longerList : AllowList :=
  allowList.add (.column "paid" .string)

theorem longerList_extends : longerList.Extends allowList where
  queries _ listed := listed
  items _ listed := listed
  tables _ listed := listed
  connections _ listed := listed
  columns name kind found := by
    have lookUp : longerList.typeOfColumn? name =
        if name = "paid" then some .string else allowList.typeOfColumn? name :=
      NameMap.find?_insert allowList.columns "paid" name .string
    by_cases isNew : name = "paid"
    · have absent : allowList.typeOfColumn? "paid" = none := rfl
      rw [isNew, absent] at found
      cases found
    · rw [lookUp, if_neg isNew, found]

theorem eq_total_of_hasString {text : String}
    (found : Statement.HasString (request "paid") text) : text = "total" := by
  cases found with
  | @logic _ node _ isNode found =>
      cases (show some (filter "paid") = some node from isNode)
      cases found with
      | @group _ _ _ node _ _ inside found =>
          rcases List.mem_pair.mp inside with rfl | rfl
          · cases found with
            | compare _ found =>
                cases found with
                | argument _ => rfl
          · cases found with
            | compare _ found => cases found

end Orders

/-- The entry of a list stays a literal although it names a column of the longer list. -/
theorem sqlOf_longerList :
    Orders.longerList.Extends Orders.allowList ∧
    Statement.sqlOf Orders.longerList (Orders.request "paid") =
      Statement.sqlOf Orders.allowList (Orders.request "paid") := by
  have longer := Orders.longerList_extends
  have accepted : Statement.sqlOf Orders.allowList (Orders.request "paid") = .ok ⟨_, _⟩ := rfl
  obtain ⟨wider, widerAccepted, same⟩ := (sqlOf_of_extends longer).2 _ _ accepted
  refine ⟨longer, ?_⟩
  rw [widerAccepted, accepted, same]
  intro text found _
  rw [Orders.eq_total_of_hasString found]
  rfl

end GuardedSql
