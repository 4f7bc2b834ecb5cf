import GuardedSql.Proofs.BoundSql.Filling
import GuardedSql.Proofs.Statement.Grammar

set_option autoImplicit false

/-!
Every parameter belongs to its own place.

`Filter.inline` and `Statement.inline` write the text of a value directly, with each literal printed
where it stands, and bind nothing. If no listed name holds a placeholder, the parameters of an
accepted value, written back into its text from left to right, give that same text and are used up:
`fill?_sqlOf_eq_inline`. What a value of no filter or request is written as does not matter.
-/

namespace GuardedSql

open List (Forall₂)

variable {allow : AllowList} {kind : ColumnType} {print : Parameter → String}

def inlineLiteral (print : Parameter → String) (value : Json) : String :=
  match Parameter.ofJson? value with
  | some parameter => print parameter
  | none => ""

def inlineTerm (allow : AllowList) (print : Parameter → String) (value : Json) : String :=
  match allow.columnNamed? value with
  | some name => name
  | none => inlineLiteral print value

def inlineOperand (allow : AllowList) (print : Parameter → String) : Json → String
  | .object [(function, argument)] => function ++ "(" ++ inlineTerm allow print argument ++ ")"
  | value => inlineTerm allow print value

def inlineComparison (allow : AllowList) (print : Parameter → String) (column word : String)
    (operand : Json) : String :=
  match word, operand with
  | "BETWEEN", .array [low, high] =>
      column ++ " BETWEEN " ++ inlineLiteral print low ++ " AND " ++ inlineLiteral print high
  | "IN", .array entries =>
      column ++ " IN (" ++ ",".intercalate (entries.map (inlineLiteral print)) ++ ")"
  | "!=", value => column ++ " <> " ++ inlineOperand allow print value
  | word, value => column ++ " " ++ word ++ " " ++ inlineOperand allow print value

namespace Filter

mutual

/-- The text of a filter with its literals in place. -/
def inline (allow : AllowList) (print : Parameter → String) : Json → String
  | .object [(name, .array nodes)] =>
      "(" ++ (" " ++ name ++ " ").intercalate (inlineAll allow print nodes) ++ ")"
  | .object [(column, .object [(word, operand)])] =>
      inlineComparison allow print column word operand
  | _ => ""

def inlineAll (allow : AllowList) (print : Parameter → String) : List Json → List String
  | [] => []
  | node :: rest => inline allow print node :: inlineAll allow print rest

end

theorem inlineAll_eq_map (nodes : List Json) :
    inlineAll allow print nodes = nodes.map (inline allow print) := by
  induction nodes with
  | nil => rfl
  | cons node rest inductionHypothesis => rw [inlineAll, inductionHypothesis, List.map_cons]

end Filter

def inlineItem : Json → String
  | .string name => name
  | .object [(function, .string name)] => function ++ "(" ++ name ++ ")"
  | _ => ""

def memberText (members : List (String × Json)) (field : String) : String :=
  match members.lookup field with
  | some (.string text) => text
  | _ => ""

def memberElements (members : List (String × Json)) (field : String) : List Json :=
  match members.lookup field with
  | some (.array elements) => elements
  | _ => []

namespace Statement

def inlineHead (members : List (String × Json)) : String :=
  memberText members "query" ++ " " ++
    ",".intercalate ((memberElements members "items").map inlineItem) ++ " FROM " ++
    memberText members "table"

def inline (allow : AllowList) (print : Parameter → String) : Json → String
  | .object members =>
      match members.lookup "logic" with
      | none => inlineHead members
      | some node =>
          inlineHead members ++ " " ++ memberText members "connection" ++ " " ++
            Filter.inline allow print node
  | _ => ""

end Statement

/-- No listed name can be taken for a text with placeholders. -/
structure AllowList.PlaceholderFree (allow : AllowList) : Prop where
  queries : ∀ name ∈ allow.queries.names, GuardedSql.PlaceholderFree name
  items : ∀ name ∈ allow.items.names, GuardedSql.PlaceholderFree name
  tables : ∀ name ∈ allow.tables.names, GuardedSql.PlaceholderFree name
  connections : ∀ name ∈ allow.connections.names, GuardedSql.PlaceholderFree name
  columns : ∀ name ∈ allow.columns.names, GuardedSql.PlaceholderFree name

theorem AllowList.PlaceholderFree.column {name : String} (free : allow.PlaceholderFree)
    (listed : allow.hasColumn name = true) : GuardedSql.PlaceholderFree name :=
  free.columns name (NameMap.contains_eq_true_iff.mp listed)

theorem Term.Describes.fills (free : allow.PlaceholderFree) {value : Json} {term : Term}
    (described : Term.Describes allow kind value term) :
    Fills print term.render (inlineTerm allow print value) := by
  cases described with
  | @column name listed =>
      have named : allow.columnNamed? (.string name) = some name :=
        AllowList.columnNamed?_eq_some_iff.mpr ⟨rfl, listed⟩
      rw [inlineTerm, named]
      exact .verbatim (free.column listed)
  | literal unnamed _ bound =>
      have notNamed := AllowList.columnNamed?_eq_none_iff.mpr unnamed
      rw [inlineTerm, notNamed, inlineLiteral, bound]
      exact .bind _

theorem Operand.Describes.fills (free : allow.PlaceholderFree) {value : Json} {operand : Operand}
    (described : Operand.Describes allow kind value operand) :
    Fills print operand.render (inlineOperand allow print value) := by
  cases described with
  | term described =>
      have isTerm : inlineOperand allow print value = inlineTerm allow print value := by
        cases value with
        | object members =>
            cases described with
            | literal _ _ bound => cases bound
        | _ => rfl
      rw [isTerm]
      exact described.fills free
  | @aggregate _ function _ _ spelled described =>
      rw [Aggregate.eq_token_of_spelled spelled]
      exact .between function.placeholderFree_call (by decide) (described.fills free)

theorem ListComparator.EntryDescribes.fills {entry : Json} {parameter : Parameter}
    (described : ListComparator.EntryDescribes allow kind entry parameter) :
    Fills print (.bind parameter) (inlineLiteral print entry) := by
  rw [inlineLiteral, described.bound]
  exact .bind parameter

theorem fills_entries {separator : String} (free : PlaceholderFree separator)
    {entries : List Json} {values : List Parameter}
    (described : Forall₂ (ListComparator.EntryDescribes allow kind) entries values) :
    Fills print (.joinWith separator (values.map .bind))
      (separator.intercalate (entries.map (inlineLiteral print))) := by
  have each : Forall₂ (fun value entry => Fills print (.bind value) (inlineLiteral print entry))
      values entries := (described.imp fun _ _ each => each.fills).flip
  exact .joinWith free (forall₂_map_map_iff.mpr each)

theorem fills_list (free : allow.PlaceholderFree) {column word : String}
    {comparator : ListComparator} {entries : List Json} {values : List Parameter}
    (listed : allow.hasColumn column = true)
    (spelled : (word, comparator) ∈ ListComparator.spellings)
    (counted : comparator = .between ∧ entries.length = 2 ∨
      comparator = .within ∧ 1 ≤ entries.length)
    (described : Forall₂ (ListComparator.EntryDescribes allow kind) entries values) :
    Fills print (Filter.list column comparator values).render
      (inlineComparison allow print column word (.array entries)) := by
  have columnFree := free.column listed
  rw [ListComparator.eq_token_of_spelled spelled, Filter.render]
  rcases counted with ⟨rfl, two⟩ | ⟨rfl, _⟩
  · obtain ⟨low, high, rfl⟩ := List.length_eq_two.mp two
    have leadFree : PlaceholderFree (column ++ " " ++ "BETWEEN") := columnFree.spaced (by decide)
    have ends : Fills print (.joinWith " AND " (values.map .bind)) _ :=
      fills_entries (by decide) described
    have written : inlineComparison allow print column "BETWEEN" (.array [low, high]) =
        column ++ " " ++ "BETWEEN" ++ " " ++
          " AND ".intercalate ([low, high].map (inlineLiteral print)) := by
      simp only [inlineComparison, List.map_cons, List.map_nil, String.intercalate_cons_cons,
        String.intercalate_singleton, String.append_assoc]
      rfl
    rw [ListComparator.token, written]
    exact ends.after leadFree
  · have leadFree : PlaceholderFree (column ++ " " ++ "IN") := columnFree.spaced (by decide)
    have alternatives : Fills print (.joinWith "," (values.map .bind)) _ :=
      fills_entries (by decide) described
    have written : inlineComparison allow print column "IN" (.array entries) =
        column ++ " " ++ "IN" ++ " " ++
          ("(" ++ ",".intercalate (entries.map (inlineLiteral print)) ++ ")") := by
      simp only [inlineComparison, String.append_assoc]
      rfl
    rw [ListComparator.token, written]
    exact alternatives.parenthesized.after leadFree

theorem inlineComparison_of_spelled {column word : String} {comparator : Comparator}
    (spelled : (word, comparator) ∈ Comparator.spellings) (value : Json) :
    inlineComparison allow print column word value =
      column ++ " " ++ comparator.token ++ " " ++ inlineOperand allow print value := by
  simp only [Comparator.spellings, List.mem_cons, Prod.mk.injEq, List.not_mem_nil, or_false]
    at spelled
  rcases spelled with ⟨rfl, rfl⟩ | ⟨rfl, rfl⟩ | ⟨rfl, rfl⟩ | ⟨rfl, rfl⟩ | ⟨rfl, rfl⟩ | ⟨rfl, rfl⟩ |
    ⟨rfl, rfl⟩
  case inr.inr.inr.inr.inr.inr =>
    simp only [inlineComparison, Comparator.token, String.append_assoc]
    rfl
  all_goals rfl

theorem Filter.Describes.fills (free : allow.PlaceholderFree) {node : Json} {filter : Filter}
    (described : Filter.Describes allow node filter) :
    Fills print filter.render (Filter.inline allow print node) := by
  refine Filter.Describes.induct ?group ?compare ?list described
  case group =>
    intro word connective nodes filters spelled _ _ each
    have parts : Forall₂ (Fills print) (filters.map render) (nodes.map (inline allow print)) :=
      forall₂_map_map_iff.mpr each.flip
    rw [inline, render, renderAll_eq_map, inlineAll_eq_map,
      Connective.eq_token_of_spelled spelled]
    exact (Fills.joinWith connective.placeholderFree_separator parts).parenthesized
  case compare =>
    intro column kind word comparator value operand _ listed spelled described
    have columnFree := free.column (AllowList.hasColumn_of_typeOfColumn? listed)
    rw [inline, render, inlineComparison_of_spelled spelled]
    exact (described.fills free).after (columnFree.spaced comparator.placeholderFree_token)
  case list =>
    intro column kind word comparator entries values _ listed spelled counted described
    exact fills_list free (AllowList.hasColumn_of_typeOfColumn? listed) spelled counted
      described

theorem inlineItem_of_describes {value : Json} {item : Item}
    (described : Item.Describes allow value item) : inlineItem value = item.render := by
  cases described with
  | plain _ => rfl
  | aggregate spelled _ =>
      rw [inlineItem, Aggregate.eq_token_of_spelled spelled]
      rfl

theorem Item.Describes.placeholderFree_render (free : allow.PlaceholderFree) {value : Json}
    {item : Item} (described : Item.Describes allow value item) : PlaceholderFree item.render := by
  cases described with
  | plain listed => exact free.items _ (NameMap.contains_eq_true_iff.mp listed)
  | @aggregate _ function name _ listed =>
      have nameFree := free.items name (NameMap.contains_eq_true_iff.mp listed)
      exact (function.placeholderFree_call.append nameFree).append (by decide)

namespace Statement

variable {members : List (String × Json)} {statement : Statement}

theorem Describes.inlineHead_eq (described : Describes allow members statement) :
    inlineHead members = statement.head := by
  obtain ⟨elements, hasItems, _, items⟩ := described.items
  have texts : elements.map inlineItem = statement.items.map Item.render := by
    rw [← List.forall₂_eq_eq_eq, forall₂_map_map_iff]
    exact items.imp fun _ _ described => inlineItem_of_describes described
  simp only [inlineHead, memberText, memberElements, described.query, described.table, hasItems,
    texts, head]

theorem Describes.placeholderFree_head (free : allow.PlaceholderFree)
    (described : Describes allow members statement) : PlaceholderFree statement.head := by
  obtain ⟨elements, _, _, items⟩ := described.items
  have queryFree := free.queries _ (NameMap.contains_eq_true_iff.mp described.queryListed)
  have tableFree := free.tables _ (NameMap.contains_eq_true_iff.mp described.tableListed)
  have eachFree : ∀ item ∈ statement.items, PlaceholderFree item.render :=
    forall_mem_of_forall₂ (items.imp fun _ _ described => described.placeholderFree_render free)
  have itemsFree : PlaceholderFree (",".intercalate (statement.items.map Item.render)) := by
    refine .intercalate (by decide) ?_
    intro text member
    obtain ⟨item, inside, rfl⟩ := List.mem_map.mp member
    exact eachFree item inside
  exact (((queryFree.append (by decide)).append itemsFree).append (by decide)).append tableFree

theorem Describes.fills (free : allow.PlaceholderFree)
    (described : Describes allow members statement) :
    Fills print statement.render (inline allow print (.object members)) := by
  have headFree := described.placeholderFree_head free
  obtain ⟨connection, connected, claused⟩ := described.clause
  rw [inline, described.inlineHead_eq, render]
  generalize statement.clause = clause at claused
  cases claused with
  | absent missing =>
      rw [missing]
      exact .verbatim headFree
  | present isNode same filtered =>
      cases connected with
      | absent _ => cases same
      | present isWord listed =>
          cases same
          have wordFree := free.connections _ (NameMap.contains_eq_true_iff.mp listed)
          rw [isNode, memberText, isWord]
          exact (filtered.fills free).after (headFree.spaced wordFree)

end Statement

/-- Writing the parameters back gives the text with the literals in place, with nothing left over,
for filters and requests. -/
theorem fill?_sqlOf_eq_inline (free : allow.PlaceholderFree) (print : Parameter → String) :
    (∀ node bound, Filter.sqlOf allow node = .ok bound →
      bound.placeholders = bound.params.length ∧
        bound.fill? print = some (Filter.inline allow print node)) ∧
    ∀ request bound, Statement.sqlOf allow request = .ok bound →
      bound.placeholders = bound.params.length ∧
        bound.fill? print = some (Statement.inline allow print request) := by
  constructor
  · intro node bound accepted
    obtain ⟨filter, described, rfl⟩ := Filter.sqlOf_eq_ok_iff.mp accepted
    have fills : Fills print filter.render (Filter.inline allow print node) := described.fills free
    exact ⟨BoundSql.placeholders_eq_of_fill? fills.fill?_eq, fills.fill?_eq⟩
  · intro request bound accepted
    obtain ⟨members, statement, rfl, described, rfl⟩ := Statement.sqlOf_eq_ok_iff.mp accepted
    have fills : Fills print statement.render (Statement.inline allow print (.object members)) :=
      described.fills free
    exact ⟨BoundSql.placeholders_eq_of_fill? fills.fill?_eq, fills.fill?_eq⟩

def Orders.quoted : Parameter → String
  | .text value => "'" ++ value ++ "'"
  | _ => "NULL"

/-- A placeholder within a literal is not taken for one. -/
theorem fill?_orders :
    Orders.allowList.PlaceholderFree ∧
    BoundSql.fill? Orders.quoted
        ⟨"SELECT price,MAX(price) FROM orders WHERE (total <> AVG(total) OR IN IN (?,?))",
          [.text "paid?", .text "IN"]⟩ =
      some ("SELECT price,MAX(price) FROM orders WHERE " ++
        "(total <> AVG(total) OR IN IN ('paid?','IN'))") := by
  have free : Orders.allowList.PlaceholderFree :=
    ⟨by decide, by decide, by decide, by decide, by decide⟩
  have accepted : Statement.sqlOf Orders.allowList (Orders.request "paid?") = .ok ⟨_, _⟩ := rfl
  exact ⟨free, ((fill?_sqlOf_eq_inline free Orders.quoted).2 _ _ accepted).2⟩

end GuardedSql
