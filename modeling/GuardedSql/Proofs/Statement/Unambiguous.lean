import GuardedSql.Proofs.Statement.Grammar
import GuardedSql.Proofs.Text.Word

set_option autoImplicit false

/-!
Statements are told apart by their text.

A space stands behind the query word, the items, the table and the connection word, a comma stands
between two items, and parentheses make the call of an aggregate. If no listed name has such a
character at its place, the text of an accepted request determines what the request asks for:
`sameParts_of_sql_eq`. Nothing is asked of the columns, so of the filter the text is determined and
no more.
-/

namespace GuardedSql

open List (Forall₂)

/-- No name of a statement has a character in it that ends it. -/
structure AllowList.SeparableNames (allow : AllowList) : Prop where
  queries : ∀ name ∈ allow.queries.names, FreeOf [' '] name
  items : ∀ name ∈ allow.items.names, FreeOf [' ', ',', '(', ')'] name
  tables : ∀ name ∈ allow.tables.names, FreeOf [' '] name
  connections : ∀ name ∈ allow.connections.names, FreeOf [' '] name

/-- Two requests have filters with the same text behind the same connection word, or both have no
filter. -/
inductive Statement.SameClause (allow : AllowList) (members others : List (String × Json)) :
    Prop where
  | absent (missing : members.lookup "logic" = none) (otherMissing : others.lookup "logic" = none)
  | present {word : String} {node otherNode : Json} {bound otherBound : BoundSql}
      (connection : members.lookup "connection" = some (.string word))
      (otherConnection : others.lookup "connection" = some (.string word))
      (logic : members.lookup "logic" = some node)
      (otherLogic : others.lookup "logic" = some otherNode)
      (accepted : Filter.sqlOf allow node = .ok bound)
      (otherAccepted : Filter.sqlOf allow otherNode = .ok otherBound)
      (sameSql : bound.sql = otherBound.sql)

/-- Two requests ask for the same items of the same table with the same query word, and for the
same text of a filter. -/
structure Statement.SameParts (allow : AllowList) (members others : List (String × Json)) :
    Prop where
  query : ∃ word, members.lookup "query" = some (.string word) ∧
    others.lookup "query" = some (.string word)
  items : ∃ elements items, members.lookup "items" = some (.array elements) ∧
    others.lookup "items" = some (.array elements) ∧ checkItems allow elements = .ok items
  table : ∃ name, members.lookup "table" = some (.string name) ∧
    others.lookup "table" = some (.string name)
  clause : SameClause allow members others

variable {allow : AllowList}

theorem Aggregate.freeOf_token_call (function : Aggregate) :
    FreeOf [' ', ',', '(', ')'] function.token := by
  cases function <;> decide

theorem Item.render_aggregate (function : Aggregate) (name : String) :
    (Item.aggregate function name).render = function.token ++ ("(" ++ (name ++ ")")) := by
  simp only [render, Aggregate.applyTo, String.append_assoc]

namespace Item.Describes

variable {value other : Json} {item otherItem : Item}

theorem freeOf_render (separable : allow.SeparableNames) (described : Describes allow value item) :
    FreeOf [' ', ','] item.render := by
  cases described with
  | plain listed =>
      have free := separable.items _ (NameMap.contains_eq_true_iff.mp listed)
      exact free.mono (by simp)
  | @aggregate _ function name _ listed =>
      have free := separable.items name (NameMap.contains_eq_true_iff.mp listed)
      have tokenFree : FreeOf [' ', ','] function.token := function.freeOf_token_call.mono (by simp)
      have nameFree : FreeOf [' ', ','] name := free.mono (by simp)
      rw [render_aggregate]
      exact tokenFree.append (.append (by decide) (nameFree.append (by decide)))

/-- No plain item is a call: its name has no parenthesis. -/
theorem plain_ne_call (separable : allow.SeparableNames) {name : String}
    (listed : allow.items.contains name = true) (function : Aggregate) (argument : String) :
    (Item.plain name).render ≠ (Item.aggregate function argument).render := by
  intro same
  have free := separable.items name (NameMap.contains_eq_true_iff.mp listed)
  have isCall : name = function.token ++ ("(" ++ (argument ++ ")")) :=
    same.trans (render_aggregate function argument)
  have opens : '(' ∈ name.toList := by
    rw [isCall]
    simp only [String.toList_append, List.mem_append]
    exact .inr (.inl (by decide))
  exact absurd (free '(' opens) (by decide)

/-- Described items with the same text are the same item. -/
theorem eq_of_render_eq (separable : allow.SeparableNames) (described : Describes allow value item)
    (otherDescribed : Describes allow other otherItem) (same : item.render = otherItem.render) :
    item = otherItem := by
  cases described with
  | @plain name listed =>
      cases otherDescribed with
      | plain _ => exact congrArg Item.plain same
      | @aggregate _ function argument _ _ =>
          exact absurd same (plain_ne_call separable listed function argument)
  | @aggregate _ function argument _ _ =>
      cases otherDescribed with
      | @plain name listed =>
          exact absurd same.symm (plain_ne_call separable listed function argument)
      | @aggregate _ otherFunction otherArgument _ _ =>
          rw [render_aggregate, render_aggregate] at same
          have opens (behind : String) : BeginsIn [' ', ',', '(', ')'] ("(" ++ behind) :=
            .append_of_head? rfl (by decide)
          obtain ⟨sameToken, sameCall⟩ := eq_of_word_append_eq function.freeOf_token_call
            otherFunction.freeOf_token_call (opens _) (opens _) same
          have sameArgument := (String.append_left_inj ")").mp ((String.append_right_inj "(").mp
            sameCall)
          rw [Aggregate.token_injective sameToken, sameArgument]

/-- An item is described by one value only. -/
theorem value_unique (described : Describes allow value item)
    (otherDescribed : Describes allow other item) : value = other := by
  cases described with
  | plain _ =>
      cases otherDescribed with
      | plain _ => rfl
  | aggregate spelled _ =>
      cases otherDescribed with
      | aggregate otherSpelled _ =>
          rw [Aggregate.eq_token_of_spelled spelled, Aggregate.eq_token_of_spelled otherSpelled]

end Item.Describes

theorem items_eq_of_map_render_eq (separable : allow.SeparableNames) {elements others : List Json}
    {items otherItems : List Item} (described : Forall₂ (Item.Describes allow) elements items)
    (otherDescribed : Forall₂ (Item.Describes allow) others otherItems)
    (same : items.map Item.render = otherItems.map Item.render) :
    items = otherItems ∧ elements = others := by
  induction described generalizing others otherItems with
  | nil =>
      cases otherDescribed with
      | nil => exact ⟨rfl, rfl⟩
      | cons _ _ => cases same
  | cons head _ inductionHypothesis =>
      cases otherDescribed with
      | nil => cases same
      | cons otherHead otherRest =>
          obtain ⟨sameText, sameTexts⟩ := List.cons.inj same
          cases head.eq_of_render_eq separable otherHead sameText
          cases head.value_unique otherHead
          obtain ⟨sameItems, sameElements⟩ := inductionHypothesis otherRest sameTexts
          rw [sameItems, sameElements]
          exact ⟨rfl, rfl⟩

theorem freeOf_of_mem_renders (separable : allow.SeparableNames) {elements : List Json}
    {items : List Item} (described : Forall₂ (Item.Describes allow) elements items) :
    ∀ text ∈ items.map Item.render, FreeOf [' ', ','] text := by
  intro text member
  obtain ⟨item, inside, rfl⟩ := List.mem_map.mp member
  exact forall_mem_of_forall₂ (described.imp fun _ _ each => each.freeOf_render separable) item
    inside

theorem renders_ne_nil {elements : List Json} {items : List Item}
    (described : Forall₂ (Item.Describes allow) elements items) (nonempty : elements ≠ []) :
    items.map Item.render ≠ [] := by
  rintro empty
  rw [List.map_eq_nil_iff.mp empty, List.forall₂_nil_right_iff] at described
  exact nonempty described

/-- Lists of items are determined by their text: by the text of each item and the commas between
them. -/
theorem items_eq_of_intercalate_eq (separable : allow.SeparableNames) {elements others : List Json}
    {items otherItems : List Item} (described : Forall₂ (Item.Describes allow) elements items)
    (otherDescribed : Forall₂ (Item.Describes allow) others otherItems)
    (nonempty : elements ≠ []) (otherNonempty : others ≠ [])
    (same : ",".intercalate (items.map Item.render) =
      ",".intercalate (otherItems.map Item.render)) :
    items = otherItems ∧ elements = others := by
  have free := freeOf_of_mem_renders separable described
  have otherFree := freeOf_of_mem_renders separable otherDescribed
  have sameTexts : items.map Item.render = otherItems.map Item.render :=
    eq_of_intercalate_eq (by rfl : ",".toList = [','])
      (fun text member => (free text member).mono (by simp))
      (fun text member => (otherFree text member).mono (by simp))
      (renders_ne_nil described nonempty) (renders_ne_nil otherDescribed otherNonempty) same
  exact items_eq_of_map_render_eq separable described otherDescribed sameTexts

namespace Statement

/-- What stands behind the table: nothing, or the connection word and the filter. -/
def clauseText : Option Clause → String
  | none => ""
  | some clause => " " ++ (clause.connection ++ (" " ++ clause.filter.render.sql))

theorem render_sql_eq (statement : Statement) :
    statement.render.sql = statement.query ++ (" " ++
      (",".intercalate (statement.items.map Item.render) ++ (" FROM " ++
        (statement.table ++ clauseText statement.clause)))) := by
  cases clause : statement.clause with
  | none =>
      simp only [render, clause, BoundSql.verbatim, head, clauseText, String.append_assoc,
        String.append_empty]
  | some clause =>
      simp only [render, clause, BoundSql.after, head, clauseText, String.append_assoc]

theorem beginsIn_clauseText (clause : Option Clause) : BeginsIn [' '] (clauseText clause) := by
  cases clause with
  | none => exact .empty _
  | some clause => exact .append_of_head? rfl (by decide)

theorem ConnectionDescribes.freeOf (separable : allow.SeparableNames)
    {members : List (String × Json)} {word : String}
    (described : ConnectionDescribes allow members (some word)) :
    members.lookup "connection" = some (.string word) ∧ FreeOf [' '] word := by
  cases described with
  | present found listed =>
      exact ⟨found, separable.connections _ (NameMap.contains_eq_true_iff.mp listed)⟩

/-- Clauses are told apart by their text up to the filter. -/
theorem sameClause_of_clauseText_eq (separable : allow.SeparableNames)
    {members others : List (String × Json)} {connection otherConnection : Option String}
    {clause otherClause : Option Clause}
    (connected : ConnectionDescribes allow members connection)
    (otherConnected : ConnectionDescribes allow others otherConnection)
    (described : ClauseDescribes allow members connection clause)
    (otherDescribed : ClauseDescribes allow others otherConnection otherClause)
    (same : clauseText clause = clauseText otherClause) : SameClause allow members others := by
  have nonempty (behind : String) : "" ≠ " " ++ behind := by
    intro isEmpty
    exact absurd (String.append_eq_empty_iff.mp isEmpty.symm).1 (by decide)
  cases described with
  | absent missing =>
      cases otherDescribed with
      | absent otherMissing => exact .absent missing otherMissing
      | present _ _ _ => exact absurd same (nonempty _)
  | @present word node filter found isWord filterDescribed =>
      cases otherDescribed with
      | absent _ => exact absurd same.symm (nonempty _)
      | @present otherWord otherNode otherFilter otherFound otherIsWord otherFilterDescribed =>
          subst isWord otherIsWord
          obtain ⟨hasWord, free⟩ := connected.freeOf separable
          obtain ⟨otherHasWord, otherFree⟩ := otherConnected.freeOf separable
          obtain ⟨rfl, sameBehind⟩ := eq_of_word_append_eq free otherFree
            (.append_of_head? rfl (by decide)) (.append_of_head? rfl (by decide))
            ((String.append_right_inj " ").mp same)
          exact .present hasWord otherHasWord found otherFound
            (Filter.sqlOf_eq_ok_iff.mpr ⟨filter, filterDescribed, rfl⟩)
            (Filter.sqlOf_eq_ok_iff.mpr ⟨otherFilter, otherFilterDescribed, rfl⟩)
            ((String.append_right_inj " ").mp sameBehind)

/-- The parts of a statement can be read off its text one after the other. -/
theorem Describes.sameParts (separable : allow.SeparableNames)
    {members others : List (String × Json)} {statement other : Statement}
    (described : Describes allow members statement) (otherDescribed : Describes allow others other)
    (same : statement.render.sql = other.render.sql) : SameParts allow members others := by
  have listed {set : NameSet} {name : String} (free : ∀ name ∈ set.names, FreeOf [' '] name)
      (member : set.contains name = true) : FreeOf [' '] name :=
    free name (NameMap.contains_eq_true_iff.mp member)
  obtain ⟨elements, hasItems, nonempty, items⟩ := described.items
  obtain ⟨otherElements, otherHasItems, otherNonempty, otherItems⟩ := otherDescribed.items
  have itemsFree {elements : List Json} {items : List Item}
      (described : Forall₂ (Item.Describes allow) elements items) :
      FreeOf [' '] (",".intercalate (items.map Item.render)) :=
    .intercalate (by decide) fun text member =>
      (freeOf_of_mem_renders separable described text member).mono (by simp)
  rw [render_sql_eq, render_sql_eq] at same
  obtain ⟨sameQuery, sameBehindQuery⟩ := eq_of_word_append_eq
    (listed separable.queries described.queryListed)
    (listed separable.queries otherDescribed.queryListed) (.append_of_head? rfl (by decide))
    (.append_of_head? rfl (by decide)) same
  obtain ⟨sameItemsText, sameBehindItems⟩ := eq_of_word_append_eq (itemsFree items)
    (itemsFree otherItems) (.append_of_head? rfl (by decide)) (.append_of_head? rfl (by decide))
    ((String.append_right_inj " ").mp sameBehindQuery)
  obtain ⟨_, sameElements⟩ :=
    items_eq_of_intercalate_eq separable items otherItems nonempty otherNonempty sameItemsText
  obtain ⟨sameTable, sameClauseText⟩ := eq_of_word_append_eq
    (listed separable.tables described.tableListed)
    (listed separable.tables otherDescribed.tableListed) (beginsIn_clauseText _)
    (beginsIn_clauseText _) ((String.append_right_inj " FROM ").mp sameBehindItems)
  obtain ⟨connection, connected, claused⟩ := described.clause
  obtain ⟨otherConnection, otherConnected, otherClaused⟩ := otherDescribed.clause
  exact {
    query := ⟨statement.query, described.query, sameQuery ▸ otherDescribed.query⟩
    items := ⟨elements, statement.items, hasItems, sameElements ▸ otherHasItems,
      checkItems_eq_ok_iff.mpr ⟨nonempty, items⟩⟩
    table := ⟨statement.table, described.table, sameTable ▸ otherDescribed.table⟩
    clause := sameClause_of_clauseText_eq separable connected otherConnected claused otherClaused
      sameClauseText }

/-- Accepted requests with the same text have the same parts. -/
theorem sameParts_of_sql_eq (separable : allow.SeparableNames) {first second : Json}
    {bound other : BoundSql} (accepted : sqlOf allow first = .ok bound)
    (otherAccepted : sqlOf allow second = .ok other) (same : bound.sql = other.sql) :
    ∃ members others, first = .object members ∧ second = .object others ∧
      SameParts allow members others := by
  obtain ⟨members, statement, rfl, described, rfl⟩ := sqlOf_eq_ok_iff.mp accepted
  obtain ⟨others, otherStatement, rfl, otherDescribed, rfl⟩ := sqlOf_eq_ok_iff.mp otherAccepted
  exact ⟨members, others, rfl, rfl, described.sameParts separable otherDescribed same⟩

/-- The same text with other parameters: the requests differ in a literal only. -/
theorem sameParts_orders :
    Orders.allowList.SeparableNames ∧
    ∃ bound other, sqlOf Orders.allowList (Orders.request "paid") = .ok bound ∧
      sqlOf Orders.allowList (Orders.request "open") = .ok other ∧
      bound.sql = other.sql ∧ bound.params ≠ other.params ∧
      ∃ members others, Orders.request "paid" = .object members ∧
        Orders.request "open" = .object others ∧
        SameParts Orders.allowList members others := by
  have separable : Orders.allowList.SeparableNames :=
    ⟨by decide, by decide, by decide, by decide⟩
  have accepted : sqlOf Orders.allowList (Orders.request "paid") = .ok ⟨_, _⟩ := rfl
  have otherAccepted : sqlOf Orders.allowList (Orders.request "open") = .ok ⟨_, _⟩ := rfl
  exact ⟨separable, _, _, accepted, otherAccepted, rfl, by decide,
    sameParts_of_sql_eq separable accepted otherAccepted rfl⟩

end Statement

end GuardedSql
