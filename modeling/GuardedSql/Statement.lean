import GuardedSql.Filter

set_option autoImplicit false

/-!
Statements: what a request asks for, checked against an allow-list.

A request is an object with a query word, a list of items, a table and, if it has a filter in its
member `logic`, a connection word that stands before the filter. Other members are ignored. The
checks have a fixed order, and a request is rejected for the first that fails: the presence and kind
of query, items and table; the query word; the items from left to right; the table; the connection,
even if there is no filter; and the filter last.
-/

namespace GuardedSql

inductive Item where
  | plain (name : String)
  | aggregate (function : Aggregate) (name : String)
  deriving DecidableEq

def Item.render : Item → String
  | plain name => name
  | aggregate function name => function.applyTo name

/-- A filter and the word that stands before it. -/
structure Clause where
  connection : String
  filter : Filter

structure Statement where
  query : String
  items : List Item
  table : String
  clause : Option Clause

def Item.check (allow : AllowList) : Json → Except Rejection Item
  | .string name =>
      if allow.items.contains name then
        .ok (.plain name)
      else
        .error (.unlistedItem name)
  | .object [(word, argument)] =>
      match Aggregate.ofToken? word with
      | none => .error (.unlistedItem word)
      | some function =>
          match argument with
          | .string name =>
              if allow.items.contains name then
                .ok (.aggregate function name)
              else
                .error (.unlistedItem name)
          | _ => .error (.unlistedItem argument.display)
  | value => .error (.unlistedItem value.display)

namespace Statement

/-- The text before the filter: query word, items and table. -/
def head (statement : Statement) : String :=
  statement.query ++ " " ++ String.intercalate "," (statement.items.map Item.render) ++ " FROM " ++
    statement.table

def render (statement : Statement) : BoundSql :=
  match statement.clause with
  | none => BoundSql.verbatim statement.head
  | some clause => clause.filter.render.after (statement.head ++ " " ++ clause.connection)

def requiredString (members : List (String × Json)) (field : String) : Except Rejection String :=
  match members.lookup field with
  | none => .error (.missingField field)
  | some (.string text) => .ok text
  | some _ => .error (.fieldMismatch field "string")

def requiredList (members : List (String × Json)) (field : String) :
    Except Rejection (List Json) :=
  match members.lookup field with
  | none => .error (.missingField field)
  | some (.array elements) => .ok elements
  | some _ => .error (.fieldMismatch field "list")

def requireListed (set : NameSet) (cause : String → Rejection) (word : String) :
    Except Rejection Unit :=
  if set.contains word then .ok () else .error (cause word)

def checkItems (allow : AllowList) (elements : List Json) : Except Rejection (List Item) :=
  match elements with
  | [] => .error (.unlistedItem "[]")
  | _ => elements.mapM (Item.check allow)

def checkConnection (allow : AllowList) (members : List (String × Json)) :
    Except Rejection (Option String) :=
  match members.lookup "connection" with
  | none => .ok none
  | some _ => do
      let connection ← requiredString members "connection"
      requireListed allow.connections .unlistedConnection connection
      return some connection

def checkClause (allow : AllowList) (members : List (String × Json))
    (connection : Option String) : Except Rejection (Option Clause) :=
  match members.lookup "logic" with
  | none => .ok none
  | some logic =>
      match connection with
      | none => .error (.missingField "connection")
      | some word =>
          match Filter.check allow logic with
          | .error cause => .error (.inFilter cause)
          | .ok filter => .ok (some ⟨word, filter⟩)

def checkMembers (allow : AllowList) (members : List (String × Json)) :
    Except Rejection Statement := do
  let query ← requiredString members "query"
  let elements ← requiredList members "items"
  let table ← requiredString members "table"
  requireListed allow.queries .unlistedQuery query
  let items ← checkItems allow elements
  requireListed allow.tables .unlistedTable table
  let connection ← checkConnection allow members
  let clause ← checkClause allow members connection
  return { query, items, table, clause }

/-- The statement that a request describes, or the first cause for which it is rejected. -/
def check (allow : AllowList) : Json → Except Rejection Statement
  | .object members => checkMembers allow members
  | _ => .error (.missingField "query")

def sqlOf (allow : AllowList) (request : Json) : Except Rejection BoundSql :=
  (check allow request).map render

end Statement

end GuardedSql
