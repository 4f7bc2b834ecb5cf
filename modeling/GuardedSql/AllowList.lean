import GuardedSql.Json
import GuardedSql.Rejection

set_option autoImplicit false

/-!
Allow-lists: the names that may appear in SQL text.

Everything a request may mention is listed here, in a set for each position of a statement, and the
columns a filter may test have a type each. An allow-list is grown by additions; an addition of a
column that is listed already replaces its type.

An allow-list is written as an object with five fields, of which the first four are lists of names
and the last one gives each column its type. Each field has a short name and a long one, which
begins with `allowed_`, and may be given once under either; a field that is not given is empty.
Members with other names are skipped, whatever their values are. The fields may also be given by
position, as an array. `AllowList.ofDocument?` says which documents are allow-lists, and
`AllowList.toJson` writes one.
-/

namespace GuardedSql

/-- The kind of literal that a column is compared with. -/
inductive ColumnType where
  | string
  | integer
  | float
  | boolean
  deriving DecidableEq

namespace ColumnType

def name : ColumnType → String
  | string => "string"
  | integer => "integer"
  | float => "float"
  | boolean => "boolean"

def ofName? (word : String) : Option ColumnType :=
  if word = "string" then some string
  else if word = "integer" then some integer
  else if word = "float" then some float
  else if word = "boolean" then some boolean
  else none

theorem ofName?_name (kind : ColumnType) : ofName? kind.name = some kind := by
  cases kind <;> decide

/-- Whether a value is a literal of a type. An integer has to fit a signed word; every number is a
literal of the float type; null is a literal of no type. -/
def accepts : ColumnType → Json → Bool
  | string, .string _ => true
  | integer, .number value => value.toInt64?.isSome
  | float, .number _ => true
  | boolean, .bool _ => true
  | _, _ => false

end ColumnType

/-- The names that may appear in SQL text, by position. -/
structure AllowList where
  /-- Words that may open a statement. -/
  queries : NameSet
  items : NameSet
  tables : NameSet
  /-- Words that may stand between the table and the filter. -/
  connections : NameSet
  /-- Columns that a filter may test, and their types. -/
  columns : NameMap ColumnType
  deriving DecidableEq

inductive Addition where
  | query (name : String)
  | item (name : String)
  | table (name : String)
  | connection (name : String)
  | column (name : String) (kind : ColumnType)
  deriving DecidableEq

namespace AllowList

def empty : AllowList where
  queries := .empty
  items := .empty
  tables := .empty
  connections := .empty
  columns := .empty

instance : Inhabited AllowList := ⟨empty⟩

def add (allow : AllowList) : Addition → AllowList
  | .query name => { allow with queries := allow.queries.insert name }
  | .item name => { allow with items := allow.items.insert name }
  | .table name => { allow with tables := allow.tables.insert name }
  | .connection name => { allow with connections := allow.connections.insert name }
  | .column name kind => { allow with columns := allow.columns.insert name kind }

def build (additions : List Addition) : AllowList :=
  additions.foldl add empty

def typeOfColumn? (allow : AllowList) (name : String) : Option ColumnType :=
  allow.columns.find? name

def hasColumn (allow : AllowList) (name : String) : Bool :=
  allow.columns.contains name

def strings? : List Document → Option (List String)
  | [] => some []
  | .string (some text) :: rest => (strings? rest).map (text :: ·)
  | _ :: _ => none

def nameSet? : Document → Option NameSet
  | .array elements => (strings? elements).map NameSet.ofList
  | _ => none

/-- The type that a document names: its name, or an object with that name as its only member and
null as the value. -/
def columnTypeOf? : Document → Option ColumnType
  | .string (some word) => ColumnType.ofName? word
  | .object [(some word, .null)] => ColumnType.ofName? word
  | _ => none

def columnList? : List (Option String × Document) → Option (List (String × ColumnType))
  | [] => some []
  | (none, _) :: _ => none
  | (some name, value) :: rest =>
      match columnTypeOf? value with
      | none => none
      | some kind => (columnList? rest).map ((name, kind) :: ·)

/-- The columns that a field holds; the last type of a column counts. -/
def columns? : Document → Option (NameMap ColumnType)
  | .object members => (columnList? members).map NameMap.ofList
  | _ => none

/-- What a field holds that may be given at most once: nothing, if it is not given. -/
def soleOrEmpty? {α : Type} (read : Document → Option (NameMap α)) :
    List Document → Option (NameMap α)
  | [] => some .empty
  | [given] => read given
  | _ => none

def ofFields? (queries items tables connections columns : List Document) : Option AllowList := do
  let queries ← soleOrEmpty? nameSet? queries
  let items ← soleOrEmpty? nameSet? items
  let tables ← soleOrEmpty? nameSet? tables
  let connections ← soleOrEmpty? nameSet? connections
  let columns ← soleOrEmpty? columns? columns
  return { queries, items, tables, connections, columns }

def namedMembers? : List (Option String × Document) → Option (List (String × Document))
  | [] => some []
  | (none, _) :: _ => none
  | (some name, value) :: rest => (namedMembers? rest).map ((name, value) :: ·)

def longName (field : String) : String :=
  "allowed_" ++ field

/-- The values given for a field under its short name or its long one, in order. -/
def given (field : String) (members : List (String × Document)) : List Document :=
  members.filterMap fun member =>
    if member.1 = field ∨ member.1 = longName field then some member.2 else none

def ofMembers? (members : List (String × Document)) : Option AllowList :=
  ofFields? (given "queries" members) (given "items" members) (given "tables" members)
    (given "connections" members) (given "columns" members)

/-- The allow-list of a list of at most five documents, one for each field in order. -/
def ofPositions? (elements : List Document) : Option AllowList :=
  if elements.length ≤ 5 then
    ofFields? elements[0]?.toList elements[1]?.toList elements[2]?.toList
      elements[3]?.toList elements[4]?.toList
  else
    none

def ofDocument? : Document → Option AllowList
  | .object members => (namedMembers? members).bind ofMembers?
  | .array elements => ofPositions? elements
  | _ => none

def ofText? (text : String) : Option AllowList :=
  (Document.ofText? text).bind ofDocument?

def ofFile? (content : Except ReadFailure String) : Except Failure AllowList :=
  match content with
  | .error cause => .error (.unreadable cause)
  | .ok text =>
      match ofText? text with
      | none => .error .malformed
      | some allow => .ok allow

def namesJson (set : NameSet) : Json :=
  .array (set.names.map .string)

def columnsJson (columns : NameMap ColumnType) : Json :=
  .object (columns.entries.map fun entry => (entry.1, .string entry.2.name))

/-- The allow-list as an object with all five fields under their short names. -/
def toJson (allow : AllowList) : Json :=
  .object [
    ("queries", namesJson allow.queries),
    ("items", namesJson allow.items),
    ("tables", namesJson allow.tables),
    ("connections", namesJson allow.connections),
    ("columns", columnsJson allow.columns)]

end AllowList

end GuardedSql
