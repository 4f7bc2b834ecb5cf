import GuardedSql.Statement

set_option autoImplicit false

/-!
Calls under one allow-list, their answers, and the events they leave behind.

Rendering a filter or a request leaves one event behind, which tells whether it was rendered or
rejected; rendering from a text does so as well, unless the text is no value at all. The filter
inside a request is part of the request and has no event of its own, and checks leave none. How
doubles are read from a text is left to a reader.
-/

namespace GuardedSql

inductive Subject where
  | filter
  | request
  deriving DecidableEq

inductive Level where
  | trace
  | debug
  deriving DecidableEq

def Level.name : Level → String
  | trace => "TRACE"
  | debug => "DEBUG"

inductive Event where
  | rendered (subject : Subject) (sql : String) (params : Nat)
  | rejected (subject : Subject) (reason : String)
  deriving DecidableEq

namespace Event

def level : Event → Level
  | rendered _ _ _ => .trace
  | rejected _ _ => .debug

def message : Event → String
  | rendered .filter _ _ => "rendered filter"
  | rendered .request _ _ => "rendered statement"
  | rejected .filter _ => "rejected filter"
  | rejected .request _ => "rejected request"

def ofResult (subject : Subject) : Except Rejection BoundSql → Event
  | .ok bound => rendered subject bound.sql bound.params.length
  | .error cause => rejected subject cause.message

end Event

/-- A value and the events that were left behind while it was computed, in order. -/
structure Logged (α : Type) where
  value : α
  events : List Event

namespace Logged

variable {α β : Type}

def silent (value : α) : Logged α where
  value := value
  events := []

def map (change : α → β) (logged : Logged α) : Logged β where
  value := change logged.value
  events := logged.events

end Logged

/-- A result and the event it leaves behind. -/
def announce (subject : Subject) (result : Except Rejection BoundSql) :
    Logged (Except Rejection BoundSql) where
  value := result
  events := [Event.ofResult subject result]

def renderFilter (allow : AllowList) (node : Json) : Logged (Except Rejection BoundSql) :=
  announce .filter (Filter.sqlOf allow node)

def renderRequest (allow : AllowList) (request : Json) : Logged (Except Rejection BoundSql) :=
  announce .request (Statement.sqlOf allow request)

def renderText (read : DoubleReader) (render : Json → Logged (Except Rejection BoundSql))
    (text : String) : Logged (Except Failure BoundSql) :=
  match Json.ofText? read text with
  | none => .silent (.error .malformed)
  | some value => (render value).map fun result => result.mapError .rejected

def renderFilterText (read : DoubleReader) (allow : AllowList) (text : String) :
    Logged (Except Failure BoundSql) :=
  renderText read (renderFilter allow) text

def renderRequestText (read : DoubleReader) (allow : AllowList) (text : String) :
    Logged (Except Failure BoundSql) :=
  renderText read (renderRequest allow) text

/-- A question that can be asked under an allow-list. -/
inductive Call where
  | renderFilter (node : Json)
  | renderRequest (request : Json)
  | renderFilterText (text : String)
  | renderRequestText (text : String)
  | checkFilter (node : Json)
  | checkItem (item : Json)
  | checkOperand (operand : Json) (kind : ColumnType)
  | checkAggregate (operand : Json) (kind : ColumnType)
  | checkList (word : String) (entries : Json) (kind : ColumnType)
  | checkComparison (column : String) (comparison : Json)
  | lookUpColumn (name : String)
  | acceptsOperand (operand : Json) (kind : ColumnType)
  | acceptsAggregate (operand : Json) (kind : ColumnType)
  | acceptsList (word : String) (entries : Json) (kind : ColumnType)
  | acceptsComparison (column : String) (comparison : Json)
  | hasColumn (name : String)

inductive Answer where
  | sql (result : Except Failure BoundSql)
  | filter (result : Except Rejection Filter)
  | item (result : Except Rejection Item)
  | operand (result : Option Operand)
  | literals (result : Option (List Parameter))
  | columnType (result : Option ColumnType)
  /-- Whether a check succeeds. -/
  | verdict (holds : Bool)

def literalsAfter? (allow : AllowList) (word : String) (entries : Json) (kind : ColumnType) :
    Option (List Parameter) :=
  (ListComparator.ofToken? word).bind fun comparator => comparator.check? allow kind entries

def acceptsLiteralsAfter (allow : AllowList) (word : String) (entries : Json)
    (kind : ColumnType) : Bool :=
  (literalsAfter? allow word entries kind).isSome

def Call.perform (read : DoubleReader) (allow : AllowList) : Call → Logged Answer
  | renderFilter node =>
      (GuardedSql.renderFilter allow node).map fun result => .sql (result.mapError .rejected)
  | renderRequest request =>
      (GuardedSql.renderRequest allow request).map fun result =>
        .sql (result.mapError .rejected)
  | renderFilterText text => (GuardedSql.renderFilterText read allow text).map .sql
  | renderRequestText text => (GuardedSql.renderRequestText read allow text).map .sql
  | checkFilter node => .silent (.filter (Filter.check allow node))
  | checkItem item => .silent (.item (Item.check allow item))
  | checkOperand operand kind => .silent (.operand (Operand.check? allow kind operand))
  | checkAggregate operand kind => .silent (.operand (Operand.checkAggregate? allow kind operand))
  | checkList word entries kind => .silent (.literals (literalsAfter? allow word entries kind))
  | checkComparison column comparison =>
      .silent (.filter (Filter.checkComparison allow column comparison))
  | lookUpColumn name => .silent (.columnType (allow.typeOfColumn? name))
  | acceptsOperand operand kind => .silent (.verdict (Operand.accepts allow kind operand))
  | acceptsAggregate operand kind =>
      .silent (.verdict (Operand.acceptsAggregate allow kind operand))
  | acceptsList word entries kind =>
      .silent (.verdict (acceptsLiteralsAfter allow word entries kind))
  | acceptsComparison column comparison =>
      .silent (.verdict (Filter.acceptsComparison allow column comparison))
  | hasColumn name => .silent (.verdict (allow.hasColumn name))

def performAll (read : DoubleReader) (allow : AllowList) : List Call → Logged (List Answer)
  | [] => .silent []
  | call :: rest =>
      let first := call.perform read allow
      let others := performAll read allow rest
      { value := first.value :: others.value
        events := first.events ++ others.events }

end GuardedSql
