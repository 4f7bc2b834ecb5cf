import GuardedSql.AllowList
import GuardedSql.BoundSql
import GuardedSql.Keyword

set_option autoImplicit false

/-!
Filters: conditions on columns, their SQL text, and how they are checked against an allow-list.

A filter compares a column with an operand or with a list of literals, or joins two or more filters
by a connective. Rendering writes columns and words as they are and binds every literal as a
parameter, from left to right; groups are always parenthesised, comparisons never.

A filter arrives as a value whose objects have one member each. The name of a member is a
connective with a list of filters, or a listed column with a comparison; a connective is never read
as a column, even if a column of that name is listed. A comparison is an object with one member too:
a comparator and what the column is compared with. A string that names a listed column is that
column wherever one operand is expected, and the text of its name in a list of literals. Every other
literal has to be of the type of the compared column.

`Filter.check` gives the filter or the first cause for which it is rejected: a condition is judged
before the conditions inside it, and those are judged from left to right.
-/

namespace GuardedSql

/-- A literal that is bound, or a column that is written. -/
inductive Term where
  | value (parameter : Parameter)
  | column (name : String)
  deriving DecidableEq

/-- What a column is compared with: a term, or an aggregate of a term. -/
inductive Operand where
  | term (argument : Term)
  | aggregate (function : Aggregate) (argument : Term)
  deriving DecidableEq

inductive Filter where
  | group (connective : Connective) (children : List Filter)
  | compare (column : String) (comparator : Comparator) (operand : Operand)
  | list (column : String) (comparator : ListComparator) (values : List Parameter)

def Term.render : Term → BoundSql
  | value parameter => BoundSql.bind parameter
  | column name => BoundSql.verbatim name

/-- The SQL of an operand; an aggregate is applied to the text of its argument. -/
def Operand.render : Operand → BoundSql
  | term argument => argument.render
  | aggregate function argument =>
      { sql := function.applyTo argument.render.sql
        params := argument.render.params }

/-- The SQL of a list of literals, as its comparator expects it: the ends of a range with `AND`
between them, or the alternatives between parentheses. -/
def ListComparator.renderValues (comparator : ListComparator) (values : List Parameter) :
    BoundSql :=
  match comparator with
  | between => BoundSql.joinWith " AND " (values.map BoundSql.bind)
  | within => (BoundSql.joinWith "," (values.map BoundSql.bind)).parenthesized

namespace Filter

mutual

def render : Filter → BoundSql
  | group connective children =>
      (BoundSql.joinWith (" " ++ connective.token ++ " ") (renderAll children)).parenthesized
  | compare column comparator operand =>
      operand.render.after (column ++ " " ++ comparator.token)
  | list column comparator values =>
      (comparator.renderValues values).after (column ++ " " ++ comparator.token)

def renderAll : List Filter → List BoundSql
  | [] => []
  | child :: rest => render child :: renderAll rest

end

theorem renderAll_eq_map (children : List Filter) : renderAll children = children.map render := by
  induction children with
  | nil => simp [renderAll]
  | cons child rest inductionHypothesis => simp [renderAll, inductionHypothesis]

end Filter

/-- A value as it is named in a reason: strings without quotation marks, all else as its text. -/
def Json.display : Json → String
  | .string text => text
  | value => value.compact

def ColumnType.literal? (kind : ColumnType) (value : Json) : Option Parameter :=
  if kind.accepts value then Parameter.ofJson? value else none

def AllowList.columnNamed? (allow : AllowList) : Json → Option String
  | .string name => if allow.hasColumn name then some name else none
  | _ => none

/-- The term that a value stands for where literals of a type are expected. -/
def Term.check? (allow : AllowList) (kind : ColumnType) (value : Json) : Option Term :=
  match allow.columnNamed? value with
  | some name => some (.column name)
  | none => (kind.literal? value).map .value

def Operand.checkAggregate? (allow : AllowList) (kind : ColumnType) : Json → Option Operand
  | .object [(word, argument)] =>
      match Aggregate.ofToken? word with
      | none => none
      | some function => (Term.check? allow kind argument).map (.aggregate function)
  | _ => none

def Operand.check? (allow : AllowList) (kind : ColumnType) : Json → Option Operand
  | .object members => checkAggregate? allow kind (.object members)
  | value => (Term.check? allow kind value).map .term

/-- Whether a value is an aggregate that columns of a type may be compared with. -/
def Operand.acceptsAggregate (allow : AllowList) (kind : ColumnType) (value : Json) : Bool :=
  (checkAggregate? allow kind value).isSome

/-- Whether a value is an operand that columns of a type may be compared with. -/
def Operand.accepts (allow : AllowList) (kind : ColumnType) (value : Json) : Bool :=
  (check? allow kind value).isSome

/-- The literal that an entry of a list stands for. A listed column is bound by its name. -/
def AllowList.entry? (allow : AllowList) (kind : ColumnType) (value : Json) : Option Parameter :=
  match allow.columnNamed? value with
  | some name => some (.text name)
  | none => kind.literal? value

def ListComparator.check? (comparator : ListComparator) (allow : AllowList) (kind : ColumnType) :
    Json → Option (List Parameter)
  | .array entries =>
      if comparator.acceptsLength entries.length then
        entries.mapM (allow.entry? kind)
      else
        none
  | _ => none

namespace Filter

/-- The condition on a column of a type that a comparator and its operand make. The comparator is
judged before the operand. -/
def checkMember (allow : AllowList) (column : String) (kind : ColumnType) (word : String)
    (operand : Json) : Except Rejection Filter :=
  let mismatch := Rejection.operandMismatch column kind.name
  match Comparator.ofToken? word with
  | some comparator =>
      match Operand.check? allow kind operand with
      | some checked => .ok (.compare column comparator checked)
      | none => .error mismatch
  | none =>
      match ListComparator.ofToken? word with
      | some comparator =>
          match comparator.check? allow kind operand with
          | some values => .ok (.list column comparator values)
          | none => .error mismatch
      | none => .error (.unknownComparator word)

def checkComparison (allow : AllowList) (column : String) (comparison : Json) :
    Except Rejection Filter :=
  match allow.typeOfColumn? column with
  | none => .error (.unknownCondition column)
  | some kind =>
      match comparison with
      | .object [(word, operand)] => checkMember allow column kind word operand
      | .object (first :: second :: others) =>
          .error (.severalMembers ((first :: second :: others).map Prod.fst))
      | _ => .error (.operandMismatch column kind.name)

/-- Whether a value is a comparison that a column may have. -/
def acceptsComparison (allow : AllowList) (column : String) (comparison : Json) : Bool :=
  (checkComparison allow column comparison).isOk

mutual

/-- The filter that a value describes, or the first cause for which it is rejected. -/
def check (allow : AllowList) : Json → Except Rejection Filter
  | .object [] => .error .emptyCondition
  | .object [(name, body)] =>
      match Connective.ofToken? name with
      | some connective =>
          match body with
          | .array children =>
              if children.length < 2 then
                .error .tooFewConditions
              else
                match checkAll allow children with
                | .ok filters => .ok (.group connective filters)
                | .error cause => .error cause
          | _ => .error (.conditionsNotListed name)
      | none =>
          if allow.hasColumn name then
            checkComparison allow name body
          else if isAnyComparator name then
            .error (.misplacedComparator name)
          else
            .error (.unknownCondition name)
  | .object (first :: second :: others) =>
      .error (.severalMembers ((first :: second :: others).map Prod.fst))
  | value => .error (.unknownCondition value.display)

def checkAll (allow : AllowList) : List Json → Except Rejection (List Filter)
  | [] => .ok []
  | value :: rest =>
      match check allow value with
      | .error cause => .error cause
      | .ok filter =>
          match checkAll allow rest with
          | .error cause => .error cause
          | .ok filters => .ok (filter :: filters)

end

def sqlOf (allow : AllowList) (value : Json) : Except Rejection BoundSql :=
  (check allow value).map render

end Filter

end GuardedSql
