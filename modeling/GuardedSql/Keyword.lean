set_option autoImplicit false

/-!
The words a filter may use besides names.

Connectives group conditions, comparators compare a column with one operand, list comparators
compare it with a list of literals, and aggregates call a function on one argument. Every word has
exactly one written form, its `token`; the only word with a second spelling in filters is "not
equal", which is read from `!=` as well as from `<>`.
-/

namespace GuardedSql

/-- A word that joins two or more conditions. -/
inductive Connective where
  | and
  | or
  deriving DecidableEq

namespace Connective

def token : Connective → String
  | and => "AND"
  | or => "OR"

def ofToken? (word : String) : Option Connective :=
  if word = "AND" then some and
  else if word = "OR" then some or
  else none

theorem ofToken?_token (connective : Connective) : ofToken? connective.token = some connective := by
  cases connective <;> rfl

end Connective

/-- A word that compares a column with one operand. -/
inductive Comparator where
  | equal
  | greater
  | less
  | atLeast
  | atMost
  | unequal
  deriving DecidableEq

namespace Comparator

def token : Comparator → String
  | equal => "="
  | greater => ">"
  | less => "<"
  | atLeast => ">="
  | atMost => "<="
  | unequal => "<>"

def ofToken? (word : String) : Option Comparator :=
  if word = "=" then some equal
  else if word = ">" then some greater
  else if word = "<" then some less
  else if word = ">=" then some atLeast
  else if word = "<=" then some atMost
  else if word = "<>" ∨ word = "!=" then some unequal
  else none

theorem ofToken?_token (comparator : Comparator) : ofToken? comparator.token = some comparator := by
  cases comparator <;> decide

end Comparator

/-- A word that compares a column with a list of literals. -/
inductive ListComparator where
  | between
  | within
  deriving DecidableEq

namespace ListComparator

def token : ListComparator → String
  | between => "BETWEEN"
  | within => "IN"

def ofToken? (word : String) : Option ListComparator :=
  if word = "BETWEEN" then some between
  else if word = "IN" then some within
  else none

/-- Whether a list of the given length may be compared: a range has two ends, and a choice has at
least one alternative. -/
def acceptsLength : ListComparator → Nat → Bool
  | between, length => length == 2
  | within, length => 1 ≤ length

theorem ofToken?_token (comparator : ListComparator) :
    ofToken? comparator.token = some comparator := by
  cases comparator <;> decide

end ListComparator

/-- A function that may be called on an item or on an operand. -/
inductive Aggregate where
  | min
  | max
  | sum
  | avg
  | count
  deriving DecidableEq

namespace Aggregate

def token : Aggregate → String
  | min => "MIN"
  | max => "MAX"
  | sum => "SUM"
  | avg => "AVG"
  | count => "COUNT"

def ofToken? (word : String) : Option Aggregate :=
  if word = "MIN" then some min
  else if word = "MAX" then some max
  else if word = "SUM" then some sum
  else if word = "AVG" then some avg
  else if word = "COUNT" then some count
  else none

/-- A call on an argument that is SQL text already. -/
def applyTo (aggregate : Aggregate) (argument : String) : String :=
  aggregate.token ++ "(" ++ argument ++ ")"

theorem ofToken?_token (aggregate : Aggregate) : ofToken? aggregate.token = some aggregate := by
  cases aggregate <;> decide

end Aggregate

def isAnyComparator (word : String) : Bool :=
  (Comparator.ofToken? word).isSome || (ListComparator.ofToken? word).isSome

end GuardedSql
