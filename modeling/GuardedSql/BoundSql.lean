import GuardedSql.Json

set_option autoImplicit false

/-!
SQL text together with the parameters bound in it.

Parameters are the literals that are bound to a statement instead of being written into it. Every
scalar value is one; arrays and objects are not. A whole number that fits a signed word keeps its
value, and one beyond is bound as the nearest double.

The parameters of a text are listed in the order of their placeholders. Each operation extends the
text and keeps the parameters of its parts, in order; only `BoundSql.bind` adds one, and it adds one
placeholder with it.

Bound SQL may also be built on a stack. A step pushes a new text, joins the topmost ones, or changes
the one on top. On an empty stack the steps that change the top act on the empty text. The stack
lists its top first.
-/

namespace GuardedSql

/-- A literal that is bound to a statement. Doubles need not be finite. -/
inductive Parameter where
  | null
  | bool (value : Bool)
  | integer (value : Int64)
  | float (value : Double)
  | text (value : String)
  deriving DecidableEq

namespace Parameter

instance : Inhabited Parameter := ⟨null⟩

theorem toNat_lt_of_fits {value : Int}
    (fits : -0x8000000000000000 ≤ value ∧ value < 0x10000000000000000) :
    value.toNat < 0x10000000000000000 := by
  omega

def ofNumber : Number → Parameter
  | .integer value fits =>
      if value < 0x8000000000000000 then
        integer (Int64.ofInt value)
      else
        float (Binary64.ofWord value.toNat (toNat_lt_of_fits fits)).toDouble
  | .float value => float value.toDouble

def ofJson? : Json → Option Parameter
  | .null => some null
  | .bool value => some (bool value)
  | .number value => some (ofNumber value)
  | .string value => some (text value)
  | .array _ => none
  | .object _ => none

def integerJson (value : Int64) : Json :=
  Json.ofInt value.toInt ⟨Int64.le_toInt value, by have := Int64.toInt_lt value; omega⟩

/-- The value that a double is written as. One that is not finite has no number. -/
def floatJson (value : Double) : Json :=
  match value.finite? with
  | some number => .number (.float number)
  | none => .null

/-- The scalar value that a parameter is written as. -/
def toJson : Parameter → Json
  | null => .null
  | bool value => .bool value
  | integer value => integerJson value
  | float value => floatJson value
  | text value => .string value

end Parameter

/-- SQL text and the parameters bound in it, from left to right. -/
structure BoundSql where
  sql : String
  params : List Parameter
  deriving DecidableEq

namespace BoundSql

def placeholder : Char := '?'

def empty : BoundSql where
  sql := ""
  params := []

instance : Inhabited BoundSql := ⟨empty⟩

/-- Text that binds nothing. The text has to be made of allowed names and fixed words. -/
def verbatim (text : String) : BoundSql where
  sql := text
  params := []

def bind (parameter : Parameter) : BoundSql where
  sql := String.singleton placeholder
  params := [parameter]

def joinWith (separator : String) (parts : List BoundSql) : BoundSql where
  sql := String.intercalate separator (parts.map sql)
  params := parts.flatMap params

@[simp]
theorem joinWith_nil (separator : String) : joinWith separator [] = empty := by
  simp only [joinWith, List.map_nil, String.intercalate_nil, List.flatMap_nil, empty]

@[simp]
theorem joinWith_singleton (separator : String) (part : BoundSql) :
    joinWith separator [part] = part := by
  simp only [joinWith, List.map_cons, List.map_nil, String.intercalate_singleton,
    List.flatMap_cons, List.flatMap_nil, List.append_nil]

theorem joinWith_cons_cons (separator : String) (part next : BoundSql) (others : List BoundSql) :
    joinWith separator (part :: next :: others) =
      ⟨part.sql ++ separator ++ (joinWith separator (next :: others)).sql,
        part.params ++ (joinWith separator (next :: others)).params⟩ := by
  simp only [joinWith, List.map_cons, String.intercalate_cons_cons, List.flatMap_cons]

def parenthesized (bound : BoundSql) : BoundSql where
  sql := "(" ++ bound.sql ++ ")"
  params := bound.params

def after (bound : BoundSql) (lead : String) : BoundSql where
  sql := lead ++ " " ++ bound.sql
  params := bound.params

/-- The number of placeholder characters in the text. A name may hold such a character too. -/
def placeholders (bound : BoundSql) : Nat :=
  bound.sql.toList.count placeholder

def paramsJson (bound : BoundSql) : Json :=
  .array (bound.params.map Parameter.toJson)

/-- An object with the text first and the parameters after it. -/
def toJson (bound : BoundSql) : Json :=
  .object [("sql", .string bound.sql), ("params", bound.paramsJson)]

/-- The same object with its members sorted by name. -/
def toSortedJson (bound : BoundSql) : Json :=
  Json.ofMembers [("sql", .string bound.sql), ("params", bound.paramsJson)]

inductive Step where
  | verbatim (text : String)
  | empty
  | bind (parameter : Parameter)
  /-- Replaces the topmost texts, so many of them or all, by their join. -/
  | join (count : Nat) (separator : String)
  | parenthesize
  /-- Puts another text and a space before the topmost one. -/
  | lead (text : String)
  /-- Takes the topmost text apart and puts it together again. -/
  | reassemble
  deriving DecidableEq

/-- Changes the topmost text; an empty stack acts as holding the empty text. -/
def changeTop (change : BoundSql → BoundSql) : List BoundSql → List BoundSql
  | [] => [change BoundSql.empty]
  | top :: below => change top :: below

def Step.apply (stack : List BoundSql) : Step → List BoundSql
  | verbatim text => BoundSql.verbatim text :: stack
  | empty => BoundSql.empty :: stack
  | bind parameter => BoundSql.bind parameter :: stack
  | join count separator =>
      joinWith separator (stack.take count).reverse :: stack.drop count
  | parenthesize => changeTop parenthesized stack
  | lead text => changeTop (fun bound => bound.after text) stack
  | reassemble => changeTop (fun bound => ⟨bound.sql, bound.params⟩) stack

def runSteps (steps : List Step) : List BoundSql :=
  steps.foldl Step.apply []

end BoundSql

end GuardedSql
