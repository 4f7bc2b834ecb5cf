set_option autoImplicit false

/-!
Why there is no result.

A filter or a request is rejected for a cause that names the part of the input that it is about. The
wording is in `Rejection.message` and nowhere else. Beside values that are rejected there are files
that cannot be read and texts that are no document of the expected form: `Failure`.
-/

namespace GuardedSql

inductive Rejection where
  | emptyCondition
  /-- A condition that is no object, or whose only name is no word and no column. -/
  | unknownCondition (text : String)
  /-- A condition or a comparison with several members. -/
  | severalMembers (names : List String)
  | conditionsNotListed (connective : String)
  | tooFewConditions
  /-- An operand that a column of the given type is not compared with. -/
  | operandMismatch (column expected : String)
  /-- A column followed by a word that is no comparator. -/
  | unknownComparator (word : String)
  /-- A comparator in the place of a column. -/
  | misplacedComparator (word : String)
  | missingField (field : String)
  | fieldMismatch (field expected : String)
  | unlistedQuery (query : String)
  | unlistedItem (item : String)
  | unlistedTable (table : String)
  | unlistedConnection (connection : String)
  | inFilter (cause : Rejection)
  deriving DecidableEq

def Rejection.message : Rejection → String
  | emptyCondition => "Nothing To Compute"
  | unknownCondition text => "Invalid Input - " ++ text
  | severalMembers names => "Ambiguous Input - " ++ String.intercalate ", " names
  | conditionsNotListed connective => "Bad " ++ connective ++ ", non list"
  | tooFewConditions => "Invalid boolean length, must be >= 2"
  | operandMismatch column expected => "Bad " ++ column ++ ", non " ++ expected
  | unknownComparator word => "Non Valid comparitor - " ++ word
  | misplacedComparator word => "Comparitor Error - " ++ word
  | missingField field => "Missing argument " ++ field
  | fieldMismatch field expected => field ++ " not right type, " ++ expected
  | unlistedQuery query => "Query not allowed - " ++ query
  | unlistedItem item => "Item not allowed - " ++ item
  | unlistedTable table => "Table not allowed - " ++ table
  | unlistedConnection connection => "Connection not allowed - " ++ connection
  | inFilter cause => "Logic Fail - " ++ cause.message

/-- Why a file has no text. Whatever keeps a file from being read counts like its absence. -/
inductive ReadFailure where
  | notFound
  | notText
  deriving DecidableEq

def ReadFailure.message : ReadFailure → String
  | notFound => "No such file or directory (os error 2)"
  | notText => "stream did not contain valid UTF-8"

def fileText (bytes : Option ByteArray) : Except ReadFailure String :=
  match bytes with
  | none => .error .notFound
  | some content =>
      match String.fromUTF8? content with
      | none => .error .notText
      | some text => .ok text

/-- Why there is no result: the input cannot be read, its text has not the expected form, or its
value is rejected. -/
inductive Failure where
  | unreadable (cause : ReadFailure)
  /-- The text is no document of the expected form. -/
  | malformed
  | rejected (reason : Rejection)
  deriving DecidableEq

/-- The wording of a failure. Of a text without the expected form only the kind of the failure is
worded; where the text first goes wrong, and how, is not part of it. -/
def Failure.message : Failure → String
  | unreadable cause => "IO error: " ++ cause.message
  | malformed => "JSON error"
  | rejected reason => reason.message

end GuardedSql
