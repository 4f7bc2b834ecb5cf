import GuardedSql.Json.Document
import GuardedSql.NameMap

set_option autoImplicit false

/-!
Structured values, and their texts.

A number is either a whole number that fits one signed or one unsigned 64-bit word, or a finite
double; the two kinds stay apart even where their values agree. An object lists its members.
`Json.ofMembers` builds objects whose members are sorted by name and have distinct names, and
`Json.Sorted` says that a value is built of such objects throughout.

`Json.ofDocument?` is the value that a document stands for. A whole number of one signed or unsigned
word stays a whole number; how a double is read from any other number, and from a negative zero,
which no whole number can express, is left to a reader. Numbers that this reader does not take and
strings without content have no value, and neither has a document around them. Members of an object
are sorted by name, and the last of several members with one name counts. `Json.ofText?` reads a
text and also limits how deep brackets may nest.

`Json.compact` writes a value without blanks and `Json.pretty` writes one element or member per line
with an indentation of two spaces. Both keep the members of an object in the order they have. In a
string only the quotation mark, the backslash and the control characters below the space are
escaped. A double is written with the fewest digits that round to it: positionally if its first
digit stands for a power of ten from -5 to 15, and with an exponent otherwise.
-/

namespace GuardedSql

/-- A whole number of one word, or a finite double. -/
inductive Number where
  | integer (value : Int) (fits : -0x8000000000000000 ≤ value ∧ value < 0x10000000000000000)
  | float (value : Binary64)
  deriving DecidableEq

def Number.toInt64? : Number → Option Int64
  | .integer value _ => if value < 0x8000000000000000 then some (Int64.ofInt value) else none
  | .float _ => none

inductive Json where
  | null
  | bool (value : Bool)
  | number (value : Number)
  | string (text : String)
  | array (elements : List Json)
  | object (members : List (String × Json))

namespace Json

instance : Inhabited Json := ⟨null⟩

/-- The object with the given members, sorted by name. Of several members with one name the last
one counts. -/
def ofMembers (members : List (String × Json)) : Json :=
  object (NameMap.ofList members).entries

def ofInt (value : Int) (fits : -0x8000000000000000 ≤ value ∧ value < 0x10000000000000000) :
    Json :=
  number (.integer value fits)

mutual

/-- Every object within the value lists its members in strictly increasing order of name. -/
def Sorted : Json → Prop
  | array elements => SortedElements elements
  | object members => Ascending members ∧ SortedMembers members
  | _ => True

def SortedElements : List Json → Prop
  | [] => True
  | element :: rest => Sorted element ∧ SortedElements rest

def SortedMembers : List (String × Json) → Prop
  | [] => True
  | member :: rest => Sorted member.2 ∧ SortedMembers rest

end

end Json

/-- The number that a literal stands for, with a reader for those that become doubles. -/
def Number.ofLiteral? (read : DoubleReader) (literal : Literal) : Option Number :=
  let size : Int := literal.digits
  let value := if literal.negative then -size else size
  let negativeZero := literal.negative && literal.digits == 0
  if fits : (literal.whole && !negativeZero) = true ∧
      (-0x8000000000000000 ≤ value ∧ value < 0x10000000000000000) then
    some (.integer value fits.2)
  else
    (read literal).map .float

namespace Json

mutual

def ofDocument? (read : DoubleReader) : Document → Option Json
  | .null => some .null
  | .bool value => some (.bool value)
  | .number literal => (Number.ofLiteral? read literal).map .number
  | .string content => content.map .string
  | .array elements => (ofElements? read elements).map .array
  | .object members => (ofMembers? read members).map ofMembers

def ofElements? (read : DoubleReader) : List Document → Option (List Json)
  | [] => some []
  | element :: rest =>
      match ofDocument? read element with
      | none => none
      | some value => (ofElements? read rest).map (value :: ·)

def ofMembers? (read : DoubleReader) :
    List (Option String × Document) → Option (List (String × Json))
  | [] => some []
  | (none, _) :: _ => none
  | (some name, element) :: rest =>
      match ofDocument? read element with
      | none => none
      | some value => (ofMembers? read rest).map ((name, value) :: ·)

end

/-- At most so many brackets may be open in the text of a value. -/
def nestingLimit : Nat := 127

def ofText? (read : DoubleReader) (text : String) : Option Json :=
  match Document.ofText? text with
  | none => none
  | some document =>
      if document.nestsWithin nestingLimit then ofDocument? read document else none

end Json

def Binary64.text (number : Binary64) : String :=
  let sign := if number.negative then ['-'] else []
  if number.magnitude = 0 then
    String.ofList (sign ++ ['0', '.', '0'])
  else
    let decimal := number.shortest
    if -5 ≤ decimal.leadingExponent ∧ decimal.leadingExponent ≤ 15 then
      String.ofList (sign ++ decimal.positional)
    else
      String.ofList (sign ++ decimal.scientific)

/-- The decimal digits of a whole number, after a minus sign if it is negative. -/
def integerText (value : Int) : String :=
  String.ofList ((if value < 0 then ['-'] else []) ++ Nat.toDigits 10 value.natAbs)

def Number.text : Number → String
  | .integer value _ => integerText value
  | .float value => value.text

namespace Json

def hexDigit (digit : Nat) : Char :=
  if digit < 10 then Char.ofNat ('0'.toNat + digit) else Char.ofNat ('a'.toNat + digit - 10)

def escape (character : Char) : List Char :=
  if character = '"' then
    ['\\', '"']
  else if character = '\\' then
    ['\\', '\\']
  else if character = '\x08' then
    ['\\', 'b']
  else if character = '\x0c' then
    ['\\', 'f']
  else if character = '\n' then
    ['\\', 'n']
  else if character = '\r' then
    ['\\', 'r']
  else if character = '\t' then
    ['\\', 't']
  else if character.toNat < 0x20 then
    ['\\', 'u', '0', '0', hexDigit (character.toNat / 16), hexDigit (character.toNat % 16)]
  else
    [character]

def quoted (text : String) : String :=
  String.ofList ('"' :: (text.toList.flatMap escape ++ ['"']))

mutual

def compact : Json → String
  | null => "null"
  | bool value => if value then "true" else "false"
  | number value => value.text
  | string text => quoted text
  | array elements => "[" ++ String.intercalate "," (compactElements elements) ++ "]"
  | object members => "\x7b" ++ String.intercalate "," (compactMembers members) ++ "\x7d"

def compactElements : List Json → List String
  | [] => []
  | element :: rest => compact element :: compactElements rest

def compactMembers : List (String × Json) → List String
  | [] => []
  | (name, value) :: rest => (quoted name ++ ":" ++ compact value) :: compactMembers rest

end

/-- The lines of a bracketed list: each item on a line of its own, one level deeper than the
brackets; an empty list has no lines inside. -/
def bracketed (opening closing : String) (depth : Nat) (items : List String) : String :=
  let indentation (level : Nat) := "\n" ++ String.ofList (List.replicate (2 * level) ' ')
  if items.isEmpty then
    opening ++ closing
  else
    opening ++ indentation (depth + 1) ++
      String.intercalate ("," ++ indentation (depth + 1)) items ++ indentation depth ++ closing

mutual

/-- The text of a value, one element or member per line, as it stands at the given depth. -/
def prettyAt (depth : Nat) : Json → String
  | null => "null"
  | bool value => if value then "true" else "false"
  | number value => value.text
  | string text => quoted text
  | array elements => bracketed "[" "]" depth (prettyElements (depth + 1) elements)
  | object members => bracketed "\x7b" "\x7d" depth (prettyMembers (depth + 1) members)

def prettyElements (depth : Nat) : List Json → List String
  | [] => []
  | element :: rest => prettyAt depth element :: prettyElements depth rest

def prettyMembers (depth : Nat) : List (String × Json) → List String
  | [] => []
  | (name, value) :: rest =>
      (quoted name ++ ": " ++ prettyAt depth value) :: prettyMembers depth rest

end

def pretty (value : Json) : String :=
  prettyAt 0 value

end Json

end GuardedSql
