import GuardedSql.Numeric.Decimal

set_option autoImplicit false

/-!
Documents: the syntax trees of texts, and how they are read.

A document keeps what the text says and decides nothing: members stay in their order with their
repetitions, a number keeps its digits and its power of ten, and a string whose escapes contain an
unpaired surrogate is kept as a string without content. What a document means is for its readers to
decide, and they differ: a value has limits on numbers, strings and depth that a skipped part of a
configuration does not have.

A text is read by a machine that takes one character at a time and keeps the open brackets on a
stack, so its depth is limited by nothing but its length. The grammar is the strict one: no blanks
but space, tab, line feed and carriage return, no control characters in strings, no leading zeros,
nothing after the document but blanks. `Document.run` is the machine over a list of characters and
`Document.ofText?` is the whole reader.
-/

namespace GuardedSql

/-- The syntax tree of a text. A string without content has an unpaired surrogate in it. -/
inductive Document where
  | null
  | bool (value : Bool)
  | number (literal : Literal)
  | string (content : Option String)
  | array (elements : List Document)
  | object (members : List (Option String × Document))

namespace Document

instance : Inhabited Document := ⟨null⟩

mutual

/-- Whether at most `limit` brackets are open at any place of the document. -/
def nestsWithin (limit : Nat) : Document → Bool
  | array elements => 0 < limit && elementsNestWithin (limit - 1) elements
  | object members => 0 < limit && membersNestWithin (limit - 1) members
  | _ => true

def elementsNestWithin (limit : Nat) : List Document → Bool
  | [] => true
  | element :: rest => nestsWithin limit element && elementsNestWithin limit rest

def membersNestWithin (limit : Nat) : List (Option String × Document) → Bool
  | [] => true
  | (_, value) :: rest => nestsWithin limit value && membersNestWithin limit rest

end

/-- A character of a string: a scalar value, or half of a pair of surrogates, given by its offset
from the first surrogate of its kind. -/
inductive TextUnit where
  | scalar (value : Char)
  | leading (offset : Nat)
  | trailing (offset : Nat)
  deriving DecidableEq

/-- The unit that an escape of four hexadecimal digits stands for. -/
def TextUnit.ofCode (code : Nat) : TextUnit :=
  if 0xD800 ≤ code ∧ code < 0xDC00 then
    .leading (code - 0xD800)
  else if 0xDC00 ≤ code ∧ code < 0xE000 then
    .trailing (code - 0xDC00)
  else
    .scalar (Char.ofNat code)

/-- The characters of a list of units, last unit first, put before `joined`. Two halves of a pair
make one character; a half without its partner makes the string unreadable. -/
def joinUnits : List TextUnit → List Char → Option (List Char)
  | [], joined => some joined
  | .scalar value :: before, joined => joinUnits before (value :: joined)
  | .trailing low :: .leading high :: before, joined =>
      joinUnits before (Char.ofNat (0x10000 + 0x400 * high + low) :: joined)
  | _, _ => none

def hexValue? (character : Char) : Option Nat :=
  if '0' ≤ character ∧ character ≤ '9' then
    some (character.toNat - '0'.toNat)
  else if 'a' ≤ character ∧ character ≤ 'f' then
    some (character.toNat - 'a'.toNat + 10)
  else if 'A' ≤ character ∧ character ≤ 'F' then
    some (character.toNat - 'A'.toNat + 10)
  else
    none

def escaped? (character : Char) : Option Char :=
  if character = '"' ∨ character = '\\' ∨ character = '/' then
    some character
  else if character = 'b' then
    some '\x08'
  else if character = 'f' then
    some '\x0c'
  else if character = 'n' then
    some '\n'
  else if character = 'r' then
    some '\r'
  else if character = 't' then
    some '\t'
  else
    none

inductive Escape where
  | absent
  | opened
  /-- Some hexadecimal digits are still missing; the others have the given value. -/
  | hexadecimal (missing : Nat) (code : Nat)
  deriving DecidableEq

/-- A string that is being read: its units so far, last first, and the open escape. -/
structure OpenString where
  units : List TextUnit
  escape : Escape
  deriving DecidableEq

namespace OpenString

def start : OpenString where
  units := []
  escape := .absent

def content? (text : OpenString) : Option String :=
  (joinUnits text.units []).map String.ofList

/-- Whether the next character, if it is a quotation mark, ends the string. -/
def mayEnd (text : OpenString) : Bool :=
  text.escape = .absent

def next? (text : OpenString) (character : Char) : Option OpenString :=
  match text.escape with
  | .absent =>
      if character = '\\' then
        some ⟨text.units, .opened⟩
      else if character.toNat < 0x20 then
        none
      else
        some ⟨.scalar character :: text.units, .absent⟩
  | .opened =>
      if character = 'u' then
        some ⟨text.units, .hexadecimal 4 0⟩
      else
        (escaped? character).map fun value => ⟨.scalar value :: text.units, .absent⟩
  | .hexadecimal missing code =>
      (hexValue? character).map fun digit =>
        if missing ≤ 1 then
          ⟨TextUnit.ofCode (16 * code + digit) :: text.units, .absent⟩
        else
          ⟨text.units, .hexadecimal (missing - 1) (16 * code + digit)⟩

end OpenString

inductive NumeralPart where
  | minus
  | zero
  | whole
  | point
  | fraction
  | mark
  | sign
  | power
  deriving DecidableEq

/-- A number that is being read. `places` counts the digits after the point, and `power` is the
size of the exponent, which is negative if `below` holds. -/
structure Numeral where
  part : NumeralPart
  negative : Bool
  digits : Nat
  places : Nat
  below : Bool
  power : Nat
  deriving DecidableEq

namespace Numeral

def digitValue (character : Char) : Nat :=
  character.toNat - '0'.toNat

def afterMinus : Numeral where
  part := .minus
  negative := true
  digits := 0
  places := 0
  below := false
  power := 0

/-- The first digit of a number. After a zero no further digit may stand before the point. -/
def firstDigit? (numeral : Numeral) (character : Char) : Option Numeral :=
  if character = '0' then
    some { numeral with part := .zero }
  else if character.isDigit then
    some { numeral with part := .whole, digits := digitValue character }
  else
    none

def fractionDigit? (numeral : Numeral) (character : Char) : Option Numeral :=
  if character.isDigit then
    some { numeral with
      part := .fraction
      digits := 10 * numeral.digits + digitValue character
      places := numeral.places + 1 }
  else
    none

def powerDigit? (numeral : Numeral) (character : Char) : Option Numeral :=
  if character.isDigit then
    some { numeral with part := .power, power := 10 * numeral.power + digitValue character }
  else
    none

def mark? (numeral : Numeral) (character : Char) : Option Numeral :=
  if character = 'e' ∨ character = 'E' then
    some { numeral with part := .mark }
  else
    none

def pointOrMark? (numeral : Numeral) (character : Char) : Option Numeral :=
  if character = '.' then
    some { numeral with part := .point }
  else
    numeral.mark? character

def next? (numeral : Numeral) (character : Char) : Option Numeral :=
  match numeral.part with
  | .minus => numeral.firstDigit? character
  | .zero => numeral.pointOrMark? character
  | .whole =>
      if character.isDigit then
        some { numeral with digits := 10 * numeral.digits + digitValue character }
      else
        numeral.pointOrMark? character
  | .point => numeral.fractionDigit? character
  | .fraction =>
      match numeral.fractionDigit? character with
      | some longer => some longer
      | none => numeral.mark? character
  | .mark =>
      if character = '+' then
        some { numeral with part := .sign }
      else if character = '-' then
        some { numeral with part := .sign, below := true }
      else
        numeral.powerDigit? character
  | .sign => numeral.powerDigit? character
  | .power => numeral.powerDigit? character

def literal? (numeral : Numeral) : Option Literal :=
  let power : Int := if numeral.below then -(numeral.power : Int) else numeral.power
  match numeral.part with
  | .zero => some ⟨numeral.negative, numeral.digits, numeral.places, power, true⟩
  | .whole => some ⟨numeral.negative, numeral.digits, numeral.places, power, true⟩
  | .fraction => some ⟨numeral.negative, numeral.digits, numeral.places, power, false⟩
  | .power => some ⟨numeral.negative, numeral.digits, numeral.places, power, false⟩
  | _ => none

end Numeral

abbrev Members := List (Option String × Document)

/-- A bracket that is still open while a value inside it is read, with what came before that
value, last first. -/
inductive Frame where
  | array (before : List Document)
  | object (before : Members) (name : Option String)

/-- What the machine reads at present. -/
inductive Mode where
  | value
  /-- An array has been opened: its first element has to start, or it ends. -/
  | element
  /-- A member has to start; the object may end instead if it has only been opened. -/
  | member (before : Members) (opened : Bool)
  /-- The name of a member has been read, and its colon has to follow. -/
  | colon (before : Members) (name : Option String)
  | name (before : Members) (text : OpenString)
  | string (text : OpenString)
  | numeral (numeral : Numeral)
  /-- Inside one of the three words, of which some characters are missing. -/
  | word (missing : List Char) (value : Document)
  | complete (value : Document)

/-- A state of the machine: the open brackets, innermost first, and the present mode. -/
structure State where
  stack : List Frame
  mode : Mode

def State.start : State where
  stack := []
  mode := .value

def isBlank (character : Char) : Bool :=
  character = ' ' || character = '\t' || character = '\n' || character = '\r'

def openValue? (stack : List Frame) (character : Char) : Option State :=
  if character = '{' then
    some ⟨stack, .member [] true⟩
  else if character = '[' then
    some ⟨.array [] :: stack, .element⟩
  else if character = '"' then
    some ⟨stack, .string .start⟩
  else if character = 'n' then
    some ⟨stack, .word ['u', 'l', 'l'] .null⟩
  else if character = 't' then
    some ⟨stack, .word ['r', 'u', 'e'] (.bool true)⟩
  else if character = 'f' then
    some ⟨stack, .word ['a', 'l', 's', 'e'] (.bool false)⟩
  else if character = '-' then
    some ⟨stack, .numeral .afterMinus⟩
  else
    ({ Numeral.afterMinus with negative := false }.firstDigit? character).map fun numeral =>
      ⟨stack, .numeral numeral⟩

def closeObject (outer : List Frame) (members : Members) : State :=
  ⟨outer, .complete (.object members.reverse)⟩

def afterValue? (stack : List Frame) (value : Document) (character : Char) : Option State :=
  if isBlank character then
    some ⟨stack, .complete value⟩
  else
    match stack with
    | [] => none
    | .array before :: outer =>
        if character = ',' then
          some ⟨.array (value :: before) :: outer, .value⟩
        else if character = ']' then
          some ⟨outer, .complete (.array (value :: before).reverse)⟩
        else
          none
    | .object before name :: outer =>
        if character = ',' then
          some ⟨outer, .member ((name, value) :: before) false⟩
        else if character = '}' then
          some (closeObject outer ((name, value) :: before))
        else
          none

def State.next? (state : State) (character : Char) : Option State :=
  match state.mode with
  | .value =>
      if isBlank character then some state else openValue? state.stack character
  | .element =>
      if isBlank character then
        some state
      else if character = ']' then
        some ⟨state.stack.tail, .complete (.array [])⟩
      else
        openValue? state.stack character
  | .member before opened =>
      if isBlank character then
        some state
      else if character = '"' then
        some ⟨state.stack, .name before .start⟩
      else if opened ∧ character = '}' then
        some (closeObject state.stack before)
      else
        none
  | .colon before name =>
      if isBlank character then
        some state
      else if character = ':' then
        some ⟨.object before name :: state.stack, .value⟩
      else
        none
  | .name before text =>
      if text.mayEnd ∧ character = '"' then
        some ⟨state.stack, .colon before text.content?⟩
      else
        (text.next? character).map fun longer => ⟨state.stack, .name before longer⟩
  | .string text =>
      if text.mayEnd ∧ character = '"' then
        some ⟨state.stack, .complete (.string text.content?)⟩
      else
        (text.next? character).map fun longer => ⟨state.stack, .string longer⟩
  | .numeral numeral =>
      match numeral.next? character with
      | some longer => some ⟨state.stack, .numeral longer⟩
      | none =>
          match numeral.literal? with
          | some literal => afterValue? state.stack (.number literal) character
          | none => none
  | .word missing value =>
      match missing with
      | [] => afterValue? state.stack value character
      | first :: others =>
          if character = first then some ⟨state.stack, .word others value⟩ else none
  | .complete value => afterValue? state.stack value character

def run (state : State) : List Char → Option State
  | [] => some state
  | character :: rest =>
      match state.next? character with
      | some next => run next rest
      | none => none

def State.document? (state : State) : Option Document :=
  match state.stack, state.mode with
  | [], .complete value => some value
  | [], .word [] value => some value
  | [], .numeral numeral => numeral.literal?.map .number
  | _, _ => none

def ofText? (text : String) : Option Document :=
  (run State.start text.toList).bind State.document?

theorem run_append (state : State) (first second : List Char) :
    run state (first ++ second) = (run state first).bind fun next => run next second := by
  induction first generalizing state with
  | nil => rfl
  | cons character rest inductionHypothesis =>
      rw [List.cons_append, run, run]
      cases state.next? character with
      | none => rfl
      | some next => exact inductionHypothesis next

end Document

end GuardedSql
