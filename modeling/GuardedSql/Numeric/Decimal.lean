import GuardedSql.Numeric.Binary64

set_option autoImplicit false

/-!
Decimal numbers as digits and a power of ten: how they are written, which of them stands for a
double, and how a double is read from one.

`Decimal.positional` spells the digits out around a point, which is always written.
`Decimal.scientific` writes one digit before the point, which is left out when nothing follows it,
and always writes the sign of the exponent. Which of the two is used, and where it ends, is left to
the format that writes the number.

`Binary64.shortest` is the decimal number with the fewest digits that rounds to a double. For one
digit, then two, and so on up to seventeen, the two neighbours of the exact value among the numbers
with so many digits are tried, the nearer one first and of two equally near ones the even one. The
first that rounds back to the double is taken. Seventeen digits are enough for every double; the
exact value stands behind the search, so the result rounds back by construction.

A `DoubleReader` reads a double from the literal in a text. `DoubleReader.nearest` rounds once.
`DoubleReader.stepwise` rounds more than once and so may miss the nearest double in its last place:
it keeps the leading digits that fit one word and multiplies or divides them by a power of ten that
is a double itself.
-/

namespace GuardedSql

/-- The number `digits * 10 ^ exponent`. -/
structure Decimal where
  digits : Nat
  exponent : Int
  deriving DecidableEq

namespace Decimal

/-- The same number without trailing zeros among its digits. -/
def trimmed (number : Decimal) : Decimal :=
  if 0 < number.digits ∧ number.digits % 10 = 0 then
    trimmed ⟨number.digits / 10, number.exponent + 1⟩
  else
    number
  termination_by number.digits
  decreasing_by
    rename_i trailing
    exact Nat.div_lt_self trailing.1 (by decide)

def digitChars (number : Decimal) : List Char :=
  Nat.toDigits 10 number.digits

def leadingExponent (number : Decimal) : Int :=
  number.exponent + (number.digitChars.length : Int) - 1

/-- The digits around a point, with zeros where the digits do not reach it. -/
def positional (number : Decimal) : List Char :=
  if 0 ≤ number.exponent then
    number.digitChars ++ List.replicate number.exponent.toNat '0' ++ ['.', '0']
  else if 0 ≤ number.leadingExponent then
    let before := number.leadingExponent.toNat + 1
    number.digitChars.take before ++ '.' :: number.digitChars.drop before
  else
    '0' :: '.' :: List.replicate (-number.leadingExponent - 1).toNat '0' ++ number.digitChars

/-- One digit, the others after a point if there are any, and a signed exponent. -/
def scientific (number : Decimal) : List Char :=
  let mantissa :=
    match number.digitChars with
    | [] => []
    | [first] => [first]
    | first :: others => first :: '.' :: others
  let sign := if number.leadingExponent < 0 then '-' else '+'
  mantissa ++ 'e' :: sign :: Nat.toDigits 10 number.leadingExponent.natAbs

end Decimal

namespace Binary64

def exactDecimal (number : Binary64) : Decimal where
  digits := number.units * Nat.pow 5 1074
  exponent := -1074

/-- The two neighbours of a number on the grid that drops so many of its last digits, the nearer one
first. -/
def neighbours (exact : Decimal) (dropped : Nat) : List Decimal :=
  let step := Nat.pow 10 dropped
  let lower := exact.digits / step
  let doubled := 2 * (exact.digits % step)
  let lowerFirst := doubled < step ∨ (doubled = step ∧ lower % 2 = 0)
  let exponent := exact.exponent + dropped
  let below := (Decimal.mk lower exponent).trimmed
  let above := (Decimal.mk (lower + 1) exponent).trimmed
  if lowerFirst then [below, above] else [above, below]

/-- Whether a decimal number rounds to a double, apart from its sign. -/
def roundsBack (number : Binary64) (decimal : Decimal) : Bool :=
  ofDecimal? number.negative decimal.digits decimal.exponent == some number

/-- The first neighbour that rounds to a double, on the grids with one digit up to seventeen. -/
def shortest? (number : Binary64) : Option Decimal :=
  let exact := number.exactDecimal
  let length := exact.digitChars.length
  (List.range 17).findSome? fun count =>
    (neighbours exact (length - (count + 1))).find? (roundsBack number)

/-- The decimal number with the fewest digits that rounds to the double, without its sign. -/
def shortest (number : Binary64) : Decimal :=
  number.shortest?.getD number.exactDecimal

end Binary64

/-- A number as written: a sign, all digits before the exponent part as one whole number, how many
of them stand behind the point, the power of ten of the exponent part, and whether there is neither
a point nor an exponent part. -/
structure Literal where
  negative : Bool
  digits : Nat
  places : Nat
  power : Int
  whole : Bool
  deriving DecidableEq

/-- The power of ten that all the digits are multiplied with. -/
def Literal.exponent (literal : Literal) : Int :=
  literal.power - literal.places

/-- How a double is read from a literal that is no whole number of one word. -/
abbrev DoubleReader := Literal → Option Binary64

namespace DoubleReader

/-- Rounds the number once, to the nearest double. -/
def nearest : DoubleReader := fun literal =>
  Binary64.ofDecimal? literal.negative literal.digits literal.exponent

/-- The leading digits of a number, as many as fit one word, and how many digits follow them. -/
def leadingWord (number : Nat) : Nat × Nat :=
  if number < 0x10000000000000000 then
    (number, 0)
  else
    let (leading, dropped) := leadingWord (number / 10)
    (leading, dropped + 1)
  termination_by number

/-- The word that is kept of the digits of a literal, with its power of ten. The digits before the
point are cut to one word first; if there is still room in the word, those behind the point follow
the ones that are left. -/
def significand (literal : Literal) : Nat × Int :=
  let scale := Nat.pow 10 literal.places
  let (before, droppedBefore) := leadingWord (literal.digits / scale)
  let (leading, droppedBehind) := leadingWord (before * scale + literal.digits % scale)
  (leading, literal.exponent + droppedBefore + droppedBehind)

/-- The largest exponent of a power of ten that is a double. -/
def tenLimit : Nat := 308

def magnitudeOfTen (exponent : Nat) : Nat :=
  Binary64.magnitudeOfRatio (Nat.pow 10 exponent) 1

/-- Divides by the largest power of ten so many times, or until nothing is left. -/
def divideByLargest (magnitude : Nat) : Nat → Nat
  | 0 => magnitude
  | count + 1 =>
      if magnitude = 0 then
        0
      else
        divideByLargest (Binary64.magnitudeOfQuotient magnitude (magnitudeOfTen tenLimit)) count

/-- The magnitude divided by a power of ten with a positive exponent. -/
def divideByTen (magnitude exponent : Nat) : Nat :=
  let count := (exponent - 1) / tenLimit
  Binary64.magnitudeOfQuotient (divideByLargest magnitude count)
    (magnitudeOfTen (exponent - tenLimit * count))

/-- Rounds the leading digits, the power of ten, and the product or the quotient of the two. -/
def stepwise : DoubleReader := fun literal =>
  let (leading, exponent) := significand literal
  let rounded := Binary64.magnitudeOfRatio leading 1
  if leading = 0 then
    some (.zero literal.negative)
  else if exponent < 0 then
    Binary64.ofMagnitude? literal.negative (divideByTen rounded exponent.natAbs)
  else if exponent ≤ tenLimit then
    Binary64.ofMagnitude? literal.negative
      (Binary64.magnitudeOfProduct rounded (magnitudeOfTen exponent.toNat))
  else
    none

end DoubleReader

end GuardedSql
