set_option autoImplicit false

/-!
Doubles in exact arithmetic.

A double is a sign and a magnitude: the exponent field and the fraction field of its word, read
together as one number. `Double` is any of them; `Binary64` is a finite one. Magnitudes are ordered
as the values they stand for, and the successor of a magnitude is the next larger double, which is
why rounding may carry from the fraction into the exponent without a case of its own. Every finite
value is a whole number of units of `2 ^ -1074`.

A quotient is rounded to the nearest double, and of two equally near ones to the even one; products
and quotients of doubles are such quotients. No runtime floating point operation is involved, so
every statement about these numbers is a statement about natural numbers.
-/

namespace GuardedSql

/-- The natural number nearest to a quotient, and of two equally near ones the even one. -/
def roundQuotient (numerator denominator : Nat) : Nat :=
  let quotient := numerator / denominator
  let doubled := 2 * (numerator % denominator)
  if doubled < denominator then
    quotient
  else if denominator < doubled then
    quotient + 1
  else
    quotient + quotient % 2

theorem roundQuotient_le (numerator denominator : Nat) :
    roundQuotient numerator denominator ≤ numerator / denominator + 1 := by
  simp only [roundQuotient]
  split
  · omega
  · split <;> omega

/-- Any double: a finite number, an infinity, or no number at all. -/
structure Double where
  negative : Bool
  /-- The word without its sign bit. -/
  magnitude : Nat
  fits : magnitude < 0x8000000000000000
  deriving DecidableEq

def Double.bits (double : Double) : Nat :=
  (if double.negative then 0x8000000000000000 else 0) + double.magnitude

/-- A finite double. -/
structure Binary64 where
  negative : Bool
  magnitude : Nat
  finite : magnitude < 0x7FF0000000000000
  deriving DecidableEq

namespace Binary64

theorem eq_of_parts_eq {first second : Binary64} (sameSign : first.negative = second.negative)
    (sameMagnitude : first.magnitude = second.magnitude) : first = second := by
  cases first
  cases second
  cases sameSign
  cases sameMagnitude
  rfl

def ofMagnitude? (negative : Bool) (magnitude : Nat) : Option Binary64 :=
  if finite : magnitude < 0x7FF0000000000000 then some ⟨negative, magnitude, finite⟩ else none

theorem ofMagnitude?_eq_some_iff {negative : Bool} {magnitude : Nat} {number : Binary64} :
    ofMagnitude? negative magnitude = some number ↔
      number.negative = negative ∧ number.magnitude = magnitude := by
  constructor
  · intro isNumber
    unfold ofMagnitude? at isNumber
    split at isNumber
    · cases isNumber
      exact ⟨rfl, rfl⟩
    · cases isNumber
  · rintro ⟨rfl, rfl⟩
    exact dif_pos number.finite

def toDouble (number : Binary64) : Double where
  negative := number.negative
  magnitude := number.magnitude
  fits := Nat.lt_trans number.finite (by decide)

theorem eq_of_toDouble_eq {first second : Binary64} (same : first.toDouble = second.toDouble) :
    first = second :=
  eq_of_parts_eq (congrArg Double.negative same) (congrArg Double.magnitude same)

def zero (negative : Bool) : Binary64 where
  negative := negative
  magnitude := 0
  finite := by decide

/-- The value of a magnitude in units of `2 ^ -1074`. -/
def unitsOf (magnitude : Nat) : Nat :=
  let exponent := magnitude / 0x10000000000000
  let fraction := magnitude % 0x10000000000000
  if exponent = 0 then
    fraction
  else
    (0x10000000000000 + fraction) <<< (exponent - 1)

def units (number : Binary64) : Nat :=
  unitsOf number.magnitude

/-- The magnitude nearest to a positive quotient, without an upper limit.

The value is first floored to units of `2 ^ -1074`; the position of its leading bit fixes how many
low bits lie beyond the 53 that a double keeps, and the value is rounded once at that place. -/
def magnitudeOfRatio (numerator denominator : Nat) : Nat :=
  let scaled := numerator <<< 1074
  let dropped := (scaled / denominator).log2 - 52
  dropped * 0x10000000000000 + roundQuotient scaled (denominator <<< dropped)

def ofRatio? (negative : Bool) (numerator denominator : Nat) : Option Binary64 :=
  ofMagnitude? negative (magnitudeOfRatio numerator denominator)

/-- The magnitude of the product of two doubles, without an upper limit. -/
def magnitudeOfProduct (first second : Nat) : Nat :=
  magnitudeOfRatio (unitsOf first * unitsOf second) (1 <<< 2148)

def magnitudeOfQuotient (first second : Nat) : Nat :=
  magnitudeOfRatio (unitsOf first) (unitsOf second)

/-- The double nearest to `digits * 10 ^ exponent`, unless that number is too large to have one.

The exponent is unbounded, so numbers that are plainly out of range are settled by the length of
their digits: at least `2 ^ 1024` is too large, and below `2 ^ -1075` is zero. -/
def ofDecimal? (negative : Bool) (digits : Nat) (exponent : Int) : Option Binary64 :=
  if digits = 0 then
    some (zero negative)
  else if 0 ≤ exponent ∧ 1024 ≤ (digits.log2 : Int) + 3 * exponent then
    none
  else if exponent < 0 ∧ (digits.log2 : Int) + 1 + 3 * exponent ≤ -1075 then
    some (zero negative)
  else
    ofRatio? negative (digits * Nat.pow 10 exponent.toNat) (Nat.pow 10 (-exponent).toNat)

theorem magnitudeOfRatio_le (numerator denominator leading : Nat)
    (small : (numerator <<< 1074 / denominator).log2 ≤ leading + 52) :
    magnitudeOfRatio numerator denominator ≤ (leading + 2) * 0x10000000000000 := by
  unfold magnitudeOfRatio
  generalize numerator <<< 1074 = scaled at small ⊢
  have below : scaled / denominator < 2 ^ ((scaled / denominator).log2 - 52 + 53) :=
    Nat.lt_of_lt_of_le Nat.lt_log2_self (Nat.pow_le_pow_right (by decide) (by omega))
  have rounded := roundQuotient_le scaled (denominator <<< ((scaled / denominator).log2 - 52))
  have kept : scaled / denominator / 2 ^ ((scaled / denominator).log2 - 52) < 2 ^ 53 := by
    apply Nat.div_lt_of_lt_mul
    rw [← Nat.pow_add]
    exact below
  rw [Nat.shiftLeft_eq, ← Nat.div_div_eq_div_mul] at rounded
  dsimp only
  rw [Nat.shiftLeft_eq]
  omega

private theorem log2_shiftLeft_lt {number width : Nat} (small : number.log2 < width)
    (shift : Nat) : (number <<< shift).log2 < width + shift := by
  by_cases isZero : number = 0
  · rw [isZero, Nat.zero_shiftLeft, Nat.log2_zero]
    omega
  · have shifted : number * 2 ^ shift ≠ 0 :=
      Nat.mul_ne_zero isZero (Nat.ne_of_gt (Nat.two_pow_pos shift))
    rw [Nat.shiftLeft_eq, Nat.log2_lt shifted, Nat.pow_add]
    exact Nat.mul_lt_mul_of_pos_right ((Nat.log2_lt isZero).mp small) (Nat.two_pow_pos shift)

theorem magnitudeOfRatio_word_lt {number : Nat} (small : number < 0x10000000000000000) :
    magnitudeOfRatio number 1 < 0x7FF0000000000000 := by
  have width : number.log2 < 64 := by
    by_cases isZero : number = 0
    · rw [isZero]
      decide
    · exact (Nat.log2_lt isZero).mpr small
  have leading : (number <<< 1074 / 1).log2 ≤ 1086 + 52 := by
    rw [Nat.div_one]
    exact Nat.le_of_lt (log2_shiftLeft_lt width 1074)
  have bound := magnitudeOfRatio_le number 1 1086 leading
  omega

def ofWord (number : Nat) (small : number < 0x10000000000000000) : Binary64 where
  negative := false
  magnitude := magnitudeOfRatio number 1
  finite := magnitudeOfRatio_word_lt small

end Binary64

def Double.finite? (double : Double) : Option Binary64 :=
  Binary64.ofMagnitude? double.negative double.magnitude

theorem Double.finite?_eq_some_iff {double : Double} {number : Binary64} :
    double.finite? = some number ↔ double = number.toDouble := by
  rw [finite?, Binary64.ofMagnitude?_eq_some_iff]
  constructor
  · rintro ⟨sameSign, sameMagnitude⟩
    cases double
    cases sameSign
    cases sameMagnitude
    rfl
  · rintro rfl
    exact ⟨rfl, rfl⟩

end GuardedSql
