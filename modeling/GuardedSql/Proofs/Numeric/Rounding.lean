import GuardedSql.Numeric.Decimal
import Mathlib.Algebra.Group.Nat.Defs

set_option autoImplicit false

/-!
Rounding decimal numbers to doubles.

Rounding depends on a quotient only, not on the numbers it is made of, and a quotient that is the
value of a magnitude is rounded to this magnitude. So the exact decimal number of a double rounds to
the double, and the shortest one does so too, whether the search finds one or not:
`ofDecimal?_shortest`.

A reader that rounds in steps rounds once if the digits fit into a double and so does the power of
ten, since then the only step that rounds is the last: `stepwise_eq_nearest`.
-/

namespace GuardedSql

theorem roundQuotient_mul_right (numerator denominator : Nat) {factor : Nat}
    (positive : 0 < factor) :
    roundQuotient (numerator * factor) (denominator * factor) =
      roundQuotient numerator denominator := by
  have quotient : numerator * factor / (denominator * factor) = numerator / denominator :=
    Nat.mul_div_mul_right _ _ positive
  have remainder : 2 * (numerator * factor % (denominator * factor)) =
      2 * (numerator % denominator) * factor := by
    rw [Nat.mul_mod_mul_right, Nat.mul_assoc]
  simp only [roundQuotient, quotient, remainder, Nat.mul_lt_mul_right positive]

theorem roundQuotient_mul_self (quotient : Nat) {denominator : Nat} (positive : 0 < denominator) :
    roundQuotient (quotient * denominator) denominator = quotient := by
  rw [roundQuotient, Nat.mul_div_cancel _ positive, Nat.mul_mod_left, Nat.mul_zero,
    if_pos positive]

namespace Binary64

theorem magnitudeOfRatio_mul_right (numerator denominator : Nat) {factor : Nat}
    (positive : 0 < factor) :
    magnitudeOfRatio (numerator * factor) (denominator * factor) =
      magnitudeOfRatio numerator denominator := by
  have scaled : (numerator * factor) <<< 1074 = numerator <<< 1074 * factor := by
    rw [Nat.shiftLeft_eq, Nat.shiftLeft_eq, Nat.mul_right_comm]
  have shifted (count : Nat) :
      (denominator * factor) <<< count = denominator <<< count * factor := by
    rw [Nat.shiftLeft_eq, Nat.shiftLeft_eq, Nat.mul_right_comm]
  simp only [magnitudeOfRatio, scaled, shifted, Nat.mul_div_mul_right _ _ positive,
    roundQuotient_mul_right _ _ positive]

theorem ofRatio?_mul_right (negative : Bool) (numerator denominator : Nat) {factor : Nat}
    (positive : 0 < factor) :
    ofRatio? negative (numerator * factor) (denominator * factor) =
      ofRatio? negative numerator denominator := by
  simp only [ofRatio?, magnitudeOfRatio_mul_right _ _ positive]

theorem magnitudeOfRatio_two_pow (units : Nat) :
    magnitudeOfRatio units (2 ^ 1074) =
      (units.log2 - 52) * 0x10000000000000 + roundQuotient units (2 ^ (units.log2 - 52)) := by
  rw [magnitudeOfRatio, Nat.shiftLeft_eq]
  generalize 1074 = width
  have positive : 0 < 2 ^ width := Nat.two_pow_pos width
  rw [Nat.mul_div_cancel _ positive, Nat.shiftLeft_eq, Nat.mul_comm (2 ^ width),
    roundQuotient_mul_right _ _ positive]

theorem log2_le_of_lt_two_pow {number width : Nat} (small : number < 2 ^ (width + 1)) :
    number.log2 ≤ width := by
  by_cases isZero : number = 0
  · rw [isZero, Nat.log2_zero]
    exact Nat.zero_le width
  · exact Nat.le_of_lt_succ ((Nat.log2_lt isZero).mpr small)

theorem log2_leading {width fraction : Nat} (small : fraction < 2 ^ width) (shift : Nat) :
    ((2 ^ width + fraction) * 2 ^ shift).log2 = width + shift := by
  have positive : 0 < 2 ^ shift := Nat.two_pow_pos shift
  have nonzero : (2 ^ width + fraction) * 2 ^ shift ≠ 0 := by
    have := Nat.two_pow_pos width
    exact Nat.mul_ne_zero (by omega) (by omega)
  rw [Nat.log2_eq_iff nonzero, Nat.pow_add, Nat.pow_add 2, Nat.pow_add 2]
  constructor
  · exact Nat.mul_le_mul_right _ (Nat.le_add_right _ _)
  · rw [Nat.mul_right_comm]
    exact Nat.mul_lt_mul_of_pos_right (by omega) positive

/-- A number without hidden bit is its own magnitude. -/
theorem magnitudeOfRatio_fraction {fraction : Nat} (small : fraction < 2 ^ 52) :
    magnitudeOfRatio fraction (2 ^ 1074) = fraction := by
  have noneDropped : fraction.log2 - 52 = 0 :=
    Nat.sub_eq_zero_of_le (log2_le_of_lt_two_pow (Nat.lt_trans small (by decide)))
  have rounded := roundQuotient_mul_self fraction Nat.one_pos
  rw [Nat.mul_one] at rounded
  rw [magnitudeOfRatio_two_pow, noneDropped, Nat.pow_zero, rounded, Nat.zero_mul, Nat.zero_add]

theorem magnitudeOfRatio_leading {fraction : Nat} (small : fraction < 2 ^ 52) (shift : Nat) :
    magnitudeOfRatio ((2 ^ 52 + fraction) * 2 ^ shift) (2 ^ 1074) =
      (shift + 1) * 2 ^ 52 + fraction := by
  have dropped : ((2 ^ 52 + fraction) * 2 ^ shift).log2 - 52 = shift := by
    rw [log2_leading small, Nat.add_sub_cancel_left]
  have field : 0x10000000000000 = 2 ^ 52 := rfl
  rw [magnitudeOfRatio_two_pow, dropped, roundQuotient_mul_self _ (Nat.two_pow_pos shift), field,
    Nat.succ_mul, Nat.add_assoc]

/-- The value of a magnitude is rounded to this magnitude. -/
theorem magnitudeOfRatio_unitsOf (magnitude : Nat) :
    magnitudeOfRatio (unitsOf magnitude) (2 ^ 1074) = magnitude := by
  have parts := Nat.div_add_mod magnitude (2 ^ 52)
  have fractionSmall : magnitude % 2 ^ 52 < 2 ^ 52 := Nat.mod_lt _ (Nat.two_pow_pos 52)
  have isUnits : unitsOf magnitude =
      if magnitude / 2 ^ 52 = 0 then magnitude % 2 ^ 52
      else (2 ^ 52 + magnitude % 2 ^ 52) * 2 ^ (magnitude / 2 ^ 52 - 1) := by
    rw [← Nat.shiftLeft_eq]
    rfl
  rw [isUnits]
  generalize magnitude % 2 ^ 52 = fraction at parts fractionSmall ⊢
  cases isExponent : magnitude / 2 ^ 52 with
  | zero =>
      rw [isExponent, Nat.mul_zero, Nat.zero_add] at parts
      rw [if_pos rfl, magnitudeOfRatio_fraction fractionSmall, parts]
  | succ shift =>
      rw [isExponent, Nat.mul_comm] at parts
      rw [if_neg (Nat.succ_ne_zero shift), Nat.add_sub_cancel,
        magnitudeOfRatio_leading fractionSmall, parts]

theorem magnitude_eq_zero_of_units {number : Binary64} (noUnits : number.units = 0) :
    number.magnitude = 0 := by
  rw [← magnitudeOfRatio_unitsOf number.magnitude, ← units, noUnits]
  exact magnitudeOfRatio_fraction (Nat.two_pow_pos 52)

theorem ofDecimal?_zero (negative : Bool) (exponent : Int) :
    ofDecimal? negative 0 exponent = some (zero negative) := by
  rw [ofDecimal?, if_pos rfl]

theorem zero_of_magnitude {number : Binary64} (isZero : number.magnitude = 0) :
    zero number.negative = number :=
  eq_of_parts_eq rfl isZero.symm

theorem ofRatio?_eq_some {number : Binary64} {numerator denominator : Nat}
    (rounds : magnitudeOfRatio numerator denominator = number.magnitude) :
    ofRatio? number.negative numerator denominator = some number := by
  rw [ofRatio?, ofMagnitude?_eq_some_iff]
  exact ⟨rfl, rounds.symm⟩

theorem two_mul_le_log2_five_pow (exponent : Nat) : 2 * exponent ≤ (5 ^ exponent).log2 := by
  rw [Nat.le_log2 (Nat.ne_of_gt (Nat.pow_pos (by decide))), Nat.pow_mul]
  exact Nat.pow_le_pow_left (by decide) exponent

/-- A decimal number of at most so many places is neither settled by its length nor changed. -/
theorem ofDecimal?_fives (negative : Bool) {units places : Nat} (nonzero : units ≠ 0)
    (hasPlaces : 0 < places) (few : places < 1076) :
    ofDecimal? negative (units * 5 ^ places) (-places) =
      ofRatio? negative (units * 5 ^ places) (10 ^ places) := by
  have fives : 5 ^ places ≠ 0 := Nat.ne_of_gt (Nat.pow_pos (by decide))
  have long : 2 * places ≤ (units * 5 ^ places).log2 := by
    refine Nat.le_trans (two_mul_le_log2_five_pow places) ?_
    rw [Nat.le_log2 (Nat.mul_ne_zero nonzero fives)]
    refine Nat.le_trans (Nat.log2_self_le fives) ?_
    exact Nat.le_mul_of_pos_left _ (Nat.pos_of_ne_zero nonzero)
  have exponent : (-(-places : Int)).toNat = places := by omega
  have noZeros : (-places : Int).toNat = 0 := by omega
  rw [ofDecimal?, if_neg (Nat.mul_ne_zero nonzero fives), if_neg (by omega), if_neg (by omega),
    exponent, noZeros]
  exact congrArg (ofRatio? negative · (10 ^ places)) (Nat.mul_one _)

theorem magnitudeOfRatio_fives (units places : Nat) :
    magnitudeOfRatio (units * 5 ^ places) (10 ^ places) = magnitudeOfRatio units (2 ^ places) := by
  have tens : 10 ^ places = 2 ^ places * 5 ^ places := Nat.mul_pow 2 5 places
  rw [tens, magnitudeOfRatio_mul_right _ _ (Nat.pow_pos (by decide))]

/-- The exact value of a double is rounded to the double. -/
theorem ofDecimal?_exactDecimal (number : Binary64) :
    ofDecimal? number.negative number.exactDecimal.digits number.exactDecimal.exponent =
      some number := by
  by_cases noUnits : number.units = 0
  · have noDigits : number.exactDecimal.digits = 0 := Nat.mul_eq_zero.mpr (.inl noUnits)
    rw [noDigits, ofDecimal?_zero, zero_of_magnitude (magnitude_eq_zero_of_units noUnits)]
  · have rounds := magnitudeOfRatio_unitsOf number.magnitude
    rw [← magnitudeOfRatio_fives] at rounds
    refine Eq.trans ?_ (ofRatio?_eq_some rounds)
    exact ofDecimal?_fives number.negative noUnits (by decide) (by decide)

/-- The shortest decimal number of a double is rounded to the double. -/
theorem ofDecimal?_shortest (number : Binary64) :
    ofDecimal? number.negative number.shortest.digits number.shortest.exponent = some number := by
  unfold shortest
  cases isFound : number.shortest? with
  | none => exact ofDecimal?_exactDecimal number
  | some found =>
      obtain ⟨_, _, isFirst⟩ := List.exists_of_findSome?_eq_some isFound
      have roundsBack : number.roundsBack found = true := List.find?_some isFirst
      exact eq_of_beq roundsBack

theorem digits_shortest_ne_zero {number : Binary64} (nonzero : number.magnitude ≠ 0) :
    number.shortest.digits ≠ 0 := by
  intro noDigits
  have rounds := ofDecimal?_shortest number
  rw [noDigits, ofDecimal?_zero] at rounds
  exact nonzero (congrArg magnitude (Option.some.inj rounds)).symm

/-- A decimal number without a fraction may be written with all its zeros and one more behind the
point. -/
theorem ofDecimal?_of_zeros {negative : Bool} {digits zeros : Nat} {number : Binary64}
    (rounds : ofDecimal? negative digits zeros = some number) :
    ofDecimal? negative (digits * 10 ^ (zeros + 1)) (-1) = some number := by
  have power : 0 < 10 ^ (zeros + 1) := Nat.pow_pos (by decide)
  unfold ofDecimal? at rounds ⊢
  split at rounds
  · rename_i noDigits
    rwa [if_pos (by rw [noDigits, Nat.zero_mul])]
  · rename_i someDigits
    split at rounds
    · cases rounds
    · rw [if_neg (by omega)] at rounds
      rw [if_neg (Nat.mul_ne_zero someDigits (Nat.ne_of_gt power)), if_neg (by omega),
        if_neg (by omega), ← rounds]
      have noPlaces : (-(zeros : Int)).toNat = 0 := by omega
      have tens : digits * 10 ^ (zeros + 1) * 1 = digits * 10 ^ zeros * 10 := by
        rw [Nat.mul_one, Nat.pow_succ, Nat.mul_assoc]
      rw [noPlaces, Int.toNat_natCast]
      refine Eq.trans ?_ (ofRatio?_mul_right negative (digits * 10 ^ zeros) 1
        (by decide : 0 < 10))
      exact congrArg (ofRatio? negative · 10) tens

theorem unitsOf_leading {fraction : Nat} (small : fraction < 2 ^ 52) (shift : Nat) :
    unitsOf ((shift + 1) * 2 ^ 52 + fraction) = (2 ^ 52 + fraction) * 2 ^ shift := by
  have field : 0x10000000000000 = 2 ^ 52 := rfl
  have exponent : ((shift + 1) * 2 ^ 52 + fraction) / 2 ^ 52 = shift + 1 := by
    rw [Nat.mul_comm, Nat.mul_add_div (Nat.two_pow_pos 52), Nat.div_eq_of_lt small, Nat.add_zero]
  have rest : ((shift + 1) * 2 ^ 52 + fraction) % 2 ^ 52 = fraction := by
    rw [Nat.mul_comm, Nat.mul_add_mod, Nat.mod_eq_of_lt small]
  rw [unitsOf, field, exponent, rest]
  rw [if_neg (Nat.succ_ne_zero shift), Nat.add_sub_cancel, Nat.shiftLeft_eq]

/-- A number of at most 53 bits, with enough zeros behind them, is the value of a magnitude. -/
theorem exists_unitsOf_eq {number shift : Nat} (short : number < 2 ^ 53) (zeros : 52 ≤ shift) :
    ∃ magnitude, unitsOf magnitude = number * 2 ^ shift := by
  by_cases isZero : number = 0
  · exact ⟨0, by rw [isZero, Nat.zero_mul]; rfl⟩
  · have few : number.log2 ≤ 52 := log2_le_of_lt_two_pow short
    obtain ⟨rest, rfl⟩ : ∃ rest, shift = 52 - number.log2 + rest :=
      Nat.exists_eq_add_of_le (by omega)
    -- The leading bit of the number is moved to the place of the hidden bit.
    have above : 2 ^ 52 ≤ number * 2 ^ (52 - number.log2) := by
      calc 2 ^ 52 = 2 ^ number.log2 * 2 ^ (52 - number.log2) := by
            rw [← Nat.pow_add, Nat.add_sub_cancel' few]
        _ ≤ number * 2 ^ (52 - number.log2) :=
            Nat.mul_le_mul_right _ (Nat.log2_self_le isZero)
    have below : number * 2 ^ (52 - number.log2) < 2 ^ 53 := by
      calc number * 2 ^ (52 - number.log2)
          < 2 ^ (number.log2 + 1) * 2 ^ (52 - number.log2) :=
            Nat.mul_lt_mul_of_pos_right Nat.lt_log2_self (Nat.two_pow_pos _)
        _ = 2 ^ 53 := by
            rw [← Nat.pow_add]
            congr 1
            omega
    obtain ⟨fraction, isLeading⟩ := Nat.exists_eq_add_of_le above
    refine ⟨(rest + 1) * 2 ^ 52 + fraction, ?_⟩
    rw [unitsOf_leading (by omega), ← isLeading, Nat.mul_assoc, ← Nat.pow_add]

theorem magnitudeOfRatio_mul_two_pow (number width : Nat) :
    magnitudeOfRatio (number * 2 ^ width) (2 ^ width) = magnitudeOfRatio number 1 := by
  have scaled := magnitudeOfRatio_mul_right number 1 (Nat.two_pow_pos width)
  rwa [Nat.one_mul] at scaled

/-- A whole number of at most 53 bits, with any zeros behind them, is a double. -/
theorem unitsOf_magnitudeOfRatio {number : Nat} (short : number < 2 ^ 53) (shift : Nat) :
    unitsOf (magnitudeOfRatio (number * 2 ^ shift) 1) = number * 2 ^ shift * 2 ^ 1074 := by
  obtain ⟨magnitude, isUnits⟩ := exists_unitsOf_eq short (by omega : 52 ≤ shift + 1074)
  have rounded := magnitudeOfRatio_unitsOf magnitude
  rw [Nat.pow_add, ← Nat.mul_assoc] at isUnits
  rw [isUnits, magnitudeOfRatio_mul_two_pow] at rounded
  rw [rounded, isUnits]

variable {first second firstUnits secondUnits : Nat}

/-- The product of whole numbers is rounded once. -/
theorem magnitudeOfProduct_eq (isFirst : unitsOf first = firstUnits * 2 ^ 1074)
    (isSecond : unitsOf second = secondUnits * 2 ^ 1074) :
    magnitudeOfProduct first second = magnitudeOfRatio (firstUnits * secondUnits) 1 := by
  rw [magnitudeOfProduct, isFirst, isSecond, Nat.mul_mul_mul_comm, ← Nat.pow_add,
    Nat.shiftLeft_eq, Nat.one_mul]
  exact magnitudeOfRatio_mul_two_pow _ _

theorem magnitudeOfQuotient_eq (isFirst : unitsOf first = firstUnits * 2 ^ 1074)
    (isSecond : unitsOf second = secondUnits * 2 ^ 1074) :
    magnitudeOfQuotient first second = magnitudeOfRatio firstUnits secondUnits := by
  rw [magnitudeOfQuotient, isFirst, isSecond,
    magnitudeOfRatio_mul_right _ _ (Nat.two_pow_pos 1074)]

end Binary64

namespace DoubleReader

open Binary64

theorem leadingWord_of_lt {number : Nat} (small : number < 0x10000000000000000) :
    leadingWord number = (number, 0) := by
  rw [leadingWord, if_pos small]

/-- Digits that fit into one word are kept as they are. -/
theorem significand_of_lt {literal : Literal} (small : literal.digits < 0x10000000000000000) :
    significand literal = (literal.digits, literal.exponent) := by
  have before := leadingWord_of_lt
    (Nat.lt_of_le_of_lt (Nat.div_le_self literal.digits (Nat.pow 10 literal.places)) small)
  have whole : literal.digits / Nat.pow 10 literal.places * Nat.pow 10 literal.places +
      literal.digits % Nat.pow 10 literal.places = literal.digits := by
    rw [Nat.mul_comm]
    exact Nat.div_add_mod _ _
  simp only [significand, before, whole, leadingWord_of_lt small, Int.natCast_zero, Int.add_zero]

theorem unitsOf_magnitudeOfTen {exponent : Nat} (small : exponent ≤ 22) :
    unitsOf (magnitudeOfTen exponent) = 10 ^ exponent * 2 ^ 1074 := by
  have short : 5 ^ exponent < 2 ^ 53 :=
    Nat.lt_of_le_of_lt (Nat.pow_le_pow_right (by decide) small) (by decide)
  have tens : 10 ^ exponent = 5 ^ exponent * 2 ^ exponent := Nat.mul_pow 5 2 exponent
  have isUnits := unitsOf_magnitudeOfRatio short exponent
  rwa [← tens] at isUnits

theorem divideByTen_of_le {exponent : Nat} (magnitude : Nat) (small : exponent ≤ 22) :
    divideByTen magnitude exponent = magnitudeOfQuotient magnitude (magnitudeOfTen exponent) := by
  have none : (exponent - 1) / tenLimit = 0 := Nat.div_eq_of_lt (by unfold tenLimit; omega)
  rw [divideByTen, none, divideByLargest, Nat.mul_zero, Nat.sub_zero]

/-- Rounding in steps rounds once if the digits fit into a double and so does the power of ten. -/
theorem stepwise_eq_nearest {literal : Literal} (short : literal.digits < 2 ^ 53)
    (moderate : literal.exponent.natAbs ≤ 22) : stepwise literal = nearest literal := by
  have kept := significand_of_lt (Nat.lt_trans short (by decide))
  have digits := unitsOf_magnitudeOfRatio short 0
  have ten := unitsOf_magnitudeOfTen moderate
  -- The number is far within the limits beyond which it is not rounded at all.
  have width : literal.digits.log2 ≤ 52 := log2_le_of_lt_two_pow short
  rw [Nat.pow_zero, Nat.mul_one] at digits
  unfold stepwise nearest ofDecimal?
  simp only [kept]
  generalize literal.exponent = exponent at moderate ten ⊢
  by_cases noDigits : literal.digits = 0
  · rw [if_pos noDigits, if_pos noDigits]
  · rw [if_neg noDigits, if_neg noDigits]
    by_cases isNegative : exponent < 0
    · have size : (-exponent).toNat = exponent.natAbs := by omega
      have noZeros : exponent.toNat = 0 := by omega
      rw [if_pos isNegative, if_neg (by omega), if_neg (by omega), divideByTen_of_le _ moderate,
        magnitudeOfQuotient_eq digits ten, size, noZeros]
      exact congrArg (ofRatio? literal.negative · _) (Nat.mul_one _).symm
    · have size : exponent.toNat = exponent.natAbs := by omega
      have noPlaces : (-exponent).toNat = 0 := by omega
      have limit : exponent ≤ tenLimit := by unfold tenLimit; omega
      rw [if_neg isNegative, if_pos limit, if_neg (by omega), if_neg (by omega), size, noPlaces,
        magnitudeOfProduct_eq digits ten]
      rfl

end DoubleReader

end GuardedSql
