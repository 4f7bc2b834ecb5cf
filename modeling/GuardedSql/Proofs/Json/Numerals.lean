import GuardedSql.Json
import GuardedSql.Proofs.Json.Written
import GuardedSql.Proofs.Numeric.Rounding

set_option autoImplicit false

/-!
Numbers are read back from their text.

The digits before the point, those behind it and those of the power are read one after the other,
each run of them by a lemma of its own: `Numeral.Continues`. From the layouts of a decimal number
its digits and its power of ten are read as they are, except that the zeros in front of a point
become digits. So the text of a number is read as a literal, `Number.reads_text`, and this literal
is whole for whole numbers only. Whole numbers are read back whatever reader there is for doubles,
`Number.ofLiteral?_of_whole`, and every double is read back by the reader that rounds to the nearest
one: `Binary64.nearest_literal`.
-/

namespace GuardedSql

/-- Decimal digits, of which the first one is not a zero. -/
structure LeadingDigits (characters : List Char) : Prop where
  digits : ∀ character ∈ characters, character.isDigit = true
  first : ∃ character ∈ characters.head?, character ≠ '0'

theorem isDigit_toDigits (number : Nat) :
    ∀ character ∈ Nat.toDigits 10 number, character.isDigit = true :=
  fun _ member => Nat.isDigit_of_mem_toDigits (by decide) (by decide) member

theorem isDigit_zeros (count : Nat) :
    ∀ character ∈ List.replicate count '0', character.isDigit = true := by
  intro character member
  rw [List.eq_of_mem_replicate member]
  rfl

namespace LeadingDigits

variable {characters others : List Char}

theorem append (leading : LeadingDigits characters)
    (digits : ∀ character ∈ others, character.isDigit = true) :
    LeadingDigits (characters ++ others) where
  digits := List.forall_mem_append.mpr ⟨leading.digits, digits⟩
  first := by
    obtain ⟨character, isFirst, nonzero⟩ := leading.first
    refine ⟨character, ?_, nonzero⟩
    rw [List.head?_append, isFirst, Option.some_or, Option.mem_def]

theorem take (leading : LeadingDigits characters) {count : Nat} (positive : 0 < count) :
    LeadingDigits (characters.take count) where
  digits character member := leading.digits character (List.mem_of_mem_take member)
  first := by
    rw [List.head?_take, if_neg (Nat.ne_of_gt positive)]
    exact leading.first

theorem toDigits {number : Nat} (nonzero : number ≠ 0) :
    LeadingDigits (Nat.toDigits 10 number) := by
  refine ⟨isDigit_toDigits number, ?_⟩
  -- The first digit is the first one of the number without its last digit.
  induction number using Nat.strongRecOn with
  | ind number inductionHypothesis =>
      by_cases isDigit : number < 10
      · rw [Nat.toDigits_of_lt_base isDigit]
        exact ⟨_, rfl, mt Nat.digitChar_eq_zero.mp nonzero⟩
      · rw [Nat.toDigits_of_base_le (by decide) (Nat.le_of_not_lt isDigit)]
        obtain ⟨character, isFirst, different⟩ :=
          inductionHypothesis (number / 10) (by omega) (by omega)
        refine ⟨character, ?_, different⟩
        rw [List.head?_append, isFirst, Option.some_or, Option.mem_def]

end LeadingDigits

namespace Document

namespace Numeral

/-- The characters lead from one numeral to another. -/
inductive Continues : Numeral → List Char → Numeral → Prop where
  | refl (numeral : Numeral) : Continues numeral [] numeral
  | step {numeral next final : Numeral} {character : Char} {rest : List Char}
      (taken : numeral.next? character = some next) (continues : Continues next rest final) :
      Continues numeral (character :: rest) final

theorem Continues.append {first middle last : Numeral} {characters others : List Char}
    (continues : Continues first characters middle) (behind : Continues middle others last) :
    Continues first (characters ++ others) last := by
  induction continues with
  | refl _ => exact behind
  | step taken _ inductionHypothesis => exact .step taken (inductionHypothesis behind)

variable {negative below : Bool} {digits places power : Nat} {characters others : List Char}

/-- A run of digits, in numerals that differ in a number and a count only. Each digit is put behind
the number and counted. -/
theorem continues_run {state : Nat → Nat → Numeral}
    (takes : ∀ number count character, character.isDigit = true →
      (state number count).next? character =
        some (state (10 * number + digitValue character) (count + 1)))
    (isDigit : ∀ character ∈ others, character.isDigit = true) (number count : Nat) :
    Continues (state number count) others
      (state (Nat.ofDigitChars 10 others number) (count + others.length)) := by
  induction others generalizing number count with
  | nil => exact .refl _
  | cons character rest inductionHypothesis =>
      obtain ⟨first, restDigits⟩ := List.forall_mem_cons.mp isDigit
      rw [List.length_cons, Nat.add_comm rest.length, ← Nat.add_assoc]
      exact .step (takes number count character first) (inductionHypothesis restDigits _ _)

theorem continues_whole (isDigit : ∀ character ∈ others, character.isDigit = true) :
    Continues ⟨.whole, negative, digits, places, below, power⟩ others
      ⟨.whole, negative, Nat.ofDigitChars 10 others digits, places, below, power⟩ := by
  have takes : ∀ number (_ : Nat) character, character.isDigit = true →
      (Numeral.mk .whole negative number places below power).next? character =
        some ⟨.whole, negative, 10 * number + digitValue character, places, below, power⟩ := by
    intro number _ character isDigit
    simp only [next?, isDigit, if_true]
  exact continues_run takes isDigit digits 0

theorem continues_fraction (isDigit : ∀ character ∈ others, character.isDigit = true) :
    Continues ⟨.fraction, negative, digits, places, below, power⟩ others
      ⟨.fraction, negative, Nat.ofDigitChars 10 others digits, places + others.length, below,
        power⟩ := by
  have takes : ∀ number count character, character.isDigit = true →
      (Numeral.mk .fraction negative number count below power).next? character =
        some ⟨.fraction, negative, 10 * number + digitValue character, count + 1, below,
          power⟩ := by
    intro number count character isDigit
    simp only [next?, fractionDigit?, isDigit, if_true]
  exact continues_run takes isDigit digits places

theorem continues_power (isDigit : ∀ character ∈ others, character.isDigit = true) :
    Continues ⟨.power, negative, digits, places, below, power⟩ others
      ⟨.power, negative, digits, places, below, Nat.ofDigitChars 10 others power⟩ := by
  have takes : ∀ number (_ : Nat) character, character.isDigit = true →
      (Numeral.mk .power negative digits places below number).next? character =
        some ⟨.power, negative, digits, places, below, 10 * number + digitValue character⟩ := by
    intro number _ character isDigit
    simp only [next?, powerDigit?, isDigit, if_true]
  exact continues_run takes isDigit power 0

/-- A number of which at most the sign has been read. -/
def signed (negative : Bool) : Numeral where
  part := .minus
  negative := negative
  digits := 0
  places := 0
  below := false
  power := 0

theorem continues_zero (negative : Bool) :
    (signed negative).Continues ['0'] ⟨.zero, negative, 0, 0, false, 0⟩ :=
  .step rfl (.refl _)

theorem continues_leading (negative : Bool) (leading : LeadingDigits characters) :
    (signed negative).Continues characters
      ⟨.whole, negative, Nat.ofDigitChars 10 characters 0, 0, false, 0⟩ := by
  obtain ⟨character, isFirst, nonzero⟩ := leading.first
  obtain ⟨rest, rfl⟩ := List.head?_eq_some_iff.mp isFirst
  obtain ⟨isDigit, restDigits⟩ := List.forall_mem_cons.mp leading.digits
  refine .step ?_ (continues_whole restDigits)
  simp only [next?, signed, firstDigit?, if_neg nonzero, isDigit, if_true]
  exact congrArg (fun value => some (Numeral.mk .whole negative value 0 false 0))
    (Nat.zero_add _).symm

/-- A point and digits behind it are added to a whole number. -/
theorem Continues.fractionPart {start : Numeral} {part : NumeralPart}
    (continues : start.Continues characters ⟨part, negative, digits, 0, false, 0⟩)
    (isWhole : part = .zero ∨ part = .whole) (nonempty : others ≠ [])
    (isDigit : ∀ character ∈ others, character.isDigit = true) :
    start.Continues (characters ++ '.' :: others)
      ⟨.fraction, negative, Nat.ofDigitChars 10 others digits, others.length, false, 0⟩ := by
  have point : (Numeral.mk part negative digits 0 false 0).next? '.' =
      some ⟨.point, negative, digits, 0, false, 0⟩ := by
    rcases isWhole with rfl | rfl
    · rfl
    · rfl
  refine continues.append (.step point ?_)
  cases others with
  | nil => exact absurd rfl nonempty
  | cons first rest =>
      obtain ⟨firstDigit, restDigits⟩ := List.forall_mem_cons.mp isDigit
      rw [List.length_cons, Nat.add_comm]
      refine .step ?_ (continues_fraction restDigits)
      simp only [next?, fractionDigit?, firstDigit, if_true]
      rfl

/-- A signed power of ten is added to a number. -/
theorem Continues.powerPart {start : Numeral} {part : NumeralPart}
    (continues : start.Continues characters ⟨part, negative, digits, places, false, 0⟩)
    (isNumber : part = .whole ∨ part = .fraction) (exponent : Int) :
    start.Continues
      (characters ++ 'e' :: (if exponent < 0 then '-' else '+') ::
        Nat.toDigits 10 exponent.natAbs)
      ⟨.power, negative, digits, places, decide (exponent < 0), exponent.natAbs⟩ := by
  have mark : (Numeral.mk part negative digits places false 0).next? 'e' =
      some ⟨.mark, negative, digits, places, false, 0⟩ := by
    rcases isNumber with rfl | rfl
    · rfl
    · rfl
  have sign : (Numeral.mk .mark negative digits places false 0).next?
      (if exponent < 0 then '-' else '+') =
        some ⟨.sign, negative, digits, places, decide (exponent < 0), 0⟩ := by
    by_cases isNegative : exponent < 0
    · simp only [isNegative, if_true, decide_true]
      rfl
    · simp only [isNegative, if_false, decide_false]
      rfl
  refine continues.append (.step mark (.step sign ?_))
  have isDigit := isDigit_toDigits exponent.natAbs
  have value := @Nat.ofDigitChars_ten_toDigits exponent.natAbs
  cases isPower : Nat.toDigits 10 exponent.natAbs with
  | nil => exact absurd isPower Nat.toDigits_ne_nil
  | cons first rest =>
      rw [isPower] at isDigit value
      obtain ⟨firstDigit, restDigits⟩ := List.forall_mem_cons.mp isDigit
      rw [← value]
      refine .step ?_ (continues_power restDigits)
      simp only [next?, powerDigit?, firstDigit, if_true]
      rfl

/-- The characters behind the sign of a number make this literal. -/
def Spells (negative : Bool) (characters : List Char) (literal : Literal) : Prop :=
  ∃ final, (signed negative).Continues characters final ∧ final.literal? = some literal

theorem spells_whole (number : Nat) :
    Spells negative (Nat.toDigits 10 number) ⟨negative, number, 0, 0, true⟩ := by
  by_cases isZero : number = 0
  · rw [isZero, Nat.toDigits_zero]
    exact ⟨_, continues_zero negative, rfl⟩
  · have continues := continues_leading negative (.toDigits isZero)
    rw [Nat.ofDigitChars_ten_toDigits] at continues
    exact ⟨_, continues, rfl⟩

theorem Continues.spells_fractionPart {part : NumeralPart} {total count : Nat}
    (continues : (signed negative).Continues characters ⟨part, negative, digits, 0, false, 0⟩)
    (isWhole : part = .zero ∨ part = .whole)
    (isDigit : ∀ character ∈ others, character.isDigit = true) (nonempty : others ≠ [])
    (value : Nat.ofDigitChars 10 others digits = total) (size : others.length = count) :
    Spells negative (characters ++ '.' :: others) ⟨negative, total, count, 0, false⟩ := by
  refine ⟨_, continues.fractionPart isWhole nonempty isDigit, ?_⟩
  rw [value, size]
  rfl

theorem Continues.spells_powerPart {part : NumeralPart}
    (continues : (signed negative).Continues characters ⟨part, negative, digits, places, false, 0⟩)
    (isNumber : part = .whole ∨ part = .fraction) (exponent : Int) :
    Spells negative
      (characters ++ 'e' :: (if exponent < 0 then '-' else '+') :: Nat.toDigits 10 exponent.natAbs)
      ⟨negative, digits, places, exponent, false⟩ := by
  refine ⟨_, continues.powerPart isNumber exponent, ?_⟩
  have signed : (if decide (exponent < 0) = true then -(exponent.natAbs : Int)
      else exponent.natAbs) = exponent := by
    simp only [decide_eq_true_eq]
    split <;> omega
  simp only [literal?, signed]

end Numeral

end Document

/-! ### Layouts of a decimal number -/

namespace Decimal

open Document.Numeral

variable {decimal : Decimal} {negative : Bool}

theorem leading_digitChars (someDigits : decimal.digits ≠ 0) : LeadingDigits decimal.digitChars :=
  .toDigits someDigits

theorem ofDigitChars_digitChars (decimal : Decimal) :
    Nat.ofDigitChars 10 decimal.digitChars 0 = decimal.digits :=
  Nat.ofDigitChars_ten_toDigits

theorem leadingExponent_eq (decimal : Decimal) :
    decimal.leadingExponent = decimal.exponent + decimal.digitChars.length - 1 :=
  rfl

/-- Where the digits do not reach the point, zeros do, and one zero stands behind it. -/
theorem spells_positional_of_zeros (someDigits : decimal.digits ≠ 0)
    (isWhole : 0 ≤ decimal.exponent) :
    Spells negative decimal.positional
      ⟨negative, decimal.digits * 10 ^ (decimal.exponent.toNat + 1), 1, 0, false⟩ := by
  have continues := continues_leading negative
    ((leading_digitChars someDigits).append (isDigit_zeros decimal.exponent.toNat))
  rw [positional, if_pos isWhole]
  apply continues.spells_fractionPart (.inr rfl) (isDigit_zeros 1) (List.cons_ne_nil _ _) _ rfl
  rw [Nat.ofDigitChars_replicate_zero, Nat.ofDigitChars_append, Nat.ofDigitChars_replicate_zero,
    ofDigitChars_digitChars, ← Nat.mul_assoc, ← Nat.pow_add, Nat.mul_comm, Nat.add_comm 1]

/-- Where the digits reach over the point, or begin behind it, they are read as they are. -/
theorem spells_positional (someDigits : decimal.digits ≠ 0)
    (isFraction : ¬0 ≤ decimal.exponent) :
    Spells negative decimal.positional
      ⟨negative, decimal.digits, (-decimal.exponent).toNat, 0, false⟩ := by
  have leading := leading_digitChars someDigits
  have size := leadingExponent_eq decimal
  rw [positional, if_neg isFraction]
  split
  · generalize isBefore : decimal.leadingExponent.toNat + 1 = before
    have continues := continues_leading negative
      (leading.take (by omega : 0 < before))
    have behind : (decimal.digitChars.drop before).length = (-decimal.exponent).toNat := by
      rw [List.length_drop]
      omega
    apply continues.spells_fractionPart (.inr rfl)
    · exact fun character member => leading.digits character (List.mem_of_mem_drop member)
    · exact List.ne_nil_of_length_pos (by omega)
    · rw [← Nat.ofDigitChars_append, List.take_append_drop, ofDigitChars_digitChars]
    · exact behind
  · generalize isZeros : (-decimal.leadingExponent - 1).toNat = zeros
    rw [List.cons_append, List.cons_append]
    apply (continues_zero negative).spells_fractionPart (.inl rfl)
    · exact List.forall_mem_append.mpr ⟨isDigit_zeros zeros, leading.digits⟩
    · exact List.append_ne_nil_of_right_ne_nil _ Nat.toDigits_ne_nil
    · rw [Nat.ofDigitChars_append, Nat.ofDigitChars_replicate_zero, Nat.mul_zero,
        ofDigitChars_digitChars]
    · rw [List.length_append, List.length_replicate]
      omega

theorem spells_scientific (someDigits : decimal.digits ≠ 0) :
    Spells negative decimal.scientific
      ⟨negative, decimal.digits, decimal.digitChars.length - 1, decimal.leadingExponent,
        false⟩ := by
  have leading := leading_digitChars someDigits
  have value := ofDigitChars_digitChars decimal
  unfold scientific
  generalize decimal.digitChars = characters at leading value ⊢
  match characters with
  | [] => exact absurd leading.first nofun
  | [first] =>
      have continues := continues_leading negative leading
      rw [value] at continues
      exact continues.spells_powerPart (.inl rfl) decimal.leadingExponent
  | first :: second :: others =>
      have firstLeading : LeadingDigits [first] := leading.take Nat.one_pos
      have isDigit := (List.forall_mem_cons.mp leading.digits).2
      have continues := (continues_leading negative firstLeading).fractionPart
        (.inr rfl) (List.cons_ne_nil second others) isDigit
      rw [← Nat.ofDigitChars_append, List.singleton_append, List.singleton_append, value]
        at continues
      exact continues.spells_powerPart (.inr rfl) decimal.leadingExponent

/-- The literal that a decimal number makes in the layout that is chosen for it. -/
def literal (decimal : Decimal) (negative : Bool) : Literal :=
  if -5 ≤ decimal.leadingExponent ∧ decimal.leadingExponent ≤ 15 then
    if 0 ≤ decimal.exponent then
      ⟨negative, decimal.digits * 10 ^ (decimal.exponent.toNat + 1), 1, 0, false⟩
    else
      ⟨negative, decimal.digits, (-decimal.exponent).toNat, 0, false⟩
  else
    ⟨negative, decimal.digits, decimal.digitChars.length - 1, decimal.leadingExponent, false⟩

theorem spells_literal (negative : Bool) (someDigits : decimal.digits ≠ 0) :
    Spells negative
      (if -5 ≤ decimal.leadingExponent ∧ decimal.leadingExponent ≤ 15 then decimal.positional
        else decimal.scientific)
      (decimal.literal negative) := by
  unfold literal
  split
  · split
    · rename_i isWhole
      exact spells_positional_of_zeros someDigits isWhole
    · rename_i isFraction
      exact spells_positional someDigits isFraction
  · exact spells_scientific someDigits

theorem nearest_literal {number : Binary64}
    (rounds : Binary64.ofDecimal? negative decimal.digits decimal.exponent = some number) :
    DoubleReader.nearest (decimal.literal negative) = some number := by
  have size := decimal.leadingExponent_eq
  have someChars : 0 < decimal.digitChars.length := Nat.length_toDigits_pos
  unfold literal DoubleReader.nearest Literal.exponent
  split
  · split
    · rename_i isWhole
      exact Binary64.ofDecimal?_of_zeros (by rwa [Int.toNat_of_nonneg isWhole])
    · have exponent : (0 : Int) - (-decimal.exponent).toNat = decimal.exponent := by omega
      dsimp only
      rwa [exponent]
  · have exponent : decimal.leadingExponent - (decimal.digitChars.length - 1 : Nat) =
        decimal.exponent := by omega
    dsimp only
    rwa [exponent]

end Decimal

/-! ### Reading a number -/

namespace Document

/-- The machine may be inside a value that could still go on. If the text has come so far and any
character that follows a value is taken as behind the document, the text is read as the document. -/
theorem Reads.of_pending {text : String} {document : Document} (pending : List Frame → State)
    (opens : ∃ first ∈ text.toList.head?, isBlank first = false ∧ first ≠ ']')
    (reaches : ∀ stack, run ⟨stack, .value⟩ text.toList = some (pending stack))
    (isDocument : (pending []).document? = some document)
    (ends : ∀ stack character, endsValue character = true →
      (pending stack).next? character = State.next? ⟨stack, .complete document⟩ character) :
    Reads text document where
  alone := by
    rw [ofText?, State.start, reaches, Option.bind_some, isDocument]
  opens := opens
  followed stack tail follows := by
    obtain ⟨character, isFirst, endsSo⟩ := follows
    obtain ⟨rest, rfl⟩ := List.head?_eq_some_iff.mp isFirst
    rw [run_append, reaches, Option.bind_some, run_cons, run_cons, ends stack character endsSo]

theorem Numeral.Continues.run {start final : Numeral} {characters : List Char}
    (continues : start.Continues characters final) (stack : List Frame) :
    run ⟨stack, .numeral start⟩ characters = some ⟨stack, .numeral final⟩ := by
  induction continues with
  | refl _ => rfl
  | step taken _ inductionHypothesis =>
      rw [run_cons]
      simp only [State.next?, taken, Option.bind_some, inductionHypothesis]

/-- A number that may end takes none of the characters that follow a value. -/
theorem Numeral.next?_eq_none {numeral : Numeral} {literal : Literal} {character : Char}
    (isLiteral : numeral.literal? = some literal) (ends : endsValue character = true) :
    numeral.next? character = none := by
  have isOne : character = ' ' ∨ character = '\t' ∨ character = '\n' ∨ character = '\r' ∨
      character = ',' ∨ character = ']' ∨ character = '}' := by
    simpa only [endsValue, isBlank, Bool.or_eq_true, decide_eq_true_eq, or_assoc] using ends
  obtain ⟨notDigit, notPoint, notMark⟩ : character.isDigit = false ∧ character ≠ '.' ∧
      ¬(character = 'e' ∨ character = 'E') := by
    rcases isOne with rfl | rfl | rfl | rfl | rfl | rfl | rfl <;> decide
  obtain ⟨part, negative, digits, places, below, power⟩ := numeral
  have noMark (numeral : Numeral) : numeral.mark? character = none := by
    rw [mark?, if_neg notMark]
  have noFractionDigit (numeral : Numeral) : numeral.fractionDigit? character = none := by
    rw [fractionDigit?, notDigit, if_neg Bool.false_ne_true]
  cases part with
  | zero => simp only [next?, pointOrMark?, if_neg notPoint, noMark]
  | whole =>
      simp only [next?, notDigit, Bool.false_eq_true, if_false, pointOrMark?, if_neg notPoint,
        noMark]
  | fraction => simp only [next?, noFractionDigit, noMark]
  | power => simp only [next?, powerDigit?, notDigit, Bool.false_eq_true, if_false]
  | minus => cases isLiteral
  | point => cases isLiteral
  | mark => cases isLiteral
  | sign => cases isLiteral

theorem not_mem_of_isDigit {character : Char} {marks : List Char}
    (isDigit : character.isDigit = true)
    (noDigits : marks.all (fun mark => !mark.isDigit) = true) : character ∉ marks := by
  intro member
  have notDigit := List.all_eq_true.mp noDigits character member
  rw [isDigit] at notDigit
  cases notDigit

def signChars (negative : Bool) : List Char :=
  if negative then ['-'] else []

/-- The sign and the first digit of a number. -/
theorem run_signChars {first : Char} (isDigit : first.isDigit = true) (negative : Bool)
    (rest : List Char) (stack : List Frame) :
    run ⟨stack, .value⟩ (signChars negative ++ first :: rest) =
      run ⟨stack, .numeral (.signed negative)⟩ (first :: rest) := by
  cases negative with
  | true => rfl
  | false =>
      have notMark : first ∉ [' ', '\t', '\n', '\r', '{', '[', '"', 'n', 't', 'f', '-'] :=
        not_mem_of_isDigit isDigit rfl
      simp only [List.mem_cons, List.not_mem_nil, or_false, not_or] at notMark
      obtain ⟨numeral, taken⟩ : ∃ numeral, (Numeral.signed false).firstDigit? first =
          some numeral := by
        rw [Numeral.firstDigit?, if_pos isDigit]
        split <;> exact ⟨_, rfl⟩
      have byValue : State.next? ⟨stack, .value⟩ first = some ⟨stack, .numeral numeral⟩ := by
        simp only [State.next?, isBlank, openValue?, notMark, decide_false, Bool.or_self,
          Bool.false_eq_true, if_false]
        exact congrArg (Option.map _) taken
      have byNumeral : State.next? ⟨stack, .numeral (.signed false)⟩ first =
          some ⟨stack, .numeral numeral⟩ := by
        have next : (Numeral.signed false).next? first = some numeral := taken
        simp only [State.next?, next]
      rw [signChars, if_neg Bool.false_ne_true, List.nil_append, run_cons, run_cons, byValue,
        byNumeral]

theorem opens_signChars {first : Char} (isDigit : first.isDigit = true) (negative : Bool)
    (rest : List Char) :
    ∃ character ∈ (signChars negative ++ first :: rest).head?,
      isBlank character = false ∧ character ≠ ']' := by
  cases negative with
  | true => exact ⟨'-', rfl, rfl, by decide⟩
  | false =>
      have notMark : first ∉ [' ', '\t', '\n', '\r', ']'] :=
        not_mem_of_isDigit isDigit rfl
      simp only [List.mem_cons, List.not_mem_nil, or_false, not_or] at notMark
      refine ⟨first, rfl, ?_, notMark.2.2.2.2⟩
      simp only [isBlank, notMark, decide_false, Bool.or_self]

theorem Numeral.isDigit_of_firstDigit? {numeral next : Numeral} {character : Char}
    (taken : numeral.firstDigit? character = some next) : character.isDigit = true := by
  unfold firstDigit? at taken
  split at taken
  · rename_i isZero
    rw [isZero]
    rfl
  · split at taken
    · assumption
    · cases taken

theorem Reads.number {negative : Bool} {characters : List Char} {literal : Literal}
    (spells : Numeral.Spells negative characters literal) :
    Reads (String.ofList (signChars negative ++ characters)) (.number literal) := by
  obtain ⟨final, continues, isLiteral⟩ := spells
  have start := continues
  cases start with
  | refl => cases isLiteral
  | @step _ _ _ first rest taken _ =>
      have isDigit : first.isDigit = true := Numeral.isDigit_of_firstDigit? taken
      apply Reads.of_pending fun stack => ⟨stack, .numeral final⟩
      · rw [String.toList_ofList]
        exact opens_signChars isDigit negative rest
      · intro stack
        rw [String.toList_ofList, run_signChars isDigit, continues.run]
      · exact congrArg (Option.map Document.number) isLiteral
      · intro stack character ends
        simp only [State.next?, Numeral.next?_eq_none isLiteral ends, isLiteral]

end Document

/-- The literal that the text of a double makes. -/
def Binary64.literal (number : Binary64) : Literal :=
  if number.magnitude = 0 then
    ⟨number.negative, 0, 1, 0, false⟩
  else
    number.shortest.literal number.negative

theorem Binary64.reads_text (number : Binary64) :
    Document.Reads number.text (.number number.literal) := by
  have isSign : (if number.negative then ['-'] else []) = Document.signChars number.negative := rfl
  unfold text literal
  dsimp only
  rw [isSign]
  split
  · exact .number ((Document.Numeral.continues_zero _).spells_fractionPart (.inl rfl)
      (isDigit_zeros 1) (List.cons_ne_nil _ _) rfl rfl)
  · rename_i nonzero
    have spells := Decimal.spells_literal number.negative
      (digits_shortest_ne_zero nonzero)
    have reads := Document.Reads.number spells
    split
    · rename_i isPositional
      rwa [if_pos isPositional] at reads
    · rename_i isScientific
      rwa [if_neg isScientific] at reads

theorem Binary64.whole_literal (number : Binary64) : number.literal.whole = false := by
  unfold literal Decimal.literal
  split
  · rfl
  · split
    · split <;> rfl
    · rfl

/-- The text of a double is rounded to the double. -/
theorem Binary64.nearest_literal (number : Binary64) :
    DoubleReader.nearest number.literal = some number := by
  unfold literal
  by_cases isZero : number.magnitude = 0
  · rw [if_pos isZero, DoubleReader.nearest, ofDecimal?_zero, zero_of_magnitude isZero]
  · rw [if_neg isZero, Decimal.nearest_literal number.ofDecimal?_shortest]

namespace Number

def literal : Number → Literal
  | .integer value _ => ⟨decide (value < 0), value.natAbs, 0, 0, true⟩
  | .float value => value.literal

/-- The text of a number is read as its literal. -/
theorem reads_text (number : Number) : Document.Reads number.text (.number number.literal) := by
  cases number with
  | integer value fits =>
      have isSign : (if value < 0 then ['-'] else []) =
          Document.signChars (decide (value < 0)) := by
        simp only [Document.signChars, decide_eq_true_eq]
      rw [text, integerText, isSign]
      exact .number (Document.Numeral.spells_whole value.natAbs)
  | float value => exact value.reads_text

variable {read : DoubleReader}

theorem ofLiteral?_of_fraction {literal : Literal} (isFraction : literal.whole = false) :
    ofLiteral? read literal = (read literal).map .float := by
  unfold ofLiteral?
  dsimp only
  rw [dif_neg]
  rw [isFraction]
  exact fun isWhole => absurd isWhole.1 Bool.false_ne_true

theorem ofLiteral?_of_whole {value : Int}
    (fits : -0x8000000000000000 ≤ value ∧ value < 0x10000000000000000) :
    ofLiteral? read (literal (.integer value fits)) = some (.integer value fits) := by
  have isValue : (if decide (value < 0) = true then -(value.natAbs : Int)
      else value.natAbs) = value := by
    simp only [decide_eq_true_eq]
    split <;> omega
  have notNegativeZero : (decide (value < 0) && value.natAbs == 0) = false := by
    rw [Bool.and_eq_false_imp, decide_eq_true_eq, beq_eq_false_iff_ne]
    omega
  unfold ofLiteral? literal
  dsimp only
  rw [dif_pos ⟨by rw [notNegativeZero]; rfl, by rwa [isValue]⟩]
  exact congrArg some ((integer.injEq ..).mpr isValue)

end Number

end GuardedSql
