import GuardedSql.Json.Document
import GuardedSql.Json

set_option autoImplicit false

/-!
A string is read back from its quoted text.

Every character is escaped by itself, and an open string that takes the escape of a character has
that character as one more unit: `OpenString.continues_escape`. The machine reads strings in two
modes, one for values and one for the names of members; `run_quoted` serves both.
-/

namespace GuardedSql

namespace Document

theorem joinUnits_map_scalar (characters joined : List Char) :
    joinUnits (characters.map .scalar) joined = some (characters.reverse ++ joined) := by
  induction characters generalizing joined with
  | nil => rfl
  | cons character rest inductionHypothesis =>
      rw [List.map_cons, joinUnits, inductionHypothesis, List.reverse_cons, List.append_assoc,
        List.singleton_append]

theorem hexValue?_hexDigit {digit : Nat} (small : digit < 16) :
    hexValue? (Json.hexDigit digit) = some digit := by
  have each : ∀ digit < 16, hexValue? (Json.hexDigit digit) = some digit := by decide
  exact each digit small

theorem TextUnit.ofCode_toNat {character : Char} (low : character.toNat < 0xD800) :
    TextUnit.ofCode character.toNat = .scalar character := by
  rw [ofCode, if_neg (by omega), if_neg (by omega), Char.ofNat_toNat]

namespace OpenString

/-- The characters lead from one open string to another, and none of them ends the string. -/
inductive Continues : OpenString → List Char → OpenString → Prop where
  | refl (text : OpenString) : Continues text [] text
  | step {text next final : OpenString} {character : Char} {rest : List Char}
      (inside : ¬(text.mayEnd = true ∧ character = '"'))
      (taken : text.next? character = some next) (continues : Continues next rest final) :
      Continues text (character :: rest) final

theorem Continues.append {first middle last : OpenString} {characters others : List Char}
    (continues : Continues first characters middle) (behind : Continues middle others last) :
    Continues first (characters ++ others) last := by
  induction continues with
  | refl _ => exact behind
  | step inside taken _ inductionHypothesis =>
      exact .step inside taken (inductionHypothesis behind)

variable {units : List TextUnit} {character : Char}

/-- Inside an escape no character ends the string. -/
private theorem Continues.step_inside {escape : Escape} {next final : OpenString}
    {rest : List Char} (inside : escape ≠ .absent)
    (taken : (OpenString.mk units escape).next? character = some next)
    (continues : Continues next rest final) :
    Continues ⟨units, escape⟩ (character :: rest) final :=
  .step (fun ends => inside (of_decide_eq_true ends.1)) taken continues

private theorem Continues.of_opened {rest : List Char} {final : OpenString}
    (continues : Continues ⟨units, .opened⟩ rest final) :
    Continues ⟨units, .absent⟩ ('\\' :: rest) final :=
  .step (fun ends => absurd ends.2 (by decide)) rfl continues

private theorem continues_short {mark : Char} (marks : mark ≠ 'u')
    (stands : escaped? mark = some character) :
    Continues ⟨units, .absent⟩ ['\\', mark] ⟨.scalar character :: units, .absent⟩ := by
  have taken : (OpenString.mk units .opened).next? mark =
      some ⟨.scalar character :: units, .absent⟩ := by
    simp only [next?, if_neg marks, stands, Option.map_some]
  exact .of_opened (.step_inside (by decide) taken (.refl _))

/-- A hexadecimal digit that is not the last one is added to the code. -/
private theorem next?_hexDigit {missing code digit : Nat} (more : 1 < missing)
    (small : digit < 16) :
    (OpenString.mk units (.hexadecimal missing code)).next? (Json.hexDigit digit) =
      some ⟨units, .hexadecimal (missing - 1) (16 * code + digit)⟩ := by
  simp only [next?, hexValue?_hexDigit small, Option.map_some, if_neg (Nat.not_le.mpr more)]

private theorem next?_lastHexDigit {code digit : Nat} (small : digit < 16) :
    (OpenString.mk units (.hexadecimal 1 code)).next? (Json.hexDigit digit) =
      some ⟨TextUnit.ofCode (16 * code + digit) :: units, .absent⟩ := by
  simp only [next?, hexValue?_hexDigit small, Option.map_some, Nat.le_refl, if_true]

private theorem continues_control (control : character.toNat < 0x20) :
    Continues ⟨units, .absent⟩
      ['\\', 'u', '0', '0', Json.hexDigit (character.toNat / 16),
        Json.hexDigit (character.toNat % 16)]
      ⟨.scalar character :: units, .absent⟩ := by
  have highSmall : character.toNat / 16 < 16 := by omega
  have lowSmall : character.toNat % 16 < 16 := by omega
  have last : (OpenString.mk units (.hexadecimal 1 (character.toNat / 16))).next?
      (Json.hexDigit (character.toNat % 16)) = some ⟨.scalar character :: units, .absent⟩ := by
    rw [next?_lastHexDigit lowSmall, Nat.div_add_mod,
      TextUnit.ofCode_toNat (Nat.lt_trans control (by decide))]
  have third : (OpenString.mk units (.hexadecimal 2 0)).next?
      (Json.hexDigit (character.toNat / 16)) =
        some ⟨units, .hexadecimal 1 (character.toNat / 16)⟩ := by
    rw [next?_hexDigit (by decide) highSmall, Nat.mul_zero, Nat.zero_add]
  refine .of_opened (.step_inside nofun rfl ?_)
  refine .step_inside nofun rfl (.step_inside nofun rfl ?_)
  exact .step_inside nofun third (.step_inside nofun last (.refl _))

private theorem continues_plain (notQuote : character ≠ '"') (notBackslash : character ≠ '\\')
    (printable : ¬character.toNat < 0x20) :
    Continues ⟨units, .absent⟩ [character] ⟨.scalar character :: units, .absent⟩ := by
  refine .step (fun ends => notQuote ends.2) ?_ (.refl _)
  simp only [next?, if_neg notBackslash, if_neg printable]

/-- A character is written as a backslash and a mark, by its code, or as itself. -/
private theorem escape_cases (character : Char) :
    (∃ mark, mark ≠ 'u' ∧ escaped? mark = some character ∧
      Json.escape character = ['\\', mark]) ∨
    (character.toNat < 0x20 ∧ Json.escape character = ['\\', 'u', '0', '0',
      Json.hexDigit (character.toNat / 16), Json.hexDigit (character.toNat % 16)]) ∨
    (character ≠ '"' ∧ character ≠ '\\' ∧ ¬character.toNat < 0x20 ∧
      Json.escape character = [character]) := by
  by_cases isShort : character ∈ ['"', '\\', '\x08', '\x0c', '\n', '\r', '\t']
  · left
    simp only [List.mem_cons, List.not_mem_nil, or_false] at isShort
    rcases isShort with rfl | rfl | rfl | rfl | rfl | rfl | rfl
    · exact ⟨'"', by decide, rfl, rfl⟩
    · exact ⟨'\\', by decide, rfl, rfl⟩
    · exact ⟨'b', by decide, rfl, rfl⟩
    · exact ⟨'f', by decide, rfl, rfl⟩
    · exact ⟨'n', by decide, rfl, rfl⟩
    · exact ⟨'r', by decide, rfl, rfl⟩
    · exact ⟨'t', by decide, rfl, rfl⟩
  · right
    simp only [List.mem_cons, List.not_mem_nil, or_false, not_or] at isShort
    unfold Json.escape
    simp only [isShort, if_false]
    split
    · rename_i control
      exact .inl ⟨control, rfl⟩
    · rename_i printable
      exact .inr ⟨isShort.1, isShort.2.1, printable, rfl⟩

/-- The escape of a character adds this character to an open string. -/
theorem continues_escape (units : List TextUnit) (character : Char) :
    Continues ⟨units, .absent⟩ (Json.escape character)
      ⟨.scalar character :: units, .absent⟩ := by
  rcases escape_cases character with ⟨mark, marks, stands, written⟩ | ⟨control, written⟩ |
    ⟨notQuote, notBackslash, printable, written⟩
  · exact written ▸ continues_short marks stands
  · exact written ▸ continues_control control
  · exact written ▸ continues_plain notQuote notBackslash printable

theorem continues_escapes (units : List TextUnit) (characters : List Char) :
    Continues ⟨units, .absent⟩ (characters.flatMap Json.escape)
      ⟨(characters.map .scalar).reverse ++ units, .absent⟩ := by
  induction characters generalizing units with
  | nil => exact .refl _
  | cons character rest inductionHypothesis =>
      rw [List.flatMap_cons, List.map_cons, List.reverse_cons, List.append_assoc,
        List.singleton_append]
      exact (continues_escape units character).append (inductionHypothesis _)

/-- The escapes of a text make an open string that may end and has this text as its content. -/
theorem exists_continues_of_text (text : String) :
    ∃ final, Continues .start (text.toList.flatMap Json.escape) final ∧ final.mayEnd = true ∧
      final.content? = some text := by
  refine ⟨_, continues_escapes [] text.toList, rfl, ?_⟩
  rw [content?, List.append_nil, ← List.map_reverse, joinUnits_map_scalar, List.reverse_reverse,
    List.append_nil, Option.map_some, String.ofList_toList]

end OpenString

theorem run_cons (state : State) (character : Char) (rest : List Char) :
    run state (character :: rest) = (state.next? character).bind fun next => run next rest := by
  rw [run]
  cases state.next? character with
  | none => rfl
  | some next => rfl

/-- The states that read a string, for each string they have read so far. A quotation mark at the
end of the string leads to the state of its content. -/
structure ReadsStrings (reading : OpenString → State) (ended : Option String → State) : Prop where
  inside : ∀ text character, ¬(text.mayEnd = true ∧ character = '"') →
    (reading text).next? character = (text.next? character).map reading
  ends : ∀ text, text.mayEnd = true →
    (reading text).next? '"' = some (ended text.content?)

theorem readsStrings_value (stack : List Frame) :
    ReadsStrings (fun text => ⟨stack, .string text⟩)
      (fun content => ⟨stack, .complete (.string content)⟩) where
  inside text character inside := by
    simp only [State.next?, if_neg inside]
  ends text mayEnd := by
    simp only [State.next?, mayEnd, true_and, if_true]

theorem readsStrings_name (stack : List Frame) (before : Members) :
    ReadsStrings (fun text => ⟨stack, .name before text⟩)
      (fun name => ⟨stack, .colon before name⟩) where
  inside text character inside := by
    simp only [State.next?, if_neg inside]
  ends text mayEnd := by
    simp only [State.next?, mayEnd, true_and, if_true]

namespace ReadsStrings

variable {reading : OpenString → State} {ended : Option String → State}

theorem run_of_continues (reads : ReadsStrings reading ended) {text final : OpenString}
    {characters : List Char} (continues : text.Continues characters final) (rest : List Char) :
    run (reading text) (characters ++ rest) = run (reading final) rest := by
  induction continues with
  | refl _ => rfl
  | step inside taken _ inductionHypothesis =>
      rw [List.cons_append, run_cons, reads.inside _ _ inside, taken, Option.map_some,
        Option.bind_some, inductionHypothesis]

/-- A quoted text is read as this text. -/
theorem run_quoted (reads : ReadsStrings reading ended) {state : State}
    (opens : state.next? '"' = some (reading .start)) (text : String) (rest : List Char) :
    run state ((Json.quoted text).toList ++ rest) = run (ended (some text)) rest := by
  obtain ⟨final, continues, mayEnd, content⟩ := OpenString.exists_continues_of_text text
  rw [Json.quoted, String.toList_ofList, List.cons_append, run_cons, opens, Option.bind_some,
    List.append_assoc, reads.run_of_continues continues, List.singleton_append, run_cons,
    reads.ends final mayEnd, Option.bind_some, content]

end ReadsStrings

end Document

end GuardedSql
