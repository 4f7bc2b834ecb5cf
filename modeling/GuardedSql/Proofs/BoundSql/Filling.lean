import GuardedSql.BoundSql
import GuardedSql.Keyword
import Mathlib.Data.List.Forall2

set_option autoImplicit false

/-!
Writing the parameters back into the text.

Filling reads the text once, from left to right, and replaces each placeholder by the next
parameter as it is printed; it has no result if placeholders or parameters are left over. Text that
was written for a parameter is not read again.

Filling the parts of a text one after the other is filling the whole, `Fills.append`, since each
part takes exactly its own parameters. The operations on bound SQL only put such parts together.
-/

namespace GuardedSql

open List (Forall₂)

namespace BoundSql

def fillChars? (print : Parameter → String) : List Char → List Parameter → Option (List Char)
  | [], [] => some []
  | [], _ :: _ => none
  | character :: rest, params =>
      if character = placeholder then
        match params with
        | [] => none
        | parameter :: others =>
            (fillChars? print rest others).map fun filled => (print parameter).toList ++ filled
      else
        (fillChars? print rest params).map fun filled => character :: filled

/-- The text with each placeholder replaced by the next parameter. -/
def fill? (print : Parameter → String) (bound : BoundSql) : Option String :=
  (fillChars? print bound.sql.toList bound.params).map String.ofList

variable {print : Parameter → String}

theorem count_eq_of_fillChars? {text : List Char} {params : List Parameter} {filled : List Char}
    (found : fillChars? print text params = some filled) :
    text.count placeholder = params.length := by
  induction text generalizing params filled with
  | nil =>
      cases params with
      | nil => rfl
      | cons _ _ => cases found
  | cons character rest inductionHypothesis =>
      unfold fillChars? at found
      split at found
      · rename_i isPlaceholder
        cases params with
        | nil => cases found
        | cons parameter others =>
            obtain ⟨_, restFound, _⟩ := Option.map_eq_some_iff.mp found
            rw [isPlaceholder, List.count_cons_self, inductionHypothesis restFound,
              List.length_cons]
      · rename_i other
        obtain ⟨_, restFound, _⟩ := Option.map_eq_some_iff.mp found
        rw [List.count_cons_of_ne other, inductionHypothesis restFound]

/-- Nothing is left over when a text has been filled. -/
theorem placeholders_eq_of_fill? {bound : BoundSql} {text : String}
    (filled : bound.fill? print = some text) : bound.placeholders = bound.params.length := by
  obtain ⟨_, found, _⟩ := Option.map_eq_some_iff.mp filled
  exact count_eq_of_fillChars? found

/-- The parameters of the first part are used up where the second part begins. -/
theorem fillChars?_append {first second firstFilled secondFilled : List Char}
    {firstParams secondParams : List Parameter}
    (firstFound : fillChars? print first firstParams = some firstFilled)
    (secondFound : fillChars? print second secondParams = some secondFilled) :
    fillChars? print (first ++ second) (firstParams ++ secondParams) =
      some (firstFilled ++ secondFilled) := by
  -- A placeholder takes a parameter, so the parameters vary along the first text.
  induction first generalizing firstParams firstFilled with
  | nil =>
      cases firstParams with
      | nil =>
          cases firstFound
          exact secondFound
      | cons _ _ => cases firstFound
  | cons character rest inductionHypothesis =>
      unfold fillChars? at firstFound
      rw [List.cons_append, fillChars?.eq_def]
      split at firstFound
      · rename_i isPlaceholder
        cases firstParams with
        | nil => cases firstFound
        | cons parameter others =>
            obtain ⟨restFilled, restFound, rfl⟩ := Option.map_eq_some_iff.mp firstFound
            simp only [if_pos isPlaceholder, List.cons_append, inductionHypothesis restFound,
              Option.map_some, List.append_assoc]
      · rename_i other
        obtain ⟨restFilled, restFound, rfl⟩ := Option.map_eq_some_iff.mp firstFound
        simp only [if_neg other, inductionHypothesis restFound, Option.map_some, List.cons_append]

theorem fillChars?_of_not_mem {text : List Char} (free : placeholder ∉ text) :
    fillChars? print text [] = some text := by
  induction text with
  | nil => rfl
  | cons character rest inductionHypothesis =>
      have other : character ≠ placeholder := fun same => free (same ▸ List.mem_cons_self)
      have restFree : placeholder ∉ rest := fun member => free (List.mem_cons_of_mem _ member)
      rw [fillChars?, if_neg other, inductionHypothesis restFree]
      rfl

end BoundSql

def PlaceholderFree (text : String) : Prop :=
  BoundSql.placeholder ∉ text.toList

instance (text : String) : Decidable (PlaceholderFree text) :=
  inferInstanceAs (Decidable (_ ∉ _))

theorem PlaceholderFree.append {first second : String} (firstFree : PlaceholderFree first)
    (secondFree : PlaceholderFree second) : PlaceholderFree (first ++ second) := by
  rw [PlaceholderFree, String.toList_append, List.mem_append]
  exact fun member => member.elim firstFree secondFree

theorem PlaceholderFree.spaced {first second : String} (firstFree : PlaceholderFree first)
    (secondFree : PlaceholderFree second) : PlaceholderFree (first ++ " " ++ second) :=
  (firstFree.append (by decide)).append secondFree

theorem PlaceholderFree.intercalate {separator : String} {texts : List String}
    (free : PlaceholderFree separator) (each : ∀ text ∈ texts, PlaceholderFree text) :
    PlaceholderFree (separator.intercalate texts) := by
  induction texts with
  | nil =>
      rw [String.intercalate_nil]
      decide
  | cons text rest inductionHypothesis =>
      obtain ⟨textFree, restEach⟩ := List.forall_mem_cons.mp each
      have restFree := inductionHypothesis restEach
      cases rest with
      | nil => rwa [String.intercalate_singleton]
      | cons _ _ =>
          rw [String.intercalate_cons_cons]
          exact (textFree.append free).append restFree

theorem Comparator.placeholderFree_token (comparator : Comparator) :
    PlaceholderFree comparator.token := by
  cases comparator <;> decide

theorem ListComparator.placeholderFree_token (comparator : ListComparator) :
    PlaceholderFree comparator.token := by
  cases comparator <;> decide

theorem Connective.placeholderFree_separator (connective : Connective) :
    PlaceholderFree (" " ++ connective.token ++ " ") := by
  cases connective <;> decide

theorem Aggregate.placeholderFree_token (function : Aggregate) :
    PlaceholderFree function.token := by
  cases function <;> decide

theorem Aggregate.placeholderFree_call (function : Aggregate) :
    PlaceholderFree (function.token ++ "(") :=
  function.placeholderFree_token.append (by decide)

/-- Filling gives the text, with nothing left over. -/
def Fills (print : Parameter → String) (bound : BoundSql) (text : String) : Prop :=
  BoundSql.fillChars? print bound.sql.toList bound.params = some text.toList

namespace Fills

variable {print : Parameter → String}

theorem fill?_eq {bound : BoundSql} {text : String} (fills : Fills print bound text) :
    bound.fill? print = some text := by
  rw [BoundSql.fill?, fills, Option.map_some, String.ofList_toList]

theorem append {first second firstText secondText : String}
    {firstParams secondParams : List Parameter}
    (firstFills : Fills print ⟨first, firstParams⟩ firstText)
    (secondFills : Fills print ⟨second, secondParams⟩ secondText) :
    Fills print ⟨first ++ second, firstParams ++ secondParams⟩ (firstText ++ secondText) := by
  rw [Fills, String.toList_append, String.toList_append]
  exact BoundSql.fillChars?_append firstFills secondFills

theorem verbatim {text : String} (free : PlaceholderFree text) :
    Fills print (.verbatim text) text :=
  BoundSql.fillChars?_of_not_mem free

theorem bind (parameter : Parameter) : Fills print (.bind parameter) (print parameter) := by
  rw [Fills, BoundSql.bind, String.toList_singleton]
  simp only [BoundSql.fillChars?, if_true, Option.map_some, List.append_nil]

theorem between {before after text : String} {bound : BoundSql}
    (beforeFree : PlaceholderFree before) (afterFree : PlaceholderFree after)
    (fills : Fills print bound text) :
    Fills print ⟨before ++ bound.sql ++ after, bound.params⟩ (before ++ text ++ after) := by
  have whole := ((verbatim beforeFree).append fills).append (verbatim afterFree)
  rwa [List.nil_append, List.append_nil] at whole

theorem parenthesized {bound : BoundSql} {text : String} (fills : Fills print bound text) :
    Fills print bound.parenthesized ("(" ++ text ++ ")") :=
  between (by decide) (by decide) fills

theorem after {bound : BoundSql} {lead text : String} (free : PlaceholderFree lead)
    (fills : Fills print bound text) : Fills print (bound.after lead) (lead ++ " " ++ text) :=
  (verbatim (free.append (by decide))).append fills

theorem joinWith {separator : String} {parts : List BoundSql} {texts : List String}
    (free : PlaceholderFree separator) (each : Forall₂ (Fills print) parts texts) :
    Fills print (.joinWith separator parts) (separator.intercalate texts) := by
  induction each with
  | nil =>
      rw [BoundSql.joinWith_nil, String.intercalate_nil]
      exact verbatim (by decide)
  | @cons part text parts texts head tail inductionHypothesis =>
      cases tail with
      | nil =>
          rw [BoundSql.joinWith_singleton, String.intercalate_singleton]
          exact head
      | cons _ _ =>
          have whole := (head.append (verbatim free)).append inductionHypothesis
          rw [List.append_nil] at whole
          rw [BoundSql.joinWith_cons_cons, String.intercalate_cons_cons]
          exact whole

end Fills

end GuardedSql
