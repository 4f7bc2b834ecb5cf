import Mathlib.Data.List.Forall2

set_option autoImplicit false

/-!
When a chain of checks gives a result.

Checks stop at the first failure, so a chain has a result exactly when each of its checks has one.
For a list this is a relation between the checked elements and their results, place by place.
-/

namespace GuardedSql

open List (Forall₂)

variable {α β ε : Type}

theorem Except.bind_eq_ok_iff {first : Except ε α} {next : α → Except ε β} {result : β} :
    (first >>= next) = .ok result ↔ ∃ value, first = .ok value ∧ next value = .ok result := by
  cases first with
  | error cause =>
      constructor
      · intro failed
        cases failed
      · rintro ⟨value, failed, _⟩
        cases failed
  | ok value =>
      constructor
      · intro accepted
        exact ⟨value, rfl, accepted⟩
      · rintro ⟨other, same, accepted⟩
        cases same
        exact accepted

/-- Two chains that begin with the same check need agree on its result only. -/
theorem Except.bind_congr_ok {first : Except ε α} {next other : α → Except ε β}
    (same : ∀ value, first = .ok value → next value = other value) :
    (first >>= next) = (first >>= other) := by
  cases first with
  | error cause => rfl
  | ok value => exact same value rfl

theorem Except.map_eq_ok_iff {change : α → β} {checked : Except ε α} {result : β} :
    checked.map change = .ok result ↔ ∃ value, checked = .ok value ∧ change value = result := by
  cases checked with
  | error cause => simp only [Except.map, reduceCtorEq, false_and, exists_false]
  | ok value => simp only [Except.map, Except.ok.injEq, exists_eq_left']

/-- Changing what a list of checks gives is changing what each of them gives. -/
theorem Except.mapM_map {γ : Type} {check : α → Except ε β} {change : β → γ} (values : List α) :
    values.mapM (fun value => (check value).map change) =
      (values.mapM check).map (List.map change) := by
  induction values with
  | nil => rfl
  | cons value rest inductionHypothesis =>
      rw [List.mapM_cons, List.mapM_cons, inductionHypothesis]
      cases check value with
      | error cause => rfl
      | ok result =>
          cases rest.mapM check with
          | error cause => rfl
          | ok results => rfl

theorem Except.mapM_eq_ok_iff {check : α → Except ε β} {values : List α} {results : List β} :
    values.mapM check = .ok results ↔
      Forall₂ (fun value result => check value = .ok result) values results := by
  induction values generalizing results with
  | nil =>
      rw [List.forall₂_nil_left_iff, List.mapM_nil]
      exact ⟨fun same => (Except.ok.inj same).symm, fun same => same ▸ rfl⟩
  | cons value rest inductionHypothesis =>
      rw [List.forall₂_cons_left_iff, List.mapM_cons]
      simp only [bind_eq_ok_iff, inductionHypothesis]
      constructor
      · rintro ⟨result, checked, others, restChecked, same⟩
        exact ⟨result, others, checked, restChecked, (Except.ok.inj same).symm⟩
      · rintro ⟨result, others, checked, restChecked, same⟩
        exact ⟨result, checked, others, restChecked, same ▸ rfl⟩

theorem Except.exists_mapM_eq_ok_iff {check : α → Except ε β} {values : List α} :
    (∃ results, values.mapM check = .ok results) ↔
      ∀ value ∈ values, ∃ result, check value = .ok result := by
  simp only [mapM_eq_ok_iff]
  induction values with
  | nil => exact ⟨fun _ _ member => absurd member List.not_mem_nil, fun _ => ⟨[], .nil⟩⟩
  | cons value rest inductionHypothesis =>
      rw [List.forall_mem_cons, ← inductionHypothesis]
      constructor
      · rintro ⟨_, related⟩
        cases related with
        | cons head tail => exact ⟨⟨_, head⟩, _, tail⟩
      · rintro ⟨⟨result, head⟩, results, tail⟩
        exact ⟨result :: results, .cons head tail⟩

theorem Option.mapM_eq_some_iff {read : α → Option β} {values : List α} {results : List β} :
    values.mapM read = some results ↔
      Forall₂ (fun value result => read value = some result) values results := by
  induction values generalizing results with
  | nil =>
      rw [List.forall₂_nil_left_iff, List.mapM_nil]
      exact ⟨fun same => (Option.some.inj same).symm, fun same => same ▸ rfl⟩
  | cons value rest inductionHypothesis =>
      rw [List.forall₂_cons_left_iff, List.mapM_cons]
      simp only [Option.bind_eq_bind, Option.bind_eq_some_iff, inductionHypothesis]
      constructor
      · rintro ⟨result, readFirst, others, readRest, same⟩
        exact ⟨result, others, readFirst, readRest, (Option.some.inj same).symm⟩
      · rintro ⟨result, others, readFirst, readRest, same⟩
        exact ⟨result, readFirst, others, readRest, same ▸ rfl⟩

/-- Reading a list depends on nothing but how each of its elements is read. -/
theorem mapM_congr_of_mem {m : Type → Type} [Monad m] [LawfulMonad m] {read other : α → m β}
    {values : List α} (same : ∀ value ∈ values, read value = other value) :
    values.mapM read = values.mapM other := by
  induction values with
  | nil => rw [List.mapM_nil, List.mapM_nil]
  | cons value rest inductionHypothesis =>
      obtain ⟨first, others⟩ := List.forall_mem_cons.mp same
      rw [List.mapM_cons, List.mapM_cons, first, inductionHypothesis others]

/-- The failure of a check, if it has failed. -/
def failure? : Except ε α → Option ε
  | .error cause => some cause
  | .ok _ => none

theorem failure?_eq_some_iff {checked : Except ε α} {cause : ε} :
    failure? checked = some cause ↔ checked = .error cause := by
  cases checked with
  | error other => simp only [failure?, Option.some.injEq, Except.error.injEq]
  | ok value => simp only [failure?, reduceCtorEq]

theorem failure?_eq_none_iff {checked : Except ε α} :
    failure? checked = none ↔ ∃ value, checked = .ok value := by
  cases checked with
  | error cause => simp only [failure?, reduceCtorEq, exists_false]
  | ok value => simp only [failure?, Except.ok.injEq, exists_eq']

theorem failure?_map (change : α → β) (checked : Except ε α) :
    failure? (checked.map change) = failure? checked := by
  cases checked with
  | error cause => rfl
  | ok value => rfl

theorem failure?_ite (condition : Prop) [Decidable condition] (value : α) (cause : ε) :
    failure? (if condition then .ok value else .error cause) =
      (if condition then [] else [cause]).head? := by
  by_cases holds : condition
  · rw [if_pos holds, if_pos holds]
    rfl
  · rw [if_neg holds, if_neg holds]
    rfl

/-- A chain of two checks fails for the first cause in a list if the first check and then the second
one do so for the two parts of the list. -/
theorem failure?_bind_eq_head? {first : Except ε α} {next : α → Except ε β} {here later : List ε}
    (atFirst : failure? first = here.head?)
    (after : ∀ value, first = .ok value → failure? (next value) = later.head?) :
    failure? (first >>= next) = (here ++ later).head? := by
  cases first with
  | error cause => rw [List.head?_append, ← atFirst, failure?, Option.some_or]; rfl
  | ok value =>
      rw [List.head?_append, ← atFirst, failure?, Option.none_or]
      exact after value rfl

/-- A list of checks fails for the first cause of its first failing check. -/
theorem failure?_mapM_eq_head? {check : α → Except ε β} {causes : α → List ε}
    (each : ∀ value, failure? (check value) = (causes value).head?) (values : List α) :
    failure? (values.mapM check) = (values.flatMap causes).head? := by
  induction values with
  | nil => rfl
  | cons value rest inductionHypothesis =>
      rw [List.mapM_cons, List.flatMap_cons]
      refine failure?_bind_eq_head? (each value) fun result _ => ?_
      rw [← inductionHypothesis]
      exact failure?_map (result :: ·) (rest.mapM check)

theorem Option.isSome_mapM {read : α → Option β} (values : List α) :
    (values.mapM read).isSome = values.all fun value => (read value).isSome := by
  induction values with
  | nil => rfl
  | cons value rest inductionHypothesis =>
      rw [List.mapM_cons, List.all_cons, ← inductionHypothesis]
      cases read value with
      | none => rfl
      | some result =>
          cases rest.mapM read with
          | none => rfl
          | some results => rfl

/-- A fact about every element may be used wherever two lists are related. -/
theorem forall₂_imp_of_mem {relation refined : α → β → Prop} {values : List α}
    {results : List β}
    (step : ∀ value ∈ values, ∀ result, relation value result → refined value result)
    (related : Forall₂ relation values results) : Forall₂ refined values results :=
  ((List.forall₂_and_left values results).mpr ⟨step, related⟩).imp
    fun _ result both => both.1 result both.2

/-- If every place can be followed into a related place, so can the whole list. -/
theorem forall₂_follow {γ δ : Type} {similar : α → γ → Prop} {target : γ → δ → Prop}
    {kept : β → δ → Prop} {values : List α} {results : List β} {others : List γ}
    (step : Forall₂ (fun value result => ∀ other, similar value other →
      ∃ otherResult, target other otherResult ∧ kept result otherResult) values results)
    (related : Forall₂ similar values others) :
    ∃ otherResults, Forall₂ target others otherResults ∧ Forall₂ kept results otherResults := by
  induction step generalizing others with
  | nil =>
      cases related
      exact ⟨[], .nil, .nil⟩
  | cons head _ inductionHypothesis =>
      cases related with
      | cons headRelated restRelated =>
          obtain ⟨result, headTarget, headKept⟩ := head _ headRelated
          obtain ⟨rest, restTarget, restKept⟩ := inductionHypothesis restRelated
          exact ⟨result :: rest, .cons headTarget restTarget, .cons headKept restKept⟩

/-- If every place has a related result, so has the whole list; and if each of these is the one
that was there, the list is. -/
theorem forall₂_choose {target : α → β → Prop} {condition : α → Prop} {values : List α}
    {results : List β}
    (each : Forall₂ (fun value result =>
      ∃ other, target value other ∧ (condition value → other = result)) values results) :
    ∃ others, Forall₂ target values others ∧
      ((∀ value ∈ values, condition value) → others = results) := by
  induction each with
  | nil => exact ⟨[], .nil, fun _ => rfl⟩
  | cons head _ inductionHypothesis =>
      obtain ⟨other, headTarget, headSame⟩ := head
      obtain ⟨others, restTarget, restSame⟩ := inductionHypothesis
      refine ⟨other :: others, .cons headTarget restTarget, ?_⟩
      intro conditions
      obtain ⟨headCondition, restConditions⟩ := List.forall_mem_cons.mp conditions
      rw [headSame headCondition, restSame restConditions]

theorem forall₂_map_map_iff {γ δ : Type} {relation : γ → δ → Prop} {first : α → γ}
    {second : β → δ} {values : List α} {others : List β} :
    Forall₂ relation (values.map first) (others.map second) ↔
      Forall₂ (fun value other => relation (first value) (second other)) values others := by
  rw [List.forall₂_map_left_iff, List.forall₂_map_right_iff]

theorem forall_mem_of_forall₂ {property : β → Prop} {values : List α} {results : List β}
    (each : Forall₂ (fun _ result => property result) values results) :
    ∀ result ∈ results, property result := by
  induction each with
  | nil => exact fun result member => absurd member List.not_mem_nil
  | cons head _ inductionHypothesis => exact List.forall_mem_cons.mpr ⟨head, inductionHypothesis⟩

end GuardedSql
