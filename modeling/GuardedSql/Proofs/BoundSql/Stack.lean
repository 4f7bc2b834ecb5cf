import GuardedSql.BoundSql
import GuardedSql.Proofs.Statement.Placeholders
import Mathlib.Algebra.GroupWithZero.Nat

set_option autoImplicit false

/-!
What steps on a stack of bound SQL keep.

Read from its bottom to its top, a stack lists exactly the parameters that were bound, in the order
in which they were: joining, wrapping and leading texts lose none, repeat none and move none past
another. Joined parts have their own placeholders and those of the separators between them, so as
long as no text of the steps has a placeholder, everything on the stack has as many placeholders as
parameters. Each is a lemma on one step and one on a run of steps; `runSteps_params_placeholders`
puts them together.
-/

namespace GuardedSql

namespace BoundSql

/-- The parameters on a stack, from its bottom to its top. -/
def paramsOf (stack : List BoundSql) : List Parameter :=
  stack.reverse.flatMap params

/-- The parameter that a step binds, if it does. -/
def Step.bound? : Step → Option Parameter
  | bind parameter => some parameter
  | _ => none

theorem paramsOf_cons (top : BoundSql) (below : List BoundSql) :
    paramsOf (top :: below) = paramsOf below ++ top.params := by
  rw [paramsOf, List.reverse_cons, List.flatMap_append, List.flatMap_singleton]
  rfl

theorem paramsOf_append (above below : List BoundSql) :
    paramsOf (above ++ below) = paramsOf below ++ paramsOf above := by
  rw [paramsOf, List.reverse_append, List.flatMap_append]
  rfl

theorem paramsOf_changeTop (change : BoundSql → BoundSql)
    (keeps : ∀ bound, (change bound).params = bound.params) (stack : List BoundSql) :
    paramsOf (changeTop change stack) = paramsOf stack := by
  cases stack with
  | nil => rw [changeTop, paramsOf_cons, keeps, empty, List.append_nil]
  | cons top below => rw [changeTop, paramsOf_cons, paramsOf_cons, keeps]

/-- A step puts the parameter that it binds behind those that are there. -/
theorem Step.paramsOf_apply (stack : List BoundSql) (step : Step) :
    paramsOf (step.apply stack) = paramsOf stack ++ step.bound?.toList := by
  have bindsNone {next : List BoundSql} (kept : paramsOf next = paramsOf stack) :
      paramsOf next = paramsOf stack ++ [] :=
    kept.trans (List.append_nil _).symm
  cases step with
  | verbatim text => exact paramsOf_cons (.verbatim text) stack
  | empty => exact paramsOf_cons .empty stack
  | bind parameter => exact paramsOf_cons (.bind parameter) stack
  | join count separator =>
      have kept : paramsOf (joinWith separator (stack.take count).reverse :: stack.drop count) =
          paramsOf (stack.drop count) ++ paramsOf (stack.take count) := paramsOf_cons _ _
      rw [← paramsOf_append, List.take_append_drop] at kept
      exact bindsNone kept
  | parenthesize => exact bindsNone (paramsOf_changeTop parenthesized (fun _ => rfl) stack)
  | lead text =>
      exact bindsNone (paramsOf_changeTop (fun bound => bound.after text) (fun _ => rfl) stack)
  | reassemble =>
      exact bindsNone
        (paramsOf_changeTop (fun bound => ⟨bound.sql, bound.params⟩) (fun _ => rfl) stack)

theorem paramsOf_foldl_apply (steps : List Step) (stack : List BoundSql) :
    paramsOf (steps.foldl Step.apply stack) = paramsOf stack ++ steps.filterMap Step.bound? := by
  -- The steps that are left act on whatever stack the first ones have built.
  induction steps generalizing stack with
  | nil => exact (List.append_nil _).symm
  | cons step rest inductionHypothesis =>
      rw [List.foldl_cons, inductionHypothesis, step.paramsOf_apply, List.append_assoc]
      cases bound : step.bound? with
      | none => rw [List.filterMap_cons_none bound, Option.toList_none, List.nil_append]
      | some parameter => rw [List.filterMap_cons_some bound, Option.toList_some,
          List.singleton_append]

/-- The text that a step writes as it is, if it does. -/
def Step.text? : Step → Option String
  | verbatim text => some text
  | join _ separator => some separator
  | lead text => some text
  | _ => none

/-- Joined parts have their own placeholders and those of the separators between them. -/
theorem placeholders_joinWith (separator : String) (part : BoundSql) (others : List BoundSql) :
    (joinWith separator (part :: others)).placeholders =
      ((part :: others).map placeholders).sum +
        others.length * (verbatim separator).placeholders := by
  induction others generalizing part with
  | nil =>
      rw [joinWith_singleton, List.map_singleton, List.sum_singleton, List.length_nil,
        Nat.zero_mul, Nat.add_zero]
  | cons next rest inductionHypothesis =>
      have wholeSum : ((part :: next :: rest).map placeholders).sum =
          part.placeholders + ((next :: rest).map placeholders).sum := List.sum_cons
      rw [joinWith_cons_cons_eq_append, placeholders_append, placeholders_append,
        inductionHypothesis, wholeSum, List.length_cons, Nat.succ_mul]
      omega

theorem accounted_joinWith {separator : String} (free : PlaceholderFree separator)
    {parts : List BoundSql} (each : ∀ part ∈ parts, Accounted [] part) :
    Accounted [] (joinWith separator parts) := by
  have whole : Accounted (parts.flatMap fun _ => []) (.joinWith separator (parts.map id)) :=
    .joinWith free each
  rwa [List.flatMap_eq_nil_iff.mpr fun _ _ => rfl, List.map_id] at whole

theorem accounted_changeTop {change : BoundSql → BoundSql} {stack : List BoundSql}
    (changed : ∀ bound, Accounted [] bound → Accounted [] (change bound))
    (each : ∀ bound ∈ stack, Accounted [] bound) :
    ∀ bound ∈ changeTop change stack, Accounted [] bound := by
  cases stack with
  | nil => exact List.forall_mem_singleton.mpr (changed empty (.word (by decide)))
  | cons top below =>
      obtain ⟨topAccounted, belowAccounted⟩ := List.forall_mem_cons.mp each
      exact List.forall_mem_cons.mpr ⟨changed top topAccounted, belowAccounted⟩

theorem Step.accounted_apply {stack : List BoundSql} {step : Step}
    (free : ∀ text ∈ step.text?, PlaceholderFree text)
    (each : ∀ bound ∈ stack, Accounted [] bound) :
    ∀ bound ∈ step.apply stack, Accounted [] bound := by
  cases step with
  | verbatim text => exact List.forall_mem_cons.mpr ⟨.word (free text rfl), each⟩
  | empty => exact List.forall_mem_cons.mpr ⟨.word (by decide), each⟩
  | bind parameter => exact List.forall_mem_cons.mpr ⟨.bind parameter, each⟩
  | join count separator =>
      have joined : Accounted [] (joinWith separator (stack.take count).reverse) :=
        accounted_joinWith (free separator rfl) fun part member =>
          each part (List.mem_of_mem_take (List.mem_reverse.mp member))
      exact List.forall_mem_cons.mpr
        ⟨joined, fun bound member => each bound (List.mem_of_mem_drop member)⟩
  | parenthesize => exact accounted_changeTop (fun _ accounted => accounted.parenthesized) each
  | lead text =>
      have leadAccounted : Accounted [] (BoundSql.verbatim text) := .word (free text rfl)
      exact accounted_changeTop (fun _ accounted => leadAccounted.after accounted) each
  | reassemble => exact accounted_changeTop (fun _ accounted => accounted) each

theorem accounted_foldl_apply {steps : List Step} {stack : List BoundSql}
    (free : ∀ step ∈ steps, ∀ text ∈ step.text?, PlaceholderFree text)
    (each : ∀ bound ∈ stack, Accounted [] bound) :
    ∀ bound ∈ steps.foldl Step.apply stack, Accounted [] bound := by
  induction steps generalizing stack with
  | nil => exact each
  | cons step rest inductionHypothesis =>
      obtain ⟨stepFree, restFree⟩ := List.forall_mem_cons.mp free
      exact inductionHypothesis restFree (Step.accounted_apply stepFree each)

/-- After any steps, the stack from its bottom lists the parameters that they bound, in order. A
join has the placeholders of its parts and of the separators between them; and if no text of the
steps has a placeholder, everything on the stack has one placeholder for each parameter. -/
theorem runSteps_params_placeholders :
    (∀ steps, (runSteps steps).reverse.flatMap params = steps.filterMap Step.bound?) ∧
    (∀ separator part others,
      (joinWith separator (part :: others)).placeholders =
        ((part :: others).map placeholders).sum +
          others.length * separator.toList.count placeholder) ∧
    ∀ steps, (∀ step ∈ steps, ∀ text ∈ step.text?, PlaceholderFree text) →
      ∀ bound ∈ runSteps steps, bound.placeholders = bound.params.length := by
  refine ⟨fun steps => paramsOf_foldl_apply steps [], placeholders_joinWith, ?_⟩
  intro steps free bound member
  have noneYet : ∀ bound ∈ ([] : List BoundSql), Accounted [] bound := List.forall_mem_nil _
  have accounted : Accounted [] bound := accounted_foldl_apply free noneYet bound member
  exact accounted.eq_length_iff.mpr (List.forall_mem_nil _)

/-- Steps that wrap on an empty stack, join nothing, join joins, and join more than there is. -/
def nestedSteps : List Step :=
  [.parenthesize, .join 0 ",", .bind (.integer 1), .bind (.text "?"), .join 2 " AND ",
    .lead "a BETWEEN", .verbatim "b = c", .join 2 " OR ", .bind .null, .join 9 ";", .reassemble]

theorem runSteps_nestedSteps :
    runSteps nestedSteps = [⟨"();;a BETWEEN ? AND ? OR b = c;?", [.integer 1, .text "?", .null]⟩] ∧
    (∀ step ∈ nestedSteps, ∀ text ∈ step.text?, PlaceholderFree text) ∧
    nestedSteps.filterMap Step.bound? = [.integer 1, .text "?", .null] ∧
    ∀ bound ∈ runSteps nestedSteps, bound.placeholders = 3 := by
  have free : ∀ step ∈ nestedSteps, ∀ text ∈ step.text?, PlaceholderFree text := by decide
  have final : runSteps nestedSteps =
      [⟨"();;a BETWEEN ? AND ? OR b = c;?", [.integer 1, .text "?", .null]⟩] := by decide
  obtain ⟨bindings, _, balanced⟩ := runSteps_params_placeholders
  refine ⟨final, free, (bindings nestedSteps).symm.trans ?_, fun bound member => ?_⟩
  · rw [final]
    rfl
  · rw [balanced nestedSteps free bound member]
    rw [final, List.mem_singleton] at member
    rw [member]
    rfl

end BoundSql

end GuardedSql
