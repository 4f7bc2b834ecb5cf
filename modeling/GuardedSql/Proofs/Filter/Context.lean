import GuardedSql.Proofs.BoundSql.Concatenation
import GuardedSql.Proofs.Statement.Grammar

set_option autoImplicit false

/-!
A filter in the place of another one.

A context is a filter with one condition left open, inside any number of groups. Where all other
conditions of a context are accepted, the context surrounds the SQL of whatever is put into the open
place with fixed text and fixed parameters, and passes on why it is rejected. Where a condition
before the open place is rejected, it makes no difference what is put there.

`BoundSql.Surrounds` holds of the operations on bound SQL that surround their argument, and the
operation of a context is made of such operations: `Filter.sqlOf_plug`.
-/

namespace GuardedSql

namespace BoundSql

/-- The operation puts its argument between two pieces that do not depend on it. -/
def Surrounds (operation : BoundSql → BoundSql) : Prop :=
  ∃ lead trail, ∀ bound, operation bound = lead ++ (bound ++ trail)

namespace Surrounds

theorem id : Surrounds fun bound => bound :=
  ⟨empty, empty, fun bound => by rw [append_empty, empty_append]⟩

theorem comp {outer inner : BoundSql → BoundSql} (outerSurrounds : Surrounds outer)
    (innerSurrounds : Surrounds inner) : Surrounds fun bound => outer (inner bound) := by
  obtain ⟨outerLead, outerTrail, outside⟩ := outerSurrounds
  obtain ⟨innerLead, innerTrail, inside⟩ := innerSurrounds
  refine ⟨outerLead ++ innerLead, innerTrail ++ outerTrail, ?_⟩
  intro bound
  calc outer (inner bound)
      = outerLead ++ (innerLead ++ (bound ++ innerTrail) ++ outerTrail) := by rw [outside, inside]
    _ = outerLead ++ innerLead ++ (bound ++ (innerTrail ++ outerTrail)) := by
        simp only [append_assoc]

theorem behind (piece : BoundSql) : Surrounds fun bound => piece ++ bound :=
  ⟨piece, empty, fun bound => by rw [append_empty]⟩

theorem before (piece : BoundSql) : Surrounds fun bound => bound ++ piece :=
  ⟨empty, piece, fun bound => by rw [empty_append]⟩

theorem parenthesized : Surrounds BoundSql.parenthesized :=
  ⟨verbatim "(", verbatim ")", parenthesized_eq_append⟩

/-- A part that is joined with others is surrounded by them. -/
theorem joinWith (separator : String) (before after : List BoundSql) :
    Surrounds fun part => BoundSql.joinWith separator (before ++ part :: after) := by
  induction before with
  | nil =>
      cases after with
      | nil =>
          simp only [List.nil_append, joinWith_singleton]
          exact id
      | cons next others =>
          simp only [List.nil_append, joinWith_cons_cons_eq_append]
          exact Surrounds.before _
  | cons first others inductionHypothesis =>
      -- Something follows the first part: one of the others, or the part in question.
      have joined (part : BoundSql) :
          BoundSql.joinWith separator (first :: others ++ part :: after) =
            first ++ (verbatim separator ++
              BoundSql.joinWith separator (others ++ part :: after)) := by
        cases others with
        | nil => exact joinWith_cons_cons_eq_append ..
        | cons second rest => exact joinWith_cons_cons_eq_append ..
      simp only [joined]
      exact (behind first).comp ((behind (verbatim separator)).comp inductionHypothesis)

end Surrounds

end BoundSql

namespace Filter

variable {allow : AllowList}

/-- The SQL of a group, given that of its conditions. -/
def groupSql (connective : Connective) (parts : List BoundSql) : BoundSql :=
  (BoundSql.joinWith (" " ++ connective.token ++ " ") parts).parenthesized

theorem sqlOf_group (connective : Connective) {nodes : List Json} (several : 2 ≤ nodes.length) :
    sqlOf allow (.object [(connective.token, .array nodes)]) =
      (nodes.mapM (sqlOf allow)).map (groupSql connective) := by
  have rendered : nodes.mapM (sqlOf allow) =
      (nodes.mapM (check allow)).map (List.map render) := Except.mapM_map nodes
  rw [rendered, sqlOf, check, Connective.ofToken?_token]
  simp only [if_neg (Nat.not_lt.mpr several), checkAll_eq_mapM]
  cases nodes.mapM (check allow) with
  | error cause => rfl
  | ok filters =>
      simp only [Except.map, render, renderAll_eq_map, groupSql]

theorem sqlOf_group_of_few (connective : Connective) {nodes : List Json}
    (few : nodes.length < 2) :
    sqlOf allow (.object [(connective.token, .array nodes)]) = .error .tooFewConditions := by
  rw [sqlOf, check, Connective.ofToken?_token]
  simp only [if_pos few]
  rfl

/-- Between accepted conditions the outcome of a condition decides the outcome of them all. -/
theorem mapM_sqlOf_of_accepted {before after : List Json} {earlier later : List BoundSql}
    (beforeAccepted : before.mapM (sqlOf allow) = .ok earlier)
    (afterAccepted : after.mapM (sqlOf allow) = .ok later) (node : Json) :
    (before ++ node :: after).mapM (sqlOf allow) =
      (sqlOf allow node).map fun bound => earlier ++ bound :: later := by
  rw [List.mapM_append, List.mapM_cons, beforeAccepted, afterAccepted]
  cases sqlOf allow node with
  | error cause => rfl
  | ok bound => rfl

/-- Behind a rejected condition nothing is looked at. -/
theorem mapM_sqlOf_of_rejected {before : List Json} {cause : Rejection}
    (rejected : before.mapM (sqlOf allow) = .error cause) (rest : List Json) :
    (before ++ rest).mapM (sqlOf allow) = .error cause := by
  rw [List.mapM_append, rejected]
  rfl

/-! ### Contexts -/

/-- A filter with one condition left open. -/
inductive Context where
  | hole
  | group (connective : Connective) (before : List Json) (inner : Context) (after : List Json)

namespace Context

/-- The filter with the given condition in the open place. -/
def plug : Context → Json → Json
  | hole, node => node
  | group connective before inner after, node =>
      .object [(connective.token, .array (before ++ inner.plug node :: after))]

/-- Every group has a condition besides the one with the open place. -/
def Branching : Context → Prop
  | hole => True
  | group _ before inner after => before ++ after ≠ [] ∧ inner.Branching

/-- The conditions of all groups that stand before the open place or before the group with it. -/
def earlier : Context → List Json
  | hole => []
  | group _ before inner _ => before ++ inner.earlier

def later : Context → List Json
  | hole => []
  | group _ _ inner after => inner.later ++ after

/-- Everything outside the open place is accepted. -/
def Accepted (allow : AllowList) (context : Context) : Prop :=
  ∀ sibling ∈ context.earlier ++ context.later, ∃ bound, sqlOf allow sibling = .ok bound

/-- Something before the open place is rejected. -/
def Blocked (allow : AllowList) (context : Context) : Prop :=
  ∃ sibling ∈ context.earlier, ∃ cause, sqlOf allow sibling = .error cause

theorem several_of_sibling {before after : List Json} (sibling : before ++ after ≠ [])
    (node : Json) : 2 ≤ (before ++ node :: after).length := by
  have filled : 0 < (before ++ after).length := List.length_pos_of_ne_nil sibling
  simp only [List.length_append, List.length_cons] at filled ⊢
  omega

/-- The outcome of a filter in an accepted context is its own outcome, with fixed pieces around the
SQL if there is any. -/
theorem exists_surrounds_plug {context : Context} (branching : context.Branching)
    (accepted : context.Accepted allow) :
    ∃ operation, BoundSql.Surrounds operation ∧
      ∀ node, sqlOf allow (context.plug node) = (sqlOf allow node).map operation := by
  induction context with
  | hole =>
      refine ⟨_, .id, fun node => ?_⟩
      rw [plug]
      cases sqlOf allow node with
      | error cause => rfl
      | ok bound => rfl
  | group connective before inner after inductionHypothesis =>
      obtain ⟨sibling, innerBranching⟩ := branching
      have innerAccepted : inner.Accepted allow := by
        intro node member
        refine accepted node ?_
        simp only [earlier, later, List.mem_append] at member ⊢
        exact member.elim (fun inEarlier => .inl (.inr inEarlier))
          fun inLater => .inr (.inl inLater)
      obtain ⟨operation, surrounds, outcome⟩ := inductionHypothesis innerBranching innerAccepted
      obtain ⟨lefts, beforeAccepted⟩ := Except.exists_mapM_eq_ok_iff.mpr
        fun node (member : node ∈ before) =>
          accepted node (List.mem_append_left _ (List.mem_append_left _ member))
      obtain ⟨rights, afterAccepted⟩ := Except.exists_mapM_eq_ok_iff.mpr
        fun node (member : node ∈ after) =>
          accepted node (List.mem_append_right _ (List.mem_append_right _ member))
      refine ⟨_, (BoundSql.Surrounds.parenthesized.comp
        (.joinWith (" " ++ connective.token ++ " ") lefts rights)).comp surrounds, fun node => ?_⟩
      rw [plug, sqlOf_group connective (several_of_sibling sibling _),
        mapM_sqlOf_of_accepted beforeAccepted afterAccepted, outcome]
      cases sqlOf allow node with
      | error cause => rfl
      | ok bound => rfl

/-- What is put behind a rejected condition makes no difference. -/
theorem exists_error_plug {context : Context} (blocked : context.Blocked allow) :
    ∃ cause, ∀ node, sqlOf allow (context.plug node) = .error cause := by
  induction context with
  | hole =>
      obtain ⟨sibling, member, _⟩ := blocked
      cases member
  | group connective before inner after inductionHypothesis =>
      by_cases few : before ++ after = []
      · -- The group has one condition only, whatever it is.
        obtain ⟨rfl, rfl⟩ := List.append_eq_nil_iff.mp few
        exact ⟨.tooFewConditions, fun node => sqlOf_group_of_few connective (by simp)⟩
      · cases beforeChecked : before.mapM (sqlOf allow) with
        | error cause =>
            refine ⟨cause, fun node => ?_⟩
            rw [plug, sqlOf_group connective (several_of_sibling few _),
              mapM_sqlOf_of_rejected beforeChecked]
            rfl
        | ok parts =>
            have innerBlocked : inner.Blocked allow := by
              obtain ⟨sibling, member, cause, rejected⟩ := blocked
              refine ⟨sibling, (List.mem_append.mp member).resolve_left ?_, cause, rejected⟩
              intro inBefore
              obtain ⟨bound, accepted⟩ :=
                Except.exists_mapM_eq_ok_iff.mp ⟨parts, beforeChecked⟩ sibling inBefore
              rw [rejected] at accepted
              cases accepted
            obtain ⟨cause, rejected⟩ := inductionHypothesis innerBlocked
            refine ⟨cause, fun node => ?_⟩
            rw [plug, sqlOf_group connective (several_of_sibling few _), List.mapM_append,
              List.mapM_cons, beforeChecked, rejected]
            rfl

end Context

/-- A context with accepted conditions surrounds the SQL of every filter with the same text and the
same parameters and passes on every rejection; a context with a rejected condition before its open
place is rejected for one cause, whatever filter stands there. -/
theorem sqlOf_plug (allow : AllowList) (context : Context) :
    (context.Branching → context.Accepted allow →
      ∃ (lead trail : String) (leading trailing : List Parameter), ∀ node,
        (∀ bound, sqlOf allow node = .ok bound →
          sqlOf allow (context.plug node) =
            .ok ⟨lead ++ bound.sql ++ trail, leading ++ bound.params ++ trailing⟩) ∧
        ∀ cause, sqlOf allow node = .error cause →
          sqlOf allow (context.plug node) = .error cause) ∧
    (context.Blocked allow →
      ∃ cause, ∀ node, sqlOf allow (context.plug node) = .error cause) := by
  refine ⟨?_, fun blocked => context.exists_error_plug blocked⟩
  intro branching accepted
  obtain ⟨operation, ⟨lead, trail, surrounds⟩, outcome⟩ :=
    context.exists_surrounds_plug branching accepted
  refine ⟨lead.sql, trail.sql, lead.params, trail.params, fun node => ⟨?_, ?_⟩⟩
  · intro bound isBound
    have surrounded : operation bound =
        ⟨lead.sql ++ bound.sql ++ trail.sql, lead.params ++ bound.params ++ trail.params⟩ := by
      rw [surrounds, ← BoundSql.append_assoc]
      rfl
    rw [outcome, isBound, Except.map, surrounded]
  · intro cause rejected
    rw [outcome, rejected, Except.map]

end Filter

namespace Orders

def totalIs (value : Json) : Json :=
  .object [("total", .object [("=", value)])]

/-- The open place is the middle one of three conditions, in a group inside another one. -/
def context : Filter.Context :=
  .group .or [totalIs (.string "IN")]
    (.group .and [.object [("IN", .object [("=", .string "paid")])]] .hole [totalIs (.string "IN")])
    []

/-- A condition of the outer group stands before the open place and is no filter. -/
def blockedContext : Filter.Context :=
  .group .and [totalIs (.string "total"), .null] (.group .or [] .hole [.null]) []

theorem sqlOf_plug_context :
    (context.Branching ∧ context.Accepted allowList ∧
      ∃ (lead trail : String) (leading trailing : List Parameter), ∀ node,
        (∀ bound, Filter.sqlOf allowList node = .ok bound →
          Filter.sqlOf allowList (context.plug node) =
            .ok ⟨lead ++ bound.sql ++ trail, leading ++ bound.params ++ trailing⟩) ∧
        ∀ cause, Filter.sqlOf allowList node = .error cause →
          Filter.sqlOf allowList (context.plug node) = .error cause) ∧
    blockedContext.Blocked allowList ∧
    ∃ cause, ∀ node, Filter.sqlOf allowList (blockedContext.plug node) = .error cause := by
  have branching : context.Branching := ⟨nofun, nofun, trivial⟩
  have accepted : context.Accepted allowList := by
    refine List.forall_mem_cons.mpr ⟨⟨_, rfl⟩, ?_⟩
    exact List.forall_mem_cons.mpr ⟨⟨_, rfl⟩, List.forall_mem_singleton.mpr ⟨_, rfl⟩⟩
  have blocked : blockedContext.Blocked allowList :=
    ⟨.null, List.mem_cons_of_mem _ List.mem_cons_self, _, rfl⟩
  exact ⟨⟨branching, accepted, (Filter.sqlOf_plug allowList context).1 branching accepted⟩,
    blocked, (Filter.sqlOf_plug allowList blockedContext).2 blocked⟩

end Orders

example : Filter.sqlOf Orders.allowList (Orders.context.plug (.object [("IN", .object
    [("IN", .array [.string "open", .string "paid"])])])) =
    .ok ⟨"(total = IN OR (IN = ? AND IN IN (?,?) AND total = IN))",
      [.text "paid", .text "open", .text "paid"]⟩ :=
  rfl

end GuardedSql
