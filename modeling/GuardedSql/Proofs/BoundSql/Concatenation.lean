import GuardedSql.Filter

set_option autoImplicit false

/-!
Bound SQL as a concatenation of pieces.

Two pieces of bound SQL are concatenated by putting the texts and the parameters one after the
other. Every operation on bound SQL is a concatenation of its arguments with verbatim text, so what
holds of verbatim text and of one bound parameter, and passes to concatenations, holds of the SQL of
every filter.
-/

namespace GuardedSql

namespace BoundSql

instance : Append BoundSql where
  append first second := ⟨first.sql ++ second.sql, first.params ++ second.params⟩

@[simp]
theorem sql_append (first second : BoundSql) : (first ++ second).sql = first.sql ++ second.sql :=
  rfl

@[simp]
theorem params_append (first second : BoundSql) :
    (first ++ second).params = first.params ++ second.params :=
  rfl

theorem eq_of_parts_eq {first second : BoundSql} (sameSql : first.sql = second.sql)
    (sameParams : first.params = second.params) : first = second := by
  cases first
  cases second
  cases sameSql
  cases sameParams
  rfl

theorem append_assoc (first second third : BoundSql) :
    first ++ second ++ third = first ++ (second ++ third) :=
  eq_of_parts_eq String.append_assoc (List.append_assoc _ _ _)

theorem empty_append (bound : BoundSql) : empty ++ bound = bound :=
  eq_of_parts_eq String.empty_append (List.nil_append _)

theorem append_empty (bound : BoundSql) : bound ++ empty = bound :=
  eq_of_parts_eq String.append_empty (List.append_nil _)

theorem verbatim_append (first second : String) :
    verbatim (first ++ second) = verbatim first ++ verbatim second :=
  rfl

theorem after_eq_append (bound : BoundSql) (lead : String) :
    bound.after lead = verbatim lead ++ (verbatim " " ++ bound) :=
  eq_of_parts_eq String.append_assoc rfl

theorem parenthesized_eq_append (bound : BoundSql) :
    bound.parenthesized = verbatim "(" ++ (bound ++ verbatim ")") :=
  eq_of_parts_eq String.append_assoc (List.append_nil _).symm

theorem joinWith_cons_cons_eq_append (separator : String) (part next : BoundSql)
    (others : List BoundSql) :
    joinWith separator (part :: next :: others) =
      part ++ (verbatim separator ++ joinWith separator (next :: others)) := by
  rw [joinWith_cons_cons]
  exact eq_of_parts_eq String.append_assoc rfl

/-- What stands behind the first of several joined parts. -/
def joinedRest (separator : String) (others : List BoundSql) (tail : BoundSql) : BoundSql :=
  match others with
  | [] => tail
  | _ :: _ => verbatim separator ++ (joinWith separator others ++ tail)

theorem joinWith_cons_append (separator : String) (part : BoundSql) (others : List BoundSql)
    (tail : BoundSql) :
    joinWith separator (part :: others) ++ tail = part ++ joinedRest separator others tail := by
  cases others with
  | nil => rw [joinWith_singleton, joinedRest]
  | cons next others =>
      rw [joinWith_cons_cons_eq_append, append_assoc, append_assoc, joinedRest]

end BoundSql

theorem Operand.render_aggregate_eq_append (function : Aggregate) (argument : Term) :
    (Operand.aggregate function argument).render =
      .verbatim function.token ++ (.verbatim "(" ++ (argument.render ++ .verbatim ")")) :=
  BoundSql.eq_of_parts_eq (by simp only [render, Aggregate.applyTo, BoundSql.sql_append,
    BoundSql.verbatim, String.append_assoc]) (List.append_nil _).symm

end GuardedSql
