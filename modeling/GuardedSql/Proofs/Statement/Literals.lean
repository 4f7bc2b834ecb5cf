import GuardedSql.Proofs.Statement.Grammar

set_option autoImplicit false

/-!
Literals leave no trace in the text.

Two values are alike under an allow-list if they differ at most in scalars that name no column and
are literals of the same column types. Alike filters, and requests with alike filters, are accepted
or rejected together, and their texts are the same, with as many parameters: the content of a
literal reaches a parameter and nothing else.

The proof follows an accepted value into an alike one. Being alike is symmetric, so following in
both directions settles rejections as well.
-/

namespace GuardedSql

open List (Forall₂)

variable {allow : AllowList} {kind : ColumnType}

def Json.IsScalar : Json → Prop
  | .array _ => False
  | .object _ => False
  | _ => True

theorem Parameter.exists_ofJson?_of_isScalar {value : Json} (scalar : value.IsScalar) :
    ∃ parameter, ofJson? value = some parameter := by
  cases value with
  | array _ => cases scalar
  | object _ => cases scalar
  | _ => exact ⟨_, rfl⟩

namespace Json

inductive Alike (allow : AllowList) : Json → Json → Prop where
  | same (value : Json) : Alike allow value value
  | scalars {first second : Json} (firstScalar : first.IsScalar) (secondScalar : second.IsScalar)
      (firstUnnamed : ¬allow.NamesColumn first) (secondUnnamed : ¬allow.NamesColumn second)
      (sameTypes : ∀ kind : ColumnType, kind.accepts first = kind.accepts second) :
      Alike allow first second
  | arrays {first second : List Json} (each : Forall₂ (Alike allow) first second) :
      Alike allow (.array first) (.array second)
  | objects {first second : List (String × Json)}
      (names : first.map Prod.fst = second.map Prod.fst)
      (each : Forall₂ (Alike allow) (first.map Prod.snd) (second.map Prod.snd)) :
      Alike allow (.object first) (.object second)

theorem Alike.symm {first second : Json} (alike : Alike allow first second) :
    Alike allow second first :=
  @Alike.rec allow (fun first second _ => Alike allow second first)
    (fun firsts seconds _ => Forall₂ (Alike allow) seconds firsts)
    (fun value => .same value)
    (fun firstScalar secondScalar firstUnnamed secondUnnamed sameTypes =>
      .scalars secondScalar firstScalar secondUnnamed firstUnnamed fun kind =>
        (sameTypes kind).symm)
    (fun _ flipped => .arrays flipped) (fun names _ flipped => .objects names.symm flipped)
    .nil (fun _ _ head tail => .cons head tail) first second alike

theorem Alike.of_array {elements : List Json} {other : Json}
    (alike : Alike allow (.array elements) other) :
    ∃ others, other = .array others ∧ Forall₂ (Alike allow) elements others := by
  cases alike with
  | same _ => exact ⟨elements, rfl, List.forall₂_same.mpr fun element _ => .same element⟩
  | scalars firstScalar _ _ _ _ => cases firstScalar
  | arrays each => exact ⟨_, rfl, each⟩

theorem Alike.of_member {name : String} {body other : Json}
    (alike : Alike allow (.object [(name, body)]) other) :
    ∃ otherBody, other = .object [(name, otherBody)] ∧ Alike allow body otherBody := by
  cases alike with
  | same _ => exact ⟨body, rfl, .same body⟩
  | scalars firstScalar _ _ _ _ => cases firstScalar
  | @objects _ second names each =>
      cases second with
      | nil => cases names
      | cons member rest =>
          cases rest with
          | cons _ _ => cases names
          | nil =>
              cases each with
              | cons bodies _ =>
                  obtain ⟨rfl, _⟩ := List.cons.inj names
                  exact ⟨member.2, rfl, bodies⟩

end Json

/-! ### Texts of the same shape -/

/-- The same text, with as many parameters. -/
structure BoundSql.SameShape (first second : BoundSql) : Prop where
  sql : first.sql = second.sql
  count : first.params.length = second.params.length

namespace BoundSql.SameShape

theorem refl (bound : BoundSql) : SameShape bound bound :=
  ⟨rfl, rfl⟩

theorem after {first second : BoundSql} (same : SameShape first second) (lead : String) :
    SameShape (first.after lead) (second.after lead) :=
  ⟨congrArg (fun text => lead ++ " " ++ text) same.sql, same.count⟩

theorem parenthesized {first second : BoundSql} (same : SameShape first second) :
    SameShape first.parenthesized second.parenthesized :=
  ⟨congrArg (fun text => "(" ++ text ++ ")") same.sql, same.count⟩

theorem joinWith {firsts seconds : List BoundSql} (same : Forall₂ SameShape firsts seconds)
    (separator : String) :
    SameShape (BoundSql.joinWith separator firsts) (BoundSql.joinWith separator seconds) := by
  constructor
  · apply congrArg (String.intercalate separator)
    induction same with
    | nil => rfl
    | cons head _ inductionHypothesis =>
        rw [List.map_cons, List.map_cons, head.sql, inductionHypothesis]
  · change (firsts.flatMap BoundSql.params).length = (seconds.flatMap BoundSql.params).length
    induction same with
    | nil => rfl
    | cons head _ inductionHypothesis =>
        rw [List.flatMap_cons, List.flatMap_cons, List.length_append, List.length_append,
          head.count, inductionHypothesis]

theorem bind (first second : Parameter) : SameShape (BoundSql.bind first) (BoundSql.bind second) :=
  ⟨rfl, rfl⟩

end BoundSql.SameShape

theorem Term.Describes.follow {value other : Json} {term : Term}
    (described : Term.Describes allow kind value term) (alike : Json.Alike allow value other) :
    ∃ otherTerm, Term.Describes allow kind other otherTerm ∧
      BoundSql.SameShape term.render otherTerm.render := by
  cases alike with
  | same _ => exact ⟨term, described, .refl _⟩
  | scalars _ secondScalar firstUnnamed secondUnnamed sameTypes =>
      cases described with
      | column listed => exact absurd ⟨_, rfl, listed⟩ firstUnnamed
      | literal _ accepted _ =>
          obtain ⟨parameter, bound⟩ := Parameter.exists_ofJson?_of_isScalar secondScalar
          rw [sameTypes kind] at accepted
          exact ⟨.value parameter, .literal secondUnnamed accepted bound, .bind _ _⟩
  | arrays _ =>
      cases described with
      | literal _ _ bound => cases bound
  | objects _ _ =>
      cases described with
      | literal _ _ bound => cases bound

theorem Operand.Describes.follow {value other : Json} {operand : Operand}
    (described : Operand.Describes allow kind value operand)
    (alike : Json.Alike allow value other) :
    ∃ otherOperand, Operand.Describes allow kind other otherOperand ∧
      BoundSql.SameShape operand.render otherOperand.render := by
  cases described with
  | term described =>
      obtain ⟨term, otherDescribed, same⟩ := described.follow alike
      exact ⟨.term term, .term otherDescribed, same⟩
  | @aggregate _ function _ _ spelled described =>
      obtain ⟨argument, rfl, argumentAlike⟩ := alike.of_member
      obtain ⟨term, otherDescribed, same⟩ := described.follow argumentAlike
      exact ⟨.aggregate function term, .aggregate spelled otherDescribed,
        congrArg function.applyTo same.sql, same.count⟩

theorem ListComparator.EntryDescribes.follow {entry : Json} {parameter : Parameter}
    (described : ListComparator.EntryDescribes allow kind entry parameter) :
    ∀ other, Json.Alike allow entry other →
    ∃ otherParameter, ListComparator.EntryDescribes allow kind other otherParameter ∧
      BoundSql.SameShape (.bind parameter) (.bind otherParameter) := by
  intro other alike
  cases alike with
  | same _ => exact ⟨parameter, described, .refl _⟩
  | scalars _ secondScalar firstUnnamed _ sameTypes =>
      obtain ⟨otherParameter, bound⟩ := Parameter.exists_ofJson?_of_isScalar secondScalar
      have accepted := described.fitting.resolve_left firstUnnamed
      rw [sameTypes kind] at accepted
      exact ⟨otherParameter, ⟨.inr accepted, bound⟩, .bind _ _⟩
  | arrays _ => cases described.bound
  | objects _ _ => cases described.bound

theorem ListComparator.sameShape_renderValues (comparator : ListComparator)
    {firsts seconds : List Parameter}
    (same : Forall₂ (fun first second => BoundSql.SameShape (.bind first) (.bind second))
      firsts seconds) :
    BoundSql.SameShape (comparator.renderValues firsts) (comparator.renderValues seconds) := by
  have parts : Forall₂ BoundSql.SameShape (firsts.map .bind) (seconds.map .bind) :=
    forall₂_map_map_iff.mpr same
  cases comparator with
  | between => exact .joinWith parts " AND "
  | within => exact (BoundSql.SameShape.joinWith parts ",").parenthesized

theorem Filter.sameShape_render_group (connective : Connective) {firsts seconds : List Filter}
    (same : Forall₂ (fun first second => BoundSql.SameShape first.render second.render)
      firsts seconds) :
    BoundSql.SameShape (group connective firsts).render (group connective seconds).render := by
  have parts : Forall₂ BoundSql.SameShape (firsts.map render) (seconds.map render) :=
    forall₂_map_map_iff.mpr same
  rw [render, render, renderAll_eq_map, renderAll_eq_map]
  exact (BoundSql.SameShape.joinWith parts _).parenthesized

theorem Filter.Describes.follow {node : Json} {filter : Filter}
    (described : Filter.Describes allow node filter) : ∀ other, Json.Alike allow node other →
    ∃ otherFilter, Filter.Describes allow other otherFilter ∧
      BoundSql.SameShape filter.render otherFilter.render := by
  refine Filter.Describes.induct ?group ?compare ?list described
  case group =>
    intro word connective nodes filters spelled several _ step other alike
    obtain ⟨body, rfl, bodyAlike⟩ := alike.of_member
    obtain ⟨others, rfl, each⟩ := bodyAlike.of_array
    obtain ⟨otherFilters, otherDescribed, same⟩ := forall₂_follow step each
    rw [each.length_eq] at several
    exact ⟨.group connective otherFilters, .group spelled several otherDescribed,
      sameShape_render_group connective same⟩
  case compare =>
    intro column kind word comparator value operand unreserved listed spelled described other alike
    obtain ⟨comparison, rfl, comparisonAlike⟩ := alike.of_member
    obtain ⟨otherValue, rfl, valueAlike⟩ := comparisonAlike.of_member
    obtain ⟨otherOperand, otherDescribed, same⟩ := described.follow valueAlike
    exact ⟨.compare column comparator otherOperand,
      .compare unreserved listed spelled otherDescribed, same.after _⟩
  case list =>
    intro column kind word comparator entries values unreserved listed spelled counted described
      other alike
    obtain ⟨comparison, rfl, comparisonAlike⟩ := alike.of_member
    obtain ⟨body, rfl, bodyAlike⟩ := comparisonAlike.of_member
    obtain ⟨otherEntries, rfl, each⟩ := bodyAlike.of_array
    have step := described.imp fun entry parameter described =>
      ListComparator.EntryDescribes.follow described
    obtain ⟨otherValues, otherDescribed, same⟩ := forall₂_follow step each
    rw [each.length_eq] at counted
    exact ⟨.list column comparator otherValues,
      .list unreserved listed spelled counted otherDescribed,
      (comparator.sameShape_renderValues same).after _⟩

/-- Requests that agree in every member but the filter, and have alike filters or none. -/
inductive Json.AlikeRequests (allow : AllowList) : Json → Json → Prop where
  | same (request : Json) : AlikeRequests allow request request
  | members {first second : List (String × Json)}
      (others : ∀ field, field ≠ "logic" → first.lookup field = second.lookup field)
      (logic : Option.Rel (Alike allow) (first.lookup "logic") (second.lookup "logic")) :
      AlikeRequests allow (.object first) (.object second)

theorem Json.AlikeRequests.symm {first second : Json} (alike : AlikeRequests allow first second) :
    AlikeRequests allow second first := by
  cases alike with
  | same _ => exact .same _
  | @members firstMembers secondMembers others logic =>
      refine .members (fun field other => (others field other).symm) ?_
      generalize firstMembers.lookup "logic" = left at logic
      generalize secondMembers.lookup "logic" = right at logic
      cases logic with
      | some alike => exact .some alike.symm
      | none => exact .none

namespace Statement

theorem ConnectionDescribes.congr {first second : List (String × Json)}
    {connection : Option String}
    (same : first.lookup "connection" = second.lookup "connection")
    (described : ConnectionDescribes allow first connection) :
    ConnectionDescribes allow second connection := by
  cases described with
  | absent missing => exact .absent (same ▸ missing)
  | present found listed => exact .present (same ▸ found) listed

theorem ClauseDescribes.follow {first second : List (String × Json)} {connection : Option String}
    {clause : Option Clause} (query table : String) (items : List Item)
    (logic : Option.Rel (Json.Alike allow) (first.lookup "logic") (second.lookup "logic"))
    (described : ClauseDescribes allow first connection clause) :
    ∃ otherClause, ClauseDescribes allow second connection otherClause ∧
      BoundSql.SameShape (render ⟨query, items, table, clause⟩)
        (render ⟨query, items, table, otherClause⟩) := by
  cases described with
  | absent missing =>
      rw [missing] at logic
      generalize found : second.lookup "logic" = other at logic
      cases logic with
      | none => exact ⟨none, .absent found, .refl _⟩
  | @present word node filter isNode connected filterDescribed =>
      rw [isNode] at logic
      generalize found : second.lookup "logic" = other at logic
      cases logic with
      | some alike =>
          obtain ⟨otherFilter, otherDescribed, same⟩ := filterDescribed.follow _ alike
          exact ⟨some ⟨word, otherFilter⟩, .present found connected otherDescribed, same.after _⟩

theorem Describes.follow {first second : List (String × Json)} {statement : Statement}
    (others : ∀ field, field ≠ "logic" → first.lookup field = second.lookup field)
    (logic : Option.Rel (Json.Alike allow) (first.lookup "logic") (second.lookup "logic"))
    (described : Describes allow first statement) :
    ∃ otherStatement, Describes allow second otherStatement ∧
      BoundSql.SameShape statement.render otherStatement.render := by
  obtain ⟨query, items, table, clause⟩ := statement
  obtain ⟨hasQuery, queryListed, hasItems, hasTable, tableListed, connection, connected, claused⟩ :=
    described
  obtain ⟨otherClause, otherClaused, same⟩ := claused.follow query table items logic
  rw [others "query" (by decide)] at hasQuery
  rw [others "items" (by decide)] at hasItems
  rw [others "table" (by decide)] at hasTable
  exact ⟨⟨query, items, table, otherClause⟩,
    ⟨hasQuery, queryListed, hasItems, hasTable, tableListed,
      connection, connected.congr (others "connection" (by decide)), otherClaused⟩, same⟩

end Statement

/-- Both accepted with texts of the same shape, or both rejected. -/
def SameOutcome : Except Rejection BoundSql → Except Rejection BoundSql → Prop
  | .ok first, .ok second => first.SameShape second
  | .error _, .error _ => True
  | _, _ => False

theorem sameOutcome_of_follow {first second : Except Rejection BoundSql}
    (forth : ∀ bound, first = .ok bound → ∃ other, second = .ok other ∧ bound.SameShape other)
    (back : ∀ other, second = .ok other → ∃ bound, first = .ok bound) :
    SameOutcome first second := by
  cases first with
  | ok bound =>
      obtain ⟨other, rfl, same⟩ := forth bound rfl
      exact same
  | error cause =>
      cases second with
      | ok other =>
          obtain ⟨bound, impossible⟩ := back other rfl
          cases impossible
      | error otherCause => exact trivial

theorem Filter.follow_sqlOf {first second : Json} (alike : Json.Alike allow first second)
    {bound : BoundSql} (accepted : sqlOf allow first = .ok bound) :
    ∃ other, sqlOf allow second = .ok other ∧ bound.SameShape other := by
  obtain ⟨filter, described, rfl⟩ := sqlOf_eq_ok_iff.mp accepted
  obtain ⟨otherFilter, otherDescribed, same⟩ := described.follow second alike
  exact ⟨otherFilter.render, sqlOf_eq_ok_iff.mpr ⟨otherFilter, otherDescribed, rfl⟩, same⟩

theorem Statement.follow_sqlOf {first second : Json} (alike : Json.AlikeRequests allow first second)
    {bound : BoundSql} (accepted : sqlOf allow first = .ok bound) :
    ∃ other, sqlOf allow second = .ok other ∧ bound.SameShape other := by
  cases alike with
  | same _ => exact ⟨bound, accepted, .refl bound⟩
  | @members _ secondMembers others logic =>
      obtain ⟨_, statement, isObject, described, rfl⟩ := sqlOf_eq_ok_iff.mp accepted
      cases isObject
      obtain ⟨otherStatement, otherDescribed, same⟩ := described.follow others logic
      exact ⟨otherStatement.render,
        sqlOf_eq_ok_iff.mpr ⟨secondMembers, otherStatement, rfl, otherDescribed, rfl⟩, same⟩

theorem Orders.alike_filter :
    Json.Alike allowList (filter "paid") (filter "' OR 1=1") := by
  have states : Json.Alike allowList (.string "paid") (.string "' OR 1=1") := by
    refine .scalars trivial trivial ?_ ?_ ?_
    · exact AllowList.columnNamed?_eq_none_iff.mp rfl
    · exact AllowList.columnNamed?_eq_none_iff.mp rfl
    · intro kind
      cases kind <;> rfl
  have entries : Json.Alike allowList (.array [.string "paid", .string "IN"])
      (.array [.string "' OR 1=1", .string "IN"]) :=
    .arrays (.cons states (.cons (.same _) .nil))
  have condition : Json.Alike allowList
      (.object [("IN", .object [("IN", .array [.string "paid", .string "IN"])])])
      (.object [("IN", .object [("IN", .array [.string "' OR 1=1", .string "IN"])])]) :=
    .objects rfl (.cons (.objects rfl (.cons entries .nil)) .nil)
  exact .objects rfl (.cons (.arrays (.cons (.same _) (.cons condition .nil))) .nil)

/-- The content of literals decides neither acceptance nor the text, for filters and requests. -/
theorem sameOutcome_of_alike (allow : AllowList) :
    (∀ first second, Json.Alike allow first second →
      SameOutcome (Filter.sqlOf allow first) (Filter.sqlOf allow second)) ∧
    ∀ first second, Json.AlikeRequests allow first second →
      SameOutcome (Statement.sqlOf allow first) (Statement.sqlOf allow second) := by
  constructor
  · intro first second alike
    apply sameOutcome_of_follow
    · exact fun bound accepted => Filter.follow_sqlOf alike accepted
    · intro other accepted
      obtain ⟨bound, otherAccepted, _⟩ := Filter.follow_sqlOf alike.symm accepted
      exact ⟨bound, otherAccepted⟩
  · intro first second alike
    apply sameOutcome_of_follow
    · exact fun bound accepted => Statement.follow_sqlOf alike accepted
    · intro other accepted
      obtain ⟨bound, otherAccepted, _⟩ := Statement.follow_sqlOf alike.symm accepted
      exact ⟨bound, otherAccepted⟩

theorem sameOutcome_orders :
    SameOutcome (Filter.sqlOf Orders.allowList (Orders.filter "paid"))
      (Filter.sqlOf Orders.allowList (Orders.filter "' OR 1=1")) ∧
    SameOutcome (Statement.sqlOf Orders.allowList (Orders.request "paid"))
      (Statement.sqlOf Orders.allowList (Orders.request "' OR 1=1")) := by
  refine ⟨(sameOutcome_of_alike Orders.allowList).1 _ _ Orders.alike_filter,
    (sameOutcome_of_alike Orders.allowList).2 _ _ (.members ?_ (.some Orders.alike_filter))⟩
  intro field other
  simp only [NameMap.lookup_cons_entry, if_neg other]

end GuardedSql
