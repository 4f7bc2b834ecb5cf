import GuardedSql.Proofs.BoundSql.Concatenation
import GuardedSql.Proofs.Statement.Grammar
import GuardedSql.Proofs.Text.Word

set_option autoImplicit false

/-!
Filters are told apart by their SQL.

If no column name has a character that stands between the words of a filter, two accepted filters
with the same text and the same parameters are the same filter: `check_eq_of_sqlOf_eq`. Columns may
be named like words of the filter language.

The text is read from left to right. Of each part it is shown that it can be told from any other
part of its kind whatever stands behind the two, `ToldApart`; then what stands behind is the same
too, in the text and among the parameters, and reading goes on there.
-/

namespace GuardedSql

open List (Forall₂)

/-- What may stand directly behind a word. -/
def wordStops : List Char :=
  [' ', '(', ')', ',']

/-- What may stand directly behind an operand or a filter. -/
def partStops : List Char :=
  [' ', ')', ',']

theorem BeginsIn.wordStops_of_partStops {text : String} (begins : BeginsIn partStops text) :
    BeginsIn wordStops text :=
  begins.mono (by simp [wordStops, partStops])

/-- Every column name is free of spaces, parentheses, commas and placeholders. -/
def AllowList.PlainColumns (allow : AllowList) : Prop :=
  ∀ name ∈ allow.columns.names, FreeOf [' ', '(', ')', ',', '?'] name

instance (allow : AllowList) : Decidable allow.PlainColumns :=
  List.decidableBAll (FreeOf [' ', '(', ')', ',', '?']) allow.columns.names

variable {allow : AllowList} {kind otherKind : ColumnType}

theorem AllowList.PlainColumns.column {name : String} (plain : allow.PlainColumns)
    (listed : allow.hasColumn name = true) : FreeOf wordStops name ∧ name ≠ "?" := by
  have free := plain name (NameMap.contains_eq_true_iff.mp listed)
  refine ⟨free.mono (by simp [wordStops]), ?_⟩
  rintro rfl
  exact absurd free (by decide)

theorem AllowList.PlainColumns.freeOf {name : String} (plain : allow.PlainColumns)
    (listed : allow.typeOfColumn? name = some kind) : FreeOf wordStops name :=
  (plain.column (hasColumn_of_typeOfColumn? listed)).1

namespace BoundSql

variable {tail otherTail : BoundSql}

theorem beginsIn_verbatim_append {stops : List Char} {text : String} {character : Char}
    (isHead : text.toList.head? = some character) (isStop : character ∈ stops) :
    BeginsIn stops (verbatim text ++ tail).sql :=
  .of_head? (head?_append_of_head? isHead) isStop

theorem beginsIn_space (behind : BoundSql) : BeginsIn wordStops (verbatim " " ++ behind).sql :=
  beginsIn_verbatim_append (by rfl) (by decide)

theorem beginsIn_opening (behind : BoundSql) : BeginsIn wordStops (verbatim "(" ++ behind).sql :=
  beginsIn_verbatim_append (by rfl) (by decide)

theorem beginsIn_closing (behind : BoundSql) : BeginsIn partStops (verbatim ")" ++ behind).sql :=
  beginsIn_verbatim_append (by rfl) (by decide)

theorem verbatim_append_inj {text : String}
    (same : verbatim text ++ tail = verbatim text ++ otherTail) : tail = otherTail := by
  have sameSql := (String.append_right_inj text).mp (congrArg sql same)
  have sameParams := congrArg params same
  exact eq_of_parts_eq sameSql sameParams

theorem word_append_inj {word other : String} (wordFree : FreeOf wordStops word)
    (otherFree : FreeOf wordStops other) (begins : BeginsIn wordStops tail.sql)
    (otherBegins : BeginsIn wordStops otherTail.sql)
    (same : verbatim word ++ tail = verbatim other ++ otherTail) :
    word = other ∧ tail = otherTail := by
  obtain ⟨rfl, _⟩ :=
    eq_of_word_append_eq wordFree otherFree begins otherBegins (congrArg sql same)
  exact ⟨rfl, verbatim_append_inj same⟩

theorem freeOf_bind (parameter : Parameter) : FreeOf wordStops (bind parameter).sql := by
  change FreeOf wordStops (String.singleton placeholder)
  decide

theorem bind_append_inj {parameter other : Parameter}
    (same : bind parameter ++ tail = bind other ++ otherTail) :
    parameter = other ∧ tail = otherTail := by
  obtain ⟨rfl, sameParams⟩ := List.cons.inj (congrArg params same)
  have sameSql := (String.append_right_inj (String.singleton placeholder)).mp (congrArg sql same)
  exact ⟨rfl, eq_of_parts_eq sameSql sameParams⟩

/-- Texts that begin with different characters are different. -/
theorem head_eq_of_append_eq {text other : String} {character otherCharacter : Char}
    (isHead : text.toList.head? = some character)
    (otherIsHead : other.toList.head? = some otherCharacter)
    (same : verbatim text ++ tail = verbatim other ++ otherTail) : character = otherCharacter := by
  have head : (verbatim text ++ tail).sql.toList.head? = some character :=
    head?_append_of_head? isHead
  have otherHead : (verbatim other ++ otherTail).sql.toList.head? = some otherCharacter :=
    head?_append_of_head? otherIsHead
  rw [same, otherHead] at head
  exact (Option.some.inj head).symm

end BoundSql

/-- The two are the same if their SQL is, whatever stands behind it; and so is what stands behind
it. -/
def ToldApart {α : Type} (write : α → BoundSql) (first second : α) : Prop :=
  ∀ tail otherTail, BeginsIn partStops tail.sql → BeginsIn partStops otherTail.sql →
    write first ++ tail = write second ++ otherTail → first = second ∧ tail = otherTail

/-- Joined parts are told apart one after the other. The list ends where a parenthesis closes
instead of a separator following. -/
theorem ToldApart.joinWith {α : Type} {write : α → BoundSql} {separator : String}
    {character : Char} (isHead : separator.toList.head? = some character)
    (isStop : character ∈ partStops) (notClosing : character ≠ ')') {firsts seconds : List α}
    (each : ∀ first ∈ firsts, ∀ second ∈ seconds, ToldApart write first second)
    (firstsNonempty : firsts ≠ []) (secondsNonempty : seconds ≠ []) {tail otherTail : BoundSql}
    (same : .joinWith separator (firsts.map write) ++ (.verbatim ")" ++ tail) =
      .joinWith separator (seconds.map write) ++ (.verbatim ")" ++ otherTail)) :
    firsts = seconds ∧ tail = otherTail := by
  have begins (others : List BoundSql) (behind : BoundSql) :
      BeginsIn partStops (BoundSql.joinedRest separator others (.verbatim ")" ++ behind)).sql := by
    cases others with
    | nil => exact BoundSql.beginsIn_closing behind
    | cons next others => exact BoundSql.beginsIn_verbatim_append isHead isStop
  induction firsts generalizing seconds with
  | nil => exact absurd rfl firstsNonempty
  | cons first rest inductionHypothesis =>
      cases seconds with
      | nil => exact absurd rfl secondsNonempty
      | cons second otherRest =>
          rw [List.map_cons, List.map_cons, BoundSql.joinWith_cons_append,
            BoundSql.joinWith_cons_append] at same
          obtain ⟨rfl, sameRest⟩ := each first List.mem_cons_self second List.mem_cons_self
            _ _ (begins _ _) (begins _ _) same
          cases rest with
          | nil =>
              cases otherRest with
              | nil => exact ⟨rfl, BoundSql.verbatim_append_inj sameRest⟩
              | cons next others =>
                  have impossible := BoundSql.head_eq_of_append_eq (by rfl) isHead sameRest
                  exact absurd impossible.symm notClosing
          | cons next others =>
              cases otherRest with
              | nil =>
                  have impossible := BoundSql.head_eq_of_append_eq isHead (by rfl) sameRest
                  exact absurd impossible notClosing
              | cons otherNext otherOthers =>
                  obtain ⟨sameOthers, sameTail⟩ := inductionHypothesis
                    (fun first member second otherMember =>
                      each first (.tail _ member) second (.tail _ otherMember))
                    (List.cons_ne_nil _ _) (List.cons_ne_nil _ _)
                    (BoundSql.verbatim_append_inj sameRest)
                  exact ⟨congrArg _ sameOthers, sameTail⟩

/-- No column is taken for a placeholder. -/
theorem AllowList.PlainColumns.append_ne_bind {name : String} {parameter : Parameter}
    {tail otherTail : BoundSql} (plain : allow.PlainColumns)
    (listed : allow.hasColumn name = true) (begins : BeginsIn wordStops tail.sql)
    (otherBegins : BeginsIn wordStops otherTail.sql) :
    .verbatim name ++ tail ≠ .bind parameter ++ otherTail := by
  intro same
  obtain ⟨free, notPlaceholder⟩ := plain.column listed
  have impossible := eq_of_word_append_eq free (BoundSql.freeOf_bind parameter) begins otherBegins
    (congrArg BoundSql.sql same)
  exact notPlaceholder impossible.1

theorem Term.Describes.toldApart (plain : allow.PlainColumns) {value otherValue : Json}
    {term otherTerm : Term} (described : Term.Describes allow kind value term)
    (otherDescribed : Term.Describes allow otherKind otherValue otherTerm) :
    ToldApart Term.render term otherTerm := by
  intro tail otherTail begins otherBegins same
  have behind := begins.wordStops_of_partStops
  have otherBehind := otherBegins.wordStops_of_partStops
  cases described with
  | column listed =>
      cases otherDescribed with
      | column otherListed =>
          obtain ⟨rfl, sameTail⟩ := BoundSql.word_append_inj (plain.column listed).1
            (plain.column otherListed).1 behind otherBehind same
          exact ⟨rfl, sameTail⟩
      | literal _ _ _ => exact absurd same (plain.append_ne_bind listed behind otherBehind)
  | literal _ _ _ =>
      cases otherDescribed with
      | column otherListed =>
          exact absurd same.symm (plain.append_ne_bind otherListed otherBehind behind)
      | literal _ _ _ =>
          obtain ⟨rfl, sameTail⟩ := BoundSql.bind_append_inj same
          exact ⟨rfl, sameTail⟩

theorem Term.Describes.freeOf_render (plain : allow.PlainColumns) {value : Json} {term : Term}
    (described : Term.Describes allow kind value term) : FreeOf wordStops term.render.sql := by
  cases described with
  | column listed => exact (plain.column listed).1
  | literal _ _ _ => exact BoundSql.freeOf_bind _

theorem Aggregate.freeOf_token (function : Aggregate) : FreeOf wordStops function.token := by
  cases function <;> decide

/-- A term is not followed by an opening parenthesis, so it is no beginning of a call. -/
theorem Term.Describes.ne_call (plain : allow.PlainColumns) {value : Json} {term : Term}
    (described : Term.Describes allow kind value term) (function : Aggregate)
    {tail call : BoundSql} (begins : BeginsIn partStops tail.sql) :
    term.render ++ tail ≠ .verbatim function.token ++ (.verbatim "(" ++ call) := by
  intro same
  have opens : ("(" ++ call.sql).toList.head? = some '(' := head?_append_of_head? rfl
  obtain ⟨_, sameBehind⟩ := eq_of_word_append_eq (described.freeOf_render plain)
    function.freeOf_token begins.wordStops_of_partStops (.of_head? opens (by decide))
    (congrArg BoundSql.sql same)
  rw [sameBehind] at begins
  exact absurd (begins '(' opens) (by decide)

theorem Operand.Describes.toldApart (plain : allow.PlainColumns) {value otherValue : Json}
    {operand otherOperand : Operand} (described : Operand.Describes allow kind value operand)
    (otherDescribed : Operand.Describes allow otherKind otherValue otherOperand) :
    ToldApart Operand.render operand otherOperand := by
  intro tail otherTail begins otherBegins same
  cases described with
  | term described =>
      cases otherDescribed with
      | term otherDescribed =>
          obtain ⟨rfl, sameTail⟩ :=
            described.toldApart plain otherDescribed _ _ begins otherBegins same
          exact ⟨rfl, sameTail⟩
      | @aggregate _ otherFunction _ _ _ otherDescribed =>
          rw [render_aggregate_eq_append] at same
          simp only [BoundSql.append_assoc] at same
          exact absurd same (described.ne_call plain otherFunction begins)
  | @aggregate _ function _ _ _ described =>
      cases otherDescribed with
      | term otherDescribed =>
          rw [render_aggregate_eq_append] at same
          simp only [BoundSql.append_assoc] at same
          exact absurd same.symm (otherDescribed.ne_call plain function otherBegins)
      | @aggregate _ otherFunction _ _ _ otherDescribed =>
          rw [render_aggregate_eq_append, render_aggregate_eq_append] at same
          simp only [BoundSql.append_assoc] at same
          obtain ⟨sameToken, sameCall⟩ := BoundSql.word_append_inj function.freeOf_token
            otherFunction.freeOf_token (BoundSql.beginsIn_opening _) (BoundSql.beginsIn_opening _)
            same
          obtain ⟨rfl, sameBehind⟩ := described.toldApart plain otherDescribed _ _
            (BoundSql.beginsIn_closing _) (BoundSql.beginsIn_closing _)
            (BoundSql.verbatim_append_inj sameCall)
          exact ⟨congrArg (Operand.aggregate · _) (Aggregate.token_injective sameToken),
            BoundSql.verbatim_append_inj sameBehind⟩

theorem ListComparator.toldApart_renderValues {comparator : ListComparator}
    {values others : List Parameter}
    (counted : comparator = .between ∧ values.length = 2 ∨
      comparator = .within ∧ 1 ≤ values.length)
    (otherCounted : comparator = .between ∧ others.length = 2 ∨
      comparator = .within ∧ 1 ≤ others.length) :
    ToldApart comparator.renderValues values others := by
  intro tail otherTail _ _ same
  cases comparator with
  | between =>
      obtain ⟨low, high, rfl⟩ := List.length_eq_two.mp (counted.resolve_right (by simp)).2
      obtain ⟨otherLow, otherHigh, rfl⟩ :=
        List.length_eq_two.mp (otherCounted.resolve_right (by simp)).2
      simp only [renderValues, List.map_cons, List.map_nil, BoundSql.joinWith_cons_cons_eq_append,
        BoundSql.joinWith_singleton, BoundSql.append_assoc] at same
      obtain ⟨rfl, sameBehind⟩ := BoundSql.bind_append_inj same
      obtain ⟨rfl, sameTail⟩ := BoundSql.bind_append_inj (BoundSql.verbatim_append_inj sameBehind)
      exact ⟨rfl, sameTail⟩
  | within =>
      have nonempty := List.ne_nil_of_length_pos (counted.resolve_left (by simp)).2
      have otherNonempty := List.ne_nil_of_length_pos (otherCounted.resolve_left (by simp)).2
      simp only [renderValues, BoundSql.parenthesized_eq_append, BoundSql.append_assoc] at same
      exact ToldApart.joinWith (by rfl) (by decide) (by decide)
        (fun first _ second _ _ _ _ _ => BoundSql.bind_append_inj) nonempty otherNonempty
        (BoundSql.verbatim_append_inj same)

/-! ### Filters -/

theorem Comparator.freeOf_token (comparator : Comparator) :
    FreeOf wordStops comparator.token := by
  cases comparator <;> decide

theorem ListComparator.freeOf_token (comparator : ListComparator) :
    FreeOf wordStops comparator.token := by
  cases comparator <;> decide

theorem Comparator.token_ne_token (comparator : Comparator) (other : ListComparator) :
    comparator.token ≠ other.token := by
  cases comparator <;> cases other <;> decide

theorem Connective.freeOf_token (connective : Connective) :
    FreeOf wordStops connective.token := by
  cases connective <;> decide

namespace BoundSql

variable {column otherColumn word otherWord : String} {right otherRight tail otherTail : BoundSql}

theorem after_column_append (column word : String) (right tail : BoundSql) :
    right.after (column ++ " " ++ word) ++ tail =
      verbatim column ++
        (verbatim " " ++ (verbatim word ++ (verbatim " " ++ (right ++ tail)))) := by
  simp only [after_eq_append, verbatim_append, append_assoc]

/-- A comparison gives its column, its comparator and what it compares with. -/
theorem after_column_append_inj (columnFree : FreeOf wordStops column)
    (otherColumnFree : FreeOf wordStops otherColumn) (wordFree : FreeOf wordStops word)
    (otherWordFree : FreeOf wordStops otherWord)
    (same : right.after (column ++ " " ++ word) ++ tail =
      otherRight.after (otherColumn ++ " " ++ otherWord) ++ otherTail) :
    column = otherColumn ∧ word = otherWord ∧ right ++ tail = otherRight ++ otherTail := by
  rw [after_column_append, after_column_append] at same
  obtain ⟨sameColumn, sameBehind⟩ := word_append_inj columnFree otherColumnFree
    (beginsIn_space _) (beginsIn_space _) same
  obtain ⟨sameWord, sameRight⟩ := word_append_inj wordFree otherWordFree
    (beginsIn_space _) (beginsIn_space _) (verbatim_append_inj sameBehind)
  exact ⟨sameColumn, sameWord, verbatim_append_inj sameRight⟩

/-- A group is no comparison: no column begins with a parenthesis. -/
theorem parenthesized_append_ne_after (columnFree : FreeOf wordStops column)
    (inner : BoundSql) :
    inner.parenthesized ++ tail ≠ right.after (column ++ " " ++ word) ++ otherTail := by
  intro same
  rw [parenthesized_eq_append, append_assoc, after_column_append] at same
  -- A group begins with the empty word, and no column is followed by a parenthesis.
  have noWord : FreeOf wordStops "" := by decide
  have unworded : verbatim "" ++ (verbatim "(" ++ (inner ++ verbatim ")" ++ tail)) =
      verbatim column ++
        (verbatim " " ++ (verbatim word ++ (verbatim " " ++ (right ++ otherTail)))) :=
    (eq_of_parts_eq String.empty_append rfl).trans same
  obtain ⟨_, sameBehind⟩ := word_append_inj noWord columnFree (beginsIn_opening _)
    (beginsIn_space _) unworded
  exact absurd (head_eq_of_append_eq (by rfl) (by rfl) sameBehind) (by decide)

end BoundSql

namespace Filter

/-- Groups are told apart if their conditions are. The word behind the first condition is the
connective. -/
theorem toldApart_group {connective other : Connective} {filters others : List Filter}
    (several : 2 ≤ filters.length) (otherSeveral : 2 ≤ others.length)
    (each : ∀ filter ∈ filters, ∀ other ∈ others, ToldApart render filter other) :
    ToldApart render (.group connective filters) (.group other others) := by
  intro tail otherTail _ _ same
  have spaces (behind : BoundSql) : BeginsIn partStops (.verbatim " " ++ behind).sql :=
    BoundSql.beginsIn_verbatim_append (by rfl) (by decide)
  rcases filters with _ | ⟨first, _ | ⟨next, rest⟩⟩
  · exact absurd several (by simp)
  · exact absurd several (by simp)
  rcases others with _ | ⟨otherFirst, _ | ⟨otherNext, otherRest⟩⟩
  · exact absurd otherSeveral (by simp)
  · exact absurd otherSeveral (by simp)
  simp only [render, renderAll_eq_map, BoundSql.parenthesized_eq_append, List.map_cons,
    BoundSql.joinWith_cons_cons_eq_append, BoundSql.verbatim_append, BoundSql.append_assoc] at same
  obtain ⟨rfl, sameBehind⟩ := each first List.mem_cons_self otherFirst List.mem_cons_self _ _
    (spaces _) (spaces _) (BoundSql.verbatim_append_inj same)
  obtain ⟨sameToken, sameRest⟩ := BoundSql.word_append_inj connective.freeOf_token
    other.freeOf_token (BoundSql.beginsIn_space _) (BoundSql.beginsIn_space _)
    (BoundSql.verbatim_append_inj sameBehind)
  cases Connective.token_injective sameToken
  have opens : (" " ++ connective.token ++ " ").toList.head? = some ' ' :=
    head?_append_of_head? (head?_append_of_head? rfl)
  obtain ⟨sameFilters, sameTail⟩ := ToldApart.joinWith opens (by decide) (by decide)
    (fun filter member other otherMember =>
      each filter (.tail _ member) other (.tail _ otherMember))
    (List.cons_ne_nil _ _) (List.cons_ne_nil _ _) (BoundSql.verbatim_append_inj sameRest)
  exact ⟨congrArg (Filter.group connective <| first :: ·) sameFilters, sameTail⟩

theorem Describes.toldApart (plain : allow.PlainColumns) {node : Json} {filter : Filter}
    (described : Describes allow node filter) : ∀ (otherNode : Json) (other : Filter),
    Describes allow otherNode other → ToldApart render filter other := by
  -- The induction is on the first filter only; inside a group the second one changes with it.
  refine Describes.induct ?group ?compare ?list described
  case group =>
    intro word connective nodes filters _ several matched each otherNode other otherDescribed
    rw [matched.length_eq] at several
    cases otherDescribed with
    | @group _ _ _ others _ otherSeveral otherMatched =>
        rw [otherMatched.length_eq] at otherSeveral
        have eachOther : ∀ other ∈ others, ∃ node, Describes allow node other :=
          forall_mem_of_forall₂ (otherMatched.imp fun node _ described => ⟨node, described⟩)
        refine toldApart_group several otherSeveral ?_
        intro filter member other otherMember
        obtain ⟨_, otherDescribed⟩ := eachOther other otherMember
        exact forall_mem_of_forall₂ each filter member _ other otherDescribed
    | compare _ listed _ _ =>
        have free := plain.freeOf listed
        intro tail otherTail _ _ same
        exact absurd same (BoundSql.parenthesized_append_ne_after free _)
    | list _ listed _ _ _ =>
        have free := plain.freeOf listed
        intro tail otherTail _ _ same
        exact absurd same (BoundSql.parenthesized_append_ne_after free _)
  case compare =>
    intro column kind word comparator value operand _ listed _ described otherNode other
      otherDescribed tail otherTail begins otherBegins same
    have free := plain.freeOf listed
    cases otherDescribed with
    | group _ _ _ => exact absurd same.symm (BoundSql.parenthesized_append_ne_after free _)
    | @compare _ _ _ otherComparator _ _ _ otherListed _ otherDescribed =>
        have otherFree := plain.freeOf otherListed
        obtain ⟨rfl, sameToken, sameRight⟩ := BoundSql.after_column_append_inj free otherFree
          comparator.freeOf_token otherComparator.freeOf_token same
        cases Comparator.token_injective sameToken
        obtain ⟨rfl, sameTail⟩ :=
          described.toldApart plain otherDescribed _ _ begins otherBegins sameRight
        exact ⟨rfl, sameTail⟩
    | @list _ _ _ otherComparator _ _ _ otherListed _ _ _ =>
        have otherFree := plain.freeOf otherListed
        obtain ⟨_, sameToken, _⟩ := BoundSql.after_column_append_inj free otherFree
          comparator.freeOf_token otherComparator.freeOf_token same
        exact absurd sameToken (comparator.token_ne_token otherComparator)
  case list =>
    intro column kind word comparator entries values _ listed _ counted matched otherNode other
      otherDescribed tail otherTail begins otherBegins same
    have free := plain.freeOf listed
    rw [matched.length_eq] at counted
    cases otherDescribed with
    | group _ _ _ => exact absurd same.symm (BoundSql.parenthesized_append_ne_after free _)
    | @compare _ _ _ otherComparator _ _ _ otherListed _ _ =>
        have otherFree := plain.freeOf otherListed
        obtain ⟨_, sameToken, _⟩ := BoundSql.after_column_append_inj free otherFree
          comparator.freeOf_token otherComparator.freeOf_token same
        exact absurd sameToken.symm (otherComparator.token_ne_token comparator)
    | @list _ _ _ otherComparator _ _ _ otherListed _ otherCounted otherMatched =>
        have otherFree := plain.freeOf otherListed
        rw [otherMatched.length_eq] at otherCounted
        obtain ⟨rfl, sameToken, sameRight⟩ := BoundSql.after_column_append_inj free otherFree
          comparator.freeOf_token otherComparator.freeOf_token same
        cases ListComparator.token_injective sameToken
        obtain ⟨rfl, sameTail⟩ := ListComparator.toldApart_renderValues counted otherCounted _ _
          begins otherBegins sameRight
        exact ⟨rfl, sameTail⟩

/-- Accepted filters with the same text and the same parameters are the same filter. -/
theorem check_eq_of_sqlOf_eq (plain : allow.PlainColumns) {first second : Json}
    {firstBound secondBound : BoundSql} (firstAccepted : sqlOf allow first = .ok firstBound)
    (secondAccepted : sqlOf allow second = .ok secondBound)
    (sameSql : firstBound.sql = secondBound.sql)
    (sameParams : firstBound.params = secondBound.params) :
    ∃ filter, check allow first = .ok filter ∧ check allow second = .ok filter := by
  obtain ⟨filter, described, rfl⟩ := sqlOf_eq_ok_iff.mp firstAccepted
  obtain ⟨other, otherDescribed, rfl⟩ := sqlOf_eq_ok_iff.mp secondAccepted
  have same : filter.render ++ .empty = other.render ++ .empty :=
    congrArg (· ++ BoundSql.empty) (BoundSql.eq_of_parts_eq sameSql sameParams)
  obtain ⟨rfl, _⟩ :=
    described.toldApart plain _ _ otherDescribed _ _ (.empty _) (.empty _) same
  exact ⟨filter, check_of_describes described, check_of_describes otherDescribed⟩

/-- "Not equal" has two spellings, and a filter with either is the same. -/
theorem check_eq_orders :
    Orders.allowList.PlainColumns ∧
    ∃ filter, check Orders.allowList (Orders.filter "paid") = .ok filter ∧
      check Orders.allowList
        (.object [("OR", .array
          [.object [("total", .object [("<>", .object [("AVG", .string "total")])])],
            .object [("IN", .object [("IN", .array [.string "paid", .string "IN"])])]])]) =
        .ok filter := by
  have plain : Orders.allowList.PlainColumns := by decide
  exact ⟨plain, check_eq_of_sqlOf_eq plain rfl rfl rfl rfl⟩

end Filter

end GuardedSql
