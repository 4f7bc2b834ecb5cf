import GuardedSql.Proofs.Statement.Grammar

set_option autoImplicit false

/-!
What the literals of a filter are bound as.

`Filter.literals` lists the literals of a filter as they stand in the value, from left to right, and
`Occurrence.Binds` says which parameter a literal is bound as, from the type of the column that it
is compared with. The parameters of an accepted filter are the literals of the value, one for each
and in order, and each has the type and the exact content of its literal: `binds_of_sqlOf`. The only
numbers that change are whole numbers beyond the signed words, which become doubles, and the only
parameters of another type are the names of columns in lists.
-/

namespace GuardedSql

open List (Forall₂)

/-- A literal is one operand, as it is or as the argument of an aggregate, or an entry of a list. -/
inductive Position where
  | operand
  | entry
  deriving DecidableEq

/-- A literal in a filter, with the column that it is compared with. -/
structure Occurrence where
  column : String
  position : Position
  literal : Json

def Term.literals (allow : AllowList) (column : String) (value : Json) : List Occurrence :=
  match allow.columnNamed? value with
  | some _ => []
  | none => [⟨column, .operand, value⟩]

def Operand.literals (allow : AllowList) (column : String) : Json → List Occurrence
  | .array entries => entries.map fun entry => ⟨column, .entry, entry⟩
  | .object [(_, argument)] => Term.literals allow column argument
  | value => Term.literals allow column value

namespace Filter

mutual

/-- The literals of a filter from left to right. The name of a listed column is a literal in a list
only. -/
def literals (allow : AllowList) : Json → List Occurrence
  | .object [(_, .array nodes)] => literalsAll allow nodes
  | .object [(column, .object [(_, operand)])] => Operand.literals allow column operand
  | _ => []

def literalsAll (allow : AllowList) : List Json → List Occurrence
  | [] => []
  | node :: rest => literals allow node ++ literalsAll allow rest

end

theorem literalsAll_eq_flatMap (allow : AllowList) (nodes : List Json) :
    literalsAll allow nodes = nodes.flatMap (literals allow) := by
  induction nodes with
  | nil => rfl
  | cons node rest inductionHypothesis =>
      rw [literalsAll, inductionHypothesis, List.flatMap_cons]

end Filter

/-- The parameter of the same type and content as a literal. -/
inductive ColumnType.Binds : ColumnType → Json → Parameter → Prop where
  | string (text : String) : Binds .string (.string text) (.text text)
  | boolean (value : Bool) : Binds .boolean (.bool value) (.bool value)
  | integer {value : Int} {word : Int64}
      (fits : -0x8000000000000000 ≤ value ∧ value < 0x10000000000000000)
      (small : value < 0x8000000000000000) (same : word.toInt = value) :
      Binds .integer (.number (.integer value fits)) (.integer word)
  | whole {value : Int} {word : Int64}
      (fits : -0x8000000000000000 ≤ value ∧ value < 0x10000000000000000)
      (small : value < 0x8000000000000000) (same : word.toInt = value) :
      Binds .float (.number (.integer value fits)) (.integer word)
  | large {value : Int} (fits : -0x8000000000000000 ≤ value ∧ value < 0x10000000000000000)
      (beyond : 0x8000000000000000 ≤ value) :
      Binds .float (.number (.integer value fits))
        (.float (Binary64.ofWord value.toNat (Parameter.toNat_lt_of_fits fits)).toDouble)
  | float (value : Binary64) : Binds .float (.number (.float value)) (.float value.toDouble)

/-- A literal is bound with its own content as the type of its column has it. In a list the name of
a column is bound as that name, whatever the type is. -/
inductive Occurrence.Binds (allow : AllowList) : Occurrence → Parameter → Prop where
  | literal {column : String} {kind : ColumnType} {position : Position} {value : Json}
      {parameter : Parameter} (listed : allow.typeOfColumn? column = some kind)
      (unnamed : ¬allow.NamesColumn value) (bound : kind.Binds value parameter) :
      Binds allow ⟨column, position, value⟩ parameter
  | name {column name : String} {kind : ColumnType}
      (listed : allow.typeOfColumn? column = some kind) (named : allow.hasColumn name = true) :
      Binds allow ⟨column, .entry, .string name⟩ (.text name)

variable {allow : AllowList} {kind : ColumnType}

theorem Parameter.toInt_ofInt {value : Int}
    (fits : -0x8000000000000000 ≤ value ∧ value < 0x10000000000000000)
    (small : value < 0x8000000000000000) : (Int64.ofInt value).toInt = value :=
  Int64.toInt_ofInt_of_le fits.1 small

/-- The literals of a type are bound as that type demands. -/
theorem ColumnType.binds_of_accepts {value : Json} {parameter : Parameter}
    (accepted : kind.accepts value = true) (bound : Parameter.ofJson? value = some parameter) :
    kind.Binds value parameter := by
  cases kind with
  | string =>
      cases value with
      | string text =>
          cases bound
          exact .string text
      | _ => cases accepted
  | boolean =>
      cases value with
      | bool value =>
          cases bound
          exact .boolean value
      | _ => cases accepted
  | integer =>
      cases value with
      | number number =>
          cases bound
          cases number with
          | integer value fits =>
              by_cases small : value < 0x8000000000000000
              · rw [Parameter.ofNumber, if_pos small]
                exact .integer fits small (Parameter.toInt_ofInt fits small)
              · simp [accepts, Number.toInt64?, small] at accepted
          | float value => cases accepted
      | _ => cases accepted
  | float =>
      cases value with
      | number number =>
          cases bound
          cases number with
          | integer value fits =>
              by_cases small : value < 0x8000000000000000
              · rw [Parameter.ofNumber, if_pos small]
                exact .whole fits small (Parameter.toInt_ofInt fits small)
              · rw [Parameter.ofNumber, if_neg small]
                exact .large fits (Int.not_lt.mp small)
          | float value => exact .float value
      | _ => cases accepted

namespace Occurrence.Binds

variable {occurrence : Occurrence} {parameter : Parameter}

theorem ne_null (binds : Binds allow occurrence parameter) : parameter ≠ .null := by
  rintro rfl
  cases binds with
  | literal _ _ bound => cases bound

/-- No column of whole numbers is compared with a double. -/
theorem ne_float (binds : Binds allow occurrence parameter)
    (isInteger : allow.typeOfColumn? occurrence.column = some .integer) (value : Double) :
    parameter ≠ .float value := by
  rintro rfl
  cases binds with
  | literal listed _ bound =>
      cases listed.symm.trans isInteger
      cases bound

/-- The text of one operand is no column: a column would have been written instead. -/
theorem hasColumn_eq_false (binds : Binds allow occurrence parameter)
    (isOperand : occurrence.position = .operand) {text : String} (isText : parameter = .text text) :
    allow.hasColumn text = false := by
  subst isText
  cases binds with
  | literal _ unnamed bound =>
      cases bound with
      | string _ => exact Bool.eq_false_iff.mpr fun listed => unnamed ⟨text, rfl, listed⟩
  | name _ _ => cases isOperand

end Occurrence.Binds

theorem Term.Describes.binds {column : String} (listed : allow.typeOfColumn? column = some kind)
    {value : Json} {term : Term} (described : Term.Describes allow kind value term) :
    Forall₂ (Occurrence.Binds allow) (Term.literals allow column value) term.render.params := by
  cases described with
  | @column name isColumn =>
      have named : allow.columnNamed? (.string name) = some name :=
        AllowList.columnNamed?_eq_some_iff.mpr ⟨rfl, isColumn⟩
      rw [Term.literals, named]
      exact .nil
  | literal unnamed accepted bound =>
      rw [Term.literals, AllowList.columnNamed?_eq_none_iff.mpr unnamed]
      exact .cons (.literal listed unnamed (ColumnType.binds_of_accepts accepted bound)) .nil

theorem Operand.Describes.binds {column : String} (listed : allow.typeOfColumn? column = some kind)
    {value : Json} {operand : Operand} (described : Operand.Describes allow kind value operand) :
    Forall₂ (Occurrence.Binds allow) (Operand.literals allow column value)
      operand.render.params := by
  cases described with
  | term described =>
      cases value with
      | array entries =>
          -- Neither a list nor an object is a term.
          cases described with
          | literal _ _ bound => cases bound
      | object members =>
          cases described with
          | literal _ _ bound => cases bound
      | _ => exact described.binds listed
  | aggregate _ described => exact described.binds listed

theorem ListComparator.EntryDescribes.binds {column : String}
    (listed : allow.typeOfColumn? column = some kind) {entry : Json} {parameter : Parameter}
    (described : ListComparator.EntryDescribes allow kind entry parameter) :
    Occurrence.Binds allow ⟨column, .entry, entry⟩ parameter := by
  by_cases named : allow.NamesColumn entry
  · obtain ⟨name, rfl, isColumn⟩ := named
    cases described.bound
    exact .name listed isColumn
  · exact .literal listed named
      (ColumnType.binds_of_accepts (described.fitting.resolve_left named) described.bound)

theorem ListComparator.params_renderValues (comparator : ListComparator)
    (values : List Parameter) : (comparator.renderValues values).params = values := by
  have joined (separator : String) :
      (BoundSql.joinWith separator (values.map .bind)).params = values := by
    rw [BoundSql.joinWith, List.flatMap_map]
    exact List.flatMap_singleton' values
  cases comparator with
  | between => exact joined " AND "
  | within => exact joined ","

namespace Filter

theorem params_render_group (connective : Connective) (filters : List Filter) :
    (group connective filters).render.params =
      filters.flatMap fun filter => filter.render.params := by
  rw [render, renderAll_eq_map, BoundSql.parenthesized, BoundSql.joinWith, List.flatMap_map]

/-- Every parameter is what its literal is bound as. -/
theorem Describes.binds {node : Json} {filter : Filter} (described : Describes allow node filter) :
    Forall₂ (Occurrence.Binds allow) (literals allow node) filter.render.params := by
  refine Describes.induct ?group ?compare ?list described
  case group =>
    intro word connective nodes filters _ _ _ each
    rw [literals, literalsAll_eq_flatMap, params_render_group]
    exact List.rel_flatMap each fun _ _ bound => bound
  case compare =>
    intro column kind word comparator value operand _ listed _ described
    exact described.binds listed
  case list =>
    intro column kind word comparator entries values _ listed _ _ described
    rw [render, BoundSql.after, ListComparator.params_renderValues, literals, Operand.literals,
      List.forall₂_map_left_iff]
    exact described.imp fun _ _ each => each.binds listed

/-- The parameters of an accepted filter are its literals, each bound with the type and the content
it has. Null is not among them, no whole-number column has a double, and no text that is one operand
names a listed column. -/
theorem binds_of_sqlOf {node : Json} {bound : BoundSql} (accepted : sqlOf allow node = .ok bound) :
    Forall₂ (Occurrence.Binds allow) (literals allow node) bound.params ∧
    .null ∉ bound.params ∧
    ∀ occurrence parameter, (occurrence, parameter) ∈ (literals allow node).zip bound.params →
      (allow.typeOfColumn? occurrence.column = some .integer →
        ∀ value, parameter ≠ .float value) ∧
      (occurrence.position = .operand →
        ∀ text, parameter = .text text → allow.hasColumn text = false) := by
  obtain ⟨filter, described, rfl⟩ := sqlOf_eq_ok_iff.mp accepted
  have each := described.binds
  refine ⟨each, ?_, ?_⟩
  · intro bindsNull
    exact forall_mem_of_forall₂ (each.imp fun _ _ binds => binds.ne_null) _ bindsNull rfl
  · intro occurrence parameter paired
    have binds := List.forall₂_zip each paired
    exact ⟨binds.ne_float, fun isOperand _ isText => binds.hasColumn_eq_false isOperand isText⟩

/-- A whole number beyond the signed words, one within them and the name of a column, all compared
with a column of doubles, and a text that names no column. -/
def numericOrders : Json :=
  .object [("AND", .array [
    .object [("total", .object [(">", .object [("MAX",
      Json.ofInt 0x8000000000000001 (by decide))])])],
    .object [("total", .object [("BETWEEN", .array [Json.ofInt (-7) (by decide), .string "IN"])])],
    .object [("IN", .object [("=", .string "paid")])]])]

/-- The first number becomes the nearest double; the name in the list is bound as a text although
the column has doubles. -/
def numericParams : List Parameter :=
  [.float ⟨false, 0x43E0000000000000, by decide⟩, .integer (-7), .text "IN", .text "paid"]

theorem binds_numericOrders :
    sqlOf Orders.allowList numericOrders =
      .ok ⟨"(total > MAX(?) AND total BETWEEN ? AND ? AND IN = ?)", numericParams⟩ ∧
    Forall₂ (Occurrence.Binds Orders.allowList) (literals Orders.allowList numericOrders)
      numericParams ∧
    .null ∉ numericParams := by
  have rounded : (Binary64.ofWord 0x8000000000000001 (by decide)).toDouble =
      ⟨false, 0x43E0000000000000, by decide⟩ := by decide +kernel
  have accepted : sqlOf Orders.allowList numericOrders =
      .ok ⟨"(total > MAX(?) AND total BETWEEN ? AND ? AND IN = ?)", numericParams⟩ := by
    rw [numericParams, ← rounded]
    rfl
  exact ⟨accepted, (binds_of_sqlOf accepted).1, (binds_of_sqlOf accepted).2.1⟩

end Filter

end GuardedSql
