import GuardedSql.Proofs.AllowList.Loading
import Mathlib.Data.List.Induction
import Mathlib.Data.List.Perm.Basic

set_option autoImplicit false

/-!
An allow-list that is built by additions, and the object that lists these additions.

One addition changes one field by one entry, so a built allow-list holds for each field the map of
the entries that were added to it, in order. Reading the object that lists these entries gives the
same maps. The order of additions therefore matters only between additions of one column, whose last
type counts: `AllowList.build_of_additions`.
-/

namespace GuardedSql

open List (Forall₂)

theorem NameMap.ofList_append_singleton {α : Type} (entries : List (String × α))
    (entry : String × α) :
    ofList (entries ++ [entry]) = (ofList entries).insert entry.1 entry.2 := by
  rw [ofList, List.foldl_append, ← ofList, List.foldl_cons, List.foldl_nil]

namespace Addition

def nameIn? : SetField → Addition → Option String
  | .queries, .query name => some name
  | .items, .item name => some name
  | .tables, .table name => some name
  | .connections, .connection name => some name
  | _, _ => none

def column? : Addition → Option (String × ColumnType)
  | .column name kind => some (name, kind)
  | _ => none

end Addition

def SetField.addition : SetField → String → Addition
  | queries => .query
  | items => .item
  | tables => .table
  | connections => .connection

theorem Addition.nameIn?_eq_some_iff {set : SetField} {addition : Addition} {name : String} :
    addition.nameIn? set = some name ↔ addition = set.addition name := by
  cases set <;> cases addition <;> simp [nameIn?, SetField.addition]

theorem Addition.column?_eq_some_iff {addition : Addition} {name : String} {kind : ColumnType} :
    addition.column? = some (name, kind) ↔ addition = .column name kind := by
  cases addition <;> simp [column?]

namespace AllowList

/-- The names that are added to a set, in order and with their repetitions. -/
def addedNames (set : SetField) (additions : List Addition) : List String :=
  additions.filterMap (Addition.nameIn? set)

def addedColumns (additions : List Addition) : List (String × ColumnType) :=
  additions.filterMap Addition.column?

theorem mem_addedNames {set : SetField} {additions : List Addition} {name : String} :
    name ∈ addedNames set additions ↔ set.addition name ∈ additions := by
  simp only [addedNames, List.mem_filterMap, Addition.nameIn?_eq_some_iff, exists_eq_right]

theorem mem_addedColumns {additions : List Addition} {name : String} {kind : ColumnType} :
    (name, kind) ∈ addedColumns additions ↔ .column name kind ∈ additions := by
  simp only [addedColumns, List.mem_filterMap, Addition.column?_eq_some_iff, exists_eq_right]

theorem build_append_singleton (additions : List Addition) (addition : Addition) :
    build (additions ++ [addition]) = (build additions).add addition := by
  rw [build, List.foldl_append, ← build, List.foldl_cons, List.foldl_nil]

/-- A field that every addition extends by at most one entry holds the added entries. -/
theorem field_build {α : Type} (field : AllowList → NameMap α)
    (added? : Addition → Option (String × α)) (atStart : field empty = .empty)
    (atStep : ∀ allow addition, field (allow.add addition) =
      match added? addition with
      | some entry => (field allow).insert entry.1 entry.2
      | none => field allow) (additions : List Addition) :
    field (build additions) = .ofList (additions.filterMap added?) := by
  induction additions using List.reverseRecOn with
  | nil => exact atStart
  | append_singleton additions addition inductionHypothesis =>
      rw [build_append_singleton, atStep, inductionHypothesis, List.filterMap_append]
      cases found : added? addition with
      | none => rw [List.filterMap_cons_none found, List.filterMap_nil, List.append_nil]
      | some entry =>
          rw [List.filterMap_cons_some found, List.filterMap_nil,
            NameMap.ofList_append_singleton]

theorem set_build (additions : List Addition) (set : SetField) :
    (build additions).set set = NameSet.ofList (addedNames set additions) := by
  rw [NameSet.ofList, addedNames, List.map_filterMap]
  refine field_build (fun allow => allow.set set) _ (by cases set <;> rfl) ?_ additions
  intro allow addition
  cases set <;> cases addition <;> rfl

theorem columns_build (additions : List Addition) :
    (build additions).columns = NameMap.ofList (addedColumns additions) := by
  refine field_build columns _ rfl ?_ additions
  intro allow addition
  cases addition <;> rfl

theorem contains_build {additions : List Addition} {set : SetField} {name : String} :
    ((build additions).set set).contains name = true ↔ set.addition name ∈ additions := by
  rw [set_build, NameSet.contains_ofList, mem_addedNames]

/-- A column has the type of its last addition. -/
theorem typeOfColumn?_build (additions : List Addition) (name : String) :
    (build additions).typeOfColumn? name =
      (NameMap.valuesOf name (addedColumns additions)).getLast? := by
  rw [typeOfColumn?, columns_build, NameMap.find?_ofList_eq_getLast?]

theorem hasColumn_build {additions : List Addition} {name : String} :
    (build additions).hasColumn name = true ↔ ∃ kind, .column name kind ∈ additions := by
  rw [hasColumn, NameMap.contains, ← typeOfColumn?, typeOfColumn?_build, List.getLast?_isSome]
  simp only [← mem_addedColumns, ← NameMap.mem_valuesOf]
  constructor
  · exact List.exists_mem_of_ne_nil _
  · rintro ⟨_, member⟩
    exact List.ne_nil_of_mem member

/-- The order of additions does not matter but for additions of one column. -/
theorem build_eq_of_perm {additions others : List Addition} (same : others.Perm additions)
    (sameColumns : ∀ name, NameMap.valuesOf name (addedColumns others) =
      NameMap.valuesOf name (addedColumns additions)) : build others = build additions := by
  apply eq_of_fields_eq
  · intro set
    apply NameSet.eq_of_contains
    intro name
    rw [contains_build, contains_build, same.mem_iff]
  · apply NameMap.eq_of_find?_eq
    intro name
    rw [← typeOfColumn?, ← typeOfColumn?, typeOfColumn?_build, typeOfColumn?_build,
      sameColumns name]

/-! ### The object that lists the additions -/

/-- What the object lists under a field. -/
def fieldJson (additions : List Addition) : Field → Json
  | .names set => .array ((addedNames set additions).map .string)
  | .columns => .object ((addedColumns additions).map fun entry => (entry.1, .string entry.2.name))

def fieldDocument (additions : List Addition) : Field → Document
  | .names set => .array ((addedNames set additions).map fun name => .string (some name))
  | .columns =>
      .object ((addedColumns additions).map fun entry =>
        (some entry.1, .string (some entry.2.name)))

def allFields : List Field :=
  [.names .queries, .names .items, .names .tables, .names .connections, .columns]

/-- The members of the object, each field under the name that is chosen for it. -/
def listing (naming : Field → String) (additions : List Addition) : List (String × Json) :=
  allFields.map fun field => (naming field, fieldJson additions field)

theorem reads_fieldJson (additions : List Addition) (field : Field) :
    Document.Reads (fieldJson additions field).compact (fieldDocument additions field) := by
  cases field with
  | names set => exact NameSet.reads_names _
  | columns => exact reads_columns _

theorem given_map_fields {naming : Field → String}
    (spelled : ∀ field, naming field ∈ field.spellings) (content : Field → Document)
    (field : Field) (fields : List Field) :
    given field.name (fields.map fun other => (naming other, content other)) =
      (fields.filter fun other => other = field).map content := by
  induction fields with
  | nil => rfl
  | cons first rest inductionHypothesis =>
      rw [List.map_cons, List.filter_cons]
      by_cases isField : first = field
      · rw [given_cons_of_mem (isField ▸ spelled first), if_pos (decide_eq_true isField),
          List.map_cons, inductionHypothesis]
      · rw [given_cons_of_not_mem fun named =>
          isField (Field.eq_of_mem_spellings (spelled first) named),
          if_neg (by rwa [decide_eq_true_eq]), inductionHypothesis]

theorem given_all {naming : Field → String} (spelled : ∀ field, naming field ∈ field.spellings)
    (content : Field → Document) (field : Field) :
    given field.name (allFields.map fun other => (naming other, content other)) =
      [content field] := by
  have once : allFields.filter (fun other => other = field) = [field] := by
    rcases field with (_ | _ | _ | _) | _ <;> rfl
  rw [given_map_fields spelled, once, List.map_singleton]

theorem ofMembers?_documents {naming : Field → String}
    (spelled : ∀ field, naming field ∈ field.spellings) (additions : List Addition) :
    ofMembers? (allFields.map fun field => (naming field, fieldDocument additions field)) =
      some (build additions) := by
  rw [ofMembers?_eq_some_iff]
  constructor
  · intro set
    rw [given_all spelled, soleOrEmpty?, set_build]
    exact nameSet?_eq_some_iff.mpr ⟨_, .intro _, rfl⟩
  · rw [given_all spelled, soleOrEmpty?, columns_build, fieldDocument, columns?,
      columnList?_map, Option.map_some]

theorem ofText?_listing {naming : Field → String} {additions : List Addition}
    {members : List (String × Json)} {text : String}
    (spelled : ∀ field, naming field ∈ field.spellings)
    (lists : members.Perm (listing naming additions))
    (written : Document.ofText? text = Document.ofText? (Json.object members).compact) :
    ofText? text = some (build additions) := by
  have read : Forall₂ (fun member document => document.1 = member.1 ∧
      Document.Reads member.2.compact document.2) (listing naming additions)
      (allFields.map fun field => (naming field, fieldDocument additions field)) := by
    rw [listing, forall₂_map_map_iff, List.forall₂_same]
    exact fun field _ => ⟨rfl, reads_fieldJson additions field⟩
  obtain ⟨documents, each, permuted⟩ := List.perm_comp_forall₂ lists read
  have isObject :
      Document.Reads (Json.object members).compact (.object (namedMembers documents)) := by
    apply Document.Reads.compact_object
    rw [namedMembers, List.forall₂_map_right_iff]
    exact each.imp fun member document reads => ⟨congrArg some reads.1, reads.2⟩
  rw [ofText?_eq_ofMembers? (written.trans isObject.alone),
    ofMembers?_eq_of_rearranged (.permute permuted), ofMembers?_documents spelled]

/-- Additions build the allow-list that is read from the object listing them, in whatever order its
fields stand, by whichever name each is given, and however its text is laid out. It holds the added
names and no others, and the last type of each column; and only the order of the additions of one
column matters. -/
theorem build_of_additions (additions : List Addition) :
    (∀ naming members text, (∀ field, naming field ∈ field.spellings) →
      members.Perm (listing naming additions) →
      Document.ofText? text = Document.ofText? (Json.object members).compact →
      ofText? text = some (build additions)) ∧
    (∀ set name, ((build additions).set set).contains name = true ↔
      set.addition name ∈ additions) ∧
    (∀ name, ((build additions).hasColumn name = true ↔
      ∃ kind, .column name kind ∈ additions) ∧
      (build additions).typeOfColumn? name =
        (NameMap.valuesOf name (addedColumns additions)).getLast?) ∧
    ∀ others, others.Perm additions →
      (∀ name, NameMap.valuesOf name (addedColumns others) =
        NameMap.valuesOf name (addedColumns additions)) → build others = build additions := by
  refine ⟨?_, ?_, ?_, ?_⟩
  · intro naming members text spelled lists written
    exact ofText?_listing spelled lists written
  · intro set name
    exact contains_build
  · intro name
    exact ⟨hasColumn_build, typeOfColumn?_build additions name⟩
  · intro others same sameColumns
    exact build_eq_of_perm same sameColumns

def repeatedAdditions : List Addition :=
  [.column "paid" .float, .query "SELECT", .column "paid" .boolean, .query "SELECT"]

/-- The long name for the set of queries only. -/
def mixedNaming (field : Field) : String :=
  if field = .names .queries then "allowed_queries" else field.name

theorem ofText?_repeatedAdditions :
    (∀ field, mixedNaming field ∈ field.spellings) ∧
    ofText? (Json.object (listing mixedNaming repeatedAdditions).reverse).compact =
      some (build repeatedAdditions) ∧
    build repeatedAdditions =
      build [.query "SELECT", .query "SELECT", .column "paid" .float, .column "paid" .boolean] := by
  have spelled : ∀ field, mixedNaming field ∈ field.spellings := by
    rintro ((_ | _ | _ | _) | _) <;> decide
  obtain ⟨read, _, _, reordered⟩ := build_of_additions repeatedAdditions
  refine ⟨spelled, read mixedNaming _ _ spelled (List.reverse_perm _) rfl, ?_⟩
  exact (reordered _ (by decide) fun _ => rfl).symm

end AllowList

end GuardedSql
