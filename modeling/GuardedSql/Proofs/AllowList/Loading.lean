import GuardedSql.Proofs.AllowList.Fields
import Mathlib.Data.Set.List
import Mathlib.Logic.Relation

set_option autoImplicit false

/-!
Which objects are read as which allow-list.

`AllowList.Loadable` is a condition on the members of an object, taken in their order and with their
repetitions, and `AllowList.Loaded` says what the allow-list of such members holds. Neither depends
on the order of the members, on the spelling of a field, on the order or the number of the strings
in a list, or on members that are no field. `AllowList.Rearranged` lists these changes, and none of
them changes what is read: `ofText?_of_object`.

The names of the members have to be readable. Nothing is asked of strings anywhere else.
-/

namespace GuardedSql

namespace AllowList

variable {members others : List (String × Document)}

/-- Every field is given at most once, under either name, and holds what it should. -/
structure Loadable (members : List (String × Document)) : Prop where
  once : ∀ field : Field, members.countP (fun member => member.1 ∈ field.spellings) ≤ 1
  sets : ∀ set, ∀ member ∈ members, member.1 ∈ (Field.names set).spellings →
    ∃ names, ListsNames member.2 names
  columns : ∀ member ∈ members, member.1 ∈ Field.columns.spellings →
    ∃ entries, ListsColumns member.2 entries

/-- A set holds the strings that a member lists for it, and a column has the last type that a member
gives it. Without such a member there is nothing in the set, and there are no columns. -/
structure Loaded (members : List (String × Document)) (allow : AllowList) : Prop where
  sets : ∀ set name, (allow.set set).contains name = true ↔
    ∃ member ∈ members, member.1 ∈ (Field.names set).spellings ∧
      ∃ names, ListsNames member.2 names ∧ name ∈ names
  columns : ∀ name kind, allow.typeOfColumn? name = some kind ↔
    ∃ member ∈ members, member.1 ∈ Field.columns.spellings ∧
      ∃ entries, ListsColumns member.2 entries ∧
        (NameMap.valuesOf name entries).getLast? = some kind

theorem exists_nameSet?_iff {document : Document} :
    (∃ set, nameSet? document = some set) ↔ ∃ names, ListsNames document names := by
  simp only [nameSet?_eq_some_iff]
  constructor
  · rintro ⟨_, names, lists, _⟩
    exact ⟨names, lists⟩
  · rintro ⟨names, lists⟩
    exact ⟨_, names, lists, rfl⟩

theorem exists_columns?_iff {document : Document} :
    (∃ columns, columns? document = some columns) ↔
      ∃ entries, ListsColumns document entries := by
  simp only [columns?_eq_some_iff]
  constructor
  · rintro ⟨_, entries, lists, _⟩
    exact ⟨entries, lists⟩
  · rintro ⟨entries, lists⟩
    exact ⟨_, entries, lists, rfl⟩

theorem contains_iff_of_nameSet? {document : Document} {set : NameSet}
    (read : nameSet? document = some set) (name : String) :
    set.contains name = true ↔ ∃ names, ListsNames document names ∧ name ∈ names := by
  constructor
  · obtain ⟨names, lists, rfl⟩ := nameSet?_eq_some_iff.mp read
    exact fun listed => ⟨names, lists, NameSet.contains_ofList.mp listed⟩
  · rintro ⟨names, lists, listed⟩
    cases read.symm.trans (nameSet?_eq_some_iff.mpr ⟨names, lists, rfl⟩)
    exact NameSet.contains_ofList.mpr listed

theorem find?_iff_of_columns? {document : Document} {columns : NameMap ColumnType}
    (read : columns? document = some columns) (name : String) (kind : ColumnType) :
    columns.find? name = some kind ↔ ∃ entries, ListsColumns document entries ∧
      (NameMap.valuesOf name entries).getLast? = some kind := by
  constructor
  · obtain ⟨entries, lists, rfl⟩ := columns?_eq_some_iff.mp read
    rw [NameMap.find?_ofList_eq_getLast?]
    exact fun found => ⟨entries, lists, found⟩
  · rintro ⟨entries, lists, found⟩
    cases read.symm.trans (columns?_eq_some_iff.mpr ⟨entries, lists, rfl⟩)
    rwa [NameMap.find?_ofList_eq_getLast?]

/-- A field can be read if it is given at most once and its value can be read. -/
theorem exists_soleOrEmpty?_given_iff {α : Type} (read : Document → Option (NameMap α))
    (field : Field) :
    (∃ map, soleOrEmpty? read (given field.name members) = some map) ↔
      members.countP (fun member => member.1 ∈ field.spellings) ≤ 1 ∧
      ∀ member ∈ members, member.1 ∈ field.spellings → ∃ map, read member.2 = some map := by
  rw [exists_soleOrEmpty?_iff, length_given, forall_mem_given_iff]

theorem exists_ofMembers?_iff :
    (∃ allow, ofMembers? members = some allow) ↔ Loadable members := by
  simp only [ofMembers?_eq_some_iff]
  constructor
  · rintro ⟨allow, sets, columns⟩
    have setsRead set := (exists_soleOrEmpty?_given_iff nameSet? (.names set)).mp ⟨_, sets set⟩
    have columnsRead := (exists_soleOrEmpty?_given_iff columns? .columns).mp ⟨_, columns⟩
    refine ⟨?_, ?_, ?_⟩
    · intro field
      cases field with
      | names set => exact (setsRead set).1
      | columns => exact columnsRead.1
    · intro set member isMember named
      exact exists_nameSet?_iff.mp ((setsRead set).2 member isMember named)
    · intro member isMember named
      exact exists_columns?_iff.mp (columnsRead.2 member isMember named)
  · intro loadable
    have setRead set : ∃ names, soleOrEmpty? nameSet? (given (Field.names set).name members) =
        some names :=
      (exists_soleOrEmpty?_given_iff nameSet? (.names set)).mpr ⟨loadable.once _,
        fun member isMember named =>
          exists_nameSet?_iff.mpr (loadable.sets set member isMember named)⟩
    have columnsRead := (exists_soleOrEmpty?_given_iff columns? .columns).mpr
      ⟨loadable.once _, fun member isMember named =>
        exists_columns?_iff.mpr (loadable.columns member isMember named)⟩
    obtain ⟨columns, columnsAre⟩ := columnsRead
    choose sets setsAre using setRead
    refine ⟨⟨sets .queries, sets .items, sets .tables, sets .connections, columns⟩, ?_, columnsAre⟩
    intro set
    cases set <;> exact setsAre _

theorem loaded_of_ofMembers? {allow : AllowList} (read : ofMembers? members = some allow) :
    Loaded members allow := by
  obtain ⟨sets, columns⟩ := ofMembers?_eq_some_iff.mp read
  constructor
  · intro set name
    rw [holds_iff_of_soleOrEmpty? (fun names => names.contains name = true) nofun
      (fun _ _ isRead => contains_iff_of_nameSet? isRead name) (sets set), exists_mem_given_iff]
  · intro name kind
    rw [typeOfColumn?, holds_iff_of_soleOrEmpty? (fun columns => columns.find? name = some kind)
      nofun (fun _ _ isRead => find?_iff_of_columns? isRead name kind) columns,
      exists_mem_given_iff]

/-! ### What makes no difference -/

/-- The second list of members is the first one with one change. -/
inductive Rearranged : List (String × Document) → List (String × Document) → Prop where
  | permute {members others : List (String × Document)} (same : members.Perm others) :
      Rearranged members others
  | rename {before after : List (String × Document)} {field : Field} {name other : String}
      {value : Document} (named : name ∈ field.spellings) (renamed : other ∈ field.spellings) :
      Rearranged (before ++ (name, value) :: after) (before ++ (other, value) :: after)
  /-- The entries of a list may be put into another order and repeated. -/
  | relist {before after : List (String × Document)} {set : SetField} {name : String}
      {elements others : List Document} (named : name ∈ (Field.names set).spellings)
      (same : ∀ element, element ∈ elements ↔ element ∈ others) :
      Rearranged (before ++ (name, .array elements) :: after)
        (before ++ (name, .array others) :: after)
  | skip {before after : List (String × Document)} {name : String} {value : Document}
      (unknown : ∀ field : Field, name ∉ field.spellings) :
      Rearranged (before ++ (name, value) :: after) (before ++ after)

theorem nameSet?_eq_some_of_mem_iff {elements others : List Document}
    (same : ∀ element, element ∈ elements ↔ element ∈ others) {set : NameSet}
    (read : nameSet? (.array elements) = some set) : nameSet? (.array others) = some set := by
  obtain ⟨names, lists, rfl⟩ := nameSet?_eq_some_iff.mp read
  cases lists
  have areNames : others ∈ Set.range (List.map fun name => Document.string (some name)) := by
    rw [Set.range_list_map]
    intro other isOther
    obtain ⟨name, _, isName⟩ := List.mem_map.mp ((same other).mpr isOther)
    exact ⟨name, isName⟩
  obtain ⟨otherNames, rfl⟩ := areNames
  have injective : Function.Injective fun name => Document.string (some name) := by
    intro first second equal
    cases equal
    rfl
  refine nameSet?_eq_some_iff.mpr ⟨otherNames, .intro otherNames, ?_⟩
  apply NameSet.eq_of_contains
  intro name
  rw [NameSet.contains_ofList, NameSet.contains_ofList, ← List.mem_map_of_injective injective,
    ← same, List.mem_map_of_injective injective]

theorem nameSet?_array_congr {elements others : List Document}
    (same : ∀ element, element ∈ elements ↔ element ∈ others) :
    nameSet? (.array elements) = nameSet? (.array others) := by
  apply Option.ext
  intro set
  exact ⟨nameSet?_eq_some_of_mem_iff same,
    nameSet?_eq_some_of_mem_iff fun element => (same element).symm⟩

/-- The same value under the other name of a field is given for the same field. -/
theorem given_rename {field : Field} {name other : String} (named : name ∈ field.spellings)
    (renamed : other ∈ field.spellings) (asked : Field) (before after : List (String × Document))
    (value : Document) :
    given asked.name (before ++ (name, value) :: after) =
      given asked.name (before ++ (other, value) :: after) := by
  rw [given_append, given_append]
  by_cases isField : asked = field
  · subst isField
    rw [given_cons_of_mem named, given_cons_of_mem renamed]
  · have notNamed : name ∉ asked.spellings :=
      fun alsoNamed => isField (Field.eq_of_mem_spellings alsoNamed named)
    have notRenamed : other ∉ asked.spellings :=
      fun alsoNamed => isField (Field.eq_of_mem_spellings alsoNamed renamed)
    rw [given_cons_of_not_mem notNamed, given_cons_of_not_mem notRenamed]

/-- What is given for one field is not given for another one. -/
theorem given_replace_of_ne {field asked : Field} {name : String}
    (named : name ∈ field.spellings) (different : asked ≠ field)
    (before after : List (String × Document)) (value other : Document) :
    given asked.name (before ++ (name, value) :: after) =
      given asked.name (before ++ (name, other) :: after) := by
  have notNamed : name ∉ asked.spellings :=
    fun alsoNamed => different (Field.eq_of_mem_spellings alsoNamed named)
  rw [given_append, given_append, given_cons_of_not_mem notNamed, given_cons_of_not_mem notNamed]

theorem ofMembers?_eq_of_rearranged (rearranged : Rearranged members others) :
    ofMembers? members = ofMembers? others := by
  cases rearranged with
  | permute same =>
      have given_perm (field : Field) :
          (given field.name members).Perm (given field.name others) := same.filterMap _
      exact ofMembers?_congr (fun set => soleOrEmpty?_eq_of_perm (given_perm _))
        (soleOrEmpty?_eq_of_perm (given_perm _))
  | rename named renamed =>
      exact ofMembers?_eq_of_given_eq fun field => given_rename named renamed field _ _ _
  | @relist before after changed name elements others named same =>
      refine ofMembers?_congr (fun set => ?_) ?_
      · by_cases isChanged : set = changed
        · subst isChanged
          rw [given_append, given_append, given_cons_of_mem named, given_cons_of_mem named]
          exact soleOrEmpty?_eq_of_read_eq (nameSet?_array_congr same) _ _
        · have different : Field.names set ≠ .names changed :=
            fun isField => isChanged (Field.names.inj isField)
          rw [given_replace_of_ne named different]
      · rw [given_replace_of_ne named Field.noConfusion]
  | @skip before after name value unknown =>
      refine ofMembers?_eq_of_given_eq fun field => ?_
      rw [given_append, given_append, given_cons_of_not_mem (unknown field)]

/-- One change leaves what is read as it is, and therefore so does any number of them. -/
theorem ofMembers?_eq_of_eqvGen (rearranged : Relation.EqvGen Rearranged members others) :
    ofMembers? members = ofMembers? others := by
  induction rearranged with
  | rel first second change => exact ofMembers?_eq_of_rearranged change
  | refl first => rfl
  | symm first second _ same => exact same.symm
  | trans first second third _ _ same thenSame => exact same.trans thenSame

theorem ofText?_eq_ofMembers? {text : String}
    (isObject : Document.ofText? text = some (.object (namedMembers members))) :
    ofText? text = ofMembers? members := by
  rw [ofText?, isObject, Option.bind_some, ofDocument?_namedMembers]

/-- The text of an object with readable names is accepted exactly if its members are loadable, and
the allow-list holds what they give. Any number of changes that keep the fields leaves the outcome
as it is. -/
theorem ofText?_of_object {text : String}
    (isObject : Document.ofText? text = some (.object (namedMembers members))) :
    ((∃ allow, ofText? text = some allow) ↔ Loadable members) ∧
    (∀ allow, ofText? text = some allow → Loaded members allow) ∧
    ∀ other others, Document.ofText? other = some (.object (namedMembers others)) →
      Relation.EqvGen Rearranged members others → ofText? other = ofText? text := by
  rw [ofText?_eq_ofMembers? isObject]
  refine ⟨exists_ofMembers?_iff, fun allow read => loaded_of_ofMembers? read, ?_⟩
  intro other others otherIsObject rearranged
  rw [ofText?_eq_ofMembers? otherIsObject, ofMembers?_eq_of_eqvGen rearranged]

def paidColumn : List (String × ColumnType) :=
  [("paid", .float), ("paid", .boolean)]

def paidJson : Json :=
  .object (paidColumn.map fun entry => (entry.1, .string entry.2.name))

def paidDocument : Document :=
  .object (paidColumn.map fun entry => (some entry.1, .string (some entry.2.name)))

def shortText : String :=
  (Json.object [("queries", .array [.string "SELECT"]), ("columns", paidJson)]).compact

def longText : String :=
  (Json.object [("columns", paidJson), ("note", .string "tables"),
    ("allowed_queries", .array [.string "SELECT", .string "SELECT"])]).compact

def shortMembers : List (String × Document) :=
  [("queries", .array [.string (some "SELECT")]), ("columns", paidDocument)]

def longMembers : List (String × Document) :=
  [("columns", paidDocument), ("note", .string (some "tables")),
    ("allowed_queries", .array [.string (some "SELECT"), .string (some "SELECT")])]

theorem shortText_read :
    Document.ofText? shortText = some (.object (namedMembers shortMembers)) := by
  apply Document.Reads.alone
  apply Document.Reads.compact_object
  exact .cons ⟨rfl, NameSet.reads_names ["SELECT"]⟩ (.cons ⟨rfl, reads_columns paidColumn⟩ .nil)

theorem longText_read : Document.ofText? longText = some (.object (namedMembers longMembers)) := by
  have noteRead : Document.Reads (Json.string "tables").compact (.string (some "tables")) :=
    .string "tables"
  apply Document.Reads.alone
  apply Document.Reads.compact_object
  exact .cons ⟨rfl, reads_columns paidColumn⟩ (.cons ⟨rfl, noteRead⟩
    (.cons ⟨rfl, NameSet.reads_names ["SELECT", "SELECT"]⟩ .nil))

theorem shortMembers_rearranged : Relation.EqvGen Rearranged shortMembers longMembers := by
  have swapped := Rearranged.permute
    (List.Perm.swap ("columns", paidDocument) ("queries", .array [.string (some "SELECT")]) [])
  have renamed := @Rearranged.rename [("columns", paidDocument)] [] (.names .queries) "queries"
    "allowed_queries" (.array [.string (some "SELECT")]) (by decide) (by decide)
  have repeated := @Rearranged.relist [("columns", paidDocument)] [] .queries "allowed_queries"
    [.string (some "SELECT")] [.string (some "SELECT"), .string (some "SELECT")] (by decide)
    (by simp)
  have skipped := @Rearranged.skip [("columns", paidDocument)]
    [("allowed_queries", .array [.string (some "SELECT"), .string (some "SELECT")])] "note"
    (.string (some "tables")) (by rintro ((_ | _ | _ | _) | _) <;> decide)
  exact .trans _ _ _ (.rel _ _ swapped) (.trans _ _ _ (.rel _ _ renamed)
    (.trans _ _ _ (.rel _ _ repeated) (.symm _ _ (.rel _ _ skipped))))

theorem ofText?_longText :
    Document.ofText? longText = some (.object (namedMembers longMembers)) ∧
    Document.ofText? shortText = some (.object (namedMembers shortMembers)) ∧
    Relation.EqvGen Rearranged longMembers shortMembers ∧
    Loadable longMembers ∧
    Loaded longMembers (.build [.query "SELECT", .column "paid" .boolean]) ∧
    ofText? shortText = ofText? longText := by
  have rearranged := shortMembers_rearranged.symm
  have accepted : ofText? longText =
      some (.build [.query "SELECT", .column "paid" .boolean]) := by
    rw [ofText?_eq_ofMembers? longText_read]
    rfl
  obtain ⟨loadable, loaded, unchanged⟩ := ofText?_of_object longText_read
  exact ⟨longText_read, shortText_read, rearranged, loadable.mp ⟨_, accepted⟩, loaded _ accepted,
    unchanged _ _ shortText_read rearranged⟩

end AllowList

end GuardedSql
