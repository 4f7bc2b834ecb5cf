import GuardedSql.Proofs.AllowList.RoundTrip
import GuardedSql.Proofs.Result

set_option autoImplicit false

/-!
The fields of an allow-list.

An allow-list has four sets of names and a map of columns. Each of them is a field of its document,
and each field has two spellings, which no other field shares. This module says what the documents
of a field hold, and takes the reading of a document apart into the readings of its fields:
`AllowList.ofMembers?_eq_some_iff`.
-/

namespace GuardedSql

open List (Forall₂)

namespace NameMap

variable {α : Type}

/-- The values that a list of entries gives a name, in order. -/
def valuesOf (name : String) (entries : List (String × α)) : List α :=
  entries.filterMap fun entry => if entry.1 = name then some entry.2 else none

theorem mem_valuesOf {name : String} {value : α} {entries : List (String × α)} :
    value ∈ valuesOf name entries ↔ (name, value) ∈ entries := by
  rw [valuesOf, List.mem_filterMap]
  constructor
  · rintro ⟨⟨other, _⟩, member, same⟩
    obtain ⟨rfl, given⟩ := Option.ite_none_right_eq_some.mp same
    exact Option.some.inj given ▸ member
  · intro member
    exact ⟨_, member, if_pos rfl⟩

theorem lookup_eq_head?_valuesOf (name : String) (entries : List (String × α)) :
    entries.lookup name = (valuesOf name entries).head? := by
  induction entries with
  | nil => rfl
  | cons entry rest inductionHypothesis =>
      rw [lookup_cons_entry, inductionHypothesis, valuesOf, valuesOf, List.filterMap_cons]
      by_cases same : name = entry.1
      · rw [if_pos same, if_pos same.symm, List.head?_cons]
      · rw [if_neg same, if_neg (Ne.symm same)]

/-- The map of a list gives each name its last value. -/
theorem find?_ofList_eq_getLast? (entries : List (String × α)) (name : String) :
    (ofList entries).find? name = (valuesOf name entries).getLast? := by
  rw [find?_ofList, lookup_eq_head?_valuesOf, valuesOf, List.filterMap_reverse, List.head?_reverse,
    valuesOf]

end NameMap

namespace NameSet

theorem contains_ofList {names : List String} {name : String} :
    (ofList names).contains name = true ↔ name ∈ names := by
  have given : (name, ()) ∈ names.map (fun name => (name, ())) ↔ name ∈ names := by
    simp only [List.mem_map, Prod.mk.injEq, and_true, exists_eq_right]
  rw [NameMap.contains, ofList, NameMap.find?_ofList_eq_getLast?, List.getLast?_isSome, ← given,
    ← NameMap.mem_valuesOf]
  constructor
  · intro nonempty
    obtain ⟨value, member⟩ := List.exists_mem_of_ne_nil _ nonempty
    exact member
  · exact List.ne_nil_of_mem

theorem eq_of_contains {first second : NameSet}
    (same : ∀ name, first.contains name = true ↔ second.contains name = true) : first = second := by
  apply NameMap.eq_of_find?_eq
  intro name
  apply Option.ext
  intro value
  rw [find?_eq_some_iff_contains, same, ← find?_eq_some_iff_contains]

end NameSet

/-- The sets of names of an allow-list. -/
inductive SetField where
  | queries
  | items
  | tables
  | connections
  deriving DecidableEq

inductive Field where
  | names (set : SetField)
  | columns
  deriving DecidableEq

def SetField.name : SetField → String
  | queries => "queries"
  | items => "items"
  | tables => "tables"
  | connections => "connections"

namespace Field

def name : Field → String
  | names set => set.name
  | columns => "columns"

/-- A field has a short name and a long one. -/
def spellings (field : Field) : List String :=
  [field.name, "allowed_" ++ field.name]

theorem mem_spellings {field : Field} {name : String} :
    name ∈ field.spellings ↔ name = field.name ∨ name = AllowList.longName field.name := by
  rw [spellings, List.mem_pair, AllowList.longName]

/-- The two names of a field are names of no other field. -/
theorem eq_of_mem_spellings {field other : Field} {name : String} (named : name ∈ field.spellings)
    (alsoNamed : name ∈ other.spellings) : field = other := by
  have each : ∀ name ∈ field.spellings, name ∈ other.spellings → field = other := by
    rcases field with (_ | _ | _ | _) | _ <;> rcases other with (_ | _ | _ | _) | _ <;> decide
  exact each name named alsoNamed

end Field

theorem ColumnType.eq_name_of_ofName? {word : String} {kind : ColumnType}
    (read : ofName? word = some kind) : word = kind.name := by
  unfold ofName? at read
  split_ifs at read <;> cases read <;> assumption

namespace AllowList

def set (allow : AllowList) : SetField → NameSet
  | .queries => allow.queries
  | .items => allow.items
  | .tables => allow.tables
  | .connections => allow.connections

theorem eq_of_fields_eq {first second : AllowList} (sets : ∀ set, first.set set = second.set set)
    (columns : first.columns = second.columns) : first = second := by
  obtain ⟨queries, items, tables, connections, _⟩ := first
  cases show queries = second.queries from sets .queries
  cases show items = second.items from sets .items
  cases show tables = second.tables from sets .tables
  cases show connections = second.connections from sets .connections
  cases columns
  rfl

/-! ### The values given for a field -/

section Given

variable {members : List (String × Document)} {field : Field}

theorem given_append (before after : List (String × Document)) :
    given field.name (before ++ after) = given field.name before ++ given field.name after :=
  List.filterMap_append

theorem given_cons_of_mem {member : String × Document} (named : member.1 ∈ field.spellings) :
    given field.name (member :: members) = member.2 :: given field.name members := by
  rw [given, List.filterMap_cons, if_pos (Field.mem_spellings.mp named), given]

theorem given_cons_of_not_mem {member : String × Document}
    (notNamed : member.1 ∉ field.spellings) :
    given field.name (member :: members) = given field.name members := by
  rw [given, List.filterMap_cons, if_neg (mt Field.mem_spellings.mpr notNamed), given]

theorem given_eq_map_filter :
    given field.name members =
      (members.filter fun member => member.1 ∈ field.spellings).map Prod.snd := by
  induction members with
  | nil => rfl
  | cons member rest inductionHypothesis =>
      by_cases named : member.1 ∈ field.spellings
      · rw [given_cons_of_mem named, List.filter_cons, if_pos (decide_eq_true named),
          List.map_cons, inductionHypothesis]
      · rw [given_cons_of_not_mem named, List.filter_cons, if_neg (by rwa [decide_eq_true_eq]),
          inductionHypothesis]

theorem forall_mem_given_iff {states : Document → Prop} :
    (∀ value ∈ given field.name members, states value) ↔
      ∀ member ∈ members, member.1 ∈ field.spellings → states member.2 := by
  simp only [given_eq_map_filter, List.forall_mem_map, List.mem_filter, decide_eq_true_eq, and_imp]

theorem exists_mem_given_iff {states : Document → Prop} :
    (∃ value ∈ given field.name members, states value) ↔
      ∃ member ∈ members, member.1 ∈ field.spellings ∧ states member.2 := by
  simp only [given_eq_map_filter, List.mem_map, List.mem_filter, decide_eq_true_eq]
  constructor
  · rintro ⟨_, ⟨member, ⟨isMember, named⟩, rfl⟩, holds⟩
    exact ⟨member, isMember, named, holds⟩
  · rintro ⟨member, isMember, named, holds⟩
    exact ⟨member.2, ⟨member, ⟨isMember, named⟩, rfl⟩, holds⟩

theorem length_given :
    (given field.name members).length =
      members.countP fun member => member.1 ∈ field.spellings := by
  rw [given_eq_map_filter, List.length_map, List.countP_eq_length_filter]

end Given

inductive ListsNames : Document → List String → Prop where
  | intro (names : List String) :
      ListsNames (.array (names.map fun name => .string (some name))) names

/-- The document is the name of the type, or an object from this name to null. -/
inductive NamesType : Document → ColumnType → Prop where
  | name (kind : ColumnType) : NamesType (.string (some kind.name)) kind
  | variant (kind : ColumnType) : NamesType (.object [(some kind.name, .null)]) kind

/-- The document is an object with one member for each column, in order. -/
inductive ListsColumns : Document → List (String × ColumnType) → Prop where
  | intro {members : Document.Members} {entries : List (String × ColumnType)}
      (each : Forall₂ (fun member entry => member.1 = some entry.1 ∧ NamesType member.2 entry.2)
        members entries) :
      ListsColumns (.object members) entries

theorem strings?_eq_some_iff {elements : List Document} {names : List String} :
    strings? elements = some names ↔ elements = names.map fun name => .string (some name) := by
  constructor
  · intro read
    fun_induction strings? elements generalizing names with
    | case1 => cases read; rfl
    | case2 text rest inductionHypothesis =>
        obtain ⟨others, restRead, rfl⟩ := Option.map_eq_some_iff.mp read
        rw [inductionHypothesis restRead, List.map_cons]
    | case3 => cases read
  · rintro rfl
    exact NameSet.strings?_map names

theorem nameSet?_eq_some_iff {document : Document} {set : NameSet} :
    nameSet? document = some set ↔
      ∃ names, ListsNames document names ∧ NameSet.ofList names = set := by
  constructor
  · intro read
    unfold nameSet? at read
    split at read
    · obtain ⟨names, stringsRead, rfl⟩ := Option.map_eq_some_iff.mp read
      cases strings?_eq_some_iff.mp stringsRead
      exact ⟨names, .intro names, rfl⟩
    · cases read
  · rintro ⟨names, lists, rfl⟩
    cases lists
    rw [nameSet?, NameSet.strings?_map, Option.map_some]

theorem columnTypeOf?_eq_some_iff {document : Document} {kind : ColumnType} :
    columnTypeOf? document = some kind ↔ NamesType document kind := by
  constructor
  · intro read
    unfold columnTypeOf? at read
    split at read
    · cases ColumnType.eq_name_of_ofName? read
      exact .name kind
    · cases ColumnType.eq_name_of_ofName? read
      exact .variant kind
    · cases read
  · intro named
    cases named with
    | name => exact ColumnType.ofName?_name kind
    | variant => exact ColumnType.ofName?_name kind

theorem columnList?_eq_some_iff {members : Document.Members}
    {entries : List (String × ColumnType)} :
    columnList? members = some entries ↔
      Forall₂ (fun member entry => member.1 = some entry.1 ∧ NamesType member.2 entry.2)
        members entries := by
  constructor
  · intro read
    fun_induction columnList? members generalizing entries with
    | case1 => cases read; exact .nil
    | case2 => cases read
    | case3 => cases read
    | case4 name value rest kind typed inductionHypothesis =>
        obtain ⟨others, restRead, rfl⟩ := Option.map_eq_some_iff.mp read
        exact .cons ⟨rfl, columnTypeOf?_eq_some_iff.mp typed⟩ (inductionHypothesis restRead)
  · intro each
    induction each with
    | nil => rfl
    | @cons member entry _ _ head _ inductionHypothesis =>
        obtain ⟨name, value⟩ := member
        obtain ⟨rfl, typed⟩ := head
        simp only [columnList?, columnTypeOf?_eq_some_iff.mpr typed, inductionHypothesis,
          Option.map_some]

theorem columns?_eq_some_iff {document : Document} {columns : NameMap ColumnType} :
    columns? document = some columns ↔
      ∃ entries, ListsColumns document entries ∧ NameMap.ofList entries = columns := by
  constructor
  · intro read
    unfold columns? at read
    split at read
    · obtain ⟨entries, listRead, rfl⟩ := Option.map_eq_some_iff.mp read
      exact ⟨entries, .intro (columnList?_eq_some_iff.mp listRead), rfl⟩
    · cases read
  · rintro ⟨entries, ⟨each⟩, rfl⟩
    rw [columns?, columnList?_eq_some_iff.mpr each, Option.map_some]

section SoleOrEmpty

variable {α : Type} {read : Document → Option (NameMap α)} {values others : List Document}

theorem exists_soleOrEmpty?_iff :
    (∃ map, soleOrEmpty? read values = some map) ↔
      values.length ≤ 1 ∧ ∀ value ∈ values, ∃ map, read value = some map := by
  rcases values with _ | ⟨value, _ | ⟨second, rest⟩⟩
  · exact iff_of_true ⟨_, rfl⟩ ⟨Nat.zero_le 1, nofun⟩
  · simp only [soleOrEmpty?, List.length_singleton, Nat.le_refl, true_and,
      List.forall_mem_singleton]
  · simp only [soleOrEmpty?, reduceCtorEq, exists_false, List.length_cons, false_iff]
    omega

/-- What a field holds is what one of its values states. -/
theorem holds_iff_of_soleOrEmpty? {map : NameMap α} (holds : NameMap α → Prop)
    {states : Document → Prop} (notEmpty : ¬ holds .empty)
    (reads : ∀ value map, read value = some map → (holds map ↔ states value))
    (found : soleOrEmpty? read values = some map) : holds map ↔ ∃ value ∈ values, states value := by
  rcases values with _ | ⟨value, _ | ⟨second, rest⟩⟩
  · cases found
    exact iff_of_false notEmpty nofun
  · rw [reads value map found]
    simp only [List.mem_singleton, exists_eq_left]
  · cases found

theorem soleOrEmpty?_eq_of_perm (same : values.Perm others) :
    soleOrEmpty? read values = soleOrEmpty? read others := by
  rcases values with _ | ⟨value, _ | ⟨second, rest⟩⟩
  · rw [List.nil_perm.mp same]
  · rw [List.singleton_perm.mp same]
  · have counted := same.length_eq
    rcases others with _ | ⟨other, _ | ⟨otherSecond, otherRest⟩⟩
    · cases counted
    · cases counted
    · rfl

theorem soleOrEmpty?_eq_of_read_eq {value other : Document} (same : read value = read other)
    (before after : List Document) :
    soleOrEmpty? read (before ++ value :: after) =
      soleOrEmpty? read (before ++ other :: after) := by
  rcases before with _ | ⟨first, before⟩
  · cases after with
    | nil => exact same
    | cons second rest => rfl
  · cases before with
    | nil => rfl
    | cons second rest => rfl

end SoleOrEmpty

/-- The members of an object whose names are all readable. -/
def namedMembers (members : List (String × Document)) : Document.Members :=
  members.map fun member => (some member.1, member.2)

theorem namedMembers?_namedMembers (members : List (String × Document)) :
    namedMembers? (namedMembers members) = some members := by
  induction members with
  | nil => rfl
  | cons member rest inductionHypothesis =>
      rw [namedMembers, List.map_cons, namedMembers?, ← namedMembers, inductionHypothesis,
        Option.map_some]

theorem ofDocument?_namedMembers (members : List (String × Document)) :
    ofDocument? (.object (namedMembers members)) = ofMembers? members := by
  rw [ofDocument?, namedMembers?_namedMembers, Option.bind_some]

/-- An allow-list is read field by field. -/
theorem ofMembers?_eq_some_iff {members : List (String × Document)} {allow : AllowList} :
    ofMembers? members = some allow ↔
      (∀ set, soleOrEmpty? nameSet? (given (Field.names set).name members) =
        some (allow.set set)) ∧
      soleOrEmpty? columns? (given Field.columns.name members) = some allow.columns := by
  simp only [ofMembers?, ofFields?, Option.bind_eq_bind, Option.bind_eq_some_iff]
  constructor
  · rintro ⟨queries, queriesRead, items, itemsRead, tables, tablesRead, connections,
      connectionsRead, columns, columnsRead, same⟩
    cases same
    refine ⟨?_, columnsRead⟩
    intro set
    cases set with
    | queries => exact queriesRead
    | items => exact itemsRead
    | tables => exact tablesRead
    | connections => exact connectionsRead
  · rintro ⟨sets, columnsRead⟩
    exact ⟨_, sets .queries, _, sets .items, _, sets .tables, _, sets .connections, _,
      columnsRead, rfl⟩

section Congruence

variable {members others : List (String × Document)}

theorem ofMembers?_congr
    (sets : ∀ set, soleOrEmpty? nameSet? (given (Field.names set).name members) =
      soleOrEmpty? nameSet? (given (Field.names set).name others))
    (columns : soleOrEmpty? columns? (given Field.columns.name members) =
      soleOrEmpty? columns? (given Field.columns.name others)) :
    ofMembers? members = ofMembers? others := by
  apply Option.ext
  intro allow
  rw [ofMembers?_eq_some_iff, ofMembers?_eq_some_iff, columns]
  simp only [sets]

theorem ofMembers?_eq_of_given_eq
    (same : ∀ field : Field, given field.name members = given field.name others) :
    ofMembers? members = ofMembers? others :=
  ofMembers?_congr (fun set => by rw [same]) (by rw [same])

end Congruence

end AllowList

end GuardedSql
