import GuardedSql.AllowList
import GuardedSql.Proofs.Json.Written
import GuardedSql.Proofs.Keyword.Spelling

set_option autoImplicit false

/-!
A written allow-list is read back as it was.

`AllowList.WrittenAs` says how an allow-list is written: as an object with its five fields, with the
names of each set in increasing order, and with the name of its type for each column.
`AllowList.toJson` writes it so, and the text of every value so written is read as the allow-list.
Names may hold any characters.
-/

namespace GuardedSql

theorem Ascending.nodup_names {α : Type} {entries : List (String × α)}
    (sorted : Ascending entries) : (entries.map Prod.fst).Nodup := by
  rw [List.Nodup, List.pairwise_map]
  exact sorted.imp fun {_ _} below => String.ne_of_lt below

namespace NameMap

variable {α : Type} {entries : List (String × α)}

theorem mem_entries_iff {map : NameMap α} {name : String} {value : α} :
    (name, value) ∈ map.entries ↔ map.find? name = some value :=
  (lookup_eq_some_iff_mem map.sorted.nodup_names).symm

/-- In a list without repeated names the order of the entries does not matter. -/
theorem find?_ofList_eq_some_iff_mem (distinct : (entries.map Prod.fst).Nodup) {name : String}
    {value : α} : (ofList entries).find? name = some value ↔ (name, value) ∈ entries := by
  have reversed : (entries.reverse.map Prod.fst).Nodup := by
    rw [List.map_reverse, List.Nodup, List.pairwise_reverse]
    exact distinct.imp Ne.symm
  rw [find?_ofList, lookup_eq_some_iff_mem reversed, List.mem_reverse]

/-- A sorted list of what a map holds makes this map. -/
theorem ofList_eq {map : NameMap α} (sorted : Ascending entries)
    (holds : ∀ name value, (name, value) ∈ entries ↔ map.find? name = some value) :
    ofList entries = map := by
  apply eq_of_find?_eq
  intro name
  apply Option.ext
  intro value
  rw [find?_ofList_eq_some_iff_mem sorted.nodup_names, holds]

end NameMap

namespace NameSet

variable {set : NameSet}

theorem find?_eq_some_iff_contains {name : String} {value : Unit} :
    set.find? name = some value ↔ set.contains name = true := by
  rw [NameMap.contains, Option.isSome_iff_exists]
  exact ⟨fun found => ⟨value, found⟩, fun ⟨_, found⟩ => found⟩

/-- The value lists the names of the set, each one once and in increasing order. -/
inductive WrittenAs (set : NameSet) : Json → Prop where
  | intro {names : List String} (ascending : names.Pairwise (· < ·))
      (holds : ∀ name, name ∈ names ↔ set.contains name = true) :
      WrittenAs set (.array (names.map .string))

theorem writtenAs_namesJson (set : NameSet) : set.WrittenAs (AllowList.namesJson set) := by
  refine .intro ?_ fun name => NameMap.contains_eq_true_iff.symm
  rw [NameMap.names, List.pairwise_map]
  exact set.sorted

theorem ofList_eq {names : List String} (ascending : names.Pairwise (· < ·))
    (holds : ∀ name, name ∈ names ↔ set.contains name = true) : ofList names = set := by
  apply NameMap.ofList_eq
  · rw [Ascending, List.pairwise_map]
    exact ascending
  · intro name value
    rw [find?_eq_some_iff_contains, ← holds, List.mem_map]
    constructor
    · rintro ⟨_, member, same⟩
      cases same
      exact member
    · intro member
      exact ⟨name, member, rfl⟩

theorem strings?_map (names : List String) :
    AllowList.strings? (names.map fun name => .string (some name)) = some names := by
  induction names with
  | nil => rfl
  | cons name rest inductionHypothesis =>
      rw [List.map_cons, AllowList.strings?, inductionHypothesis, Option.map_some]

theorem reads_names (names : List String) :
    Document.Reads (Json.array (names.map .string)).compact
      (.array (names.map fun name => .string (some name))) := by
  apply Document.Reads.compact_array
  rw [List.forall₂_map_left_iff, List.forall₂_map_right_iff, List.forall₂_same]
  exact fun name _ => .string name

theorem WrittenAs.reads {value : Json} (written : set.WrittenAs value) :
    ∃ document, Document.Reads value.compact document ∧
      AllowList.nameSet? document = some set := by
  obtain @⟨names, ascending, holds⟩ := written
  refine ⟨.array (names.map fun name => .string (some name)), reads_names names, ?_⟩
  rw [AllowList.nameSet?, strings?_map, Option.map_some, ofList_eq ascending holds]

end NameSet

section Columns

variable {columns : NameMap ColumnType}

/-- The value gives each column the name of its type, with the columns in increasing order. -/
inductive ColumnsWrittenAs (columns : NameMap ColumnType) : Json → Prop where
  | intro {entries : List (String × ColumnType)} (ascending : Ascending entries)
      (holds : ∀ name kind, (name, kind) ∈ entries ↔ columns.find? name = some kind) :
      ColumnsWrittenAs columns
        (.object (entries.map fun entry => (entry.1, .string entry.2.name)))

theorem columnsWrittenAs_columnsJson (columns : NameMap ColumnType) :
    ColumnsWrittenAs columns (AllowList.columnsJson columns) :=
  .intro columns.sorted fun _ _ => NameMap.mem_entries_iff

theorem columnList?_map (entries : List (String × ColumnType)) :
    AllowList.columnList? (entries.map fun entry =>
      (some entry.1, .string (some entry.2.name))) = some entries := by
  induction entries with
  | nil => rfl
  | cons entry rest inductionHypothesis =>
      simp only [List.map_cons, AllowList.columnList?, AllowList.columnTypeOf?,
        ColumnType.ofName?_name, inductionHypothesis, Option.map_some]

theorem reads_columns (entries : List (String × ColumnType)) :
    Document.Reads
      (Json.object (entries.map fun entry => (entry.1, .string entry.2.name))).compact
      (.object (entries.map fun entry => (some entry.1, .string (some entry.2.name)))) := by
  apply Document.Reads.compact_object
  rw [List.forall₂_map_left_iff, List.forall₂_map_right_iff, List.forall₂_same]
  exact fun entry _ => ⟨rfl, .string entry.2.name⟩

theorem ColumnsWrittenAs.reads {value : Json} (written : ColumnsWrittenAs columns value) :
    ∃ document, Document.Reads value.compact document ∧
      AllowList.columns? document = some columns := by
  obtain @⟨entries, ascending, holds⟩ := written
  refine ⟨.object (entries.map fun entry => (some entry.1, .string (some entry.2.name))),
    reads_columns entries, ?_⟩
  rw [AllowList.columns?, columnList?_map, Option.map_some, NameMap.ofList_eq ascending holds]

end Columns

namespace AllowList

/-- The value is the allow-list as an object with its five fields. -/
inductive WrittenAs (allow : AllowList) : Json → Prop where
  | intro {queries items tables connections columns : Json}
      (queriesWritten : allow.queries.WrittenAs queries)
      (itemsWritten : allow.items.WrittenAs items)
      (tablesWritten : allow.tables.WrittenAs tables)
      (connectionsWritten : allow.connections.WrittenAs connections)
      (columnsWritten : ColumnsWrittenAs allow.columns columns) :
      WrittenAs allow (.object [("queries", queries), ("items", items), ("tables", tables),
        ("connections", connections), ("columns", columns)])

theorem writtenAs_toJson (allow : AllowList) : allow.WrittenAs allow.toJson :=
  .intro (NameSet.writtenAs_namesJson _) (NameSet.writtenAs_namesJson _)
    (NameSet.writtenAs_namesJson _) (NameSet.writtenAs_namesJson _)
    (columnsWrittenAs_columnsJson _)

theorem ofDocument?_fields (queries items tables connections columns : Document) :
    ofDocument? (.object [(some "queries", queries), (some "items", items),
      (some "tables", tables), (some "connections", connections), (some "columns", columns)]) =
      ofFields? [queries] [items] [tables] [connections] [columns] :=
  rfl

theorem WrittenAs.reads {allow : AllowList} {value : Json} (written : allow.WrittenAs value) :
    ∃ document, Document.Reads value.compact document ∧ ofDocument? document = some allow := by
  obtain ⟨queriesWritten, itemsWritten, tablesWritten, connectionsWritten, columnsWritten⟩ :=
    written
  obtain ⟨queries, queriesRead, queriesIs⟩ := queriesWritten.reads
  obtain ⟨items, itemsRead, itemsIs⟩ := itemsWritten.reads
  obtain ⟨tables, tablesRead, tablesIs⟩ := tablesWritten.reads
  obtain ⟨connections, connectionsRead, connectionsIs⟩ := connectionsWritten.reads
  obtain ⟨columns, columnsRead, columnsIs⟩ := columnsWritten.reads
  refine ⟨.object [(some "queries", queries), (some "items", items), (some "tables", tables),
    (some "connections", connections), (some "columns", columns)], ?_, ?_⟩
  · exact Document.Reads.compact_object <|
      .cons ⟨rfl, queriesRead⟩ <| .cons ⟨rfl, itemsRead⟩ <| .cons ⟨rfl, tablesRead⟩ <|
      .cons ⟨rfl, connectionsRead⟩ <| .cons ⟨rfl, columnsRead⟩ .nil
  · rw [ofDocument?_fields]
    simp only [ofFields?, soleOrEmpty?, queriesIs, itemsIs, tablesIs, connectionsIs, columnsIs]
    rfl

/-- An allow-list is written in the stated form, and its text is read back as this allow-list. -/
theorem ofText?_compact_toJson (allow : AllowList) :
    allow.WrittenAs allow.toJson ∧ ofText? allow.toJson.compact = some allow := by
  have written := allow.writtenAs_toJson
  refine ⟨written, ?_⟩
  obtain ⟨document, reads, isAllow⟩ := written.reads
  rw [ofText?, reads.alone, Option.bind_some, isAllow]

end AllowList

end GuardedSql
