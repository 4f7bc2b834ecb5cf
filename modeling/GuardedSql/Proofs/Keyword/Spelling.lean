import GuardedSql.Keyword
import GuardedSql.NameMap

set_option autoImplicit false

/-!
How the words of a filter are spelled.

Each kind of word has a table of its spellings, and reading a word finds exactly what the table
lists. No word stands twice in one table, so a word never has two meanings of one kind; only the
comparator for "not equal" has two spellings. Different words of one kind have different tokens.
-/

namespace GuardedSql

/-- In a table without repeated words, looking a word up finds exactly its listed meanings. -/
theorem lookup_eq_some_iff_mem {α : Type} {table : List (String × α)}
    (distinct : (table.map Prod.fst).Nodup) {word : String} {meaning : α} :
    table.lookup word = some meaning ↔ (word, meaning) ∈ table := by
  induction table with
  | nil => simp
  | cons entry rest inductionHypothesis =>
      obtain ⟨fresh, restDistinct⟩ := List.nodup_cons.mp distinct
      rw [NameMap.lookup_cons_entry, List.mem_cons]
      by_cases same : word = entry.1
      · have absent : (word, meaning) ∉ rest := fun member =>
          fresh (same ▸ List.mem_map_of_mem (f := Prod.fst) member)
        rw [if_pos same, Option.some.injEq, or_iff_left absent, Prod.ext_iff]
        exact ⟨fun value => ⟨same, value.symm⟩, fun both => both.2.symm⟩
      · rw [if_neg same, inductionHypothesis restDistinct]
        exact ⟨Or.inr, fun member => member.resolve_left fun isEntry =>
          same (congrArg Prod.fst isEntry)⟩

/-- A way of reading words that looks them up in such a table reads exactly its entries. -/
private theorem eq_some_iff_mem_of_lookup {α : Type} {read : String → Option α}
    {table : List (String × α)} (looksUp : ∀ word, read word = table.lookup word)
    (distinct : (table.map Prod.fst).Nodup) {word : String} {meaning : α} :
    read word = some meaning ↔ (word, meaning) ∈ table := by
  rw [looksUp]
  exact lookup_eq_some_iff_mem distinct

private theorem eq_token_of_mem {α : Type} {token : α → String} {table : List (String × α)}
    (each : ∀ entry ∈ table, entry.1 = token entry.2) {word : String} {meaning : α}
    (member : (word, meaning) ∈ table) : word = token meaning :=
  each _ member

def Connective.spellings : List (String × Connective) :=
  [("AND", .and), ("OR", .or)]

theorem Connective.ofToken?_eq_some_iff {word : String} {connective : Connective} :
    ofToken? word = some connective ↔ (word, connective) ∈ spellings := by
  refine eq_some_iff_mem_of_lookup (fun word => ?_) (by decide)
  simp only [ofToken?, spellings, NameMap.lookup_cons_entry, List.lookup_nil]

theorem Connective.eq_token_of_spelled {word : String} {connective : Connective}
    (spelled : (word, connective) ∈ spellings) : word = connective.token :=
  eq_token_of_mem (by decide) spelled

def Comparator.spellings : List (String × Comparator) :=
  [("=", .equal), (">", .greater), ("<", .less), (">=", .atLeast), ("<=", .atMost),
    ("<>", .unequal), ("!=", .unequal)]

theorem Comparator.ofToken?_eq_some_iff {word : String} {comparator : Comparator} :
    ofToken? word = some comparator ↔ (word, comparator) ∈ spellings := by
  refine eq_some_iff_mem_of_lookup (fun word => ?_) (by decide)
  simp only [ofToken?, spellings, NameMap.lookup_cons_entry, List.lookup_nil]
  -- Only "not equal" stands in two entries of the table.
  by_cases angled : word = "<>" <;>
    simp only [angled, true_or, false_or, if_true, if_false]

def ListComparator.spellings : List (String × ListComparator) :=
  [("BETWEEN", .between), ("IN", .within)]

theorem ListComparator.ofToken?_eq_some_iff {word : String} {comparator : ListComparator} :
    ofToken? word = some comparator ↔ (word, comparator) ∈ spellings := by
  refine eq_some_iff_mem_of_lookup (fun word => ?_) (by decide)
  simp only [ofToken?, spellings, NameMap.lookup_cons_entry, List.lookup_nil]

theorem ListComparator.eq_token_of_spelled {word : String} {comparator : ListComparator}
    (spelled : (word, comparator) ∈ spellings) : word = comparator.token :=
  eq_token_of_mem (by decide) spelled

def Aggregate.spellings : List (String × Aggregate) :=
  [("MIN", .min), ("MAX", .max), ("SUM", .sum), ("AVG", .avg), ("COUNT", .count)]

theorem Aggregate.ofToken?_eq_some_iff {word : String} {aggregate : Aggregate} :
    ofToken? word = some aggregate ↔ (word, aggregate) ∈ spellings := by
  refine eq_some_iff_mem_of_lookup (fun word => ?_) (by decide)
  simp only [ofToken?, spellings, NameMap.lookup_cons_entry, List.lookup_nil]

theorem Aggregate.eq_token_of_spelled {word : String} {aggregate : Aggregate}
    (spelled : (word, aggregate) ∈ spellings) : word = aggregate.token :=
  eq_token_of_mem (by decide) spelled

private theorem isSome_iff_mem_words {α : Type} {read : String → Option α}
    {table : List (String × α)}
    (spelled : ∀ word meaning, read word = some meaning ↔ (word, meaning) ∈ table) (word : String) :
    (read word).isSome = true ↔ word ∈ table.map Prod.fst := by
  rw [Option.isSome_iff_exists, List.mem_map]
  constructor
  · rintro ⟨meaning, found⟩
    exact ⟨(word, meaning), (spelled word meaning).mp found, rfl⟩
  · rintro ⟨⟨_, meaning⟩, member, rfl⟩
    exact ⟨meaning, (spelled _ meaning).mpr member⟩

theorem Connective.isSome_ofToken?_iff {word : String} :
    (ofToken? word).isSome = true ↔ word ∈ ["AND", "OR"] :=
  isSome_iff_mem_words (fun _ _ => ofToken?_eq_some_iff) word

theorem Comparator.isSome_ofToken?_iff {word : String} :
    (ofToken? word).isSome = true ↔ word ∈ ["=", ">", "<", ">=", "<=", "<>", "!="] :=
  isSome_iff_mem_words (fun _ _ => ofToken?_eq_some_iff) word

theorem ListComparator.isSome_ofToken?_iff {word : String} :
    (ofToken? word).isSome = true ↔ word ∈ ["BETWEEN", "IN"] :=
  isSome_iff_mem_words (fun _ _ => ofToken?_eq_some_iff) word

theorem Aggregate.isSome_ofToken?_iff {word : String} :
    (ofToken? word).isSome = true ↔ word ∈ ["MIN", "MAX", "SUM", "AVG", "COUNT"] :=
  isSome_iff_mem_words (fun _ _ => ofToken?_eq_some_iff) word

theorem isAnyComparator_iff {word : String} :
    isAnyComparator word = true ↔
      word ∈ ["=", ">", "<", ">=", "<=", "<>", "!=", "BETWEEN", "IN"] := by
  have together : ["=", ">", "<", ">=", "<=", "<>", "!=", "BETWEEN", "IN"] =
      ["=", ">", "<", ">=", "<=", "<>", "!="] ++ ["BETWEEN", "IN"] := rfl
  rw [isAnyComparator, Bool.or_eq_true, Comparator.isSome_ofToken?_iff,
    ListComparator.isSome_ofToken?_iff, together, List.mem_append]

private theorem injective_of_read {α : Type} {token : α → String} {ofToken? : String → Option α}
    (read : ∀ meaning, ofToken? (token meaning) = some meaning) : Function.Injective token := by
  intro first second same
  have readFirst := read first
  rw [same, read second] at readFirst
  exact (Option.some.inj readFirst).symm

theorem Connective.token_injective : Function.Injective Connective.token :=
  injective_of_read ofToken?_token

theorem Comparator.token_injective : Function.Injective Comparator.token :=
  injective_of_read ofToken?_token

theorem ListComparator.token_injective : Function.Injective ListComparator.token :=
  injective_of_read ofToken?_token

theorem Aggregate.token_injective : Function.Injective Aggregate.token :=
  injective_of_read ofToken?_token

end GuardedSql
