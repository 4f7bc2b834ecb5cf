set_option autoImplicit false

/-!
Finite maps whose keys are names.

A map is the list of its entries in strictly increasing order of name, and the order is part of the
type. Two maps that hold the same entries are therefore equal, and every listing of a map is sorted
by code point. A set of names is a map that stores nothing beside each name.

The main statements say what each operation does to look-up: `find?_insert` for one entry and
`find?_ofList` for a list, in which the last entry of a name wins. Look-up is all there is to a map:
`eq_of_find?_eq`.
-/

namespace GuardedSql

universe u

variable {α : Type u}

def Ascending (entries : List (String × α)) : Prop :=
  entries.Pairwise (fun first second => first.1 < second.1)

/-- Puts an entry at its place, replacing the entry of the same name if there is one. -/
def insertEntry (name : String) (value : α) : List (String × α) → List (String × α)
  | [] => [(name, value)]
  | entry :: rest =>
      if name < entry.1 then
        (name, value) :: entry :: rest
      else if entry.1 < name then
        entry :: insertEntry name value rest
      else
        (name, value) :: rest

theorem mem_of_mem_insertEntry {name : String} {value : α} {entries : List (String × α)}
    {entry : String × α} (member : entry ∈ insertEntry name value entries) :
    entry = (name, value) ∨ entry ∈ entries := by
  induction entries with
  | nil =>
      simpa [insertEntry] using member
  | cons head rest inductionHypothesis =>
      unfold insertEntry at member
      split at member
      · simpa using member
      · split at member
        · cases member with
          | head => exact Or.inr (List.mem_cons_self ..)
          | tail _ deeper =>
              cases inductionHypothesis deeper with
              | inl isNew => exact Or.inl isNew
              | inr isOld => exact Or.inr (List.mem_cons_of_mem _ isOld)
        · cases member with
          | head => exact Or.inl rfl
          | tail _ deeper => exact Or.inr (List.mem_cons_of_mem _ deeper)

theorem ascending_insertEntry (name : String) (value : α) {entries : List (String × α)}
    (sorted : Ascending entries) : Ascending (insertEntry name value entries) := by
  induction entries with
  | nil =>
      exact List.pairwise_singleton _ _
  | cons head rest inductionHypothesis =>
      have headBelow := (List.pairwise_cons.mp sorted).1
      have restSorted := (List.pairwise_cons.mp sorted).2
      unfold insertEntry
      split
      · rename_i below
        refine List.pairwise_cons.mpr ⟨?_, sorted⟩
        intro entry member
        cases member with
        | head => exact below
        | tail _ deeper => exact String.lt_trans below (headBelow entry deeper)
      · split
        · rename_i above
          refine List.pairwise_cons.mpr ⟨?_, inductionHypothesis restSorted⟩
          intro entry member
          cases mem_of_mem_insertEntry member with
          | inl isNew => exact isNew ▸ above
          | inr isOld => exact headBelow entry isOld
        · rename_i notBelow notAbove
          have same : name = head.1 :=
            String.le_antisymm (String.not_lt.mp notAbove) (String.not_lt.mp notBelow)
          refine List.pairwise_cons.mpr ⟨?_, restSorted⟩
          intro entry member
          rw [same]
          exact headBelow entry member

/-- A map from names, given by its entries in increasing order of name. -/
structure NameMap (α : Type u) where
  entries : List (String × α)
  sorted : Ascending entries
  deriving DecidableEq

namespace NameMap

def empty : NameMap α where
  entries := []
  sorted := List.Pairwise.nil

instance : Inhabited (NameMap α) := ⟨empty⟩

/-- The map with one entry more; an earlier entry of the same name is replaced. -/
def insert (map : NameMap α) (name : String) (value : α) : NameMap α where
  entries := insertEntry name value map.entries
  sorted := ascending_insertEntry name value map.sorted

def find? (map : NameMap α) (name : String) : Option α :=
  map.entries.lookup name

def contains (map : NameMap α) (name : String) : Bool :=
  (map.find? name).isSome

def names (map : NameMap α) : List String :=
  map.entries.map Prod.fst

def size (map : NameMap α) : Nat :=
  map.entries.length

/-- The map of a list of entries. Of several entries with one name the last one counts. -/
def ofList (entries : List (String × α)) : NameMap α :=
  entries.foldl (fun map entry => map.insert entry.1 entry.2) empty

theorem eq_of_entries_eq {first second : NameMap α} (same : first.entries = second.entries) :
    first = second := by
  cases first
  cases second
  cases same
  rfl

@[simp]
theorem find?_empty (name : String) : (empty : NameMap α).find? name = none :=
  rfl

theorem lookup_cons_entry (name : String) (entry : String × α) (rest : List (String × α)) :
    (entry :: rest).lookup name = if name = entry.1 then some entry.2 else rest.lookup name := by
  cases entry with
  | mk key value =>
      by_cases same : name = key
      · simp [same]
      · have test : (name == key) = false := beq_eq_false_iff_ne.mpr same
        simp [List.lookup_cons, test, same]

private theorem lookup_insertEntry (name other : String) (value : α)
    (entries : List (String × α)) :
    (insertEntry name value entries).lookup other =
      if other = name then some value else entries.lookup other := by
  induction entries with
  | nil =>
      rw [insertEntry, lookup_cons_entry]
  | cons head rest inductionHypothesis =>
      unfold insertEntry
      split
      · rw [lookup_cons_entry]
      · split
        · rename_i above
          have different : name ≠ head.1 := fun same =>
            String.lt_irrefl head.1 (same ▸ above)
          rw [lookup_cons_entry, lookup_cons_entry, inductionHypothesis]
          by_cases isHead : other = head.1
          · have notNew : ¬ other = name := fun isNew => different (isNew.symm.trans isHead)
            rw [if_pos isHead, if_neg notNew, if_pos isHead]
          · rw [if_neg isHead, if_neg isHead]
        · rename_i notBelow notAbove
          have same : name = head.1 :=
            String.le_antisymm (String.not_lt.mp notAbove) (String.not_lt.mp notBelow)
          rw [lookup_cons_entry, lookup_cons_entry, ← same]
          by_cases isNew : other = name
          · rw [if_pos isNew, if_pos isNew]
          · rw [if_neg isNew, if_neg isNew, if_neg isNew]

/-- Insertion changes the look-up of the inserted name and of no other. -/
@[simp]
theorem find?_insert (map : NameMap α) (name other : String) (value : α) :
    (map.insert name value).find? other = if other = name then some value else map.find? other :=
  lookup_insertEntry name other value map.entries

private theorem find?_foldl_insert (entries : List (String × α)) (map : NameMap α)
    (name : String) :
    (entries.foldl (fun accumulated entry => accumulated.insert entry.1 entry.2) map).find? name =
      (entries.reverse.lookup name).or (map.find? name) := by
  induction entries generalizing map with
  | nil => simp
  | cons head rest inductionHypothesis =>
      rw [List.foldl_cons, inductionHypothesis, find?_insert, List.reverse_cons,
        List.lookup_append]
      cases found : rest.reverse.lookup name with
      | some value => simp
      | none =>
          rw [lookup_cons_entry]
          by_cases same : name = head.1 <;> simp [same]

/-- In a list of entries the last one of a name is the one that is found. -/
theorem find?_ofList (entries : List (String × α)) (name : String) :
    (ofList entries).find? name = entries.reverse.lookup name := by
  simp [ofList, find?_foldl_insert]

private theorem exists_of_lookup {name : String} {value : α} {entries : List (String × α)}
    (found : entries.lookup name = some value) : ∃ entry ∈ entries, entry.1 = name := by
  induction entries with
  | nil => simp at found
  | cons head rest inductionHypothesis =>
      rw [lookup_cons_entry] at found
      by_cases same : name = head.1
      · exact ⟨head, List.mem_cons_self .., same.symm⟩
      · rw [if_neg same] at found
        obtain ⟨entry, member, named⟩ := inductionHypothesis found
        exact ⟨entry, List.mem_cons_of_mem _ member, named⟩

private theorem lookup_eq_none_of_below {name : String} {entries : List (String × α)}
    (below : ∀ entry ∈ entries, name < entry.1) : entries.lookup name = none := by
  cases found : entries.lookup name with
  | none => rfl
  | some value =>
      obtain ⟨entry, member, named⟩ := exists_of_lookup found
      exact absurd (named ▸ below entry member) (String.lt_irrefl name)

private theorem head_not_below {head : String × α} {other : String × α}
    {rest otherRest : List (String × α)}
    (same : ∀ name, (head :: rest).lookup name = (other :: otherRest).lookup name)
    (sorted : Ascending (other :: otherRest)) : ¬ head.1 < other.1 := by
  intro below
  have absent : (other :: otherRest).lookup head.1 = none := by
    apply lookup_eq_none_of_below
    intro entry member
    cases member with
    | head => exact below
    | tail _ deeper =>
        exact String.lt_trans below ((List.pairwise_cons.mp sorted).1 entry deeper)
  rw [← same head.1, lookup_cons_entry, if_pos rfl] at absent
  cases absent

private theorem eq_of_lookup_eq {entries others : List (String × α)} (sorted : Ascending entries)
    (othersSorted : Ascending others)
    (same : ∀ name, entries.lookup name = others.lookup name) : entries = others := by
  induction entries generalizing others with
  | nil =>
      cases others with
      | nil => rfl
      | cons other otherRest =>
          have impossible := same other.1
          rw [lookup_cons_entry, if_pos rfl] at impossible
          cases impossible
  | cons head rest inductionHypothesis =>
      cases others with
      | nil =>
          have impossible := same head.1
          rw [lookup_cons_entry, if_pos rfl] at impossible
          cases impossible
      | cons other otherRest =>
          have sameName : head.1 = other.1 :=
            String.le_antisymm
              (String.not_lt.mp (head_not_below (fun name => (same name).symm) sorted))
              (String.not_lt.mp (head_not_below same othersSorted))
          have sameValue : head.2 = other.2 := by
            have atHead := same head.1
            rw [lookup_cons_entry, lookup_cons_entry, if_pos rfl, if_pos sameName] at atHead
            exact Option.some.inj atHead
          have sameRest : rest = otherRest := by
            apply inductionHypothesis (List.pairwise_cons.mp sorted).2
              (List.pairwise_cons.mp othersSorted).2
            intro name
            by_cases atHead : name = head.1
            · rw [lookup_eq_none_of_below (atHead ▸ (List.pairwise_cons.mp sorted).1),
                lookup_eq_none_of_below
                  (atHead ▸ sameName ▸ (List.pairwise_cons.mp othersSorted).1)]
            · have beyond := same name
              rw [lookup_cons_entry, lookup_cons_entry, if_neg atHead,
                if_neg (sameName ▸ atHead)] at beyond
              exact beyond
          rw [Prod.ext sameName sameValue, sameRest]

private theorem lookup_isSome_iff {name : String} {entries : List (String × α)} :
    (entries.lookup name).isSome = true ↔ name ∈ entries.map Prod.fst := by
  induction entries with
  | nil => simp
  | cons head rest inductionHypothesis =>
      rw [lookup_cons_entry, List.map_cons, List.mem_cons, ← inductionHypothesis]
      by_cases same : name = head.1 <;> simp [same]

/-- A name has an entry exactly when it is listed among the names. -/
theorem contains_eq_true_iff {map : NameMap α} {name : String} :
    map.contains name = true ↔ name ∈ map.names :=
  lookup_isSome_iff

/-- A map is determined by its look-ups. -/
theorem eq_of_find?_eq {first second : NameMap α}
    (same : ∀ name, first.find? name = second.find? name) : first = second :=
  eq_of_entries_eq (eq_of_lookup_eq first.sorted second.sorted same)

end NameMap

abbrev NameSet := NameMap Unit

namespace NameSet

def insert (set : NameSet) (name : String) : NameSet :=
  NameMap.insert set name ()

/-- The set of the names in a list; repetitions count once. -/
def ofList (names : List String) : NameSet :=
  NameMap.ofList (names.map fun name => (name, ()))

end NameSet

end GuardedSql
