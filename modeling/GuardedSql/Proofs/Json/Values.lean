import GuardedSql.Proofs.AllowList.RoundTrip
import GuardedSql.Proofs.Json.Numerals

set_option autoImplicit false

/-!
Values are read back from their text.

`Json.document` is the document that a value is written as. Both layouts of a value are read as this
document, `Json.reads_compact` and `Json.reads_prettyAt`. What a document stands for depends on the
reader for doubles; `DoubleReader.ReadsBack` says of one double that it is read back from its own
text. If this holds of every double within a value, and its objects are sorted, the value is what
its document stands for: `Json.ofDocument?_document`.
-/

namespace GuardedSql

namespace Json

variable {read : DoubleReader}

@[elab_as_elim]
theorem induction {motive : Json → Prop} (null : motive .null)
    (bool : ∀ value, motive (.bool value)) (number : ∀ value, motive (.number value))
    (string : ∀ text, motive (.string text))
    (array : ∀ elements, (∀ element ∈ elements, motive element) → motive (.array elements))
    (object : ∀ members, (∀ member ∈ members, motive member.2) → motive (.object members))
    (value : Json) : motive value :=
  value.rec null bool number string array object
    nofun (fun _ _ first others => List.forall_mem_cons.mpr ⟨first, others⟩)
    nofun (fun _ _ first others => List.forall_mem_cons.mpr ⟨first, others⟩)
    (fun _ _ second => second)

theorem sortedElements_iff {elements : List Json} :
    SortedElements elements ↔ ∀ element ∈ elements, element.Sorted := by
  induction elements with
  | nil => exact iff_of_true trivial nofun
  | cons element rest inductionHypothesis =>
      rw [SortedElements, inductionHypothesis, List.forall_mem_cons]

theorem sortedMembers_iff {members : List (String × Json)} :
    SortedMembers members ↔ ∀ member ∈ members, member.2.Sorted := by
  induction members with
  | nil => exact iff_of_true trivial nofun
  | cons member rest inductionHypothesis =>
      rw [SortedMembers, inductionHypothesis, List.forall_mem_cons]

mutual

/-- The document that a value is written as. -/
def document : Json → Document
  | null => .null
  | bool value => .bool value
  | number value => .number value.literal
  | string text => .string (some text)
  | array elements => .array (elementDocuments elements)
  | object members => .object (memberDocuments members)

def elementDocuments : List Json → List Document
  | [] => []
  | element :: rest => document element :: elementDocuments rest

def memberDocuments : List (String × Json) → List (Option String × Document)
  | [] => []
  | (name, value) :: rest => (some name, document value) :: memberDocuments rest

end

theorem elementDocuments_eq_map (elements : List Json) :
    elementDocuments elements = elements.map document := by
  induction elements with
  | nil => rfl
  | cons element rest inductionHypothesis =>
      rw [elementDocuments, inductionHypothesis, List.map_cons]

theorem memberDocuments_eq_map (members : List (String × Json)) :
    memberDocuments members = members.map fun member => (some member.1, member.2.document) := by
  induction members with
  | nil => rfl
  | cons member rest inductionHypothesis =>
      rw [memberDocuments, inductionHypothesis, List.map_cons]

theorem ofText?_of_reads {text : String} {document : Document}
    (reads : Document.Reads text document) (shallow : document.nestsWithin nestingLimit = true) :
    ofText? read text = ofDocument? read document := by
  unfold ofText?
  rw [reads.alone]
  exact if_pos shallow

end Json

/-! ### Reading doubles back -/

namespace DoubleReader

/-- The text of the double is read as the double. -/
def ReadsBack (read : DoubleReader) (number : Binary64) : Prop :=
  Json.ofText? read number.text = some (.number (.float number))

variable {read : DoubleReader} {number : Binary64}

theorem readsBack_iff : read.ReadsBack number ↔ read number.literal = some number := by
  rw [ReadsBack, Json.ofText?_of_reads number.reads_text rfl, Json.ofDocument?,
    Number.ofLiteral?_of_fraction number.whole_literal]
  constructor
  · intro isRead
    obtain ⟨value, isValue, same⟩ := Option.map_eq_some_iff.mp isRead
    obtain ⟨found, isFound, rfl⟩ := Option.map_eq_some_iff.mp isValue
    cases same
    exact isFound
  · intro isRead
    rw [isRead]
    rfl

theorem readsBack_nearest (number : Binary64) : nearest.ReadsBack number :=
  readsBack_iff.mpr number.nearest_literal

/-- A double with a short text and a moderate exponent is read back in steps. -/
theorem readsBack_stepwise (short : number.literal.digits < 2 ^ 53)
    (moderate : number.literal.exponent.natAbs ≤ 22) : stepwise.ReadsBack number :=
  readsBack_iff.mpr ((stepwise_eq_nearest short moderate).trans number.nearest_literal)

/-- Rounding in steps misses the double nearest to `3e49` and so does not read its text back. -/
example : ¬stepwise.ReadsBack ⟨false, 0x4A3486DE8697ABEC, by decide⟩ := by
  rw [readsBack_iff]
  decide +kernel

end DoubleReader

namespace Json

variable {read : DoubleReader}

/-- Every double within the value is read back from its own text. -/
inductive ReadBack (read : DoubleReader) : Json → Prop where
  | null : ReadBack read .null
  | bool (value : Bool) : ReadBack read (.bool value)
  | integer {value : Int} (fits : -0x8000000000000000 ≤ value ∧ value < 0x10000000000000000) :
      ReadBack read (.number (.integer value fits))
  | float {value : Binary64} (readsBack : read.ReadsBack value) :
      ReadBack read (.number (.float value))
  | string (text : String) : ReadBack read (.string text)
  | array {elements : List Json} (each : ∀ element ∈ elements, ReadBack read element) :
      ReadBack read (.array elements)
  | object {members : List (String × Json)} (each : ∀ member ∈ members, ReadBack read member.2) :
      ReadBack read (.object members)

theorem ofElements?_map {elements : List Json}
    (each : ∀ element ∈ elements, ofDocument? read element.document = some element) :
    ofElements? read (elements.map document) = some elements := by
  induction elements with
  | nil => rfl
  | cons element rest inductionHypothesis =>
      obtain ⟨first, others⟩ := List.forall_mem_cons.mp each
      rw [List.map_cons, ofElements?, first, inductionHypothesis others]
      rfl

theorem ofMembers?_map {members : List (String × Json)}
    (each : ∀ member ∈ members, ofDocument? read member.2.document = some member.2) :
    ofMembers? read (members.map fun member => (some member.1, member.2.document)) =
      some members := by
  induction members with
  | nil => rfl
  | cons member rest inductionHypothesis =>
      obtain ⟨first, others⟩ := List.forall_mem_cons.mp each
      rw [List.map_cons, ofMembers?, first, inductionHypothesis others]
      rfl

theorem ofMembers_of_ascending {members : List (String × Json)} (sorted : Ascending members) :
    ofMembers members = object members :=
  congrArg (fun map : NameMap Json => object map.entries)
    (@NameMap.ofList_eq Json members ⟨members, sorted⟩ sorted fun _ _ =>
      (NameMap.mem_entries_iff : _ ↔ (NameMap.mk members sorted).find? _ = some _))

/-- A value whose objects are sorted is the value of its document. -/
theorem ofDocument?_document {value : Json} (readBack : value.ReadBack read)
    (sorted : value.Sorted) : ofDocument? read value.document = some value := by
  induction readBack with
  | null => rfl
  | bool value => rfl
  | integer fits =>
      rw [document, ofDocument?, Number.ofLiteral?_of_whole fits, Option.map_some]
  | @float value readsBack =>
      rw [document, ofDocument?, Number.literal, Number.ofLiteral?_of_fraction value.whole_literal,
        DoubleReader.readsBack_iff.mp readsBack]
      rfl
  | string text => rfl
  | array _ inductionHypothesis =>
      rw [Sorted, sortedElements_iff] at sorted
      rw [document, elementDocuments_eq_map, ofDocument?,
        ofElements?_map fun element member => inductionHypothesis element member
          (sorted element member), Option.map_some]
  | object _ inductionHypothesis =>
      rw [Sorted, sortedMembers_iff] at sorted
      rw [document, memberDocuments_eq_map, ofDocument?,
        ofMembers?_map fun entry member => inductionHypothesis entry member
          (sorted.2 entry member), Option.map_some, ofMembers_of_ascending sorted.1]

/-- An object whose members are in any order is read as the object with its members sorted. -/
theorem ofDocument?_document_object {members : List (String × Json)}
    (readBack : (object members).ReadBack read) (sorted : ∀ member ∈ members, member.2.Sorted) :
    ofDocument? read (object members).document = some (ofMembers members) := by
  cases readBack with
  | object each =>
      rw [document, memberDocuments_eq_map, ofDocument?,
        ofMembers?_map fun entry member =>
          ofDocument?_document (each entry member) (sorted entry member),
        Option.map_some]

end Json

namespace Document

theorem reads_null : Reads "null" .null :=
  .of_pending (fun stack => ⟨stack, .word [] .null⟩)
    ⟨'n', rfl, rfl, by decide⟩ (fun _ => rfl) rfl (fun _ _ _ => rfl)

theorem reads_bool (value : Bool) : Reads (if value then "true" else "false") (.bool value) := by
  cases value with
  | true =>
      exact .of_pending (fun stack => ⟨stack, .word [] (.bool true)⟩)
        ⟨'t', rfl, rfl, by decide⟩ (fun _ => rfl) rfl (fun _ _ _ => rfl)
  | false =>
      exact .of_pending (fun stack => ⟨stack, .word [] (.bool false)⟩)
        ⟨'f', rfl, rfl, by decide⟩ (fun _ => rfl) rfl (fun _ _ _ => rfl)

end Document

namespace Json

open Document (Reads Marks Closes Blank ReadsMember)

theorem reads_compact (value : Json) : Reads value.compact value.document := by
  induction value using Json.induction with
  | null => exact Document.reads_null
  | bool value => exact Document.reads_bool value
  | number value => exact value.reads_text
  | string text => exact .string text
  | array elements inductionHypothesis =>
      rw [document, elementDocuments_eq_map]
      apply Reads.compact_array
      rw [List.forall₂_map_right_iff, List.forall₂_same]
      exact inductionHypothesis
  | object members inductionHypothesis =>
      rw [document, memberDocuments_eq_map]
      apply Reads.compact_object
      rw [List.forall₂_map_right_iff, List.forall₂_same]
      exact fun entry member => ⟨rfl, inductionHypothesis entry member⟩

theorem prettyElements_eq_map (depth : Nat) (elements : List Json) :
    prettyElements depth elements = elements.map (prettyAt depth) := by
  induction elements with
  | nil => rfl
  | cons element rest inductionHypothesis =>
      rw [prettyElements, inductionHypothesis, List.map_cons]

theorem prettyMembers_eq_map (depth : Nat) (members : List (String × Json)) :
    prettyMembers depth members =
      members.map fun member => quoted member.1 ++ ": " ++ member.2.prettyAt depth := by
  induction members with
  | nil => rfl
  | cons member rest inductionHypothesis =>
      rw [prettyMembers, inductionHypothesis, List.map_cons]

theorem blank_indentation (level : Nat) :
    Blank ("\n" ++ String.ofList (List.replicate (2 * level) ' ')).toList := by
  have spaces : (String.ofList (List.replicate (2 * level) ' ')).toList =
      List.replicate (2 * level) ' ' := String.toList_ofList
  intro character member
  rw [String.toList_append, spaces] at member
  rcases List.mem_append.mp member with isBreak | isSpace
  · rw [List.mem_singleton.mp isBreak]
    rfl
  · rw [List.eq_of_mem_replicate isSpace]
    rfl

/-- The lines of a bracketed list are items between marks with blanks at their side. -/
theorem exists_bracketed {first last : Char} (opening closing : String)
    (opens : opening.toList = [first]) (closes : closing.toList = [last]) (depth : Nat)
    (items : List String) :
    ∃ before between behind, Marks first before ∧ Marks ',' between ∧ Closes last behind ∧
      bracketed opening closing depth items = before ++ between.intercalate items ++ behind := by
  cases items with
  | nil =>
      refine ⟨opening, ",", closing, .of_toList opens, .of_toList rfl, .of_toList closes, ?_⟩
      have noItems : ",".intercalate [] = "" := String.intercalate_nil
      rw [noItems, String.append_empty]
      rfl
  | cons item others =>
      have blanksInside := blank_indentation (depth + 1)
      have blanksBehind := blank_indentation depth
      unfold bracketed
      dsimp only
      generalize "\n" ++ String.ofList (List.replicate (2 * (depth + 1)) ' ') = inside
        at blanksInside ⊢
      generalize "\n" ++ String.ofList (List.replicate (2 * depth) ' ') = outside
        at blanksBehind ⊢
      refine ⟨opening ++ inside, "," ++ inside, outside ++ closing, ⟨_, blanksInside, ?_⟩,
        ⟨_, blanksInside, ?_⟩, ⟨_, blanksBehind, ?_⟩, ?_⟩
      · rw [String.toList_append, opens, List.singleton_append]
      · exact String.toList_append
      · rw [String.toList_append, closes]
      · rw [List.isEmpty_cons, if_neg Bool.false_ne_true]
        exact String.append_assoc

theorem reads_prettyAt (value : Json) (depth : Nat) :
    Reads (value.prettyAt depth) value.document := by
  induction value using Json.induction generalizing depth with
  | null => exact Document.reads_null
  | bool value => exact Document.reads_bool value
  | number value => exact value.reads_text
  | string text => exact .string text
  | array elements inductionHypothesis =>
      obtain ⟨before, between, behind, opens, separates, closes, written⟩ :=
        exists_bracketed "[" "]" rfl rfl depth
          (elements.map (prettyAt (depth + 1)))
      rw [prettyAt, prettyElements_eq_map, document, elementDocuments_eq_map, written]
      apply Reads.array opens separates closes
      rw [List.forall₂_map_left_iff, List.forall₂_map_right_iff, List.forall₂_same]
      exact fun element member => inductionHypothesis element member (depth + 1)
  | object members inductionHypothesis =>
      rw [prettyAt, prettyMembers_eq_map, document, memberDocuments_eq_map]
      obtain ⟨before, between, behind, opens, separates, closes, written⟩ :=
        exists_bracketed "\x7b" "\x7d" rfl rfl depth
          (members.map fun member => quoted member.1 ++ ": " ++ member.2.prettyAt (depth + 1))
      rw [written]
      apply Reads.object opens separates closes
      rw [List.forall₂_map_left_iff, List.forall₂_map_right_iff, List.forall₂_same]
      exact fun entry member =>
        .intro ⟨[' '], List.forall_mem_singleton.mpr rfl, rfl⟩
          (inductionHypothesis entry member (depth + 1))

/-- A value with sorted objects and not too many brackets is read back from both of its texts. -/
theorem ofText?_written {read : DoubleReader} {value : Json} (readBack : value.ReadBack read)
    (sorted : value.Sorted) (shallow : value.document.nestsWithin nestingLimit = true) :
    ofText? read value.compact = some value ∧ ofText? read value.pretty = some value := by
  have isValue := ofDocument?_document readBack sorted
  constructor
  · rw [ofText?_of_reads value.reads_compact shallow, isValue]
  · rw [pretty, ofText?_of_reads (value.reads_prettyAt 0) shallow, isValue]

end Json

end GuardedSql
