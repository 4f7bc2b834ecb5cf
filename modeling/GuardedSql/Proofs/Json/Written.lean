import GuardedSql.Proofs.Json.Quoted
import GuardedSql.Proofs.Text.Word
import Mathlib.Data.List.Forall2

set_option autoImplicit false

/-!
Which texts read as which documents.

`Reads text document` says that a text is read as a document wherever a value may stand: alone, and
before anything that may follow a value. Texts that read as documents, in brackets and with commas
between them, read as the array of these documents, `Reads.array`, and likewise with names as an
object, `Reads.object`. Blanks may stand behind each mark and before the closing one, so that both
forms of writing are covered.
-/

namespace GuardedSql

namespace Json

theorem compactElements_eq_map (elements : List Json) :
    compactElements elements = elements.map compact := by
  induction elements with
  | nil => rfl
  | cons element rest inductionHypothesis =>
      rw [compactElements, inductionHypothesis, List.map_cons]

theorem compactMembers_eq_map (members : List (String × Json)) :
    compactMembers members =
      members.map fun member => quoted member.1 ++ ":" ++ member.2.compact := by
  induction members with
  | nil => rfl
  | cons member rest inductionHypothesis =>
      rw [compactMembers, inductionHypothesis, List.map_cons]

end Json

namespace Document

open List (Forall₂)

def Blank (characters : List Char) : Prop :=
  ∀ character ∈ characters, isBlank character = true

/-- The mark with blanks behind it. -/
def Marks (mark : Char) (text : String) : Prop :=
  ∃ blanks, Blank blanks ∧ text.toList = mark :: blanks

/-- The mark with blanks before it. -/
def Closes (mark : Char) (text : String) : Prop :=
  ∃ blanks, Blank blanks ∧ text.toList = blanks ++ [mark]

theorem Marks.of_toList {mark : Char} {text : String} (isMark : text.toList = [mark]) :
    Marks mark text :=
  ⟨[], nofun, isMark⟩

theorem Marks.head?_eq {mark : Char} {text : String} (marks : Marks mark text) :
    text.toList.head? = some mark := by
  obtain ⟨blanks, _, isMark⟩ := marks
  rw [isMark, List.head?_cons]

theorem Closes.of_toList {mark : Char} {text : String} (isMark : text.toList = [mark]) :
    Closes mark text :=
  ⟨[], nofun, isMark⟩

/-- A blank leaves the state as it is. -/
def SkipsBlanks (state : State) : Prop :=
  ∀ character, isBlank character = true → state.next? character = some state

theorem SkipsBlanks.run_blanks {state : State} (skips : SkipsBlanks state) {blanks : List Char}
    (blank : Blank blanks) (rest : List Char) : run state (blanks ++ rest) = run state rest := by
  induction blanks with
  | nil => rfl
  | cons character others inductionHypothesis =>
      obtain ⟨isBlank, othersBlank⟩ := List.forall_mem_cons.mp blank
      rw [List.cons_append, run_cons, skips character isBlank, Option.bind_some,
        inductionHypothesis othersBlank]

theorem Marks.run {mark : Char} {text : String} (marks : Marks mark text) {state next : State}
    (taken : state.next? mark = some next) (skips : SkipsBlanks next) (rest : List Char) :
    run state (text.toList ++ rest) = run next rest := by
  obtain ⟨blanks, blank, isMark⟩ := marks
  rw [isMark, List.cons_append, run_cons, taken, Option.bind_some, skips.run_blanks blank]

theorem Closes.run {mark : Char} {text : String} (closes : Closes mark text) {state next : State}
    (skips : SkipsBlanks state) (taken : state.next? mark = some next) (rest : List Char) :
    run state (text.toList ++ rest) = run next rest := by
  obtain ⟨blanks, blank, isMark⟩ := closes
  rw [isMark, List.append_assoc, skips.run_blanks blank, List.singleton_append, run_cons, taken,
    Option.bind_some]

theorem skipsBlanks_value (stack : List Frame) : SkipsBlanks ⟨stack, .value⟩ := by
  intro character blank
  simp only [State.next?, blank, if_true]

theorem skipsBlanks_element (stack : List Frame) : SkipsBlanks ⟨stack, .element⟩ := by
  intro character blank
  simp only [State.next?, blank, if_true]

theorem skipsBlanks_member (stack : List Frame) (before : Members) (opened : Bool) :
    SkipsBlanks ⟨stack, .member before opened⟩ := by
  intro character blank
  simp only [State.next?, blank, if_true]

theorem skipsBlanks_complete (stack : List Frame) (document : Document) :
    SkipsBlanks ⟨stack, .complete document⟩ := by
  intro character blank
  simp only [State.next?, afterValue?, blank, if_true]

/-! ### Items of a list -/

section Items

variable {α : Type}

/-- A text is read as an item of a list: before a comma as one more item, and before the mark that
closes the list as the last one. The states are those that await an item or have ended the list,
for each list of items so far, last first. -/
structure ReadsItem (awaiting : List α → State) (close : Char) (ended : List α → State)
    (text : String) (item : α) : Prop where
  more : ∀ before separator rest, Marks ',' separator →
    run (awaiting before) (text.toList ++ (separator.toList ++ rest)) =
      run (awaiting (item :: before)) rest
  last : ∀ before closing rest, Closes close closing →
    run (awaiting before) (text.toList ++ (closing.toList ++ rest)) =
      run (ended (item :: before)) rest

theorem head?_items {separator text : String} {texts : List String} {first : Char}
    {rest : List Char} (isFirst : text.toList.head? = some first) :
    ((separator.intercalate (text :: texts)).toList ++ rest).head? = some first := by
  have startsSo : (separator.intercalate (text :: texts)).toList.head? = some first := by
    cases texts with
    | nil => rwa [String.intercalate_singleton]
    | cons other others =>
        rw [String.intercalate_cons_cons]
        exact head?_append_of_head? (head?_append_of_head? isFirst)
  rw [List.head?_append, startsSo, Option.some_or]

/-- Texts of items with commas between them are read as the list of these items. -/
theorem run_items {awaiting ended : List α → State} {close : Char} {separator closing : String}
    (separates : Marks ',' separator) (closes : Closes close closing) {text : String} {item : α}
    {texts : List String} {items : List α} (first : ReadsItem awaiting close ended text item)
    (each : Forall₂ (ReadsItem awaiting close ended) texts items) (before : List α)
    (rest : List Char) :
    run (awaiting before)
        ((separator.intercalate (text :: texts)).toList ++ (closing.toList ++ rest)) =
      run (ended (items.reverse ++ item :: before)) rest := by
  -- After a comma the second item is the first one of what remains.
  induction each generalizing text item before with
  | nil =>
      rw [String.intercalate_singleton, first.last before closing rest closes, List.reverse_nil,
        List.nil_append]
  | cons second _ inductionHypothesis =>
      rw [String.intercalate_cons_cons, String.toList_append, String.toList_append,
        List.append_assoc, List.append_assoc, first.more before separator _ separates,
        inductionHypothesis second, List.reverse_cons, List.append_assoc, List.singleton_append]

end Items

/-- Whether a character may follow a value inside brackets. -/
def endsValue (character : Char) : Bool :=
  isBlank character || character = ',' || character = ']' || character = '}'

/-- The text is read as the document wherever a value may stand. -/
structure Reads (text : String) (document : Document) : Prop where
  alone : ofText? text = some document
  opens : ∃ first ∈ text.toList.head?, isBlank first = false ∧ first ≠ ']'
  followed : ∀ stack tail, (∃ first ∈ tail.head?, endsValue first = true) →
    run ⟨stack, .value⟩ (text.toList ++ tail) = run ⟨stack, .complete document⟩ tail

/-- If a text completes a document, nothing that follows it matters. -/
theorem Reads.of_complete {text : String} {document : Document}
    (opens : ∃ first ∈ text.toList.head?, isBlank first = false ∧ first ≠ ']')
    (completes : ∀ stack rest,
      run ⟨stack, .value⟩ (text.toList ++ rest) = run ⟨stack, .complete document⟩ rest) :
    Reads text document where
  alone := by
    have whole := completes [] []
    rw [List.append_nil] at whole
    rw [ofText?, State.start, whole, run, Option.bind_some, State.document?]
  opens := opens
  followed stack tail _ := completes stack tail

theorem head?_quoted (text : String) : (Json.quoted text).toList.head? = some '"' := by
  rw [Json.quoted, String.toList_ofList, List.head?_cons]

theorem Reads.string (text : String) : Reads (Json.quoted text) (.string (some text)) := by
  apply Reads.of_complete
  · exact ⟨'"', head?_quoted text, rfl, by decide⟩
  · intro stack rest
    exact (readsStrings_value stack).run_quoted rfl text rest

section Elements

variable {stack : List Frame} {text : String} {document : Document}

theorem Reads.before_mark (reads : Reads text document) {mark : Char} {marked : String}
    (marks : Marks mark marked) (ends : endsValue mark = true) (rest : List Char) :
    run ⟨stack, .value⟩ (text.toList ++ (marked.toList ++ rest)) =
      run ⟨stack, .complete document⟩ (marked.toList ++ rest) := by
  obtain ⟨blanks, _, isMark⟩ := marks
  apply reads.followed
  rw [isMark]
  exact ⟨mark, rfl, ends⟩

theorem Reads.before_close (reads : Reads text document) {mark : Char} {closing : String}
    (closes : Closes mark closing) (ends : endsValue mark = true) (rest : List Char) :
    run ⟨stack, .value⟩ (text.toList ++ (closing.toList ++ rest)) =
      run ⟨stack, .complete document⟩ (closing.toList ++ rest) := by
  obtain ⟨blanks, blank, isMark⟩ := closes
  apply reads.followed
  rw [isMark]
  -- The text is followed by a blank, or by the mark at once.
  cases blanks with
  | nil => exact ⟨mark, rfl, ends⟩
  | cons first others =>
      refine ⟨first, rfl, ?_⟩
      rw [endsValue, blank first List.mem_cons_self]
      rfl

theorem Reads.item (reads : Reads text document) :
    ReadsItem (fun before => ⟨.array before :: stack, .value⟩) ']'
      (fun before => ⟨stack, .complete (.array before.reverse)⟩) text document where
  more before separator rest separates := by
    rw [reads.before_mark separates rfl]
    exact separates.run rfl (skipsBlanks_value _) rest
  last before closing rest closes := by
    rw [reads.before_close closes rfl]
    exact closes.run (skipsBlanks_complete _ _) rfl rest

/-- Where an array has just been opened, a value is read as it is behind a comma. -/
theorem run_element {first : Char} {characters : List Char}
    (isFirst : characters.head? = some first) (notBlank : isBlank first = false)
    (notClose : first ≠ ']') :
    run ⟨stack, .element⟩ characters = run ⟨stack, .value⟩ characters := by
  obtain ⟨others, rfl⟩ := List.head?_eq_some_iff.mp isFirst
  rw [run_cons, run_cons]
  simp only [State.next?, notBlank, if_neg notClose, Bool.false_eq_true, if_false]

theorem Reads.array {opening separator closing : String} (opens : Marks '[' opening)
    (separates : Marks ',' separator) (closes : Closes ']' closing) {texts : List String}
    {documents : List Document} (each : Forall₂ Reads texts documents) :
    Reads (opening ++ separator.intercalate texts ++ closing) (.array documents) := by
  apply Reads.of_complete
  · exact ⟨'[', head?_append_of_head? (head?_append_of_head? opens.head?_eq), rfl, by decide⟩
  · intro stack rest
    rw [String.toList_append, String.toList_append, List.append_assoc, List.append_assoc,
      opens.run rfl (skipsBlanks_element _)]
    cases each with
    | nil =>
        exact closes.run (skipsBlanks_element _) rfl rest
    | cons first others =>
        obtain ⟨character, isFirst, notBlank, notClose⟩ := first.opens
        rw [run_element (head?_items isFirst) notBlank notClose,
          run_items separates closes first.item (others.imp fun _ _ reads => reads.item),
          List.reverse_append, List.reverse_reverse]
        rfl

end Elements

/-- The text is read as the member, which has a name. -/
inductive ReadsMember : String → Option String × Document → Prop where
  | intro {name colon text : String} {document : Document} (marks : Marks ':' colon)
      (reads : Reads text document) :
      ReadsMember (Json.quoted name ++ colon ++ text) (some name, document)

section Members

variable {stack : List Frame} {text : String} {member : Option String × Document}

theorem ReadsMember.head?_eq (reads : ReadsMember text member) :
    text.toList.head? = some '"' := by
  cases reads
  exact head?_append_of_head? (head?_append_of_head? (head?_quoted _))

/-- The name and the colon of a member lead to its value. -/
theorem run_name {colon : String} (marks : Marks ':' colon) (before : Members) (opened : Bool)
    (name : String) (rest : List Char) :
    run ⟨stack, .member before opened⟩
        ((Json.quoted name).toList ++ (colon.toList ++ rest)) =
      run ⟨.object before (some name) :: stack, .value⟩ rest := by
  rw [(readsStrings_name stack before).run_quoted rfl]
  exact marks.run rfl (skipsBlanks_value _) rest

theorem ReadsMember.item (reads : ReadsMember text member) :
    ReadsItem (fun before => ⟨stack, .member before false⟩) '}' (closeObject stack)
      text member where
  more before separator rest separates := by
    obtain ⟨marks, value⟩ := reads
    rw [String.toList_append, String.toList_append, List.append_assoc, List.append_assoc,
      run_name marks, value.before_mark separates rfl]
    exact separates.run rfl (skipsBlanks_member _ _ _) rest
  last before closing rest closes := by
    obtain ⟨marks, value⟩ := reads
    rw [String.toList_append, String.toList_append, List.append_assoc, List.append_assoc,
      run_name marks, value.before_close closes rfl]
    exact closes.run (skipsBlanks_complete _ _) rfl rest

/-- Where an object has just been opened, a member is read as it is behind a comma. -/
theorem run_opened {characters : List Char} (isFirst : characters.head? = some '"')
    (before : Members) :
    run ⟨stack, .member before true⟩ characters =
      run ⟨stack, .member before false⟩ characters := by
  obtain ⟨others, rfl⟩ := List.head?_eq_some_iff.mp isFirst
  rw [run_cons, run_cons]
  rfl

theorem Reads.object {opening separator closing : String} (opens : Marks '{' opening)
    (separates : Marks ',' separator) (closes : Closes '}' closing) {texts : List String}
    {members : Members} (each : Forall₂ ReadsMember texts members) :
    Reads (opening ++ separator.intercalate texts ++ closing) (.object members) := by
  apply Reads.of_complete
  · exact ⟨'{', head?_append_of_head? (head?_append_of_head? opens.head?_eq), rfl, by decide⟩
  · intro stack rest
    rw [String.toList_append, String.toList_append, List.append_assoc, List.append_assoc,
      opens.run rfl (skipsBlanks_member _ _ _)]
    cases each with
    | nil =>
        exact closes.run (skipsBlanks_member _ _ _) rfl rest
    | cons first others =>
        rw [run_opened (head?_items first.head?_eq),
          run_items separates closes first.item (others.imp fun _ _ reads => reads.item),
          closeObject, List.reverse_append, List.reverse_reverse]
        rfl

end Members

theorem Reads.compact_array {elements : List Json} {documents : List Document}
    (each : Forall₂ (fun element => Reads element.compact) elements documents) :
    Reads (Json.array elements).compact (.array documents) := by
  rw [Json.compact, Json.compactElements_eq_map]
  exact .array (.of_toList rfl) (.of_toList rfl) (.of_toList rfl)
    (List.forall₂_map_left_iff.mpr each)

theorem Reads.compact_object {members : List (String × Json)} {documents : Members}
    (each : Forall₂ (fun member document => document.1 = some member.1 ∧
      Reads member.2.compact document.2) members documents) :
    Reads (Json.object members).compact (.object documents) := by
  rw [Json.compact, Json.compactMembers_eq_map]
  refine .object (.of_toList rfl) (.of_toList rfl) (.of_toList rfl)
    (List.forall₂_map_left_iff.mpr (each.imp ?_))
  rintro member ⟨_, document⟩ ⟨rfl, reads⟩
  exact .intro (.of_toList rfl) reads

end Document

end GuardedSql
