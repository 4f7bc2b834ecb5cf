import GuardedSql.Proofs.Rejection.Causes
import GuardedSql.Proofs.Text.Word
import GuardedSql.Session
import Mathlib.Data.List.Pairwise

set_option autoImplicit false

/-!
A message tells what it is about.

A `Wording` is a fixed text before and after a detail, and the cause that such a message stands for.
Any two wordings can be told apart, by what they begin with or by what they end with, so a message
has one wording and one detail. All causes that filters and requests are rejected for have a
wording, so equal messages come from equal causes: `eq_of_message_eq`. The only exception is a list
of names with commas in them, since the message does not tell where a name ends.
-/

namespace GuardedSql

namespace Rejection

/-- How often a cause is said to lie in the filter of a request. -/
def depth : Rejection → Nat
  | inFilter cause => cause.depth + 1
  | _ => 0

/-- The names of the members of which there are too many. -/
def names? : Rejection → Option (List String)
  | severalMembers names => some names
  | inFilter cause => cause.names?
  | _ => none

def mapNames (change : List String → List String) : Rejection → Rejection
  | severalMembers names => severalMembers (change names)
  | inFilter cause => inFilter (cause.mapNames change)
  | cause => cause

/-- The cause without the names that it lists. -/
def withoutNames (cause : Rejection) : Rejection :=
  cause.mapNames fun _ => []

/-- The names as one name, as a message has them. -/
def withJoinedNames (cause : Rejection) : Rejection :=
  cause.mapNames fun names => [String.intercalate ", " names]

def CommaFree (cause : Rejection) : Prop :=
  ∀ names ∈ cause.names?, ∀ name ∈ names, FreeOf [','] name

theorem mapNames_mapNames (change other : List String → List String) (cause : Rejection) :
    (cause.mapNames other).mapNames change = cause.mapNames fun names => change (other names) := by
  induction cause with
  | inFilter cause inductionHypothesis =>
      rw [mapNames, mapNames, mapNames, inductionHypothesis]
  | _ => rfl

theorem names?_mapNames (change : List String → List String) (cause : Rejection) :
    (cause.mapNames change).names? = cause.names?.map change := by
  induction cause with
  | inFilter cause inductionHypothesis =>
      rw [mapNames, names?, names?, inductionHypothesis]
  | _ => rfl

theorem depth_mapNames (change : List String → List String) (cause : Rejection) :
    (cause.mapNames change).depth = cause.depth := by
  induction cause with
  | inFilter cause inductionHypothesis =>
      rw [mapNames, depth, depth, inductionHypothesis]
  | _ => rfl

theorem mapNames_getD_names? (cause : Rejection) :
    (cause.mapNames fun _ => cause.names?.getD []) = cause := by
  induction cause with
  | inFilter cause inductionHypothesis =>
      exact congrArg inFilter inductionHypothesis
  | _ => rfl

/-- A cause is determined by its names and by what it is without them. -/
theorem eq_of_withoutNames_eq {first second : Rejection}
    (same : first.withoutNames = second.withoutNames) (sameNames : first.names? = second.names?) :
    first = second :=
  calc
    first = first.mapNames fun _ => first.names?.getD [] := first.mapNames_getD_names?.symm
    _ = first.withoutNames.mapNames fun _ => first.names?.getD [] := by
        rw [withoutNames, mapNames_mapNames]
    _ = second.withoutNames.mapNames fun _ => second.names?.getD [] := by rw [same, sameNames]
    _ = second.mapNames fun _ => second.names?.getD [] := by
        rw [withoutNames, mapNames_mapNames]
    _ = second := second.mapNames_getD_names?

theorem withoutNames_withJoinedNames (cause : Rejection) :
    cause.withJoinedNames.withoutNames = cause.withoutNames :=
  mapNames_mapNames _ _ cause

end Rejection

private theorem intercalate_append_cons (separator lead text : String) (rest : List String) :
    String.intercalate separator ((lead ++ text) :: rest) =
      lead ++ String.intercalate separator (text :: rest) := by
  cases rest with
  | nil => rw [String.intercalate_singleton, String.intercalate_singleton]
  | cons other others =>
      rw [String.intercalate_cons_cons, String.intercalate_cons_cons, String.append_assoc,
        String.append_assoc, String.append_assoc]

/-- The space between two names may be taken as the beginning of the second one. -/
private theorem intercalate_comma_space (name : String) (rest : List String) :
    String.intercalate ", " (name :: rest) =
      String.intercalate "," (name :: rest.map fun other => " " ++ other) := by
  induction rest generalizing name with
  | nil => rw [List.map_nil, String.intercalate_singleton, String.intercalate_singleton]
  | cons other others inductionHypothesis =>
      have split : ", " = "," ++ " " := rfl
      rw [List.map_cons, String.intercalate_cons_cons, String.intercalate_cons_cons,
        intercalate_append_cons, ← inductionHypothesis other, split, String.append_assoc,
        String.append_assoc, String.append_assoc]

/-- Names without commas are determined by the text that lists them. -/
theorem names_eq_of_intercalate_eq {names others : List String}
    (free : ∀ name ∈ names, FreeOf [','] name) (otherFree : ∀ name ∈ others, FreeOf [','] name)
    (nonempty : names ≠ []) (otherNonempty : others ≠ [])
    (same : String.intercalate ", " names = String.intercalate ", " others) : names = others := by
  obtain ⟨name, rest, rfl⟩ := List.exists_cons_of_ne_nil nonempty
  obtain ⟨other, otherRest, rfl⟩ := List.exists_cons_of_ne_nil otherNonempty
  have spaced {first : String} {later : List String}
      (each : ∀ name ∈ first :: later, FreeOf [','] name) :
      ∀ name ∈ first :: later.map fun next => " " ++ next, FreeOf [','] name := by
    obtain ⟨firstFree, laterFree⟩ := List.forall_mem_cons.mp each
    refine List.forall_mem_cons.mpr ⟨firstFree, List.forall_mem_map.mpr fun next member => ?_⟩
    exact FreeOf.append (by decide) (laterFree next member)
  rw [intercalate_comma_space, intercalate_comma_space] at same
  have sameParts := eq_of_intercalate_eq rfl (spaced free) (spaced otherFree)
    (List.cons_ne_nil _ _) (List.cons_ne_nil _ _) same
  obtain ⟨rfl, sameRest⟩ := List.cons.inj sameParts
  rw [(List.map_inj_right fun _ _ => (String.append_right_inj " ").mp).mp sameRest]

/-! ### Wordings -/

/-- A text before and after a detail, and the cause that a message of this form stands for. -/
structure Wording where
  lead : String
  trail : String
  cause : String → Rejection

namespace Wording

def message (wording : Wording) (detail : String) : String :=
  wording.lead ++ detail ++ wording.trail

/-- Neither of the two could begin a text that the other one begins, or neither could end it. -/
def Apart (first second : Wording) : Prop :=
  ¬(first.lead.toList <+: second.lead.toList ∨ second.lead.toList <+: first.lead.toList) ∨
    ¬(first.trail.toList <:+ second.trail.toList ∨ second.trail.toList <:+ first.trail.toList)

instance (first second : Wording) : Decidable (first.Apart second) :=
  inferInstanceAs (Decidable (_ ∨ _))

instance : Std.Symm Apart where
  symm _ _ apart := apart.imp (fun leads => leads ∘ Or.symm) fun trails => trails ∘ Or.symm

theorem lead_prefix (wording : Wording) (detail : String) :
    wording.lead.toList <+: (wording.message detail).toList := by
  rw [message, String.append_assoc, String.toList_append]
  exact List.prefix_append _ _

theorem trail_suffix (wording : Wording) (detail : String) :
    wording.trail.toList <:+ (wording.message detail).toList := by
  rw [message, String.toList_append]
  exact List.suffix_append _ _

/-- Wordings that can be told apart have no message in common. -/
theorem Apart.message_ne {first second : Wording} (apart : first.Apart second)
    (detail other : String) : first.message detail ≠ second.message other := by
  intro same
  rcases apart with leads | trails
  · apply leads
    apply List.prefix_or_prefix_of_prefix (first.lead_prefix detail)
    rw [same]
    exact second.lead_prefix other
  · apply trails
    apply List.suffix_or_suffix_of_suffix (first.trail_suffix detail)
    rw [same]
    exact second.trail_suffix other

theorem message_injective (wording : Wording) : Function.Injective wording.message := by
  intro detail other same
  exact (String.append_right_inj _).mp ((String.append_left_inj _).mp same)

/-- The cause in the filter of a request. -/
def inFilter (wording : Wording) : Wording where
  lead := "Logic Fail - " ++ wording.lead
  trail := wording.trail
  cause detail := .inFilter (wording.cause detail)

/-- The wordings of what a filter is rejected for. Several names are one detail. -/
def ofFilters : List Wording :=
  [⟨"Nothing To Compute", "", fun _ => .emptyCondition⟩,
    ⟨"Invalid Input - ", "", .unknownCondition⟩,
    ⟨"Ambiguous Input - ", "", fun names => .severalMembers [names]⟩,
    ⟨"Bad ", ", non list", .conditionsNotListed⟩,
    ⟨"Invalid boolean length, must be >= 2", "", fun _ => .tooFewConditions⟩,
    ⟨"Non Valid comparitor - ", "", .unknownComparator⟩,
    ⟨"Comparitor Error - ", "", .misplacedComparator⟩] ++
  [ColumnType.string, .integer, .float, .boolean].map fun kind =>
    ⟨"Bad ", ", non " ++ kind.name, fun column => .operandMismatch column kind.name⟩

/-- The wordings of what is wrong with a request apart from its filter. -/
def ofRequests : List Wording :=
  [⟨"Missing argument ", "", .missingField⟩,
    ⟨"Query not allowed - ", "", .unlistedQuery⟩,
    ⟨"Item not allowed - ", "", .unlistedItem⟩,
    ⟨"Table not allowed - ", "", .unlistedTable⟩,
    ⟨"Connection not allowed - ", "", .unlistedConnection⟩] ++
  Statement.fieldKinds.map fun field =>
    ⟨field.1 ++ " not right type, " ++ field.2, "", fun _ => .fieldMismatch field.1 field.2⟩

def all : List Wording :=
  ofFilters ++ ofRequests ++ ofFilters.map inFilter

theorem pairwise_apart : all.Pairwise Apart := by
  decide +kernel

/-- A message has one wording and one detail. -/
theorem cause_eq_of_message_eq {first second : Wording} {detail other : String}
    (member : first ∈ all) (otherMember : second ∈ all)
    (same : first.message detail = second.message other) :
    first.cause detail = second.cause other := by
  by_cases different : first = second
  · subst different
    rw [first.message_injective same]
  · have apart := pairwise_apart.forall member otherMember different
    exact absurd same (apart.message_ne detail other)

/-- The wording and some detail make the message of the cause and stand for this cause, with several
names joined. -/
def Words (wording : Wording) (cause : Rejection) : Prop :=
  ∃ detail, wording.message detail = cause.message ∧ wording.cause detail = cause.withJoinedNames

theorem words_of_lead {lead detail : String} {cause : Rejection} {about : String → Rejection}
    (isMessage : lead ++ detail = cause.message)
    (isCause : about detail = cause.withJoinedNames) : Words ⟨lead, "", about⟩ cause :=
  ⟨detail, by rw [message, String.append_empty, isMessage], isCause⟩

theorem Words.inFilter {wording : Wording} {cause : Rejection} (words : wording.Words cause) :
    wording.inFilter.Words (.inFilter cause) := by
  obtain ⟨detail, isMessage, isCause⟩ := words
  have outerMessage : (Rejection.inFilter cause).message = "Logic Fail - " ++ cause.message := rfl
  have outerCause : (Rejection.inFilter cause).withJoinedNames =
      .inFilter cause.withJoinedNames := rfl
  refine ⟨detail, ?_, ?_⟩
  · rw [outerMessage, ← isMessage]
    simp only [message, Wording.inFilter, String.append_assoc]
  · rw [outerCause, ← isCause, Wording.inFilter]

end Wording

namespace Rejection

theorem OfFilter.exists_words {cause : Rejection} (ofFilter : cause.OfFilter) :
    ∃ wording ∈ Wording.ofFilters, wording.Words cause := by
  cases ofFilter with
  | emptyCondition =>
      exact ⟨⟨"Nothing To Compute", "", fun _ => .emptyCondition⟩, by simp [Wording.ofFilters],
        "", rfl, rfl⟩
  | unknownCondition text =>
      exact ⟨⟨"Invalid Input - ", "", .unknownCondition⟩, by simp [Wording.ofFilters],
        Wording.words_of_lead rfl rfl⟩
  | severalMembers several =>
      exact ⟨⟨"Ambiguous Input - ", "", fun names => .severalMembers [names]⟩,
        by simp [Wording.ofFilters], Wording.words_of_lead rfl rfl⟩
  | conditionsNotListed connective =>
      exact ⟨⟨"Bad ", ", non list", .conditionsNotListed⟩, by simp [Wording.ofFilters],
        connective, rfl, rfl⟩
  | tooFewConditions =>
      exact ⟨⟨"Invalid boolean length, must be >= 2", "", fun _ => .tooFewConditions⟩,
        by simp [Wording.ofFilters], "", rfl, rfl⟩
  | operandMismatch column kind =>
      have isMessage : "Bad " ++ column ++ ", non " ++ kind.name =
          (Rejection.operandMismatch column kind.name).message := rfl
      refine ⟨⟨"Bad ", ", non " ++ kind.name, fun name => .operandMismatch name kind.name⟩, ?_,
        column, ?_, rfl⟩
      · apply List.mem_append_right
        exact List.mem_map.mpr ⟨kind, by cases kind <;> decide, rfl⟩
      · rw [← isMessage, Wording.message, ← String.append_assoc]
  | unknownComparator word =>
      exact ⟨⟨"Non Valid comparitor - ", "", .unknownComparator⟩, by simp [Wording.ofFilters],
        Wording.words_of_lead rfl rfl⟩
  | misplacedComparator word =>
      exact ⟨⟨"Comparitor Error - ", "", .misplacedComparator⟩, by simp [Wording.ofFilters],
        Wording.words_of_lead rfl rfl⟩

theorem OfRequest.exists_words {cause : Rejection} (ofRequest : cause.OfRequest) :
    ∃ wording ∈ Wording.ofRequests ++ Wording.ofFilters.map Wording.inFilter,
      wording.Words cause := by
  cases ofRequest with
  | missingField field =>
      exact ⟨⟨"Missing argument ", "", .missingField⟩, by simp [Wording.ofRequests],
        Wording.words_of_lead rfl rfl⟩
  | @fieldMismatch field expected known =>
      refine ⟨⟨field ++ " not right type, " ++ expected, "",
        fun _ => .fieldMismatch field expected⟩, ?_,
        Wording.words_of_lead String.append_empty rfl⟩
      apply List.mem_append_left
      apply List.mem_append_right
      exact List.mem_map.mpr ⟨(field, expected), known, rfl⟩
  | unlistedQuery query =>
      exact ⟨⟨"Query not allowed - ", "", .unlistedQuery⟩, by simp [Wording.ofRequests],
        Wording.words_of_lead rfl rfl⟩
  | unlistedItem item =>
      exact ⟨⟨"Item not allowed - ", "", .unlistedItem⟩, by simp [Wording.ofRequests],
        Wording.words_of_lead rfl rfl⟩
  | unlistedTable table =>
      exact ⟨⟨"Table not allowed - ", "", .unlistedTable⟩, by simp [Wording.ofRequests],
        Wording.words_of_lead rfl rfl⟩
  | unlistedConnection connection =>
      exact ⟨⟨"Connection not allowed - ", "", .unlistedConnection⟩, by simp [Wording.ofRequests],
        Wording.words_of_lead rfl rfl⟩
  | inFilter inside =>
      obtain ⟨wording, member, words⟩ := inside.exists_words
      exact ⟨wording.inFilter, List.mem_append_right _ (List.mem_map_of_mem member), words.inFilter⟩

/-- Some filter or some request is rejected for the cause, under some allow-list. -/
def Reported (cause : Rejection) : Prop :=
  ∃ (allow : AllowList) (value : Json), (renderFilter allow value).value = .error cause ∨
    (renderRequest allow value).value = .error cause

theorem Reported.ofFilter_or_ofRequest {cause : Rejection} (reported : cause.Reported) :
    cause.OfFilter ∨ cause.OfRequest := by
  obtain ⟨allow, value, filter | request⟩ := reported
  · exact .inl (Filter.ofFilter_of_sqlOf filter)
  · exact .inr (Statement.ofRequest_of_sqlOf request)

theorem Reported.exists_words {cause : Rejection} (reported : cause.Reported) :
    ∃ wording ∈ Wording.all, wording.Words cause := by
  rw [Wording.all, List.append_assoc]
  rcases reported.ofFilter_or_ofRequest with ofFilter | ofRequest
  · obtain ⟨wording, member, words⟩ := ofFilter.exists_words
    exact ⟨wording, List.mem_append_left _ member, words⟩
  · obtain ⟨wording, member, words⟩ := ofRequest.exists_words
    exact ⟨wording, List.mem_append_right _ member, words⟩

theorem OfFilter.depth_eq {cause : Rejection} (ofFilter : cause.OfFilter) : cause.depth = 0 := by
  cases ofFilter <;> rfl

theorem Reported.depth_le {cause : Rejection} (reported : cause.Reported) : cause.depth ≤ 1 := by
  rcases reported.ofFilter_or_ofRequest with ofFilter | ofRequest
  · rw [ofFilter.depth_eq]
    exact Nat.zero_le 1
  · cases ofRequest with
    | inFilter inside => exact Nat.succ_le_succ (Nat.le_of_eq inside.depth_eq)
    | _ => exact Nat.zero_le 1

theorem OfFilter.ne_nil {cause : Rejection} (ofFilter : cause.OfFilter) {names : List String}
    (listed : cause.names? = some names) : names ≠ [] := by
  cases ofFilter with
  | severalMembers several =>
      cases listed
      exact List.ne_nil_of_length_pos (Nat.lt_of_lt_of_le Nat.zero_lt_two several)
  | _ => cases listed

theorem Reported.ne_nil {cause : Rejection} (reported : cause.Reported) {names : List String}
    (listed : cause.names? = some names) : names ≠ [] := by
  rcases reported.ofFilter_or_ofRequest with ofFilter | ofRequest
  · exact ofFilter.ne_nil listed
  · cases ofRequest with
    | inFilter inside => exact inside.ne_nil listed
    | _ => cases listed

theorem names?_eq_of_joined {first second : Rejection} (firstReported : first.Reported)
    (secondReported : second.Reported) (firstFree : first.CommaFree)
    (secondFree : second.CommaFree) (same : first.withJoinedNames = second.withJoinedNames) :
    first.names? = second.names? := by
  have sameTexts := congrArg names? same
  rw [withJoinedNames, withJoinedNames, names?_mapNames, names?_mapNames] at sameTexts
  cases firstNames : first.names? with
  | none =>
      rw [firstNames] at sameTexts
      exact (Option.map_eq_none_iff.mp sameTexts.symm).symm
  | some names =>
      rw [firstNames] at sameTexts
      obtain ⟨others, secondNames, sameText⟩ := Option.map_eq_some_iff.mp sameTexts.symm
      rw [secondNames, names_eq_of_intercalate_eq (firstFree names firstNames)
        (secondFree others secondNames) (firstReported.ne_nil firstNames)
        (secondReported.ne_nil secondNames) (List.cons.inj sameText).1.symm]

/-- Two causes with one message are the same, apart from the names that they list; and these are the
same too, if none of them has a comma in it. -/
theorem eq_of_message_eq {first second : Rejection} (firstReported : first.Reported)
    (secondReported : second.Reported) (same : first.message = second.message) :
    (first.depth = second.depth ∧ first.depth ≤ 1) ∧
    first.withoutNames = second.withoutNames ∧
    (first.CommaFree → second.CommaFree → first = second) := by
  obtain ⟨wording, member, detail, isMessage, isCause⟩ := firstReported.exists_words
  obtain ⟨otherWording, otherMember, other, isOtherMessage, isOtherCause⟩ :=
    secondReported.exists_words
  have joined : first.withJoinedNames = second.withJoinedNames := by
    rw [← isCause, ← isOtherCause]
    apply Wording.cause_eq_of_message_eq member otherMember
    rw [isMessage, isOtherMessage, same]
  have outline : first.withoutNames = second.withoutNames := by
    rw [← first.withoutNames_withJoinedNames, joined, second.withoutNames_withJoinedNames]
  refine ⟨⟨?_, firstReported.depth_le⟩, outline, fun firstFree secondFree => ?_⟩
  · rw [← first.depth_mapNames fun _ => [], ← withoutNames, outline, withoutNames, depth_mapNames]
  · exact eq_of_withoutNames_eq outline
      (names?_eq_of_joined firstReported secondReported firstFree secondFree joined)

end Rejection

namespace Orders

/-- A request whose filter has the given members, which are too many. -/
def crowdedRequest (names : List String) : Json :=
  .object [("connection", .string "WHERE"), ("items", .array [.string "price"]),
    ("logic", .object (names.map fun name => (name, .null))), ("query", .string "SELECT"),
    ("table", .string "orders")]

/-- A comma in a name hides where the names end, and nothing else. -/
theorem sameMessage_of_hiddenComma :
    let first := Rejection.inFilter (.severalMembers ["a, b", "c"])
    let second := Rejection.inFilter (.severalMembers ["a", "b, c"])
    first.Reported ∧ second.Reported ∧ first.message = second.message ∧ first ≠ second ∧
    (first.depth = second.depth ∧ first.depth ≤ 1) ∧
    first.withoutNames = second.withoutNames ∧
    (first.CommaFree → second.CommaFree → first = second) := by
  intro first second
  have firstReported : first.Reported := ⟨allowList, crowdedRequest ["a, b", "c"], .inr rfl⟩
  have secondReported : second.Reported := ⟨allowList, crowdedRequest ["a", "b, c"], .inr rfl⟩
  have same : first.message = second.message := by decide
  exact ⟨firstReported, secondReported, same, by decide,
    Rejection.eq_of_message_eq firstReported secondReported same⟩

end Orders

end GuardedSql
