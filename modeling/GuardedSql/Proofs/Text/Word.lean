set_option autoImplicit false

/-!
Words at the beginning of a text.

A word has none of the characters that may stand behind it. So where a word ends can be seen from
the text alone: if two texts that begin with a word each are the same, so are the words and what
follows them, `eq_of_word_append_eq`. Likewise a list of words is determined by its text with one
character between the words, `eq_of_intercalate_eq`.
-/

namespace GuardedSql

/-- None of the given characters is in the text. -/
def FreeOf (stops : List Char) (text : String) : Prop :=
  ∀ character ∈ text.toList, character ∉ stops

instance (stops : List Char) (text : String) : Decidable (FreeOf stops text) :=
  List.decidableBAll (fun character => character ∉ stops) text.toList

/-- The text is empty or begins with one of the given characters. -/
def BeginsIn (stops : List Char) (text : String) : Prop :=
  ∀ character ∈ text.toList.head?, character ∈ stops

theorem BeginsIn.empty (stops : List Char) : BeginsIn stops "" := by
  intro character isHead
  cases isHead

theorem BeginsIn.mono {stops others : List Char} {text : String} (begins : BeginsIn stops text)
    (included : stops ⊆ others) : BeginsIn others text :=
  fun character isHead => included (begins character isHead)

theorem FreeOf.mono {stops others : List Char} {text : String} (free : FreeOf others text)
    (included : stops ⊆ others) : FreeOf stops text :=
  fun character member isStop => free character member (included isStop)

theorem FreeOf.append {stops : List Char} {first second : String} (firstFree : FreeOf stops first)
    (secondFree : FreeOf stops second) : FreeOf stops (first ++ second) := by
  intro character member
  rw [String.toList_append, List.mem_append] at member
  exact member.elim (firstFree character) (secondFree character)

theorem FreeOf.intercalate {stops : List Char} {separator : String} {texts : List String}
    (free : FreeOf stops separator) (each : ∀ text ∈ texts, FreeOf stops text) :
    FreeOf stops (separator.intercalate texts) := by
  induction texts with
  | nil =>
      intro character member
      cases member
  | cons text rest inductionHypothesis =>
      obtain ⟨textFree, restEach⟩ := List.forall_mem_cons.mp each
      have restFree := inductionHypothesis restEach
      cases rest with
      | nil => rwa [String.intercalate_singleton]
      | cons _ _ =>
          rw [String.intercalate_cons_cons]
          exact (textFree.append free).append restFree

theorem head?_append_of_head? {lead rest : String} {character : Char}
    (isHead : lead.toList.head? = some character) :
    (lead ++ rest).toList.head? = some character := by
  rw [String.toList_append, List.head?_append, isHead, Option.some_or]

theorem BeginsIn.of_head? {stops : List Char} {text : String} {character : Char}
    (isHead : text.toList.head? = some character) (isStop : character ∈ stops) :
    BeginsIn stops text := by
  intro other otherIsHead
  cases isHead.symm.trans otherIsHead
  exact isStop

theorem BeginsIn.append_of_head? {stops : List Char} {lead rest : String} {character : Char}
    (isHead : lead.toList.head? = some character) (isStop : character ∈ stops) :
    BeginsIn stops (lead ++ rest) :=
  .of_head? (head?_append_of_head? isHead) isStop

private theorem eq_nil_of_extra {stops extra : List Char} {word rest : String}
    (free : FreeOf stops word) (begins : BeginsIn stops rest)
    (within : ∀ character ∈ extra, character ∈ word.toList)
    (opening : ∀ character ∈ extra.head?, character ∈ rest.toList.head?) : extra = [] := by
  cases extra with
  | nil => rfl
  | cons character others =>
      have isStop := begins character (opening character rfl)
      exact absurd isStop (free character (within character List.mem_cons_self))

/-- A word and what follows it are determined by the text they make. -/
theorem eq_of_word_append_eq {stops : List Char} {word other rest otherRest : String}
    (wordFree : FreeOf stops word) (otherFree : FreeOf stops other)
    (restBegins : BeginsIn stops rest) (otherRestBegins : BeginsIn stops otherRest)
    (same : word ++ rest = other ++ otherRest) : word = other ∧ rest = otherRest := by
  have sameChars : word.toList ++ rest.toList = other.toList ++ otherRest.toList := by
    rw [← String.toList_append, ← String.toList_append, same]
  rcases List.append_eq_append_iff.mp sameChars with
    ⟨extra, otherIs, restIs⟩ | ⟨extra, wordIs, otherRestIs⟩
  · have noExtra : extra = [] := by
      apply eq_nil_of_extra otherFree restBegins
      · intro character member
        exact otherIs ▸ List.mem_append_right _ member
      · intro character isHead
        rw [restIs, List.head?_append, Option.mem_def.mp isHead]
        rfl
    rw [noExtra, List.append_nil, String.toList_inj] at otherIs
    rw [noExtra, List.nil_append, String.toList_inj] at restIs
    exact ⟨otherIs.symm, restIs⟩
  · have noExtra : extra = [] := by
      apply eq_nil_of_extra wordFree otherRestBegins
      · intro character member
        exact wordIs ▸ List.mem_append_right _ member
      · intro character isHead
        rw [otherRestIs, List.head?_append, Option.mem_def.mp isHead]
        rfl
    rw [noExtra, List.append_nil, String.toList_inj] at wordIs
    rw [noExtra, List.nil_append, String.toList_inj] at otherRestIs
    exact ⟨wordIs, otherRestIs.symm⟩

private theorem splitOn_intercalate {separator : String} {character : Char} {texts : List String}
    (isCharacter : separator.toList = [character])
    (free : ∀ text ∈ texts, FreeOf [character] text) (nonempty : texts ≠ []) :
    (separator.intercalate texts).toList.splitOn character = texts.map String.toList := by
  rw [String.toList_intercalate, isCharacter]
  refine List.splitOn_intercalate character ?_ (mt List.map_eq_nil_iff.mp nonempty)
  intro characters member isSeparated
  obtain ⟨text, inside, rfl⟩ := List.mem_map.mp member
  exact free text inside character isSeparated List.mem_cons_self

/-- Words that are free of the character between them are determined by the text they make. -/
theorem eq_of_intercalate_eq {separator : String} {character : Char} {texts others : List String}
    (isCharacter : separator.toList = [character])
    (free : ∀ text ∈ texts, FreeOf [character] text)
    (otherFree : ∀ text ∈ others, FreeOf [character] text)
    (nonempty : texts ≠ []) (otherNonempty : others ≠ [])
    (same : separator.intercalate texts = separator.intercalate others) : texts = others := by
  have sameParts : texts.map String.toList = others.map String.toList := by
    rw [← splitOn_intercalate isCharacter free nonempty, same,
      splitOn_intercalate isCharacter otherFree otherNonempty]
  exact (List.map_inj_right fun _ _ => String.toList_inj.mp).mp sameParts

end GuardedSql
