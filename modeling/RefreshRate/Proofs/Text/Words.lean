import Mathlib.Data.List.DropRight
import Mathlib.Data.List.Induction
import RefreshRate.Text.Blank

namespace RefreshRate.Text

/-!
# Trimmed texts and their words

What trimming and splitting leave of a text is told without either of them: a text is a
list of words with blanks around them, and only the words count.
-/

variable
  {dropped : Char → Bool}
  {before after gap word rest text : List Char}
  {ws : List (List Char)}

theorem trimBy_concat
    {last : Char}
    (isDropped : dropped last = true)
    (line : List Char) :
    trimBy dropped (line ++ [last]) = trimBy dropped line := by
  unfold trimBy
  rw [List.dropWhile_append]
  split
  · rename_i allDropped
    rw [List.isEmpty_iff.mp allDropped]
    simp [isDropped]
  · simp [isDropped]

theorem trimBy_append_right
    (margins : ∀ c ∈ after, dropped c = true)
    (line : List Char) :
    trimBy dropped (line ++ after) = trimBy dropped line := by
  induction after using List.reverseRecOn with
  | nil =>
      simp
  | append_singleton after last inductionHypothesis =>
      have isDropped : dropped last = true := margins last (by simp)
      rw [← List.append_assoc, trimBy_concat isDropped]
      apply inductionHypothesis
      intro c member
      exact margins c (List.mem_append_left [last] member)

theorem trimBy_append_left
    (margins : ∀ c ∈ before, dropped c = true)
    (line : List Char) :
    trimBy dropped (before ++ line) = trimBy dropped line := by
  simp only [trimBy, List.dropWhile_append_of_pos margins]

/-- Only dropped characters are missing from a trimmed line. -/
theorem exists_eq_append_trimBy
    (dropped : Char → Bool)
    (line : List Char) :
    ∃ before after,
      line = before ++ trimBy dropped line ++ after ∧
        (∀ c ∈ before, dropped c = true) ∧ ∀ c ∈ after, dropped c = true := by
  refine
    ⟨line.takeWhile dropped, (line.dropWhile dropped).rtakeWhile dropped, ?_, ?_, ?_⟩
  · have rightPart :
        trimBy dropped line ++ (line.dropWhile dropped).rtakeWhile dropped =
          line.dropWhile dropped :=
      List.rdropWhile_append_rtakeWhile
    rw [List.append_assoc, rightPart, List.takeWhile_append_dropWhile]
  · intro c member
    exact List.mem_takeWhile_imp member
  · intro c member
    exact List.mem_rtakeWhile_imp member

/-- All characters are blank. -/
def IsGap (cs : List Char) : Prop :=
  ∀ c ∈ cs, isBlank c = true

/-- No character is blank, and there is one. -/
def IsWord (cs : List Char) : Prop :=
  cs ≠ [] ∧ ∀ c ∈ cs, isBlank c = false

/-- A word that stands before these characters ends there. -/
def EndsWord (rest : List Char) : Prop :=
  ∀ c ∈ rest.head?, isBlank c = true

instance (cs : List Char) : Decidable (IsGap cs) :=
  decidable_of_iff (cs.all isBlank = true) (by simp [IsGap])

instance (cs : List Char) : Decidable (IsWord cs) :=
  decidable_of_iff (cs ≠ [] ∧ cs.all (!isBlank ·) = true) (by simp [IsWord])

/-- A text opens with a word, perhaps after a gap, and the rest follows. -/
def Opens (text word rest : List Char) : Prop :=
  ∃ gap, text = gap ++ word ++ rest ∧ IsGap gap ∧ IsWord word ∧ EndsWord rest

/-- A text is made of words, with gaps before, between and after them. -/
inductive Spaced : List Char → List (List Char) → Prop where
  | gap
      {gap : List Char}
      (isGap : IsGap gap) :
      Spaced gap []
  | word
      {gap word rest : List Char}
      {ws : List (List Char)}
      (isGap : IsGap gap)
      (isWord : IsWord word)
      (endsWord : EndsWord rest)
      (spaced : Spaced rest ws) :
      Spaced (gap ++ word ++ rest) (word :: ws)

theorem words_cons_of_isBlank
    {c : Char}
    (blank : isBlank c = true)
    (cs : List Char) :
    words (c :: cs) = words cs := by
  simp [words, List.splitOnP_cons_eq_if_modifyHead, blank]

theorem words_append_left
    (isGap : IsGap gap)
    (cs : List Char) :
    words (gap ++ cs) = words cs := by
  induction gap with
  | nil =>
      rfl
  | cons c gap inductionHypothesis =>
      rw [List.cons_append, words_cons_of_isBlank (isGap c List.mem_cons_self)]
      exact inductionHypothesis fun c member => isGap c (List.mem_cons_of_mem _ member)

theorem words_of_isGap (isGap : IsGap gap) : words gap = [] := by
  simpa using words_append_left isGap []

theorem words_word_append
    (isWord : IsWord word)
    (endsWord : EndsWord rest) :
    words (word ++ rest) = word :: words rest := by
  obtain ⟨notEmpty, noBlank⟩ := isWord
  cases rest with
  | nil =>
      have onePiece : word.splitOnP isBlank = [word] := List.splitOnP_eq_singleton noBlank
      simp [words, onePiece, notEmpty]
  | cons separator rest =>
      have blank : isBlank separator = true := endsWord separator rfl
      rw [words_cons_of_isBlank blank]
      simp [words, List.splitOnP_append_cons_of_forall_mem noBlank separator blank rest, notEmpty]

/-- The words of a text are those that it is made of. -/
theorem Spaced.words_eq (spaced : Spaced text ws) : words text = ws := by
  induction spaced with
  | gap isGap =>
      exact words_of_isGap isGap
  | @word gap word rest ws isGap isWord endsWord spaced inductionHypothesis =>
      rw [List.append_assoc, words_append_left isGap, words_word_append isWord endsWord,
        inductionHypothesis]

/-- A text is blank, or it has a first word. -/
theorem isGap_or_exists_opens (text : List Char) :
    IsGap text ∨ ∃ word rest, Opens text word rest := by
  by_cases allBlank : IsGap text
  · exact .inl allBlank
  · right
    let tail := text.dropWhile isBlank
    have tailNotEmpty : tail ≠ [] := fun empty => allBlank (List.dropWhile_eq_nil_iff.mp empty)
    obtain ⟨first, others, tailShape⟩ := List.exists_cons_of_ne_nil tailNotEmpty
    have firstKept : isBlank first = false := by
      simpa [tail, tailShape] using List.head_dropWhile_not isBlank tailNotEmpty
    refine
      ⟨tail.takeWhile (!isBlank ·), tail.dropWhile (!isBlank ·), text.takeWhile isBlank,
        ?_, ?_, ⟨?_, ?_⟩, ?_⟩
    · rw [List.append_assoc, List.takeWhile_append_dropWhile, List.takeWhile_append_dropWhile]
    · intro c member
      exact List.mem_takeWhile_imp member
    · simp [tailShape, firstKept]
    · intro c member
      simpa using List.mem_takeWhile_imp member
    · intro c isHead
      have stops := List.head?_dropWhile_not (!isBlank ·) tail
      rw [isHead] at stops
      simpa using stops

theorem Opens.words_eq (opens : Opens text word rest) : words text = word :: words rest := by
  obtain ⟨gap, rfl, isGap, isWord, endsWord⟩ := opens
  rw [List.append_assoc, words_append_left isGap, words_word_append isWord endsWord]

theorem Opens.length_lt (opens : Opens text word rest) : rest.length < text.length := by
  obtain ⟨gap, rfl, -, ⟨notEmpty, -⟩, -⟩ := opens
  have := List.length_pos_of_ne_nil notEmpty
  simp only [List.length_append]
  omega

/-- Every text is made of its words. -/
theorem spaced_words (text : List Char) : Spaced text (words text) := by
  rcases isGap_or_exists_opens text with isGap | ⟨word, rest, opens⟩
  · rw [words_of_isGap isGap]
    exact .gap isGap
  · have shorter := opens.length_lt
    rw [opens.words_eq]
    obtain ⟨gap, shape, isGap, isWord, endsWord⟩ := opens
    rw [shape]
    exact .word isGap isWord endsWord (spaced_words rest)
termination_by text.length

theorem words_eq_iff : words text = ws ↔ Spaced text ws := by
  constructor
  · rintro rfl
    exact spaced_words text
  · exact Spaced.words_eq

theorem isWord_of_mem_words (member : word ∈ words text) : IsWord word := by
  have shape := spaced_words text
  generalize words text = ws at member shape
  induction shape with
  | gap isGap =>
      cases member
  | word isGap isWord endsWord spaced inductionHypothesis =>
      rcases List.mem_cons.mp member with rfl | later
      · exact isWord
      · exact inductionHypothesis later

theorem words_eq_nil_iff : words text = [] ↔ IsGap text := by
  constructor
  · intro noWords
    rcases isGap_or_exists_opens text with isGap | ⟨word, rest, opens⟩
    · exact isGap
    · rw [opens.words_eq] at noWords
      cases noWords
  · exact words_of_isGap

/-- Blanks at the end of a text do not count. -/
theorem Spaced.append_right
    (spaced : Spaced text ws)
    (isGap : IsGap after) :
    Spaced (text ++ after) ws := by
  induction spaced with
  | gap isGapBefore =>
      refine .gap fun c member => ?_
      rcases List.mem_append.mp member with inBefore | inAfter
      · exact isGapBefore c inBefore
      · exact isGap c inAfter
  | @word gap word rest ws isGapBefore isWord endsWord spaced inductionHypothesis =>
      rw [List.append_assoc]
      refine .word isGapBefore isWord ?_ inductionHypothesis
      cases rest with
      | nil =>
          intro c isHead
          exact isGap c (List.mem_of_mem_head? isHead)
      | cons c rest =>
          exact endsWord

theorem words_append_right
    (isGap : IsGap after)
    (text : List Char) :
    words (text ++ after) = words text :=
  ((spaced_words text).append_right isGap).words_eq

/-- Whatever blanks are trimmed, the words stay. -/
theorem words_trimBy
    (onlyBlanks : ∀ c, dropped c = true → isBlank c = true)
    (text : List Char) :
    words (trimBy dropped text) = words text := by
  obtain ⟨before, after, shape, droppedBefore, droppedAfter⟩ := exists_eq_append_trimBy dropped text
  have isGapBefore : IsGap before := fun c member => onlyBlanks c (droppedBefore c member)
  have isGapAfter : IsGap after := fun c member => onlyBlanks c (droppedAfter c member)
  have trimmed : words text = words (before ++ trimBy dropped text ++ after) :=
    congrArg words shape
  rw [trimmed, words_append_right isGapAfter, words_append_left isGapBefore]

theorem words_trim (text : List Char) : words (trim text) = words text :=
  words_trimBy (fun _ blank => blank) text

theorem trim_eq_nil_iff : trim text = [] ↔ IsGap text := by
  rw [← words_eq_nil_iff]
  constructor
  · intro isNil
    rw [← words_trim, isNil, words_nil]
  · intro noWords
    have allDropped : text.dropWhile isBlank = [] :=
      List.dropWhile_eq_nil_iff.mpr (words_eq_nil_iff.mp noWords)
    rw [trim, trimBy, allDropped]
    rfl

theorem rdropWhile_of_isWord (isWord : IsWord word) : word.rdropWhile isBlank = word := by
  rw [List.rdropWhile_eq_self_iff]
  intro notEmpty
  simp [isWord.2 _ (List.getLast_mem notEmpty)]

theorem rdropWhile_word_append
    (isWord : IsWord word)
    (rest : List Char) :
    (word ++ rest).rdropWhile isBlank = word ++ rest.rdropWhile isBlank := by
  induction rest using List.reverseRecOn with
  | nil =>
      simp [rdropWhile_of_isWord isWord]
  | append_singleton rest last inductionHypothesis =>
      rw [← List.append_assoc, List.rdropWhile_concat, List.rdropWhile_concat]
      split
      · exact inductionHypothesis
      · simp

theorem dropWhile_word_append
    (isWord : IsWord word)
    (rest : List Char) :
    (word ++ rest).dropWhile isBlank = word ++ rest := by
  obtain ⟨first, others, rfl⟩ := List.exists_cons_of_ne_nil isWord.1
  simp [isWord.2 first List.mem_cons_self]

theorem trim_of_isWord (isWord : IsWord word) : trim word = word := by
  have noMargin := dropWhile_word_append isWord []
  rw [List.append_nil] at noMargin
  rw [trim, trimBy, noMargin]
  exact rdropWhile_of_isWord isWord

/-- A trimmed text opens with the same word, and the rest is trimmed at its end. -/
theorem Opens.exists_trim_eq
    (opens : Opens text word rest) :
    ∃ kept,
      trim text = word ++ kept ∧ EndsWord kept ∧ trim kept = trim rest := by
  obtain ⟨gap, rfl, isGap, isWord, endsWord⟩ := opens
  refine ⟨rest.rdropWhile isBlank, ?_, ?_, ?_⟩
  · rw [List.append_assoc, trim, trimBy_append_left isGap, trimBy,
      dropWhile_word_append isWord]
    exact rdropWhile_word_append isWord rest
  · intro c isHead
    obtain ⟨others, shape⟩ := List.rdropWhile_prefix isBlank rest
    apply endsWord
    rw [← shape, List.head?_append, isHead]
    rfl
  · have shape : rest.rdropWhile isBlank ++ rest.rtakeWhile isBlank = rest :=
      List.rdropWhile_append_rtakeWhile
    have margins : ∀ c ∈ rest.rtakeWhile isBlank, isBlank c = true :=
      fun c member => List.mem_rtakeWhile_imp member
    have trimmed := trimBy_append_right margins (rest.rdropWhile isBlank)
    rw [shape] at trimmed
    exact trimmed.symm

theorem words_of_isWord (isWord : IsWord word) : words word = [word] := by
  have onlyWord : words (word ++ []) = word :: words [] :=
    words_word_append isWord (by rintro c ⟨⟩)
  rwa [List.append_nil, words_nil] at onlyWord

theorem words_eq_singleton_iff : words text = [word] ↔ IsWord word ∧ trim text = word := by
  constructor
  · intro oneWord
    have isWord : IsWord word := isWord_of_mem_words (by rw [oneWord]; exact List.mem_cons_self)
    rcases isGap_or_exists_opens text with isGap | ⟨first, rest, opens⟩
    · rw [words_of_isGap isGap] at oneWord
      cases oneWord
    · rw [opens.words_eq] at oneWord
      obtain ⟨rfl, noMore⟩ := List.cons.inj oneWord
      obtain ⟨gap, rfl, isGap, -, -⟩ := opens
      refine ⟨isWord, ?_⟩
      rw [trim, trimBy_append_right (words_eq_nil_iff.mp noMore), trimBy_append_left isGap]
      exact trim_of_isWord isWord
  · rintro ⟨isWord, rfl⟩
    rw [← words_trim]
    exact words_of_isWord isWord

/-- Words with a blank between every two of them are the words of a text. -/
theorem spaced_intercalate
    (areWords : ∀ word ∈ ws, IsWord word) :
    Spaced ([' '].intercalate ws) ws := by
  induction ws with
  | nil =>
      exact .gap (by rintro c ⟨⟩)
  | cons word others inductionHypothesis =>
      have isWord := areWords word List.mem_cons_self
      have othersSpaced :=
        inductionHypothesis fun word member => areWords word (List.mem_cons_of_mem _ member)
      apply words_eq_iff.mp
      cases others with
      | nil =>
          simpa using words_of_isWord isWord
      | cons next later =>
          have shape :
              [' '].intercalate (word :: next :: later) =
                word ++ ' ' :: [' '].intercalate (next :: later) := by
            simp [List.intercalate, List.intersperse]
          have blank : isBlank ' ' = true := by
            decide
          have endsWord : EndsWord (' ' :: [' '].intercalate (next :: later)) := by
            rintro c ⟨⟩
            exact blank
          rw [shape, words_word_append isWord endsWord, words_cons_of_isBlank blank,
            othersSpaced.words_eq]

theorem spaced_cons_intercalate
    (areWords : ∀ word ∈ ws, IsWord word) :
    Spaced (' ' :: [' '].intercalate ws) ws := by
  rw [← words_eq_iff, words_cons_of_isBlank (by decide)]
  exact (spaced_intercalate areWords).words_eq

end RefreshRate.Text
