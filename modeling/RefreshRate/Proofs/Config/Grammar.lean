import Mathlib.Data.List.TakeWhile
import RefreshRate.Config.Line
import RefreshRate.Proofs.Text.Numeral

namespace RefreshRate.ConfigLine

/-!
# The grammar of configuration lines

What a line says is told by its characters, without a reader: margins are spaces, carriage
returns and line feeds, the first other character tells what kind of line it is, and then
words count, however they are spaced.  Every line says one thing, or it has one fault, and a
reader finds just that.
-/

variable
  {line margin rest : List Char}
  {outcome other : Except SyntaxError ConfigLine}

/-- A word is a numeral of an integer with 32 bits. -/
def IsRate (word : List Char) (value : Int) : Prop :=
  Text.Decimal.IsNumeral word value ∧ -2147483648 ≤ value ∧ value < 2147483648

/-- A word is a numeral of an integer with 64 bits. -/
def IsSetting (word : List Char) (value : Int) : Prop :=
  Text.Decimal.IsNumeral word value ∧
    -9223372036854775808 ≤ value ∧ value < 9223372036854775808

/-- What a line says, or what its fault is. -/
inductive Reads : List Char → Except SyntaxError ConfigLine → Prop where
  | blank
      {line : List Char}
      (margins : ∀ c ∈ line, c ∈ [' ', '\r', '\n']) :
      Reads line (.ok .blank)
  | comment
      {margin remark : List Char}
      (margins : ∀ c ∈ margin, c ∈ [' ', '\r', '\n']) :
      Reads (margin ++ '#' :: remark) (.ok .blank)
  | tunable
      {margin rest name number : List Char}
      {more : List (List Char)}
      {value : Int}
      (margins : ∀ c ∈ margin, c ∈ [' ', '\r', '\n'])
      (spaced : Text.Spaced rest (name :: number :: more))
      (isSetting : IsSetting number value) :
      Reads (margin ++ '/' :: rest) (.ok (.tunable (String.ofList name) value))
  /-- A tunable lacks its value, or even its name. -/
  | tunableWithoutValue
      {margin rest : List Char}
      {ws : List (List Char)}
      (margins : ∀ c ∈ margin, c ∈ [' ', '\r', '\n'])
      (spaced : Text.Spaced rest ws)
      (tooFew : ws.length < 2) :
      Reads (margin ++ '/' :: rest) (.error .brokenTunable)
  | tunableWithoutNumber
      {margin rest name word : List Char}
      {more : List (List Char)}
      (margins : ∀ c ∈ margin, c ∈ [' ', '\r', '\n'])
      (spaced : Text.Spaced rest (name :: word :: more))
      (noSetting : ∀ value, ¬IsSetting word value) :
      Reads (margin ++ '/' :: rest)
        (.error (.tunableValue (String.ofList name) (String.ofList word)))
  | rule
      {margin rest key idle active : List Char}
      {first : Char}
      {more : List (List Char)}
      {rule : Rule}
      (margins : ∀ c ∈ margin, c ∈ [' ', '\r', '\n'])
      (isOther : first ∉ [' ', '\r', '\n', '#', '/'])
      (spaced : Text.Spaced (first :: rest) (key :: idle :: active :: more))
      (isIdle : IsRate idle rule.idle)
      (isActive : IsRate active rule.active) :
      Reads (margin ++ first :: rest) (.ok (.rule (String.ofList key) rule))
  /-- A rule lacks one of its rates, or both, or even its key. -/
  | ruleWithoutRates
      {margin rest : List Char}
      {first : Char}
      {ws : List (List Char)}
      (margins : ∀ c ∈ margin, c ∈ [' ', '\r', '\n'])
      (isOther : first ∉ [' ', '\r', '\n', '#', '/'])
      (spaced : Text.Spaced (first :: rest) ws)
      (tooFew : ws.length < 3) :
      Reads (margin ++ first :: rest) (.error .brokenRule)
  | ruleWithoutNumbers
      {margin rest key idle active : List Char}
      {first : Char}
      {more : List (List Char)}
      (margins : ∀ c ∈ margin, c ∈ [' ', '\r', '\n'])
      (isOther : first ∉ [' ', '\r', '\n', '#', '/'])
      (spaced : Text.Spaced (first :: rest) (key :: idle :: active :: more))
      (noRates : (∀ value, ¬IsRate idle value) ∨ ∀ value, ¬IsRate active value) :
      Reads (margin ++ first :: rest) (.error .brokenRule)

theorem isMargin_iff
    {c : Char} :
    isMargin c = true ↔ c ∈ [' ', '\r', '\n'] := by
  simp [isMargin, or_assoc]

theorem isOther_iff
    {first : Char} :
    first ∉ [' ', '\r', '\n', '#', '/'] ↔
      first ∉ [' ', '\r', '\n'] ∧ first ≠ '#' ∧ first ≠ '/' := by
  simp [and_assoc]

theorem isBlank_of_isMargin
    (c : Char)
    (margin : isMargin c = true) :
    Text.isBlank c = true := by
  simp only [isMargin, Bool.or_eq_true, decide_eq_true_eq] at margin
  rcases margin with (rfl | rfl) | rfl
  all_goals decide

theorem signed?_eq_some_iff_isRate
    {word : List Char}
    {value : Int} :
    Text.Decimal.signed? .bits32 word = some value ↔ IsRate word value :=
  Text.Decimal.signed?_eq_some_iff

theorem signed?_eq_some_iff_isSetting
    {word : List Char}
    {value : Int} :
    Text.Decimal.signed? .bits64 word = some value ↔ IsSetting word value :=
  Text.Decimal.signed?_eq_some_iff

/-- Behind its margin a line is trimmed only at its end. -/
theorem trimBy_append_cons
    {dropped : Char → Bool}
    {first : Char}
    (margins : ∀ c ∈ margin, dropped c = true)
    (isKept : dropped first = false)
    (rest : List Char) :
    Text.trimBy dropped (margin ++ first :: rest) = first :: rest.rdropWhile dropped := by
  rw [Text.trimBy_append_left margins]
  induction rest using List.reverseRecOn with
  | nil =>
      simp [Text.trimBy, isKept]
  | append_singleton rest last inductionHypothesis =>
      rw [List.rdropWhile_concat]
      split
      · rename_i isDropped
        rw [← List.cons_append, Text.trimBy_concat isDropped]
        exact inductionHypothesis
      · rename_i notDropped
        simp [Text.trimBy, isKept, notDropped]

/-- A margin at the end has no words. -/
theorem words_append_rdropWhile (start text : List Char) :
    Text.words (start ++ text.rdropWhile isMargin) = Text.words (start ++ text) := by
  have isGap : Text.IsGap (text.rtakeWhile isMargin) :=
    fun c member => isBlank_of_isMargin c (List.mem_rtakeWhile_imp member)
  have appended := Text.words_append_right isGap (start ++ text.rdropWhile isMargin)
  rw [List.append_assoc, List.rdropWhile_append_rtakeWhile] at appended
  exact appended.symm

theorem ofChars_of_blank
    (margins : ∀ c ∈ line, c ∈ [' ', '\r', '\n']) :
    ofChars line = .ok .blank := by
  have allDropped : line.dropWhile isMargin = [] :=
    List.dropWhile_eq_nil_iff.mpr fun c member => isMargin_iff.mpr (margins c member)
  rw [ofChars, Text.trimBy, allDropped]
  rfl

/-- Behind its margin a line is told by its first character. -/
theorem ofChars_append_cons
    {first : Char}
    (margins : ∀ c ∈ margin, c ∈ [' ', '\r', '\n'])
    (isKept : first ∉ [' ', '\r', '\n'])
    (rest : List Char) :
    ofChars (margin ++ first :: rest) = ofTrimmed (first :: rest.rdropWhile isMargin) := by
  have notMargin : isMargin first = false :=
    (Bool.not_eq_true _).mp (mt isMargin_iff.mp isKept)
  rw [ofChars,
    trimBy_append_cons (fun c member => isMargin_iff.mpr (margins c member)) notMargin]

theorem ofChars_of_comment
    (margins : ∀ c ∈ margin, c ∈ [' ', '\r', '\n'])
    (remark : List Char) :
    ofChars (margin ++ '#' :: remark) = .ok .blank := by
  rw [ofChars_append_cons margins (by decide)]
  rfl

theorem ofChars_of_slash
    (margins : ∀ c ∈ margin, c ∈ [' ', '\r', '\n'])
    (rest : List Char) :
    ofChars (margin ++ '/' :: rest) = ofTunableWords (Text.words rest) := by
  rw [ofChars_append_cons margins (by decide), ofTrimmed]
  exact congrArg ofTunableWords (words_append_rdropWhile [] rest)

theorem ofTrimmed_of_rule
    {first : Char}
    (isOther : first ∉ [' ', '\r', '\n', '#', '/'])
    (rest : List Char) :
    ofTrimmed (first :: rest) = ofRuleWords (Text.words (first :: rest)) := by
  unfold ofTrimmed
  split
  · rename_i isNil
    cases isNil
  · rename_i isComment
    cases isComment
    exact absurd rfl (isOther_iff.mp isOther).2.1
  · rename_i isTunable
    cases isTunable
    exact absurd rfl (isOther_iff.mp isOther).2.2
  · rfl

theorem ofChars_of_rule
    {first : Char}
    (margins : ∀ c ∈ margin, c ∈ [' ', '\r', '\n'])
    (isOther : first ∉ [' ', '\r', '\n', '#', '/'])
    (rest : List Char) :
    ofChars (margin ++ first :: rest) = ofRuleWords (Text.words (first :: rest)) := by
  rw [ofChars_append_cons margins (isOther_iff.mp isOther).1, ofTrimmed_of_rule isOther]
  exact congrArg ofRuleWords (words_append_rdropWhile [first] rest)

theorem ofTunableWords_of_short
    {ws : List (List Char)}
    (tooFew : ws.length < 2) :
    ofTunableWords ws = .error .brokenTunable := by
  match ws, tooFew with
  | [], _ =>
      rfl
  | [name], _ =>
      rfl

theorem ofRuleWords_of_short
    {ws : List (List Char)}
    (tooFew : ws.length < 3) :
    ofRuleWords ws = .error .brokenRule := by
  match ws, tooFew with
  | [], _ =>
      rfl
  | [key], _ =>
      rfl
  | [key, idle], _ =>
      rfl

theorem ofRuleWords_of_noRates
    {idle active : List Char}
    (noRates : (∀ value, ¬IsRate idle value) ∨ ∀ value, ¬IsRate active value)
    (key : List Char)
    (more : List (List Char)) :
    ofRuleWords (key :: idle :: active :: more) = .error .brokenRule := by
  rw [ofRuleWords]
  split
  · rename_i idleRead activeRead
    rcases noRates with noIdle | noActive
    · exact absurd (signed?_eq_some_iff_isRate.mp idleRead) (noIdle _)
    · exact absurd (signed?_eq_some_iff_isRate.mp activeRead) (noActive _)
  · rfl

/-- A reader finds what a line says, or its fault. -/
theorem Reads.ofChars_eq (reads : Reads line outcome) : ofChars line = outcome := by
  cases reads with
  | blank margins =>
      exact ofChars_of_blank margins
  | comment margins =>
      exact ofChars_of_comment margins _
  | tunable margins spaced isSetting =>
      rw [ofChars_of_slash margins, spaced.words_eq, ofTunableWords,
        signed?_eq_some_iff_isSetting.mpr isSetting]
  | tunableWithoutValue margins spaced tooFew =>
      rw [ofChars_of_slash margins, spaced.words_eq]
      exact ofTunableWords_of_short tooFew
  | @tunableWithoutNumber _ _ name word _ margins spaced noSetting =>
      have notRead : Text.Decimal.signed? .bits64 word = none :=
        Option.eq_none_iff_forall_ne_some.mpr fun value read =>
          noSetting value (signed?_eq_some_iff_isSetting.mp read)
      rw [ofChars_of_slash margins, spaced.words_eq, ofTunableWords, notRead]
  | rule margins isOther spaced isIdle isActive =>
      rw [ofChars_of_rule margins isOther, spaced.words_eq, ofRuleWords,
        signed?_eq_some_iff_isRate.mpr isIdle, signed?_eq_some_iff_isRate.mpr isActive]
  | ruleWithoutRates margins isOther spaced tooFew =>
      rw [ofChars_of_rule margins isOther, spaced.words_eq]
      exact ofRuleWords_of_short tooFew
  | ruleWithoutNumbers margins isOther spaced noRates =>
      rw [ofChars_of_rule margins isOther, spaced.words_eq]
      exact ofRuleWords_of_noRates noRates _ _

/-- Behind a slash there is a tunable, or it has a fault. -/
theorem exists_reads_of_slash
    (margins : ∀ c ∈ margin, c ∈ [' ', '\r', '\n'])
    (rest : List Char) :
    ∃ outcome, Reads (margin ++ '/' :: rest) outcome := by
  have spaced := Text.spaced_words rest
  match words : Text.words rest with
  | [] | [name] =>
      rw [words] at spaced
      exact ⟨_, .tunableWithoutValue margins spaced (by simp)⟩
  | name :: word :: more =>
      rw [words] at spaced
      by_cases someSetting : ∃ value, IsSetting word value
      · obtain ⟨value, isSetting⟩ := someSetting
        exact ⟨_, .tunable margins spaced isSetting⟩
      · exact ⟨_, .tunableWithoutNumber margins spaced (not_exists.mp someSetting)⟩

/-- Behind any other character there is a rule, or it has a fault. -/
theorem exists_reads_of_other
    {first : Char}
    (margins : ∀ c ∈ margin, c ∈ [' ', '\r', '\n'])
    (isOther : first ∉ [' ', '\r', '\n', '#', '/'])
    (rest : List Char) :
    ∃ outcome, Reads (margin ++ first :: rest) outcome := by
  have spaced := Text.spaced_words (first :: rest)
  match words : Text.words (first :: rest) with
  | [] | [key] | [key, idle] =>
      rw [words] at spaced
      exact ⟨_, .ruleWithoutRates margins isOther spaced (by simp)⟩
  | key :: idle :: active :: more =>
      rw [words] at spaced
      by_cases someIdle : ∃ value, IsRate idle value
      · by_cases someActive : ∃ value, IsRate active value
        · obtain ⟨idleValue, isIdle⟩ := someIdle
          obtain ⟨activeValue, isActive⟩ := someActive
          exact ⟨_, @Reads.rule _ _ _ _ _ _ _ ⟨idleValue, activeValue⟩ margins isOther spaced
            isIdle isActive⟩
        · exact ⟨_, .ruleWithoutNumbers margins isOther spaced (.inr (not_exists.mp someActive))⟩
      · exact ⟨_, .ruleWithoutNumbers margins isOther spaced (.inl (not_exists.mp someIdle))⟩

/-- Every line says something or has a fault. -/
theorem exists_reads (line : List Char) : ∃ outcome, Reads line outcome := by
  have margins : ∀ c ∈ line.takeWhile isMargin, c ∈ [' ', '\r', '\n'] :=
    fun c member => isMargin_iff.mp (List.mem_takeWhile_imp member)
  have shape : line.takeWhile isMargin ++ line.dropWhile isMargin = line :=
    List.takeWhile_append_dropWhile
  rw [← shape]
  cases behind : line.dropWhile isMargin with
  | nil =>
      rw [List.append_nil]
      exact ⟨_, .blank margins⟩
  | cons first rest =>
      have notMargin : first ∉ [' ', '\r', '\n'] := by
        have stops := List.head?_dropWhile_not isMargin line
        rw [behind] at stops
        exact isMargin_iff.not.mp (Bool.not_eq_true _ ▸ stops)
      by_cases isComment : first = '#'
      · subst isComment
        exact ⟨_, .comment margins⟩
      · by_cases isTunable : first = '/'
        · subst isTunable
          exact exists_reads_of_slash margins rest
        · have isOther := isOther_iff.mpr ⟨notMargin, isComment, isTunable⟩
          exact exists_reads_of_other margins isOther rest

/-- The grammar is what the reader reads. -/
theorem reads_iff : Reads line outcome ↔ ofChars line = outcome := by
  constructor
  · exact Reads.ofChars_eq
  · rintro rfl
    obtain ⟨found, reads⟩ := exists_reads line
    rwa [reads.ofChars_eq]

/-- No line says two things. -/
theorem Reads.unique
    (reads : Reads line outcome)
    (otherwise : Reads line other) :
    outcome = other :=
  reads.ofChars_eq.symm.trans otherwise.ofChars_eq

end RefreshRate.ConfigLine
