import Mathlib.Data.List.Perm.Basic
import RefreshRate.Proofs.Config.Meaning
import RefreshRate.Proofs.Text.Numeral

namespace RefreshRate

/-!
# Configurations that are written down

A text writes a configuration if it has one line for each rule and one for each tunable,
in whatever order and however they are spaced, perhaps with blank lines and comments among
them.  What is read from such a text is the configuration that it writes.
-/

variable
  {line key rest cs : List Char}
  {content : ConfigLine}
  {contents : List ConfigLine}
  {config : Config}
  {name text : String}

namespace ConfigLine

/-- A line says something, or it is blank or a comment. -/
inductive IsLineOf : List Char → ConfigLine → Prop where
  | rule
      {indent key rest idle active : List Char}
      {more : List (List Char)}
      {rule : Rule}
      (indented : ∀ c ∈ indent, c = ' ')
      (endsKey : Text.EndsWord rest)
      (spaced : Text.Spaced rest (idle :: active :: more))
      (isIdle : Text.Decimal.IsNumeral idle rule.idle)
      (isActive : Text.Decimal.IsNumeral active rule.active) :
      IsLineOf (indent ++ key ++ rest) (.rule (String.ofList key) rule)
  | tunable
      {indent name rest number : List Char}
      {more : List (List Char)}
      {value : Int}
      (indented : ∀ c ∈ indent, c = ' ')
      (endsName : Text.EndsWord rest)
      (spaced : Text.Spaced rest (number :: more))
      (isNumber : Text.Decimal.IsNumeral number value) :
      IsLineOf (indent ++ '/' :: name ++ rest) (.tunable (String.ofList name) value)
  | blank
      {gap : List Char}
      (isGap : Text.IsGap gap) :
      IsLineOf gap .blank
  | comment
      {indent remark : List Char}
      (indented : ∀ c ∈ indent, c = ' ') :
      IsLineOf (indent ++ '#' :: remark) .blank

/-- A key that can be written for a rule: a line that starts with it is no comment. -/
structure IsRuleKey (key : String) : Prop where
  isWord : Text.IsWord key.toList
  notComment : '#' ∉ key.toList.head?
  notTunable : '/' ∉ key.toList.head?

/-- What can be written on a line such that it is read from there. -/
def IsWritable : ConfigLine → Prop
  | .blank =>
      True
  | .tunable name value =>
      Text.IsWord name.toList ∧
        -9223372036854775808 ≤ value ∧ value < 9223372036854775808
  | .rule key given =>
      IsRuleKey key ∧
        (-2147483648 ≤ given.idle ∧ given.idle < 2147483648) ∧
          -2147483648 ≤ given.active ∧ given.active < 2147483648

theorem mem_margin_of_indented
    {indent : List Char}
    (indented : ∀ c ∈ indent, c = ' ') :
    ∀ c ∈ indent, c ∈ [' ', '\r', '\n'] := by
  intro c member
  rw [indented c member]
  exact List.mem_cons_self

/-- A key starts a rule: it begins with no blank, and with none of the other two marks. -/
theorem IsRuleKey.isOther
    {first : Char}
    {others : List Char}
    (isRuleKey : IsRuleKey (String.ofList (first :: others))) :
    first ∉ [' ', '\r', '\n', '#', '/'] := by
  obtain ⟨isWord, notComment, notTunable⟩ := isRuleKey
  rw [String.toList_ofList] at isWord notComment notTunable
  have notBlank := isWord.2 first List.mem_cons_self
  refine isOther_iff.mpr ⟨?_, ?_, ?_⟩
  · intro isMargin
    cases (isBlank_of_isMargin first (isMargin_iff.mpr isMargin)).symm.trans notBlank
  · rintro rfl
    exact notComment rfl
  · rintro rfl
    exact notTunable rfl

/-- A line of blanks is blank, or it is refused for a blank that is no margin. -/
theorem reads_of_isGap
    (isGap : Text.IsGap line) :
    Reads line (.ok .blank) ∨ Reads line (.error .brokenRule) := by
  obtain ⟨outcome, reads⟩ := exists_reads line
  have notBehind {margin rest : List Char} {first : Char} (notBlank : Text.isBlank first = false) :
      line ≠ margin ++ first :: rest := by
    rintro rfl
    cases (isGap first (by simp)).symm.trans notBlank
  have noWords {margin rest word : List Char} {first : Char} {ws : List (List Char)}
      (spaced : Text.Spaced (first :: rest) (word :: ws)) :
      line ≠ margin ++ first :: rest := by
    rintro rfl
    have isGapBehind : Text.IsGap (first :: rest) :=
      fun c member => isGap c (List.mem_append_right margin member)
    cases (Text.words_of_isGap isGapBehind).symm.trans spaced.words_eq
  generalize lineIs : line = text at reads
  cases reads with
  | blank margins =>
      exact .inl (.blank margins)
  | comment margins =>
      exact .inl (.comment margins)
  | tunable | tunableWithoutValue | tunableWithoutNumber =>
      exact absurd lineIs (notBehind (by decide))
  | rule margins isOther spaced | ruleWithoutNumbers margins isOther spaced =>
      exact absurd lineIs (noWords spaced)
  | ruleWithoutRates margins isOther spaced tooFew =>
      exact .inr (.ruleWithoutRates margins isOther spaced tooFew)

/-- A line is read as what it says, or as nothing if it says nothing. -/
theorem IsLineOf.content?_eq
    (isLine : IsLineOf line content)
    (isWritable : content.IsWritable) :
    content? line = some content ∨ content = .blank ∧ content? line = none := by
  cases isLine with
  | @rule indent key rest idle active more rule indented endsKey spaced isIdle isActive =>
      obtain ⟨isRuleKey, idleFits, activeFits⟩ := isWritable
      have isWord : Text.IsWord key := by
        have isWord := isRuleKey.isWord
        rwa [String.toList_ofList] at isWord
      have keySpaced : Text.Spaced (key ++ rest) (key :: idle :: active :: more) :=
        @Text.Spaced.word [] key rest _ (by rintro c ⟨⟩) isWord endsKey spaced
      obtain ⟨first, others, rfl⟩ := List.exists_cons_of_ne_nil isWord.1
      have reads :=
        Reads.rule (mem_margin_of_indented indented) isRuleKey.isOther keySpaced ⟨isIdle, idleFits⟩
          ⟨isActive, activeFits⟩
      left
      rw [List.append_assoc]
      exact content?_eq_some_iff.mpr reads
  | @tunable indent name rest number more value indented endsName spaced isNumber =>
      simp only [IsWritable, String.toList_ofList] at isWritable
      obtain ⟨isWord, valueFits⟩ := isWritable
      have nameSpaced : Text.Spaced (name ++ rest) (name :: number :: more) :=
        @Text.Spaced.word [] name rest _ (by rintro c ⟨⟩) isWord endsName spaced
      have reads :=
        Reads.tunable (mem_margin_of_indented indented) nameSpaced ⟨isNumber, valueFits⟩
      left
      rw [List.append_assoc]
      exact content?_eq_some_iff.mpr reads
  | blank isGap =>
      rcases reads_of_isGap isGap with reads | refused
      · exact .inl (content?_eq_some_iff.mpr reads)
      · exact .inr ⟨rfl, refused.content?_eq_none⟩
  | comment indented =>
      exact .inl (content?_eq_some_iff.mpr (.comment (mem_margin_of_indented indented)))

/-- A plain line for what is to be written. -/
def toLine : ConfigLine → List Char
  | .blank =>
      []
  | .tunable name value =>
      '/' :: name.toList ++ ' ' :: [' '].intercalate [Text.Decimal.chars value]
  | .rule key given =>
      key.toList ++
        ' ' :: [' '].intercalate [Text.Decimal.chars given.idle, Text.Decimal.chars given.active]

theorem isWord_chars (value : Int) : Text.IsWord (Text.Decimal.chars value) :=
  (Text.Decimal.isNumeral_chars value).isWord

theorem endsWord_space (rest : List Char) : Text.EndsWord (' ' :: rest) := by
  rintro c ⟨⟩
  decide

theorem isLineOf_toLine (content : ConfigLine) : IsLineOf content.toLine content := by
  have noIndent : ∀ c ∈ ([] : List Char), c = ' ' := by
    rintro c ⟨⟩
  cases content with
  | blank =>
      exact .blank (by rintro c ⟨⟩)
  | tunable name value =>
      have spaced :
          Text.Spaced (' ' :: [' '].intercalate [Text.Decimal.chars value])
            [Text.Decimal.chars value] :=
        Text.spaced_cons_intercalate (by simp [isWord_chars])
      have isLine :=
        @IsLineOf.tunable [] name.toList _ _ _ value noIndent (endsWord_space _) spaced
          (Text.Decimal.isNumeral_chars value)
      rwa [String.ofList_toList] at isLine
  | rule key given =>
      have spaced :
          Text.Spaced
            (' ' :: [' '].intercalate
              [Text.Decimal.chars given.idle, Text.Decimal.chars given.active])
            [Text.Decimal.chars given.idle, Text.Decimal.chars given.active] :=
        Text.spaced_cons_intercalate (by simp [isWord_chars])
      have isLine :=
        @IsLineOf.rule [] key.toList _ _ _ _ given noIndent (endsWord_space _) spaced
          (Text.Decimal.isNumeral_chars given.idle) (Text.Decimal.isNumeral_chars given.active)
      rwa [String.ofList_toList] at isLine

theorem noFeed_of_isWord
    {word : List Char}
    (isWord : Text.IsWord word) :
    '\n' ∉ word := by
  intro member
  have notBlank := isWord.2 '\n' member
  cases notBlank

theorem noFeed_toLine (isWritable : content.IsWritable) : '\n' ∉ content.toLine := by
  have noFeedInNumber (value : Int) : '\n' ∉ Text.Decimal.chars value :=
    noFeed_of_isWord (isWord_chars value)
  cases content with
  | blank =>
      exact List.not_mem_nil
  | tunable name value =>
      have noFeedInName := noFeed_of_isWord isWritable.1
      simp [toLine, noFeedInName, noFeedInNumber]
  | rule key given =>
      have noFeedInKey := noFeed_of_isWord isWritable.1.isWord
      simp [toLine, List.intercalate, List.intersperse, noFeedInKey, noFeedInNumber]

end ConfigLine

/-- A text is made of lines, each with a line end; the last one may lack it. -/
inductive IsWritten : List Char → List ConfigLine → Prop where
  | nil :
      IsWritten [] []
  | last
      {line : List Char}
      {content : ConfigLine}
      (isLine : ConfigLine.IsLineOf line content)
      (noFeed : '\n' ∉ line) :
      IsWritten line [content]
  | feed
      {line rest : List Char}
      {content : ConfigLine}
      {contents : List ConfigLine}
      (isLine : ConfigLine.IsLineOf line content)
      (noFeed : '\n' ∉ line)
      (written : IsWritten rest contents) :
      IsWritten (line ++ '\n' :: rest) (content :: contents)
  | returnFeed
      {line rest : List Char}
      {content : ConfigLine}
      {contents : List ConfigLine}
      (isLine : ConfigLine.IsLineOf line content)
      (noFeed : '\n' ∉ line)
      (written : IsWritten rest contents) :
      IsWritten (line ++ '\r' :: '\n' :: rest) (content :: contents)

/-- Whatever can be written is written by plain lines. -/
theorem isWritten_toLine
    (areWritable : ∀ content ∈ contents, content.IsWritable) :
    IsWritten (contents.flatMap fun content => content.toLine ++ ['\n']) contents := by
  induction contents with
  | nil =>
      exact .nil
  | cons content contents inductionHypothesis =>
      have noFeed := ConfigLine.noFeed_toLine (areWritable content List.mem_cons_self)
      have written :=
        inductionHypothesis fun later member => areWritable later (List.mem_cons_of_mem _ member)
      rw [List.flatMap_cons, List.append_assoc, List.singleton_append]
      exact .feed content.isLineOf_toLine noFeed written

section Said

variable
  {Said : Type}
  {says? : ConfigLine → Option Said}
  (blankSaysNothing : says? .blank = none)

include blankSaysNothing

theorem filterMap_content?
    (isLine : ConfigLine.IsLineOf line content)
    (isWritable : content.IsWritable) :
    (ConfigLine.content? line).toList.filterMap says? = [content].filterMap says? := by
  rcases isLine.content?_eq isWritable with read | ⟨rfl, notRead⟩
  · rw [read]
    rfl
  · rw [notRead, List.filterMap_cons_none blankSaysNothing]
    rfl

/-- What the lines of a text say is what was written on them. -/
theorem IsWritten.filterMap_contentsOf
    (written : IsWritten cs contents)
    (areWritable : ∀ content ∈ contents, content.IsWritable) :
    (ConfigLine.contentsOf ((cs.splitOn '\n').map Text.dropReturn)).filterMap says? =
      contents.filterMap says? := by
  have lineSays
      {line : List Char}
      {content : ConfigLine}
      (others : List (List Char))
      (isLine : ConfigLine.IsLineOf line content)
      (isWritable : content.IsWritable) :
      (ConfigLine.contentsOf (Text.dropReturn line :: others)).filterMap says? =
        [content].filterMap says? ++ (ConfigLine.contentsOf others).filterMap says? := by
    have sameContent : ConfigLine.content? (Text.dropReturn line) = ConfigLine.content? line :=
      congrArg Except.toOption (ConfigLine.ofChars_dropReturn line)
    rw [ConfigLine.contentsOf_cons, sameContent, List.filterMap_append,
      filterMap_content? blankSaysNothing isLine isWritable]
  induction written with
  | nil =>
      have onlyBlank :
          ConfigLine.contentsOf (([].splitOn '\n').map Text.dropReturn) = [.blank] :=
        rfl
      rw [onlyBlank, List.filterMap_cons_none blankSaysNothing]
  | last isLine noFeed =>
      rw [List.splitOn_eq_singleton noFeed, List.map_singleton,
        lineSays [] isLine (areWritable _ List.mem_cons_self)]
      exact List.append_nil _
  | @feed line rest content contents isLine noFeed written inductionHypothesis =>
      rw [List.splitOn_append_cons_self_of_not_mem noFeed, List.map_cons,
        lineSays _ isLine (areWritable _ List.mem_cons_self),
        inductionHypothesis fun later member => areWritable later (List.mem_cons_of_mem _ member),
        ← List.filterMap_append, List.singleton_append]
  | @returnFeed line rest content contents isLine noFeed written inductionHypothesis =>
      have noFeedBefore : '\n' ∉ line ++ ['\r'] := by
        simp [noFeed]
      have pieces := List.splitOn_append_cons_self_of_not_mem noFeedBefore rest
      rw [List.append_assoc, List.singleton_append] at pieces
      have sameLine : Text.dropReturn (line ++ ['\r']) = line := by
        simp [Text.dropReturn]
      rw [pieces, List.map_cons, sameLine, ConfigLine.contentsOf_cons, List.filterMap_append,
        filterMap_content? blankSaysNothing isLine (areWritable _ List.mem_cons_self),
        inductionHypothesis fun later member => areWritable later (List.mem_cons_of_mem _ member),
        ← List.filterMap_append, List.singleton_append]

theorem filterMap_filter_ne_blank (contents : List ConfigLine) :
    (contents.filter (· ≠ .blank)).filterMap says? = contents.filterMap says? := by
  rw [List.filterMap_filter]
  refine List.filterMap_congr fun content _ => ?_
  by_cases isBlank : content = .blank
  · simp [isBlank, blankSaysNothing]
  · simp [isBlank]

end Said

theorem eq_toList_of_perm
    {Value : Type}
    {values : List Value}
    {value? : Option Value}
    (perm : values.Perm value?.toList) :
    values = value?.toList := by
  cases value? with
  | none =>
      exact List.perm_nil.mp perm
  | some value =>
      exact List.perm_singleton.mp perm

namespace PackageRules

/-- In an ascending list a name has at most one rule, which is the one that is looked up. -/
theorem filterMap_entries_eq_lookupIn?
    {entries : List (String × Rule)}
    (ascending : entries.Pairwise fun earlier later => earlier.1 < later.1)
    (name : String) :
    (entries.filterMap fun entry => if entry.1 = name then some entry.2 else none) =
      (lookupIn? name entries).toList := by
  induction ascending with
  | nil =>
      rfl
  | @cons head rest headLeast restAscending inductionHypothesis =>
      obtain ⟨other, rule⟩ := head
      rw [List.filterMap_cons, inductionHypothesis]
      by_cases same : other = name
      · subst same
        have notAgain : lookupIn? other rest = none := by
          rw [Option.eq_none_iff_forall_ne_some]
          intro again found
          exact String.lt_irrefl other (headLeast (other, again) (mem_of_lookupIn?_eq_some found))
        simp [lookupIn?, notAgain]
      · simp [lookupIn?, same]

end PackageRules

namespace Config

/-- What the lines say that write a configuration, in one of their orders. -/
def toWrite
    (config : Config)
    (backdoor : Int) :
    List ConfigLine :=
  config.rules.entries.map (fun entry => .rule entry.1 entry.2) ++
    [.tunable "useSfBackdoor" backdoor,
      .tunable "touchSlackMs" config.tunables.touchSlack,
      .tunable "gestureSlackMs" config.tunables.gestureSlack]

/-- A text writes a configuration on its lines, and perhaps blank lines and comments. -/
def IsTextOf
    (config : Config)
    (text : String) :
    Prop :=
  ∃ contents backdoor,
    IsWritten text.toList contents ∧
      (contents.filter (· ≠ .blank)).Perm (config.toWrite backdoor) ∧
        (config.tunables.mode = .indexed ↔ backdoor ≠ 0) ∧
          -9223372036854775808 ≤ backdoor ∧ backdoor < 9223372036854775808

/-- A name that can be written for a package. -/
structure IsPackageName (name : String) : Prop extends ConfigLine.IsRuleKey name where
  notUniversal : name ≠ "*"
  notOffscreen : name ≠ "-"

/-- A configuration that can be written down. -/
structure IsExpressible (config : Config) : Prop where
  accepts : ∀ entry ∈ config.rules.entries, config.tunables.mode.accepts entry.2 = true
  fits :
    ∀ entry ∈ config.rules.entries,
      (-2147483648 ≤ entry.2.idle ∧ entry.2.idle < 2147483648) ∧
        -2147483648 ≤ entry.2.active ∧ entry.2.active < 2147483648
  packageNames : ∀ entry ∈ config.rules.packages.entries, IsPackageName entry.1
  touchSlack : 100 ≤ config.tunables.touchSlack ∧ config.tunables.touchSlack < 9223372036854775808
  gestureSlack :
    100 ≤ config.tunables.gestureSlack ∧ config.tunables.gestureSlack < 9223372036854775808

theorem mode_of_iff
    {mode : SwitchMode}
    {backdoor : Int}
    (isIndexed : mode = .indexed ↔ backdoor ≠ 0) :
    ConfigMeaning.mode (some backdoor) = mode := by
  rw [ConfigMeaning.mode]
  cases mode with
  | literal =>
      have isZero : backdoor = 0 := by
        simpa using isIndexed
      rw [if_pos isZero]
  | indexed =>
      rw [if_neg (isIndexed.mp rfl)]

/-- A value that stands for a mode. -/
def backdoorOf : SwitchMode → Int
  | .literal => 0
  | .indexed => 1

theorem backdoorOf_spec (mode : SwitchMode) :
    (mode = .indexed ↔ backdoorOf mode ≠ 0) ∧
      -9223372036854775808 ≤ backdoorOf mode ∧ backdoorOf mode < 9223372036854775808 := by
  cases mode with
  | literal | indexed =>
      simp [backdoorOf]

theorem slack_of_le
    {slack : Nat}
    (isLong : 100 ≤ slack) :
    ConfigMeaning.slack (some slack) = slack := by
  rw [ConfigMeaning.slack]
  omega

section Expressible

variable
  {backdoor : Int}
  (expressible : config.IsExpressible)

include expressible

/-- The special keys are no names of packages. -/
theorem IsExpressible.get?_special :
    config.rules.packages.get? "*" = none ∧ config.rules.packages.get? "-" = none := by
  constructor
  · rw [Option.eq_none_iff_forall_ne_some]
    intro rule found
    exact (expressible.packageNames _ (PackageRules.get?_eq_some_iff.mp found)).notUniversal rfl
  · rw [Option.eq_none_iff_forall_ne_some]
    intro rule found
    exact (expressible.packageNames _ (PackageRules.get?_eq_some_iff.mp found)).notOffscreen rfl

/-- Each line that writes a configuration can be read. -/
theorem IsExpressible.isWritable_of_mem_toWrite
    (fits : -9223372036854775808 ≤ backdoor ∧ backdoor < 9223372036854775808)
    (member : content ∈ config.toWrite backdoor) :
    content.IsWritable := by
  rcases List.mem_append.mp member with isRule | isTunable
  · obtain ⟨entry, isEntry, rfl⟩ := List.mem_map.mp isRule
    refine ⟨?_, expressible.fits entry isEntry⟩
    rcases List.mem_cons.mp isEntry with rfl | afterOffscreen
    · exact (⟨by decide, by decide, by decide⟩ : ConfigLine.IsRuleKey "-")
    · rcases List.mem_cons.mp afterOffscreen with rfl | isPackage
      · exact (⟨by decide, by decide, by decide⟩ : ConfigLine.IsRuleKey "*")
      · exact (expressible.packageNames entry isPackage).toIsRuleKey
  · have touchSlack := expressible.touchSlack
    have gestureSlack := expressible.gestureSlack
    simp only [List.mem_cons, List.not_mem_nil, or_false] at isTunable
    rcases isTunable with rfl | rfl | rfl
    · exact ⟨by decide, fits⟩
    · exact ⟨by decide, by omega, by omega⟩
    · exact ⟨by decide, by omega, by omega⟩

theorem IsExpressible.rulesOf_toWrite
    (key : String) :
    ConfigMeaning.rulesOf key (config.toWrite backdoor) =
      (if key = "-" then
          some config.rules.offscreen
        else if key = "*" then
          some config.rules.universal
        else
          config.rules.packages.get? key).toList := by
  have ofPackages :=
    PackageRules.filterMap_entries_eq_lookupIn? config.rules.packages.ascending key
  have onlyRules :
      ConfigMeaning.rulesOf key (config.toWrite backdoor) =
        config.rules.entries.filterMap
          fun entry => if entry.1 = key then some entry.2 else none := by
    rw [ConfigMeaning.rulesOf, toWrite, List.filterMap_append, List.filterMap_map]
    exact List.append_nil _
  rw [onlyRules, RuleTable.entries, List.filterMap_cons, List.filterMap_cons, ofPackages]
  obtain ⟨universalIsNone, offscreenIsNone⟩ := expressible.get?_special
  by_cases isOffscreen : key = "-"
  · subst isOffscreen
    rw [PackageRules.get?] at offscreenIsNone
    rw [offscreenIsNone]
    rfl
  · by_cases isUniversal : key = "*"
    · subst isUniversal
      rw [PackageRules.get?] at universalIsNone
      rw [universalIsNone]
      rfl
    · simp only [Rule.offscreenKey, Rule.universalKey, Ne.symm isOffscreen, Ne.symm isUniversal,
        isOffscreen, isUniversal, if_false]
      rfl

omit expressible in
theorem valuesOf_toWrite :
    ConfigMeaning.valuesOf "useSfBackdoor" (config.toWrite backdoor) = [backdoor] ∧
      ConfigMeaning.valuesOf "touchSlackMs" (config.toWrite backdoor) =
          [(config.tunables.touchSlack : Int)] ∧
        ConfigMeaning.valuesOf "gestureSlackMs" (config.toWrite backdoor) =
          [(config.tunables.gestureSlack : Int)] := by
  have noValue (name : String) :
      (config.rules.entries.map fun entry => ConfigLine.rule entry.1 entry.2).filterMap
          (ConfigLine.value? name) =
        [] := by
    rw [List.filterMap_map]
    exact List.filterMap_eq_nil_iff.mpr fun entry _ => rfl
  simp only [ConfigMeaning.valuesOf, toWrite, List.filterMap_append, noValue, List.nil_append]
  exact ⟨rfl, rfl, rfl⟩

/-- What is said once by the lines that write a configuration is said once by the text. -/
theorem IsExpressible.filterMap_contentsOf
    {Said : Type}
    {says? : ConfigLine → Option Said}
    {said? : Option Said}
    (blankSaysNothing : says? .blank = none)
    (written : IsWritten text.toList contents)
    (perm : (contents.filter (· ≠ .blank)).Perm (config.toWrite backdoor))
    (fits : -9223372036854775808 ≤ backdoor ∧ backdoor < 9223372036854775808)
    (saidOnce : (config.toWrite backdoor).filterMap says? = said?.toList) :
    (ConfigLine.contentsOf (linesOf text)).filterMap says? = said?.toList := by
  have areWritable : ∀ content ∈ contents, content.IsWritable := by
    intro content member
    by_cases isBlank : content = .blank
    · subst isBlank
      trivial
    · have isKept : content ∈ contents.filter (· ≠ .blank) :=
        List.mem_filter.mpr ⟨member, decide_eq_true isBlank⟩
      exact expressible.isWritable_of_mem_toWrite fits (perm.mem_iff.mp isKept)
  rw [linesOf, written.filterMap_contentsOf blankSaysNothing areWritable,
    ← filterMap_filter_ne_blank blankSaysNothing]
  apply eq_toList_of_perm
  rw [← saidOnce]
  exact perm.filterMap says?

/-- What the text means is the configuration that it writes. -/
theorem IsExpressible.draftOfText_eq
    (isText : config.IsTextOf text) :
    draftOfText text =
      { tunables := config.tunables
        universal? := some config.rules.universal
        offscreen? := some config.rules.offscreen
        packages := config.rules.packages } := by
  obtain ⟨contents, backdoor, written, perm, isIndexed, fits⟩ := isText
  have rules (key : String) :
      ConfigMeaning.rulesOf key (ConfigLine.contentsOf (linesOf text)) =
        (if key = "-" then
            some config.rules.offscreen
          else if key = "*" then
            some config.rules.universal
          else
            config.rules.packages.get? key).toList :=
    expressible.filterMap_contentsOf rfl written perm fits (expressible.rulesOf_toWrite key)
  have values
      {name : String}
      {value : Int}
      (isValue : ConfigMeaning.valuesOf name (config.toWrite backdoor) = (some value).toList) :
      ConfigMeaning.valuesOf name (ConfigLine.contentsOf (linesOf text)) = (some value).toList :=
    expressible.filterMap_contentsOf rfl written perm fits isValue
  obtain ⟨modeValue, touchSlackValue, gestureSlackValue⟩ := @valuesOf_toWrite config backdoor
  have ⟨universalIsNone, offscreenIsNone⟩ := expressible.get?_special
  refine (means_draftOfText text).unique ⟨?_, ?_, ?_, ?_⟩
  · have universal := congrArg List.getLast? (rules "*")
    exact universal.symm
  · have offscreen := congrArg List.getLast? (rules "-")
    exact offscreen.symm
  · intro name
    simp only [meaning, ConfigMeaning.ofContents]
    split_ifs with isSpecial
    · rcases isSpecial with rfl | rfl
      · exact universalIsNone
      · exact offscreenIsNone
    · obtain ⟨notUniversal, notOffscreen⟩ := not_or.mp isSpecial
      rw [rules, if_neg notOffscreen, if_neg notUniversal, Option.head?_toList]
  · simp only [meaning, ConfigMeaning.ofContents, values modeValue, values touchSlackValue,
      values gestureSlackValue, Option.toList_some, List.getLast?_singleton]
    rw [mode_of_iff isIndexed, slack_of_le expressible.touchSlack.1,
      slack_of_le expressible.gestureSlack.1]

/-- The mode accepts the rules, so the draft becomes a configuration. -/
theorem IsExpressible.finish_eq :
    ConfigDraft.finish
        { tunables := config.tunables
          universal? := some config.rules.universal
          offscreen? := some config.rules.offscreen
          packages := config.rules.packages } =
      .ok config := by
  have noneRefused : config.rules.firstRefused? config.tunables.mode = none := by
    rw [RuleTable.firstRefused?, List.find?_eq_none]
    intro entry member
    simp [expressible.accepts entry member]
  have built :
      RuleTable.build (some config.rules.universal) (some config.rules.offscreen)
          config.rules.packages config.tunables.mode =
        .ok config.rules := by
    rw [RuleTable.build, noneRefused]
  rw [ConfigDraft.finish, built]
  rfl

theorem IsExpressible.exists_isTextOf : ∃ text, config.IsTextOf text := by
  obtain ⟨isIndexed, fits⟩ := backdoorOf_spec config.tunables.mode
  let contents := config.toWrite (backdoorOf config.tunables.mode)
  have written :=
    isWritten_toLine fun content (member : content ∈ contents) =>
      expressible.isWritable_of_mem_toWrite fits member
  have noneBlank : contents.filter (· ≠ .blank) = contents := by
    apply List.filter_eq_self.mpr
    intro content member
    rcases List.mem_append.mp member with isRule | isTunable
    · obtain ⟨entry, -, rfl⟩ := List.mem_map.mp isRule
      rfl
    · simp only [List.mem_cons, List.not_mem_nil, or_false] at isTunable
      rcases isTunable with rfl | rfl | rfl
      all_goals rfl
  refine ⟨String.ofList (contents.flatMap fun content => content.toLine ++ ['\n']), ?_⟩
  refine ⟨contents, backdoorOf config.tunables.mode, ?_, ?_, isIndexed, fits⟩
  · rw [String.toList_ofList]
    exact written
  · rw [noneBlank]

end Expressible

/-- A text that writes a configuration is read as that configuration, and there is one. -/
theorem ofText_reads_written_config
    (expressible : config.IsExpressible) :
    (∃ text, config.IsTextOf text) ∧
      ∀ text, config.IsTextOf text → (ofText text).outcome = .ok config := by
  constructor
  · exact expressible.exists_isTextOf
  · intro text isText
    rw [outcome_ofText, expressible.draftOfText_eq isText, expressible.finish_eq]

/-- A configuration for a device whose display modes are chosen by their indices. -/
def indexedConfig : Config where
  rules :=
    { universal := ⟨0, 1⟩
      offscreen := .noOverride
      packages := ⟨[("a", ⟨2, 3⟩)], by simp⟩ }
  tunables := ⟨.indexed, 250, 100⟩

/-- The same, with an unusual order and unusual blanks. -/
def indexedText : String :=
  "/useSfBackdoor -7\r\n  a +2\t003 # 4\n# b 5 6\n- -1 -1\n\t\n* 0 1\n/gestureSlackMs 100\n" ++
    "/touchSlackMs \r250 x\r\n"

theorem isExpressible_indexedConfig : indexedConfig.IsExpressible where
  accepts := by
    decide
  fits := by
    decide
  packageNames := by
    intro entry member
    obtain rfl := List.mem_singleton.mp member
    exact ⟨⟨by decide, by decide, by decide⟩, by decide, by decide⟩
  touchSlack := by
    decide
  gestureSlack := by
    decide

theorem isTextOf_indexedText : indexedConfig.IsTextOf indexedText := by
  have noIndent : ∀ c ∈ ([] : List Char), c = ' ' := by
    rintro c ⟨⟩
  have mode : ConfigLine.IsLineOf "/useSfBackdoor -7".toList (.tunable "useSfBackdoor" (-7)) :=
    @ConfigLine.IsLineOf.tunable [] "useSfBackdoor".toList " -7".toList "-7".toList [] (-7)
      noIndent (ConfigLine.endsWord_space _) (Text.words_eq_iff.mp rfl)
      (Text.Decimal.isNumeral_of_integer? rfl)
  have package : ConfigLine.IsLineOf "  a +2\t003 # 4".toList (.rule "a" ⟨2, 3⟩) :=
    @ConfigLine.IsLineOf.rule [' ', ' '] ['a'] " +2\t003 # 4".toList "+2".toList "003".toList
      ["#".toList, "4".toList] ⟨2, 3⟩
      (by simp) (ConfigLine.endsWord_space _) (Text.words_eq_iff.mp rfl)
      (Text.Decimal.isNumeral_of_integer? rfl) (Text.Decimal.isNumeral_of_integer? rfl)
  have remark : ConfigLine.IsLineOf "# b 5 6".toList .blank :=
    @ConfigLine.IsLineOf.comment [] " b 5 6".toList noIndent
  have offscreen : ConfigLine.IsLineOf "- -1 -1".toList (.rule "-" .noOverride) :=
    @ConfigLine.IsLineOf.rule [] ['-'] " -1 -1".toList "-1".toList "-1".toList [] .noOverride
      noIndent (ConfigLine.endsWord_space _) (Text.words_eq_iff.mp rfl)
      (Text.Decimal.isNumeral_of_integer? rfl) (Text.Decimal.isNumeral_of_integer? rfl)
  have gap : ConfigLine.IsLineOf "\t".toList .blank :=
    .blank (by decide)
  have universal : ConfigLine.IsLineOf "* 0 1".toList (.rule "*" ⟨0, 1⟩) :=
    @ConfigLine.IsLineOf.rule [] ['*'] " 0 1".toList "0".toList "1".toList [] ⟨0, 1⟩
      noIndent (ConfigLine.endsWord_space _) (Text.words_eq_iff.mp rfl)
      (Text.Decimal.isNumeral_of_integer? rfl) (Text.Decimal.isNumeral_of_integer? rfl)
  have gestureSlack :
      ConfigLine.IsLineOf "/gestureSlackMs 100".toList (.tunable "gestureSlackMs" 100) :=
    @ConfigLine.IsLineOf.tunable [] "gestureSlackMs".toList " 100".toList "100".toList [] 100
      noIndent (ConfigLine.endsWord_space _) (Text.words_eq_iff.mp rfl)
      (Text.Decimal.isNumeral_of_integer? rfl)
  have touchSlack :
      ConfigLine.IsLineOf "/touchSlackMs \r250 x".toList (.tunable "touchSlackMs" 250) :=
    @ConfigLine.IsLineOf.tunable [] "touchSlackMs".toList " \r250 x".toList "250".toList
      ["x".toList] 250
      noIndent (ConfigLine.endsWord_space _) (Text.words_eq_iff.mp rfl)
      (Text.Decimal.isNumeral_of_integer? rfl)
  have written :
      IsWritten indexedText.toList
        [.tunable "useSfBackdoor" (-7), .rule "a" ⟨2, 3⟩, .blank, .rule "-" .noOverride, .blank,
          .rule "*" ⟨0, 1⟩, .tunable "gestureSlackMs" 100, .tunable "touchSlackMs" 250] :=
    .returnFeed mode (by decide) <|
    .feed package (by decide) <|
    .feed remark (by decide) <|
    .feed offscreen (by decide) <|
    .feed gap (by decide) <|
    .feed universal (by decide) <|
    .feed gestureSlack (by decide) <|
    .returnFeed touchSlack (by decide) .nil
  refine ⟨_, -7, written, ?_, by decide, by decide, by decide⟩
  decide

/-- Neither the order of the lines nor what stands behind their words makes a difference. -/
theorem ofText_indexedText :
    indexedConfig.IsExpressible ∧
      indexedConfig.IsTextOf indexedText ∧ (ofText indexedText).outcome = .ok indexedConfig :=
  ⟨isExpressible_indexedConfig, isTextOf_indexedText,
    (ofText_reads_written_config isExpressible_indexedConfig).2 indexedText isTextOf_indexedText⟩

end Config

end RefreshRate
