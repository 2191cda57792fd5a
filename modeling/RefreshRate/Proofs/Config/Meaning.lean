import Mathlib.Data.List.Induction
import RefreshRate.Proofs.Config.Accepted
import RefreshRate.Proofs.Config.Grammar

namespace RefreshRate

/-!
# What a configuration means

A reader goes through the lines one by one, with a draft in its hands.  What it ends with
can be told without the draft: of the rules for each special key the last one counts, of
the rules for each package the first one, and of the values for each tunable the last one,
wherever they stand among the other lines.
-/

namespace ConfigLine

/-- The rule that a line gives for a key. -/
def rule? (key : String) : ConfigLine → Option Rule
  | .rule other given =>
      if other = key then some given else none
  | .blank | .tunable .. =>
      none

/-- The value that a line gives for a tunable. -/
def value? (name : String) : ConfigLine → Option Int
  | .tunable other value =>
      if other = name then some value else none
  | .blank | .rule .. =>
      none

end ConfigLine

/-- The rules and the tunables that a configuration stands for. -/
structure ConfigMeaning where
  universal? : Option Rule
  offscreen? : Option Rule
  package? : String → Option Rule
  tunables : Tunables

namespace ConfigMeaning

variable {contents earlier later : List ConfigLine}

/-- The rules for a key, in the order of their lines. -/
def rulesOf
    (key : String)
    (contents : List ConfigLine) :
    List Rule :=
  contents.filterMap (ConfigLine.rule? key)

/-- The values for a tunable, in the order of their lines. -/
def valuesOf
    (name : String)
    (contents : List ConfigLine) :
    List Int :=
  contents.filterMap (ConfigLine.value? name)

/-- The mode that a value for it stands for; rates are used where there is none. -/
def mode : Option Int → SwitchMode
  | none =>
      .literal
  | some value =>
      if value = 0 then .literal else .indexed

/-- The slack time in milliseconds that a value for it stands for. -/
def slack : Option Int → Nat
  | none =>
      4000
  | some value =>
      (max 100 value).toNat

def ofContents (contents : List ConfigLine) : ConfigMeaning where
  universal? := (rulesOf "*" contents).getLast?
  offscreen? := (rulesOf "-" contents).getLast?
  package? name :=
    if name = "*" ∨ name = "-" then none else (rulesOf name contents).head?
  tunables :=
    { mode := mode (valuesOf "useSfBackdoor" contents).getLast?
      touchSlack := slack (valuesOf "touchSlackMs" contents).getLast?
      gestureSlack := slack (valuesOf "gestureSlackMs" contents).getLast? }

/-- The last that is said, when one more line is read. -/
theorem getLast?_filterMap_concat
    {Said : Type}
    (says? : ConfigLine → Option Said)
    (contents : List ConfigLine)
    (content : ConfigLine) :
    ((contents ++ [content]).filterMap says?).getLast? =
      (says? content).or (contents.filterMap says?).getLast? := by
  rw [List.filterMap_append, List.getLast?_append]
  cases said : says? content with
  | none =>
      rw [List.filterMap_cons_none said]
      rfl
  | some value =>
      rw [List.filterMap_cons_some said]
      rfl

/-- The first that is said, when one more line is read. -/
theorem head?_filterMap_concat
    {Said : Type}
    (says? : ConfigLine → Option Said)
    (contents : List ConfigLine)
    (content : ConfigLine) :
    ((contents ++ [content]).filterMap says?).head? =
      (contents.filterMap says?).head?.or (says? content) := by
  rw [List.filterMap_append, List.head?_append]
  cases said : says? content with
  | none =>
      rw [List.filterMap_cons_none said]
      rfl
  | some value =>
      rw [List.filterMap_cons_some said]
      rfl

theorem ofContents_concat_blank (contents : List ConfigLine) :
    ofContents (contents ++ [.blank]) = ofContents contents := by
  simp only [ofContents, rulesOf, valuesOf, getLast?_filterMap_concat, head?_filterMap_concat,
    ConfigLine.rule?, ConfigLine.value?, Option.none_or, Option.or_none]

/-- One more value counts if it is for a tunable. -/
theorem ofContents_concat_tunable
    (contents : List ConfigLine)
    (name : String)
    (value : Int) :
    ofContents (contents ++ [.tunable name value]) =
      { ofContents contents with
        tunables :=
          { mode :=
              if name = "useSfBackdoor" then
                mode (some value)
              else
                (ofContents contents).tunables.mode
            touchSlack :=
              if name = "touchSlackMs" then
                slack (some value)
              else
                (ofContents contents).tunables.touchSlack
            gestureSlack :=
              if name = "gestureSlackMs" then
                slack (some value)
              else
                (ofContents contents).tunables.gestureSlack } } := by
  simp only [ofContents, rulesOf, valuesOf, getLast?_filterMap_concat, head?_filterMap_concat,
    ConfigLine.rule?, ConfigLine.value?, Option.none_or, Option.or_none]
  congr 2
  all_goals
    split
    · rfl
    · rfl

/-- One more rule counts if it is for a special key, or the first one for its package. -/
theorem ofContents_concat_rule
    (contents : List ConfigLine)
    (key : String)
    (rule : Rule) :
    ofContents (contents ++ [.rule key rule]) =
      { ofContents contents with
        universal? :=
          if key = "*" then some rule else (ofContents contents).universal?
        offscreen? :=
          if key = "-" then some rule else (ofContents contents).offscreen?
        package? := fun name =>
          if key = name ∧ ¬(key = "*" ∨ key = "-") then
            ((ofContents contents).package? name).or (some rule)
          else
            (ofContents contents).package? name } := by
  simp only [ofContents, rulesOf, valuesOf, getLast?_filterMap_concat, head?_filterMap_concat,
    ConfigLine.rule?, ConfigLine.value?, Option.none_or]
  congr 1
  · split
    · rfl
    · rfl
  · split
    · rfl
    · rfl
  · funext name
    by_cases same : key = name
    · subst same
      by_cases isSpecial : key = "*" ∨ key = "-"
      · simp only [isSpecial, not_true, and_false, if_true, if_false]
      · simp only [isSpecial, not_false_eq_true, and_self, if_true, if_false]
    · simp only [same, false_and, if_false, Option.or_none]

/-- What gives no rule for a special key, no first rule and no value may be left out. -/
theorem ofContents_append_cons
    {content : ConfigLine}
    (noValue :
      ∀ name ∈ ["useSfBackdoor", "touchSlackMs", "gestureSlackMs"], content.value? name = none)
    (noSpecialRule : content.rule? "*" = none ∧ content.rule? "-" = none)
    (noFirstRule : ∀ name, content.rule? name = none ∨ rulesOf name earlier ≠ []) :
    ofContents (earlier ++ content :: later) = ofContents (earlier ++ later) := by
  have sameRules (key : String) (noRule : content.rule? key = none) :
      rulesOf key (earlier ++ content :: later) = rulesOf key (earlier ++ later) := by
    rw [rulesOf, rulesOf, List.filterMap_append, List.filterMap_append,
      List.filterMap_cons_none noRule]
  have sameValues (name : String) (isTunable : content.value? name = none) :
      valuesOf name (earlier ++ content :: later) = valuesOf name (earlier ++ later) := by
    rw [valuesOf, valuesOf, List.filterMap_append, List.filterMap_append,
      List.filterMap_cons_none isTunable]
  have sameFirst (name : String) :
      (rulesOf name (earlier ++ content :: later)).head? =
        (rulesOf name (earlier ++ later)).head? := by
    rcases noFirstRule name with noRule | hasFirst
    · rw [sameRules name noRule]
    · obtain ⟨first, rest, found⟩ := List.exists_cons_of_ne_nil hasFirst
      rw [rulesOf] at found
      rw [rulesOf, rulesOf, List.filterMap_append, List.filterMap_append, found]
      rfl
  have sameMode := sameValues "useSfBackdoor" (noValue "useSfBackdoor" (by simp))
  have sameTouchSlack := sameValues "touchSlackMs" (noValue "touchSlackMs" (by simp))
  have sameGestureSlack := sameValues "gestureSlackMs" (noValue "gestureSlackMs" (by simp))
  simp only [ofContents, sameFirst, sameRules "*" noSpecialRule.1, sameRules "-" noSpecialRule.2,
    sameMode, sameTouchSlack, sameGestureSlack]

end ConfigMeaning

namespace Tunables

/-- Whatever is set, each tunable has its last value. -/
theorem getD_set?
    (tunables : Tunables)
    (name : String)
    (value : Int) :
    (tunables.set? name value).getD tunables =
      { mode := if name = "useSfBackdoor" then ConfigMeaning.mode (some value) else tunables.mode
        touchSlack :=
          if name = "touchSlackMs" then ConfigMeaning.slack (some value) else tunables.touchSlack
        gestureSlack :=
          if name = "gestureSlackMs" then
            ConfigMeaning.slack (some value)
          else
            tunables.gestureSlack } := by
  have slackIs : slack value = ConfigMeaning.slack (some value) := by
    simp only [slack, ConfigMeaning.slack, minSlack]
    omega
  have modeIs : SwitchMode.ofBackdoor (value != 0) = ConfigMeaning.mode (some value) := by
    by_cases isZero : value = 0 <;> simp [SwitchMode.ofBackdoor, ConfigMeaning.mode, isZero]
  unfold set?
  split
  · rename_i isMode
    subst isMode
    simp [modeIs]
  · split
    · rename_i isTouchSlack
      subst isTouchSlack
      simp [slackIs]
    · split
      · rename_i isGestureSlack
        subst isGestureSlack
        simp [slackIs]
      · rfl

end Tunables

namespace ConfigDraft

variable
  {draft other : ConfigDraft}
  {meaning : ConfigMeaning}
  {contents : List ConfigLine}

/-- A draft has taken over what a configuration means. -/
structure Means
    (draft : ConfigDraft)
    (meaning : ConfigMeaning) :
    Prop where
  universal : draft.universal? = meaning.universal?
  offscreen : draft.offscreen? = meaning.offscreen?
  package : ∀ name, draft.packages.get? name = meaning.package? name
  tunables : draft.tunables = meaning.tunables

theorem Means.unique
    (means : draft.Means meaning)
    (otherMeans : other.Means meaning) :
    draft = other := by
  have universal := means.universal.trans otherMeans.universal.symm
  have offscreen := means.offscreen.trans otherMeans.offscreen.symm
  have tunables := means.tunables.trans otherMeans.tunables.symm
  have packages : draft.packages = other.packages :=
    PackageRules.ext_get? fun name => (means.package name).trans (otherMeans.package name).symm
  rcases draft with ⟨_, _, _, _⟩
  cases universal
  cases offscreen
  cases tunables
  cases packages
  rfl

/-- Each special key has its last rule. -/
theorem special_absorb_rule
    (draft : ConfigDraft)
    (key : String)
    (rule : Rule) :
    (draft.absorb (.rule key rule)).universal? =
        (if key = "*" then some rule else draft.universal?) ∧
      (draft.absorb (.rule key rule)).offscreen? =
        (if key = "-" then some rule else draft.offscreen?) := by
  simp only [absorb, Rule.universalKey, Rule.offscreenKey]
  by_cases isUniversal : key = "*"
  · simp [isUniversal]
  · by_cases isOffscreen : key = "-"
    · simp [isOffscreen]
    · simp only [isUniversal, isOffscreen, if_false]
      split
      · exact ⟨rfl, rfl⟩
      · exact ⟨rfl, rfl⟩

/-- Each package has its first rule. -/
theorem get?_packages_absorb_rule
    (draft : ConfigDraft)
    (key name : String)
    (rule : Rule) :
    (draft.absorb (.rule key rule)).packages.get? name =
      if key = name ∧ ¬(key = "*" ∨ key = "-") then
        (draft.packages.get? name).or (some rule)
      else
        draft.packages.get? name := by
  simp only [absorb, Rule.universalKey, Rule.offscreenKey]
  by_cases isUniversal : key = "*"
  · simp [isUniversal]
  · by_cases isOffscreen : key = "-"
    · simp [isOffscreen]
    · simp only [isUniversal, isOffscreen, if_false, or_self, not_false_eq_true, and_true]
      by_cases known : draft.packages.contains key = true
      · obtain ⟨first, found⟩ := Option.isSome_iff_exists.mp known
        rw [if_pos known]
        split
        · rename_i same
          rw [← same, found]
          rfl
        · rfl
      · have unknown : draft.packages.get? key = none := Option.not_isSome_iff_eq_none.mp known
        rw [if_neg known, PackageRules.get?_insert]
        split
        · rename_i same
          rw [← same, unknown]
          rfl
        · rfl

theorem Means.absorb
    (means : draft.Means (.ofContents contents))
    (content : ConfigLine) :
    (draft.absorb content).Means (.ofContents (contents ++ [content])) := by
  obtain ⟨universal, offscreen, package, tunables⟩ := means
  cases content with
  | blank =>
      rw [ConfigMeaning.ofContents_concat_blank]
      exact ⟨universal, offscreen, package, tunables⟩
  | tunable name value =>
      rw [ConfigMeaning.ofContents_concat_tunable, ← tunables]
      exact ⟨universal, offscreen, package, draft.tunables.getD_set? name value⟩
  | rule key rule =>
      obtain ⟨universalAfter, offscreenAfter⟩ := special_absorb_rule draft key rule
      rw [ConfigMeaning.ofContents_concat_rule, ← universal, ← offscreen]
      refine ⟨universalAfter, offscreenAfter, ?_, ?_⟩
      · intro name
        rw [get?_packages_absorb_rule, package]
      · rw [tunables_absorb_rule]
        exact tunables

end ConfigDraft

namespace ConfigLine

/-- What a line says, if it can be read. -/
def content? (line : List Char) : Option ConfigLine :=
  (ofChars line).toOption

/-- What can be read is what the grammar says. -/
theorem content?_eq_some_iff
    {line : List Char}
    {content : ConfigLine} :
    content? line = some content ↔ Reads line (.ok content) := by
  rw [reads_iff, content?]
  cases ofChars line with
  | error reason =>
      exact ⟨nofun, nofun⟩
  | ok other =>
      rw [Except.toOption, Option.some.injEq, Except.ok.injEq]

theorem Reads.content?_eq_none
    {line : List Char}
    {reason : SyntaxError}
    (refused : Reads line (.error reason)) :
    content? line = none :=
  congrArg Except.toOption refused.ofChars_eq

/-- What those of the lines say that can be read. -/
def contentsOf (lines : List (List Char)) : List ConfigLine :=
  lines.filterMap content?

theorem contentsOf_append (lines others : List (List Char)) :
    contentsOf (lines ++ others) = contentsOf lines ++ contentsOf others :=
  List.filterMap_append

theorem contentsOf_cons
    (line : List Char)
    (lines : List (List Char)) :
    contentsOf (line :: lines) = (content? line).toList ++ contentsOf lines := by
  unfold contentsOf
  cases read : content? line with
  | none =>
      rw [List.filterMap_cons_none read]
      rfl
  | some content =>
      rw [List.filterMap_cons_some read]
      rfl

/-- A carriage return at the end of a line does not matter. -/
theorem ofChars_dropReturn (line : List Char) : ofChars (Text.dropReturn line) = ofChars line := by
  unfold Text.dropReturn
  split
  · rename_i endsInReturn
    obtain ⟨kept, rfl⟩ := List.getLast?_eq_some_iff.mp endsInReturn
    have isMarginReturn : isMargin '\r' = true := by
      decide
    rw [List.dropLast_concat, ofChars, ofChars, Text.trimBy_concat isMarginReturn]
  · rfl

end ConfigLine

namespace ConfigDraft

theorem readLines_eq_foldl
    (draft : ConfigDraft)
    (number : Nat)
    (lines : List (List Char)) :
    (draft.readLines number lines).1 = (ConfigLine.contentsOf lines).foldl absorb draft := by
  induction lines generalizing draft number with
  | nil =>
      rfl
  | cons line rest inductionHypothesis =>
      rw [ConfigLine.contentsOf_cons, List.foldl_append]
      simp only [readLines, ConfigLine.content?]
      cases read : ConfigLine.ofChars line with
      | error reason =>
          exact inductionHypothesis draft (number + 1)
      | ok content =>
          exact inductionHypothesis (draft.absorb content) (number + 1)

/-- Whether a line feed follows the last piece of a text makes no difference. -/
theorem foldl_linesOfPieces
    (draft : ConfigDraft)
    (pieces : List (List Char)) :
    (ConfigLine.contentsOf (Text.linesOfPieces pieces)).foldl absorb draft =
      (ConfigLine.contentsOf (pieces.map Text.dropReturn)).foldl absorb draft := by
  have sameContent (piece : List Char) :
      ConfigLine.content? (Text.dropReturn piece) = ConfigLine.content? piece :=
    congrArg Except.toOption (ConfigLine.ofChars_dropReturn piece)
  fun_induction Text.linesOfPieces pieces generalizing draft with
  | case1 =>
      rfl
  | case2 last isEmpty =>
      rw [List.isEmpty_iff.mp isEmpty]
      rfl
  | case3 last notEmpty =>
      rw [List.map_singleton, ConfigLine.contentsOf_cons, ConfigLine.contentsOf_cons, sameContent]
  | case4 piece next rest inductionHypothesis =>
      rw [List.map_cons, ConfigLine.contentsOf_cons, ConfigLine.contentsOf_cons,
        List.foldl_append, List.foldl_append]
      exact inductionHypothesis _

theorem means_foldl_absorb (contents : List ConfigLine) :
    (contents.foldl absorb {}).Means (.ofContents contents) := by
  induction contents using List.reverseRecOn with
  | nil =>
      refine ⟨rfl, rfl, ?_, rfl⟩
      intro name
      simp only [ConfigMeaning.ofContents]
      split
      · rfl
      · rfl
  | append_singleton contents content inductionHypothesis =>
      rw [List.foldl_append]
      exact inductionHypothesis.absorb content

end ConfigDraft

namespace Config

variable {text other : String}

/-- The pieces of a text between line feeds, each without one carriage return at its end. -/
def linesOf (text : String) : List (List Char) :=
  (text.toList.splitOn '\n').map Text.dropReturn

/-- What the lines of a text mean, read without a draft. -/
def meaning (text : String) : ConfigMeaning :=
  .ofContents (ConfigLine.contentsOf (linesOf text))

theorem means_draftOfText (text : String) : (draftOfText text).Means (meaning text) := by
  have draftIs :
      draftOfText text =
        (ConfigLine.contentsOf (linesOf text)).foldl ConfigDraft.absorb {} := by
    rw [draftOfText, ConfigDraft.readLines_eq_foldl]
    exact ConfigDraft.foldl_linesOfPieces {} (text.toList.splitOn '\n')
  rw [draftIs]
  exact ConfigDraft.means_foldl_absorb _

/-- Texts of the same meaning have the same outcome. -/
theorem outcome_congr
    (sameMeaning : meaning text = meaning other) :
    (ofText text).outcome = (ofText other).outcome := by
  have sameDraft : draftOfText text = draftOfText other :=
    (means_draftOfText text).unique (sameMeaning ▸ means_draftOfText other)
  rw [outcome_ofText, outcome_ofText, sameDraft]

/-- The order of lines matters only among those for one key or for one tunable. -/
theorem meaning_congr
    (sameRules :
      ∀ key,
        ConfigMeaning.rulesOf key (ConfigLine.contentsOf (linesOf text)) =
          ConfigMeaning.rulesOf key (ConfigLine.contentsOf (linesOf other)))
    (sameValues :
      ∀ name,
        ConfigMeaning.valuesOf name (ConfigLine.contentsOf (linesOf text)) =
          ConfigMeaning.valuesOf name (ConfigLine.contentsOf (linesOf other))) :
    meaning text = meaning other := by
  simp only [meaning, ConfigMeaning.ofContents, sameRules, sameValues]

/-- A line that has no influence, given the lines before it. -/
inductive IsIdle (before : List (List Char)) : List Char → Prop where
  | blank
      {line : List Char}
      (margins : ∀ c ∈ line, c ∈ [' ', '\r', '\n']) :
      IsIdle before line
  | comment
      {margin rest : List Char}
      (margins : ∀ c ∈ margin, c ∈ [' ', '\r', '\n']) :
      IsIdle before (margin ++ '#' :: rest)
  | malformed
      {line : List Char}
      {reason : SyntaxError}
      (refused : ConfigLine.Reads line (.error reason)) :
      IsIdle before line
  | unknownTunable
      {line : List Char}
      {name : String}
      {value : Int}
      (reads : ConfigLine.Reads line (.ok (.tunable name value)))
      (unknown : name ∉ ["useSfBackdoor", "touchSlackMs", "gestureSlackMs"]) :
      IsIdle before line
  /-- Another rule for a package. -/
  | duplicate
      {line earlier : List Char}
      {name : String}
      {rule earlierRule : Rule}
      (reads : ConfigLine.Reads line (.ok (.rule name rule)))
      (isPackage : name ∉ ["*", "-"])
      (isEarlier : earlier ∈ before)
      (readsEarlier : ConfigLine.Reads earlier (.ok (.rule name earlierRule))) :
      IsIdle before line

theorem ofContents_of_isIdle
    {before after : List (List Char)}
    {line : List Char}
    (isIdle : IsIdle before line) :
    ConfigMeaning.ofContents (ConfigLine.contentsOf (before ++ line :: after)) =
      .ofContents (ConfigLine.contentsOf (before ++ after)) := by
  rw [ConfigLine.contentsOf_append, ConfigLine.contentsOf_append, ConfigLine.contentsOf_cons]
  have blankLeftOut (reads : ConfigLine.Reads line (.ok .blank)) :
      ConfigMeaning.ofContents
          (ConfigLine.contentsOf before ++
            ((ConfigLine.content? line).toList ++ ConfigLine.contentsOf after)) =
        .ofContents (ConfigLine.contentsOf before ++ ConfigLine.contentsOf after) := by
    rw [ConfigLine.content?_eq_some_iff.mpr reads]
    exact
      ConfigMeaning.ofContents_append_cons (fun _ _ => rfl) ⟨rfl, rfl⟩ fun _ => .inl rfl
  cases isIdle with
  | blank margins =>
      exact blankLeftOut (.blank margins)
  | comment margins =>
      exact blankLeftOut (.comment margins)
  | malformed refused =>
      rw [refused.content?_eq_none]
      rfl
  | @unknownTunable _ name value reads unknown =>
      rw [ConfigLine.content?_eq_some_iff.mpr reads]
      refine ConfigMeaning.ofContents_append_cons ?_ ⟨rfl, rfl⟩ fun _ => .inl rfl
      intro known isKnown
      refine if_neg ?_
      rintro rfl
      exact unknown isKnown
  | @duplicate _ earlier name rule earlierRule reads isPackage isEarlier readsEarlier =>
      rw [ConfigLine.content?_eq_some_iff.mpr reads]
      have notSpecial (key : String) (isSpecial : key ∈ ["*", "-"]) :
          (ConfigLine.rule name rule).rule? key = none := by
        refine if_neg ?_
        rintro rfl
        exact isPackage isSpecial
      refine
        ConfigMeaning.ofContents_append_cons (fun _ _ => rfl)
          ⟨notSpecial "*" (by simp), notSpecial "-" (by simp)⟩ ?_
      intro other
      by_cases same : name = other
      · subst same
        have isRead : ConfigLine.rule name earlierRule ∈ ConfigLine.contentsOf before :=
          List.mem_filterMap.mpr
            ⟨earlier, isEarlier, ConfigLine.content?_eq_some_iff.mpr readsEarlier⟩
        have isFirst :
            earlierRule ∈ ConfigMeaning.rulesOf name (ConfigLine.contentsOf before) :=
          List.mem_filterMap.mpr ⟨_, isRead, if_pos rfl⟩
        exact .inr (List.ne_nil_of_mem isFirst)
      · exact .inl (if_neg same)

/-- What is looked up in an accepted table is told by the meaning of its text. -/
theorem lookup_of_accepted
    {config : Config}
    (accepted : (ofText text).outcome = .ok config)
    (key : String) :
    some (config.rules.lookup key) =
      if key = "-" then
        (meaning text).offscreen?
      else
        ((meaning text).package? key).or (meaning text).universal? := by
  obtain ⟨built, -⟩ := build_of_accepted accepted
  obtain ⟨universal, offscreen, packages, -⟩ :=
    RuleTable.eq_some_and_accepts_of_build_eq_ok built
  have means := means_draftOfText text
  rw [← means.offscreen, ← means.universal, ← means.package, universal, offscreen, packages]
  by_cases isOffscreen : key = "-"
  · have found : config.rules.lookup key = config.rules.offscreen := if_pos isOffscreen
    rw [found, if_pos isOffscreen]
  · have found :
        config.rules.lookup key =
          (config.rules.packages.get? key).getD config.rules.universal :=
      if_neg isOffscreen
    rw [found, if_neg isOffscreen]
    cases config.rules.packages.get? key with
    | none =>
        rfl
    | some rule =>
        rfl

/--
A text is read as what its lines mean by the grammar of lines: the rule table is built from the
last rule for each special key, the first one for each package and the last mode, and the
tunables have their last values.  So lines for different keys and tunables may change places,
lines that say nothing to this may be left out, and in an accepted table that is looked up which
the text means.
-/
theorem outcome_eq_build_of_meaning (text : String) :
    (∀ line content,
        ConfigLine.content? line = some content ↔ ConfigLine.Reads line (.ok content)) ∧
      (∃ packages : PackageRules,
          (∀ name, packages.get? name = (meaning text).package? name) ∧
            (ofText text).outcome =
              (RuleTable.build (meaning text).universal? (meaning text).offscreen? packages
                  (meaning text).tunables.mode).map
                fun rules => ⟨rules, (meaning text).tunables⟩) ∧
      (∀ other,
          (∀ key,
              ConfigMeaning.rulesOf key (ConfigLine.contentsOf (linesOf other)) =
                ConfigMeaning.rulesOf key (ConfigLine.contentsOf (linesOf text))) →
            (∀ name,
                ConfigMeaning.valuesOf name (ConfigLine.contentsOf (linesOf other)) =
                  ConfigMeaning.valuesOf name (ConfigLine.contentsOf (linesOf text))) →
              (ofText other).outcome = (ofText text).outcome) ∧
        (∀ other before line after,
            linesOf text = before ++ line :: after →
              linesOf other = before ++ after →
                IsIdle before line → (ofText other).outcome = (ofText text).outcome) ∧
          ∀ config,
            (ofText text).outcome = .ok config →
              (∀ key,
                  some (config.rules.lookup key) =
                    if key = "-" then
                      (meaning text).offscreen?
                    else
                      ((meaning text).package? key).or (meaning text).universal?) ∧
                some (config.rules.lookup "*") = (meaning text).universal? := by
  refine ⟨fun _ _ => ConfigLine.content?_eq_some_iff, ?_, ?_, ?_, ?_⟩
  · have means := means_draftOfText text
    refine ⟨(draftOfText text).packages, means.package, ?_⟩
    rw [outcome_ofText, ConfigDraft.finish, means.universal, means.offscreen, means.tunables]
  · intro other sameRules sameValues
    exact outcome_congr (meaning_congr sameRules sameValues)
  · intro other before line after lines otherLines isIdle
    refine outcome_congr ?_
    rw [meaning, meaning, lines, otherLines]
    exact (ofContents_of_isIdle isIdle).symm
  · intro config accepted
    refine ⟨lookup_of_accepted accepted, ?_⟩
    exact lookup_of_accepted accepted "*"

/-- The rules and the tunables are mixed, and some of the lines say nothing. -/
def scatteredText : String :=
  "* 1 2\n- 30 30\r\na 90 144\n/touchSlackMs -7\nb 60\n#\n/c 3\na 1 1\n* 60 90\r"

/-- The same without the second rule for the package. -/
def scatteredTextOnce : String :=
  "* 1 2\n- 30 30\r\na 90 144\n/touchSlackMs -7\nb 60\n#\n/c 3\n* 60 90\r"

theorem outcome_of_scatteredText :
    (∃ config,
        (ofText scatteredText).outcome = .ok config ∧
          config.tunables = ⟨.literal, 100, 4000⟩ ∧
            config.rules.lookup "a" = ⟨90, 144⟩ ∧
              config.rules.lookup "-" = ⟨30, 30⟩ ∧ config.rules.lookup "*" = ⟨60, 90⟩) ∧
      (ofText scatteredTextOnce).outcome = (ofText scatteredText).outcome := by
  obtain ⟨-, -, -, idleLines, lookups⟩ := outcome_eq_build_of_meaning scatteredText
  constructor
  · have accepted :
        ∃ config,
          (ofText scatteredText).outcome = .ok config ∧
            config.tunables = ⟨.literal, 100, 4000⟩ :=
      ⟨_, rfl, rfl⟩
    obtain ⟨config, accepted, tunables⟩ := accepted
    obtain ⟨lookup, universal⟩ := lookups config accepted
    refine ⟨config, accepted, tunables, ?_, ?_, ?_⟩
    · exact Option.some.inj (lookup "a")
    · exact Option.some.inj (lookup "-")
    · exact Option.some.inj universal
  · have reads : ConfigLine.Reads "a 1 1".toList (.ok (.rule "a" ⟨1, 1⟩)) :=
      ConfigLine.reads_iff.mpr rfl
    have readsEarlier : ConfigLine.Reads "a 90 144".toList (.ok (.rule "a" ⟨90, 144⟩)) :=
      ConfigLine.reads_iff.mpr rfl
    have isPackage : "a" ∉ ["*", "-"] := by
      decide
    refine
      idleLines scatteredTextOnce
        ["* 1 2".toList, "- 30 30".toList, "a 90 144".toList, "/touchSlackMs -7".toList,
          "b 60".toList, "#".toList, "/c 3".toList]
        "a 1 1".toList ["* 60 90".toList] rfl rfl ?_
    exact .duplicate reads isPackage (by simp) readsEarlier

end Config

end RefreshRate
