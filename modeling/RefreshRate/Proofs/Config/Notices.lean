import RefreshRate.Proofs.Config.Meaning
import RefreshRate.Proofs.Text.Lines

namespace RefreshRate

/-!
# What is logged about the lines of a configuration

A line is told from its characters and the lines before it: either it is ignored, and a
warning says so, or it counts, and then it may be logged as well.  So the log of a reader can
be read off the text without the draft that the reader has in its hands, and the lines that it
warns of as ignored may be taken out of the text.
-/

namespace ConfigLine

/-- One of the lines before gives a rule for a key. -/
def IsGiven
    (before : List (List Char))
    (key : String) :
    Prop :=
  ∃ earlier ∈ before, ∃ rule, Reads earlier (.ok (.rule key rule))

/-- A line is ignored with a warning, which has the number of the line. -/
inductive IsIgnored
    (before : List (List Char))
    (line : List Char) :
    LogRecord → Prop where
  | malformed
      {reason : SyntaxError}
      (refused : Reads line (.error reason)) :
      IsIgnored before line
        { level := .warning
          message :=
            "skipped broken line '" ++ String.ofList (Text.trim line) ++ "': " ++ reason.message
          line := some (before.length + 1)
          reason := some reason.label }
  | unknownTunable
      {name : String}
      {value : Int}
      (reads : Reads line (.ok (.tunable name value)))
      (unknown : name ∉ ["useSfBackdoor", "touchSlackMs", "gestureSlackMs"]) :
      IsIgnored before line
        { level := .warning
          message := "unknown tunable '" ++ name ++ "' in the config file"
          line := some (before.length + 1) }
  | duplicate
      {name : String}
      {rule : Rule}
      (reads : Reads line (.ok (.rule name rule)))
      (isPackage : name ∉ ["*", "-"])
      (isGiven : IsGiven before name) :
      IsIgnored before line
        { level := .warning
          message := "duplicate rule for '" ++ name ++ "' ignored"
          line := some (before.length + 1) }

/-- A line is not ignored, and at most one record is logged about it. -/
inductive IsCounted
    (before : List (List Char))
    (line : List Char) :
    Option LogRecord → Prop where
  | blank
      (reads : Reads line (.ok .blank)) :
      IsCounted before line none
  | tunable
      {name : String}
      {value : Int}
      (reads : Reads line (.ok (.tunable name value)))
      (known : name ∈ ["useSfBackdoor", "touchSlackMs", "gestureSlackMs"]) :
      IsCounted before line
        (some
          { level := .debug
            message := "set '" ++ name ++ "'=" ++ Text.Decimal.text value })
  | firstForPackage
      {name : String}
      {rule : Rule}
      (reads : Reads line (.ok (.rule name rule)))
      (isPackage : name ∉ ["*", "-"])
      (isFirst : ¬IsGiven before name) :
      IsCounted before line
        (some
          { level := .debug
            message := "load '" ++ name ++ "', dfps=" ++ rule.pairText })
  | firstForSpecial
      {key : String}
      {rule : Rule}
      (reads : Reads line (.ok (.rule key rule)))
      (isSpecial : key ∈ ["*", "-"])
      (isFirst : ¬IsGiven before key) :
      IsCounted before line none
  /-- The rule takes the place of the earlier one. -/
  | redefined
      {key : String}
      {rule : Rule}
      (reads : Reads line (.ok (.rule key rule)))
      (isSpecial : key ∈ ["*", "-"])
      (isGiven : IsGiven before key) :
      IsCounted before line
        (some
          { level := .warning
            message := "rule '" ++ key ++ "' redefined"
            line := some (before.length + 1) })

/-- What is logged about lines that follow others, and which of them are not ignored. -/
inductive Logged :
    List (List Char) →
    List (List Char) →
    List LogRecord →
    List (List Char) →
    Prop where
  | nil
      {before : List (List Char)} :
      Logged before [] [] []
  | ignored
      {before lines kept : List (List Char)}
      {line : List Char}
      {record : LogRecord}
      {records : List LogRecord}
      (isIgnored : IsIgnored before line record)
      (logged : Logged (before ++ [line]) lines records kept) :
      Logged before (line :: lines) (record :: records) kept
  | counted
      {before lines kept : List (List Char)}
      {line : List Char}
      {record? : Option LogRecord}
      {records : List LogRecord}
      (isCounted : IsCounted before line record?)
      (logged : Logged (before ++ [line]) lines records kept) :
      Logged before (line :: lines) (record?.toList ++ records) (line :: kept)

section Unique

variable
  {before lines kept otherKept : List (List Char)}
  {line : List Char}
  {record otherRecord : LogRecord}
  {record? otherRecord? : Option LogRecord}
  {records otherRecords : List LogRecord}

theorem IsIgnored.unique
    (isIgnored : IsIgnored before line record)
    (otherwise : IsIgnored before line otherRecord) :
    record = otherRecord := by
  cases isIgnored with
  | malformed refused =>
      cases otherwise with
      | malformed otherRefused =>
          cases refused.unique otherRefused
          rfl
      | unknownTunable reads | duplicate reads =>
          cases refused.unique reads
  | unknownTunable reads unknown =>
      cases otherwise with
      | unknownTunable otherReads =>
          cases reads.unique otherReads
          rfl
      | malformed refused | duplicate refused =>
          cases reads.unique refused
  | duplicate reads isPackage isGiven =>
      cases otherwise with
      | duplicate otherReads =>
          cases reads.unique otherReads
          rfl
      | malformed refused | unknownTunable refused =>
          cases reads.unique refused

theorem IsCounted.unique
    (isCounted : IsCounted before line record?)
    (otherwise : IsCounted before line otherRecord?) :
    record? = otherRecord? := by
  cases isCounted with
  | blank reads =>
      cases otherwise with
      | blank =>
          rfl
      | tunable other | firstForPackage other | firstForSpecial other | redefined other =>
          cases reads.unique other
  | tunable reads known =>
      cases otherwise with
      | tunable other =>
          cases reads.unique other
          rfl
      | blank other | firstForPackage other | firstForSpecial other | redefined other =>
          cases reads.unique other
  | firstForPackage reads isPackage isFirst =>
      cases otherwise with
      | firstForPackage other =>
          cases reads.unique other
          rfl
      | firstForSpecial other isSpecial | redefined other isSpecial =>
          cases reads.unique other
          exact absurd isSpecial isPackage
      | blank other | tunable other =>
          cases reads.unique other
  | firstForSpecial reads isSpecial isFirst =>
      cases otherwise with
      | firstForSpecial =>
          rfl
      | firstForPackage other isPackage =>
          cases reads.unique other
          exact absurd isSpecial isPackage
      | redefined other _ isGiven =>
          cases reads.unique other
          exact absurd isGiven isFirst
      | blank other | tunable other =>
          cases reads.unique other
  | redefined reads isSpecial isGiven =>
      cases otherwise with
      | redefined other =>
          cases reads.unique other
          rfl
      | firstForPackage other isPackage =>
          cases reads.unique other
          exact absurd isSpecial isPackage
      | firstForSpecial other _ isFirst =>
          cases reads.unique other
          exact absurd isGiven isFirst
      | blank other | tunable other =>
          cases reads.unique other

theorem IsIgnored.not_isCounted
    (isIgnored : IsIgnored before line record) :
    ¬IsCounted before line record? := by
  intro isCounted
  cases isIgnored with
  | malformed refused =>
      cases isCounted with
      | blank reads | tunable reads | firstForPackage reads | firstForSpecial reads
      | redefined reads =>
          cases refused.unique reads
  | unknownTunable reads unknown =>
      cases isCounted with
      | tunable other known =>
          cases reads.unique other
          exact unknown known
      | blank other | firstForPackage other | firstForSpecial other | redefined other =>
          cases reads.unique other
  | duplicate reads isPackage isGiven =>
      cases isCounted with
      | firstForPackage other _ isFirst =>
          cases reads.unique other
          exact isFirst isGiven
      | firstForSpecial other isSpecial | redefined other isSpecial =>
          cases reads.unique other
          exact isPackage isSpecial
      | blank other | tunable other =>
          cases reads.unique other

/-- What is logged is told by the lines, and so is which of them are not ignored. -/
theorem Logged.unique
    (logged : Logged before lines records kept)
    (otherwise : Logged before lines otherRecords otherKept) :
    records = otherRecords ∧ kept = otherKept := by
  induction logged generalizing otherRecords otherKept with
  | nil =>
      cases otherwise
      exact ⟨rfl, rfl⟩
  | ignored isIgnored _ inductionHypothesis =>
      cases otherwise with
      | ignored otherIgnored otherLogged =>
          obtain ⟨rfl, rfl⟩ := inductionHypothesis otherLogged
          rw [isIgnored.unique otherIgnored]
          exact ⟨rfl, rfl⟩
      | counted otherCounted otherLogged =>
          exact absurd otherCounted isIgnored.not_isCounted
  | counted isCounted _ inductionHypothesis =>
      cases otherwise with
      | ignored otherIgnored otherLogged =>
          exact absurd isCounted otherIgnored.not_isCounted
      | counted otherCounted otherLogged =>
          obtain ⟨rfl, rfl⟩ := inductionHypothesis otherLogged
          rw [isCounted.unique otherCounted]
          exact ⟨rfl, rfl⟩

end Unique

theorem Logged.sublist
    {before lines kept : List (List Char)}
    {records : List LogRecord}
    (logged : Logged before lines records kept) :
    kept.Sublist lines := by
  induction logged with
  | nil =>
      exact .slnil
  | @ignored _ _ _ line _ _ _ _ inductionHypothesis =>
      exact inductionHypothesis.cons line
  | @counted _ _ _ line _ _ _ _ inductionHypothesis =>
      exact inductionHypothesis.cons_cons line

theorem rulesOf_contentsOf_ne_nil_iff
    {before : List (List Char)}
    {key : String} :
    ConfigMeaning.rulesOf key (contentsOf before) ≠ [] ↔ IsGiven before key := by
  constructor
  · intro notEmpty
    obtain ⟨rule, member⟩ := List.exists_mem_of_ne_nil _ notEmpty
    obtain ⟨content, isRead, gives⟩ := List.mem_filterMap.mp member
    obtain ⟨earlier, isEarlier, found⟩ := List.mem_filterMap.mp isRead
    have reads := content?_eq_some_iff.mp found
    cases content with
    | blank =>
        cases gives
    | tunable name value =>
        cases gives
    | rule other given =>
        obtain ⟨same, -⟩ := Option.ite_none_right_eq_some.mp gives
        subst same
        exact ⟨earlier, isEarlier, given, reads⟩
  · rintro ⟨earlier, isEarlier, rule, reads⟩
    have isRead : ConfigLine.rule key rule ∈ contentsOf before :=
      List.mem_filterMap.mpr ⟨earlier, isEarlier, content?_eq_some_iff.mpr reads⟩
    have gives : rule ∈ ConfigMeaning.rulesOf key (contentsOf before) :=
      List.mem_filterMap.mpr ⟨_, isRead, if_pos rfl⟩
    exact List.ne_nil_of_mem gives

instance
    (before : List (List Char))
    (key : String) :
    Decidable (IsGiven before key) :=
  decidable_of_iff _ rulesOf_contentsOf_ne_nil_iff

end ConfigLine

namespace Tunables

theorem isSome_set?_iff
    {tunables : Tunables}
    {name : String}
    {value : Int} :
    (tunables.set? name value).isSome ↔
      name ∈ ["useSfBackdoor", "touchSlackMs", "gestureSlackMs"] := by
  unfold set?
  split
  · rename_i isMode
    simp [isMode]
  · split
    · rename_i isTouchSlack
      simp [isTouchSlack]
    · split
      · rename_i isGestureSlack
        simp [isGestureSlack]
      · simp [*]

end Tunables

namespace ConfigDraft

variable
  {draft : ConfigDraft}
  {before : List (List Char)}
  {line : List Char}

/-- A draft knows of which keys the rules were given before. -/
theorem Means.isSome_iff_isGiven
    (means : draft.Means (.ofContents (ConfigLine.contentsOf before))) :
    (draft.universal?.isSome ↔ ConfigLine.IsGiven before "*") ∧
      (draft.offscreen?.isSome ↔ ConfigLine.IsGiven before "-") ∧
        ∀ name, name ∉ ["*", "-"] →
          (draft.packages.contains name ↔ ConfigLine.IsGiven before name) := by
  refine ⟨?_, ?_, ?_⟩
  · rw [means.universal, ← ConfigLine.rulesOf_contentsOf_ne_nil_iff]
    exact List.getLast?_isSome
  · rw [means.offscreen, ← ConfigLine.rulesOf_contentsOf_ne_nil_iff]
    exact List.getLast?_isSome
  · intro name isPackage
    have notSpecial : ¬(name = "*" ∨ name = "-") := by
      simpa using isPackage
    rw [PackageRules.contains, means.package, ← ConfigLine.rulesOf_contentsOf_ne_nil_iff]
    simp only [ConfigMeaning.ofContents, if_neg notSpecial]
    exact List.isSome_head?

/-- What a draft notices about a line is what is to be logged about it. -/
theorem Means.isIgnored_or_isCounted
    (means : draft.Means (.ofContents (ConfigLine.contentsOf before)))
    {content : ConfigLine}
    (reads : ConfigLine.Reads line (.ok content)) :
    (∃ notice,
        draft.notice? (before.length + 1) content = some notice ∧
          ConfigLine.IsIgnored before line notice.record ∧ draft.absorb content = draft) ∨
      ConfigLine.IsCounted before line
        ((draft.notice? (before.length + 1) content).map ConfigNotice.record) := by
  obtain ⟨universalGiven, offscreenGiven, packageGiven⟩ := means.isSome_iff_isGiven
  cases content with
  | blank =>
      exact .inr (.blank reads)
  | tunable name value =>
      by_cases isSet : (draft.tunables.set? name value).isSome = true
      · right
        simp only [notice?, if_pos isSet]
        exact .tunable reads (Tunables.isSome_set?_iff.mp isSet)
      · have notSet : draft.tunables.set? name value = none :=
          Option.not_isSome_iff_eq_none.mp isSet
        have unknown : name ∉ ["useSfBackdoor", "touchSlackMs", "gestureSlackMs"] :=
          isSet ∘ Tunables.isSome_set?_iff.mpr
        refine .inl ⟨_, if_neg isSet, .unknownTunable reads unknown, ?_⟩
        simp only [ConfigDraft.absorb, notSet, Option.getD_none]
  | rule key rule =>
      by_cases isUniversal : key = Rule.universalKey
      · right
        simp only [notice?, if_pos isUniversal]
        subst isUniversal
        split
        · rename_i known
          exact .redefined reads (by decide) (universalGiven.mp known)
        · rename_i unknown
          exact .firstForSpecial reads (by decide) (unknown ∘ universalGiven.mpr)
      · by_cases isOffscreen : key = Rule.offscreenKey
        · right
          simp only [notice?, if_neg isUniversal, if_pos isOffscreen]
          subst isOffscreen
          split
          · rename_i known
            exact .redefined reads (by decide) (offscreenGiven.mp known)
          · rename_i unknown
            exact .firstForSpecial reads (by decide) (unknown ∘ offscreenGiven.mpr)
        · have isPackage : key ∉ ["*", "-"] := by
            simpa using ⟨isUniversal, isOffscreen⟩
          simp only [notice?, ConfigDraft.absorb, if_neg isUniversal, if_neg isOffscreen]
          by_cases known : draft.packages.contains key = true
          · have isGiven := (packageGiven key isPackage).mp known
            simp only [if_pos known]
            exact .inl ⟨_, rfl, .duplicate reads isPackage isGiven, trivial⟩
          · simp only [if_neg known]
            exact
              .inr (.firstForPackage reads isPackage (known ∘ (packageGiven key isPackage).mpr))

/-- What a draft notices about lines is what is to be logged about them. -/
theorem Means.exists_logged
    (means : draft.Means (.ofContents (ConfigLine.contentsOf before)))
    (lines : List (List Char)) :
    ∃ kept,
      ConfigLine.Logged before lines
          ((draft.readLines (before.length + 1) lines).2.map ConfigNotice.record) kept ∧
        (ConfigLine.contentsOf kept).foldl ConfigDraft.absorb draft =
          (ConfigLine.contentsOf lines).foldl ConfigDraft.absorb draft := by
  induction lines generalizing draft before with
  | nil =>
      exact ⟨[], .nil, rfl⟩
  | cons line lines inductionHypothesis =>
      have contents :
          ConfigLine.contentsOf (before ++ [line]) =
            ConfigLine.contentsOf before ++ (ConfigLine.content? line).toList := by
        rw [ConfigLine.contentsOf_append, ConfigLine.contentsOf_cons]
        exact congrArg _ (List.append_nil _)
      cases read : ConfigLine.ofChars line with
      | error reason =>
          have refused := ConfigLine.reads_iff.mpr read
          have nothingRead := refused.content?_eq_none
          have stillMeans :
              draft.Means (.ofContents (ConfigLine.contentsOf (before ++ [line]))) := by
            rw [contents, nothingRead, Option.toList_none, List.append_nil]
            exact means
          obtain ⟨kept, logged, sameDraft⟩ := inductionHypothesis stillMeans
          rw [List.length_append, List.length_singleton] at logged
          refine ⟨kept, ?_, ?_⟩
          · simp only [readLines, read, List.map_cons]
            exact .ignored (.malformed refused) logged
          · rw [sameDraft, ConfigLine.contentsOf_cons, nothingRead]
            rfl
      | ok content =>
          have reads := ConfigLine.reads_iff.mpr read
          have isRead := ConfigLine.content?_eq_some_iff.mpr reads
          have stillMeans :
              (draft.absorb content).Means
                (.ofContents (ConfigLine.contentsOf (before ++ [line]))) := by
            rw [contents, isRead]
            exact means.absorb content
          obtain ⟨kept, logged, sameDraft⟩ := inductionHypothesis stillMeans
          rw [List.length_append, List.length_singleton] at logged
          have drafts :
              (ConfigLine.contentsOf (line :: lines)).foldl ConfigDraft.absorb draft =
                (ConfigLine.contentsOf lines).foldl ConfigDraft.absorb (draft.absorb content) := by
            rw [ConfigLine.contentsOf_cons, isRead]
            rfl
          rw [drafts, ← sameDraft]
          simp only [readLines, read, List.map_append]
          rcases means.isIgnored_or_isCounted reads with
            ⟨notice, noticed, isIgnored, unchanged⟩ | isCounted
          · rw [noticed]
            refine ⟨kept, .ignored isIgnored logged, ?_⟩
            rw [unchanged]
          · refine ⟨line :: kept, ?_, ?_⟩
            · rw [← Option.toList_map]
              exact .counted isCounted logged
            · rw [ConfigLine.contentsOf_cons, isRead]
              rfl

end ConfigDraft

namespace Config

variable {text : String}

/-- The outcome can be told from the contents of the lines. -/
theorem draftOfText_eq_foldl (text : String) :
    draftOfText text =
      (ConfigLine.contentsOf (Text.lines text.toList)).foldl ConfigDraft.absorb {} :=
  ConfigDraft.readLines_eq_foldl {} 1 (Text.lines text.toList)

theorem records_ofText (text : String) :
    (ofText text).notices.map ConfigNotice.record =
      (({} : ConfigDraft).readLines 1 (Text.lines text.toList)).2.map ConfigNotice.record ++
        ((ofText text).outcome.toOption.map fun config =>
          { level := .info
            message := ConfigNotice.meansText config.tunables.mode }).toList := by
  unfold ofText
  rcases ({} : ConfigDraft).readLines 1 (Text.lines text.toList) with ⟨draft, notices⟩
  simp only
  cases draft.finish with
  | ok config =>
      exact List.map_append
  | error reason =>
      exact (List.append_nil _).symm

/-- The lines of a text after those before it decide on their own what is logged. -/
theorem exists_logged_of_text (text : String) :
    ∃ kept,
      ConfigLine.Logged [] (Text.lines text.toList)
          ((({} : ConfigDraft).readLines 1 (Text.lines text.toList)).2.map ConfigNotice.record)
          kept ∧
        (ConfigLine.contentsOf kept).foldl ConfigDraft.absorb {} = draftOfText text := by
  have means : ({} : ConfigDraft).Means (.ofContents (ConfigLine.contentsOf [])) :=
    ConfigDraft.means_foldl_absorb []
  rw [draftOfText_eq_foldl]
  exact means.exists_logged (Text.lines text.toList)

/--
Of every line it is decided, from the lines before it, whether it is ignored and what is
logged about it.  The log of a reader has this in it, in the order of the lines, and at the
end the mode if the text is accepted.  Without the lines that are ignored the text has the
same outcome.
-/
theorem ofText_logs_every_line (text : String) :
    (∃ records kept, ConfigLine.Logged [] (Text.lines text.toList) records kept) ∧
      ∀ records kept,
        ConfigLine.Logged [] (Text.lines text.toList) records kept →
          (ofText text).notices.map ConfigNotice.record =
              records ++
                ((ofText text).outcome.toOption.map fun config =>
                  { level := .info
                    message := ConfigNotice.meansText config.tunables.mode }).toList ∧
            (∃ other : String, Text.lines other.toList = kept) ∧
              ∀ other : String,
                Text.lines other.toList = kept →
                  (ofText other).outcome = (ofText text).outcome := by
  obtain ⟨kept, logged, sameDraft⟩ := exists_logged_of_text text
  refine ⟨⟨_, kept, logged⟩, ?_⟩
  intro records otherKept otherwise
  obtain ⟨rfl, rfl⟩ := logged.unique otherwise
  refine ⟨records_ofText text, ?_, ?_⟩
  · have noFeed : ∀ line ∈ kept, '\n' ∉ line :=
      fun line member => Text.noFeed_of_mem_lines (logged.sublist.subset member)
    refine ⟨String.ofList (kept.flatMap fun line => line ++ ['\r', '\n']), ?_⟩
    rw [String.toList_ofList, Text.lines_flatMap_returnFeed noFeed]
  · intro other lines
    rw [outcome_ofText, outcome_ofText, draftOfText_eq_foldl other, lines, sameDraft]

/-- Each kind of line that is ignored is among the lines, and each kind that counts. -/
def faultyText : String :=
  "* 1 2\n- 30 30\r\na 90 144\n/touchSlackMs -7\n b 60\n#\n/c 3\na 1 1\n* 60 90\r"

/-- The same without the lines that are ignored. -/
def faultlessText : String :=
  "* 1 2\n- 30 30\r\na 90 144\n/touchSlackMs -7\n#\n* 60 90\r"

theorem ofText_faultyText :
    (ofText faultyText).notices.map ConfigNotice.record =
        [{ level := .debug, message := "load 'a', dfps=90/144" },
          { level := .debug, message := "set 'touchSlackMs'=-7" },
          { level := .warning
            message := "skipped broken line 'b 60': broken rule line"
            line := some 5
            reason := some "syntax_broken_rule" },
          { level := .warning
            message := "unknown tunable 'c' in the config file"
            line := some 7 },
          { level := .warning, message := "duplicate rule for 'a' ignored", line := some 8 },
          { level := .warning, message := "rule '*' redefined", line := some 9 },
          { level := .info, message := "use peak_refresh_rate to switch refresh rate" }] ∧
      (ofText faultlessText).outcome = (ofText faultyText).outcome := by
  obtain ⟨-, tells⟩ := ofText_logs_every_line faultyText
  have universal : ConfigLine.Reads "* 1 2".toList (.ok (.rule "*" ⟨1, 2⟩)) :=
    ConfigLine.reads_iff.mpr rfl
  have offscreen : ConfigLine.Reads "- 30 30".toList (.ok (.rule "-" ⟨30, 30⟩)) :=
    ConfigLine.reads_iff.mpr rfl
  have package : ConfigLine.Reads "a 90 144".toList (.ok (.rule "a" ⟨90, 144⟩)) :=
    ConfigLine.reads_iff.mpr rfl
  have tunable :
      ConfigLine.Reads "/touchSlackMs -7".toList (.ok (.tunable "touchSlackMs" (-7))) :=
    ConfigLine.reads_iff.mpr rfl
  have malformed : ConfigLine.Reads " b 60".toList (.error .brokenRule) :=
    ConfigLine.reads_iff.mpr rfl
  have comment : ConfigLine.Reads "#".toList (.ok .blank) := ConfigLine.reads_iff.mpr rfl
  have unknownTunable : ConfigLine.Reads "/c 3".toList (.ok (.tunable "c" 3)) :=
    ConfigLine.reads_iff.mpr rfl
  have duplicate : ConfigLine.Reads "a 1 1".toList (.ok (.rule "a" ⟨1, 1⟩)) :=
    ConfigLine.reads_iff.mpr rfl
  have redefined : ConfigLine.Reads "* 60 90\r".toList (.ok (.rule "*" ⟨60, 90⟩)) :=
    ConfigLine.reads_iff.mpr rfl
  have logged :=
    @ConfigLine.Logged.counted [] _ _ _ _ _ (.firstForSpecial universal (by decide) (by decide)) <|
      .counted (.firstForSpecial offscreen (by decide) (by decide)) <|
        .counted (.firstForPackage package (by decide) (by decide)) <|
          .counted (.tunable tunable (by decide)) <|
            .ignored (.malformed malformed) <|
              .counted (.blank comment) <|
                .ignored (.unknownTunable unknownTunable (by decide)) <|
                  .ignored (.duplicate duplicate (by decide) (by decide)) <|
                    .counted (.redefined redefined (by decide) (by decide)) .nil
  obtain ⟨records, -, sameOutcome⟩ := tells _ _ logged
  refine ⟨records.trans ?_, sameOutcome faultlessText rfl⟩
  rfl

end Config

end RefreshRate
