import Mathlib.Data.List.Basic
import RefreshRate.Proofs.Signal.Grammar
import RefreshRate.Proofs.Text.Encoding
import RefreshRate.Signal.Feed

namespace RefreshRate

/-!
# What a feed publishes and what it reports

A stream of bytes is made of lines.  The lines that are no text apart, every line stands
for itself: it is skipped, or it is a signal that is published, or it is reported.  A line
that is no text is the last one that counts.
-/

variable
  {bytes line front back : List UInt8}
  {lines others : List (List UInt8)}
  {texts : List String}
  {text : String}

/-- A stream of bytes is made of lines with line ends; the last one may lack its line end. -/
inductive Lined : List UInt8 → List (List UInt8) → Prop where
  | nil :
      Lined [] []
  | unended
      {line : List UInt8}
      (notEmpty : line ≠ [])
      (noFeed : 10 ∉ line) :
      Lined line [line]
  | feed
      {line rest : List UInt8}
      {lines : List (List UInt8)}
      (noFeed : 10 ∉ line)
      (noReturn : line.getLast? ≠ some 13)
      (lined : Lined rest lines) :
      Lined (line ++ 10 :: rest) (line :: lines)
  | returnFeed
      {line rest : List UInt8}
      {lines : List (List UInt8)}
      (noFeed : 10 ∉ line)
      (lined : Lined rest lines) :
      Lined (line ++ 13 :: 10 :: rest) (line :: lines)

/-- A line ends with the first line feed. -/
theorem byteLines_append_feed
    (noFeed : 10 ∉ line)
    (rest : List UInt8) :
    byteLines (line ++ 10 :: rest) = (line ++ [10]) :: byteLines rest := by
  induction line with
  | nil =>
      simp [byteLines]
  | cons byte line inductionHypothesis =>
      obtain ⟨notFeed, noFeedLater⟩ := not_or.mp (mt List.mem_cons.mpr noFeed)
      simp [byteLines, Ne.symm notFeed, inductionHypothesis noFeedLater]

theorem byteLines_of_no_feed
    (notEmpty : line ≠ [])
    (noFeed : 10 ∉ line) :
    byteLines line = [line] := by
  induction line with
  | nil =>
      exact absurd rfl notEmpty
  | cons byte line inductionHypothesis =>
      obtain ⟨notFeed, noFeedLater⟩ := not_or.mp (mt List.mem_cons.mpr noFeed)
      cases line with
      | nil =>
          simp [byteLines, Ne.symm notFeed]
      | cons next later =>
          rw [byteLines, if_neg (Ne.symm notFeed),
            inductionHypothesis (List.cons_ne_nil next later) noFeedLater]

theorem byteLines_ne_nil (notEmpty : bytes ≠ []) : byteLines bytes ≠ [] := by
  intro noLines
  have whole := flatten_byteLines bytes
  rw [noLines] at whole
  exact notEmpty whole.symm

/-- A stream can be cut behind each line feed. -/
theorem byteLines_append
    (front back : List UInt8) :
    byteLines (front ++ 10 :: back) = byteLines (front ++ [10]) ++ byteLines back := by
  induction front with
  | nil =>
      simp [byteLines]
  | cons byte front inductionHypothesis =>
      simp only [List.cons_append, byteLines, inductionHypothesis]
      obtain ⟨first, later, shape⟩ :=
        List.exists_cons_of_ne_nil (byteLines_ne_nil (List.append_ne_nil_of_right_ne_nil front
          (List.cons_ne_nil 10 [])))
      rw [shape]
      split <;> rfl

theorem dropLineEnd_of_no_feed (noFeed : 10 ∉ line) : dropLineEnd line = line := by
  rw [dropLineEnd, if_neg]
  intro endsInFeed
  exact noFeed (List.mem_of_getLast? endsInFeed)

theorem dropLineEnd_append_feed
    (line : List UInt8) :
    dropLineEnd (line ++ [10]) = if line.getLast? = some 13 then line.dropLast else line := by
  simp [dropLineEnd]

theorem Lined.eq_map_byteLines
    (lined : Lined bytes lines) :
    lines = (byteLines bytes).map dropLineEnd := by
  induction lined with
  | nil =>
      rfl
  | unended notEmpty noFeed =>
      rw [byteLines_of_no_feed notEmpty noFeed, List.map_singleton,
        dropLineEnd_of_no_feed noFeed]
  | feed noFeed noReturn lined inductionHypothesis =>
      rw [byteLines_append_feed noFeed, List.map_cons, dropLineEnd_append_feed,
        if_neg noReturn, inductionHypothesis]
  | @returnFeed line rest lines noFeed lined inductionHypothesis =>
      have noFeedBefore : 10 ∉ line ++ [13] := by
        simp [noFeed]
      have cut := byteLines_append_feed noFeedBefore rest
      rw [List.append_assoc, List.singleton_append] at cut
      rw [cut, List.map_cons, dropLineEnd_append_feed, inductionHypothesis]
      simp

theorem lined_map_byteLines (bytes : List UInt8) :
    Lined bytes ((byteLines bytes).map dropLineEnd) := by
  by_cases hasFeed : 10 ∈ bytes
  · obtain ⟨line, rest, rfl, noFeed⟩ := List.eq_append_cons_of_mem hasFeed
    have lined := lined_map_byteLines rest
    rw [byteLines_append_feed noFeed, List.map_cons, dropLineEnd_append_feed]
    split_ifs with hasReturn
    · obtain ⟨kept, rfl⟩ := List.getLast?_eq_some_iff.mp hasReturn
      have noFeedKept : 10 ∉ kept := fun member => noFeed (List.mem_append_left _ member)
      simpa using Lined.returnFeed noFeedKept lined
    · exact .feed noFeed hasReturn lined
  · by_cases isEmpty : bytes = []
    · subst isEmpty
      exact .nil
    · rw [byteLines_of_no_feed isEmpty hasFeed, List.map_singleton,
        dropLineEnd_of_no_feed hasFeed]
      exact .unended isEmpty hasFeed
termination_by bytes.length

namespace Feed

open Text.Utf8 (encode)

/-- A line that is blank or a comment. -/
def isSkipped (text : String) : Bool :=
  match Text.trim text.toList with
  | [] => true
  | first :: _ => first == '#'

/-- The lines that count. -/
def kept (texts : List String) : List String :=
  texts.filter fun text => !isSkipped text

/-- The signal that a line stands for. -/
def signal? (text : String) : Option Signal :=
  (Signal.ofLine text).toOption

/-- The report about a line that is no signal. -/
def warning? (text : String) : Option LogRecord :=
  match Signal.ofLine text with
  | .ok _ =>
      none
  | .error reason =>
      some
        { level := .warning
          message :=
            "ignored input '" ++ String.ofList (Text.trim text.toList) ++ "': " ++ reason.message
          reason := some reason.label }

theorem ofChars_of_isSkipped
    (skipped : isSkipped text = true) :
    FeedLine.ofChars text.toList = .skipped := by
  unfold isSkipped at skipped
  unfold FeedLine.ofChars
  split at skipped
  · rename_i isBlank
    rw [isBlank]
    rfl
  · rename_i first rest opens
    rw [opens, beq_iff_eq.mp skipped]
    rfl

theorem ofChars_of_not_isSkipped
    (counts : ¬isSkipped text = true) :
    FeedLine.ofChars text.toList =
      match Signal.ofLine text with
      | .ok signal =>
          .accepted signal
      | .error reason =>
          .ignored (String.ofList (Text.trim text.toList)) reason := by
  unfold isSkipped at counts
  unfold FeedLine.ofChars FeedLine.ofTrimmed Signal.ofLine
  split at counts
  · exact absurd rfl counts
  · rename_i first rest opens
    simp only [opens]
    split
    · rename_i isNil
      cases isNil
    · rename_i isComment
      cases isComment
      exact absurd rfl counts
    · rfl

theorem signal?_ofChars
    (text : String) :
    (FeedLine.ofChars text.toList).signal? = if isSkipped text then none else signal? text := by
  split_ifs with skipped
  · rw [ofChars_of_isSkipped skipped]
    rfl
  · rw [ofChars_of_not_isSkipped skipped, signal?]
    cases Signal.ofLine text <;> rfl

theorem record?_ofChars
    (text : String) :
    (FeedLine.ofChars text.toList).record? = if isSkipped text then none else warning? text := by
  split_ifs with skipped
  · rw [ofChars_of_isSkipped skipped]
    rfl
  · rw [ofChars_of_not_isSkipped skipped, warning?]
    cases Signal.ofLine text <;> rfl

/-- What lines of text amount to. -/
def ofTexts (texts : List String) : List FeedLine :=
  texts.map fun text => FeedLine.ofChars text.toList

theorem filterMap_signal?_ofTexts (texts : List String) :
    (ofTexts texts).filterMap FeedLine.signal? = (kept texts).filterMap signal? := by
  rw [ofTexts, List.filterMap_map, kept, List.filterMap_filter]
  refine List.filterMap_congr fun text _ => ?_
  rw [Function.comp_apply, signal?_ofChars]
  cases isSkipped text <;> rfl

theorem filterMap_record?_ofTexts (texts : List String) :
    (ofTexts texts).filterMap FeedLine.record? = (kept texts).filterMap warning? := by
  rw [ofTexts, List.filterMap_map, kept, List.filterMap_filter]
  refine List.filterMap_congr fun text _ => ?_
  rw [Function.comp_apply, record?_ofChars]
  cases isSkipped text <;> rfl

/-- Every line that counts is either published or reported. -/
theorem length_signals_add_length_warnings (texts : List String) :
    (texts.filterMap signal?).length + (texts.filterMap warning?).length = texts.length := by
  induction texts with
  | nil =>
      rfl
  | cons text texts inductionHypothesis =>
      cases read : Signal.ofLine text with
      | ok signal =>
          have isSignal : signal? text = some signal := by
            simp [signal?, read, Except.toOption]
          have isNoWarning : warning? text = none := by
            simp [warning?, read]
          simp only [List.filterMap_cons, isSignal, isNoWarning, List.length_cons]
          omega
      | error reason =>
          have isNoSignal : signal? text = none := by
            simp [signal?, read, Except.toOption]
          have isWarning : (warning? text).isSome = true := by
            simp [warning?, read]
          obtain ⟨record, isRecord⟩ := Option.isSome_iff_exists.mp isWarning
          simp only [List.filterMap_cons, isNoSignal, isRecord, List.length_cons]
          omega

theorem label_eq_empty_iff
    {reason : SignalError} :
    reason.label = "signal_empty" ↔ reason = .empty := by
  cases reason with
  | empty =>
      simp [SignalError.label]
  | unknownTopic key =>
      simp [SignalError.label]
  | badPayload key payload =>
      simp [SignalError.label]

/-- Only a blank line is refused for being empty, and it is skipped. -/
theorem isSkipped_of_ofLine_eq_empty
    (read : Signal.ofLine text = .error .empty) :
    isSkipped text = true := by
  cases Signal.ofLine_eq_iff_reading.mp read with
  | empty isGap =>
      simp [isSkipped, Text.trim_eq_nil_iff.mpr isGap]

/-- No report says that a line is empty. -/
theorem reason_ne_empty_of_mem_warnings
    {record : LogRecord}
    (member : record ∈ (kept texts).filterMap warning?) :
    record.reason ≠ some "signal_empty" := by
  obtain ⟨text, isKept, isWarning⟩ := List.mem_filterMap.mp member
  obtain ⟨-, counts⟩ := List.mem_filter.mp isKept
  intro saysEmpty
  unfold warning? at isWarning
  split at isWarning
  · cases isWarning
  · rename_i reason read
    cases isWarning
    obtain rfl := label_eq_empty_iff.mp (Option.some.inj saysEmpty)
    simp [isSkipped_of_ofLine_eq_empty read] at counts

/-- Lines of text are read one by one, and then what follows them. -/
theorem ofLines_append
    (areTexts : lines.map dropLineEnd = texts.map encode)
    (others : List (List UInt8)) :
    ofLines (lines ++ others) =
      ⟨ofTexts texts ++ (ofLines others).lines, (ofLines others).fault?⟩ := by
  induction lines generalizing texts with
  | nil =>
      obtain rfl := List.map_eq_nil_iff.mp areTexts.symm
      rfl
  | cons line lines inductionHypothesis =>
      rw [List.map_cons] at areTexts
      obtain ⟨text, laterTexts, rfl, isText, areLaterTexts⟩ :=
        List.map_eq_cons_iff.mp areTexts.symm
      rw [List.cons_append, ofLines, ← isText, Text.Utf8.decode_encode]
      simp only
      rw [inductionHypothesis areLaterTexts.symm]
      rfl

theorem ofLines_of_texts
    (areTexts : lines.map dropLineEnd = texts.map encode) :
    ofLines lines = ⟨ofTexts texts, none⟩ := by
  simpa [ofLines] using ofLines_append areTexts []

theorem exists_ofLines_eq_of_bad
    {bad : List UInt8}
    {rest : List (List UInt8)}
    (shape : lines.map dropLineEnd = texts.map encode ++ bad :: rest)
    (isNoText : ∀ text, bad ≠ encode text) :
    ∃ fault, ofLines lines = ⟨ofTexts texts, some fault⟩ := by
  obtain ⟨good, others, rfl, areTexts, othersShape⟩ := List.map_eq_append_iff.mp shape
  obtain ⟨line, later, rfl, rfl, -⟩ := List.map_eq_cons_iff.mp othersShape
  obtain ⟨fault, isFault⟩ := Text.Utf8.exists_decode_eq_error isNoText
  refine ⟨fault, ?_⟩
  rw [ofLines_append areTexts, ofLines, isFault]
  simp

/-- A stream that is cut behind a line feed is read in two parts. -/
theorem ofBytes_append
    (noFault : (ofBytes (front ++ [10])).fault? = none)
    (back : List UInt8) :
    ofBytes (front ++ 10 :: back) =
      ⟨(ofBytes (front ++ [10])).lines ++ (ofBytes back).lines, (ofBytes back).fault?⟩ := by
  unfold ofBytes at noFault ⊢
  rw [byteLines_append]
  generalize byteLines (front ++ [10]) = lines at noFault ⊢
  induction lines with
  | nil =>
      rfl
  | cons line lines inductionHypothesis =>
      rw [List.cons_append, ofLines, ofLines]
      rw [ofLines] at noFault
      cases decoded : Text.Utf8.decode (dropLineEnd line) with
      | error fault =>
          rw [decoded] at noFault
          cases noFault
      | ok text =>
          rw [decoded] at noFault
          simp only
          rw [inductionHypothesis noFault]
          rfl

/-- A feed that has published and reported these lines and has come to its end. -/
structure IsComplete
    (feed : Feed)
    (texts : List String) :
    Prop where
  signals_eq : feed.signals = (kept texts).filterMap signal?
  published_eq : feed.published = .ok feed.signals.length
  records_eq : feed.records = (kept texts).filterMap warning? ++ [feed.closedRecord]
  reason_ne_empty : ∀ record ∈ feed.records, record.reason ≠ some "signal_empty"
  length_add_length :
    feed.signals.length + ((kept texts).filterMap warning?).length = (kept texts).length

/-- A feed that has published and reported these lines and then broke off. -/
structure IsBroken
    (feed : Feed)
    (texts : List String) :
    Prop where
  signals_eq : feed.signals = (kept texts).filterMap signal?
  records_eq : feed.records = (kept texts).filterMap warning?
  published_eq : ∃ fault, feed.published = .error fault

/-- A feed does what two feeds do one after the other. -/
structure Joins (whole first second : Feed) : Prop where
  signals_eq : whole.signals = first.signals ++ second.signals
  published_eq :
    ∃ ofFirst ofSecond,
      first.published = .ok ofFirst ∧
        second.published = .ok ofSecond ∧ whole.published = .ok (ofFirst + ofSecond)

theorem isComplete_of_texts (texts : List String) : IsComplete ⟨ofTexts texts, none⟩ texts where
  signals_eq := filterMap_signal?_ofTexts texts
  published_eq := rfl
  records_eq := by
    simp [records, filterMap_record?_ofTexts]
  reason_ne_empty := by
    intro record member
    simp only [records, filterMap_record?_ofTexts] at member
    rcases List.mem_append.mp member with isWarning | isClosed
    · exact reason_ne_empty_of_mem_warnings isWarning
    · obtain rfl := List.mem_singleton.mp isClosed
      simp [closedRecord]
  length_add_length := by
    rw [signals, filterMap_signal?_ofTexts]
    exact length_signals_add_length_warnings (kept texts)

theorem isBroken_of_texts
    (texts : List String)
    (fault : Text.Utf8.Fault) :
    IsBroken ⟨ofTexts texts, some fault⟩ texts where
  signals_eq := filterMap_signal?_ofTexts texts
  records_eq := by
    simp [records, filterMap_record?_ofTexts]
  published_eq := ⟨fault, rfl⟩

/-- Behind a line feed a stream of text can be cut. -/
theorem joins_of_texts
    (areTexts : (byteLines (front ++ 10 :: back)).map dropLineEnd = texts.map encode) :
    Joins (ofBytes (front ++ 10 :: back)) (ofBytes (front ++ [10])) (ofBytes back) := by
  rw [byteLines_append, List.map_append] at areTexts
  obtain ⟨first, second, -, areFirst, areSecond⟩ := List.map_eq_append_iff.mp areTexts.symm
  have frontRead : ofBytes (front ++ [10]) = ⟨ofTexts first, none⟩ :=
    ofLines_of_texts areFirst.symm
  have backRead : ofBytes back = ⟨ofTexts second, none⟩ :=
    ofLines_of_texts areSecond.symm
  have wholeRead := ofBytes_append (by rw [frontRead]) back
  have sameSignals :
      (ofBytes (front ++ 10 :: back)).signals =
        (ofBytes (front ++ [10])).signals ++ (ofBytes back).signals := by
    rw [wholeRead]
    simp [signals]
  refine ⟨sameSignals, _, _, by rw [frontRead]; rfl, by rw [backRead]; rfl, ?_⟩
  rw [frontRead, backRead] at sameSignals
  rw [published, sameSignals, wholeRead, backRead, List.length_append]

/--
Every stream of bytes falls into lines in one way.  If all of them are text, then the
signals among them are published and the other lines that count are reported, and the
stream may be cut behind any line feed.  Otherwise only the lines before the first one
that is no text are published and reported.
-/
theorem ofBytes_publishes_signal_lines
    {Subscriber World : Type}
    (bus : Bus Subscriber)
    (receive : Subscriber → Signal → World → World)
    (world : World)
    (bytes : List UInt8) :
    (∃! lines, Lined bytes lines) ∧
      ∀ lines, Lined bytes lines →
        (∀ texts : List String, lines = texts.map encode →
          IsComplete (ofBytes bytes) texts ∧
            (ofBytes bytes).publish bus receive world =
              ((kept texts).filterMap signal?).foldl
                (fun world signal => bus.publish receive signal world) world ∧
            ∀ front back, bytes = front ++ 10 :: back →
              Joins (ofBytes bytes) (ofBytes (front ++ [10])) (ofBytes back) ∧
                (ofBytes bytes).publish bus receive world =
                  (ofBytes back).publish bus receive
                    ((ofBytes (front ++ [10])).publish bus receive world)) ∧
          ∀ (texts : List String) bad rest, lines = texts.map encode ++ bad :: rest →
            (∀ text, bad ≠ encode text) →
            IsBroken (ofBytes bytes) texts ∧
              (ofBytes bytes).publish bus receive world =
                ((kept texts).filterMap signal?).foldl
                  (fun world signal => bus.publish receive signal world) world := by
  refine
    ⟨⟨_, lined_map_byteLines bytes, fun lines lined => lined.eq_map_byteLines⟩,
      fun lines lined => ⟨?_, ?_⟩⟩
  · rintro texts areTexts
    rw [lined.eq_map_byteLines] at areTexts
    have read : ofBytes bytes = ⟨ofTexts texts, none⟩ := ofLines_of_texts areTexts
    have complete : IsComplete (ofBytes bytes) texts := by
      rw [read]
      exact isComplete_of_texts texts
    refine ⟨complete, ?_, ?_⟩
    · rw [publish, complete.signals_eq]
    · rintro front back rfl
      have joins := joins_of_texts areTexts
      refine ⟨joins, ?_⟩
      rw [publish, joins.signals_eq, List.foldl_append]
      rfl
  · intro texts bad rest shape isNoText
    rw [lined.eq_map_byteLines] at shape
    obtain ⟨fault, read⟩ := exists_ofLines_eq_of_bad shape isNoText
    have broken : IsBroken (ofBytes bytes) texts := by
      rw [ofBytes, read]
      exact isBroken_of_texts texts fault
    exact ⟨broken, by rw [publish, broken.signals_eq]⟩

/-- A line with a carriage return, a comment and a line that is no signal. -/
def scriptedTexts : List String :=
  ["input.touch 1", "# nothing", "input.touch maybe"]

/-- The scripted lines, and a last one that is no text. -/
def brokenStream : List UInt8 :=
  encode "input.touch 1" ++
    13 :: 10 :: (encode "# nothing" ++ 10 :: (encode "input.touch maybe" ++ 10 :: [255]))

theorem lined_brokenStream : Lined brokenStream (scriptedTexts.map encode ++ [[255]]) := by
  refine .returnFeed (by decide) (.feed (by decide) (by decide) (.feed (by decide) (by decide) ?_))
  exact .unended (by decide) (by decide)

/-- Two subscribers of touches, and one of buttons. -/
def listeners : Bus String :=
  ((({} : Bus String).subscribe .touch "first").subscribe .button "other").subscribe .touch "last"

theorem ofBytes_publishes_before_broken_line :
    Lined brokenStream (scriptedTexts.map encode ++ [[255]]) ∧
      (∀ text, [255] ≠ encode text) ∧
        (ofBytes brokenStream).signals = [.touch true] ∧
          (ofBytes brokenStream).publish listeners
              (fun name signal called => called ++ [(name, signal)]) [] =
            [("first", .touch true), ("last", .touch true)] ∧
            ∃ fault, (ofBytes brokenStream).published = .error fault := by
  have isNoText : ∀ text, [255] ≠ encode text := by
    intro text isText
    have decoded := Text.Utf8.decode_encode text
    rw [← isText] at decoded
    cases decoded
  have readsLines :=
    ofBytes_publishes_signal_lines listeners
      (fun name signal called => called ++ [(name, signal)]) [] brokenStream
  obtain ⟨broken, publishes⟩ :=
    (readsLines.2 _ lined_brokenStream).2 scriptedTexts [255] [] rfl isNoText
  refine ⟨lined_brokenStream, isNoText, ?_, ?_, broken.published_eq⟩
  · rw [broken.signals_eq]
    decide
  · rw [publishes]
    decide

end Feed

end RefreshRate
