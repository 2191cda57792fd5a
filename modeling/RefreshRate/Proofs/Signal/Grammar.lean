import Mathlib.Data.List.Forall2
import RefreshRate.Proofs.Signal.TopicKey
import RefreshRate.Proofs.Text.Numeral
import RefreshRate.Signal.Line

namespace RefreshRate.Signal

/-!
# The grammar of signal lines

Whatever blanks stand around them, the words of a line decide which signal it is: the key
of a topic, and the words of a payload of that topic.  Every other line is refused, and
the reason says where it stops to be a signal.
-/

variable
  {word payload key rest : List Char}
  {words : List (List Char)}
  {topic : Topic}
  {signal : Signal}
  {flag : Bool}

/-- A word for a truth value. -/
inductive IsFlag : List Char → Bool → Prop where
  | one :
      IsFlag "1".toList true
  | yes :
      IsFlag "true".toList true
  | zero :
      IsFlag "0".toList false
  | no :
      IsFlag "false".toList false

/-- A word for the number of a task, which has 32 bits. -/
def IsTask
    (word : List Char)
    (task : Int) :
    Prop :=
  Text.Decimal.IsNumeral word task ∧ -2147483648 ≤ task ∧ task < 2147483648

/-- Words are the payload of a signal. -/
inductive IsPayload : List (List Char) → Signal → Prop where
  | touch
      {word : List Char}
      {pressed : Bool}
      (isFlag : IsFlag word pressed) :
      IsPayload [word] (.touch pressed)
  | button
      {word : List Char}
      {pressed : Bool}
      (isFlag : IsFlag word pressed) :
      IsPayload [word] (.button pressed)
  | inputState
      {hold swipe gesture : List Char}
      {state : InputState}
      (isHold : IsFlag hold state.inHold)
      (isSwipe : IsFlag swipe state.inSwipe)
      (isGesture : IsFlag gesture state.inGesture) :
      IsPayload [hold, swipe, gesture] (.inputState state)
  | topApp
      {package : List Char} :
      IsPayload [package] (.topApp (String.ofList package))
  | offscreen
      {word : List Char}
      {isOff : Bool}
      (isFlag : IsFlag word isOff) :
      IsPayload [word] (.offscreen isOff)
  | cgroup
      {group : String}
      {words : List (List Char)}
      {tasks : List Int}
      (areTasks : List.Forall₂ IsTask words tasks) :
      IsPayload words (.cgroup group tasks)

/-- Words spell a signal: the key of its topic and its payload. -/
def IsSpelledBy
    (signal : Signal) :
    List (List Char) → Prop
  | [] =>
      False
  | key :: payload =>
      Topic.IsKey key signal.topic ∧ IsPayload payload signal

theorem flag?_eq_some_iff : flag? word = some flag ↔ IsFlag word flag := by
  constructor
  · intro read
    simp only [flag?, Bool.or_eq_true, decide_eq_true_eq] at read
    split_ifs at read with isTrue isFalse
    · cases read
      rcases isTrue with rfl | rfl
      · exact .one
      · exact .yes
    · cases read
      rcases isFalse with rfl | rfl
      · exact .zero
      · exact .no
  · intro isFlag
    cases isFlag with
    | one | yes | zero | no =>
        rfl

theorem IsFlag.isWord (isFlag : IsFlag word flag) : Text.IsWord word := by
  cases isFlag with
  | one | yes | zero | no =>
      decide

theorem signed?_eq_some_iff_isTask
    {task : Int} :
    Text.Decimal.signed? .bits32 word = some task ↔ IsTask word task :=
  Text.Decimal.signed?_eq_some_iff

/-- All words have a value if each of them has one. -/
theorem all?_eq_some_iff
    {Value : Type}
    {value? : List Char → Option Value}
    {values : List Value} :
    all? value? words = some values ↔
      List.Forall₂ (fun word value => value? word = some value) words values := by
  induction words generalizing values with
  | nil =>
      simp [all?, eq_comm]
  | cons word others inductionHypothesis =>
      rw [List.forall₂_cons_left_iff]
      constructor
      · intro read
        simp only [all?] at read
        split at read
        · rename_i value valuesOfOthers isValue othersRead
          cases read
          exact ⟨value, valuesOfOthers, isValue, inductionHypothesis.mp othersRead, rfl⟩
        · cases read
      · rintro ⟨value, valuesOfOthers, isValue, othersRead, rfl⟩
        simp [all?, isValue, inductionHypothesis.mpr othersRead]

/-- A flag that is the whole payload is its only word. -/
theorem flag?_trim_eq_some_iff :
    flag? (Text.trim rest) = some flag ↔ ∃ word, Text.words rest = [word] ∧ IsFlag word flag := by
  rw [flag?_eq_some_iff]
  constructor
  · intro isFlag
    exact ⟨Text.trim rest, Text.words_eq_singleton_iff.mpr ⟨isFlag.isWord, rfl⟩, isFlag⟩
  · rintro ⟨word, oneWord, isFlag⟩
    obtain ⟨-, rfl⟩ := Text.words_eq_singleton_iff.mp oneWord
    exact isFlag

theorem inputState?_trim_eq_some_iff
    {state : InputState} :
    inputState? (Text.trim rest) = some state ↔
      ∃ hold swipe gesture,
        Text.words rest = [hold, swipe, gesture] ∧
          IsFlag hold state.inHold ∧
            IsFlag swipe state.inSwipe ∧ IsFlag gesture state.inGesture := by
  unfold inputState?
  rw [Text.words_trim]
  constructor
  · intro read
    split at read
    · rename_i inHold inSwipe inGesture areFlags
      cases read
      have spelled := all?_eq_some_iff.mp areFlags
      simp only [flag?_eq_some_iff, List.forall₂_cons_right_iff, List.forall₂_nil_right_iff]
        at spelled
      obtain
        ⟨hold, _, isHold, ⟨swipe, _, isSwipe, ⟨gesture, _, isGesture, rfl, rfl⟩, rfl⟩, shape⟩ :=
        spelled
      exact ⟨hold, swipe, gesture, shape, isHold, isSwipe, isGesture⟩
    · cases read
  · rintro ⟨hold, swipe, gesture, shape, isHold, isSwipe, isGesture⟩
    have areFlags :
        all? flag? [hold, swipe, gesture] =
          some [state.inHold, state.inSwipe, state.inGesture] := by
      rw [all?_eq_some_iff]
      simp only [flag?_eq_some_iff]
      exact .cons isHold (.cons isSwipe (.cons isGesture .nil))
    rw [shape, areFlags]

theorem package?_trim_eq_some_iff
    {package : String} :
    package? (Text.trim rest) = some package ↔ Text.words rest = [package.toList] := by
  rw [Text.words_eq_singleton_iff]
  unfold package?
  constructor
  · intro read
    split_ifs at read with noPackage
    cases read
    simp only [Bool.or_eq_true, List.isEmpty_iff, List.any_eq_true, not_or, not_exists, not_and,
      Bool.not_eq_true] at noPackage
    rw [String.toList_ofList]
    exact ⟨noPackage, rfl⟩
  · rintro ⟨⟨notEmpty, noBlank⟩, isPackage⟩
    have isAccepted : ¬(package.toList.isEmpty || package.toList.any Text.isBlank) = true := by
      simpa [notEmpty] using noBlank
    rw [isPackage, if_neg isAccepted, String.ofList_toList]

theorem tasks?_trim_eq_some_iff
    {tasks : List Int} :
    tasks? (Text.trim rest) = some tasks ↔ List.Forall₂ IsTask (Text.words rest) tasks := by
  unfold tasks?
  rw [Text.words_trim, all?_eq_some_iff]
  simp only [signed?_eq_some_iff_isTask]

/-- The payload of a topic is accepted if its words are one. -/
theorem ofPayload?_trim_eq_some_iff :
    ofPayload? topic (Text.trim rest) = some signal ↔
      signal.topic = topic ∧ IsPayload (Text.words rest) signal := by
  constructor
  · intro read
    cases topic with
    | touch =>
        obtain ⟨pressed, isRead, rfl⟩ := Option.map_eq_some_iff.mp read
        obtain ⟨word, oneWord, isFlag⟩ := flag?_trim_eq_some_iff.mp isRead
        exact ⟨rfl, oneWord ▸ .touch isFlag⟩
    | button =>
        obtain ⟨pressed, isRead, rfl⟩ := Option.map_eq_some_iff.mp read
        obtain ⟨word, oneWord, isFlag⟩ := flag?_trim_eq_some_iff.mp isRead
        exact ⟨rfl, oneWord ▸ .button isFlag⟩
    | inputState =>
        obtain ⟨state, isRead, rfl⟩ := Option.map_eq_some_iff.mp read
        obtain ⟨hold, swipe, gesture, shape, isHold, isSwipe, isGesture⟩ :=
          inputState?_trim_eq_some_iff.mp isRead
        exact ⟨rfl, shape ▸ .inputState isHold isSwipe isGesture⟩
    | topApp =>
        obtain ⟨package, isRead, rfl⟩ := Option.map_eq_some_iff.mp read
        have isPayload := @IsPayload.topApp package.toList
        rw [String.ofList_toList] at isPayload
        exact ⟨rfl, package?_trim_eq_some_iff.mp isRead ▸ isPayload⟩
    | offscreen =>
        obtain ⟨isOff, isRead, rfl⟩ := Option.map_eq_some_iff.mp read
        obtain ⟨word, oneWord, isFlag⟩ := flag?_trim_eq_some_iff.mp isRead
        exact ⟨rfl, oneWord ▸ .offscreen isFlag⟩
    | cgroup group =>
        obtain ⟨tasks, isRead, rfl⟩ := Option.map_eq_some_iff.mp read
        exact ⟨rfl, .cgroup (tasks?_trim_eq_some_iff.mp isRead)⟩
  · rintro ⟨rfl, isPayload⟩
    generalize shape : Text.words rest = words at isPayload
    cases isPayload with
    | touch isFlag | button isFlag | offscreen isFlag =>
        simp [ofPayload?, topic, flag?_trim_eq_some_iff.mpr ⟨_, shape, isFlag⟩]
    | inputState isHold isSwipe isGesture =>
        have isRead :=
          inputState?_trim_eq_some_iff.mpr ⟨_, _, _, shape, isHold, isSwipe, isGesture⟩
        simp [ofPayload?, Signal.topic, isRead]
    | @topApp package =>
        have isRead : package? (Text.trim rest) = some (String.ofList package) :=
          package?_trim_eq_some_iff.mpr (by rw [shape, String.toList_ofList])
        simp [ofPayload?, Signal.topic, isRead]
    | cgroup areTasks =>
        subst shape
        simp [ofPayload?, Signal.topic, tasks?_trim_eq_some_iff.mpr areTasks]

theorem ofLine_of_isGap
    {line : String}
    (isGap : Text.IsGap line.toList) :
    ofLine line = .error .empty := by
  rw [ofLine, Text.trim_eq_nil_iff.mpr isGap]
  rfl

/-- A line is read by its first word and what follows it. -/
theorem ofLine_of_opens
    {line : String}
    (opens : Text.Opens line.toList key rest) :
    ofLine line =
      match Topic.ofKey (String.ofList key) with
      | .error reason =>
          .error reason
      | .ok topic =>
          match ofPayload? topic (Text.trim rest) with
          | some signal =>
              .ok signal
          | none =>
              .error (.badPayload (String.ofList key) (String.ofList (Text.trim rest))) := by
  obtain ⟨kept, trimmed, endsWord, sameRest⟩ := opens.exists_trim_eq
  obtain ⟨gap, -, -, ⟨notEmpty, noBlank⟩, -⟩ := opens
  have keyKept : ∀ c ∈ key, (!Text.isBlank c) = true := by
    intro c member
    simp [noBlank c member]
  have keyIs : lineKey (key ++ kept) = key := by
    rw [lineKey, List.takeWhile_append_of_pos keyKept]
    cases kept with
    | nil =>
        simp
    | cons c kept =>
        have blank : Text.isBlank c = true := endsWord c rfl
        simp [blank]
  have payloadIs : linePayload (key ++ kept) = Text.trim rest := by
    rw [linePayload, List.dropWhile_append_of_pos keyKept, ← sameRest]
    cases kept with
    | nil =>
        rfl
    | cons c kept =>
        have blank : Text.isBlank c = true := endsWord c rfl
        simp [blank]
  have isLine : (key ++ kept).isEmpty = false := by
    simp [notEmpty]
  rw [ofLine, trimmed, ofTrimmed, keyIs, payloadIs, isLine]
  rfl

/-- How a line is read: as the signal that its words spell, or not at all. -/
inductive Reading (line : String) : Except SignalError Signal → Prop where
  | empty
      (isGap : Text.IsGap line.toList) :
      Reading line (.error .empty)
  | unknownTopic
      {key : String}
      {rest : List Char}
      (opens : Text.Opens line.toList key.toList rest)
      (isNoKey : ∀ topic, ¬Topic.IsKey key.toList topic) :
      Reading line (.error (.unknownTopic key))
  | accepted
      {signal : Signal}
      (isSpelled : signal.IsSpelledBy (Text.words line.toList)) :
      Reading line (.ok signal)
  | badPayload
      {key payload : String}
      {rest : List Char}
      {topic : Topic}
      (opens : Text.Opens line.toList key.toList rest)
      (isKey : Topic.IsKey key.toList topic)
      (notSpelled : ∀ signal : Signal, ¬signal.IsSpelledBy (Text.words line.toList))
      (isPayload : payload.toList = Text.trim rest) :
      Reading line (.error (.badPayload key payload))

theorem reading_ofLine (line : String) : Reading line (ofLine line) := by
  rcases Text.isGap_or_exists_opens line.toList with isGap | ⟨key, rest, opens⟩
  · rw [ofLine_of_isGap isGap]
    exact .empty isGap
  · have keyIs : (String.ofList key).toList = key := String.toList_ofList
    have opensWithKey : Text.Opens line.toList (String.ofList key).toList rest := by
      rwa [keyIs]
    rw [ofLine_of_opens opens]
    cases keyRead : Topic.ofKey (String.ofList key) with
    | error reason =>
        obtain ⟨rfl, isNoKey⟩ := Topic.ofKey_eq_error_iff.mp keyRead
        exact .unknownTopic opensWithKey isNoKey
    | ok topic =>
        have isKey := Topic.ofKey_eq_ok_iff.mp keyRead
        cases payloadRead : ofPayload? topic (Text.trim rest) with
        | some signal =>
            obtain ⟨rfl, isPayload⟩ := ofPayload?_trim_eq_some_iff.mp payloadRead
            rw [keyIs] at isKey
            have isSpelled : signal.IsSpelledBy (Text.words line.toList) := by
              rw [opens.words_eq]
              exact ⟨isKey, isPayload⟩
            simpa only [payloadRead] using Reading.accepted isSpelled
        | none =>
            simp only [payloadRead]
            refine .badPayload opensWithKey isKey (fun signal isSpelled => ?_) (by simp)
            rw [opens.words_eq] at isSpelled
            obtain ⟨isKeyOfSignal, isPayload⟩ := isSpelled
            have sameTopic : signal.topic = topic := by
              rw [← keyIs, ← Topic.ofKey_eq_ok_iff, keyRead] at isKeyOfSignal
              exact (Except.ok.inj isKeyOfSignal).symm
            rw [ofPayload?_trim_eq_some_iff.mpr ⟨sameTopic, isPayload⟩] at payloadRead
            cases payloadRead

theorem Reading.ofLine_eq
    {line : String}
    {outcome : Except SignalError Signal}
    (reading : Reading line outcome) :
    ofLine line = outcome := by
  cases reading with
  | empty isGap =>
      exact ofLine_of_isGap isGap
  | unknownTopic opens isNoKey =>
      rw [ofLine_of_opens opens, String.ofList_toList,
        Topic.ofKey_eq_error_iff.mpr ⟨rfl, isNoKey⟩]
  | accepted isSpelled =>
      rcases Text.isGap_or_exists_opens line.toList with isGap | ⟨key, rest, opens⟩
      · rw [Text.words_of_isGap isGap] at isSpelled
        cases isSpelled
      · rw [opens.words_eq] at isSpelled
        obtain ⟨isKey, isPayload⟩ := isSpelled
        rw [← String.toList_ofList (l := key), ← Topic.ofKey_eq_ok_iff] at isKey
        rw [ofLine_of_opens opens, isKey]
        simp only [ofPayload?_trim_eq_some_iff.mpr ⟨rfl, isPayload⟩]
  | badPayload opens isKey notSpelled isPayload =>
      rw [ofLine_of_opens opens, String.ofList_toList, Topic.ofKey_eq_ok_iff.mpr isKey,
        ← isPayload, String.ofList_toList]
      simp only
      split
      · rename_i signal payloadRead
        rw [isPayload] at payloadRead
        obtain ⟨rfl, isPayloadOfSignal⟩ := ofPayload?_trim_eq_some_iff.mp payloadRead
        refine absurd ?_ (notSpelled signal)
        rw [opens.words_eq]
        exact ⟨isKey, isPayloadOfSignal⟩
      · rfl

theorem ofLine_eq_iff_reading
    {line : String}
    {outcome : Except SignalError Signal} :
    ofLine line = outcome ↔ Reading line outcome := by
  constructor
  · rintro rfl
    exact reading_ofLine line
  · exact Reading.ofLine_eq

theorem ofLine_eq_ok_iff
    {line : String} :
    ofLine line = .ok signal ↔ signal.IsSpelledBy (Text.words line.toList) := by
  rw [ofLine_eq_iff_reading]
  constructor
  · rintro ⟨⟩
    assumption
  · exact Reading.accepted

/-- The strings of a signal are words, and its task numbers have 32 bits. -/
def IsWritable : Signal → Prop
  | .touch _ | .button _ | .inputState _ | .offscreen _ =>
      True
  | .topApp package =>
      Text.IsWord package.toList
  | .cgroup group tasks =>
      Text.IsWord group.toList ∧ ∀ task ∈ tasks, -2147483648 ≤ task ∧ task < 2147483648

theorem isFlag_flagChar (flag : Bool) : IsFlag [flagChar flag] flag := by
  cases flag with
  | true =>
      exact .one
  | false =>
      exact .zero

theorem IsWritable.isSpelledBy
    (isWritable : signal.IsWritable) :
    signal.IsSpelledBy (signal.topic.key.toList :: signal.payloadWords) := by
  cases signal with
  | touch pressed =>
      exact ⟨.touch, .touch (isFlag_flagChar pressed)⟩
  | button pressed =>
      exact ⟨.button, .button (isFlag_flagChar pressed)⟩
  | inputState state =>
      exact
        ⟨.inputState,
          .inputState (isFlag_flagChar _) (isFlag_flagChar _) (isFlag_flagChar _)⟩
  | topApp package =>
      have isPayload := @IsPayload.topApp package.toList
      rw [String.ofList_toList] at isPayload
      exact ⟨.topApp, isPayload⟩
  | offscreen isOff =>
      exact ⟨.offscreen, .offscreen (isFlag_flagChar isOff)⟩
  | cgroup group tasks =>
      obtain ⟨⟨named, -⟩, inRange⟩ := isWritable
      refine ⟨Topic.isKey_cgroup named, .cgroup ?_⟩
      rw [payloadWords, List.forall₂_map_left_iff, List.forall₂_same]
      intro task member
      exact ⟨Text.Decimal.isNumeral_chars task, inRange task member⟩

/-- The key of a topic is a word if the name in it is one. -/
theorem isWord_key
    (isWordOfGroup : ∀ group, topic = .cgroup group → Text.IsWord group.toList) :
    Text.IsWord topic.key.toList := by
  cases topic with
  | touch | button | inputState | topApp | offscreen =>
      decide
  | cgroup group =>
      obtain ⟨named, noBlank⟩ := isWordOfGroup group rfl
      rw [Topic.toList_key_cgroup]
      refine ⟨by simp, fun c inKey => ?_⟩
      have opening : Text.IsWord "cgroup.".toList := by
        decide
      have closing : Text.IsWord ".list".toList := by
        decide
      rcases List.mem_append.mp inKey with inFront | isClosing
      · rcases List.mem_append.mp inFront with isOpening | isName
        · exact opening.2 c isOpening
        · exact noBlank c isName
      · exact closing.2 c isClosing

/-- All that is written for a signal are words. -/
theorem IsWritable.isWord_of_mem
    (isWritable : signal.IsWritable)
    (member : word ∈ signal.topic.key.toList :: signal.payloadWords) :
    Text.IsWord word := by
  rcases List.mem_cons.mp member with rfl | inPayload
  · apply isWord_key
    intro group isGroup
    cases signal with
    | cgroup group tasks =>
        cases isGroup
        exact isWritable.1
    | touch | button | inputState | topApp | offscreen =>
        cases isGroup
  · cases signal with
    | touch flag | button flag | offscreen flag =>
        obtain rfl := List.mem_singleton.mp inPayload
        exact (isFlag_flagChar flag).isWord
    | inputState state =>
        simp only [payloadWords, List.mem_cons, List.not_mem_nil, or_false] at inPayload
        rcases inPayload with rfl | rfl | rfl
        · exact (isFlag_flagChar state.inHold).isWord
        · exact (isFlag_flagChar state.inSwipe).isWord
        · exact (isFlag_flagChar state.inGesture).isWord
    | topApp package =>
        obtain rfl := List.mem_singleton.mp inPayload
        exact isWritable
    | cgroup group tasks =>
        obtain ⟨task, -, rfl⟩ := List.mem_map.mp inPayload
        exact (Text.Decimal.isNumeral_chars task).isWord

/--
The words of a line decide what it is read as: the signal that they spell, or else the
reason why they spell none.  What is written for a signal is read as this signal, whatever
blanks stand around the words.
-/
theorem ofLine_reads_spelled_signals :
    (∀ line : String,
      (ofLine line = .error .empty ↔ Text.words line.toList = []) ∧
        (∀ key,
          ofLine line = .error (.unknownTopic key) ↔
            (Text.words line.toList).head? = some key.toList ∧
              ∀ topic, ¬Topic.IsKey key.toList topic) ∧
          (∀ signal, ofLine line = .ok signal ↔ signal.IsSpelledBy (Text.words line.toList)) ∧
            (∀ key payload,
              ofLine line = .error (.badPayload key payload) ↔
                (∃ topic, Topic.IsKey key.toList topic) ∧
                  (∀ signal : Signal, ¬signal.IsSpelledBy (Text.words line.toList)) ∧
                    ∃ rest,
                      Text.Opens line.toList key.toList rest ∧
                        payload.toList = Text.trim rest) ∧
              ∀ signal,
                ofLine line = .ok signal →
                  (Text.words line.toList).head? = some signal.topic.key.toList ∧
                    ∀ other : String,
                      Text.words other.toList = Text.words line.toList →
                        ofLine other = .ok signal) ∧
      ∀ signal : Signal,
        signal.IsWritable →
          ofLine signal.line = .ok signal ∧
            ∀ line : String,
              Text.Spaced line.toList (signal.topic.key.toList :: signal.payloadWords) →
                ofLine line = .ok signal := by
  refine ⟨fun line => ⟨?_, ?_, ?_, ?_, ?_⟩, fun signal isWritable => ?_⟩
  · rw [ofLine_eq_iff_reading, Text.words_eq_nil_iff]
    constructor
    · rintro ⟨⟩
      assumption
    · exact Reading.empty
  · intro key
    rw [ofLine_eq_iff_reading]
    constructor
    · intro reading
      cases reading with
      | unknownTopic opens isNoKey =>
          exact ⟨by rw [opens.words_eq]; rfl, isNoKey⟩
    · rintro ⟨isHead, isNoKey⟩
      rcases Text.isGap_or_exists_opens line.toList with isGap | ⟨first, rest, opens⟩
      · rw [Text.words_of_isGap isGap] at isHead
        cases isHead
      · rw [opens.words_eq] at isHead
        cases isHead
        exact .unknownTopic opens isNoKey
  · intro signal
    exact ofLine_eq_ok_iff
  · intro key payload
    rw [ofLine_eq_iff_reading]
    constructor
    · intro reading
      cases reading with
      | badPayload opens isKey notSpelled isPayload =>
          exact ⟨⟨_, isKey⟩, notSpelled, _, opens, isPayload⟩
    · rintro ⟨⟨topic, isKey⟩, notSpelled, rest, opens, isPayload⟩
      exact .badPayload opens isKey notSpelled isPayload
  · intro signal accepted
    have isSpelled := ofLine_eq_ok_iff.mp accepted
    constructor
    · cases shape : Text.words line.toList with
      | nil =>
          rw [shape] at isSpelled
          cases isSpelled
      | cons key payload =>
          rw [shape] at isSpelled
          rw [isSpelled.1.toList_key_eq]
          rfl
    · intro other sameWords
      rwa [ofLine_eq_ok_iff, sameWords]
  · have written (line : String)
        (spaced : Text.Spaced line.toList (signal.topic.key.toList :: signal.payloadWords)) :
        ofLine line = .ok signal := by
      rw [ofLine_eq_ok_iff, spaced.words_eq]
      exact isWritable.isSpelledBy
    refine ⟨written signal.line ?_, written⟩
    rw [line, String.toList_ofList]
    exact Text.spaced_intercalate fun word member => isWritable.isWord_of_mem member

/-- A control group whose name looks like the end of a key, among blanks of many kinds. -/
def wideLine : String :=
  "\u00a0cgroup.a.list.list\t0\u3000-7\r"

theorem ofLine_reads_wideLine :
    ofLine wideLine = .ok (.cgroup "a.list" [0, -7]) ∧
      (Text.words wideLine.toList).head? = some "cgroup.a.list.list".toList ∧
        ofLine "cgroup.a.list.list 0 -7" = .ok (.cgroup "a.list" [0, -7]) := by
  obtain ⟨read, written⟩ := ofLine_reads_spelled_signals
  have isWritable : (Signal.cgroup "a.list" [0, -7]).IsWritable :=
    ⟨by decide, by decide⟩
  have spaced :
      Text.Spaced wideLine.toList
        ["cgroup.a.list.list".toList, "0".toList, "-7".toList] :=
    Text.words_eq_iff.mp (by decide)
  have accepted : ofLine wideLine = .ok (.cgroup "a.list" [0, -7]) :=
    (written _ isWritable).2 wideLine spaced
  obtain ⟨-, -, -, -, ofAccepted⟩ := read wideLine
  obtain ⟨isHead, alike⟩ := ofAccepted _ accepted
  exact ⟨accepted, isHead, alike _ (by decide)⟩

end RefreshRate.Signal
