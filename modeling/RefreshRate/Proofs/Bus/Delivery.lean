import Mathlib.Data.List.Basic
import RefreshRate.Proofs.Bus.Reentrancy

namespace RefreshRate.Bus

/-!
# Who is called by a publish

A publish calls those who are registered on its topic when it is entered, once for each of
their registrations and in their order.  Nothing that is done while it goes on changes
that, but a panic ends it together with all publishes around it.  The registry has every
subscription that was made, whatever else happened.
-/

variable
  {Subscriber World : Type}
  {react : Subscriber → Signal → Program Subscriber World}
  {start scene next final : Scene Subscriber World}
  {noted? : Option (Entry Subscriber)}
  {log before middle after : List (Entry Subscriber)}
  {stack stackAfter : List (Frame Subscriber World)}
  {due : List (Subscriber × Signal)}
  {number : Nat}
  {signal : Signal}

/-- The registration that an event makes. -/
def Event.registration? : Event Subscriber → Option (Topic × Subscriber)
  | .subscribed topic subscriber =>
      some (topic, subscriber)
  | _ =>
      none

/-- The bus with all registrations that are noted in a log. -/
def extend
    (bus : Bus Subscriber)
    (log : List (Entry Subscriber)) :
    Bus Subscriber where
  registrations := bus.registrations ++ log.filterMap fun entry => entry.event.registration?

/-- What a publish of a signal has to deliver. -/
def dueCalls
    (bus : Bus Subscriber)
    (signal : Signal) :
    List (Subscriber × Signal) :=
  (bus.subscribers signal.topic).map fun subscriber => (subscriber, signal)

/-- The call that an entry notes, if it belongs to the publish with a number. -/
def Entry.call?
    (number : Nat)
    (entry : Entry Subscriber) :
    Option (Subscriber × Signal) :=
  match entry.event with
  | .called subscriber signal =>
      if entry.owner = number then some (subscriber, signal) else none
  | _ =>
      none

/-- The calls of the publish with a number. -/
def calls
    (number : Nat)
    (log : List (Entry Subscriber)) :
    List (Subscriber × Signal) :=
  log.filterMap (Entry.call? number)

/-- Somebody has panicked. -/
def HasPanic (log : List (Entry Subscriber)) : Prop :=
  ∃ owner message, ⟨owner, .panicked message⟩ ∈ log

@[simp]
theorem extend_nil (bus : Bus Subscriber) : bus.extend [] = bus := by
  simp [extend]

theorem extend_append
    (bus : Bus Subscriber)
    (before after : List (Entry Subscriber)) :
    bus.extend (before ++ after) = (bus.extend before).extend after := by
  simp [extend]

theorem calls_append
    (number : Nat)
    (before after : List (Entry Subscriber)) :
    calls number (before ++ after) = calls number before ++ calls number after :=
  List.filterMap_append

theorem Moves.bus_eq
    (moves : Moves react scene noted? next) :
    next.bus = scene.bus.extend noted?.toList := by
  cases moves with
  | subscribe =>
      rfl
  | begin | finish | panic | consult | ask | enter | call | leave =>
      exact (extend_nil _).symm.trans rfl

theorem Reaches.bus_eq
    (reaches : Reaches react start log final) :
    final.bus = start.bus.extend log := by
  induction reaches with
  | refl =>
      exact (extend_nil _).symm
  | next moves reaches inductionHypothesis =>
      rw [inductionHypothesis, moves.bus_eq, extend_append]

/-- The publish to which what is done in a frame belongs. -/
def Frame.owner : Frame Subscriber World → Nat
  | .running owner _ => owner
  | .delivering number _ _ => number

/-- What a frame may have below it: a publish is entered within those below it. -/
def Frame.IsAbove : Frame Subscriber World → Frame Subscriber World → Prop
  | .running owner _, lower => lower.owner ≤ owner
  | .delivering number _ _, lower => lower.owner < number

/-- Publishes lie on the stack in the order of their numbers. -/
structure Scene.IsOrdered (scene : Scene Subscriber World) : Prop where
  pairwise : scene.stack.Pairwise Frame.IsAbove
  bounded : ∀ frame ∈ scene.stack, frame.owner ≤ scene.published

theorem Moves.isOrdered
    (moves : Moves react scene noted? next)
    (ordered : scene.IsOrdered) :
    next.IsOrdered := by
  obtain ⟨pairwise, bounded⟩ := ordered
  cases moves with
  | begin =>
      exact ⟨List.pairwise_singleton _ _, by simp [Frame.owner]⟩
  | finish | leave =>
      exact ⟨pairwise.of_cons, fun frame member => bounded frame (List.mem_cons_of_mem _ member)⟩
  | panic =>
      exact ⟨.nil, by simp⟩
  | consult | subscribe | ask =>
      obtain ⟨isAbove, pairwise⟩ := List.pairwise_cons.mp pairwise
      refine ⟨.cons isAbove pairwise, ?_⟩
      simpa [Frame.owner] using bounded
  | enter =>
      obtain ⟨isAbove, pairwise⟩ := List.pairwise_cons.mp pairwise
      simp only [List.mem_cons, forall_eq_or_imp, Frame.owner] at bounded
      obtain ⟨ownerBounded, bounded⟩ := bounded
      refine ⟨.cons ?_ (.cons isAbove pairwise), ?_⟩
      · intro lower member
        rcases List.mem_cons.mp member with rfl | below
        · exact Nat.lt_succ_of_le ownerBounded
        · exact Nat.lt_succ_of_le (bounded lower below)
      · intro frame member
        simp only [List.mem_cons] at member
        rcases member with rfl | rfl | below
        · exact Nat.le_refl _
        · exact Nat.le_succ_of_le ownerBounded
        · exact Nat.le_succ_of_le (bounded frame below)
  | call =>
      obtain ⟨isAbove, pairwise⟩ := List.pairwise_cons.mp pairwise
      simp only [List.mem_cons, forall_eq_or_imp, Frame.owner] at bounded
      obtain ⟨numberBounded, bounded⟩ := bounded
      refine ⟨.cons ?_ (.cons isAbove pairwise), ?_⟩
      · intro lower member
        rcases List.mem_cons.mp member with rfl | below
        · exact Nat.le_refl _
        · exact Nat.le_of_lt (isAbove lower below)
      · intro frame member
        simp only [List.mem_cons] at member
        rcases member with rfl | rfl | below
        · exact numberBounded
        · exact numberBounded
        · exact bounded frame below

/-- A publish is not going on. -/
def IsClosed
    (number : Nat)
    (stack : List (Frame Subscriber World)) :
    Prop :=
  ∀ signal pending, .delivering number signal pending ∉ stack

/-- What has become of a publish since it was entered. -/
inductive Fate
    (due : List (Subscriber × Signal))
    (number : Nat)
    (signal : Signal)
    (log : List (Entry Subscriber))
    (stack : List (Frame Subscriber World)) :
    Prop where
  /-- It has made all its calls. -/
  | left
      (isLeft : ⟨number, .left⟩ ∈ log)
      (isClosed : IsClosed number stack)
      (complete : calls number log = due)
  /-- A panic has ended it. -/
  | cut
      (notLeft : ⟨number, .left⟩ ∉ log)
      (isClosed : IsClosed number stack)
      (hasPanic : HasPanic log)
      (incomplete : calls number log <+: due)
  /-- It goes on. -/
  | isOpen
      {pending : List Subscriber}
      (notLeft : ⟨number, .left⟩ ∉ log)
      (member : .delivering number signal pending ∈ stack)
      (remaining : calls number log ++ pending.map (fun subscriber => (subscriber, signal)) = due)

/-- A move that is none of its own leaves a publish as it is. -/
theorem Fate.keep
    (fate : Fate due number signal log stack)
    (notLeaving : ⟨number, .left⟩ ∉ after)
    (noCall : calls number after = [])
    (sameFrames :
      ∀ signal pending,
        .delivering number signal pending ∈ stackAfter ↔
          .delivering number signal pending ∈ stack) :
    Fate due number signal (log ++ after) stackAfter := by
  have sameCalls : calls number (log ++ after) = calls number log := by
    rw [calls_append, noCall, List.append_nil]
  have closedAfter (isClosed : IsClosed number stack) : IsClosed number stackAfter :=
    fun signal pending member => isClosed signal pending ((sameFrames signal pending).mp member)
  cases fate with
  | left isLeft isClosed complete =>
      exact
        .left (List.mem_append_left after isLeft) (closedAfter isClosed)
          (sameCalls.trans complete)
  | cut notLeft isClosed hasPanic incomplete =>
      obtain ⟨owner, message, panicked⟩ := hasPanic
      refine
        .cut (by simp [notLeft, notLeaving]) (closedAfter isClosed)
          ⟨owner, message, List.mem_append_left after panicked⟩ ?_
      rwa [sameCalls]
  | @isOpen pending notLeft member remaining =>
      refine .isOpen (by simp [notLeft, notLeaving]) ((sameFrames signal pending).mpr member) ?_
      rwa [sameCalls]

/-- A publish on top of the stack is the only one with its number. -/
theorem frame_eq_of_mem
    {other : Signal}
    {pending rest : List Subscriber}
    (ordered : (Frame.delivering number signal pending :: stack).Pairwise Frame.IsAbove)
    (member :
      Frame.delivering number other rest ∈ Frame.delivering number signal pending :: stack) :
    other = signal ∧ rest = pending := by
  rcases List.mem_cons.mp member with same | below
  · cases same
    exact ⟨rfl, rfl⟩
  · exact absurd (List.rel_of_pairwise_cons ordered below) (Nat.lt_irrefl number)

/-- The next call is the next one that is due. -/
theorem Fate.call
    {subscriber : Subscriber}
    {program : Program Subscriber World}
    {pending : List Subscriber}
    {other : Signal}
    (fate : Fate due number signal log (.delivering number other (subscriber :: pending) :: stack))
    (ordered :
      (Frame.delivering number other (subscriber :: pending) :: stack).Pairwise Frame.IsAbove) :
    Fate due number signal (log ++ [⟨number, .called subscriber other⟩])
      (.running number program :: .delivering number other pending :: stack) := by
  cases fate with
  | left isLeft isClosed complete =>
      exact absurd List.mem_cons_self (isClosed other (subscriber :: pending))
  | cut notLeft isClosed hasPanic incomplete =>
      exact absurd List.mem_cons_self (isClosed other (subscriber :: pending))
  | isOpen notLeft member remaining =>
      obtain ⟨rfl, rfl⟩ := frame_eq_of_mem ordered member
      refine .isOpen (by simp [notLeft]) (List.mem_cons_of_mem _ List.mem_cons_self) ?_
      rw [calls_append, ← remaining]
      simp [calls, Entry.call?]

/-- A publish is left when no call is due any more. -/
theorem Fate.leave
    {other : Signal}
    (fate : Fate due number signal log (.delivering number other [] :: stack))
    (ordered : (Frame.delivering number other [] :: stack).Pairwise Frame.IsAbove) :
    Fate due number signal (log ++ [⟨number, .left⟩]) stack := by
  cases fate with
  | left isLeft isClosed complete =>
      exact absurd List.mem_cons_self (isClosed other [])
  | cut notLeft isClosed hasPanic incomplete =>
      exact absurd List.mem_cons_self (isClosed other [])
  | isOpen notLeft member remaining =>
      obtain ⟨rfl, rfl⟩ := frame_eq_of_mem ordered member
      refine .left (by simp) ?_ ?_
      · intro other pending below
        exact Nat.lt_irrefl number (List.rel_of_pairwise_cons ordered below)
      · rw [calls_append, ← remaining]
        simp [calls, Entry.call?]

/-- A panic ends every publish that goes on. -/
theorem Fate.panic
    {owner : Nat}
    {message : String}
    (fate : Fate due number signal log stack) :
    Fate due number signal (log ++ [⟨owner, .panicked message⟩])
      ([] : List (Frame Subscriber World)) := by
  have noneOpen : IsClosed number ([] : List (Frame Subscriber World)) := by
    rintro signal pending ⟨⟩
  have noCall : calls number (log ++ [⟨owner, .panicked message⟩]) = calls number log := by
    rw [calls_append]
    exact List.append_nil _
  cases fate with
  | left isLeft isClosed complete =>
      exact .left (List.mem_append_left _ isLeft) noneOpen (noCall.trans complete)
  | cut notLeft isClosed hasPanic incomplete =>
      refine .cut (by simp [notLeft]) noneOpen ⟨owner, message, by simp⟩ ?_
      rwa [noCall]
  | isOpen notLeft member remaining =>
      refine .cut (by simp [notLeft]) noneOpen ⟨owner, message, by simp⟩ ?_
      rw [noCall]
      exact ⟨_, remaining⟩

/-- Whatever is done, a publish makes the calls that are due. -/
theorem Fate.moves
    (fate : Fate due number signal log scene.stack)
    (moves : Moves react scene noted? next)
    (ordered : scene.IsOrdered)
    (entered : number ≤ scene.published) :
    Fate due number signal (log ++ noted?.toList) next.stack := by
  cases moves with
  | begin | finish | consult | subscribe | ask =>
      exact fate.keep (by simp) (by simp [calls, Entry.call?]) (by simp)
  | panic =>
      exact fate.panic
  | enter =>
      refine fate.keep (by simp) (by simp [calls, Entry.call?]) ?_
      intro signal pending
      have isOther : number ≠ _ := Nat.ne_of_lt (Nat.lt_succ_of_le entered)
      simp [isOther]
  | @call _ _ _ other =>
      by_cases same : other = number
      · subst same
        exact fate.call ordered.pairwise
      · refine fate.keep (by simp) (by simp [calls, Entry.call?, same]) ?_
        simp [Ne.symm same]
  | @leave _ _ _ other =>
      by_cases same : other = number
      · subst same
        exact fate.leave ordered.pairwise
      · refine fate.keep (by simp [Ne.symm same]) (by simp [calls, Entry.call?]) ?_
        simp [Ne.symm same]

theorem Moves.published_le (moves : Moves react scene noted? next) :
    scene.published ≤ next.published := by
  cases moves with
  | enter =>
      exact Nat.le_succ _
  | begin | finish | panic | consult | subscribe | ask | call | leave =>
      exact Nat.le_refl _

theorem Fate.reaches
    (fate : Fate due number signal before scene.stack)
    (reaches : Reaches react scene after final)
    (ordered : scene.IsOrdered)
    (entered : number ≤ scene.published) :
    Fate due number signal (before ++ after) final.stack := by
  induction reaches generalizing before with
  | refl =>
      rwa [List.append_nil]
  | next moves reaches inductionHypothesis =>
      rw [← List.append_assoc]
      exact
        inductionHypothesis (fate.moves moves ordered entered) (moves.isOrdered ordered)
          (Nat.le_trans entered moves.published_le)

section Numbers

variable
  {entry : Entry Subscriber}
  {owner bound : Nat}

/-- While a publish goes on, everything is done for it or for publishes within it. -/
theorem Moves.le_owner
    {pending : List Subscriber}
    (moves : Moves react scene (some entry) next)
    (ordered : scene.IsOrdered)
    (member : .delivering number signal pending ∈ scene.stack) :
    number ≤ entry.owner := by
  have pairwise := ordered.pairwise
  cases moves with
  | begin =>
      cases member
  | panic | subscribe | ask | enter =>
      simp only [List.mem_cons, reduceCtorEq, false_or] at member
      exact List.rel_of_pairwise_cons pairwise member
  | call | leave =>
      rcases List.mem_cons.mp member with same | below
      · cases same
        exact Nat.le_refl _
      · exact Nat.le_of_lt (List.rel_of_pairwise_cons pairwise below)

theorem Moves.owner_le
    (moves : Moves react scene (some entry) next)
    (ordered : scene.IsOrdered) :
    entry.owner ≤ scene.published := by
  have bounded := ordered.bounded
  cases moves with
  | begin =>
      exact Nat.zero_le _
  | panic | subscribe | ask | enter | call | leave =>
      exact bounded _ List.mem_cons_self

theorem Reaches.isOrdered
    (reaches : Reaches react start log final)
    (ordered : start.IsOrdered) :
    final.IsOrdered :=
  reaches.invariant Moves.isOrdered ordered

theorem Reaches.published_le (reaches : Reaches react start log final) :
    start.published ≤ final.published := by
  induction reaches with
  | refl =>
      exact Nat.le_refl _
  | next moves reaches inductionHypothesis =>
      exact Nat.le_trans moves.published_le inductionHypothesis

/-- Only publishes that have been entered have entries. -/
theorem Reaches.owner_le
    (reaches : Reaches react start log final)
    (ordered : start.IsOrdered)
    (member : entry ∈ log) :
    entry.owner ≤ final.published := by
  obtain ⟨before, after, split⟩ := List.mem_iff_append.mp member
  obtain ⟨scene, next, earlier, moves, later⟩ := reaches.exists_moves_of_split split
  have entered := moves.owner_le (earlier.isOrdered ordered)
  exact Nat.le_trans entered (Nat.le_trans moves.published_le later.published_le)

/-- The next number is given to a publish, which has all its calls still before it. -/
theorem Moves.entered
    (moves : Moves react scene (some ⟨owner, .entered number signal⟩) next) :
    number = scene.published + 1 ∧
      next.published = number ∧
        .delivering number signal (scene.bus.subscribers signal.topic) ∈ next.stack := by
  cases moves with
  | enter =>
      exact ⟨rfl, rfl, List.mem_cons_self⟩

theorem Reaches.lt_of_entered
    (reaches : Reaches react start log final)
    (member : ⟨owner, .entered number signal⟩ ∈ log) :
    start.published < number ∧ number ≤ final.published := by
  obtain ⟨before, after, split⟩ := List.mem_iff_append.mp member
  obtain ⟨scene, next, earlier, moves, later⟩ := reaches.exists_moves_of_split split
  obtain ⟨isNext, published, -⟩ := moves.entered
  have startLe := earlier.published_le
  have leFinal := later.published_le
  omega

/-- Nothing on the stack belongs to a publish with a number up to a bound. -/
def Scene.IsPast
    (bound : Nat)
    (scene : Scene Subscriber World) :
    Prop :=
  bound ≤ scene.published ∧ ∀ frame ∈ scene.stack, frame.owner = 0 ∨ bound < frame.owner

theorem Moves.isPast
    (moves : Moves react scene noted? next)
    (isPast : scene.IsPast bound) :
    next.IsPast bound := by
  refine ⟨Nat.le_trans isPast.1 moves.published_le, ?_⟩
  obtain ⟨bounded, newOwners⟩ := isPast
  cases moves with
  | begin =>
      simp [Frame.owner]
  | panic =>
      simp
  | finish | leave =>
      exact fun frame member => newOwners frame (List.mem_cons_of_mem _ member)
  | consult | subscribe | ask | call =>
      simpa [Frame.owner] using newOwners
  | enter =>
      have isNew := Nat.lt_succ_of_le bounded
      simp only [List.mem_cons, forall_eq_or_imp, Frame.owner] at newOwners ⊢
      exact ⟨.inr isNew, newOwners⟩

theorem Moves.owner_of_isPast
    (moves : Moves react scene (some entry) next)
    (isPast : scene.IsPast bound) :
    entry.owner = 0 ∨ bound < entry.owner := by
  have newOwners := isPast.2
  cases moves with
  | begin =>
      exact .inl rfl
  | panic | subscribe | ask | enter | call | leave =>
      exact newOwners _ List.mem_cons_self

/-- What is past has no more entries. -/
theorem Reaches.owner_of_isPast
    (reaches : Reaches react scene log final)
    (isPast : scene.IsPast bound)
    (member : entry ∈ log) :
    entry.owner = 0 ∨ bound < entry.owner := by
  obtain ⟨before, after, split⟩ := List.mem_iff_append.mp member
  obtain ⟨scene, next, earlier, moves, -⟩ := reaches.exists_moves_of_split split
  exact moves.owner_of_isPast (earlier.invariant Moves.isPast isPast)

end Numbers

/-- Every publish that goes on has been entered. -/
def AreEntered
    (log : List (Entry Subscriber))
    (stack : List (Frame Subscriber World)) :
    Prop :=
  ∀ number signal pending, .delivering number signal pending ∈ stack →
    ∃ owner, ⟨owner, .entered number signal⟩ ∈ log

theorem Moves.areEntered
    (moves : Moves react scene noted? next)
    (areEntered : AreEntered log scene.stack) :
    AreEntered (log ++ noted?.toList) next.stack := by
  have enteredBefore {number signal pending}
      (member : .delivering number signal pending ∈ scene.stack) :
      ∃ owner, ⟨owner, .entered number signal⟩ ∈ log ++ noted?.toList := by
    obtain ⟨owner, entered⟩ := areEntered number signal pending member
    exact ⟨owner, List.mem_append_left _ entered⟩
  intro number signal pending member
  cases moves with
  | begin | panic =>
      simp at member
  | finish | leave =>
      exact enteredBefore (List.mem_cons_of_mem _ member)
  | consult | subscribe | ask =>
      refine @enteredBefore number signal pending ?_
      simpa using member
  | @enter _ _ _ owner =>
      simp only [List.mem_cons, reduceCtorEq, false_or] at member
      rcases member with entering | below
      · cases entering
        exact ⟨owner, by simp⟩
      · exact enteredBefore (List.mem_cons_of_mem _ below)
  | call =>
      simp only [List.mem_cons, reduceCtorEq, false_or] at member
      rcases member with calling | below
      · cases calling
        exact enteredBefore List.mem_cons_self
      · exact enteredBefore (List.mem_cons_of_mem _ below)

theorem Reaches.areEntered
    (reaches : Reaches react scene after final)
    (areEntered : AreEntered before scene.stack) :
    AreEntered (before ++ after) final.stack := by
  induction reaches generalizing before with
  | refl =>
      rwa [List.append_nil]
  | next moves reaches inductionHypothesis =>
      rw [← List.append_assoc]
      exact inductionHypothesis (moves.areEntered areEntered)

theorem Moves.exists_frame_of_called
    {subscriber : Subscriber}
    (moves : Moves react scene (some ⟨number, .called subscriber signal⟩) next) :
    ∃ pending, .delivering number signal pending ∈ scene.stack := by
  cases moves with
  | call =>
      exact ⟨_, List.mem_cons_self⟩

/-- What the caller has begun. -/
def Event.isBegan : Event Subscriber → Bool
  | .began => true
  | _ => false

/-- How much of its session the caller has begun. -/
def begun (log : List (Entry Subscriber)) : Nat :=
  log.countP fun entry => entry.event.isBegan

theorem Moves.session_eq
    (moves : Moves react scene noted? next) :
    next.session = scene.session.drop (begun noted?.toList) := by
  cases moves with
  | begin | finish | panic | consult | subscribe | ask | enter | call | leave =>
      rfl

theorem Reaches.session_eq
    (reaches : Reaches react start log final) :
    final.session = start.session.drop (begun log) := by
  induction reaches with
  | refl =>
      rfl
  | next moves reaches inductionHypothesis =>
      rw [inductionHypothesis, moves.session_eq, List.drop_drop]
      simp only [begun, List.countP_append]

theorem Moves.panicked
    {owner : Nat}
    {message : String}
    (moves : Moves react scene (some ⟨owner, .panicked message⟩) next) :
    next = { scene with stack := [] } := by
  cases moves with
  | panic =>
      rfl

theorem Moves.asked
    {owner : Nat}
    {topic : Topic}
    {answer : Bool}
    (moves : Moves react scene (some ⟨owner, .asked topic answer⟩) next) :
    answer = scene.bus.hasSubscriber topic := by
  cases moves with
  | ask =>
      rfl

theorem hasSubscriber_eq_true_iff
    {bus : Bus Subscriber}
    {topic : Topic} :
    bus.hasSubscriber topic = true ↔ ∃ subscriber, (topic, subscriber) ∈ bus.registrations := by
  simp [hasSubscriber]

theorem mem_subscribers_iff
    {bus : Bus Subscriber}
    {topic : Topic}
    {subscriber : Subscriber} :
    subscriber ∈ bus.subscribers topic ↔ (topic, subscriber) ∈ bus.registrations := by
  simp [subscribers]

theorem mem_calls_iff
    {subscriber : Subscriber} :
    (subscriber, signal) ∈ calls number log ↔ ⟨number, .called subscriber signal⟩ ∈ log := by
  constructor
  · intro member
    obtain ⟨⟨owner, event⟩, isEntry, isCall⟩ := List.mem_filterMap.mp member
    cases event with
    | called other otherSignal =>
        simp only [Entry.call?, Option.ite_none_right_eq_some, Option.some.injEq,
          Prod.mk.injEq] at isCall
        obtain ⟨rfl, rfl, rfl⟩ := isCall
        exact isEntry
    | began | entered | left | subscribed | asked | panicked =>
        cases isCall
  · intro isEntry
    exact List.mem_filterMap.mpr ⟨_, isEntry, by simp [Entry.call?]⟩

section Entered

variable
  {owner : Nat}
  (reaches : Reaches react start log final)
  (ordered : start.IsOrdered)
  (split : log = before ++ ⟨owner, .entered number signal⟩ :: after)

include reaches ordered split

theorem Reaches.fate_of_entered :
    Fate (dueCalls (start.bus.extend before) signal) number signal after final.stack := by
  obtain ⟨scene, next, earlier, moves, later⟩ := reaches.exists_moves_of_split split
  obtain ⟨-, published, member⟩ := moves.entered
  have orderedThen := moves.isOrdered (earlier.isOrdered ordered)
  have fateThen :
      Fate (dueCalls (start.bus.extend before) signal) number signal [] next.stack := by
    refine .isOpen List.not_mem_nil member ?_
    rw [← earlier.bus_eq]
    rfl
  exact fateThen.reaches later orderedThen (Nat.le_of_eq published.symm)

theorem Reaches.owner_lt_of_entered :
    ∀ entry ∈ before, entry.owner < number := by
  obtain ⟨scene, next, earlier, moves, -⟩ := reaches.exists_moves_of_split split
  obtain ⟨isNext, -, -⟩ := moves.entered
  intro entry member
  have entered := earlier.owner_le ordered member
  omega

omit ordered in
theorem Reaches.entered_once
    (other : Nat)
    (otherSignal : Signal) :
    ⟨other, .entered number otherSignal⟩ ∉ before ++ after := by
  obtain ⟨scene, next, earlier, moves, later⟩ := reaches.exists_moves_of_split split
  obtain ⟨isNext, published, -⟩ := moves.entered
  intro member
  rcases List.mem_append.mp member with enteredBefore | enteredAfter
  · have numberLe := (earlier.lt_of_entered enteredBefore).2
    omega
  · have ltNumber := (later.lt_of_entered enteredAfter).1
    omega

/-- All that belongs to a publish comes after it has been entered. -/
theorem Reaches.calls_eq_of_entered : calls number log = calls number after := by
  have noCallBefore : calls number before = [] := by
    apply List.filterMap_eq_nil_iff.mpr
    intro entry member
    have isEarlier := reaches.owner_lt_of_entered ordered split entry member
    rcases entry with ⟨entryOwner, event⟩
    cases event with
    | called =>
        exact if_neg (Nat.ne_of_lt isEarlier)
    | began | entered | left | subscribed | asked | panicked =>
        rfl
  rw [split, calls_append, noCallBefore]
  rfl

theorem Reaches.left_mem_iff_of_entered :
    (⟨number, .left⟩ : Entry Subscriber) ∈ log ↔ ⟨number, .left⟩ ∈ after := by
  have notBefore : (⟨number, .left⟩ : Entry Subscriber) ∉ before := fun member =>
    Nat.lt_irrefl number (reaches.owner_lt_of_entered ordered split _ member)
  rw [split]
  simp [notBefore]

end Entered

/-- Who has subscribed before a publish is entered is called by it. -/
theorem Reaches.called_of_subscribed
    {owner caller : Nat}
    {subscriber : Subscriber}
    (reaches : Reaches react start log final)
    (ordered : start.IsOrdered)
    (split :
      log =
        before ++
          ⟨owner, .subscribed signal.topic subscriber⟩ ::
            (middle ++ ⟨caller, .entered number signal⟩ :: after))
    (isLeft : ⟨number, .left⟩ ∈ log) :
    ⟨number, .called subscriber signal⟩ ∈ after := by
  have splitAtPublish :
      log =
        (before ++ ⟨owner, .subscribed signal.topic subscriber⟩ :: middle) ++
          ⟨caller, .entered number signal⟩ :: after := by
    rw [split, List.append_assoc, List.cons_append]
  have isDue :
      (subscriber, signal) ∈
        dueCalls
          (start.bus.extend (before ++ ⟨owner, .subscribed signal.topic subscriber⟩ :: middle))
          signal := by
    refine List.mem_map.mpr ⟨subscriber, mem_subscribers_iff.mpr ?_, rfl⟩
    simp [extend, Event.registration?]
  rw [reaches.left_mem_iff_of_entered ordered splitAtPublish] at isLeft
  cases reaches.fate_of_entered ordered splitAtPublish with
  | left _ _ complete =>
      rw [← complete] at isDue
      exact mem_calls_iff.mp isDue
  | cut notLeft | isOpen notLeft =>
      exact absurd isLeft notLeft

/-- A publish is left before anything around it goes on, unless a panic ends it. -/
theorem Reaches.left_of_owner_lt
    {owner : Nat}
    {entry : Entry Subscriber}
    (reaches : Reaches react start log final)
    (ordered : start.IsOrdered)
    (split : log = before ++ ⟨owner, .entered number signal⟩ :: (middle ++ entry :: after))
    (isOuter : entry.owner < number) :
    ⟨number, .left⟩ ∈ middle ∧ calls number middle = dueCalls (start.bus.extend before) signal ∨
      HasPanic middle := by
  have splitAtEntry :
      log = (before ++ ⟨owner, .entered number signal⟩ :: middle) ++ entry :: after := by
    rw [split, List.append_assoc, List.cons_append]
  obtain ⟨scene, next, earlier, moves, -⟩ := reaches.exists_moves_of_split splitAtEntry
  cases earlier.fate_of_entered ordered rfl with
  | left isLeft isClosed complete =>
      exact .inl ⟨isLeft, complete⟩
  | cut notLeft isClosed hasPanic incomplete =>
      exact .inr hasPanic
  | isOpen notLeft member remaining =>
      have isInner := moves.le_owner (earlier.isOrdered ordered) member
      exact absurd isOuter (Nat.not_lt_of_le isInner)

section Panicked

variable
  {owner : Nat}
  {message : String}
  (reaches : Reaches react start log final)
  (split : log = before ++ ⟨owner, .panicked message⟩ :: after)

include reaches split

/-- A panic empties the stack and changes nothing else. -/
theorem Reaches.idle_of_panicked :
    ∃ world published stack,
      Reaches react start before
          ⟨start.bus.extend before, world, published, stack,
            start.session.drop (begun before)⟩ ∧
        Reaches react
          ⟨start.bus.extend before, world, published, [], start.session.drop (begun before)⟩
          after final := by
  obtain ⟨scene, next, earlier, moves, later⟩ := reaches.exists_moves_of_split split
  obtain rfl := moves.panicked
  refine ⟨scene.world, scene.published, scene.stack, ?_⟩
  rw [← earlier.bus_eq, ← earlier.session_eq]
  exact ⟨earlier, later⟩

/-- A publish that was entered before a panic does nothing after it. -/
theorem Reaches.owner_of_panicked
    {caller : Nat}
    (entered : ⟨caller, .entered number signal⟩ ∈ before) :
    ∀ entry ∈ after, entry.owner = 0 ∨ number < entry.owner := by
  obtain ⟨scene, next, earlier, moves, later⟩ := reaches.exists_moves_of_split split
  obtain rfl := moves.panicked
  have numberLe := (earlier.lt_of_entered entered).2
  intro entry member
  refine later.owner_of_isPast ⟨numberLe, ?_⟩ member
  rintro frame ⟨⟩

end Panicked

/-- What holds of a run that starts while nothing is going on. -/
structure IsFaithful
    (react : Subscriber → Signal → Program Subscriber World)
    (start : Scene Subscriber World)
    (log : List (Entry Subscriber))
    (final : Scene Subscriber World) :
    Prop where
  /-- The registry has the registrations from the start and those made since. -/
  bus_eq :
    final.bus = start.bus.extend log
  /-- A publish calls those registered when it is entered, unless a panic ends it. -/
  calls_of_entered :
    ∀ {before owner number signal after},
      log = before ++ ⟨owner, .entered number signal⟩ :: after →
        calls number log <+: dueCalls (start.bus.extend before) signal ∧
          (⟨number, .left⟩ ∈ log → calls number log = dueCalls (start.bus.extend before) signal) ∧
            (⟨number, .left⟩ ∈ log ∨
              HasPanic after ∨ ∃ pending, .delivering number signal pending ∈ final.stack)
  /-- No number is given twice, and nothing is called for a publish before it is entered. -/
  owner_lt_of_entered :
    ∀ {before owner number signal after},
      log = before ++ ⟨owner, .entered number signal⟩ :: after →
        (∀ entry ∈ before, entry.owner < number) ∧
          ∀ other otherSignal, ⟨other, .entered number otherSignal⟩ ∉ before ++ after
  /-- Nobody is called but for a publish. -/
  entered_of_called :
    ∀ {before number subscriber signal after},
      log = before ++ ⟨number, .called subscriber signal⟩ :: after →
        ∃ owner, ⟨owner, .entered number signal⟩ ∈ before
  /-- Who has subscribed is called by what is published afterwards. -/
  called_of_subscribed :
    ∀ {before owner topic subscriber middle caller number signal after},
      log =
          before ++
            ⟨owner, .subscribed topic subscriber⟩ ::
              (middle ++ ⟨caller, .entered number signal⟩ :: after) →
        signal.topic = topic →
          ⟨number, .left⟩ ∈ log → ⟨number, .called subscriber signal⟩ ∈ after
  /-- A publish has made its calls before anything around it goes on. -/
  left_of_owner_lt :
    ∀ {before owner number signal middle entry after},
      log = before ++ ⟨owner, .entered number signal⟩ :: (middle ++ entry :: after) →
        entry.owner < number →
          ⟨number, .left⟩ ∈ middle ∧
              calls number middle = dueCalls (start.bus.extend before) signal ∨
            HasPanic middle
  /-- A panic ends what goes on; the caller goes on with the registry that there is. -/
  idle_of_panicked :
    ∀ {before owner message after},
      log = before ++ ⟨owner, .panicked message⟩ :: after →
        (∃ world published stack,
            Reaches react start before
                ⟨start.bus.extend before, world, published, stack,
                  start.session.drop (begun before)⟩ ∧
              Reaches react
                ⟨start.bus.extend before, world, published, [],
                  start.session.drop (begun before)⟩
                after final) ∧
          ∀ caller number signal, ⟨caller, .entered number signal⟩ ∈ before →
            ∀ entry ∈ after, entry.owner = 0 ∨ number < entry.owner
  /-- A topic has a subscriber if a registration on it has been made. -/
  answer_iff :
    ∀ {before owner topic answer after},
      log = before ++ ⟨owner, .asked topic answer⟩ :: after →
        (answer = true ↔
          ∃ subscriber, (topic, subscriber) ∈ (start.bus.extend before).registrations)
  /-- What is done next is determined, until everything is done. -/
  goes_on :
    (∃ noted? next,
        Moves react final noted? next ∧
          ∀ otherNoted? other, Moves react final otherNoted? other →
            noted? = otherNoted? ∧ next = other) ∨
      final.stack = [] ∧ final.session = []

theorem Scene.isOrdered_of_idle (idle : start.stack = []) : start.IsOrdered := by
  refine ⟨?_, ?_⟩
  · rw [idle]
    exact .nil
  · rw [idle]
    rintro frame ⟨⟩

/-- Runs of subscribers that use the bus as they like. -/
theorem isFaithful_of_reaches
    (reaches : Reaches react start log final)
    (idle : start.stack = []) :
    IsFaithful react start log final := by
  have ordered := Scene.isOrdered_of_idle idle
  refine ⟨reaches.bus_eq, ?_, ?_, ?_, ?_, ?_, ?_, ?_, ?_⟩
  · intro before owner number signal after split
    rw [reaches.calls_eq_of_entered ordered split, reaches.left_mem_iff_of_entered ordered split]
    cases reaches.fate_of_entered ordered split with
    | left isLeft isClosed complete =>
        exact ⟨complete ▸ List.prefix_rfl, fun _ => complete, .inl isLeft⟩
    | cut notLeft isClosed hasPanic incomplete =>
        exact ⟨incomplete, fun isLeft => absurd isLeft notLeft, .inr (.inl hasPanic)⟩
    | @isOpen pending notLeft member remaining =>
        exact
          ⟨⟨_, remaining⟩, fun isLeft => absurd isLeft notLeft, .inr (.inr ⟨pending, member⟩)⟩
  · intro before owner number signal after split
    exact ⟨reaches.owner_lt_of_entered ordered split, reaches.entered_once split⟩
  · intro before number subscriber signal after split
    obtain ⟨scene, next, earlier, moves, -⟩ := reaches.exists_moves_of_split split
    obtain ⟨pending, member⟩ := moves.exists_frame_of_called
    have noneEntered : AreEntered [] start.stack := by
      rw [idle]
      rintro number signal pending ⟨⟩
    exact earlier.areEntered noneEntered number signal pending member
  · rintro before owner topic subscriber middle caller number signal after split rfl isLeft
    exact reaches.called_of_subscribed ordered split isLeft
  · intro before owner number signal middle entry after split isOuter
    exact reaches.left_of_owner_lt ordered split isOuter
  · intro before owner message after split
    refine ⟨reaches.idle_of_panicked split, ?_⟩
    intro caller number signal entered
    exact reaches.owner_of_panicked split entered
  · intro before owner topic answer after split
    obtain ⟨scene, next, earlier, moves, -⟩ := reaches.exists_moves_of_split split
    rw [moves.asked, earlier.bus_eq]
    exact hasSubscriber_eq_true_iff
  · rcases exists_moves_or_finished final with ⟨noted?, next, moves⟩ | isFinished
    · exact .inl ⟨noted?, next, moves, fun _ _ otherMoves => moves.unique otherMoves⟩
    · exact .inr isFinished

end RefreshRate.Bus
