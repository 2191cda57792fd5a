import RefreshRate.Bus.Registry

namespace RefreshRate.Bus

/-!
# Subscribers that use the bus

A subscriber to which a signal is delivered may do everything with the bus that its caller
may do: it may subscribe, publish and ask, it may look at the world and change it, and it
may panic.  What is going on is a stack, with the innermost delivery on top.  Each move of
a run is done at the top of the stack and may leave an entry in a log.

Publishes are numbered in the order in which they are entered, and each entry has the
number of the publish that caused it.  What the caller does itself has the number 0.
-/

/-- What is done on a bus, by the caller or by a subscriber. -/
inductive Program (Subscriber World : Type) where
  | done
  | panic (message : String)
  /-- Change the world and go on as it was found. -/
  | consult (change : World → World) (next : World → Program Subscriber World)
  | subscribe (topic : Topic) (subscriber : Subscriber) (next : Program Subscriber World)
  | publish (signal : Signal) (next : Program Subscriber World)
  | hasSubscriber (topic : Topic) (next : Bool → Program Subscriber World)

/-- Something that has been begun and not yet ended. -/
inductive Frame (Subscriber World : Type) where
  /-- A program that goes on, for the delivery of the publish with this number. -/
  | running (owner : Nat) (program : Program Subscriber World)
  /-- A publish with the subscribers that it will still call. -/
  | delivering (number : Nat) (signal : Signal) (pending : List Subscriber)

/-- A bus in use. -/
structure Scene (Subscriber World : Type) where
  bus : Bus Subscriber
  world : World
  /-- The number of publishes that have been entered. -/
  published : Nat
  /-- What has been begun, the innermost first. -/
  stack : List (Frame Subscriber World)
  /-- What the caller will do later; a panic does not keep it from that. -/
  session : List (Program Subscriber World)

/-- What is noted about a run. -/
inductive Event (Subscriber : Type) where
  | began
  | entered (number : Nat) (signal : Signal)
  | called (subscriber : Subscriber) (signal : Signal)
  | left
  | subscribed (topic : Topic) (subscriber : Subscriber)
  | asked (topic : Topic) (answer : Bool)
  | panicked (message : String)
  deriving Repr, DecidableEq

/-- An event and the number of the publish to which it belongs. -/
structure Entry (Subscriber : Type) where
  owner : Nat
  event : Event Subscriber
  deriving Repr, DecidableEq

variable
  {Subscriber World : Type}
  {react : Subscriber → Signal → Program Subscriber World}
  {start scene next final : Scene Subscriber World}
  {noted? : Option (Entry Subscriber)}
  {log before after : List (Entry Subscriber)}

/-- A move at the top of the stack; with nothing on it the caller begins something. -/
inductive Moves (react : Subscriber → Signal → Program Subscriber World) :
    Scene Subscriber World → Option (Entry Subscriber) → Scene Subscriber World → Prop where
  | begin {bus world published program session} :
      Moves react
        ⟨bus, world, published, [], program :: session⟩
        (some ⟨0, .began⟩)
        ⟨bus, world, published, [.running 0 program], session⟩
  | finish {bus world published owner stack session} :
      Moves react
        ⟨bus, world, published, .running owner .done :: stack, session⟩
        none
        ⟨bus, world, published, stack, session⟩
  | panic {bus world published owner message stack session} :
      Moves react
        ⟨bus, world, published, .running owner (.panic message) :: stack, session⟩
        (some ⟨owner, .panicked message⟩)
        ⟨bus, world, published, [], session⟩
  | consult {bus world published owner change next stack session} :
      Moves react
        ⟨bus, world, published, .running owner (.consult change next) :: stack, session⟩
        none
        ⟨bus, change world, published, .running owner (next world) :: stack, session⟩
  | subscribe {bus world published owner topic subscriber next stack session} :
      Moves react
        ⟨bus, world, published, .running owner (.subscribe topic subscriber next) :: stack,
          session⟩
        (some ⟨owner, .subscribed topic subscriber⟩)
        ⟨bus.subscribe topic subscriber, world, published, .running owner next :: stack, session⟩
  | ask {bus world published owner topic next stack session} :
      Moves react
        ⟨bus, world, published, .running owner (.hasSubscriber topic next) :: stack, session⟩
        (some ⟨owner, .asked topic (bus.hasSubscriber topic)⟩)
        ⟨bus, world, published, .running owner (next (bus.hasSubscriber topic)) :: stack,
          session⟩
  /-- The subscribers to be called are those that are registered now. -/
  | enter {bus world published owner signal next stack session} :
      Moves react
        ⟨bus, world, published, .running owner (.publish signal next) :: stack, session⟩
        (some ⟨owner, .entered (published + 1) signal⟩)
        ⟨bus, world, published + 1,
          .delivering (published + 1) signal (bus.subscribers signal.topic) ::
            .running owner next :: stack,
          session⟩
  | call {bus world published number signal subscriber pending stack session} :
      Moves react
        ⟨bus, world, published, .delivering number signal (subscriber :: pending) :: stack,
          session⟩
        (some ⟨number, .called subscriber signal⟩)
        ⟨bus, world, published,
          .running number (react subscriber signal) ::
            .delivering number signal pending :: stack,
          session⟩
  | leave {bus world published number signal stack session} :
      Moves react
        ⟨bus, world, published, .delivering number signal [] :: stack, session⟩
        (some ⟨number, .left⟩)
        ⟨bus, world, published, stack, session⟩

/-- A run of any number of moves and its log. -/
inductive Reaches (react : Subscriber → Signal → Program Subscriber World) :
    Scene Subscriber World → List (Entry Subscriber) → Scene Subscriber World → Prop where
  | refl
      {scene : Scene Subscriber World} :
      Reaches react scene [] scene
  | next
      {scene next final : Scene Subscriber World}
      {noted? : Option (Entry Subscriber)}
      {log : List (Entry Subscriber)}
      (moves : Moves react scene noted? next)
      (reaches : Reaches react next log final) :
      Reaches react scene (noted?.toList ++ log) final

/-- Only what has come to its end does not go on. -/
theorem exists_moves_or_finished (scene : Scene Subscriber World) :
    (∃ noted? next, Moves react scene noted? next) ∨ scene.stack = [] ∧ scene.session = [] := by
  obtain ⟨bus, world, published, stack, session⟩ := scene
  rcases stack with _ | ⟨frame, stack⟩
  · cases session with
    | nil =>
        exact .inr ⟨rfl, rfl⟩
    | cons program session =>
        exact .inl ⟨_, _, .begin⟩
  · left
    cases frame with
    | running owner program =>
        cases program with
        | done => exact ⟨_, _, .finish⟩
        | panic message => exact ⟨_, _, .panic⟩
        | consult change next => exact ⟨_, _, .consult⟩
        | subscribe topic subscriber next => exact ⟨_, _, .subscribe⟩
        | publish signal next => exact ⟨_, _, .enter⟩
        | hasSubscriber topic next => exact ⟨_, _, .ask⟩
    | delivering number signal pending =>
        cases pending with
        | nil => exact ⟨_, _, .leave⟩
        | cons subscriber pending => exact ⟨_, _, .call⟩

/-- What is done next is determined. -/
theorem Moves.unique
    {otherNoted? : Option (Entry Subscriber)}
    {other : Scene Subscriber World}
    (moves : Moves react scene noted? next)
    (otherMoves : Moves react scene otherNoted? other) :
    noted? = otherNoted? ∧ next = other := by
  cases moves with
  | begin | finish | panic | consult | subscribe | ask | enter | call | leave =>
      cases otherMoves
      exact ⟨rfl, rfl⟩

namespace Reaches

theorem trans
    (reaches : Reaches react start before scene)
    (reachesOn : Reaches react scene after final) :
    Reaches react start (before ++ after) final := by
  induction reaches with
  | refl =>
      exact reachesOn
  | next moves reaches inductionHypothesis =>
      rw [List.append_assoc]
      exact .next moves (inductionHypothesis reachesOn)

/-- What every move keeps is kept by every run. -/
theorem invariant
    {motive : Scene Subscriber World → Prop}
    (kept :
      ∀ {scene noted? next},
        Moves react scene noted? next → motive scene → motive next)
    (reaches : Reaches react start log final)
    (atStart : motive start) :
    motive final := by
  induction reaches with
  | refl =>
      exact atStart
  | next moves reaches inductionHypothesis =>
      exact inductionHypothesis (kept moves atStart)

/-- A run can be stopped at each entry of its log. -/
theorem exists_moves_of_split
    {entry : Entry Subscriber}
    (reaches : Reaches react start log final)
    (split : log = before ++ entry :: after) :
    ∃ scene next,
      Reaches react start before scene ∧
        Moves react scene (some entry) next ∧ Reaches react next after final := by
  induction reaches generalizing before with
  | refl =>
      simp at split
  | @next start between final noted? log moves reaches inductionHypothesis =>
      cases noted? with
      | none =>
          obtain ⟨scene, next, earlier, moved, later⟩ := inductionHypothesis split
          exact ⟨scene, next, .next moves earlier, moved, later⟩
      | some first =>
          cases before with
          | nil =>
              obtain ⟨rfl, rfl⟩ := List.cons.inj split
              exact ⟨start, between, .refl, moves, reaches⟩
          | cons other before =>
              obtain ⟨rfl, rest⟩ := List.cons.inj split
              obtain ⟨scene, next, earlier, moved, later⟩ := inductionHypothesis rest
              exact ⟨scene, next, .next moves earlier, moved, later⟩

end Reaches

end RefreshRate.Bus
