import RefreshRate.Proofs.Bus.Reentrancy

namespace RefreshRate.Bus

/-!
# Publishing comes to an end

Subscribers that publish may call each other for ever, but only by going deeper and
deeper.  Where the depth of the stack has a bound, whatever is begun comes to its end.
-/

variable
  {Subscriber World : Type}
  {react : Subscriber → Signal → Program Subscriber World}
  {scene next final : Scene Subscriber World}
  {noted? : Option (Entry Subscriber)}
  {log : List (Entry Subscriber)}
  {stack : List (Frame Subscriber World)}
  {depth room : Nat}

/-- The stack never gets deeper than a bound. -/
def IsShallow
    (react : Subscriber → Signal → Program Subscriber World)
    (depth : Nat)
    (scene : Scene Subscriber World) :
    Prop :=
  ∀ log final, Reaches react scene log final → final.stack.length ≤ depth

theorem IsShallow.reaches
    (shallow : IsShallow react depth scene)
    (reaches : Reaches react scene log next) :
    IsShallow react depth next :=
  fun logThen final reachesThen => shallow (log ++ logThen) final (reaches.trans reachesThen)

theorem IsShallow.moves
    (shallow : IsShallow react depth scene)
    (moves : Moves react scene noted? next) :
    IsShallow react depth next :=
  shallow.reaches (.next moves .refl)

/-- Everything above a stack comes to its end, unless a panic empties the whole stack. -/
def Ends
    (react : Subscriber → Signal → Program Subscriber World)
    (scene : Scene Subscriber World)
    (stack : List (Frame Subscriber World)) :
    Prop :=
  ∃ log final,
    Reaches react scene log final ∧
      final.session = scene.session ∧ (final.stack = stack ∨ final.stack = [])

theorem Ends.of_reaches
    (ends : Ends react next stack)
    (reaches : Reaches react scene log next)
    (sameSession : next.session = scene.session) :
    Ends react scene stack := by
  obtain ⟨logThen, final, reachesThen, sameSessionThen, ended⟩ := ends
  exact ⟨_, final, reaches.trans reachesThen, sameSessionThen.trans sameSession, ended⟩

theorem Ends.of_moves
    (ends : Ends react next stack)
    (moves : Moves react scene noted? next)
    (sameSession : next.session = scene.session) :
    Ends react scene stack :=
  ends.of_reaches (.next moves .refl) sameSession

/-- Frames end if there is room for so many frames above what lies below them. -/
def EndWithin
    (react : Subscriber → Signal → Program Subscriber World)
    (room : Nat) :
    Prop :=
  ∀ {bus world published frame stack session},
    IsShallow react (stack.length + room) ⟨bus, world, published, frame :: stack, session⟩ →
      Ends react ⟨bus, world, published, frame :: stack, session⟩ stack

/-- If a frame has ended, what lies below it can end too. -/
theorem Ends.goOn
    {lower : Frame Subscriber World}
    (ends : Ends react scene (lower :: stack))
    (shallow : IsShallow react depth scene)
    (lowerEnds :
      ∀ {bus world published},
        IsShallow react depth ⟨bus, world, published, lower :: stack, scene.session⟩ →
          Ends react ⟨bus, world, published, lower :: stack, scene.session⟩ stack) :
    Ends react scene stack := by
  obtain ⟨log, final, reaches, sameSession, isLower | isEmpty⟩ := ends
  · have shallowThen := shallow.reaches reaches
    obtain ⟨bus, world, published, stackThen, session⟩ := final
    cases isLower
    cases sameSession
    exact (lowerEnds shallowThen).of_reaches reaches rfl
  · exact ⟨log, final, reaches, sameSession, .inr isEmpty⟩

section Within

variable
  {bus : Bus Subscriber}
  {world : World}
  {published owner number : Nat}
  {program : Program Subscriber World}
  {signal : Signal}
  {pending : List Subscriber}
  {session : List (Program Subscriber World)}
  (inner : EndWithin react room)

include inner

/-- A program ends if the publishes in it do. -/
theorem ends_running
    (shallow :
      IsShallow react (stack.length + (room + 1))
        ⟨bus, world, published, .running owner program :: stack, session⟩) :
    Ends react ⟨bus, world, published, .running owner program :: stack, session⟩ stack := by
  induction program generalizing bus world published with
  | done =>
      exact ⟨_, _, .next .finish .refl, rfl, .inl rfl⟩
  | panic message =>
      exact ⟨_, _, .next .panic .refl, rfl, .inr rfl⟩
  | consult change next inductionHypothesis =>
      have shallowThen := shallow.moves .consult
      exact (inductionHypothesis world shallowThen).of_moves .consult rfl
  | subscribe topic subscriber next inductionHypothesis =>
      have shallowThen := shallow.moves .subscribe
      exact (inductionHypothesis shallowThen).of_moves .subscribe rfl
  | hasSubscriber topic next inductionHypothesis =>
      have shallowThen := shallow.moves .ask
      exact (inductionHypothesis _ shallowThen).of_moves .ask rfl
  | publish signal next inductionHypothesis =>
      have shallowThen := shallow.moves .enter
      have sameDepth :
          stack.length + (room + 1) =
            (Frame.running owner next :: stack).length + room := by
        rw [List.length_cons]
        omega
      have publishEnds := inner (sameDepth ▸ shallowThen)
      exact (publishEnds.goOn shallowThen inductionHypothesis).of_moves .enter rfl

/-- A publish ends if what its subscribers do ends. -/
theorem ends_delivering
    (shallow :
      IsShallow react (stack.length + (room + 1))
        ⟨bus, world, published, .delivering number signal pending :: stack, session⟩) :
    Ends react ⟨bus, world, published, .delivering number signal pending :: stack, session⟩
      stack := by
  induction pending generalizing bus world published with
  | nil =>
      exact ⟨_, _, .next .leave .refl, rfl, .inl rfl⟩
  | cons subscriber pending inductionHypothesis =>
      have shallowThen := shallow.moves .call
      have sameDepth :
          stack.length + (room + 1) =
            (Frame.delivering number signal pending :: stack).length + room := by
        rw [List.length_cons]
        omega
      have callEnds := inner (sameDepth ▸ shallowThen)
      exact (callEnds.goOn shallowThen inductionHypothesis).of_moves .call rfl

end Within

theorem endWithin (room : Nat) : EndWithin react room := by
  induction room with
  | zero =>
      intro bus world published frame stack session shallow
      have tooDeep := shallow [] _ .refl
      exact absurd tooDeep (Nat.not_succ_le_self stack.length)
  | succ room inductionHypothesis =>
      intro bus world published frame stack session shallow
      cases frame with
      | running owner program =>
          exact ends_running inductionHypothesis shallow
      | delivering number signal pending =>
          exact ends_delivering inductionHypothesis shallow

/-- A caller whose operations never get deeper than a bound comes to the end of its session. -/
theorem exists_finished_of_isShallow
    (shallow : IsShallow react depth scene)
    (idle : scene.stack = []) :
    ∃ log final, Reaches react scene log final ∧ final.stack = [] ∧ final.session = [] := by
  obtain ⟨bus, world, published, stack, session⟩ := scene
  cases idle
  induction session generalizing bus world published with
  | nil =>
      exact ⟨[], _, .refl, rfl, rfl⟩
  | cons program session inductionHypothesis =>
      have shallowThen := shallow.moves .begin
      have sameDepth : ([] : List (Frame Subscriber World)).length + depth = depth :=
        Nat.zero_add depth
      obtain ⟨log, final, reaches, sameSession, ended⟩ := endWithin depth (sameDepth ▸ shallowThen)
      have shallowAfter := shallowThen.reaches reaches
      have isIdle : final.stack = [] := by
        simpa using ended
      obtain ⟨bus, world, published, stack, sessionThen⟩ := final
      cases isIdle
      cases sameSession
      obtain ⟨logThen, finished, reachesThen, isFinished⟩ :=
        inductionHypothesis bus world published shallowAfter
      exact ⟨_, finished, .next .begin (reaches.trans reachesThen), isFinished⟩

end RefreshRate.Bus
