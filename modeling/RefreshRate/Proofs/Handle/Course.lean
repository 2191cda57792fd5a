import RefreshRate.Handle

namespace RefreshRate

/-!
# What is done with slots

Two components hold slots, and both are used alike: an action adds a slot and answers its
handle, or it uses the slot of a handle.  Anybody may act at any time, and between the
actions the component goes on by itself.  A course is any sequence of actions and turns, so
it has every interleaving in it.

How many slots there are can be told from the answers that were given so far, and so can the
answer to an action that uses a handle.
-/

/-- A world with slots, what can be done with them, and how the world goes on by itself. -/
structure SlotHolder (World Action Reply : Type) where
  slots : World → Nat
  perform : World → Action → Reply × World
  /-- A single change of the world that no action makes. -/
  Turn : World → World → Prop
  addsSlot : Action → Bool
  /-- The handle that an action uses. -/
  handle? : Action → Option Nat
  /-- The answer to an action, where the number of slots decides it. -/
  answer? : Nat → Action → Option Reply
  /-- An answer that ends the script in which it is given. -/
  isPanic : Reply → Bool
  perform_answers :
    ∀ {world action reply},
      answer? (slots world) action = some reply → (perform world action).1 = reply
  slots_perform :
    ∀ world action, slots (perform world action).2 = slots world + (addsSlot action).toNat
  perform_of_unknown :
    ∀ {world action handle},
      handle? action = some handle → slots world ≤ handle → (perform world action).2 = world
  slots_turn : ∀ {world next}, Turn world next → slots next = slots world

namespace SlotHolder

variable
  {World Action Reply : Type}
  (holder : SlotHolder World Action Reply)

/-- Some actions are performed and answered one after the other, with turns in between. -/
inductive Course (start : World) : List (Action × Reply) → World → Prop where
  | started :
      Course start [] start
  | performed
      {answers : List (Action × Reply)}
      {world : World}
      (course : Course start answers world)
      (action : Action) :
      Course start (answers ++ [(action, (holder.perform world action).1)])
        (holder.perform world action).2
  | turned
      {answers : List (Action × Reply)}
      {world next : World}
      (course : Course start answers world)
      (turn : holder.Turn world next) :
      Course start answers next

/-- The number of slots that some answered actions have added. -/
def added (answers : List (Action × Reply)) : Nat :=
  answers.countP fun answer => holder.addsSlot answer.1

/-- Perform a script up to the first panic, and collect the answers. -/
def script
    (world : World) :
    List Action → List (Action × Reply) × World
  | [] =>
      ([], world)
  | action :: rest =>
      let (reply, next) := holder.perform world action
      if holder.isPanic reply then
        ([(action, reply)], next)
      else
        let (answers, last) := script next rest
        ((action, reply) :: answers, last)

theorem added_append (answers others : List (Action × Reply)) :
    holder.added (answers ++ others) = holder.added answers + holder.added others :=
  List.countP_append

theorem added_singleton
    (action : Action)
    (reply : Reply) :
    holder.added [(action, reply)] = (holder.addsSlot action).toNat := by
  rw [added, List.countP_singleton]
  cases holder.addsSlot action with
  | true =>
      rfl
  | false =>
      rfl

namespace Course

variable
  {holder}
  {start world later : World}
  {answers others : List (Action × Reply)}

theorem of_turn
    (turn : holder.Turn start world) :
    holder.Course start [] world :=
  .turned .started turn

theorem of_perform
    (start : World)
    (action : Action) :
    holder.Course start [(action, (holder.perform start action).1)]
      (holder.perform start action).2 :=
  .performed .started action

theorem trans
    (course : holder.Course start answers world)
    (onwards : holder.Course world others later) :
    holder.Course start (answers ++ others) later := by
  induction onwards with
  | started =>
      rw [List.append_nil]
      exact course
  | performed _ action inductionHypothesis =>
      rw [← List.append_assoc]
      exact .performed inductionHypothesis action
  | turned _ turn inductionHypothesis =>
      exact .turned inductionHypothesis turn

/-- There are the slots of the start and those that were added since. -/
theorem slots_eq
    (course : holder.Course start answers world) :
    holder.slots world = holder.slots start + holder.added answers := by
  induction course with
  | started =>
      rfl
  | performed course action inductionHypothesis =>
      rw [holder.slots_perform, inductionHypothesis, added_append, added_singleton,
        Nat.add_assoc]
  | turned course turn inductionHypothesis =>
      exact (holder.slots_turn turn).trans inductionHypothesis

/-- Every answer was given in a world that is reached with the answers before it. -/
theorem exists_of_split
    (course : holder.Course start answers later)
    {before after : List (Action × Reply)}
    {action : Action}
    {reply : Reply}
    (split : answers = before ++ (action, reply) :: after) :
    ∃ world,
      holder.Course start before world ∧
        (holder.perform world action).1 = reply ∧
          holder.Course (holder.perform world action).2 after later := by
  induction course generalizing after with
  | started =>
      simp at split
  | @performed answers between course last inductionHypothesis =>
      rcases List.eq_nil_or_concat after with rfl | ⟨rest, lastAnswer, rfl⟩
      · obtain ⟨rfl, isLast⟩ := List.append_inj' split rfl
        cases isLast
        exact ⟨between, course, rfl, .started⟩
      · rw [List.concat_eq_append, ← List.cons_append, ← List.append_assoc] at split
        obtain ⟨splitBefore, isLast⟩ := List.append_inj' split rfl
        cases isLast
        obtain ⟨world, reached, answered, onwards⟩ := inductionHypothesis splitBefore
        rw [List.concat_eq_append]
        exact ⟨world, reached, answered, .performed onwards last⟩
  | turned course turn inductionHypothesis =>
      obtain ⟨world, reached, answered, onwards⟩ := inductionHypothesis split
      exact ⟨world, reached, answered, .turned onwards turn⟩

end Course

/-- A script is a course of its own. -/
theorem course_script
    (world : World)
    (actions : List Action) :
    holder.Course world (holder.script world actions).1 (holder.script world actions).2 := by
  induction actions generalizing world with
  | nil =>
      exact .started
  | cons action rest inductionHypothesis =>
      have first :
          holder.Course world [(action, (holder.perform world action).1)]
            (holder.perform world action).2 :=
        .of_perform world action
      unfold script
      by_cases panics : holder.isPanic (holder.perform world action).1 = true
      · simp only [if_pos panics]
        exact first
      · simp only [if_neg panics]
        exact first.trans (inductionHypothesis _)

/-- What the holder of slots owes to those who use them, whatever happens. -/
structure KeepsHandles : Prop where
  /-- The slots are those of the start and those that were added since. -/
  slots_count :
    ∀ start answers world,
      holder.Course start answers world →
        holder.slots world = holder.slots start + holder.added answers
  /-- Every answer fits the number of slots that there were when it was given. -/
  answers_fit :
    ∀ start answers world,
      holder.Course start answers world →
        ∀ before action reply after,
          answers = before ++ (action, reply) :: after →
            ∀ expected,
              holder.answer? (holder.slots start + holder.added before) action = some expected →
                reply = expected
  /-- An action with an unknown handle changes nothing. -/
  unknown_changes_nothing :
    ∀ start answers world,
      holder.Course start answers world →
        ∀ action handle,
          holder.handle? action = some handle →
            holder.slots start + holder.added answers ≤ handle →
              (holder.perform world action).2 = world
  /-- A handle that is known stays known. -/
  known_stays_known :
    ∀ start answers world,
      holder.Course start answers world →
        ∀ handle, handle < holder.slots start → handle < holder.slots world

theorem keepsHandles : holder.KeepsHandles where
  slots_count := by
    intro start answers world course
    exact course.slots_eq
  answers_fit := by
    intro start answers later course before action reply after split expected fits
    obtain ⟨world, reached, rfl, -⟩ := course.exists_of_split split
    rw [← reached.slots_eq] at fits
    exact holder.perform_answers fits
  unknown_changes_nothing := by
    intro start answers world course action handle uses unknown
    rw [← course.slots_eq] at unknown
    exact holder.perform_of_unknown uses unknown
  known_stays_known := by
    intro start answers world course handle known
    rw [course.slots_eq]
    exact Nat.lt_add_right _ known

end SlotHolder

end RefreshRate
