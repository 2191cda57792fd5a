import RefreshRate.Proofs.Controller.Beat
import RefreshRate.Proofs.Timer.LoopRun

namespace RefreshRate.Controller

/-!
# The loop that fires the debounces

The debounces of a controller are fired by the loop of its timers, which takes turns with the
signals and the worker as it may.  Whatever it does is a run of moves, so all that holds of
every run holds here too.  How late a debounce can be depends on the order: no alarm waits
for longer than a millisecond and the milliseconds in which the loop was passed over, and
none is passed over if the loop comes first, as it does in a run on time.
-/

/-- What comes to a controller from outside of its timers. -/
inductive Impulse where
  | receive (signal : Signal)
  | work
  deriving Repr, DecidableEq

namespace Impulse

/-- The move of an impulse. -/
def move : Impulse → Move
  | .receive signal =>
      .receive signal
  | .work =>
      .work

end Impulse

/-- Whether a move is made from outside, and not by the timers or the worker. -/
def Move.isHeard : Move → Bool
  | .receive _ | .elapse _ =>
      true
  | .fire | .work =>
      false

/-- What a step brings from outside: a signal, or the clock that goes on. -/
def moveHeard? : Timer.LoopStep Impulse → Option Move
  | .call (.receive signal) =>
      some (.receive signal)
  | .elapse =>
      some (.elapse 1)
  | .call .work | .turn =>
      none

/-- What steps bring from outside. -/
def movesHeard (steps : List (Timer.LoopStep Impulse)) : List Move :=
  steps.filterMap moveHeard?

/-- Whether a command replaces an alarm. -/
def Command.rearms : Command → Bool
  | .requestSwitch =>
      false
  | .arm _ | .cancel _ =>
      true

namespace World

variable {world : World}

/-- Whether commands re-arm the loop before one of them fails. -/
def commandsRearm
    (world : World) :
    List Command → Bool
  | [] =>
      false
  | command :: rest =>
      match world.issue command with
      | .ok next =>
          command.rearms || next.commandsRearm rest
      | .error _ =>
          false

/-- Whether a reaction re-arms the loop. -/
def reactionRearms
    (world : World)
    (reaction : Reaction) :
    Bool :=
  world.isAlive && { world with state := reaction.1 }.commandsRearm reaction.2

/-- Whether an impulse re-arms the loop. -/
def impulseRearms (impulse : Impulse) (world : World) : Bool :=
  match impulse with
  | .receive signal =>
      world.reactionRearms (world.state.receive signal)
  | .work =>
      false

/-- With all slots in place no command fails. -/
theorem commandsRearm_eq_any
    (wellFormed : WellFormed world)
    (commands : List Command) :
    world.commandsRearm commands = commands.any Command.rearms := by
  induction commands generalizing world with
  | nil =>
      rfl
  | cons command rest inductionHypothesis =>
      have restRearms := inductionHypothesis (wellFormed_carryOut wellFormed command)
      simp only [commandsRearm, issue_eq_ok wellFormed, restRearms, List.any_cons]

theorem timers_issueAll_of_not_commandsRearm
    {commands : List Command}
    (notRearmed : world.commandsRearm commands = false) :
    (world.issueAll commands).timers = world.timers := by
  induction commands generalizing world with
  | nil =>
      rfl
  | cons command rest inductionHypothesis =>
      simp only [issueAll, commandsRearm] at notRearmed ⊢
      cases issued : world.issue command with
      | error reason =>
          rfl
      | ok next =>
          simp only [issued, Bool.or_eq_false_iff] at notRearmed
          cases command with
          | requestSwitch =>
              simp only [issue, Except.map] at issued
              split at issued
              · cases issued
              · cases issued
                exact inductionHypothesis notRearmed.2
          | arm debounce | cancel debounce =>
              cases notRearmed.1

theorem now_receive
    (world : World)
    (signal : Signal) :
    (world.receive signal).now = world.now := by
  unfold receive
  split
  · exact now_react _ _
  · rfl

theorem now_impulse
    (impulse : Impulse)
    (world : World) :
    (world.step impulse.move).now = world.now := by
  cases impulse with
  | receive signal =>
      exact now_receive world signal
  | work =>
      exact view_work World.now (fun _ _ => rfl) now_switch world

theorem earliest?_impulse
    (impulse : Impulse)
    (world : World)
    (notRearmed : impulseRearms impulse world = false) :
    (world.step impulse.move).timers.earliest? = world.timers.earliest? := by
  cases impulse with
  | receive signal =>
      refine congrArg Timer.Table.earliest? ?_
      simp only [step, Impulse.move, receive]
      simp only [impulseRearms, reactionRearms] at notRearmed
      split
      · rename_i isAlive
        exact
          timers_issueAll_of_not_commandsRearm (Bool.and_eq_false_imp.mp notRearmed isAlive)
      · rfl
  | work =>
      exact
        congrArg Timer.Table.earliest?
          (view_work World.timers (fun _ _ => rfl) timers_switch world)

/-- The controller with the loop of its timers. -/
def loopHost : Timer.LoopHost World Debounce Impulse where
  table := World.timers
  withTable world timers := { world with timers }
  run := expireAt
  now := World.now
  withNow world now := { world with now }
  isStopped _ := false
  call impulse world := world.step impulse.move
  callRearms := impulseRearms
  workRearms now firing world :=
    ({ world with now } : World).reactionRearms (world.state.expire firing.alarm.work)
  table_withNow _ _ := rfl
  now_withNow _ _ := rfl
  isStopped_withNow _ _ := rfl
  now_call := now_impulse
  isStopped_call _ _ stopped := stopped
  earliest?_call := earliest?_impulse

/-- The moves that a step of the loop or an impulse makes. -/
def movesOf
    (loop : Timer.Loop World) :
    Timer.LoopStep Impulse → List Move
  | .call impulse =>
      [impulse.move]
  | .elapse =>
      [.elapse 1]
  | .turn =>
      if (loopHost.firing? loop).isSome then [.fire] else []

/-- The moves of a loop that takes steps. -/
def loopMoves
    (loop : Timer.Loop World) :
    List (Timer.LoopStep Impulse) → List Move
  | [] =>
      []
  | step :: rest =>
      movesOf loop step ++ loopMoves (loopHost.step loop step) rest

/-- What the loop does in a firing is to take the alarm that is due and do its debounce. -/
theorem expireAt_eq_fireDue
    {firing : Timer.Firing Debounce}
    {rest : Timer.Table Debounce}
    (taken : world.timers.takeDue? world.now = some (firing, rest)) :
    ({ world with timers := rest } : World).expireAt world.now firing = world.fireDue := by
  simp only [fireDue, taken]
  rfl

/-- A step of the loop is a run of its moves. -/
theorem world_loopStep
    (loop : Timer.Loop World)
    (step : Timer.LoopStep Impulse) :
    (loopHost.step loop step).world = loop.world.run (movesOf loop step) := by
  cases step with
  | call impulse =>
      rfl
  | elapse =>
      rfl
  | turn =>
      simp only [movesOf]
      cases firingIs : loopHost.firing? loop with
      | none =>
          exact Timer.LoopHost.world_turn_of_firing?_eq_none firingIs
      | some both =>
          obtain ⟨firing, rest⟩ := both
          have turned : loopHost.turn loop = loopHost.fire loop firing rest :=
            Timer.LoopHost.turn_of_firing?_eq_some firingIs
          obtain ⟨-, taken⟩ := Timer.LoopHost.takeDue?_of_firing?_eq_some firingIs
          rw [Option.isSome_some, if_pos rfl, run_cons, run_nil]
          simp only [Timer.LoopHost.step, turned]
          exact expireAt_eq_fireDue taken

/-- What a loop does is a run. -/
theorem world_follow
    (loop : Timer.Loop World)
    (steps : List (Timer.LoopStep Impulse)) :
    (loopHost.follow loop steps).world = loop.world.run (loopMoves loop steps) := by
  induction steps generalizing loop with
  | nil =>
      rfl
  | cons step rest inductionHypothesis =>
      rw [Timer.LoopHost.follow_cons, inductionHypothesis, world_loopStep, loopMoves, run_append]

/-- However the loop takes its turns, the moves from outside are those of the steps. -/
theorem filter_isHeard_loopMoves
    (loop : Timer.Loop World)
    (steps : List (Timer.LoopStep Impulse)) :
    (loopMoves loop steps).filter Move.isHeard = movesHeard steps := by
  induction steps generalizing loop with
  | nil =>
      rfl
  | cons step rest inductionHypothesis =>
      have first : (movesOf loop step).filter Move.isHeard = (moveHeard? step).toList := by
        cases step with
        | call impulse =>
            cases impulse <;> rfl
        | elapse =>
            rfl
        | turn =>
            simp only [movesOf]
            split <;> rfl
      rw [loopMoves, List.filter_append, inductionHypothesis, first, movesHeard, movesHeard,
        List.filterMap_cons]
      cases moveHeard? step <;> rfl

/-- The signals of a run come from outside. -/
theorem call_mem_of_receive_mem_loopMoves
    {loop : Timer.Loop World}
    {steps : List (Timer.LoopStep Impulse)}
    {signal : Signal}
    (member : .receive signal ∈ loopMoves loop steps) :
    .call (.receive signal) ∈ steps := by
  have isHeard : .receive signal ∈ (loopMoves loop steps).filter Move.isHeard :=
    List.mem_filter.mpr ⟨member, rfl⟩
  rw [filter_isHeard_loopMoves] at isHeard
  obtain ⟨step, inSteps, heardIs⟩ := List.mem_filterMap.mp isHeard
  cases step with
  | call impulse =>
      cases impulse with
      | receive other =>
          cases heardIs
          exact inSteps
      | work =>
          cases heardIs
  | elapse | turn =>
      cases heardIs

/-- A new controller and its loop after some steps. -/
def looped
    (config : Config)
    (steps : List (Timer.LoopStep Impulse)) :
    Timer.Loop World :=
  loopHost.follow (loopHost.begin (create config)) steps

theorem looped_concat
    (config : Config)
    (steps : List (Timer.LoopStep Impulse))
    (step : Timer.LoopStep Impulse) :
    looped config (steps ++ [step]) = loopHost.step (looped config steps) step :=
  Timer.LoopHost.follow_append ..

/-- The moves of a new controller with its loop. -/
theorem world_looped
    (config : Config)
    (steps : List (Timer.LoopStep Impulse)) :
    (looped config steps).world =
      (create config).run (loopMoves (loopHost.begin (create config)) steps) :=
  world_follow _ _

/-- The delay of the loop of a new controller. -/
def delayOf
    (config : Config)
    (steps : List (Timer.LoopStep Impulse)) :
    Timer.Delay :=
  loopHost.delay (loopHost.begin (create config)) {} steps

/-- Whether the loop of a new controller comes first in each millisecond. -/
def comesFirst
    (config : Config)
    (steps : List (Timer.LoopStep Impulse)) :
    Bool :=
  loopHost.comesFirst (loopHost.begin (create config)) steps

theorem delayOf_total_of_comesFirst
    {config : Config}
    {steps : List (Timer.LoopStep Impulse)}
    (isFirst : comesFirst config steps = true) :
    (delayOf config steps).total = 0 :=
  (Timer.LoopHost.isFresh_look _).delay_total_of_comesFirst isFirst rfl

/-- A turn of the loop makes up for a millisecond at most. -/
theorem delayOf_le_of_turn
    (config : Config)
    (steps : List (Timer.LoopStep Impulse)) :
    (delayOf config steps).total ≤ (delayOf config (steps ++ [.turn])).total + 1 := by
  rw [delayOf, delayOf, Timer.LoopHost.delay_append]
  exact Timer.Delay.total_le_afterTurn_add_one ..

theorem operating_looped
    (config : Config)
    (steps : List (Timer.LoopStep Impulse)) :
    Operating (looped config steps).world := by
  rw [world_looped]
  exact operating_run (operating_create config) _

theorem config_looped
    (config : Config)
    (steps : List (Timer.LoopStep Impulse)) :
    (looped config steps).world.config = config := by
  rw [world_looped]
  exact config_run (operating_create config) _

/-- A controller that operates with patience is punctual but for a delay. -/
structure Prompt
    (behind : Nat)
    (world : World) :
    Prop extends Operating world where
  isPatient : world.config.tunables.IsPatient
  isPunctual : world.timers.IsPunctual (behind + 1) world.now

namespace Prompt

variable {behind : Nat}

theorem receive
    (prompt : Prompt behind world)
    (signal : Signal) :
    Prompt behind (world.receive signal) := by
  rw [receive_of_operating prompt.toOperating]
  refine ⟨⟨wellFormed_react prompt.toWellFormed _, ?_⟩, ?_, ?_⟩
  · exact (isAlive_react _ _).trans prompt.isAlive
  · rw [config_react]
    exact prompt.isPatient
  · rw [now_react]
    exact isPunctual_react prompt.toWellFormed prompt.isPatient prompt.isPunctual _

theorem work (prompt : Prompt behind world) : Prompt behind (world.step .work) := by
  have stepped := stepped_step prompt.toOperating .work
  refine ⟨stepped.operating prompt.toOperating, ?_, ?_⟩
  · rw [stepped.config_eq]
    exact prompt.isPatient
  · rw [view_work World.timers (fun _ _ => rfl) timers_switch,
      view_work World.now (fun _ _ => rfl) now_switch]
    exact prompt.isPunctual

theorem later
    (prompt : Prompt behind world)
    {after : Nat}
    (isPunctual : world.timers.IsPunctual (after + 1) (world.now + 1)) :
    Prompt after world.later :=
  ⟨operating_later prompt.toOperating, prompt.isPatient, isPunctual⟩

/-- A firing takes a rival away from every other alarm. -/
theorem fireDue
    {firing : Timer.Firing Debounce}
    {rest : Timer.Table Debounce}
    (prompt : Prompt (behind + 1) world)
    (taken : world.timers.takeDue? world.now = some (firing, rest)) :
    Prompt behind world.fireDue := by
  have operating := prompt.toOperating
  have stepped := stepped_step operating .fire
  have due : world.due? = some firing.alarm.work :=
    Option.map_eq_some_iff.mpr ⟨(firing, rest), taken, rfl⟩
  have fired := fireDue_of_due?_eq_some operating due
  obtain ⟨wasArmed, -, restIs⟩ := Timer.Table.takeDue?_eq_some taken
  refine ⟨stepped.operating operating, ?_, ?_⟩
  · rw [show world.fireDue = world.step .fire from rfl, stepped.config_eq]
    exact prompt.isPatient
  · rw [now_fireDue, fired, timers_fired operating.toWellFormed, operating.ownSlot wasArmed,
      ← restIs]
    exact prompt.isPunctual.takeDue? taken

end Prompt

/-- With positive slack times the timers are punctual but for the delay of the loop. -/
theorem kept_prompt : Timer.LoopHost.KeptWithDelay loopHost Prompt where
  mono prompt := ⟨prompt.toOperating, prompt.isPatient, prompt.isPunctual.mono⟩
  call impulse prompt := by
    cases impulse with
    | receive signal =>
        exact prompt.receive signal
    | work =>
        exact prompt.work
  idles {behind world} notDue prompt := by
    have nothingDue : world.timers.takeDue? (world.now + 1) = none :=
      Timer.LoopHost.takeDue?_eq_none_of_isDue_eq_false rfl notDue
    have roomy : world.timers.size ≤ behind + 1 + 2 := by
      rw [prompt.timerSlots]
      exact Nat.le_add_left 3 behind
    exact prompt.later (.of_nothingDue roomy nothingDue)
  waits prompt := prompt.later prompt.isPunctual.goOn
  fires {behind world firing rest} _ taken prompt := by
    have done := prompt.fireDue taken
    rwa [← expireAt_eq_fireDue taken] at done

theorem prompt_looped
    {config : Config}
    (isPatient : config.tunables.IsPatient)
    (steps : List (Timer.LoopStep Impulse)) :
    Prompt (delayOf config steps).total (looped config steps).world := by
  refine kept_prompt.follow steps ⟨operating_create config, isPatient, ?_⟩
  intro handle alarm armed
  simp only [Timer.LoopHost.begin, Timer.LoopHost.look, create, Debounce.all, List.foldl_cons,
    List.foldl_nil, Timer.Table.alarm?_create] at armed
  cases armed

end World

namespace Beat

/-- A beat in a run in which the loop comes first. -/
def loopSteps : Beat → List (Timer.LoopStep Impulse)
  | .receive signal =>
      [.call (.receive signal), .turn]
  | .work =>
      [.call .work, .turn]
  | .tick =>
      [.elapse, .turn, .turn]

end Beat

namespace World

theorem pace_eq_beat (world : World) : loopHost.pace world = world.beat .tick := by
  have ticked : world.beat .tick = world.later.fireDue := rfl
  have paced :
      loopHost.pace world = loopHost.toHost.wakeUp world.later.now world.later := rfl
  rw [ticked, paced]
  cases taken : world.later.timers.takeDue? world.later.now with
  | none =>
      have nothingDue : world.later.due? = none := Option.map_eq_none_iff.mpr taken
      rw [fireDue_of_due?_eq_none nothingDue]
      exact Timer.Host.wakeUp_of_takeDue?_eq_none _ taken
  | some both =>
      obtain ⟨firing, rest⟩ := both
      rw [← expireAt_eq_fireDue taken]
      exact Timer.Host.wakeUp_of_takeDue?_eq_some _ taken

/-- A run on time is one in which the loop comes first. -/
theorem leads_play
    (config : Config)
    (beats : List Beat) :
    Timer.LoopHost.Leads loopHost (loopHost.begin (create config))
      (beats.flatMap Beat.loopSteps) ((create config).play beats) := by
  induction beats using List.reverseRecOn with
  | nil =>
      exact .begin _
  | append_singleton beats beat inductionHypothesis =>
      rw [List.flatMap_append, List.flatMap_singleton, play_append, play_cons, play_nil]
      cases beat with
      | receive signal =>
          exact inductionHypothesis.call (.receive signal)
      | work =>
          exact inductionHypothesis.call .work
      | tick =>
          exact pace_eq_beat _ ▸ inductionHypothesis.pace

end World

end RefreshRate.Controller
