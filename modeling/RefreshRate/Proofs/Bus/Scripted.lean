import RefreshRate.Bus.Bench
import RefreshRate.Proofs.Bus.Delivery
import RefreshRate.Proofs.Bus.Ending

namespace RefreshRate.Bus

/-!
# Scripts and plain receivers among the subscribers

A bench of scripted subscribers is run from an agenda.  The agenda is a stack with the
frames put together, so what a bench does is a run of programs.  Subscribers that only
change the world are called in the same way.
-/

namespace Bench

/-- The program of a script. -/
def program : List Action → Program Nat Bench
  | [] =>
      .done
  | .subscribe topic name times script :: rest =>
      -- The bench knows the subscriber before the bus does.
      .consult
        (fun bench =>
          { bench with
            bus := bench.bus.subscribe topic bench.callbacks.length
            callbacks := bench.callbacks ++ [⟨name, times, script⟩] })
        fun bench => .subscribe topic bench.callbacks.length (program rest)
  | .publish signal :: rest =>
      .publish signal (program rest)
  | .hasSubscriber topic :: rest =>
      .hasSubscriber topic fun _ => program rest
  | .panic message :: _ =>
      .panic message

/-- The script that a callback performs at its next delivery. -/
def scriptOf
    (bench : Bench)
    (id : Nat) :
    List Action :=
  match bench.callbacks[id]? with
  | none =>
      []
  | some callback =>
      if callback.remaining = 0 then [] else callback.script

/-- What a scripted subscriber does with a signal. -/
def react
    (id : Nat)
    (signal : Signal) :
    Program Nat Bench :=
  .consult (fun bench => (bench.deliver id signal).2) fun bench => program (bench.scriptOf id)

/-- A frame of a script. -/
inductive ScriptFrame where
  | performing (owner : Nat) (script : List Action)
  | delivering (number : Nat) (signal : Signal) (pending : List Nat)

namespace ScriptFrame

/-- The frame on the stack. -/
def frame : ScriptFrame → Frame Nat Bench
  | .performing owner script => .running owner (program script)
  | .delivering number signal pending => .delivering number signal pending

/-- The tasks on the agenda. -/
def tasks : ScriptFrame → List Task
  | .performing _ script => script.map .perform
  | .delivering _ signal pending => pending.map fun id => .deliver id signal

end ScriptFrame

/-- A bench in use. -/
def scene
    (bench : Bench)
    (published : Nat)
    (frames : List ScriptFrame)
    (session : List (Program Nat Bench)) :
    Scene Nat Bench :=
  ⟨bench.bus, bench, published, frames.map ScriptFrame.frame, session⟩

variable
  {bench next : Bench}
  {task : Task}
  {rest tasks : List Task}
  {frames : List ScriptFrame}
  {message : String}

theorem tasks_deliver
    (bench : Bench)
    (id : Nat)
    (signal : Signal) :
    (bench.deliver id signal).1 = (bench.scriptOf id).map .perform ∧
      (bench.deliver id signal).2.bus = bench.bus := by
  unfold deliver scriptOf
  cases bench.callbacks[id]? with
  | none =>
      exact ⟨rfl, rfl⟩
  | some callback =>
      by_cases isSpent : callback.remaining = 0
      · simp [isSpent]
      · simp [isSpent]

/-- The messages of the panics in a log. -/
def panics (log : List (Entry Nat)) : List String :=
  log.filterMap fun entry =>
    match entry.event with
    | .panicked message => some message
    | _ => none

/-- Frames with nothing left to do are taken off the stack. -/
theorem exists_reaches_dropping
    (bench : Bench)
    (published : Nat)
    (session : List (Program Nat Bench))
    (frames : List ScriptFrame) :
    ∃ log kept,
      Reaches react (bench.scene published frames session) log
          (bench.scene published kept session) ∧
        panics log = [] ∧
          kept.flatMap ScriptFrame.tasks = frames.flatMap ScriptFrame.tasks ∧
            ∀ frame ∈ kept.head?, frame.tasks ≠ [] := by
  induction frames with
  | nil =>
      exact ⟨[], [], .refl, rfl, rfl, by rintro frame ⟨⟩⟩
  | cons frame frames inductionHypothesis =>
      obtain ⟨log, kept, reaches, noPanic, sameTasks, notEmpty⟩ := inductionHypothesis
      cases frame with
      | performing owner script =>
          cases script with
          | nil =>
              exact ⟨log, kept, .next .finish reaches, noPanic, sameTasks, notEmpty⟩
          | cons action script =>
              refine ⟨[], _, .refl, rfl, rfl, ?_⟩
              rintro frame ⟨⟩
              exact List.cons_ne_nil _ _
      | delivering number signal pending =>
          cases pending with
          | nil =>
              exact ⟨_, kept, .next .leave reaches, noPanic, sameTasks, notEmpty⟩
          | cons id pending =>
              refine ⟨[], _, .refl, rfl, rfl, ?_⟩
              rintro frame ⟨⟩
              exact List.cons_ne_nil _ _

theorem exists_reaches_of_no_tasks
    (noTasks : frames.flatMap ScriptFrame.tasks = [])
    (bench : Bench)
    (published : Nat)
    (session : List (Program Nat Bench)) :
    ∃ log,
      Reaches react (bench.scene published frames session) log
          (bench.scene published [] session) ∧
        panics log = [] := by
  obtain ⟨log, kept, reaches, noPanic, sameTasks, notEmpty⟩ :=
    exists_reaches_dropping bench published session frames
  cases kept with
  | nil =>
      exact ⟨log, reaches, noPanic⟩
  | cons frame kept =>
      rw [noTasks, List.flatMap_cons] at sameTasks
      exact absurd (List.append_eq_nil_iff.mp sameTasks).1 (notEmpty frame rfl)

theorem exists_reaches_of_first_task
    (firstTask : frames.flatMap ScriptFrame.tasks = task :: rest)
    (bench : Bench)
    (published : Nat)
    (session : List (Program Nat Bench)) :
    ∃ log frame kept,
      Reaches react (bench.scene published frames session) log
          (bench.scene published (frame :: kept) session) ∧
        panics log = [] ∧
          frame.tasks ++ kept.flatMap ScriptFrame.tasks = task :: rest ∧ frame.tasks ≠ [] := by
  obtain ⟨log, kept, reaches, noPanic, sameTasks, notEmpty⟩ :=
    exists_reaches_dropping bench published session frames
  cases kept with
  | nil =>
      rw [firstTask] at sameTasks
      cases sameTasks
  | cons frame kept =>
      rw [firstTask, List.flatMap_cons] at sameTasks
      exact ⟨log, frame, kept, reaches, noPanic, sameTasks, notEmpty frame rfl⟩

/-- A task of the agenda is done by moves. -/
theorem exists_reaches_of_step
    {frame : ScriptFrame}
    (stepped : bench.step task = .ok (tasks, next))
    (isFirst : frame.tasks ++ frames.flatMap ScriptFrame.tasks = task :: rest)
    (notEmpty : frame.tasks ≠ [])
    (published : Nat)
    (session : List (Program Nat Bench)) :
    ∃ log publishedThen framesThen,
      Reaches react (bench.scene published (frame :: frames) session) log
          (next.scene publishedThen framesThen session) ∧
        panics log = [] ∧ framesThen.flatMap ScriptFrame.tasks = tasks ++ rest := by
  cases frame with
  | performing owner script =>
      cases script with
      | nil =>
          exact absurd rfl notEmpty
      | cons action script =>
          obtain ⟨rfl, rfl⟩ := List.cons.inj isFirst
          cases action with
          | subscribe topic name times subscriberScript =>
              cases stepped
              exact
                ⟨_, published, .performing owner script :: frames,
                  .next .consult (.next .subscribe .refl), rfl, rfl⟩
          | publish signal =>
              cases stepped
              refine
                ⟨_, published + 1,
                  .delivering (published + 1) signal (bench.bus.subscribers signal.topic) ::
                    .performing owner script :: frames,
                  .next .enter .refl, rfl, rfl⟩
          | hasSubscriber topic =>
              cases stepped
              exact
                ⟨_, published, .performing owner script :: frames, .next .ask .refl, rfl, rfl⟩
          | panic message =>
              cases stepped
  | delivering number signal pending =>
      cases pending with
      | nil =>
          exact absurd rfl notEmpty
      | cons id pending =>
          obtain ⟨rfl, rfl⟩ := List.cons.inj isFirst
          obtain ⟨tasksAre, sameBus⟩ := tasks_deliver bench id signal
          have reaches :
              Reaches react
                (bench.scene published (.delivering number signal (id :: pending) :: frames)
                  session)
                [⟨number, .called id signal⟩]
                ⟨bench.bus, (bench.deliver id signal).2, published,
                  (.performing number (bench.scriptOf id) ::
                    .delivering number signal pending :: frames).map ScriptFrame.frame,
                  session⟩ :=
            .next .call (.next .consult .refl)
          simp only [step, Except.ok.injEq] at stepped
          simp only [stepped] at tasksAre sameBus reaches
          rw [← sameBus] at reaches
          rw [tasksAre]
          exact ⟨_, published, _, reaches, rfl, rfl⟩

/-- A panic takes everything off the stack. -/
theorem exists_reaches_of_panic
    {frame : ScriptFrame}
    (stepped : bench.step task = .error message)
    (isFirst : frame.tasks ++ frames.flatMap ScriptFrame.tasks = task :: rest)
    (notEmpty : frame.tasks ≠ [])
    (published : Nat)
    (session : List (Program Nat Bench)) :
    ∃ log,
      Reaches react (bench.scene published (frame :: frames) session) log
          (bench.scene published [] session) ∧
        panics log = [message] := by
  cases frame with
  | performing owner script =>
      cases script with
      | nil =>
          exact absurd rfl notEmpty
      | cons action script =>
          obtain ⟨rfl, rfl⟩ := List.cons.inj isFirst
          cases action with
          | panic message =>
              cases stepped
              exact ⟨_, .next .panic .refl, rfl⟩
          | subscribe | publish | hasSubscriber =>
              cases stepped
  | delivering number signal pending =>
      cases pending with
      | nil =>
          exact absurd rfl notEmpty
      | cons id pending =>
          obtain ⟨rfl, rfl⟩ := List.cons.inj isFirst
          cases stepped

theorem panics_append (before after : List (Entry Nat)) :
    panics (before ++ after) = panics before ++ panics after :=
  List.filterMap_append

/-- An agenda is done by a run of the stack that it is made of. -/
theorem exists_reaches_of_run
    (bench : Bench)
    (agenda : List Task)
    (frames : List ScriptFrame)
    (isAgenda : frames.flatMap ScriptFrame.tasks = agenda)
    (published : Nat)
    (session : List (Program Nat Bench)) :
    ∃ log publishedThen,
      Reaches react (bench.scene published frames session) log
          ((bench.run agenda).2.scene publishedThen [] session) ∧
        panics log = (bench.run agenda).1.toList := by
  induction bench, agenda using run.induct generalizing frames published with
  | case1 bench =>
      obtain ⟨log, reaches, noPanic⟩ :=
        exists_reaches_of_no_tasks isAgenda bench published session
      rw [run]
      exact ⟨log, published, reaches, noPanic⟩
  | case2 bench task rest message stepped =>
      obtain ⟨log, frame, kept, reaches, noPanic, isFirst, notEmpty⟩ :=
        exists_reaches_of_first_task isAgenda bench published session
      obtain ⟨logThen, reachesThen, panicked⟩ :=
        exists_reaches_of_panic stepped isFirst notEmpty published session
      refine ⟨log ++ logThen, published, ?_, ?_⟩
      · rw [run, stepped]
        exact reaches.trans reachesThen
      · rw [run, stepped, panics_append, noPanic, panicked]
        rfl
  | case3 bench task rest tasks next stepped inductionHypothesis =>
      obtain ⟨log, frame, kept, reaches, noPanic, isFirst, notEmpty⟩ :=
        exists_reaches_of_first_task isAgenda bench published session
      obtain ⟨logThen, publishedThen, framesThen, reachesThen, noPanicThen, isAgendaThen⟩ :=
        exists_reaches_of_step stepped isFirst notEmpty published session
      obtain ⟨logLater, publishedLater, reachesLater, panicsLater⟩ :=
        inductionHypothesis framesThen isAgendaThen publishedThen
      refine ⟨log ++ (logThen ++ logLater), publishedLater, ?_, ?_⟩
      · rw [run, stepped]
        exact reaches.trans (reachesThen.trans reachesLater)
      · rw [run, stepped, panics_append, panics_append, noPanic, noPanicThen, panicsLater]
        rfl

/-- An operation on a bench is a run of the program of that operation. -/
theorem exists_reaches_of_act
    (bench : Bench)
    (action : Action)
    (published : Nat)
    (session : List (Program Nat Bench)) :
    ∃ log publishedThen,
      Reaches react (bench.scene published [] (program [action] :: session)) log
          ((bench.act action).2.scene publishedThen [] session) ∧
        panics log = (bench.act action).1.toList := by
  obtain ⟨log, publishedThen, reaches, panicked⟩ :=
    bench.exists_reaches_of_run [.perform action] [.performing 0 [action]] rfl published session
  exact ⟨_, publishedThen, .next .begin reaches, panicked⟩

end Bench

section Plain

variable {Subscriber World : Type}

/-- What a subscriber does that only changes the world. -/
def plain
    (receive : Subscriber → Signal → World → World)
    (subscriber : Subscriber)
    (signal : Signal) :
    Program Subscriber World :=
  .consult (receive subscriber signal) fun _ => .done

theorem exists_reaches_delivering_plain
    (receive : Subscriber → Signal → World → World)
    (bus : Bus Subscriber)
    (world : World)
    (published number : Nat)
    (signal : Signal)
    (pending : List Subscriber)
    (stack : List (Frame Subscriber World))
    (session : List (Program Subscriber World)) :
    ∃ log,
      Reaches (plain receive)
        ⟨bus, world, published, .delivering number signal pending :: stack, session⟩
        log
        ⟨bus, pending.foldl (fun world subscriber => receive subscriber signal world) world,
          published, stack, session⟩ := by
  induction pending generalizing world with
  | nil =>
      exact ⟨_, .next .leave .refl⟩
  | cons subscriber pending inductionHypothesis =>
      obtain ⟨log, reaches⟩ := inductionHypothesis (receive subscriber signal world)
      exact ⟨_, .next .call (.next .consult (.next .finish reaches))⟩

/-- A publish to subscribers that only change the world changes it as `Bus.publish` says. -/
theorem exists_reaches_of_publish
    (receive : Subscriber → Signal → World → World)
    (bus : Bus Subscriber)
    (world : World)
    (published : Nat)
    (signal : Signal)
    (session : List (Program Subscriber World)) :
    ∃ log,
      Reaches (plain receive)
        ⟨bus, world, published, [], .publish signal .done :: session⟩
        log
        ⟨bus, bus.publish receive signal world, published + 1, [], session⟩ := by
  obtain ⟨log, reaches⟩ :=
    exists_reaches_delivering_plain receive bus world (published + 1) (published + 1) signal
      (bus.subscribers signal.topic) [.running 0 .done] session
  exact
    ⟨_, .next .begin (.next .enter (reaches.trans (.next .finish .refl)))⟩

end Plain

/-- The first subscriber registers one that panics, and publishes again. -/
def registering : Nat → Signal → Program Nat Nat
  | 1, _ =>
      .consult (· + 1) fun
        | 0 => .subscribe .touch 2 (.publish (.touch false) .done)
        | _ + 1 => .done
  | 2, _ =>
      .panic "no more"
  | _, _ =>
      .done

/-- The caller publishes, and after that it asks. -/
def registeringStart : Scene Nat Nat where
  bus := ⟨[(.touch, 1), (.touch, 3)]⟩
  world := 0
  published := 0
  stack := []
  session := [.publish (.touch true) .done, .hasSubscriber .touch fun _ => .done]

def registeringLog : List (Entry Nat) :=
  [⟨0, .began⟩, ⟨0, .entered 1 (.touch true)⟩, ⟨1, .called 1 (.touch true)⟩,
    ⟨1, .subscribed .touch 2⟩, ⟨1, .entered 2 (.touch false)⟩, ⟨2, .called 1 (.touch false)⟩,
    ⟨2, .called 3 (.touch false)⟩, ⟨2, .called 2 (.touch false)⟩, ⟨2, .panicked "no more"⟩,
    ⟨0, .began⟩, ⟨0, .asked .touch true⟩]

theorem reaches_registering : ∃ final, Reaches registering registeringStart registeringLog final :=
  ⟨_, .next .begin <| .next .enter <| .next .call <| .next .consult <| .next .subscribe <|
    .next .enter <| .next .call <| .next .consult <| .next .finish <| .next .call <|
    .next .finish <| .next .call <| .next .panic <| .next .begin <| .next .ask <|
    .next .finish .refl⟩

end RefreshRate.Bus
