import RefreshRate.Proofs.Controller.Override

namespace RefreshRate.Controller

/-!
# The offscreen rule

From the moment a device goes offscreen the offscreen rule is in effect, until
the slack time after its return has passed.  Only a gesture that starts in the
meantime takes the override over.
-/

/-- Whether a move is the start of a gesture. -/
def Move.startsGesture (move : Move) : Bool :=
  (move.signal?.bind Signal.toldInput?).elim false InputState.inGesture

namespace OverrideView

/-- The device is offscreen, its rule is in effect, and no exit is armed. -/
structure Entered (view : OverrideView) : Prop where
  override : view.override? = some .offscreen
  isOffscreen : view.isOffscreen = true
  notArmed : view.offscreenExit? = none

/-- The offscreen rule is in effect, and no exit has a deadline before the limit. -/
structure HeldUntil (view : OverrideView) (limit : Nat) : Prop where
  override : view.override? = some .offscreen
  notBefore :
    ∀ {alarm},
      view.offscreenExit? = some alarm →
        (limit : Int) ≤ alarm.deadline

end OverrideView

namespace World

variable {world : World} {move : Move} {view : OverrideView}

/-- Without the start of a gesture, the offscreen rule stays in effect until the return. -/
theorem OverrideStep.entered
    (overrideStep : OverrideStep world move view)
    (entered : world.overrideView.Entered)
    (noGesture : move.startsGesture = false)
    (noReturn : move ≠ .receive (.offscreen false)) :
    view.Entered := by
  cases overrideStep with
  | kept noInput noEdge =>
      exact entered
  | gestureStarted input inGesture =>
      rw [Move.startsGesture] at noGesture
      cases noGesture.symm.trans inGesture
  | gestureEnded input notInGesture =>
      exact ⟨entered.override, entered.isOffscreen, entered.notArmed⟩
  | wentOffscreen wasOnscreen =>
      exact ⟨rfl, rfl, rfl⟩
  | returned wasOffscreen =>
      exact absurd rfl noReturn
  | gestureExited deadline armed reached =>
      have override : world.state.override? = some .offscreen := entered.override
      exact ⟨by simp [override], entered.isOffscreen, entered.notArmed⟩
  | offscreenExited deadline armed reached =>
      cases entered.notArmed.symm.trans armed

/-- The return arms the exit after the slack time. -/
theorem OverrideStep.heldUntil_of_return
    (overrideStep : OverrideStep world (.receive (.offscreen false)) view)
    (entered : world.overrideView.Entered) :
    view.HeldUntil (world.now + world.config.tunables.gestureSlack) := by
  cases overrideStep with
  | kept noInput noEdge =>
      cases (noEdge false rfl).trans entered.isOffscreen
  | returned wasOffscreen =>
      refine ⟨entered.override, ?_⟩
      rintro _ ⟨⟩
      exact Int.le_refl _

/-- Before the limit, and without the start of a gesture, the offscreen rule stays in effect. -/
theorem OverrideStep.heldUntil
    {limit : Nat}
    (overrideStep : OverrideStep world move view)
    (held : world.overrideView.HeldUntil limit)
    (noGesture : move.startsGesture = false)
    (early : world.now < limit)
    (withinSlack : limit ≤ world.now + world.config.tunables.gestureSlack) :
    view.HeldUntil limit := by
  cases overrideStep with
  | kept noInput noEdge =>
      exact held
  | gestureStarted input inGesture =>
      cases noGesture.symm.trans inGesture
  | gestureEnded input notInGesture =>
      exact ⟨held.override, held.notBefore⟩
  | wentOffscreen wasOnscreen =>
      refine ⟨rfl, ?_⟩
      rintro _ ⟨⟩
  | returned wasOffscreen =>
      refine ⟨held.override, ?_⟩
      rintro _ ⟨⟩
      exact Int.ofNat_le.2 withinSlack
  | gestureExited deadline armed reached =>
      have override : world.state.override? = some .offscreen := held.override
      exact ⟨by simp [override], held.notBefore⟩
  | offscreenExited deadline armed reached =>
      -- the exit that fires would have a deadline before the limit
      have limitReached : (limit : Int) ≤ (world.now : Int) :=
        Int.le_trans (held.notBefore armed) reached
      exact absurd (Int.ofNat_le.1 limitReached) (Nat.not_le.2 early)

/-- The time at which the first return is received in a run. -/
def firstReturn? (world : World) : List Move → Option Nat
  | [] =>
      none
  | move :: rest =>
      if move = .receive (.offscreen false) then
        some world.now
      else
        (world.step move).firstReturn? rest

/-- After the return the offscreen rule stays in effect until the limit. -/
theorem override?_run_of_heldUntil
    {limit : Nat}
    {moves : List Move}
    (operating : Operating world)
    (held : world.overrideView.HeldUntil limit)
    (noGesture : ∀ move ∈ moves, move.startsGesture = false)
    (withinSlack : limit ≤ world.now + world.config.tunables.gestureSlack)
    (early : (world.run moves).now < limit) :
    (world.run moves).state.override? = some .offscreen := by
  induction moves generalizing world with
  | nil =>
      exact held.override
  | cons move rest inductionHypothesis =>
      have stepped := stepped_step operating move
      have nextOperating := stepped.operating operating
      have earlyBefore : world.now < limit :=
        Nat.lt_of_le_of_lt
          (Nat.le_trans stepped.now_le (now_le_run nextOperating rest)) early
      have nextHeld :=
        (stepped.overrideStep operating).heldUntil held
          (noGesture move List.mem_cons_self) earlyBefore withinSlack
      refine
        inductionHypothesis nextOperating nextHeld
          (fun later member => noGesture later (List.mem_cons_of_mem move member)) ?_ early
      rw [stepped.config_eq]
      exact Nat.le_trans withinSlack (Nat.add_le_add_right stepped.now_le _)

/-- From an entry on the offscreen rule stays in effect until the slack time after a return. -/
theorem override?_run_of_entered
    {moves : List Move}
    (operating : Operating world)
    (entered : world.overrideView.Entered)
    (noGesture : ∀ move ∈ moves, move.startsGesture = false)
    (early :
      ∀ returned,
        world.firstReturn? moves = some returned →
          (world.run moves).now < returned + world.config.tunables.gestureSlack) :
    (world.run moves).state.override? = some .offscreen := by
  induction moves generalizing world with
  | nil =>
      exact entered.override
  | cons move rest inductionHypothesis =>
      have stepped := stepped_step operating move
      have nextOperating := stepped.operating operating
      have restNoGesture :
          ∀ later ∈ rest, later.startsGesture = false :=
        fun later member => noGesture later (List.mem_cons_of_mem move member)
      by_cases returns : move = .receive (.offscreen false)
      · subst returns
        have nextHeld := (stepped.overrideStep operating).heldUntil_of_return entered
        have earlyAfter :
            ((world.step (.receive (.offscreen false))).run rest).now <
              world.now + world.config.tunables.gestureSlack :=
          early world.now (if_pos rfl)
        have withinSlack :
            world.now + world.config.tunables.gestureSlack ≤
              (world.step (.receive (.offscreen false))).now +
                (world.step (.receive (.offscreen false))).config.tunables.gestureSlack := by
          rw [stepped.config_eq]
          exact Nat.add_le_add_right stepped.now_le _
        rw [run_cons]
        exact override?_run_of_heldUntil nextOperating nextHeld restNoGesture withinSlack earlyAfter
      · have nextEntered :=
          (stepped.overrideStep operating).entered entered
            (noGesture move List.mem_cons_self) returns
        refine inductionHypothesis nextOperating nextEntered restNoGesture ?_
        intro returned found
        rw [stepped.config_eq]
        exact early returned ((if_neg returns).trans found)

/-- A step knows about being offscreen what it was told last. -/
theorem OverrideStep.isOffscreen_eq
    {moves : List Move}
    (overrideStep : OverrideStep world move view)
    (known :
      world.state.isOffscreen = (Move.lastOf? Signal.toldOffscreen? moves).getD false) :
    view.isOffscreen =
      (Move.lastOf? Signal.toldOffscreen? (moves ++ [move])).getD false := by
  rw [Move.lastOf?_concat]
  cases overrideStep with
  | kept noInput noEdge =>
      cases told : move.signal?.bind Signal.toldOffscreen? with
      | none =>
          exact known
      | some isOff =>
          exact (noEdge isOff told).symm
  | gestureStarted input inGesture =>
      exact known
  | gestureEnded input notInGesture =>
      exact known
  | wentOffscreen wasOnscreen =>
      rfl
  | returned wasOffscreen =>
      rfl
  | gestureExited deadline armed reached =>
      exact known
  | offscreenExited deadline armed reached =>
      exact known

/-- What was told last about being offscreen is what the controller knows. -/
theorem isOffscreen_run
    (config : Config)
    (moves : List Move) :
    ((create config).run moves).state.isOffscreen =
      (Move.lastOf? Signal.toldOffscreen? moves).getD false := by
  refine
    run_induction
      (motive := fun moves world =>
        world.state.isOffscreen = (Move.lastOf? Signal.toldOffscreen? moves).getD false)
      config rfl ?_ moves
  intro moves move next operating stepped known
  exact (stepped.overrideStep operating).isOffscreen_eq known

/-- An edge to offscreen puts the offscreen rule into effect. -/
theorem entered_step_offscreen
    (operating : Operating world)
    (onscreen : world.state.isOffscreen = false) :
    (world.step (.receive (.offscreen true))).overrideView.Entered := by
  have overrideStep := (stepped_step operating (.receive (.offscreen true))).overrideStep operating
  generalize (world.step (.receive (.offscreen true))).overrideView = view at overrideStep ⊢
  cases overrideStep with
  | kept noInput noEdge =>
      cases (noEdge true rfl).trans onscreen
  | wentOffscreen wasOnscreen =>
      exact ⟨rfl, rfl, rfl⟩

/--
From an edge to offscreen on, as long as no gesture starts, the offscreen rule
gives the target, until the slack time after a return has passed.
-/
theorem target_eq_offscreen_until_slack_after_return
    (config : Config)
    (before after : List Move)
    (onscreen : Move.lastOf? Signal.toldOffscreen? before ≠ some true)
    (noGesture : ∀ move ∈ after, move.startsGesture = false)
    (early :
      ∀ returned,
        ((create config).run (before ++ [.receive (.offscreen true)])).firstReturn? after =
            some returned →
          ((create config).run (before ++ .receive (.offscreen true) :: after)).now <
            returned + config.tunables.gestureSlack) :
    let world := (create config).run (before ++ .receive (.offscreen true) :: after)
    world.state.override?.map Override.key = some Rule.offscreenKey ∧
      world.target = config.rules.offscreen.pick world.state.isActive := by
  have operating := operating_run (operating_create config) before
  have wasOnscreen : ((create config).run before).state.isOffscreen = false := by
    rw [isOffscreen_run]
    cases told : Move.lastOf? Signal.toldOffscreen? before with
    | none =>
        rfl
    | some isOff =>
        cases isOff with
        | false =>
            rfl
        | true =>
            exact absurd told onscreen
  have entered := entered_step_offscreen operating wasOnscreen
  have stepped := stepped_step operating (.receive (.offscreen true))
  have sameConfig :
      (((create config).run before).step (.receive (.offscreen true))).config = config :=
    stepped.config_eq.trans (config_run (operating_create config) before)
  rw [run_append, run_cons]
  rw [run_append, run_append, run_cons, run_cons, run_nil] at early
  have override? :=
    override?_run_of_entered (stepped.operating operating) entered noGesture
      (by rw [sameConfig]; exact early)
  have finalConfig := (config_run (stepped.operating operating) after).trans sameConfig
  intro world
  refine ⟨by rw [override?]; rfl, ?_⟩
  simp only [world, target, finalConfig, State.target, State.rule, override?]
  rfl

/-- A press, a return, and almost the slack time after it. -/
def returnWithinSlack : List Move :=
  [.receive (.touch true), .elapse 200, .receive (.offscreen false), .elapse 499, .fire, .work]

theorem target_run_returnWithinSlack :
    ((create sampleConfig).run ([] ++ [.receive (.offscreen true)])).firstReturn?
        returnWithinSlack = some 200 ∧
      ((create sampleConfig).run
          ([] ++ .receive (.offscreen true) :: returnWithinSlack)).target =
        sampleConfig.rules.offscreen.pick true := by
  have returned :
      ((create sampleConfig).run ([] ++ [.receive (.offscreen true)])).firstReturn?
        returnWithinSlack = some 200 := by
    decide
  have early :
      ∀ returned,
        ((create sampleConfig).run ([] ++ [.receive (.offscreen true)])).firstReturn?
            returnWithinSlack = some returned →
          ((create sampleConfig).run
              ([] ++ .receive (.offscreen true) :: returnWithinSlack)).now <
            returned + sampleConfig.tunables.gestureSlack := by
    intro time found
    cases returned.symm.trans found
    decide
  have held :=
    target_eq_offscreen_until_slack_after_return sampleConfig [] returnWithinSlack
      (by decide) (by decide) early
  exact ⟨returned, held.2⟩

/-- A gesture that starts offscreen puts the universal rule into effect. -/
def gestureOffscreen : List Move :=
  [.receive (.offscreen true), .receive (.inputState ⟨false, false, true⟩)]

theorem target_run_gestureOffscreen :
    Move.lastOf? Signal.toldOffscreen? gestureOffscreen = some true ∧
      ((create sampleConfig).run gestureOffscreen).state.override?.map Override.key ≠
        some Rule.offscreenKey ∧
      ((create sampleConfig).run gestureOffscreen).target ≠
        sampleConfig.rules.offscreen.pick
          ((create sampleConfig).run gestureOffscreen).state.isActive := by
  decide

end World

end RefreshRate.Controller
