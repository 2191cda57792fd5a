import RefreshRate.Proofs.Config.Accepted
import RefreshRate.Proofs.Controller.Switching

namespace RefreshRate.Controller

/-!
# What reaches the display

Only a switch adds to the history, and it resolves one of the rules of the
configuration.  The rules of an accepted configuration have passed the check of
its mode, so no index is ever taken for a rate and no rate for an index.
-/

/-- What an event says was resolved from a rule of the configuration, for its mode. -/
def Event.IsResolved (config : Config) : Event → Prop
  | .switched value _ =>
      ∃ key isActive, value = (config.rules.lookup key).pick isActive
  | .applied _ mode value _ =>
      mode = config.tunables.mode ∧
        ∃ key isActive, value = (config.rules.lookup key).pick isActive

namespace World

variable {world next : World} {move : Move}

/-- The target is a value of a rule that is looked up. -/
theorem exists_target_eq_pick (world : World) :
    ∃ key isActive, world.target = (world.config.rules.lookup key).pick isActive := by
  unfold target State.target State.rule
  cases world.state.override? with
  | none =>
      exact ⟨world.state.app, world.state.isActive, rfl⟩
  | some override =>
      exact ⟨override.key, world.state.isActive, rfl⟩

theorem isResolved_of_mem_switchEvents
    {event : Event}
    (member : event ∈ world.switchEvents) :
    event.IsResolved world.config := by
  have resolved := exists_target_eq_pick world
  unfold switchEvents at member
  rcases List.mem_cons.mp member with rfl | isApplied
  · exact resolved
  · split at isApplied
    · rename_i admission admitted
      cases List.mem_singleton.mp isApplied
      have passed : admission.value = world.target :=
        Gate.value_of_offer_fst_eq_some admitted
      rw [Event.IsResolved, passed]
      exact ⟨rfl, resolved⟩
    · cases isApplied

/-- A step adds the events of one switch to the history, or nothing. -/
theorem Stepped.history_eq
    (stepped : Stepped world move next) :
    next.history = world.history ∨ next.history = world.history ++ world.switchEvents := by
  cases stepped with
  | received signal =>
      exact .inl (history_react world _)
  | elapsed milliseconds =>
      exact .inl rfl
  | notFired nothingDue =>
      exact .inl rfl
  | fired debounce deadline due armed reached =>
      exact .inl (history_react _ _)
  | worked worked =>
      cases worked with
      | goesOn executor =>
          exact .inl rfl
      | takes executor =>
          exact .inl rfl
      | switches executor =>
          simp only [switch]
          split
          · exact .inr rfl
          · exact .inl rfl

/-- The history only grows. -/
theorem history_isPrefix_run
    (operating : Operating world)
    (moves : List Move) :
    world.history <+: (world.run moves).history := by
  refine
    run_invariant
      (motive := fun later => world.history <+: later.history)
      ?_ operating (fun _ _ => trivial) (List.prefix_refl _)
  intro before after move _ stepped _ isPrefix
  rcases stepped.history_eq with same | grown
  · rw [same]
    exact isPrefix
  · rw [grown]
    exact isPrefix.trans (List.prefix_append _ _)

/-- In every run every event was resolved from a rule of the configuration. -/
theorem isResolved_of_mem_history_run
    (config : Config)
    (moves : List Move)
    {event : Event}
    (member : event ∈ ((create config).run moves).history) :
    event.IsResolved config := by
  have resolved :
      ∀ event ∈ ((create config).run moves).history, event.IsResolved config := by
    refine
      run_induction
        (motive := fun _ world => ∀ event ∈ world.history, event.IsResolved config)
        config ?_ ?_ moves
    · intro event member
      cases member
    · intro moves move next operating stepped before event member
      rcases stepped.history_eq with same | grown
      · rw [same] at member
        exact before event member
      · rw [grown] at member
        rcases List.mem_append.mp member with old | new
        · exact before event old
        · have ofWorld := isResolved_of_mem_switchEvents new
          rw [config_run (operating_create config) moves] at ofWorld
          exact ofWorld
  exact resolved event member

/--
Each call of the actuator uses the configured mode and a value of a rule that the
text of the configuration gives: a rate in literal mode, an index in indexed mode,
or the `-1` of the pair that asks for no change.
-/
theorem value_of_applied_fits_mode
    {text : String}
    {config : Config}
    (accepted : (Config.ofText text).outcome = .ok config)
    (moves : List Move)
    {time : Nat}
    {mode : SwitchMode}
    {value : Int}
    {forced : Bool}
    (applied : .applied time mode value forced ∈ ((create config).run moves).history) :
    mode = config.tunables.mode ∧
      ∃ key rule,
        (key, rule) ∈ config.rules.entries ∧
          Config.Writes text key rule ∧
            (value = rule.idle ∨ value = rule.active) ∧
              (rule = ⟨-1, -1⟩ ∧ value = -1 ∨
                mode = .literal ∧ 20 ≤ value ∨
                  mode = .indexed ∧ value < 20) := by
  obtain ⟨rfl, lookedUp, isActive, rfl⟩ := isResolved_of_mem_history_run config moves applied
  obtain ⟨key, member⟩ := config.rules.exists_mem_entries_lookup lookedUp
  obtain ⟨accepts, writes⟩ := Config.accepts_and_writes_of_mem_entries accepted member
  refine ⟨rfl, key, config.rules.lookup lookedUp, member, writes, ?_, ?_⟩
  · cases isActive with
    | false =>
        exact .inl rfl
    | true =>
        exact .inr rfl
  · rcases SwitchMode.fits_pick_of_accepts accepts isActive with noOverride | fits
    · refine .inl ⟨noOverride, ?_⟩
      rw [noOverride]
      cases isActive with
      | false =>
          rfl
      | true =>
          rfl
    · refine .inr ?_
      cases modeIs : config.tunables.mode with
      | literal =>
          rw [modeIs] at fits
          exact .inl ⟨rfl, of_decide_eq_true fits⟩
      | indexed =>
          rw [modeIs] at fits
          exact .inr ⟨rfl, of_decide_eq_true fits⟩

/-- A text of the sample configuration. -/
def sampleText : String :=
  "* 60 120\n- 30 30\ncom.game 90 144\n/touchSlackMs 1000\n/gestureSlackMs 500\n"

theorem outcome_ofText_sampleText :
    (Config.ofText sampleText).outcome = .ok sampleConfig :=
  rfl

/-- An app comes to the top whose name is the key of the offscreen rule. -/
def offscreenKeyOnTop : List Move :=
  [.receive (.topApp "-"), .receive (.touch true), .work, .work, .work]

theorem value_of_applied_run_offscreenKeyOnTop :
    .applied 0 .literal 30 true ∈ ((create sampleConfig).run offscreenKeyOnTop).history ∧
      ∃ rule, Config.Writes sampleText "-" rule ∧ rule.active = 30 := by
  have applied :
      .applied 0 .literal 30 true ∈ ((create sampleConfig).run offscreenKeyOnTop).history := by
    decide
  obtain ⟨-, key, rule, member, writes, value, -⟩ :=
    value_of_applied_fits_mode outcome_ofText_sampleText offscreenKeyOnTop applied
  refine ⟨applied, ?_⟩
  have entries :
      sampleConfig.rules.entries =
        [("-", ⟨30, 30⟩), ("*", ⟨60, 120⟩), ("com.game", ⟨90, 144⟩)] :=
    rfl
  rw [entries] at member
  simp only [List.mem_cons, List.not_mem_nil, or_false, Prod.mk.injEq] at member
  rcases member with ⟨rfl, rfl⟩ | ⟨rfl, rfl⟩ | ⟨rfl, rfl⟩
  · exact ⟨_, writes, rfl⟩
  · simp at value
  · simp at value

end World

end RefreshRate.Controller
