import RefreshRate.Proofs.Controller.Forcing
import RefreshRate.Proofs.Controller.Rest

namespace RefreshRate

/-!
# Strands of signals

Touch and button, the app on top, and the two causes of an override are three strands.
What a signal of one strand reads and changes is left alone by the other two; only the
force and the request for a switch are shared, and signals only ever raise them.  So
each strand ends where it would have ended without the others.
-/

/-- The part of the controller that a signal is about. -/
inductive Strand where
  | keys
  | app
  | cover
  deriving DecidableEq

namespace Signal

/-- The strand of a signal; signals of control groups belong to none. -/
def strand? : Signal → Option Strand
  | .touch _ | .button _ =>
      some .keys
  | .topApp _ =>
      some .app
  | .inputState _ | .offscreen _ =>
      some .cover
  | .cgroup _ _ =>
      none

/-- Whether a signal tells that a key goes down. -/
def isPress : Signal → Bool
  | .touch pressed | .button pressed =>
      pressed
  | _ =>
      false

theorem strand?_eq_app_iff
    (signal : Signal) :
    signal.strand? = some .app ↔ signal.topic = .topApp := by
  cases signal <;> simp [strand?, topic]

theorem strand?_eq_cover_iff
    (signal : Signal) :
    signal.strand? = some .cover ↔
      signal.topic = .inputState ∨ signal.topic = .offscreen := by
  cases signal <;> simp [strand?, topic]

/-- A signal of another strand tells nothing about the keys. -/
theorem keys?_eq_none
    {signal : Signal}
    (foreign : signal.strand? ≠ some .keys)
    (touch button : Bool) :
    signal.keys? touch button = none := by
  cases signal with
  | touch pressed =>
      exact absurd rfl foreign
  | button pressed =>
      exact absurd rfl foreign
  | inputState input =>
      rfl
  | topApp app =>
      rfl
  | offscreen isOff =>
      rfl
  | cgroup group tasks =>
      rfl

theorem foreign_of_keys?_eq_none
    {signal : Signal}
    {touch button : Bool}
    (silent : signal.keys? touch button = none) :
    signal.strand? ≠ some .keys ∧ signal.isPress = false := by
  cases signal with
  | touch pressed =>
      cases silent
  | button pressed =>
      cases silent
  | inputState input =>
      simp [strand?, isPress]
  | topApp app =>
      simp [strand?, isPress]
  | offscreen isOff =>
      simp [strand?, isPress]
  | cgroup group tasks =>
      simp [strand?, isPress]

/-- A press leaves a key down, and a key that is down was pressed now or was down before. -/
theorem held_of_keys?_eq_some
    {signal : Signal}
    {touch button touchAfter buttonAfter : Bool}
    (tells : signal.keys? touch button = some (touchAfter, buttonAfter)) :
    signal.strand? = some .keys ∧
      (signal.isPress = true → (touchAfter || buttonAfter) = true) ∧
        ((touchAfter || buttonAfter) = true →
          signal.isPress = true ∨ (touch || button) = true) := by
  cases signal with
  | touch pressed =>
      cases tells
      refine ⟨rfl, ?_, ?_⟩
      · intro isPress
        rw [show touchAfter = true from isPress, Bool.true_or]
      · intro held
        rcases Bool.or_eq_true_iff.mp held with isPress | otherHeld
        · exact .inl isPress
        · exact .inr (by rw [otherHeld, Bool.or_true])
  | button pressed =>
      cases tells
      refine ⟨rfl, ?_, ?_⟩
      · intro isPress
        rw [show buttonAfter = true from isPress, Bool.or_true]
      · intro held
        rcases Bool.or_eq_true_iff.mp held with otherHeld | isPress
        · exact .inr (by rw [otherHeld, Bool.true_or])
        · exact .inl isPress
  | inputState input =>
      cases tells
  | topApp app =>
      cases tells
  | offscreen isOff =>
      cases tells
  | cgroup group tasks =>
      cases tells

end Signal

namespace Controller

/-- Take in what a signal tells. -/
def Inputs.hear (inputs : Inputs) : Signal → Inputs
  | .touch pressed =>
      { inputs with touch := pressed }
  | .button pressed =>
      { inputs with button := pressed }
  | .topApp app =>
      { inputs with app }
  | .offscreen isOffscreen =>
      { inputs with isOffscreen }
  | .inputState _ | .cgroup _ _ =>
      inputs

namespace World

variable {world other start : World} {signal : Signal} {strand : Strand}

/-- The worlds agree about what the signals of a strand read and change. -/
def Agree (world other : World) : Strand → Prop
  | .keys =>
      world.activityView = other.activityView
  | .app =>
      world.state.app = other.state.app
  | .cover =>
      world.overrideView = other.overrideView

theorem Agree.refl
    (world : World)
    (strand : Strand) :
    Agree world world strand := by
  cases strand <;> rfl

theorem Agree.symm
    (agree : Agree world other strand) :
    Agree other world strand := by
  cases strand with
  | keys =>
      exact Eq.symm agree
  | app =>
      exact Eq.symm agree
  | cover =>
      exact Eq.symm agree

theorem Agree.trans
    {third : World}
    (agree : Agree world other strand)
    (later : Agree other third strand) :
    Agree world third strand := by
  cases strand with
  | keys =>
      exact Eq.trans agree later
  | app =>
      exact Eq.trans agree later
  | cover =>
      exact Eq.trans agree later

/-- Together the strands and the gate make up the state. -/
theorem state_eq_of_agree
    (agree : ∀ strand, Agree world other strand)
    (sameGate : world.state.gate = other.state.gate) :
    world.state = other.state := by
  have sameKeys := agree .keys
  have sameApp := agree .app
  have sameCover := agree .cover
  simp only [Agree, activityView, overrideView, ActivityView.mk.injEq,
    OverrideView.mk.injEq] at sameKeys sameApp sameCover
  obtain ⟨sameTouch, sameButton, sameActive, -⟩ := sameKeys
  obtain ⟨sameOverride, sameEdge, -⟩ := sameCover
  generalize world.state = state at *
  generalize other.state = otherState at *
  obtain ⟨touch, button, isActive, app, override, isOffscreen, gate⟩ := state
  obtain ⟨touch, button, isActive, app, override, isOffscreen, gate⟩ := otherState
  simp only at *
  subst_vars
  rfl

/-- The inputs are what the signals have told. -/
theorem inputs_receive
    (operating : Operating world)
    (signal : Signal) :
    (world.receive signal).state.inputs = world.state.inputs.hear signal := by
  rw [receive_of_operating operating, state_react]
  cases signal with
  | touch pressed =>
      simp only [State.receive, State.onInput]
      split <;> rfl
  | button pressed =>
      simp only [State.receive, State.onInput]
      split <;> rfl
  | inputState input =>
      simp only [State.receive, State.onInputState]
      split <;> rfl
  | topApp app =>
      simp only [State.receive, State.onTopApp]
      split
      · rename_i same
        rw [same]
        rfl
      · rfl
  | offscreen isOff =>
      simp only [State.receive, State.onOffscreen]
      split
      · rename_i same
        rw [same]
        rfl
      · cases isOff <;> rfl
  | cgroup group tasks =>
      rfl

/-- A signal leaves the other strands alone. -/
theorem agree_receive_of_foreign
    (operating : Operating world)
    (foreign : signal.strand? ≠ some strand) :
    Agree (world.receive signal) world strand := by
  rw [receive_of_operating operating]
  cases strand with
  | keys =>
      have activity := activityStep_receive operating.toWellFormed signal
      unfold Agree
      generalize (world.react (world.state.receive signal)).activityView = view at activity
      cases activity with
      | kept quiet =>
          rfl
      | pressed tells held =>
          cases (Signal.keys?_eq_none foreign _ _).symm.trans tells
      | released tells free =>
          cases (Signal.keys?_eq_none foreign _ _).symm.trans tells
  | app =>
      have appAfter := congrArg Inputs.app (inputs_receive operating signal)
      rw [receive_of_operating operating] at appAfter
      refine appAfter.trans ?_
      cases signal with
      | topApp app =>
          exact absurd rfl foreign
      | _ =>
          rfl
  | cover =>
      have covering := overrideStep_receive operating.toWellFormed signal
      unfold Agree
      generalize (world.react (world.state.receive signal)).overrideView = view at covering
      cases covering with
      | kept noInput noEdge =>
          rfl
      | gestureStarted input inGesture =>
          exact absurd rfl foreign
      | gestureEnded input notInGesture =>
          exact absurd rfl foreign
      | wentOffscreen wasOnscreen =>
          exact absurd rfl foreign
      | returned wasOffscreen =>
          exact absurd rfl foreign

/-- What a signal does to activity depends on nothing else. -/
theorem ActivityStep.view_unique
    {view otherView : ActivityView}
    (activity : ActivityStep world (.receive signal) view)
    (otherActivity : ActivityStep other (.receive signal) otherView)
    (sameDeadline : world.deadline = other.deadline)
    (same : world.activityView = other.activityView) :
    view = otherView := by
  have sameTouch : world.state.touch = other.state.touch := congrArg ActivityView.touch same
  have sameButton : world.state.button = other.state.button := congrArg ActivityView.button same
  have sameActive : world.state.isActive = other.state.isActive :=
    congrArg ActivityView.isActive same
  cases activity with
  | kept quiet =>
      have silent := quiet signal rfl
      rw [sameTouch, sameButton] at silent
      cases otherActivity with
      | kept otherQuiet =>
          exact same
      | pressed tells held =>
          cases silent.symm.trans tells
      | released tells free =>
          cases silent.symm.trans tells
  | pressed tells held =>
      rw [sameTouch, sameButton] at tells
      cases otherActivity with
      | kept otherQuiet =>
          cases tells.symm.trans (otherQuiet signal rfl)
      | pressed otherTells otherHeld =>
          cases tells.symm.trans otherTells
          rfl
      | released otherTells free =>
          cases tells.symm.trans otherTells
          cases held.symm.trans free
  | released tells free =>
      rw [sameTouch, sameButton] at tells
      cases otherActivity with
      | kept otherQuiet =>
          cases tells.symm.trans (otherQuiet signal rfl)
      | pressed otherTells held =>
          cases tells.symm.trans otherTells
          cases held.symm.trans free
      | released otherTells otherFree =>
          cases tells.symm.trans otherTells
          rw [sameActive, sameDeadline]

/-- What a signal does to the override and its exits depends on nothing else. -/
theorem OverrideStep.view_unique
    {view otherView : OverrideView}
    (covering : OverrideStep world (.receive signal) view)
    (otherCovering : OverrideStep other (.receive signal) otherView)
    (sameDeadline : world.deadline = other.deadline)
    (same : world.overrideView = other.overrideView) :
    view = otherView := by
  have sameEdge : world.state.isOffscreen = other.state.isOffscreen :=
    congrArg OverrideView.isOffscreen same
  cases covering with
  | kept noInput noEdge =>
      cases otherCovering with
      | kept otherNoInput otherNoEdge =>
          exact same
      | gestureStarted input inGesture =>
          cases noInput
      | gestureEnded input notInGesture =>
          cases noInput
      | wentOffscreen wasOnscreen =>
          cases ((noEdge true rfl).trans sameEdge).trans wasOnscreen
      | returned wasOffscreen =>
          cases ((noEdge false rfl).trans sameEdge).trans wasOffscreen
  | gestureStarted input inGesture =>
      cases otherCovering with
      | kept otherNoInput otherNoEdge =>
          cases otherNoInput
      | gestureStarted otherInput otherInGesture =>
          rw [same]
      | gestureEnded otherInput notInGesture =>
          cases inGesture.symm.trans notInGesture
  | gestureEnded input notInGesture =>
      cases otherCovering with
      | kept otherNoInput otherNoEdge =>
          cases otherNoInput
      | gestureStarted otherInput inGesture =>
          cases inGesture.symm.trans notInGesture
      | gestureEnded otherInput otherNotInGesture =>
          rw [same, sameDeadline]
  | wentOffscreen wasOnscreen =>
      cases otherCovering with
      | kept otherNoInput otherNoEdge =>
          cases ((otherNoEdge true rfl).trans sameEdge.symm).trans wasOnscreen
      | wentOffscreen otherWasOnscreen =>
          rw [same]
  | returned wasOffscreen =>
      cases otherCovering with
      | kept otherNoInput otherNoEdge =>
          cases ((otherNoEdge false rfl).trans sameEdge.symm).trans wasOffscreen
      | returned otherWasOffscreen =>
          rw [same, sameDeadline]

/-- What a signal does to its own strand depends on that strand alone. -/
theorem agree_receive
    (operating : Operating world)
    (otherOperating : Operating other)
    (sameDeadline : world.deadline = other.deadline)
    (agree : Agree world other strand) :
    Agree (world.receive signal) (other.receive signal) strand := by
  cases strand with
  | keys =>
      rw [receive_of_operating operating, receive_of_operating otherOperating]
      exact
        (activityStep_receive operating.toWellFormed signal).view_unique
          (activityStep_receive otherOperating.toWellFormed signal) sameDeadline agree
  | app =>
      have appAfter := congrArg Inputs.app (inputs_receive operating signal)
      have otherAfter := congrArg Inputs.app (inputs_receive otherOperating signal)
      refine appAfter.trans (Eq.trans ?_ otherAfter.symm)
      cases signal with
      | topApp app =>
          rfl
      | _ =>
          exact agree
  | cover =>
      rw [receive_of_operating operating, receive_of_operating otherOperating]
      exact
        (overrideStep_receive operating.toWellFormed signal).view_unique
          (overrideStep_receive otherOperating.toWellFormed signal) sameDeadline agree

theorem deliverAll_concat
    (world : World)
    (signals : List Signal)
    (signal : Signal) :
    world.deliverAll .direct (signals ++ [signal]) =
      (world.deliverAll .direct signals).receive signal :=
  List.foldl_append

theorem deliverAll_eq_run
    (world : World)
    (signals : List Signal) :
    world.deliverAll .direct signals = world.run (signals.map .receive) := by
  rw [run, List.foldl_map]
  rfl

theorem operating_deliverAll
    (operating : Operating start)
    (signals : List Signal) :
    Operating (start.deliverAll .direct signals) := by
  rw [deliverAll_eq_run]
  exact operating_run operating _

theorem isRunning_deliverAll
    (operating : Operating start)
    (signals : List Signal) :
    (start.deliverAll .direct signals).executor.isRunning = start.executor.isRunning := by
  induction signals using List.reverseRecOn with
  | nil =>
      rfl
  | append_singleton signals signal inductionHypothesis =>
      rw [deliverAll_concat, isRunning_receive (operating_deliverAll operating signals)]
      exact inductionHypothesis

/-- What neither state, timers nor executor decide about is kept while signals come in. -/
theorem view_deliverAll
    {View : Type}
    (view : World → View)
    (sameView :
      ∀ world state timers executor faults,
        view { world with state, timers, executor, faults } = view world)
    (world : World)
    (signals : List Signal) :
    view (world.deliverAll .direct signals) = view world := by
  refine
    List.foldlRecOn (motive := fun after => view after = view world) signals _ rfl
      fun before sameBefore signal _ => ?_
  refine Eq.trans ?_ sameBefore
  have keepsView (world : World) (timers : Timer.Table Debounce)
      (executor : Executor SwitchRequest) (faults : List HandleError) :
      view { world with timers, executor, faults } = view world :=
    sameView world world.state timers executor faults
  simp only [deliver, receive, react]
  split
  · refine (view_issueAll view keepsView _ _).trans ?_
    exact sameView before _ before.timers before.executor before.faults
  · rfl

/--
If some signals are skipped by a relation and the others keep it, then delivering all
signals ends in relation to delivering the others alone.
-/
theorem related_deliverAll_filter
    (related : World → World → Prop)
    {heard : Signal → Bool}
    (operating : Operating start)
    (atStart : related start start)
    (skips :
      ∀ {world other signal},
        Operating world →
        heard signal = false →
        related world other →
        related (world.receive signal) other)
    (keeps :
      ∀ {world other signal},
        Operating world →
        Operating other →
        world.deadline = other.deadline →
        related world other →
        related (world.receive signal) (other.receive signal))
    (signals : List Signal) :
    related
      (start.deliverAll .direct signals)
      (start.deliverAll .direct (signals.filter heard)) := by
  induction signals using List.reverseRecOn with
  | nil =>
      exact atStart
  | append_singleton signals signal inductionHypothesis =>
      have ready := operating_deliverAll operating signals
      have deadlineIs (signals : List Signal) :
          (start.deliverAll .direct signals).deadline = start.deadline :=
        view_deliverAll World.deadline (fun _ _ _ _ _ => rfl) start signals
      rw [deliverAll_concat, List.filter_append]
      by_cases isHeard : heard signal = true
      · rw [List.filter_cons_of_pos isHeard, List.filter_nil, deliverAll_concat]
        refine keeps ready (operating_deliverAll operating _) ?_ inductionHypothesis
        rw [deadlineIs, deadlineIs]
      · rw [List.filter_cons_of_neg isHeard, List.filter_nil, List.append_nil]
        exact skips ready (eq_false_of_ne_true isHeard) inductionHypothesis

/-- The signals of one strand. -/
def ofStrand
    (strand : Strand)
    (signals : List Signal) :
    List Signal :=
  signals.filter fun signal => signal.strand? = some strand

/-- Each strand ends where it would have ended without the others. -/
theorem agree_deliverAll_ofStrand
    (operating : Operating start)
    (strand : Strand)
    (signals : List Signal) :
    Agree
      (start.deliverAll .direct signals)
      (start.deliverAll .direct (ofStrand strand signals))
      strand := by
  refine
    related_deliverAll_filter (fun world other => Agree world other strand)
      operating (.refl start strand) ?_ ?_ signals
  · intro world other signal operating foreign agree
    exact (agree_receive_of_foreign operating (of_decide_eq_false foreign)).trans agree
  · intro world other signal operating otherOperating sameDeadline agree
    exact agree_receive operating otherOperating sameDeadline agree

/-- Whether a signal requests a switch. -/
def requests
    (world : World)
    (signal : Signal) :
    Bool :=
  decide (.requestSwitch ∈ (world.state.receive signal).2)

theorem requests_eq_false_of_none
    (noStrand : signal.strand? = none) :
    world.requests signal = false := by
  cases signal with
  | cgroup group tasks =>
      rfl
  | _ =>
      cases noStrand

/-- Whether a signal requests a switch depends on its own strand alone. -/
theorem requests_congr
    (own : signal.strand? = some strand)
    (agree : Agree world other strand) :
    world.requests signal = other.requests signal := by
  unfold requests
  cases signal with
  | touch pressed =>
      cases own
      have sameButton : world.state.button = other.state.button :=
        congrArg ActivityView.button agree
      simp only [State.receive, State.onInput, sameButton]
      split <;> rfl
  | button pressed =>
      cases own
      have sameTouch : world.state.touch = other.state.touch :=
        congrArg ActivityView.touch agree
      simp only [State.receive, State.onInput, sameTouch]
      split <;> rfl
  | inputState input =>
      simp only [State.receive, State.onInputState]
      split <;> rfl
  | topApp app =>
      cases own
      have sameApp : world.state.app = other.state.app := agree
      simp only [State.receive, State.onTopApp, sameApp]
      split <;> rfl
  | offscreen isOff =>
      cases own
      have sameEdge : world.state.isOffscreen = other.state.isOffscreen :=
        congrArg OverrideView.isOffscreen agree
      simp only [State.receive, State.onOffscreen, sameEdge]
      split
      · rfl
      · split <;> rfl
  | cgroup group tasks =>
      cases own

/-- Whether a signal raises the force depends on its own strand alone. -/
theorem raisesForce_congr_of_agree
    (own : signal.strand? = some strand)
    (agree : Agree world other strand) :
    world.state.raisesForce signal = other.state.raisesForce signal := by
  rw [raisesForce_eq_forces, raisesForce_eq_forces]
  cases signal with
  | topApp app =>
      cases own
      have sameApp : world.state.app = other.state.app := agree
      simp only [forces, sameApp]
  | offscreen isOff =>
      cases own
      have sameEdge : world.state.isOffscreen = other.state.isOffscreen :=
        congrArg OverrideView.isOffscreen agree
      simp only [forces, sameEdge]
  | touch pressed =>
      rfl
  | button pressed =>
      rfl
  | inputState input =>
      rfl
  | cgroup group tasks =>
      rfl

theorem raisesForce_eq_false_of_none
    (noStrand : signal.strand? = none) :
    world.state.raisesForce signal = false := by
  rw [raisesForce_eq_forces]
  cases signal with
  | cgroup group tasks =>
      rfl
  | _ =>
      cases noStrand

theorem ofStrand_concat
    (strand : Strand)
    (signals : List Signal)
    (signal : Signal) :
    ofStrand strand (signals ++ [signal]) =
      if signal.strand? = some strand then
        ofStrand strand signals ++ [signal]
      else
        ofStrand strand signals := by
  by_cases own : signal.strand? = some strand
  · simp [ofStrand, own]
  · simp [ofStrand, own]

/-- What signals only ever raise is raised if one of the strands would have raised it. -/
theorem flag_deliverAll
    (flag : World → Bool)
    {raises : World → Signal → Bool}
    (flag_receive :
      ∀ {world} signal,
        Operating world →
        flag (world.receive signal) = (raises world signal || flag world))
    (congr :
      ∀ {world other signal strand},
        signal.strand? = some strand →
        Agree world other strand →
        raises world signal = raises other signal)
    (quiet :
      ∀ {world signal},
        signal.strand? = none →
        raises world signal = false)
    (operating : Operating start)
    (signals : List Signal) :
    flag (start.deliverAll .direct signals) =
      (flag (start.deliverAll .direct (ofStrand .keys signals)) ||
        flag (start.deliverAll .direct (ofStrand .app signals)) ||
          flag (start.deliverAll .direct (ofStrand .cover signals))) := by
  induction signals using List.reverseRecOn with
  | nil =>
      simp [ofStrand, deliverAll]
  | append_singleton signals signal inductionHypothesis =>
      have received (signals : List Signal) :
          flag (start.deliverAll .direct (signals ++ [signal])) =
            (raises (start.deliverAll .direct signals) signal ||
              flag (start.deliverAll .direct signals)) := by
        rw [deliverAll_concat]
        exact flag_receive signal (operating_deliverAll operating signals)
      rw [received, inductionHypothesis]
      cases strandIs : signal.strand? with
      | none =>
          simp [ofStrand_concat, strandIs, quiet strandIs]
      | some strand =>
          have sameRaise := congr strandIs (agree_deliverAll_ofStrand operating strand signals)
          cases strand with
          | keys =>
              simp [ofStrand_concat, strandIs, received, sameRaise, Bool.or_assoc]
          | app =>
              simp [ofStrand_concat, strandIs, received, sameRaise, Bool.or_left_comm,
                Bool.or_assoc]
          | cover =>
              simp [ofStrand_concat, strandIs, received, sameRaise, Bool.or_left_comm,
                Bool.or_assoc]

/-- An input that one topic tells depends on the signals of that topic alone. -/
theorem input_deliverAll_filter
    {Told : Type}
    {input : Inputs → Told}
    {topic : Topic}
    (skips :
      ∀ {inputs signal},
        signal.topic ≠ topic →
        input (inputs.hear signal) = input inputs)
    (keeps :
      ∀ {inputs other signal},
        input inputs = input other →
        input (inputs.hear signal) = input (other.hear signal))
    (operating : Operating start)
    (signals : List Signal) :
    input (start.deliverAll .direct signals).state.inputs =
      input
        (start.deliverAll .direct
          (signals.filter fun signal => signal.topic = topic)).state.inputs := by
  refine
    related_deliverAll_filter
      (fun world other => input world.state.inputs = input other.state.inputs)
      operating rfl ?_ ?_ signals
  · intro world other signal operating foreign same
    rw [inputs_receive operating, skips (of_decide_eq_false foreign), same]
  · intro world other signal operating otherOperating _ same
    rw [inputs_receive operating, inputs_receive otherOperating]
    exact keeps same

end World

end Controller

end RefreshRate
