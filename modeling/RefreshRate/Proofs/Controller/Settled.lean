import RefreshRate.Proofs.Controller.Beat

namespace RefreshRate.Controller

/-!
# Settled operation is a run

As time passes the executor of a controller settles after each alarm.  What comes
about this way comes about in a run without signals, so what holds in every run
holds of it.  A signal that is published reaches the controller just as one that is
handed over.
-/

namespace World

/-- The second world comes from the first by a run that brings the given signals. -/
def Leads
    (world : World)
    (signals : List Signal)
    (next : World) :
    Prop :=
  ∃ moves,
    moves.filterMap Move.signal? = signals ∧
      next = world.run moves

namespace Leads

theorem trans
    {first second third : World}
    {signals later : List Signal}
    (firstLeads : Leads first signals second)
    (secondLeads : Leads second later third) :
    Leads first (signals ++ later) third := by
  obtain ⟨moves, sameSignals, rfl⟩ := firstLeads
  obtain ⟨laterMoves, laterSignals, rfl⟩ := secondLeads
  refine ⟨moves ++ laterMoves, ?_, ?_⟩
  · rw [List.filterMap_append, sameSignals, laterSignals]
  · rw [run_append]

end Leads

/-- What comes about as time passes comes about in a run without signals. -/
theorem Passes.leads
    {world next : World}
    {milliseconds : Nat}
    (passes : Passes world milliseconds next) :
    Leads world [] next := by
  obtain ⟨beats, silent, -, rfl⟩ := passes
  refine ⟨beats.flatMap Beat.moves, ?_, play_eq_run world beats⟩
  refine List.filterMap_eq_nil_iff.mpr fun move member => ?_
  obtain ⟨beat, inBeats, inMoves⟩ := List.mem_flatMap.mp member
  exact Beat.signal?_eq_none_of_isSilent (silent beat inBeats) inMoves

theorem leads_settle (world : World) : Leads world [] world.settle :=
  (passes_settle world).leads

/-- Letting time pass is a run without signals. -/
theorem leads_advance
    (world : World)
    (milliseconds : Nat) :
    Leads world [] (world.advance milliseconds) :=
  (passes_advance world milliseconds).leads

/-- The bus on which the controller, and nobody else, is registered. -/
def ownBus : Bus Unit :=
  ({} : Bus Unit).subscribeAll topics ()

theorem subscribers_ownBus (signal : Signal) :
    ownBus.subscribers signal.topic =
      match signal with
      | .cgroup _ _ => []
      | _ => [()] := by
  cases signal <;> simp [ownBus, Bus.subscribeAll, topics, Signal.topic, Bus.subscribers,
    Bus.subscribe]

/-- Signals of control groups are ignored. -/
theorem receive_cgroup
    (world : World)
    (group : String)
    (tasks : List Int) :
    world.receive (.cgroup group tasks) = world := by
  unfold receive
  split <;> rfl

/-- What is delivered on a route reaches the controller. -/
def IsOpen
    (world : World) :
    Route → Prop
  | .direct => True
  | .bus => world.bus = ownBus

/-- A signal that is published reaches the controller just as one that is handed over. -/
theorem deliver_eq_receive
    {world : World}
    {route : Route}
    (isOpen : world.IsOpen route)
    (signal : Signal) :
    world.deliver signal route = world.receive signal := by
  cases route with
  | direct =>
      rfl
  | bus =>
      have onBus : world.bus = ownBus := isOpen
      simp only [deliver, publish, Bus.publish, onBus, subscribers_ownBus]
      cases signal with
      | cgroup group tasks =>
          exact (receive_cgroup world group tasks).symm
      | touch pressed => rfl
      | button pressed => rfl
      | inputState input => rfl
      | topApp app => rfl
      | offscreen isOff => rfl

end World

end RefreshRate.Controller
