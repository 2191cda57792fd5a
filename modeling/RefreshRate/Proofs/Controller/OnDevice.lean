import RefreshRate.Proofs.Android.Effects
import RefreshRate.Proofs.Controller.Applied
import RefreshRate.Proofs.Controller.Switching

namespace RefreshRate.Controller

/-!
# What the device ends up with

Each value that the gate lets pass is one call of the actuator, made in the step of the
worker in which the gate takes note of the value.  So the gate never runs ahead of the
calls: at every point of a run, also while a switch is queued or running, the latest call
has the value that the gate remembers.  It is also the latest one in the configured mode, in
which all calls of a run are made.
-/

/-- The call of the actuator that an event tells about. -/
def Event.call? : Event → Option Android.Call
  | .switched _ _ =>
      none
  | .applied _ mode value forced =>
      some ⟨mode, Text.Decimal.text value, forced⟩

namespace World

/-- The calls of the actuator that have been made. -/
def calls (world : World) : List Android.Call :=
  world.history.filterMap Event.call?

/-- The latest call has the value that was handed to the display last. -/
theorem latest?_calls (world : World) :
    Android.Call.latest? world.calls = world.shown?.map Text.Decimal.text := by
  have sameValue :
      (fun event => (Event.call? event).map Android.Call.value) =
        fun event => (Event.shown? event).map Text.Decimal.text := by
    funext event
    cases event <;> rfl
  rw [Android.Call.latest?, shown?, calls, ← List.getLast?_map, ← List.getLast?_map,
    List.map_filterMap, List.map_filterMap, sameValue]

/-- All calls of a run are made in the configured mode. -/
theorem mode_of_mem_calls_run
    (config : Config)
    (moves : List Move)
    {call : Android.Call}
    (member : call ∈ ((create config).run moves).calls) :
    call.mode = config.tunables.mode := by
  obtain ⟨event, inHistory, isCall⟩ := List.mem_filterMap.mp member
  have resolved := isResolved_of_mem_history_run config moves inHistory
  cases event with
  | switched value forced =>
      cases isCall
  | applied time mode value forced =>
      cases isCall
      exact resolved.1

/-- Where something was applied, something is shown. -/
theorem exists_shown?_eq_some
    {world : World}
    (applied : ∃ time mode value forced, .applied time mode value forced ∈ world.history) :
    ∃ latest, world.shown? = some latest := by
  obtain ⟨time, mode, value, forced, member⟩ := applied
  have isShown : value ∈ world.history.filterMap Event.shown? :=
    List.mem_filterMap.mpr ⟨_, member, rfl⟩
  exact ⟨_, List.getLast?_eq_some_getLast (List.ne_nil_of_mem isShown)⟩

/-- After a run in which something was applied, the latest call has what the gate remembers. -/
theorem latest_calls_run
    (config : Config)
    (moves : List Move)
    (applied :
      ∃ time mode value forced,
        .applied time mode value forced ∈ ((create config).run moves).history) :
    ∃ latest,
      ((create config).run moves).state.gate.lastApplied = some latest ∧
        Android.Call.latest? ((create config).run moves).calls =
            some (Text.Decimal.text latest) ∧
          Android.Call.latestIn? config.tunables.mode ((create config).run moves).calls =
            some (Text.Decimal.text latest) := by
  obtain ⟨latest, isShown⟩ := exists_shown?_eq_some applied
  have isLatest :
      Android.Call.latest? ((create config).run moves).calls =
        some (Text.Decimal.text latest) := by
    rw [latest?_calls, isShown, Option.map_some]
  have inMode :=
    Android.Call.latestIn?_eq_latest? fun _ member => mode_of_mem_calls_run config moves member
  exact
    ⟨latest, (upToDate_run config moves).shown.symm.trans isShown, isLatest,
      inMode.trans isLatest⟩

/--
The commands that are issued for some calls do not depend on how the tools end them.  Where
all of them take effect, the device holds what was applied last: the rate in all settings,
the index, and a lowered flexibility if an index was ever forced; and so does a notify file.
After every run in which something was applied, this is what the gate remembers, in the
configured mode.
-/
theorem device_ends_at_lastApplied
    (actuator : Android.Actuator)
    (outcome : Nat → Android.Command → Android.Outcome)
    (device : Android.Device) :
    (∀ calls : List Android.Call,
        let (applications, last) := actuator.applyAll outcome calls
        applications.flatMap Android.Application.issued = calls.flatMap Android.Call.commands ∧
          ((∀ application ∈ applications, application.IsEffective) →
            device.HoldsLatest calls
                (device.obeyAll (applications.flatMap Android.Application.effects)) ∧
              ∀ content?,
                actuator.notifyFile = .writable content? →
                  last.notifyFile = .writable ((Android.Call.latest? calls).or content?))) ∧
      ∀ config moves,
        let world := (create config).run moves
        let (applications, last) := actuator.applyAll outcome world.calls
        (∀ application ∈ applications, application.IsEffective) →
          (∃ time mode value forced, .applied time mode value forced ∈ world.history) →
            ∃ latest,
              world.state.gate.lastApplied = some latest ∧
                (device.obeyAll (applications.flatMap Android.Application.effects)).Has
                    (Text.Decimal.text latest) config.tunables.mode ∧
                  ∀ content?,
                    actuator.notifyFile = .writable content? →
                      last.notifyFile = .writable (some (Text.Decimal.text latest)) := by
  refine ⟨fun calls => ⟨actuator.issued_applyAll outcome calls, fun allEffective => ⟨?_, ?_⟩⟩, ?_⟩
  · exact actuator.holdsLatest_obeyAll_effects outcome calls device allEffective
  · intro content? writable
    exact actuator.notifyFile_applyAll outcome calls writable
  · intro config moves world allEffective applied
    obtain ⟨latest, remembered, isLatest, inMode⟩ := latest_calls_run config moves applied
    have holds :=
      actuator.holdsLatest_obeyAll_effects outcome world.calls device allEffective
    refine ⟨latest, remembered, holds.has inMode, ?_⟩
    intro content? writable
    have written := actuator.notifyFile_applyAll outcome world.calls writable
    rw [isLatest, Option.some_or] at written
    exact written

/-- Indices for one package. -/
def indexedConfig : Config where
  rules := ⟨⟨0, 1⟩, ⟨0, 0⟩, PackageRules.empty.insert "com.game" ⟨1, 2⟩⟩
  tunables := { mode := .indexed }

/-- A new app comes to the top, and a press comes once its index was set. -/
def appThenPress : List Move :=
  [.receive (.topApp "com.game"), .work, .work, .work, .receive (.touch true),
    .work, .work, .work, .work, .work]

/-- Calls in both modes, of which the first forces an index. -/
def mixedCalls : List Android.Call :=
  [⟨.indexed, "3", true⟩, ⟨.literal, "120", false⟩, ⟨.indexed, "5", false⟩]

theorem device_ends_at_index_of_press :
    let actuator : Android.Actuator := { notifyFile := .writable none }
    let (mixed, afterMixed) := actuator.applyAll (fun _ _ => .succeeded) mixedCalls
    let mixedDevice :=
      Android.Device.obeyAll {} (mixed.flatMap Android.Application.effects)
    let world := (create indexedConfig).run appThenPress
    let (pressed, afterPress) := actuator.applyAll (fun _ _ => .succeeded) world.calls
    ((∀ application ∈ mixed, application.IsEffective) ∧
        mixedDevice.setting? ⟨"system", "peak_refresh_rate"⟩ = some "120" ∧
          mixedDevice.setting? ⟨"system", "min_refresh_rate"⟩ = some "120" ∧
          mixedDevice.setting? ⟨"system", "miui_refresh_rate"⟩ = some "120" ∧
          mixedDevice.setting? ⟨"secure", "miui_refresh_rate"⟩ = some "120" ∧
          mixedDevice.activeMode? = some "5" ∧ mixedDevice.flexibility? = some "0" ∧
          afterMixed.notifyFile = .writable (some "5")) ∧
      (∀ application ∈ pressed, application.IsEffective) ∧
        .applied 0 .indexed 2 false ∈ world.history ∧
          Android.Device.Has
              (Android.Device.obeyAll {} (pressed.flatMap Android.Application.effects))
              "2" .indexed ∧
            afterPress.notifyFile = .writable (some "2") := by
  let actuator : Android.Actuator := { notifyFile := .writable none }
  let world := (create indexedConfig).run appThenPress
  have mixedEffective :
      ∀ application ∈ (actuator.applyAll (fun _ _ => .succeeded) mixedCalls).1,
        application.IsEffective := by
    decide
  have pressedEffective :
      ∀ application ∈ (actuator.applyAll (fun _ _ => .succeeded) world.calls).1,
        application.IsEffective := by
    decide
  have applied : .applied 0 .indexed 2 false ∈ world.history := by
    decide
  obtain ⟨ofCalls, ofRuns⟩ := device_ends_at_lastApplied actuator (fun _ _ => .succeeded) {}
  obtain ⟨⟨⟨peak, least, ofSystem, ofSecure⟩, index, flexibility⟩, written⟩ :=
    (ofCalls mixedCalls).2 mixedEffective
  obtain ⟨latest, remembered, has, writtenLatest⟩ :=
    ofRuns indexedConfig appThenPress pressedEffective ⟨0, .indexed, 2, false, applied⟩
  have isTwo : latest = 2 := by
    have remembersTwo : world.state.gate.lastApplied = some 2 := by
      decide
    exact Option.some.inj (remembered.symm.trans remembersTwo)
  subst isTwo
  exact
    ⟨⟨mixedEffective, peak, least, ofSystem, ofSecure, index, flexibility, written none rfl⟩,
      pressedEffective, applied, has, writtenLatest none rfl⟩

end World

end RefreshRate.Controller
