import Mathlib.Data.List.Basic
import Mathlib.Data.List.Induction
import RefreshRate.Android.Actuator
import RefreshRate.Android.Device

namespace RefreshRate.Android

/-!
# What calls of the actuator leave behind

The commands that are issued for some calls do not depend on how the tools end them.  Where
all of them take effect, only the latest calls can still be seen: the settings hold the rate
that was applied last, the index that was applied last is active, and the notify file has
what was applied last in either mode.  A forced index goes through another one and makes the
compositor flexible on the way, but both are undone before the call ends.
-/

/-- One value that is applied. -/
structure Call where
  mode : SwitchMode
  value : String
  forced : Bool
  deriving Repr, DecidableEq

namespace Call

/-- The commands that apply the value. -/
def commands (call : Call) : List Command :=
  Command.applying call.mode call.value call.forced

/-- Whether an index is forced. -/
def forcesIndex (call : Call) : Bool :=
  call.mode == .indexed && call.forced

/-- The value of the latest call. -/
def latest? (calls : List Call) : Option String :=
  calls.getLast?.map Call.value

/-- The value of the latest call in a mode. -/
def latestIn?
    (mode : SwitchMode)
    (calls : List Call) :
    Option String :=
  latest? (calls.filter fun call => call.mode == mode)

theorem latest?_concat
    (calls : List Call)
    (call : Call) :
    latest? (calls ++ [call]) = some call.value := by
  rw [latest?, List.getLast?_concat, Option.map_some]

theorem latest?_cons
    (call : Call)
    (later : List Call) :
    latest? (call :: later) = (latest? later).or (some call.value) := by
  rw [latest?, List.getLast?_cons, latest?]
  cases later.getLast? with
  | none =>
      rfl
  | some last =>
      rfl

theorem latestIn?_concat
    (mode : SwitchMode)
    (calls : List Call)
    (call : Call) :
    latestIn? mode (calls ++ [call]) =
      if call.mode == mode then some call.value else latestIn? mode calls := by
  rw [latestIn?, List.filter_append]
  cases sameMode : call.mode == mode with
  | false =>
      simp [latestIn?, sameMode]
  | true =>
      simp [sameMode, latest?_concat]

theorem latestIn?_eq_latest?
    {mode : SwitchMode}
    {calls : List Call}
    (sameMode : ∀ call ∈ calls, call.mode = mode) :
    latestIn? mode calls = latest? calls := by
  have allKept : (calls.filter fun call => call.mode == mode) = calls :=
    List.filter_eq_self.mpr fun call member => beq_iff_eq.mpr (sameMode call member)
  rw [latestIn?, allKept]

theorem any_forcesIndex_concat
    (calls : List Call)
    (call : Call) :
    (calls ++ [call]).any forcesIndex = (calls.any forcesIndex || call.forcesIndex) := by
  rw [List.any_append, List.any_cons, List.any_nil, Bool.or_false]

end Call

namespace Command

/-- The command that a call of a tool is, by its words. -/
def ofWords? : List String → Option Command
  | ["cmd", "settings", "put", group, key, value] =>
      some (.store ⟨group, key⟩ value)
  | ["service", "call", "SurfaceFlinger", "1035", "i32", index] =>
      some (.setActiveMode index)
  | ["service", "call", "SurfaceFlinger", "1036", "i32", flag] =>
      some (.setFlexibility flag)
  | _ =>
      none

/-- The words of a command say what it does. -/
theorem ofWords?_words (command : Command) : ofWords? command.words = some command := by
  cases command <;> rfl

end Command

namespace Device

/-- The device after a tool was called with some words. -/
def obey
    (device : Device)
    (words : List String) :
    Device :=
  (Command.ofWords? words).elim device device.execute

def obeyAll
    (device : Device)
    (calls : List (List String)) :
    Device :=
  calls.foldl obey device

theorem obeyAll_words
    (device : Device)
    (commands : List Command) :
    device.obeyAll (commands.map Command.words) = device.executeAll commands := by
  rw [obeyAll, executeAll, List.foldl_map]
  congr 1
  funext device command
  rw [obey, Command.ofWords?_words]
  rfl

theorem executeAll_append
    (device : Device)
    (commands later : List Command) :
    device.executeAll (commands ++ later) = (device.executeAll commands).executeAll later :=
  List.foldl_append

/-- All four settings of refresh rates have what they should. -/
structure AllSettings (shows : Setting → Prop) : Prop where
  peak : shows ⟨"system", "peak_refresh_rate"⟩
  least : shows ⟨"system", "min_refresh_rate"⟩
  ofSystem : shows ⟨"system", "miui_refresh_rate"⟩
  ofSecure : shows ⟨"secure", "miui_refresh_rate"⟩

/-- The settings in which a rate is stored are these four. -/
theorem allSettings_iff
    {shows : Setting → Prop} :
    AllSettings shows ↔ ∀ setting ∈ Setting.all, shows setting := by
  simp only [Setting.all, List.forall_mem_cons]
  constructor
  · rintro ⟨peak, least, ofSystem, ofSecure⟩
    exact ⟨peak, least, ofSystem, ofSecure, List.forall_mem_nil _⟩
  · rintro ⟨peak, least, ofSystem, ofSecure, -⟩
    exact ⟨peak, least, ofSystem, ofSecure⟩

/-- A device holds the latest values of some calls, and what it held before where there is none. -/
structure HoldsLatest (before : Device) (calls : List Call) (after : Device) : Prop where
  settings :
    AllSettings fun setting =>
      after.setting? setting = (Call.latestIn? .literal calls).or (before.setting? setting)
  activeMode? :
    after.activeMode? = (Call.latestIn? .indexed calls).or before.activeMode?
  flexibility? :
    after.flexibility? =
      if calls.any Call.forcesIndex then some "0" else before.flexibility?

/-- A device has a value in a mode. -/
def Has
    (device : Device)
    (value : String) :
    SwitchMode → Prop
  | .literal =>
      AllSettings fun setting => device.setting? setting = some value
  | .indexed =>
      device.activeMode? = some value

theorem HoldsLatest.has
    {before after : Device}
    {calls : List Call}
    (holds : HoldsLatest before calls after)
    {mode : SwitchMode}
    {value : String}
    (latest : Call.latestIn? mode calls = some value) :
    after.Has value mode := by
  cases mode with
  | literal =>
      refine allSettings_iff.mpr fun setting member => ?_
      rw [allSettings_iff.mp holds.settings setting member, latest, Option.some_or]
  | indexed =>
      rw [Has, holds.activeMode?, latest, Option.some_or]

/-- A rate is stored in all settings. -/
theorem executeAll_literal
    (device : Device)
    (value : String) :
    device.executeAll (Command.literal value) =
      { device with
        settings :=
          (Setting.all.reverse.map fun setting => (setting, value)) ++ device.settings } :=
  rfl

/-- A forced index goes through other values, but ends up active like any other. -/
theorem executeAll_indexed
    (device : Device)
    (value : String)
    (forced : Bool) :
    device.executeAll (Command.indexed value forced) =
      { device with
        activeMode? := some value
        flexibility? := if forced then some "0" else device.flexibility? } := by
  cases forced <;> rfl

theorem setting?_executeAll_literal
    (device : Device)
    (value : String)
    {setting : Setting}
    (member : setting ∈ Setting.all) :
    (device.executeAll (Command.literal value)).setting? setting = some value := by
  rw [executeAll_literal]
  simp only [Setting.all, List.mem_cons, List.not_mem_nil, or_false] at member
  rcases member with rfl | rfl | rfl | rfl <;> rfl

/-- What a device holds after one more call. -/
theorem HoldsLatest.concat
    {before after : Device}
    {calls : List Call}
    (holds : HoldsLatest before calls after)
    (call : Call) :
    HoldsLatest before (calls ++ [call]) (after.executeAll call.commands) := by
  obtain ⟨mode, value, forced⟩ := call
  cases mode with
  | literal =>
      have stored := executeAll_literal after value
      refine ⟨?_, ?_, ?_⟩
      · refine allSettings_iff.mpr fun setting member => ?_
        rw [Call.latestIn?_concat]
        exact setting?_executeAll_literal after value member
      · rw [Call.latestIn?_concat]
        exact (congrArg Device.activeMode? stored).trans holds.activeMode?
      · have notForced : Call.forcesIndex ⟨.literal, value, forced⟩ = false := rfl
        rw [Call.any_forcesIndex_concat, notForced, Bool.or_false]
        exact (congrArg Device.flexibility? stored).trans holds.flexibility?
  | indexed =>
      have executed := executeAll_indexed after value forced
      refine ⟨?_, ?_, ?_⟩
      · refine allSettings_iff.mpr fun setting member => ?_
        rw [Call.latestIn?_concat]
        exact
          (congrArg (·.setting? setting) executed).trans
            (allSettings_iff.mp holds.settings setting member)
      · rw [Call.latestIn?_concat]
        exact congrArg Device.activeMode? executed
      · have sameForce : Call.forcesIndex ⟨.indexed, value, forced⟩ = forced := rfl
        rw [Call.any_forcesIndex_concat, sameForce]
        refine (congrArg Device.flexibility? executed).trans ?_
        cases forced with
        | false =>
            rw [Bool.or_false]
            exact holds.flexibility?
        | true =>
            rw [Bool.or_true]
            rfl

theorem holdsLatest_executeAll
    (device : Device)
    (calls : List Call) :
    HoldsLatest device calls (device.executeAll (calls.flatMap Call.commands)) := by
  induction calls using List.reverseRecOn with
  | nil =>
      exact ⟨⟨rfl, rfl, rfl, rfl⟩, rfl, rfl⟩
  | append_singleton calls call inductionHypothesis =>
      rw [List.flatMap_append, List.flatMap_singleton, executeAll_append]
      exact inductionHypothesis.concat call

end Device

namespace Application

/-- The commands that were issued, however they ended. -/
def issued (application : Application) : List Command :=
  application.attempts.map Attempt.command

/-- The words of the commands that took effect. -/
def effects (application : Application) : List (List String) :=
  (application.attempts.filter fun attempt => attempt.outcome == .succeeded).map
    fun attempt => attempt.command.words

/-- The notify file was written, and all commands took effect. -/
structure IsEffective (application : Application) : Prop where
  notified : application.notifyFailed = false
  succeeded : ∀ attempt ∈ application.attempts, attempt.outcome = .succeeded

instance (application : Application) : Decidable application.IsEffective :=
  decidable_of_iff
    (application.notifyFailed = false ∧
      ∀ attempt ∈ application.attempts, attempt.outcome = .succeeded)
    ⟨fun both => ⟨both.1, both.2⟩, fun isEffective => ⟨isEffective.1, isEffective.2⟩⟩

theorem IsEffective.effects_eq
    {application : Application}
    (isEffective : application.IsEffective) :
    application.effects = application.issued.map Command.words := by
  have allSucceeded :
      (application.attempts.filter fun attempt => attempt.outcome == .succeeded) =
        application.attempts := by
    refine List.filter_eq_self.mpr fun attempt member => ?_
    rw [isEffective.succeeded attempt member]
    rfl
  rw [effects, allSucceeded, issued, List.map_map]
  rfl

end Application

theorem map_command_issueAll
    (outcome : Nat → Command → Outcome)
    (number : Nat)
    (commands : List Command) :
    (issueAll outcome number commands).map Attempt.command = commands := by
  induction commands generalizing number with
  | nil =>
      rfl
  | cons command rest inductionHypothesis =>
      exact congrArg (command :: ·) (inductionHypothesis (number + 1))

namespace Actuator

variable
  (actuator : Actuator)
  (outcome : Nat → Command → Outcome)
  (calls : List Call)

/-- Apply values one after the other. -/
def applyAll
    (actuator : Actuator)
    (outcome : Nat → Command → Outcome) :
    List Call → List Application × Actuator
  | [] =>
      ([], actuator)
  | call :: rest =>
      let (application, next) := actuator.apply outcome call.mode call.value call.forced
      let (applications, last) := next.applyAll outcome rest
      (application :: applications, last)

/-- The commands that are issued are those of the calls, whatever comes of them. -/
theorem issued_applyAll :
    (actuator.applyAll outcome calls).1.flatMap Application.issued =
      calls.flatMap Call.commands := by
  induction calls generalizing actuator with
  | nil =>
      rfl
  | cons call rest inductionHypothesis =>
      simp only [applyAll, List.flatMap_cons, inductionHypothesis]
      congr 1
      exact map_command_issueAll outcome actuator.issued call.commands

/-- Where all calls take effect, the device holds the latest values. -/
theorem holdsLatest_obeyAll_effects
    (device : Device)
    (allEffective :
      ∀ application ∈ (actuator.applyAll outcome calls).1, application.IsEffective) :
    device.HoldsLatest calls
      (device.obeyAll ((actuator.applyAll outcome calls).1.flatMap Application.effects)) := by
  have allIssued :
      (actuator.applyAll outcome calls).1.flatMap Application.effects =
        (calls.flatMap Call.commands).map Command.words := by
    rw [← issued_applyAll actuator outcome calls, List.map_flatMap]
    exact List.flatMap_congr fun application member => (allEffective application member).effects_eq
  rw [allIssued, Device.obeyAll_words]
  exact device.holdsLatest_executeAll calls

/-- A notify file that can be written has what was applied last. -/
theorem notifyFile_applyAll
    {content? : Option String}
    (writable : actuator.notifyFile = .writable content?) :
    (actuator.applyAll outcome calls).2.notifyFile =
      .writable ((Call.latest? calls).or content?) := by
  induction calls generalizing actuator content? with
  | nil =>
      exact writable
  | cons call rest inductionHypothesis =>
      have written :
          (actuator.notifyFile.write call.value) = .writable (some call.value) := by
        rw [writable]
        rfl
      rw [Call.latest?_cons, Option.or_assoc]
      exact inductionHypothesis _ written

end Actuator

end RefreshRate.Android
