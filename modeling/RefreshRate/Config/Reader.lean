import RefreshRate.Config.Line

namespace RefreshRate

/-!
# Reading a configuration

The lines of a text are read in order into a draft, which becomes a
configuration when its rules pass the checks of the rule table.  The last rule
for each special key counts and the first one for each package; tunables count
wherever they stand.
-/

/-- What the lines read so far have said. -/
structure ConfigDraft where
  tunables : Tunables := {}
  universal? : Option Rule := none
  offscreen? : Option Rule := none
  packages : PackageRules := ∅
  deriving DecidableEq

namespace ConfigDraft

/-- Take over what a line says. -/
def absorb (draft : ConfigDraft) : ConfigLine → ConfigDraft
  | .blank =>
      draft
  | .tunable name value =>
      { draft with tunables := (draft.tunables.set? name value).getD draft.tunables }
  | .rule key rule =>
      if key = Rule.universalKey then
        { draft with universal? := some rule }
      else if key = Rule.offscreenKey then
        { draft with offscreen? := some rule }
      else if draft.packages.contains key then
        draft
      else
        { draft with packages := draft.packages.insert key rule }

/-- What there is to notice about a line that follows the lines of the draft. -/
def notice?
    (draft : ConfigDraft)
    (number : Nat) :
    ConfigLine → Option ConfigNotice
  | .blank =>
      none
  | .tunable name value =>
      if (draft.tunables.set? name value).isSome then
        some (.tunableSet name value)
      else
        some (.unknownTunable number name)
  | .rule key rule =>
      if key = Rule.universalKey then
        if draft.universal?.isSome then some (.ruleRedefined number key) else none
      else if key = Rule.offscreenKey then
        if draft.offscreen?.isSome then some (.ruleRedefined number key) else none
      else if draft.packages.contains key then
        some (.duplicateRule number key)
      else
        some (.ruleLoaded key rule)

/-- Read lines into a draft; the first of them has the given number. -/
def readLines
    (draft : ConfigDraft)
    (number : Nat) :
    List (List Char) → ConfigDraft × List ConfigNotice
  | [] =>
      (draft, [])
  | line :: rest =>
      match ConfigLine.ofChars line with
      | .ok content =>
          let (final, notices) := (draft.absorb content).readLines (number + 1) rest
          (final, (draft.notice? number content).toList ++ notices)
      | .error reason =>
          let (final, notices) := draft.readLines (number + 1) rest
          (final,
            .lineSkipped number (String.ofList (Text.trim line)) reason :: notices)

/-- The configuration of a complete draft. -/
def finish (draft : ConfigDraft) : Except ConfigError Config :=
  (RuleTable.build draft.universal? draft.offscreen? draft.packages draft.tunables.mode).map
    fun rules => ⟨rules, draft.tunables⟩

end ConfigDraft

/-- The outcome of reading a configuration and what was noticed on the way. -/
structure ConfigReading where
  outcome : Except ConfigError Config
  notices : List ConfigNotice

namespace Config

/-- Read the text of a configuration. -/
def ofText (text : String) : ConfigReading :=
  let (draft, notices) := ({} : ConfigDraft).readLines 1 (Text.lines text.toList)
  match draft.finish with
  | .ok config =>
      ⟨.ok config, notices ++ [.modeChosen config.tunables.mode]⟩
  | .error reason =>
      ⟨.error reason, notices⟩

end Config

end RefreshRate
