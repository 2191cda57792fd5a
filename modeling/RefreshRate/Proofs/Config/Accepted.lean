import RefreshRate.Config.Reader
import RefreshRate.Proofs.Rule.Validation

namespace RefreshRate

/-!
# Accepted configurations

Every rule of a configuration that is accepted was written on a line of its text
and has passed the check of its mode, wherever the line that chooses the mode
stands.  Both slack times are at least the least one.
-/

namespace SwitchMode

/-- The values of an accepted rule fit the mode, except for the pair that asks for no change. -/
theorem fits_pick_of_accepts
    {mode : SwitchMode}
    {rule : Rule}
    (accepted : mode.accepts rule = true)
    (isActive : Bool) :
    rule = Rule.noOverride ∨ mode.fits (rule.pick isActive) = true := by
  rcases accepts_iff.mp accepted with noOverride | ⟨idleFits, activeFits⟩
  · exact .inl noOverride
  · cases isActive with
    | false =>
        exact .inr idleFits
    | true =>
        exact .inr activeFits

end SwitchMode

namespace RuleTable

/-- Whatever is looked up is one of the entries of the table. -/
theorem exists_mem_entries_lookup
    (table : RuleTable)
    (key : String) :
    ∃ name, (name, table.lookup key) ∈ table.entries := by
  unfold lookup
  by_cases isOffscreen : key = Rule.offscreenKey
  · rw [if_pos isOffscreen]
    exact ⟨Rule.offscreenKey, List.mem_cons_self⟩
  · rw [if_neg isOffscreen]
    cases found : table.packages.get? key with
    | none =>
        exact ⟨Rule.universalKey, List.mem_cons_of_mem _ List.mem_cons_self⟩
    | some rule =>
        have member : (key, rule) ∈ table.packages.entries :=
          PackageRules.get?_eq_some_iff.mp found
        exact ⟨key, List.mem_cons_of_mem _ (List.mem_cons_of_mem _ member)⟩

/-- A table is built from its own parts, and the mode has accepted each of its entries. -/
theorem eq_some_and_accepts_of_build_eq_ok
    {universal? offscreen? : Option Rule}
    {packages : PackageRules}
    {mode : SwitchMode}
    {table : RuleTable}
    (built : build universal? offscreen? packages mode = .ok table) :
    universal? = some table.universal ∧
      offscreen? = some table.offscreen ∧
        packages = table.packages ∧
          ∀ entry ∈ table.entries, mode.accepts entry.2 = true := by
  obtain ⟨universalIs, offscreenIs, packagesAre, allUsable⟩ := build_eq_ok_iff.mp built
  refine ⟨universalIs, offscreenIs, packagesAre, fun entry member => ?_⟩
  have notRefused := List.find?_eq_none.mp (firstRefused?_eq_none_iff.mpr allUsable) entry member
  simpa using notRefused

end RuleTable

namespace ConfigDraft

/-- What every line that can be read keeps is kept by reading all lines. -/
theorem readLines_invariant
    {motive : ConfigDraft → Prop}
    {lines : List (List Char)}
    (kept :
      ∀ draft, ∀ line ∈ lines, ∀ content,
        ConfigLine.ofChars line = .ok content →
          motive draft →
            motive (draft.absorb content))
    {draft : ConfigDraft}
    (atStart : motive draft)
    (number : Nat) :
    motive (draft.readLines number lines).1 := by
  induction lines generalizing draft number with
  | nil =>
      exact atStart
  | cons line rest inductionHypothesis =>
      have keptByRest :
          ∀ draft, ∀ later ∈ rest, ∀ content,
            ConfigLine.ofChars later = .ok content →
              motive draft →
                motive (draft.absorb content) :=
        fun draft later member => kept draft later (List.mem_cons_of_mem line member)
      simp only [readLines]
      cases read : ConfigLine.ofChars line with
      | error reason =>
          exact inductionHypothesis keptByRest atStart (number + 1)
      | ok content =>
          have absorbed := kept draft line List.mem_cons_self content read atStart
          exact inductionHypothesis keptByRest absorbed (number + 1)

theorem tunables_absorb_rule
    (draft : ConfigDraft)
    (key : String)
    (rule : Rule) :
    (draft.absorb (.rule key rule)).tunables = draft.tunables := by
  simp only [absorb]
  split
  · rfl
  · split
    · rfl
    · split
      · rfl
      · rfl

/-- The rules that a draft holds, with their keys. -/
def Holds
    (draft : ConfigDraft)
    (key : String)
    (rule : Rule) :
    Prop :=
  key = Rule.universalKey ∧ draft.universal? = some rule ∨
    key = Rule.offscreenKey ∧ draft.offscreen? = some rule ∨
      draft.packages.get? key = some rule

/-- A rule that a draft holds after a line was held before or stands on the line. -/
theorem holds_absorb
    {draft : ConfigDraft}
    {content : ConfigLine}
    {key : String}
    {rule : Rule}
    (holds : (draft.absorb content).Holds key rule) :
    draft.Holds key rule ∨ content = .rule key rule := by
  cases content with
  | blank =>
      exact .inl holds
  | tunable name value =>
      exact .inl holds
  | rule newKey newRule =>
      simp only [absorb] at holds
      split at holds
      · rename_i isUniversal
        rcases holds with ⟨rfl, found⟩ | others
        · cases found
          exact .inr (congrArg (ConfigLine.rule · rule) isUniversal)
        · exact .inl (.inr others)
      · split at holds
        · rename_i isOffscreen
          rcases holds with universal | ⟨rfl, found⟩ | package
          · exact .inl (.inl universal)
          · cases found
            exact .inr (congrArg (ConfigLine.rule · rule) isOffscreen)
          · exact .inl (.inr (.inr package))
        · split at holds
          · exact .inl holds
          · rcases holds with universal | offscreen | found
            · exact .inl (.inl universal)
            · exact .inl (.inr (.inl offscreen))
            · rw [PackageRules.get?_insert] at found
              split at found
              · rename_i same
                cases found
                exact .inr (congrArg (ConfigLine.rule · rule) same)
              · exact .inl (.inr (.inr found))

end ConfigDraft

namespace Tunables

/-- Both slack times are at least the least one. -/
structure Bounded (tunables : Tunables) : Prop where
  touchSlack : minSlack ≤ tunables.touchSlack
  gestureSlack : minSlack ≤ tunables.gestureSlack

theorem minSlack_le_slack (value : Int) : minSlack ≤ slack value :=
  Nat.le_max_left minSlack value.toNat

/-- A tunable that is set leaves the slack times bounded. -/
theorem Bounded.set?
    {tunables next : Tunables}
    {name : String}
    {value : Int}
    (bounded : Bounded tunables)
    (isSet : tunables.set? name value = some next) :
    Bounded next := by
  unfold Tunables.set? at isSet
  split at isSet
  · cases isSet
    exact ⟨bounded.touchSlack, bounded.gestureSlack⟩
  · split at isSet
    · cases isSet
      exact ⟨minSlack_le_slack value, bounded.gestureSlack⟩
    · split at isSet
      · cases isSet
        exact ⟨bounded.touchSlack, minSlack_le_slack value⟩
      · cases isSet

end Tunables

namespace Config

/-- A line of a text gives a rule for a key. -/
def Writes
    (text key : String)
    (rule : Rule) :
    Prop :=
  ∃ line ∈ Text.lines text.toList,
    ConfigLine.ofChars line = .ok (.rule key rule)

/-- What is read from the lines of a text. -/
def draftOfText (text : String) : ConfigDraft :=
  (({} : ConfigDraft).readLines 1 (Text.lines text.toList)).1

theorem outcome_ofText (text : String) : (ofText text).outcome = (draftOfText text).finish := by
  unfold ofText draftOfText
  rcases ({} : ConfigDraft).readLines 1 (Text.lines text.toList) with ⟨draft, notices⟩
  simp only
  cases draft.finish with
  | ok config =>
      rfl
  | error reason =>
      rfl

/-- Every rule of a draft was written on a line of the text. -/
theorem writes_of_holds
    {text key : String}
    {rule : Rule}
    (holds : (draftOfText text).Holds key rule) :
    Writes text key rule := by
  have written : ∀ key rule, (draftOfText text).Holds key rule → Writes text key rule := by
    refine
      ConfigDraft.readLines_invariant
        (motive := fun draft => ∀ key rule, draft.Holds key rule → Writes text key rule) ?_ ?_ 1
    · intro draft line member content read before key rule holdsAfter
      rcases ConfigDraft.holds_absorb holdsAfter with held | rfl
      · exact before key rule held
      · exact ⟨line, member, read⟩
    · rintro key rule (⟨-, found⟩ | ⟨-, found⟩ | found)
      all_goals cases found
  exact written key rule holds

/-- Whatever is set, the slack times of a draft are bounded. -/
theorem bounded_draftOfText (text : String) : (draftOfText text).tunables.Bounded := by
  refine
    ConfigDraft.readLines_invariant
      (motive := fun draft => draft.tunables.Bounded) ?_ ⟨by decide, by decide⟩ 1
  intro draft line _ content _ bounded
  cases content with
  | blank =>
      exact bounded
  | tunable name value =>
      simp only [ConfigDraft.absorb]
      cases isSet : draft.tunables.set? name value with
      | none =>
          exact bounded
      | some next =>
          exact bounded.set? isSet
  | rule key rule =>
      rw [ConfigDraft.tunables_absorb_rule]
      exact bounded

section Accepted

variable
  {text : String}
  {config : Config}
  (accepted : (ofText text).outcome = .ok config)

include accepted

/-- An accepted configuration is built from the draft of its text. -/
theorem build_of_accepted :
    RuleTable.build (draftOfText text).universal? (draftOfText text).offscreen?
          (draftOfText text).packages config.tunables.mode =
        .ok config.rules ∧
      config.tunables = (draftOfText text).tunables := by
  rw [outcome_ofText, ConfigDraft.finish] at accepted
  cases built :
      RuleTable.build (draftOfText text).universal? (draftOfText text).offscreen?
        (draftOfText text).packages (draftOfText text).tunables.mode with
  | error reason =>
      rw [built] at accepted
      cases accepted
  | ok rules =>
      rw [built] at accepted
      cases accepted
      exact ⟨built, rfl⟩

/-- The mode accepts every rule of an accepted configuration, and the text gives the rule. -/
theorem accepts_and_writes_of_mem_entries
    {key : String}
    {rule : Rule}
    (member : (key, rule) ∈ config.rules.entries) :
    config.tunables.mode.accepts rule = true ∧ Writes text key rule := by
  obtain ⟨universal, offscreen, packages, accepts⟩ :=
    RuleTable.eq_some_and_accepts_of_build_eq_ok (build_of_accepted accepted).1
  refine ⟨accepts (key, rule) member, writes_of_holds ?_⟩
  rcases List.mem_cons.mp member with isOffscreen | afterOffscreen
  · cases isOffscreen
    exact .inr (.inl ⟨rfl, offscreen⟩)
  · rcases List.mem_cons.mp afterOffscreen with isUniversal | isPackage
    · cases isUniversal
      exact .inl ⟨rfl, universal⟩
    · refine .inr (.inr ?_)
      rw [packages]
      exact PackageRules.get?_eq_some_iff.mpr isPackage

theorem bounded_of_accepted : config.tunables.Bounded := by
  rw [(build_of_accepted accepted).2]
  exact bounded_draftOfText text

end Accepted

end Config

end RefreshRate
