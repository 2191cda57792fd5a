import Mathlib.Data.List.Perm.Basic
import RefreshRate.Rule.Table

namespace RefreshRate

/-!
# Validation of rules

A table is built of exactly the rules that are given, if both mandatory rules are among
them and every rule is usable in the mode of switching.  Otherwise the first fault is
reported, and among several packages with a fault that is the one whose name comes first
by code points.  The order in which the packages were given plays no part.
-/

/-- What a rule may ask for in a mode of switching. -/
inductive SwitchMode.Usable : SwitchMode → Rule → Prop where
  /-- The pair that asks for no change. -/
  | noChange (mode : SwitchMode) : Usable mode ⟨-1, -1⟩
  | rates
      {idle active : Int}
      (idleIsRate : 20 ≤ idle)
      (activeIsRate : 20 ≤ active) :
      Usable .literal ⟨idle, active⟩
  | indices
      {idle active : Int}
      (idleIsIndex : idle < 20)
      (activeIsIndex : active < 20) :
      Usable .indexed ⟨idle, active⟩

/-- The code points of a name, which decide about the order of names. -/
def codePoints (name : String) : List Nat :=
  name.toList.map Char.toNat

theorem codePoints_lt_of_lt
    {name other : String}
    (less : name < other) :
    codePoints name < codePoints other := by
  have charsLess : name.toList < other.toList := less
  exact List.map_lt (fun _ _ => UInt32.lt_iff_toNat_lt.mp) charsLess

namespace SwitchMode

variable {mode : SwitchMode} {rule : Rule}

theorem accepts_iff :
    mode.accepts rule = true ↔
      rule = Rule.noOverride ∨ mode.fits rule.idle = true ∧ mode.fits rule.active = true := by
  simp [accepts]

/-- The mode accepts a rule exactly if it is usable. -/
theorem accepts_iff_usable : mode.accepts rule = true ↔ mode.Usable rule := by
  rw [accepts_iff]
  obtain ⟨idle, active⟩ := rule
  constructor
  · rintro (isNoOverride | ⟨idleFits, activeFits⟩)
    · cases isNoOverride
      exact .noChange mode
    · cases mode with
      | literal =>
          exact .rates (of_decide_eq_true idleFits) (of_decide_eq_true activeFits)
      | indexed =>
          exact .indices (of_decide_eq_true idleFits) (of_decide_eq_true activeFits)
  · intro usable
    cases usable with
    | noChange =>
        exact .inl rfl
    | rates idleIsRate activeIsRate =>
        exact .inr ⟨decide_eq_true idleIsRate, decide_eq_true activeIsRate⟩
    | indices idleIsIndex activeIsIndex =>
        exact .inr ⟨decide_eq_true idleIsIndex, decide_eq_true activeIsIndex⟩

theorem not_accepts_iff : (!mode.accepts rule) = true ↔ ¬mode.Usable rule := by
  rw [← accepts_iff_usable, Bool.not_eq_true', Bool.not_eq_true]

end SwitchMode

namespace PackageRules

variable {packages : PackageRules} {mode : SwitchMode} {name : String} {rule : Rule}

/-- Of all packages whose rule a mode cannot use this one has the least name. -/
structure IsFirstUnusable
    (packages : PackageRules)
    (mode : SwitchMode)
    (name : String)
    (rule : Rule) :
    Prop where
  given : packages.get? name = some rule
  unusable : ¬mode.Usable rule
  least :
    ∀ other otherRule,
      packages.get? other = some otherRule →
        ¬mode.Usable otherRule →
          other ≠ name →
            codePoints name < codePoints other

/-- The first package whose rule a mode refuses. -/
def firstRefused?
    (packages : PackageRules)
    (mode : SwitchMode) :
    Option (String × Rule) :=
  packages.entries.find? fun entry => !mode.accepts entry.2

theorem firstRefused?_eq_none_iff :
    packages.firstRefused? mode = none ↔
      ∀ name rule, packages.get? name = some rule → mode.Usable rule := by
  simp only [firstRefused?, List.find?_eq_none, SwitchMode.not_accepts_iff, not_not,
    get?_eq_some_iff, Prod.forall]

theorem isFirstUnusable_of_firstRefused?_eq_some
    (refused : packages.firstRefused? mode = some (name, rule)) :
    packages.IsFirstUnusable mode name rule := by
  obtain ⟨isRefused, earlier, later, split, earlierAccepted⟩ :=
    List.find?_eq_some_iff_append.mp refused
  refine ⟨?_, SwitchMode.not_accepts_iff.mp isRefused, ?_⟩
  · rw [get?_eq_some_iff, split]
    exact List.mem_append_right earlier List.mem_cons_self
  · intro other otherRule given unusable different
    rw [get?_eq_some_iff, split] at given
    rcases List.mem_append.mp given with isEarlier | isLater
    · -- the packages before it have all been accepted
      have accepted : mode.accepts otherRule = true := by
        simpa using earlierAccepted _ isEarlier
      exact absurd (SwitchMode.accepts_iff_usable.mp accepted) unusable
    · rcases List.mem_cons.mp isLater with isSame | isAfter
      · cases isSame
        exact absurd rfl different
      · have ascending := packages.ascending
        rw [split, List.pairwise_append, List.pairwise_cons] at ascending
        exact codePoints_lt_of_lt (ascending.2.1.1 _ isAfter)

/-- Only one package can be the first that is unusable. -/
theorem IsFirstUnusable.unique
    {other : String}
    {otherRule : Rule}
    (isFirst : packages.IsFirstUnusable mode name rule)
    (otherIsFirst : packages.IsFirstUnusable mode other otherRule) :
    name = other ∧ rule = otherRule := by
  have sameName : name = other := by
    by_contra different
    have less := isFirst.least _ _ otherIsFirst.given otherIsFirst.unusable (Ne.symm different)
    have greater := otherIsFirst.least _ _ isFirst.given isFirst.unusable different
    exact List.lt_asymm less greater
  subst sameName
  exact ⟨rfl, Option.some.inj (isFirst.given.symm.trans otherIsFirst.given)⟩

theorem firstRefused?_eq_some_iff :
    packages.firstRefused? mode = some (name, rule) ↔
      packages.IsFirstUnusable mode name rule := by
  refine ⟨isFirstUnusable_of_firstRefused?_eq_some, fun isFirst => ?_⟩
  cases found : packages.firstRefused? mode with
  | none =>
      exact absurd (firstRefused?_eq_none_iff.mp found _ _ isFirst.given) isFirst.unusable
  | some entry =>
      obtain ⟨rfl, rfl⟩ := isFirst.unique (isFirstUnusable_of_firstRefused?_eq_some found)
      rfl

theorem get?_foldl_insert
    {entries : List (String × Rule)}
    (distinct : (entries.map Prod.fst).Nodup)
    (packages : PackageRules) :
    (entries.foldl (fun rules entry => rules.insert entry.1 entry.2) packages).get? name =
        some rule ↔
      (name, rule) ∈ entries ∨
        name ∉ entries.map Prod.fst ∧ packages.get? name = some rule := by
  induction entries generalizing packages with
  | nil =>
      simp
  | cons head rest inductionHypothesis =>
      obtain ⟨headName, headRule⟩ := head
      rw [List.map_cons, List.nodup_cons] at distinct
      rw [List.foldl_cons, inductionHypothesis distinct.2, get?_insert]
      simp only [List.mem_cons, List.map_cons, Prod.mk.injEq, not_or]
      by_cases same : headName = name
      · subst same
        have notAgain (rule : Rule) : (headName, rule) ∉ rest :=
          fun member => distinct.1 (List.mem_map.mpr ⟨_, member, rfl⟩)
        simp [distinct.1, notAgain, eq_comm]
      · simp [same, Ne.symm same]

/-- Packages with different names are found with the rules that were given for them. -/
theorem get?_ofList
    {entries : List (String × Rule)}
    (distinct : (entries.map Prod.fst).Nodup) :
    (ofList entries).get? name = some rule ↔ (name, rule) ∈ entries := by
  rw [ofList, get?_foldl_insert distinct]
  simp

/-- It does not matter in which order packages with different names are given. -/
theorem ofList_eq_of_perm
    {entries others : List (String × Rule)}
    (distinct : (entries.map Prod.fst).Nodup)
    (reordered : entries.Perm others) :
    ofList entries = ofList others := by
  have othersDistinct : (others.map Prod.fst).Nodup :=
    (reordered.map Prod.fst).nodup_iff.mp distinct
  refine ext_get? fun name => Option.ext fun rule => ?_
  rw [get?_ofList distinct, get?_ofList othersDistinct]
  exact reordered.mem_iff

end PackageRules

namespace RuleTable

variable
  {universal? offscreen? : Option Rule}
  {packages : PackageRules}
  {mode : SwitchMode}
  {table : RuleTable}
  {error : ConfigError}

/-- Every rule of a table is usable. -/
structure AllUsable (table : RuleTable) (mode : SwitchMode) : Prop where
  offscreen : mode.Usable table.offscreen
  universal : mode.Usable table.universal
  packages : ∀ name rule, table.packages.get? name = some rule → mode.Usable rule

/-- The fault that is reported of the rules that are given. -/
inductive FirstFault
    (packages : PackageRules)
    (mode : SwitchMode) :
    Option Rule → Option Rule → ConfigError → Prop where
  | noOffscreen
      (universal? : Option Rule) :
      FirstFault packages mode universal? none (.missingRule "-")
  | noUniversal
      (offscreen : Rule) :
      FirstFault packages mode none (some offscreen) (.missingRule "*")
  | offscreen
      {universal offscreen : Rule}
      (unusable : ¬mode.Usable offscreen) :
      FirstFault packages mode (some universal) (some offscreen)
        (.invalidRule "-" offscreen mode)
  | universal
      {universal offscreen : Rule}
      (offscreenUsable : mode.Usable offscreen)
      (unusable : ¬mode.Usable universal) :
      FirstFault packages mode (some universal) (some offscreen)
        (.invalidRule "*" universal mode)
  | package
      {universal offscreen rule : Rule}
      {name : String}
      (offscreenUsable : mode.Usable offscreen)
      (universalUsable : mode.Usable universal)
      (isFirst : packages.IsFirstUnusable mode name rule) :
      FirstFault packages mode (some universal) (some offscreen)
        (.invalidRule name rule mode)

/-- The mandatory rules are looked at before those of packages, offscreen first. -/
theorem firstRefused?_eq (table : RuleTable) (mode : SwitchMode) :
    table.firstRefused? mode =
      if mode.accepts table.offscreen then
        if mode.accepts table.universal then
          table.packages.firstRefused? mode
        else
          some (Rule.universalKey, table.universal)
      else
        some (Rule.offscreenKey, table.offscreen) := by
  simp only [firstRefused?, entries, List.find?_cons, PackageRules.firstRefused?]
  cases mode.accepts table.offscreen with
  | false =>
      rfl
  | true =>
      cases mode.accepts table.universal with
      | false =>
          rfl
      | true =>
          rfl

theorem firstRefused?_eq_none_iff : table.firstRefused? mode = none ↔ table.AllUsable mode := by
  rw [firstRefused?_eq]
  constructor
  · intro nothingRefused
    split at nothingRefused
    · rename_i offscreenAccepted
      split at nothingRefused
      · rename_i universalAccepted
        exact
          { offscreen := SwitchMode.accepts_iff_usable.mp offscreenAccepted
            universal := SwitchMode.accepts_iff_usable.mp universalAccepted
            packages := PackageRules.firstRefused?_eq_none_iff.mp nothingRefused }
      · cases nothingRefused
    · cases nothingRefused
  · intro allUsable
    rw [if_pos (SwitchMode.accepts_iff_usable.mpr allUsable.offscreen),
      if_pos (SwitchMode.accepts_iff_usable.mpr allUsable.universal)]
    exact PackageRules.firstRefused?_eq_none_iff.mpr allUsable.packages

/-- A rule that is refused is the first fault. -/
theorem firstFault_of_firstRefused?_eq_some
    {key : String}
    {rule : Rule}
    (refused : table.firstRefused? mode = some (key, rule)) :
    FirstFault table.packages mode (some table.universal) (some table.offscreen)
      (.invalidRule key rule mode) := by
  rw [firstRefused?_eq] at refused
  split at refused
  · rename_i offscreenAccepted
    have offscreenUsable := SwitchMode.accepts_iff_usable.mp offscreenAccepted
    split at refused
    · rename_i universalAccepted
      exact
        .package offscreenUsable (SwitchMode.accepts_iff_usable.mp universalAccepted)
          (PackageRules.firstRefused?_eq_some_iff.mp refused)
    · rename_i universalRefused
      cases refused
      exact .universal offscreenUsable (mt SwitchMode.accepts_iff_usable.mpr universalRefused)
  · rename_i offscreenRefused
    cases refused
    exact .offscreen (mt SwitchMode.accepts_iff_usable.mpr offscreenRefused)

/-- Either the table is built of the given rules, all usable, or the first fault is reported. -/
theorem build_cases
    (universal? offscreen? : Option Rule)
    (packages : PackageRules)
    (mode : SwitchMode) :
    (∃ table : RuleTable,
        build universal? offscreen? packages mode = .ok table ∧
          universal? = some table.universal ∧
            offscreen? = some table.offscreen ∧
              packages = table.packages ∧ table.AllUsable mode) ∨
      ∃ error,
        build universal? offscreen? packages mode = .error error ∧
          FirstFault packages mode universal? offscreen? error := by
  cases offscreen? with
  | none =>
      exact .inr ⟨_, rfl, .noOffscreen universal?⟩
  | some offscreen =>
      cases universal? with
      | none =>
          exact .inr ⟨_, rfl, .noUniversal offscreen⟩
      | some universal =>
          cases refused : firstRefused? ⟨universal, offscreen, packages⟩ mode with
          | some entry =>
              exact
                .inr ⟨_, by simp only [build, refused], firstFault_of_firstRefused?_eq_some refused⟩
          | none =>
              exact
                .inl ⟨_, by simp only [build, refused], rfl, rfl, rfl,
                  firstRefused?_eq_none_iff.mp refused⟩

theorem build_eq_ok_iff :
    build universal? offscreen? packages mode = .ok table ↔
      universal? = some table.universal ∧
        offscreen? = some table.offscreen ∧
          packages = table.packages ∧ table.AllUsable mode := by
  constructor
  · intro built
    rcases build_cases universal? offscreen? packages mode with
      ⟨other, otherBuilt, given⟩ | ⟨error, faulty, -⟩
    · cases built.symm.trans otherBuilt
      exact given
    · cases built.symm.trans faulty
  · rintro ⟨rfl, rfl, rfl, allUsable⟩
    have nothingRefused : firstRefused? table mode = none :=
      firstRefused?_eq_none_iff.mpr allUsable
    simp only [build, nothingRefused]

/-- Among the rules that are given there is at most one first fault. -/
theorem FirstFault.unique
    {other : ConfigError}
    (isFirst : FirstFault packages mode universal? offscreen? error)
    (otherIsFirst : FirstFault packages mode universal? offscreen? other) :
    error = other := by
  cases isFirst with
  | noOffscreen | noUniversal =>
      cases otherIsFirst
      rfl
  | offscreen unusable =>
      cases otherIsFirst with
      | offscreen =>
          rfl
      | universal offscreenUsable | package offscreenUsable =>
          exact absurd offscreenUsable unusable
  | universal offscreenUsable unusable =>
      cases otherIsFirst with
      | offscreen offscreenUnusable =>
          exact absurd offscreenUsable offscreenUnusable
      | universal =>
          rfl
      | package _ universalUsable =>
          exact absurd universalUsable unusable
  | package offscreenUsable universalUsable isFirst =>
      cases otherIsFirst with
      | offscreen offscreenUnusable =>
          exact absurd offscreenUsable offscreenUnusable
      | universal _ universalUnusable =>
          exact absurd universalUsable universalUnusable
      | package _ _ otherIsFirst =>
          obtain ⟨rfl, rfl⟩ := isFirst.unique otherIsFirst
          rfl

/-- Rules with a fault give no table. -/
theorem FirstFault.not_allUsable
    (isFirst :
      FirstFault table.packages mode (some table.universal) (some table.offscreen) error) :
    ¬table.AllUsable mode := by
  intro allUsable
  cases isFirst with
  | offscreen unusable =>
      exact unusable allUsable.offscreen
  | universal _ unusable =>
      exact unusable allUsable.universal
  | package _ _ isFirst =>
      exact isFirst.unusable (allUsable.packages _ _ isFirst.given)

theorem build_eq_error_iff :
    build universal? offscreen? packages mode = .error error ↔
      FirstFault packages mode universal? offscreen? error := by
  rcases build_cases universal? offscreen? packages mode with
    ⟨table, built, rfl, rfl, rfl, allUsable⟩ | ⟨other, faulty, otherIsFirst⟩
  · rw [built]
    constructor
    · rintro ⟨⟩
    · intro isFirst
      exact absurd allUsable isFirst.not_allUsable
  · rw [faulty]
    constructor
    · rintro ⟨⟩
      exact otherIsFirst
    · intro isFirst
      rw [isFirst.unique otherIsFirst]

/--
A table is built if and only if both mandatory rules are given and every rule is usable, and
it has just the given rules in it.  Otherwise the first fault is reported, with the name and
the values of the rule and the mode.  Neither depends on the order in which packages were
given.
-/
theorem build_reports_first_fault
    (universal? offscreen? : Option Rule)
    (packages : PackageRules)
    (mode : SwitchMode) :
    (∀ table,
        build universal? offscreen? packages mode = .ok table ↔
          universal? = some table.universal ∧
            offscreen? = some table.offscreen ∧
              packages = table.packages ∧ table.AllUsable mode) ∧
      (∀ error,
        build universal? offscreen? packages mode = .error error ↔
          FirstFault packages mode universal? offscreen? error) ∧
        ∀ entries others : List (String × Rule),
          (entries.map Prod.fst).Nodup →
            entries.Perm others →
              (∀ name rule,
                  (PackageRules.ofList entries).get? name = some rule ↔
                    (name, rule) ∈ entries) ∧
                build universal? offscreen? (.ofList entries) mode =
                  build universal? offscreen? (.ofList others) mode := by
  refine ⟨fun table => build_eq_ok_iff, fun error => build_eq_error_iff, ?_⟩
  intro entries others distinct reordered
  refine ⟨fun name rule => PackageRules.get?_ofList distinct, ?_⟩
  rw [PackageRules.ofList_eq_of_perm distinct reordered]

/-- Of two packages without rates the one that comes first is named, however they are given. -/
theorem build_names_least_unusable_package :
    ([("com.b", (⟨1, 2⟩ : Rule)), ("com.a", ⟨60, 120⟩), ("com.c", ⟨3, 4⟩)].map
          Prod.fst).Nodup ∧
      List.Perm
          [("com.b", (⟨1, 2⟩ : Rule)), ("com.a", ⟨60, 120⟩), ("com.c", ⟨3, 4⟩)]
          [("com.c", ⟨3, 4⟩), ("com.b", ⟨1, 2⟩), ("com.a", ⟨60, 120⟩)] ∧
        build (some ⟨60, 120⟩) (some ⟨30, 30⟩)
            (.ofList [("com.c", ⟨3, 4⟩), ("com.b", ⟨1, 2⟩), ("com.a", ⟨60, 120⟩)])
            .literal =
          .error (.invalidRule "com.b" ⟨1, 2⟩ .literal) := by
  have distinct :
      ([("com.b", (⟨1, 2⟩ : Rule)), ("com.a", ⟨60, 120⟩), ("com.c", ⟨3, 4⟩)].map
        Prod.fst).Nodup := by
    decide
  have reordered :
      List.Perm
        [("com.b", (⟨1, 2⟩ : Rule)), ("com.a", ⟨60, 120⟩), ("com.c", ⟨3, 4⟩)]
        [("com.c", ⟨3, 4⟩), ("com.b", ⟨1, 2⟩), ("com.a", ⟨60, 120⟩)] := by
    decide
  obtain ⟨-, reported, anyOrder⟩ :=
    build_reports_first_fault (some ⟨60, 120⟩) (some ⟨30, 30⟩)
      (.ofList [("com.b", ⟨1, 2⟩), ("com.a", ⟨60, 120⟩), ("com.c", ⟨3, 4⟩)]) .literal
  obtain ⟨found, sameResult⟩ := anyOrder _ _ distinct reordered
  refine ⟨distinct, reordered, ?_⟩
  rw [← sameResult, reported]
  refine .package (.rates (by decide) (by decide)) (.rates (by decide) (by decide)) ?_
  refine ⟨(found _ _).mpr (by decide), ?_, ?_⟩
  · intro usable
    cases usable with
    | rates idleIsRate =>
        exact absurd idleIsRate (by decide)
  · intro other otherRule given unusable different
    have member := (found _ _).mp given
    simp only [List.mem_cons, Prod.mk.injEq, List.not_mem_nil, or_false] at member
    rcases member with ⟨rfl, rfl⟩ | ⟨rfl, rfl⟩ | ⟨rfl, rfl⟩
    · exact absurd rfl different
    · exact absurd (.rates (by decide) (by decide)) unusable
    · decide

end RuleTable

end RefreshRate
