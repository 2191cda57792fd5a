import RefreshRate.Rule.Basic

namespace RefreshRate

/-!
# Rules of packages

At most one rule belongs to each package name.  The names are kept in ascending
order of their code points, so two collections that answer every look-up alike
are equal (`PackageRules.ext_get?`), whatever the order of insertion was.
-/

/-- Rules by package name, in ascending order of the names. -/
structure PackageRules where
  entries : List (String × Rule)
  ascending : entries.Pairwise fun earlier later => earlier.1 < later.1
  deriving DecidableEq

namespace PackageRules

/-- No rules. -/
def empty : PackageRules where
  entries := []
  ascending := .nil

instance : EmptyCollection PackageRules :=
  ⟨empty⟩

instance : Inhabited PackageRules :=
  ⟨empty⟩

/-- The number of packages with a rule. -/
def size (rules : PackageRules) : Nat :=
  rules.entries.length

/-- The rule of the first entry with a given name. -/
def lookupIn?
    (name : String) :
    List (String × Rule) → Option Rule
  | [] =>
      none
  | (other, rule) :: rest =>
      if other = name then some rule else lookupIn? name rest

/-- The rule of a package. -/
def get?
    (rules : PackageRules)
    (name : String) :
    Option Rule :=
  lookupIn? name rules.entries

/-- Whether a package has a rule. -/
def contains
    (rules : PackageRules)
    (name : String) :
    Bool :=
  (rules.get? name).isSome

/-- Put an entry at its place in an ascending list; an entry of that name is replaced. -/
def insertEntry
    (name : String)
    (rule : Rule) :
    List (String × Rule) → List (String × Rule)
  | [] =>
      [(name, rule)]
  | (other, otherRule) :: rest =>
      if name < other then
        (name, rule) :: (other, otherRule) :: rest
      else if other = name then
        (name, rule) :: rest
      else
        (other, otherRule) :: insertEntry name rule rest

/-- The names after an insertion are the old names and the inserted one. -/
theorem name_of_mem_insertEntry
    {name : String}
    {rule : Rule}
    {entries : List (String × Rule)}
    {entry : String × Rule}
    (member : entry ∈ insertEntry name rule entries) :
    entry.1 = name ∨ entry ∈ entries := by
  induction entries with
  | nil =>
      simp only [insertEntry, List.mem_singleton] at member
      exact .inl (by rw [member])
  | cons head rest inductionHypothesis =>
      obtain ⟨other, otherRule⟩ := head
      simp only [insertEntry] at member
      split at member
      · rcases List.mem_cons.1 member with here | there
        · exact .inl (by rw [here])
        · exact .inr there
      · split at member
        · rcases List.mem_cons.1 member with here | there
          · exact .inl (by rw [here])
          · exact .inr (List.mem_cons_of_mem _ there)
        · rcases List.mem_cons.1 member with here | there
          · exact .inr (by rw [here]; exact List.mem_cons_self)
          · rcases inductionHypothesis there with named | old
            · exact .inl named
            · exact .inr (List.mem_cons_of_mem _ old)

/-- Of two different names that do not ascend the second is the lesser one. -/
theorem lt_of_not_lt_of_ne
    {first second : String}
    (notAscending : ¬ first < second)
    (different : second ≠ first) :
    second < first := by
  refine Decidable.byContradiction fun notDescending => different ?_
  exact String.le_antisymm (String.not_lt.1 notAscending) (String.not_lt.1 notDescending)

/-- An insertion keeps the names in ascending order. -/
theorem ascending_insertEntry
    (name : String)
    (rule : Rule)
    {entries : List (String × Rule)}
    (ascending : entries.Pairwise fun earlier later => earlier.1 < later.1) :
    (insertEntry name rule entries).Pairwise fun earlier later => earlier.1 < later.1 := by
  induction ascending with
  | nil =>
      simp [insertEntry]
  | @cons head rest headLeast restAscending inductionHypothesis =>
      obtain ⟨other, otherRule⟩ := head
      simp only [insertEntry]
      split
      · rename_i nameLess
        refine .cons ?_ (.cons headLeast restAscending)
        intro entry member
        rcases List.mem_cons.1 member with here | there
        · rw [here]
          exact nameLess
        · exact String.lt_trans nameLess (headLeast entry there)
      · rename_i nameNotLess
        split
        · rename_i same
          subst same
          exact .cons headLeast restAscending
        · rename_i different
          refine .cons ?_ inductionHypothesis
          intro entry member
          rcases name_of_mem_insertEntry member with named | old
          · rw [named]
            exact lt_of_not_lt_of_ne nameNotLess different
          · exact headLeast entry old

/-- Give a package a rule; the rule that it had before is replaced. -/
def insert
    (rules : PackageRules)
    (name : String)
    (rule : Rule) :
    PackageRules where
  entries := insertEntry name rule rules.entries
  ascending := ascending_insertEntry name rule rules.ascending

/-- The rules of a list of packages, of which the last with a given name counts. -/
def ofList (entries : List (String × Rule)) : PackageRules :=
  entries.foldl (fun rules entry => rules.insert entry.1 entry.2) empty

@[simp]
theorem get?_empty (name : String) : empty.get? name = none :=
  rfl

/-- Looking up the inserted name finds the inserted rule, any other name its old rule. -/
theorem lookupIn?_insertEntry
    (name other : String)
    (rule : Rule)
    (entries : List (String × Rule)) :
    lookupIn? other (insertEntry name rule entries) =
      if name = other then some rule else lookupIn? other entries := by
  induction entries with
  | nil =>
      simp [insertEntry, lookupIn?]
  | cons head rest inductionHypothesis =>
      obtain ⟨headName, headRule⟩ := head
      simp only [insertEntry]
      split
      · simp [lookupIn?]
      · split
        · rename_i same
          subst same
          by_cases found : headName = other <;> simp [lookupIn?, found]
        · rename_i different
          by_cases found : headName = other
          · subst found
            simp [lookupIn?, Ne.symm different]
          · simp [lookupIn?, found, inductionHypothesis]

theorem get?_insert
    (rules : PackageRules)
    (name other : String)
    (rule : Rule) :
    (rules.insert name rule).get? other =
      if name = other then some rule else rules.get? other :=
  lookupIn?_insertEntry name other rule rules.entries

/-- In an ascending list an entry is found under its own name. -/
theorem lookupIn?_eq_some_of_mem
    {entries : List (String × Rule)}
    (ascending : entries.Pairwise fun earlier later => earlier.1 < later.1)
    {name : String}
    {rule : Rule}
    (member : (name, rule) ∈ entries) :
    lookupIn? name entries = some rule := by
  induction ascending with
  | nil =>
      cases member
  | @cons head rest headLeast restAscending inductionHypothesis =>
      obtain ⟨headName, headRule⟩ := head
      rcases List.mem_cons.1 member with here | there
      · cases here
        simp [lookupIn?]
      · have less : headName < name :=
          headLeast (name, rule) there
        have different : headName ≠ name := by
          intro same
          exact String.lt_irrefl _ (same ▸ less)
        simp [lookupIn?, different, inductionHypothesis there]

/-- Whatever is found is an entry. -/
theorem mem_of_lookupIn?_eq_some
    {entries : List (String × Rule)}
    {name : String}
    {rule : Rule}
    (found : lookupIn? name entries = some rule) :
    (name, rule) ∈ entries := by
  induction entries with
  | nil =>
      simp [lookupIn?] at found
  | cons head rest inductionHypothesis =>
      obtain ⟨headName, headRule⟩ := head
      simp only [lookupIn?] at found
      split at found
      · rename_i same
        cases found
        rw [same]
        exact List.mem_cons_self
      · exact List.mem_cons_of_mem _ (inductionHypothesis found)

theorem get?_eq_some_iff
    {rules : PackageRules}
    {name : String}
    {rule : Rule} :
    rules.get? name = some rule ↔ (name, rule) ∈ rules.entries :=
  ⟨mem_of_lookupIn?_eq_some, lookupIn?_eq_some_of_mem rules.ascending⟩

/-- Ascending lists with the same entries are equal. -/
theorem eq_of_mem_iff
    {entries others : List (String × Rule)}
    (ascending : entries.Pairwise fun earlier later => earlier.1 < later.1)
    (othersAscending : others.Pairwise fun earlier later => earlier.1 < later.1)
    (sameEntries : ∀ entry, entry ∈ entries ↔ entry ∈ others) :
    entries = others := by
  induction ascending generalizing others with
  | nil =>
      cases others with
      | nil =>
          rfl
      | cons head rest =>
          cases (sameEntries head).2 List.mem_cons_self
  | @cons head rest headLeast restAscending inductionHypothesis =>
      cases othersAscending with
      | nil =>
          cases (sameEntries head).1 List.mem_cons_self
      | @cons other otherRest otherLeast otherAscending =>
          have sameHead : head = other := by
            rcases List.mem_cons.1 ((sameEntries head).1 List.mem_cons_self) with same | later
            · exact same
            · rcases List.mem_cons.1 ((sameEntries other).2 List.mem_cons_self) with same | earlier
              · exact same.symm
              · exact absurd
                  (String.lt_trans (headLeast other earlier) (otherLeast head later))
                  (String.lt_irrefl _)
          subst sameHead
          refine congrArg (head :: ·) (inductionHypothesis otherAscending fun entry => ?_)
          constructor
          · intro member
            rcases List.mem_cons.1 ((sameEntries entry).1 (List.mem_cons_of_mem _ member))
              with same | found
            · exact absurd (same ▸ headLeast entry member) (String.lt_irrefl _)
            · exact found
          · intro member
            rcases List.mem_cons.1 ((sameEntries entry).2 (List.mem_cons_of_mem _ member))
              with same | found
            · exact absurd (same ▸ otherLeast entry member) (String.lt_irrefl _)
            · exact found

/-- Collections that answer every look-up alike are equal. -/
theorem ext_get?
    {rules others : PackageRules}
    (sameAnswers : ∀ name, rules.get? name = others.get? name) :
    rules = others := by
  have sameEntries : rules.entries = others.entries :=
    eq_of_mem_iff rules.ascending others.ascending fun entry => by
      rw [← get?_eq_some_iff, ← get?_eq_some_iff, sameAnswers]
  cases rules
  cases others
  cases sameEntries
  rfl

end PackageRules

end RefreshRate
