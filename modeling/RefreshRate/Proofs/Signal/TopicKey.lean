import Mathlib.Data.List.Infix
import Mathlib.Tactic.SplitIfs
import RefreshRate.Signal.Topic

namespace RefreshRate.Topic

/-!
# Topic keys

Five words are keys of their own; every other key names a control group between a fixed
opening and a fixed closing.  A reader of keys accepts these words and no others, so keys are
read back as the topics that they were made of.
-/

variable
  {word : List Char}
  {key group : String}
  {topic : Topic}
  {reason : SignalError}

/-- A word is the key of a topic; the name of a control group is not empty. -/
inductive IsKey : List Char → Topic → Prop where
  | touch :
      IsKey "input.touch".toList .touch
  | button :
      IsKey "input.btn".toList .button
  | inputState :
      IsKey "input.state".toList .inputState
  | topApp :
      IsKey "topapp.pkgName".toList .topApp
  | offscreen :
      IsKey "offscreen.state".toList .offscreen
  | cgroup
      {name : List Char}
      (named : name ≠ []) :
      IsKey ("cgroup.".toList ++ name ++ ".list".toList) (.cgroup (String.ofList name))

theorem toList_key_cgroup (group : String) :
    (cgroup group).key.toList = "cgroup.".toList ++ group.toList ++ ".list".toList :=
  String.toList_ofList

theorem IsKey.toList_key_eq (isKey : IsKey word topic) : topic.key.toList = word := by
  cases isKey with
  | touch | button | inputState | topApp | offscreen =>
      rfl
  | @cgroup name named =>
      rw [toList_key_cgroup, @String.toList_ofList name]

theorem isKey_cgroup
    (named : group.toList ≠ []) :
    IsKey (cgroup group).key.toList (.cgroup group) := by
  have isKey := IsKey.cgroup named
  rwa [String.ofList_toList, ← toList_key_cgroup] at isKey

theorem group?_eq_some_iff :
    group? key = some group ↔
      group.toList ≠ [] ∧ key.toList = "cgroup.".toList ++ group.toList ++ ".list".toList := by
  have opening : groupOpening = "cgroup.".toList := rfl
  have closing : groupClosing = ".list".toList := rfl
  unfold group?
  rw [← opening, ← closing]
  constructor
  · intro found
    split at found
    · cases found
    · rename_i rest afterOpening
      rw [List.isPrefixOf?_eq_some_iff_append_eq] at afterOpening
      split at found
      · cases found
      · cases found
      · rename_i name named beforeClosing
        rw [List.isSuffixOf?_eq_some_iff_append_eq] at beforeClosing
        cases found
        rw [String.toList_ofList, List.append_assoc, beforeClosing, afterOpening]
        refine ⟨?_, rfl⟩
        rintro rfl
        exact named rfl
  · rintro ⟨named, shape⟩
    have afterOpening :
        groupOpening.isPrefixOf? key.toList = some (group.toList ++ groupClosing) := by
      rw [List.isPrefixOf?_eq_some_iff_append_eq, shape, List.append_assoc]
    have beforeClosing :
        groupClosing.isSuffixOf? (group.toList ++ groupClosing) = some group.toList :=
      List.isSuffixOf?_eq_some_iff_append_eq.mpr rfl
    simp only [afterOpening, beforeClosing]
    rw [String.ofList_toList]

theorem eq_unknownTopic_of_ofKey_eq_error
    (refused : ofKey key = .error reason) :
    reason = .unknownTopic key := by
  unfold ofKey at refused
  split_ifs at refused
  split at refused
  · cases refused
  · cases refused
    rfl

/-- What is accepted are the keys. -/
theorem ofKey_eq_ok_iff : ofKey key = .ok topic ↔ IsKey key.toList topic := by
  constructor
  · intro read
    unfold ofKey at read
    split_ifs at read with isTouch isButton isInputState isTopApp isOffscreen
    · cases read
      exact isTouch ▸ .touch
    · cases read
      exact isButton ▸ .button
    · cases read
      exact isInputState ▸ .inputState
    · cases read
      exact isTopApp ▸ .topApp
    · cases read
      exact isOffscreen ▸ .offscreen
    · split at read
      · rename_i group found
        cases read
        obtain ⟨named, shape⟩ := group?_eq_some_iff.mp found
        have isKey := IsKey.cgroup named
        rwa [String.ofList_toList, ← shape] at isKey
      · cases read
  · intro isKey
    generalize shape : key.toList = word at isKey
    cases isKey with
    | touch | button | inputState | topApp | offscreen =>
        rw [String.toList_inj.mp shape]
        rfl
    | @cgroup name named =>
        -- The key of a control group starts with another letter than the fixed keys.
        have notFixed (fixed : String) (otherStart : fixed.toList.head? ≠ some 'c') :
            key ≠ fixed := by
          rintro rfl
          exact otherStart (by rw [shape]; rfl)
        have found : group? key = some (String.ofList name) := by
          rw [group?_eq_some_iff, String.toList_ofList]
          exact ⟨named, shape⟩
        unfold ofKey
        rw [if_neg (notFixed _ (by decide)), if_neg (notFixed _ (by decide)),
          if_neg (notFixed _ (by decide)), if_neg (notFixed _ (by decide)),
          if_neg (notFixed _ (by decide)), found]

/-- Every other word is refused by name. -/
theorem ofKey_eq_error_iff :
    ofKey key = .error reason ↔
      reason = .unknownTopic key ∧ ∀ topic, ¬IsKey key.toList topic := by
  constructor
  · intro refused
    refine ⟨eq_unknownTopic_of_ofKey_eq_error refused, fun topic isKey => ?_⟩
    rw [ofKey_eq_ok_iff.mpr isKey] at refused
    cases refused
  · rintro ⟨rfl, isNoKey⟩
    cases read : ofKey key with
    | ok topic =>
        exact absurd (ofKey_eq_ok_iff.mp read) (isNoKey topic)
    | error other =>
        rw [eq_unknownTopic_of_ofKey_eq_error read]

/-- A topic whose key can be read: the name of a control group is not empty. -/
def IsNamed : Topic → Prop
  | .cgroup group =>
      group ≠ ""
  | .touch | .button | .inputState | .topApp | .offscreen =>
      True

theorem isKey_key (isNamed : topic.IsNamed) : IsKey topic.key.toList topic := by
  cases topic with
  | touch =>
      exact .touch
  | button =>
      exact .button
  | inputState =>
      exact .inputState
  | topApp =>
      exact .topApp
  | offscreen =>
      exact .offscreen
  | cgroup group =>
      refine isKey_cgroup ?_
      intro isEmpty
      exact isNamed (String.toList_inj.mp isEmpty)

theorem IsKey.isNamed (isKey : IsKey word topic) : topic.IsNamed := by
  cases isKey with
  | touch | button | inputState | topApp | offscreen =>
      trivial
  | @cgroup name named =>
      intro isEmpty
      have noName := congrArg String.toList isEmpty
      rw [String.toList_ofList] at noName
      exact named noName

/-- Two control groups have different keys, even if one of them has no name. -/
theorem group_eq_of_key_eq
    {other : String}
    (same : (cgroup group).key = (cgroup other).key) :
    group = other := by
  have sameText := congrArg String.toList same
  rw [toList_key_cgroup, toList_key_cgroup] at sameText
  exact String.toList_inj.mp (List.append_cancel_left (List.append_cancel_right sameText))

/-- No fixed key starts like the key of a control group. -/
theorem exists_eq_cgroup_of_key_eq
    (same : topic.key = (cgroup group).key) :
    ∃ other, topic = .cgroup other := by
  have sameStart := congrArg (fun key => key.toList.head?) same
  cases topic with
  | cgroup other =>
      exact ⟨other, rfl⟩
  | touch | button | inputState | topApp | offscreen =>
      rw [toList_key_cgroup] at sameStart
      cases sameStart

theorem eq_cgroup_of_not_isNamed (notNamed : ¬topic.IsNamed) : ∃ group, topic = .cgroup group := by
  cases topic with
  | cgroup group =>
      exact ⟨group, rfl⟩
  | touch | button | inputState | topApp | offscreen =>
      exact absurd trivial notNamed

theorem key_injective : Function.Injective Topic.key := by
  intro topic other same
  by_cases isNamed : topic.IsNamed ∧ other.IsNamed
  · have read := ofKey_eq_ok_iff.mpr (isKey_key isNamed.1)
    have readOther := ofKey_eq_ok_iff.mpr (isKey_key isNamed.2)
    rw [same, readOther] at read
    exact (Except.ok.inj read).symm
  · -- One of the two is a control group without a name, so the other one is a control group.
    rcases not_and_or.mp isNamed with notNamed | notNamed
    · obtain ⟨group, rfl⟩ := eq_cgroup_of_not_isNamed notNamed
      obtain ⟨name, rfl⟩ := exists_eq_cgroup_of_key_eq same.symm
      rw [group_eq_of_key_eq same]
    · obtain ⟨group, rfl⟩ := eq_cgroup_of_not_isNamed notNamed
      obtain ⟨name, rfl⟩ := exists_eq_cgroup_of_key_eq same
      rw [group_eq_of_key_eq same]

/--
Keys are read back: the key of a topic as this topic, unless it is a control group without a
name, and any word as the topic of which it is the key, or else it is refused by name.  No
two topics share a key, whatever the names of control groups hold.
-/
theorem keys_are_read_back :
    (∀ topic : Topic, topic.IsNamed → ofKey topic.key = .ok topic) ∧
      (∀ word,
        (∃ topic, ofKey word = .ok topic ∧ topic.key = word ∧ topic.IsNamed) ∨
          ofKey word = .error (.unknownTopic word)) ∧
        Function.Injective Topic.key := by
  refine ⟨fun topic isNamed => ofKey_eq_ok_iff.mpr (isKey_key isNamed), ?_, key_injective⟩
  intro word
  cases read : ofKey word with
  | ok topic =>
      have isKey := ofKey_eq_ok_iff.mp read
      exact .inl ⟨topic, rfl, String.toList_inj.mp isKey.toList_key_eq, isKey.isNamed⟩
  | error reason =>
      rw [eq_unknownTopic_of_ofKey_eq_error read]
      exact .inr rfl

/-- The name of a control group may look like the rest of a key. -/
theorem ofKey_nestedName :
    ofKey "cgroup.cgroup..list.list" = .ok (.cgroup "cgroup..list") ∧
      (cgroup "cgroup..list").key = "cgroup.cgroup..list.list" := by
  have isNamed : (cgroup "cgroup..list").IsNamed := by
    change "cgroup..list" ≠ ""
    decide
  exact ⟨keys_are_read_back.1 (.cgroup "cgroup..list") isNamed, rfl⟩

end RefreshRate.Topic
