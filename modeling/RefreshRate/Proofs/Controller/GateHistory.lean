import Mathlib.Data.List.Chain
import Mathlib.Data.List.Induction
import RefreshRate.Proofs.Controller.Switching

namespace RefreshRate.Gate

/-!
# The gate and its history

A gate has two fields, but what it answers can be told without them, from the calls before:
which value was offered last, whether or not it passed, and whether the force was raised
after that.  The field of the value that was admitted last is that of the value that was
offered last, because a value is only ever refused where they are the same.
-/

/-- A call of the gate. -/
inductive Call where
  | raise
  | offer (value : Int)
  deriving Repr, DecidableEq

/-- The value that is offered in a call. -/
def Call.value? : Call → Option Int
  | .raise =>
      none
  | .offer value =>
      some value

/-- The gate after a call. -/
def call (gate : Gate) : Call → Gate
  | .raise =>
      gate.raiseForce
  | .offer value =>
      (gate.offer value).2

/-- What passes the gate in a call. -/
def admits? (gate : Gate) : Call → Option Admission
  | .raise =>
      none
  | .offer value =>
      (gate.offer value).1

def callAll
    (gate : Gate)
    (calls : List Call) :
    Gate :=
  calls.foldl call gate

/-- What passes the gate in calls, in their order. -/
def admitted (gate : Gate) : List Call → List Admission
  | [] =>
      []
  | first :: rest =>
      (gate.admits? first).toList ++ (gate.call first).admitted rest

/-- The values that are offered in calls, whether they pass or not. -/
def offered (calls : List Call) : List Int :=
  calls.filterMap Call.value?

/-- The force was raised after the last offer, or at any time if there was none. -/
def RaisedSinceOffer (calls : List Call) : Prop :=
  ∃ earlier later, calls = earlier ++ .raise :: later ∧ offered later = []

variable
  {gate : Gate}
  {calls : List Call}
  {value : Int}

theorem offer_fst_eq_some_iff
    {admission : Admission} :
    (gate.offer value).1 = some admission ↔
      admission = ⟨value, gate.isForced⟩ ∧
        (gate.isForced = true ∨ gate.lastApplied ≠ some value) := by
  have passesIff :
      gate.passes value = true ↔ gate.isForced = true ∨ gate.lastApplied ≠ some value := by
    simp [passes]
  rw [← passesIff]
  unfold offer
  split
  · rename_i passes
    simp [passes, eq_comm]
  · rename_i refused
    simp [refused]

theorem callAll_concat
    (gate : Gate)
    (calls : List Call)
    (last : Call) :
    gate.callAll (calls ++ [last]) = (gate.callAll calls).call last := by
  rw [callAll, List.foldl_append]
  rfl

theorem admitted_concat
    (gate : Gate)
    (calls : List Call)
    (last : Call) :
    gate.admitted (calls ++ [last]) =
      gate.admitted calls ++ ((gate.callAll calls).admits? last).toList := by
  induction calls generalizing gate with
  | nil =>
      exact List.append_nil _
  | cons first rest inductionHypothesis =>
      have onwards := inductionHypothesis (gate.call first)
      simp only [List.cons_append, admitted, onwards, List.append_assoc]
      rfl

theorem getLast?_offered_concat_offer
    (calls : List Call)
    (value : Int) :
    (offered (calls ++ [.offer value])).getLast? = some value := by
  rw [offered, List.filterMap_append]
  exact List.getLast?_concat

theorem offered_concat_raise (calls : List Call) :
    offered (calls ++ [.raise]) = offered calls := by
  rw [offered, List.filterMap_append]
  exact List.append_nil _

theorem raisedSinceOffer_concat_raise (calls : List Call) :
    RaisedSinceOffer (calls ++ [.raise]) :=
  ⟨calls, [], rfl, rfl⟩

theorem not_raisedSinceOffer_concat_offer
    (calls : List Call)
    (value : Int) :
    ¬RaisedSinceOffer (calls ++ [.offer value]) := by
  rintro ⟨earlier, later, split, noOffer⟩
  rcases List.eq_nil_or_concat later with rfl | ⟨between, last, rfl⟩
  · obtain ⟨-, sameCall⟩ := List.append_inj' split rfl
    cases sameCall
  · rw [List.concat_eq_append] at split noOffer
    rw [← List.cons_append, ← List.append_assoc] at split
    obtain ⟨-, sameCall⟩ := List.append_inj' split rfl
    cases sameCall
    have offersLast := getLast?_offered_concat_offer between value
    rw [noOffer] at offersLast
    cases offersLast

/-- What a gate has in its fields is told by the calls. -/
theorem callAll_new (calls : List Call) :
    (callAll {} calls).lastApplied = (offered calls).getLast? ∧
      ((callAll {} calls).isForced = true ↔ RaisedSinceOffer calls) := by
  induction calls using List.reverseRecOn with
  | nil =>
      refine ⟨rfl, iff_of_false Bool.false_ne_true ?_⟩
      rintro ⟨earlier, later, split, -⟩
      exact List.append_ne_nil_of_right_ne_nil earlier (List.cons_ne_nil _ _) split.symm
  | append_singleton calls last inductionHypothesis =>
      rw [callAll_concat]
      cases last with
      | raise =>
          rw [offered_concat_raise]
          exact ⟨inductionHypothesis.1, iff_of_true rfl (raisedSinceOffer_concat_raise calls)⟩
      | offer value =>
          have after : (callAll {} calls).call (.offer value) = ⟨some value, false⟩ :=
            offer_snd _ value
          rw [after, getLast?_offered_concat_offer]
          exact
            ⟨rfl, iff_of_false Bool.false_ne_true (not_raisedSinceOffer_concat_offer calls value)⟩

/-- The value that has passed last is the value that was offered last. -/
theorem getLast?_admitted (calls : List Call) :
    ((admitted {} calls).getLast?.map Admission.value) = (offered calls).getLast? := by
  induction calls using List.reverseRecOn with
  | nil =>
      rfl
  | append_singleton calls last inductionHypothesis =>
      rw [admitted_concat]
      cases last with
      | raise =>
          rw [offered_concat_raise, ← inductionHypothesis]
          exact congrArg (fun admissions => admissions.getLast?.map Admission.value)
            (List.append_nil _)
      | offer value =>
          rw [getLast?_offered_concat_offer]
          cases answer : (callAll {} calls).admits? (.offer value) with
          | none =>
              have same := lastApplied_of_offer_fst_eq_none answer
              rw [Option.toList_none, List.append_nil, inductionHypothesis, ← (callAll_new calls).1,
                same]
          | some admission =>
              rw [Option.toList_some, List.getLast?_concat, Option.map_some,
                value_of_offer_fst_eq_some answer]

/-- Something that passes is told from what passed before by its value, or it is forced. -/
theorem isChain_admitted (calls : List Call) :
    (admitted {} calls).IsChain
      fun earlier later => earlier.value ≠ later.value ∨ later.forced = true := by
  induction calls using List.reverseRecOn with
  | nil =>
      exact List.isChain_nil
  | append_singleton calls last inductionHypothesis =>
      rw [admitted_concat]
      cases answer : (callAll {} calls).admits? last with
      | none =>
          rw [Option.toList_none, List.append_nil]
          exact inductionHypothesis
      | some admission =>
          cases last with
          | raise =>
              cases answer
          | offer value =>
              obtain ⟨rfl, passes⟩ := offer_fst_eq_some_iff.mp answer
              refine List.isChain_append.mpr ⟨inductionHypothesis, List.isChain_singleton _, ?_⟩
              rintro earlier isLast later ⟨⟩
              rcases passes with isForced | isNew
              · exact .inr isForced
              · left
                have lastValue := getLast?_admitted calls
                rw [isLast, ← (callAll_new calls).1] at lastValue
                rintro rfl
                exact isNew lastValue.symm

/-- A forced value that passes has used up the force, which only a raise brings back. -/
theorem countP_forced_call_le
    (gate : Gate)
    (next : Call) :
    (gate.admits? next).toList.countP Admission.forced + (gate.call next).isForced.toNat ≤
      gate.isForced.toNat + [next].count .raise := by
  cases next with
  | raise =>
      exact Nat.le_add_left ..
  | offer value =>
      have notForced : (gate.call (.offer value)).isForced = false :=
        congrArg isForced (gate.offer_snd value)
      rw [notForced]
      cases answer : gate.admits? (.offer value) with
      | none =>
          exact Nat.zero_le _
      | some admission =>
          obtain ⟨rfl, -⟩ := offer_fst_eq_some_iff.mp answer
          cases gate.isForced with
          | false =>
              exact Nat.zero_le _
          | true =>
              exact Nat.le_refl 1

theorem countP_forced_add_le (calls : List Call) :
    (admitted {} calls).countP Admission.forced + (callAll {} calls).isForced.toNat ≤
      calls.count .raise := by
  induction calls using List.reverseRecOn with
  | nil =>
      exact Nat.le_refl 0
  | append_singleton calls last inductionHypothesis =>
      have lastCall := countP_forced_call_le (callAll {} calls) last
      rw [admitted_concat, callAll_concat, List.countP_append, List.count_append]
      omega

/--
On a new gate, after any calls, a value passes exactly if it is the first one, if it is not
the one that was offered last, or if the force was raised after that; and in that case it is
forced.  The gate always remembers the value that was offered last.  So a value that passes
differs from the one that passed before or is forced, and there are no more forced values
than raises.
-/
theorem answers_tell_history (calls : List Call) :
    (callAll {} calls).lastApplied = (offered calls).getLast? ∧
      (∀ value,
          (((callAll {} calls).offer value).1.isSome ↔
              offered calls = [] ∨
                (offered calls).getLast? ≠ some value ∨ RaisedSinceOffer calls) ∧
            ∀ admission ∈ ((callAll {} calls).offer value).1,
              admission.value = value ∧ (admission.forced = true ↔ RaisedSinceOffer calls)) ∧
        (admitted {} calls).IsChain
            (fun earlier later => earlier.value ≠ later.value ∨ later.forced = true) ∧
          (admitted {} calls).countP Admission.forced ≤ calls.count .raise := by
  obtain ⟨lastApplied, isForced⟩ := callAll_new calls
  refine ⟨lastApplied, fun value => ⟨?_, ?_⟩, isChain_admitted calls, ?_⟩
  · have passes :
        ((callAll {} calls).offer value).1.isSome ↔
          RaisedSinceOffer calls ∨ (offered calls).getLast? ≠ some value := by
      rw [Option.isSome_iff_exists, ← isForced, ← lastApplied]
      exact
        ⟨fun ⟨_, answer⟩ => (offer_fst_eq_some_iff.mp answer).2,
          fun isOpen => ⟨_, offer_fst_eq_some_iff.mpr ⟨rfl, isOpen⟩⟩⟩
    rw [passes]
    constructor
    · rintro (raised | differs)
      · exact .inr (.inr raised)
      · exact .inr (.inl differs)
    · rintro (isFirst | differs | raised)
      · right
        rw [isFirst]
        rintro ⟨⟩
      · exact .inr differs
      · exact .inl raised
  · intro admission answer
    obtain ⟨rfl, -⟩ := offer_fst_eq_some_iff.mp answer
    exact ⟨rfl, isForced⟩
  · exact Nat.le_of_add_right_le (countP_forced_add_le calls)

/-- Two raises force one value, even one that was offered and refused just before. -/
def raisedTwice : List Call :=
  [.offer 60, .offer 60, .raise, .raise]

theorem offer_after_raisedTwice :
    ((callAll {} raisedTwice).offer 60).1 = some ⟨60, true⟩ ∧
      admitted {} (raisedTwice ++ [.offer 60, .offer 60]) = [⟨60, false⟩, ⟨60, true⟩] := by
  obtain ⟨-, answers, -⟩ := answers_tell_history raisedTwice
  have raised : RaisedSinceOffer raisedTwice := ⟨[.offer 60, .offer 60, .raise], [], rfl, rfl⟩
  obtain ⟨passesIff, told⟩ := answers 60
  have passes := passesIff.mpr (.inr (.inr raised))
  obtain ⟨⟨value, forced⟩, answer⟩ := Option.isSome_iff_exists.mp passes
  obtain ⟨rfl, forcedIff⟩ := told _ answer
  cases forcedIff.mpr raised
  exact ⟨answer, rfl⟩

end RefreshRate.Gate
