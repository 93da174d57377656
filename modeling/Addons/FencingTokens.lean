import Addons.LeaseTerms

/-!
# Fencing tokens order the terms

A term that reads its token before the Lease is acquired again promotes with the number of
transitions at which it acquired, and with a higher one than every term of another replica
that ended before it began.
-/

namespace Addons.FencingTokens

open ConditionalStore TransitionSystem LeaseElection LeaseTerms Reachable List

variable {Id : Type} {identity : Id → String} {leaseDurationSeconds : Int64} {state : State Id}

theorem ordered_initial (initial : Initial state) : ∃ origin, Ordered identity origin state := by
  have rest : ∀ origin, (∀ lease ∈ state.lease.value?, WellFormed origin lease) →
      (state.lease.value? = none → origin = -1) → Ordered identity origin state := by
    intro _ formed created
    exact ⟨formed, created, by simp [initial.writes], by simp [initial.stored],
      fun id => initial.replica id ▸ informed_fresh, fun id => initial.replica id ▸ trivial,
      by simp [initial.terms], by simp [initial.terms], by simp [initial.terms]⟩
  cases leaseEq : state.lease.value? with
  | none => exact ⟨-1, rest (-1) (by simp [leaseEq]) (fun _ => rfl)⟩
  | some lease =>
    refine ⟨lease.record.leaderTransitions.toInt - 1, rest _ ?_ (by simp [leaseEq])⟩
    rw [leaseEq]
    rintro _ ⟨⟩
    have acquirersEq := initial.lease lease leaseEq
    refine ⟨?_, .inr (by rw [acquirersEq]; rfl)⟩
    rw [acquirersEq, length_singleton]
    omega

/-- In every run in which each term reads its token before the Lease is acquired again,
a term promotes with the number of transitions at which it acquired, and a term of
another replica that had ended when it began promotes with a smaller one. -/
theorem fencingTokens_ordered [DecidableEq Id] (named : ∀ id, identity id ≠ "")
    (distinct : Function.Injective identity)
    (reached : Reachable Initial (Step identity leaseDurationSeconds) Prompt state) :
    (∀ term ∈ state.terms, ∀ fence ∈ term.fence, fence = term.acquired) ∧
      ∀ (early late moment : Nat) (before after : Term Id) (fence later : Int64),
        state.terms[early]? = some before → state.terms[late]? = some after →
        before.endedAt = some moment → moment ≤ late → before.replica ≠ after.replica →
        before.fence = some fence → after.fence = some later →
          fence < later ∧ fence = before.acquired := by
  obtain ⟨origin, ordered⟩ : ∃ origin, Ordered identity origin state := by
    apply reached.invariant
    · intro state initial
      exact ordered_initial initial
    · rintro _ _ after ⟨origin, ordered⟩ prompt taken
      exact ⟨origin, ordered.step named prompt taken⟩
  constructor
  · intro term member
    exact (ordered.terms term member).fence
  · intro early late moment before after fence later beforeEq afterEq endedEq _ different
      fenceEq laterEq
    have beforeOrdered := ordered.terms before (mem_of_getElem? beforeEq)
    have afterOrdered := ordered.terms after (mem_of_getElem? afterEq)
    have endedLater := ordered.ended early before moment beforeEq endedEq
    have suffix := ordered.ordered early late before after (by omega) beforeEq afterEq
      (by simp [laterEq])
    have shorter : before.acquirers.length < after.acquirers.length := by
      apply Nat.lt_of_le_of_ne suffix.length_le
      intro same
      have heads := beforeOrdered.own
      rw [suffix.eq_of_length same, afterOrdered.own] at heads
      exact different (distinct (Option.some.inj heads).symm)
    have beforeFence := beforeOrdered.fence fence fenceEq
    have afterFence := afterOrdered.fence later laterEq
    have beforeCount := beforeOrdered.counted
    have afterCount := afterOrdered.counted
    refine ⟨?_, beforeFence⟩
    rw [Int64.lt_iff_toInt_lt, beforeFence, afterFence]
    omega

/-- Two replicas and no Lease yet. -/
def noLease : State Bool where
  lease := .empty
  writes := []
  stored := fun _ => none
  nextNumber := 0
  replica := fun _ => {}
  terms := []

def firstRecord : LeaderElectionRecord := attemptRecord "forklift-0" 15 0

def firstLease : Lease := ⟨some (recordToLeaseSpec firstRecord), ["forklift-0"]⟩

def firstElector : LeaderElector := ⟨firstRecord, none, 0⟩

def firstTerm : Term Bool where
  replica := false
  acquired := 0
  acquirers := ["forklift-0"]

/-- The first replica has created the Lease and leads. -/
def firstLeads (terms : List (Term Bool)) : State Bool :=
  { ((noLease.set false { stage := .getting firstRecord }).send false
      { stage := .writing firstRecord 0 } .ifNoneMatch firstRecord).land
      ⟨0, .ifNoneMatch, firstRecord⟩ with
    terms := terms }.set false
      { lease := some (0, firstLease), elector := firstElector, leading := some 0 }

abbrev PromptRun : State Bool → Prop :=
  Reachable Initial (Step podName 15) Prompt

theorem firstLeads_reachable : PromptRun (firstLeads [firstTerm]) := by
  have begun : PromptRun noLease :=
    .start ⟨rfl, fun _ => rfl, fun _ => rfl, rfl, by rintro lease ⟨⟩⟩
  have getting : PromptRun (noLease.set false { stage := .getting firstRecord }) :=
    .next begun (show Prompt noLease (.replica false) from trivial)
      (.attemptSlow 0 0 rfl (.inl rfl))
  have writing : PromptRun ((noLease.set false { stage := .getting firstRecord }).send false
      { stage := .writing firstRecord 0 } .ifNoneMatch firstRecord) :=
    .next getting (show Prompt _ (.replica false) from trivial) (.getMissing rfl rfl)
  have landed := next writing (show Prompt _ (.land ⟨0, .ifNoneMatch, firstRecord⟩) from
    by rintro _ ⟨⟩) (.land mem_cons_self rfl)
  exact .next landed (show Prompt _ (.replica false) from trivial)
    (@Step.attemptSucceeds _ _ _ _ _ false firstRecord 0 0 firstLease 0 (.inl rfl) rfl)

def releaseWrite : LeaseWrite := ⟨1, .ifMatch 0, firstElector.released 0⟩

def releasedLease : Lease := ⟨some (recordToLeaseSpec releaseWrite.record), ["forklift-0"]⟩

/-- It steps down: it gives the Lease up and its term ends. -/
def firstStopped (terms : List (Term Bool)) : State Bool :=
  (((firstLeads terms).send false
    { lease := some (0, firstLease)
      elector := firstElector
      stage := .releasing 1
      leading := some 0 } (.ifMatch 0) releaseWrite.record).land releaseWrite).stop false
    { lease := some (1, releasedLease)
      elector := firstElector
      stage := .releasing 1
      leading := some 0 } 0

variable {terms : List (Term Bool)}

theorem firstStopped_reachable (leads : PromptRun (firstLeads terms)) :
    PromptRun (firstStopped terms) := by
  have releasing := next leads (show Prompt _ (.replica false) from trivial)
    (@Step.release _ _ _ _ (firstLeads terms) false 0 0 firstLease 0 rfl
      (fun _ => Stage.noConfusion) rfl rfl)
  have landed := next releasing (show Prompt _ (.land releaseWrite) from
    by rintro _ ⟨⟩; decide) (.land mem_cons_self rfl)
  exact .next landed (show Prompt _ (.replica false) from trivial)
    (@Step.stopReleased _ _ _ _ _ false 0 1 1 releasedLease rfl rfl rfl)

def secondAttempt : LeaderElectionRecord := attemptRecord "forklift-1" 15 20000000

def secondRecord : LeaderElectionRecord := { secondAttempt with leaderTransitions := 1 }

def secondWrite : LeaseWrite := ⟨2, .ifMatch 1, secondRecord⟩

def secondLease : Lease :=
  ⟨some (recordToLeaseSpec secondRecord), ["forklift-1", "forklift-0"]⟩

def observedReleased : LeaderElector :=
  ⟨releasedLease.record, some releasedLease.record, 0⟩

/-- The second replica acquires the free Lease. -/
def secondLeads (terms : List (Term Bool)) : State Bool :=
  ((((firstStopped terms).set true { stage := .getting secondAttempt }).send true
    { lease := some (1, releasedLease)
      elector := observedReleased
      stage := .writing secondRecord 2 } (.ifMatch 1) secondRecord).land secondWrite).succeed true
    { lease := some (2, secondLease)
      elector := observedReleased.setObservedRecord secondRecord 0
      stage := .waiting } secondLease

theorem secondLeads_reachable (stopped : PromptRun (firstStopped terms)) : PromptRun
    (secondLeads terms) := by
  have getting : PromptRun ((firstStopped terms).set true { stage := .getting secondAttempt }) :=
    .next stopped (show Prompt _ (.replica true) from trivial)
      (.attemptSlow 20000000 0 rfl (.inl rfl))
  have writing := next getting (show Prompt _ (.replica true) from trivial)
    (@Step.getFree _ _ _ _ _ true secondAttempt secondRecord 1 releasedLease observedReleased 0
      rfl rfl rfl rfl rfl)
  have room : releasedLease.record.leaderTransitions.toInt < 2 ^ 31 - 1 := by decide
  have landed := next writing (show Prompt _ (.land secondWrite) from
    by rintro _ ⟨⟩; exact room) (.land mem_cons_self rfl)
  exact .next landed (show Prompt _ (.replica true) from trivial)
    (@Step.attemptSucceeds _ _ _ _ _ true secondRecord 2 2 secondLease 0 (.inl rfl) rfl)

/-- The second term reads its token, and the first term reads its own after that. -/
def lateRead : State Bool :=
  ((secondLeads [firstTerm]).promote 1 1).promote 0 1

theorem lateRead_reachable : Reachable Initial (Step podName 15) (fun _ _ => True) lateRead := by
  have leads := (secondLeads_reachable (firstStopped_reachable firstLeads_reachable)).mono
    (fun _ _ _ => trivial : ∀ state event, Prompt state event → True)
  have second := next leads trivial
    (@Step.readToken _ _ podName 15 (secondLeads [firstTerm]) 1 _ rfl rfl)
  exact second.next trivial (@Step.readToken _ _ podName 15 _ 0 _ rfl rfl)

theorem fencingTokens_late :
    Reachable Initial (Step podName 15) (fun _ _ => True) lateRead ∧
      ∃ before after, lateRead.terms[0]? = some before ∧ lateRead.terms[1]? = some after ∧
        before.endedAt = some 1 ∧ before.replica ≠ after.replica ∧
        before.acquired = 0 ∧ before.fence = some 1 ∧ after.fence = some 1 := by
  exact ⟨lateRead_reachable, _, _, rfl, rfl, rfl, Bool.noConfusion, rfl, rfl, rfl⟩

/-- Both terms read their tokens in time. -/
def promptReads : State Bool :=
  (secondLeads [{ firstTerm with fence := some 0 }]).promote 1 1

theorem promptReads_reachable : PromptRun promptReads := by
  have first : PromptRun (firstLeads [{ firstTerm with fence := some 0 }]) :=
    .next firstLeads_reachable (show Prompt _ (.readToken 0 true) from
      ⟨rfl, by rintro term ⟨⟩ lease ⟨⟩; rfl⟩) (@Step.readToken _ _ podName 15 _ 0 _ rfl rfl)
  have second := secondLeads_reachable (firstStopped_reachable first)
  exact .next second (show Prompt _ (.readToken 1 true) from
    ⟨rfl, by rintro _ ⟨⟩ _ ⟨⟩; rfl⟩) (@Step.readToken _ _ _ 15 _ 1 _ rfl rfl)

theorem fencingTokens_ordered_handover :
    promptReads.terms.map Term.fence = [some 0, some 1] ∧
      (∀ term ∈ promptReads.terms, ∀ fence ∈ term.fence, fence = term.acquired) ∧
      ∀ (early late moment : Nat) (before after : Term Bool) (fence later : Int64),
        promptReads.terms[early]? = some before → promptReads.terms[late]? = some after →
        before.endedAt = some moment → moment ≤ late → before.replica ≠ after.replica →
        before.fence = some fence → after.fence = some later →
          fence < later ∧ fence = before.acquired :=
  ⟨rfl, fencingTokens_ordered podName_ne_empty podName_injective promptReads_reachable⟩

end Addons.FencingTokens
