import Addons.BatchReplacement
import Addons.TransitionSystem
import Mathlib.Data.Finset.Card

/-!
# Accounting for replaced nodes

Which NodeClaims the status of a NodePool knows, and when steps time out.
-/

namespace Addons.EksUpgrade

open TransitionSystem Transaction List CurrentBatchEntry UInt32 PoolRun Reachable Option

/-! ## The account of a NodePool -/

/-- Every deleted claim is in the batch or done, and the numbers agree with the lists. -/
structure PoolRun.Accounted (config : KarpenterNodePoolsConfig) (run : PoolRun) : Prop where
  deleted : ∀ name ∈ run.deleted,
    name ∈ CurrentBatchEntry.claims run.pool.currentBatch ++ run.pool.completedNodeClaims
  distinct : (CurrentBatchEntry.claims run.pool.currentBatch ++
    run.pool.completedNodeClaims).Nodup
  confirmed : ∀ name ∈ run.pool.completedNodeClaims, name ∈ run.confirmed
  limited : run.pool.currentBatch.length ≤
    config.resolveMaxUnavailable run.pool.totalNodes
  replaced : run.pool.replacedNodes = run.pool.completedNodeClaims.length
  replacements : run.pool.replacements.length = run.pool.completedNodeClaims.length
  total : run.pool.replacedNodes + run.pool.currentBatch.length ≤ run.pool.totalNodes
  fits : run.pool.totalNodes < UInt32.size

theorem length_selectBatch_le {max : Nat} (positive : 1 ≤ max) (stale completed : List String) :
    (selectBatch stale completed max).length ≤ max := by
  have same : Nat.max max 1 = max := Nat.max_eq_left positive
  rw [selectBatch, length_take, same]
  exact Nat.min_le_left _ _

/-- The number of nodes to replace, once the stale ones are known. -/
def countedNodes (pool : KarpenterPoolStatus) (stale : List String) : Nat :=
  if pool.totalNodes = 0 then clampU32 stale.length else pool.totalNodes

/-- The number of nodes to replace and the claims that are deleted next. -/
def nextBatch (config : KarpenterNodePoolsConfig) (targetMinor : Nat) (pool : KarpenterPoolStatus)
    (answers : KarpenterAnswers) : Nat × List String :=
  match resolveStale answers.pool targetMinor pool.completedNodeClaims with
  | .error _ => (pool.totalNodes, [])
  | .ok (_, stale) =>
    (countedNodes pool stale, selectBatch stale pool.completedNodeClaims
      (config.resolveMaxUnavailable (countedNodes pool stale)))

/-- A batch is started as a whole or not at all: its first request fails, or all its requests
are answered, the patch that records it reaches the server, and the nodes to replace cover it. -/
def PoolRun.StartsWhole (config : KarpenterNodePoolsConfig) (run : PoolRun) (event : PoolEvent) :
    Prop :=
  let batch := nextBatch config event.targetMinor run.pool event.answers
  event.answers.Refuses 0 ∨ batch.2 = [] ∨
    (∀ offset < batch.2.length, event.answers.Deletes offset) ∧ event.stored = true ∧
      run.pool.replacedNodes + batch.2.length ≤ batch.1

/-- The condition under which nothing is lost. -/
structure KeepsAccount (config : KarpenterNodePoolsConfig) (run : PoolRun) (event : PoolEvent) :
    Prop where
  listed : event.Listed
  startsWhole : run.pool.currentBatch = [] → run.StartsWhole config event
  failsLast : ∀ observed ∈ (observeEntries event.answers 0 run.pool.currentBatch).toOption,
    FailsLast event.now (timeoutSeconds config.nodeDrainTimeoutMinutes)
      (timeoutSeconds config.controllerStableTimeoutMinutes) observed

namespace PoolRun.Accounted

variable {config : KarpenterNodePoolsConfig} {run : PoolRun}

theorem of_initial (begins : run.Initial) : run.Accounted config := by
  obtain ⟨⟨_, _, fits, poolEq⟩, deleted, confirmed⟩ := begins
  constructor <;> simp [poolEq, deleted, confirmed, claims, fits]

section

variable (accounted : run.Accounted config)
include accounted

theorem observe (status : ComponentStatus) (seen : List String) :
    PoolRun.Accounted config
      { pool := { run.pool with status }, deleted := run.deleted
        confirmed := run.confirmed ++ seen } :=
  { accounted with
    confirmed := fun name member => mem_append_left _ (accounted.confirmed name member) }

theorem countedNodes_ge (stale : List String) :
    run.pool.replacedNodes ≤ countedNodes run.pool stale ∧
      countedNodes run.pool stale < size := by
  have total := accounted.total
  have fits := accounted.fits
  unfold countedNodes
  split
  · exact ⟨by omega, clampU32_lt _⟩
  · exact ⟨by omega, fits⟩

theorem recount (empty : run.pool.currentBatch = [])
    (status : ComponentStatus) (stale : List String) :
    PoolRun.Accounted config
      { run with
        pool := { run.pool with status, totalNodes := countedNodes run.pool stale } } :=
  { accounted with
    limited := by simp [empty]
    total := by simpa [empty] using (accounted.countedNodes_ge stale).1
    fits := (accounted.countedNodes_ge stale).2 }

/-- A batch that is deleted and recorded. -/
theorem start (empty : run.pool.currentBatch = [])
    (status : ComponentStatus) {stale : List String} {entries : List CurrentBatchEntry}
    (distinct : (claims entries).Nodup)
    (fresh : ∀ name ∈ claims entries, name ∉ run.pool.completedNodeClaims)
    (limited : entries.length ≤ config.resolveMaxUnavailable (countedNodes run.pool stale))
    (covered : run.pool.replacedNodes + entries.length ≤ countedNodes run.pool stale) :
    PoolRun.Accounted config
      { pool :=
          { run.pool with
            status, totalNodes := countedNodes run.pool stale, currentBatch := entries }
        deleted := run.deleted ++ claims entries
        confirmed := run.confirmed } :=
  { accounted with
    deleted := fun name member => by
      rcases mem_append.mp member with before | inBatch
      · have known := accounted.deleted name before
        rw [empty] at known
        exact mem_append_right _ known
      · exact mem_append_left _ inBatch
    distinct := by
      have before := accounted.distinct
      rw [empty] at before
      apply List.Nodup.append distinct before
      intro name inBatch inCompleted
      exact fresh name inBatch inCompleted
    limited := limited
    total := covered
    fits := (accounted.countedNodes_ge stale).2 }

theorem record {seen : List String}
    {remaining completed : List CurrentBatchEntry} {recorded : KarpenterPoolStatus}
    (kept : (claims remaining ++ claims completed).Perm
      (claims run.pool.currentBatch)) (confirmed : ∀ name ∈ claims completed, name ∈ seen)
    (records : Recorded { run.pool with status := .inProgress, currentBatch := remaining }
      completed recorded) :
    PoolRun.Accounted config
      { pool := recorded, deleted := run.deleted, confirmed := run.confirmed ++ seen } := by
  have length : remaining.length + completed.length = run.pool.currentBatch.length := by
    simpa [claims] using kept.length_eq
  have total := accounted.total
  have fits := accounted.fits
  have replacedEq : recorded.replacedNodes = run.pool.replacedNodes + completed.length := by
    apply records.replaced
    show run.pool.replacedNodes + completed.length < size
    omega
  have rearranged : (claims recorded.currentBatch ++ recorded.completedNodeClaims).Perm
        (claims run.pool.currentBatch ++ run.pool.completedNodeClaims) := by
    rw [records.currentBatch, records.completed]
    apply List.Perm.trans _ (kept.append_right _)
    rw [append_assoc]
    exact List.Perm.append_left _ perm_append_comm
  constructor
  · intro name member
    exact rearranged.mem_iff.mpr (accounted.deleted name member)
  · exact rearranged.nodup_iff.mpr accounted.distinct
  · intro name member
    rw [records.completed] at member
    rcases mem_append.mp member with before | now
    · exact mem_append_left _ (accounted.confirmed name before)
    · exact mem_append_right _ (confirmed name now)
  · have limited := accounted.limited
    rw [records.currentBatch, records.totalNodes]
    show remaining.length ≤ config.resolveMaxUnavailable run.pool.totalNodes
    omega
  · have replaced := accounted.replaced
    simp only [replacedEq, records.completed, length_append, claims, length_map]
    omega
  · have replacements := accounted.replacements
    simp only [records.replacements, records.completed, length_append, claims, length_map]
    omega
  · simp only [replacedEq, records.currentBatch, records.totalNodes]
    omega
  · simp only [records.totalNodes]
    exact fits

end

variable {event : PoolEvent}

theorem act_of_error (accounted : run.Accounted config) {stop : Stop}
    (result : (run.attempt config event).result = .error stop)
    (calls : (run.attempt config event).calls = []) : (run.act config event).Accounted config := by
  have after := accounted.observe run.pool.status (run.seen event)
  unfold act
  split
  · exact accounted
  · simp only [result, calls, stepStatus, ite_self, deletedClaims, filterMap_nil, append_nil]
    exact after

theorem act_of_ok (accounted : run.Accounted config) {step : PoolStep}
    (result : (run.attempt config event).result = .ok step)
    (stores : event.stored → PoolRun.Accounted config
      { pool := step.status
        deleted := run.deleted ++ deletedClaims (run.attempt config event).calls
        confirmed := run.confirmed ++ run.seen event })
    (loses : event.stored = false → (run.attempt config event).calls = []) :
    (run.act config event).Accounted config := by
  have unchanged := accounted.observe run.pool.status (run.seen event)
  unfold act
  split
  · exact accounted
  · cases storedEq : event.stored with
    | true =>
      simp only [if_true, result, stepStatus]
      exact stores storedEq
    | false =>
      simp only [Bool.false_eq_true, if_false, loses storedEq, deletedClaims,
        filterMap_nil, append_nil]
      exact unchanged

theorem seen_of_empty (empty : run.pool.currentBatch = []) : run.seen event = [] := by
  simp [seen, empty, observeEntries, pure, Except.pure, Except.toOption, confirmedClaims]

def startedStep (pool : KarpenterPoolStatus) (totalNodes : Nat) (entries : List CurrentBatchEntry) :
    PoolStep where
  pool := { pool with status := .inProgress, totalNodes, currentBatch := entries }
  after := 30

section

variable (accounted : run.Accounted config)
include accounted

theorem act_delete (empty : run.pool.currentBatch = [])
    {claims : List NodeClaimInfo} {stale names : List String}
    (facts : StaleClaims claims run.pool.completedNodeClaims stale) (sublist : names.Sublist stale)
    (limited : names.length ≤ config.resolveMaxUnavailable (countedNodes run.pool stale))
    (attempted : run.attempt config event =
      { calls := (deleteBatch event.now run.pool.name claims event.answers 0 names).calls
        result := (deleteBatch event.now run.pool.name claims event.answers 0 names).result.map
          (startedStep run.pool (countedNodes run.pool stale)) })
    (whole : event.answers.Refuses 0 ∨ names = [] ∨
      (∀ offset < names.length, event.answers.Deletes offset) ∧ event.stored ∧
        run.pool.replacedNodes + names.length ≤ countedNodes run.pool stale) :
    (run.act config event).Accounted config := by
  have unseen : run.seen event = [] := seen_of_empty empty
  cases names with
  | nil =>
    have noEntries : run.attempt config event =
        { result := .ok (startedStep run.pool (countedNodes run.pool stale) []) } := attempted
    apply accounted.act_of_ok (congrArg Attempt.result noEntries)
    · intro _
      rw [noEntries, unseen]
      simpa [deletedClaims, PoolStep.status, startedStep, empty] using
        accounted.recount empty .inProgress stale
    · intro _
      rw [noEntries]
  | cons name names =>
    rcases whole with refuses | none | ⟨deletes, stored, _⟩
    · have node := facts.node name (sublist.subset mem_cons_self)
      obtain ⟨calls, stop, result⟩ := deleteBatch_of_refuses event.now run.pool.name
        claims names node refuses
      have failed : (run.attempt config event).result = .error stop := by
        rw [attempted]
        simp only [result, Except.map]
      apply accounted.act_of_error failed
      rw [attempted]
      exact calls
    · cases none
    · have whole : ∀ offset < (name :: names).length, event.answers.Deletes (0 + offset) := by
        intro offset inRange
        rw [Nat.zero_add]
        exact deletes offset inRange
      obtain ⟨entries, result, entriesEq, calls⟩ := deleteBatch_of_deletes event.now run.pool.name
        claims whole
      have length : entries.length = (name :: names).length := by
        rw [← entriesEq, CurrentBatchEntry.claims, length_map]
      have started : (run.attempt config event).result =
          .ok (startedStep run.pool (countedNodes run.pool stale) entries) := by
        rw [attempted]
        simp only [result, Except.map]
      apply accounted.act_of_ok started
      · intro _
        rw [attempted, unseen]
        simp only [calls, append_nil, PoolStep.status, startedStep]
        rw [← entriesEq]
        apply accounted.start empty
        · rw [entriesEq]
          exact sublist.nodup facts.distinct
        · intro other member
          rw [entriesEq] at member
          exact facts.fresh other (sublist.subset member)
        · rwa [length]
        · rwa [length]
      · intro lost
        rw [stored] at lost
        cases lost

theorem act_start (empty : run.pool.currentBatch = [])
    (listed : event.Listed) (whole : run.StartsWhole config event) :
    (run.act config event).Accounted config := by
  have attemptEq : run.attempt config event = startNextBatch event.now config event.targetMinor
      { run.pool with status := .inProgress } event.answers := by
    simp [attempt, stepPool, empty]
  have unseen : run.seen event = [] := seen_of_empty empty
  cases resolved : resolveStale event.answers.pool event.targetMinor
      run.pool.completedNodeClaims with
  | error problem =>
    have result : (run.attempt config event).result = .error (.error problem) := by
      simp [attemptEq, startNextBatch, resolved]
    exact accounted.act_of_error result (by simp [attemptEq, startNextBatch, resolved])
  | ok found =>
    obtain ⟨_, stale⟩ := found
    have facts := listed.staleClaims resolved
    have counts : ∀ status, PoolRun.Accounted config
        { pool := { run.pool with status, totalNodes := countedNodes run.pool stale }
          deleted := run.deleted ++ deletedClaims [], confirmed := run.confirmed ++ [] } := by
      intro status
      simpa [deletedClaims] using accounted.recount empty status stale
    cases staleEq : stale with
    | nil =>
      have attempted : run.attempt config event =
          { result := .ok
              { pool :=
                  { run.pool with
                    status := .completed, totalNodes := countedNodes run.pool stale } } } := by
        simp [attemptEq, startNextBatch, resolved, staleEq, countedNodes]
      apply accounted.act_of_ok (congrArg Attempt.result attempted)
      · intro _
        rw [attempted, unseen]
        exact counts .completed
      · intro _
        rw [attempted]
    | cons =>
      have selected : (selectBatch stale run.pool.completedNodeClaims
          (config.resolveMaxUnavailable (countedNodes run.pool stale))).Sublist stale :=
        (take_sublist _ _).trans filter_sublist
      apply accounted.act_delete empty facts selected
      · exact length_selectBatch_le (Nat.le_max_right _ _) _ _
      · rw [attemptEq]
        simp only [startNextBatch, resolved, staleEq, isEmpty_cons, Bool.false_eq_true,
          if_false, countedNodes, empty, nil_append]
        rfl
      · simpa [PoolRun.StartsWhole, nextBatch, resolved] using whole

theorem act_advance (running : run.pool.currentBatch ≠ [])
    (failsLast : ∀ observed ∈ (observeEntries event.answers 0 run.pool.currentBatch).toOption,
      FailsLast event.now (timeoutSeconds config.nodeDrainTimeoutMinutes)
        (timeoutSeconds config.controllerStableTimeoutMinutes) observed) :
    (run.act config event).Accounted config := by
  have attemptEq : run.attempt config event = .ofResult (advanceBatch event.now
      (timeoutSeconds config.nodeDrainTimeoutMinutes)
      (timeoutSeconds config.controllerStableTimeoutMinutes)
      { run.pool with status := .inProgress } event.answers) := by
    simp [attempt, stepPool, running]
  cases advanced : advanceBatch event.now (timeoutSeconds config.nodeDrainTimeoutMinutes)
      (timeoutSeconds config.controllerStableTimeoutMinutes)
      { run.pool with status := .inProgress } event.answers with
  | error problem =>
    have failed : (run.attempt config event).result = .error (.error problem) := by
      rw [attemptEq, advanced]
      rfl
    apply accounted.act_of_error failed
    rw [attemptEq]
    rfl
  | ok step =>
    obtain ⟨observed, seen, records, -⟩ := advanceBatch_eq_ok advanced
    have calls : (run.attempt config event).calls = [] := by
      rw [attemptEq]
      rfl
    have returned : (run.attempt config event).result = .ok step := by
      rw [attemptEq, advanced]
      rfl
    have seenEq : run.seen event = confirmedClaims observed := by
      simp [PoolRun.seen, seen, Except.toOption]
    have observedClaims : claims run.pool.currentBatch = observed.map (·.1.nodeClaim) := by
      rw [← observeEntries_entries seen, claims, List.map_map]
      rfl
    have kept := advanceEntries_perm (failsLast observed (by simp [seen, Except.toOption]))
    have after := accounted.record (observedClaims ▸ kept) (mem_confirmedClaims seen) records
    apply accounted.act_of_ok returned
    · intro _
      rw [calls, seenEq]
      unfold PoolStep.status
      split
      · simpa [deletedClaims] using after.observe .failed []
      · simpa [deletedClaims] using after
    · intro _
      exact calls

theorem act (keeps : KeepsAccount config run event) : (run.act config event).Accounted config := by
  by_cases empty : run.pool.currentBatch = []
  · exact accounted.act_start empty keeps.listed (keeps.startsWhole empty)
  · exact accounted.act_advance empty keeps.failsLast

end

end PoolRun.Accounted

variable {config : KarpenterNodePoolsConfig} {run : PoolRun}

theorem accounted_of_reachable
    (reached : Reachable PoolRun.Initial (PoolRun.Step config) (KeepsAccount config) run) :
    run.Accounted config := by
  apply reached.invariant
  · exact fun run begins => .of_initial begins
  · intro _ _ _ accounted keeps taken
    rw [taken]
    exact accounted.act keeps

/-- The claims that are deleted and whose replacement was not seen. -/
def PoolRun.unavailable (run : PoolRun) : Finset String :=
  run.deleted.toFinset \ run.confirmed.toFinset

theorem PoolRun.Accounted.card_unavailable_le (accounted : run.Accounted config) :
    run.unavailable.card ≤ config.resolveMaxUnavailable run.pool.totalNodes := by
  have inBatch : run.unavailable ⊆ (claims run.pool.currentBatch).toFinset := by
    intro name member
    obtain ⟨deleted, unseen⟩ := Finset.mem_sdiff.mp member
    rcases mem_append.mp (accounted.deleted name (mem_toFinset.mp deleted)) with
      current | done
    · exact mem_toFinset.mpr current
    · exact absurd (mem_toFinset.mpr (accounted.confirmed name done)) unseen
  calc run.unavailable.card
      ≤ (claims run.pool.currentBatch).toFinset.card :=
        Finset.card_le_card inBatch
    _ ≤ (claims run.pool.currentBatch).length := toFinset_card_le _
    _ = run.pool.currentBatch.length := length_map _
    _ ≤ config.resolveMaxUnavailable run.pool.totalNodes := accounted.limited

/-- In every run in which batches are started as a whole and only the last entry of a batch
times out, no more claims are unavailable than allowed, every deleted claim is either in the
batch or done, and the numbers agree. -/
theorem deletedClaims_accounted (config : KarpenterNodePoolsConfig) (run : PoolRun)
    (reached : Reachable PoolRun.Initial (PoolRun.Step config) (KeepsAccount config) run) :
    run.unavailable.card ≤ config.resolveMaxUnavailable run.pool.totalNodes ∧
    (∀ name ∈ run.deleted, Xor (name ∈ claims run.pool.currentBatch)
      (name ∈ run.pool.completedNodeClaims)) ∧
    run.pool.replacedNodes = run.pool.completedNodeClaims.length ∧
    run.pool.replacements.length = run.pool.completedNodeClaims.length ∧
    run.pool.replacedNodes ≤ run.pool.totalNodes := by
  have accounted := accounted_of_reachable reached
  refine ⟨accounted.card_unavailable_le, ?_, accounted.replaced, accounted.replacements, ?_⟩
  · intro name deleted
    have apart := disjoint_of_nodup_append accounted.distinct
    rcases mem_append.mp (accounted.deleted name deleted) with current | done
    · exact .inl ⟨current, apart current⟩
    · exact .inr ⟨done, fun current => apart current done⟩
  · have total := accounted.total
    omega

/-! ## Runs that lose claims -/

instance (event : PoolEvent) : Decidable event.Listed :=
  inferInstanceAs (Decidable (∀ claims ∈ _, _))

/-- Answers of a cluster in which the named claims are on old nodes; each claim can be deleted,
and is gone at once unless it is said to stay. -/
def oldNodes (names : List String) (stays : Nat → Bool) : KarpenterAnswers where
  client := .ok ()
  pool :=
    { claims := .ok (names.map fun name => { name, nodeName := some name })
      kubelet := fun _ => .ok (some "v1.32.0") }
  controllers _ := .ok []
  delete _ := .deleted
  nodeclaimExists index := .ok (stays index)
  controllersStable _ := .ok true
  claims := .ok []

def poolEvent (now : Instant) (names : List String) (stays : Nat → Bool) (stored : Bool) :
    PoolEvent where
  now := now
  targetMinor := 33
  answers := oldNodes names stays
  stored := stored

def plannedPool (totalNodes : Nat) : PoolRun where
  pool := { name := "default", status := .pending, totalNodes }

theorem plannedPool_initial {totalNodes : Nat} (fits : totalNodes < size) :
    (plannedPool totalNodes).Initial :=
  ⟨⟨"default", totalNodes, fits, rfl⟩, rfl, rfl⟩

/-- A claim deleted before a lost patch is forgotten and another one is deleted beside it; a
claim behind one that times out is forgotten; and more nodes are replaced than were counted. -/
theorem deletedClaims_lost :
    (∃ run, Reachable PoolRun.Initial (PoolRun.Step {}) (fun _ event => event.Listed) run ∧
      KarpenterNodePoolsConfig.resolveMaxUnavailable {} run.pool.totalNodes < run.unavailable.card ∧
      "a" ∈ run.deleted ∧
      "a" ∉ claims run.pool.currentBatch ++ run.pool.completedNodeClaims) ∧
    (∃ run, Reachable PoolRun.Initial (PoolRun.Step { maxUnavailable := "2" })
        (fun _ event => event.Listed) run ∧
      "b" ∈ run.deleted ∧
      "b" ∉ claims run.pool.currentBatch ++ run.pool.completedNodeClaims) ∧
    (∃ run, Reachable PoolRun.Initial (PoolRun.Step {}) (fun _ event => event.Listed) run ∧
      run.pool.totalNodes < run.pool.replacedNodes) := by
  refine ⟨?_, ?_, ?_⟩
  · apply exists_of_follow (fun run event => some (run.act {} event))
      [poolEvent 0 ["a", "b", "c"] (fun _ => false) false,
        poolEvent 0 ["b", "c"] (fun _ => false) true]
      (plannedPool_initial (show 3 < size by decide))
    · exact fun run event after acted => (some.inj acted).symm
    · decide +kernel
  · apply exists_of_follow
      (fun run event => some (run.act { maxUnavailable := "2" } event))
      [poolEvent 0 ["a", "b"] (fun _ => true) true,
        poolEvent 1000000000000 [] (fun _ => true) true]
      (plannedPool_initial (show 2 < size by decide))
    · exact fun run event after acted => (some.inj acted).symm
    · decide +kernel
  · apply exists_of_follow (fun run event => some (run.act {} event))
      [poolEvent 0 ["a"] (fun _ => false) true, poolEvent 0 [] (fun _ => false) true,
        poolEvent 0 ["b"] (fun _ => false) true, poolEvent 0 [] (fun _ => false) true]
      (plannedPool_initial (show 1 < size by decide))
    · exact fun _ _ _ acted => (some.inj acted).symm
    · decide +kernel

instance (answers : KarpenterAnswers) (index : Nat) : Decidable (answers.Refuses index) :=
  inferInstanceAs (Decidable (_ ∨ _))

instance (answers : KarpenterAnswers) (index : Nat) : Decidable (answers.Deletes index) :=
  inferInstanceAs (Decidable (_ ∧ _))

instance (now : Instant) (drainTo stableTo : Int)
    (observed : List (CurrentBatchEntry × Bool × Bool)) :
    Decidable (FailsLast now drainTo stableTo observed) :=
  inferInstanceAs (Decidable (∀ seen ∈ _, _))

instance (config : KarpenterNodePoolsConfig) (run : PoolRun) (event : PoolEvent) :
    Decidable (run.StartsWhole config event) :=
  inferInstanceAs (Decidable (_ ∨ _ ∨ _ ∧ _ ∧ _))

instance (config : KarpenterNodePoolsConfig) (run : PoolRun) (event : PoolEvent) :
    Decidable (KeepsAccount config run event) :=
  decidable_of_iff (event.Listed ∧ (run.pool.currentBatch = [] → run.StartsWhole config event) ∧
      ∀ observed ∈ (observeEntries event.answers 0 run.pool.currentBatch).toOption,
        FailsLast event.now (timeoutSeconds config.nodeDrainTimeoutMinutes)
          (timeoutSeconds config.controllerStableTimeoutMinutes) observed)
    ⟨fun facts => ⟨facts.1, facts.2.1, facts.2.2⟩,
      fun keeps => ⟨keeps.listed, keeps.startsWhole, keeps.failsLast⟩⟩

theorem deletedClaims_accounted_pair :
    ∃ run : PoolRun, run.deleted = ["a", "b"] ∧ run.pool.completedNodeClaims = ["a"] ∧
      run.unavailable.card ≤ KarpenterNodePoolsConfig.resolveMaxUnavailable {} run.pool.totalNodes ∧
      run.pool.replacedNodes ≤ run.pool.totalNodes := by
  have follows : ∃ run, Reachable PoolRun.Initial (PoolRun.Step {}) (KeepsAccount {}) run ∧
      run.deleted = ["a", "b"] ∧ run.pool.completedNodeClaims = ["a"] := by
    apply exists_of_follow (fun run event => some (run.act {} event))
      [poolEvent 0 ["a", "b"] (fun _ => false) true, poolEvent 0 [] (fun _ => false) true,
        poolEvent 0 ["b"] (fun _ => false) true]
      (plannedPool_initial (show 2 < size by decide))
    · exact fun run _ _ acted => (some.inj acted).symm
    · decide +kernel
  obtain ⟨run, reached, deleted, completed⟩ := follows
  obtain ⟨limited, -, -, -, total⟩ := deletedClaims_accounted {} run reached
  exact ⟨run, deleted, completed, limited, total⟩

/-- The control plane step fails for the timeout, whatever EKS would answer, exactly when the
minutes of the update are over. -/
def ControlPlaneExact (spec : EksUpgradeSpec) (minutes : Nat) : Prop :=
  ∀ now current controlPlane started target updateId, controlPlane.startedAt = some started →
    ((∀ answers, (pollControlPlane now spec current controlPlane target updateId answers).result =
        .ok (controlPlaneTimeout now current controlPlane target updateId minutes, none)) ↔
      (minutes : Int) ≤ numMinutes (now - started))

def NodegroupsExact (spec : EksUpgradeSpec) (minutes : Nat) : Prop :=
  ∀ now current index group started, findActiveNodegroup current = some index →
    current.phases.nodegroups[index]? = some group → group.status = .inProgress →
    group.startedAt = some started →
    ((∀ answers, executeNodegroups now spec current answers =
        .ok (nodegroupTimeout now current index group minutes, none)) ↔
      (minutes : Int) ≤ numMinutes (now - started))

/-- An entry of a batch has passed its limit. -/
def Overdue (config : KarpenterNodePoolsConfig) (now : Instant)
    (seen : CurrentBatchEntry × Bool × Bool) : Prop :=
  let drain := config.nodeDrainTimeoutMinutes * 60
  let stable := config.controllerStableTimeoutMinutes * 60
  if seen.1.state = .draining ∧ seen.2.1 = true then
    (drain : Int) < elapsedSecs seen.1.startedAt now
  else seen.2.2 = false ∧ (drain + stable : Nat) < elapsedSecs seen.1.startedAt now

/-- The step of a batch fails exactly when an entry has passed its limit. -/
def KarpenterExact (config : KarpenterNodePoolsConfig) : Prop :=
  ∀ now targetMinor pool answers observed step, pool.currentBatch ≠ [] →
    observeEntries answers 0 pool.currentBatch = .ok observed →
    (∀ seen ∈ observed, elapsedSecs seen.1.startedAt now ≤ Int64.maxValue.toInt) →
    (stepPool now config targetMinor pool answers).result = .ok step →
    (step.failure.isSome ↔ ∃ seen ∈ observed, Overdue config now seen)

theorem isTimedOut_iff {minutes : Nat} (small : minutes < 9223372036854775808)
    (now started : Instant) :
    isTimedOut now (some started) minutes = true ↔
      (minutes : Int) ≤ numMinutes (now - started) := by
  simp [isTimedOut, asI64, Int64.toInt_ofNat_of_lt small]

/-- A limit that does not fit is negative, and reached at once. -/
theorem isTimedOut_at_once (minutes : UInt64) (large : ¬ minutes.toNat < 9223372036854775808) :
    isTimedOut 0 (some 0) minutes.toNat = true ∧ ¬ (minutes.toNat : Int) ≤ numMinutes (0 - 0) := by
  have fits := minutes.toNat_lt
  have size : (Int64.size : Int) = 18446744073709551616 := rfl
  have elapsed : numMinutes (0 - 0) = 0 := rfl
  rw [isTimedOut, Option.any_some, asI64, Int64.toInt_ofNat', Int.bmod, size, elapsed,
    decide_eq_true_eq]
  omega

theorem controlPlaneExact_iff {spec : EksUpgradeSpec} {minutes : UInt64}
    (limit : (spec.timeouts.map (·.controlPlaneMinutes)).getD 30 = minutes.toNat) :
    ControlPlaneExact spec minutes.toNat ↔ minutes.toNat < 9223372036854775808 := by
  constructor
  · intro exact
    by_contra large
    obtain ⟨late, early⟩ := isTimedOut_at_once minutes large
    apply early ((exact 0 {} { startedAt := some 0 } 0 "" "" rfl).mp _)
    simp [pollControlPlane, limit, late]
  · intro small now current controlPlane started target updateId startedEq
    rw [← isTimedOut_iff small, ← startedEq]
    refine ⟨fun always => ?_, fun late => by simp [pollControlPlane, limit, late]⟩
    by_contra early
    have polled := always ⟨.error (.other ""), .refused (.other "")⟩
    simp [pollControlPlane, limit, early] at polled

theorem nodegroupsExact_iff {spec : EksUpgradeSpec} {minutes : UInt64}
    (limit : (spec.timeouts.map (·.nodegroupMinutes)).getD 60 = minutes.toNat) :
    NodegroupsExact spec minutes.toNat ↔ minutes.toNat < 9223372036854775808 := by
  constructor
  · intro exact
    by_contra large
    obtain ⟨late, early⟩ := isTimedOut_at_once minutes large
    let group : NodegroupStatus :=
      { name := "", currentVersion := "", targetVersion := "", status := .inProgress
        startedAt := some 0 }
    apply early ((exact 0 { phases := { nodegroups := [group] } } 0 group 0 rfl rfl rfl rfl).mp _)
    intro answers
    change (if isTimedOut 0 (some 0) ((spec.timeouts.map (·.nodegroupMinutes)).getD 60) then _
      else _) = _
    rw [limit, late]
    rfl
  · intro small now current index group started active atIndex running startedEq
    rw [← isTimedOut_iff small, ← startedEq]
    simp only [executeNodegroups, active, atIndex, running, limit]
    refine ⟨fun always => ?_, fun late => by simp [late, pure, Except.pure]⟩
    by_contra early
    have polled := always ⟨.error (.other ""), .error (.other "")⟩
    simp [early, bind, Except.bind] at polled

theorem advanceEntries_failure {now : Instant} {drainTo stableTo : Int}
    (observed : List (CurrentBatchEntry × Bool × Bool)) :
    (advanceEntries now drainTo stableTo observed).failure.isSome ↔
      ∃ seen ∈ observed, (seenOutcome now drainTo stableTo seen).isFailed = true := by
  induction observed with
  | nil => simp [advanceEntries]
  | cons seen observed ih =>
    obtain ⟨entry, nodeExists, controllersStable⟩ := seen
    rw [exists_mem_cons_iff, ← ih, seenOutcome]
    cases outcome : decideEntry entry.state nodeExists controllersStable
        (elapsedSecs entry.startedAt now) drainTo stableTo with
    | draining | waitStable | done | failed =>
      simp [advanceEntries, outcome, EntryOutcome.isFailed]

theorem isFailed_seenOutcome {now : Instant} {drainTo stableTo : Int}
    {seen : CurrentBatchEntry × Bool × Bool} :
    (seenOutcome now drainTo stableTo seen).isFailed = true ↔
      if seen.1.state = .draining ∧ seen.2.1 = true then
        drainTo < elapsedSecs seen.1.startedAt now
      else seen.2.2 = false ∧ addI64 drainTo stableTo < elapsedSecs seen.1.startedAt now := by
  unfold seenOutcome decideEntry
  split_ifs <;> simp_all [EntryOutcome.isFailed]

theorem timeoutSeconds_fits (minutes : Nat) :
    0 ≤ timeoutSeconds minutes ∧ timeoutSeconds minutes ≤ 9223372036854775807 := by
  have largest : Int64.maxValue.toInt = 9223372036854775807 := rfl
  unfold timeoutSeconds
  omega

theorem karpenterExact_iff (config : KarpenterNodePoolsConfig) :
    KarpenterExact config ↔ timeoutSeconds config.nodeDrainTimeoutMinutes +
      timeoutSeconds config.controllerStableTimeoutMinutes ≤ Int64.maxValue.toInt := by
  have largest : Int64.maxValue.toInt = 9223372036854775807 := rfl
  constructor
  · intro exact
    by_contra large
    have wrapped : addI64 (timeoutSeconds config.nodeDrainTimeoutMinutes)
        (timeoutSeconds config.controllerStableTimeoutMinutes) < 0 := by
      have size : (Int64.size : Int) = 18446744073709551616 := rfl
      rw [addI64, Int64.toInt_ofInt, Int.bmod, size]
      have drain := timeoutSeconds_fits config.nodeDrainTimeoutMinutes
      have stable := timeoutSeconds_fits config.controllerStableTimeoutMinutes
      omega
    let pool : KarpenterPoolStatus :=
      { name := "", status := .inProgress
        currentBatch := [{ nodeClaim := "", state := .waitingControllerStable }] }
    let answers := { oldNodes [] fun _ => false with controllersStable := fun _ => .ok false }
    obtain ⟨step, ran, failed⟩ : ∃ step, (stepPool 0 config 0 pool answers).result = .ok step ∧
        step.failure.isSome := by
      simp [stepPool, pool, Attempt.ofResult, advanceBatch, answers, oldNodes, observeEntries,
        observeControllers, advanceEntries, decideEntry, elapsedSecs, wrapped, recordProgress,
        bind, Except.bind, pure, Except.pure, Except.mapError]
    obtain ⟨seen, member, overdue⟩ :=
      (exact 0 0 pool answers _ step (by simp [pool]) rfl (by decide) ran).mp failed
    cases mem_singleton.mp member
    have passed : ((_ : Nat) : Int) < 0 := overdue.2
    omega
  · intro limits now targetMinor pool answers observed step running seen elapsed ran
    have advanced : advanceBatch now (timeoutSeconds config.nodeDrainTimeoutMinutes)
        (timeoutSeconds config.controllerStableTimeoutMinutes) pool answers = .ok step := by
      rw [stepPool, if_neg (by simpa using running)] at ran
      exact mapError_eq_ok ran
    obtain ⟨_, seenAgain, -, failureEq⟩ := advanceBatch_eq_ok advanced
    cases seen.symm.trans seenAgain
    rw [failureEq, advanceEntries_failure]
    refine exists_congr fun entry => and_congr_right fun member => ?_
    have short := elapsed entry member
    have drain := timeoutSeconds_fits config.nodeDrainTimeoutMinutes
    have stable := timeoutSeconds_fits config.controllerStableTimeoutMinutes
    rw [isFailed_seenOutcome, Overdue, addI64, Int64.toInt_ofInt_of_le (by omega) (by omega)]
    unfold timeoutSeconds at limits ⊢
    split
    · omega
    · exact and_congr_right fun _ => by omega

/-- A limit of 2^63 minutes is over at once, and so is the sum of two Karpenter limits that do not
fit a signed number of seconds together. -/
theorem timeouts_wrap :
    isTimedOut 0 (some 0) 9223372036854775808 = true ∧
      (decideEntry .waitingControllerStable false false 0 (timeoutSeconds 9223372036854775807)
        (timeoutSeconds 10)).isFailed = true := by
  decide +kernel

/-- The limits hold at every time exactly when the minutes fit a signed 64-bit number, and so
does the sum of the Karpenter limits in seconds. -/
theorem timeouts_exact_iff (spec : EksUpgradeSpec) (config : KarpenterNodePoolsConfig)
    (controlPlane nodegroup : UInt64) :
    let limited := { spec with
      timeouts := some
        { controlPlaneMinutes := controlPlane.toNat, nodegroupMinutes := nodegroup.toNat } }
    (ControlPlaneExact limited controlPlane.toNat ↔ controlPlane.toNat < 9223372036854775808) ∧
    (NodegroupsExact limited nodegroup.toNat ↔ nodegroup.toNat < 9223372036854775808) ∧
    (KarpenterExact config ↔ timeoutSeconds config.nodeDrainTimeoutMinutes +
      timeoutSeconds config.controllerStableTimeoutMinutes ≤ Int64.maxValue.toInt) :=
  ⟨controlPlaneExact_iff rfl, nodegroupsExact_iff rfl, karpenterExact_iff config⟩

end Addons.EksUpgrade
