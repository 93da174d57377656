import Addons.ReconcileOutcomes
import Mathlib.Data.List.Nodup

/-!
# Batches of replacements

What the functions of the Karpenter phase do to the claims of a batch: which ones are selected,
deleted, kept and recorded.
-/

namespace Addons.EksUpgrade

open Transaction List

/-- A NodePool as it is stored, with the claims that were deleted for it and the claims whose
replacement was seen: the claim gone and the controllers of its pods recovered. -/
structure PoolRun where
  pool : KarpenterPoolStatus
  deleted : List String := []
  confirmed : List String := []
deriving DecidableEq

structure PoolEvent where
  now : Instant
  targetMinor : Nat
  answers : KarpenterAnswers
  /-- Whether the patch with the next status reaches the server. -/
  stored : Bool

def Call.deletedClaim : Call → Option String
  | nodeClaimDeleted _ claim => some claim
  | _ => none

def deletedClaims (calls : List Call) : List String := calls.filterMap Call.deletedClaim

/-- The claims that are seen to be gone with their controllers recovered. -/
def confirmedClaims (observed : List (CurrentBatchEntry × Bool × Bool)) : List String :=
  (observed.filter fun seen => !seen.2.1 && seen.2.2).map (·.1.nodeClaim)

def PoolStep.status (step : PoolStep) : KarpenterPoolStatus :=
  match step.failure with
  | some _ => { step.pool with status := .failed }
  | none => step.pool

/-- The stored NodePool after a step whose patch reaches the server. -/
def stepStatus (pool : KarpenterPoolStatus) : Except Stop PoolStep → KarpenterPoolStatus
  | .ok step => step.status
  | .error _ => pool

/-- Whether the NodePool needs no more work. -/
def KarpenterPoolStatus.isOver (pool : KarpenterPoolStatus) : Bool :=
  pool.status.isDone || pool.status == .failed

/-- The handler's step of the NodePool. -/
def PoolRun.attempt (config : KarpenterNodePoolsConfig) (run : PoolRun) (event : PoolEvent) :
    Attempt PoolStep :=
  stepPool event.now config event.targetMinor { run.pool with status := .inProgress } event.answers

/-- The claims of the batch whose replacement is seen in a step. -/
def PoolRun.seen (run : PoolRun) (event : PoolEvent) : List String :=
  (observeEntries event.answers 0 run.pool.currentBatch).toOption.elim [] confirmedClaims

def PoolRun.act (config : KarpenterNodePoolsConfig) (run : PoolRun) (event : PoolEvent) : PoolRun :=
  if run.pool.isOver then run
  else
    { pool :=
        if event.stored then stepStatus run.pool (run.attempt config event).result else run.pool
      deleted := run.deleted ++ deletedClaims (run.attempt config event).calls
      confirmed := run.confirmed ++ run.seen event }

/-- A NodePool as planning leaves it. -/
structure PoolRun.Initial (run : PoolRun) : Prop where
  planned : ∃ name totalNodes, totalNodes < UInt32.size ∧
    run.pool = { name, status := .pending, totalNodes }
  deleted : run.deleted = []
  confirmed : run.confirmed = []

def PoolRun.Step (config : KarpenterNodePoolsConfig) (run : PoolRun) (event : PoolEvent)
    (after : PoolRun) : Prop :=
  after = run.act config event

/-! ## The NodePools of a resource -/

theorem clampU32_lt (number : Nat) : clampU32 number < UInt32.size := by
  have positive : 0 < UInt32.size := by decide
  unfold clampU32
  omega

theorem planPools_initial {targetMinor : Option Nat} {answers : Nat → PoolAnswers} {index : Nat}
    {names : List String} {pools : List KarpenterPoolStatus}
    (planned : planPools targetMinor answers index names = .ok pools) :
    ∀ pool ∈ pools, PoolRun.Initial { pool } := by
  induction names generalizing index pools with
  | nil =>
    cases planned
    intro pool member
    cases member
  | cons name _ ih =>
    obtain ⟨totalNodes, counted, rest⟩ := bind_eq_ok planned
    obtain ⟨_, plannedLater, made⟩ := bind_eq_ok rest
    cases made
    intro pool member
    rcases mem_cons.mp member with rfl | member
    · refine ⟨⟨name, totalNodes, ?_, rfl⟩, rfl, rfl⟩
      cases targetMinor with
      | none =>
        cases counted
        decide
      | some =>
        obtain ⟨_, -, rfl⟩ := map_eq_ok counted
        exact clampU32_lt _
    · exact ih plannedLater pool member

/-- The reconcile of a resource as a step of its active NodePool. -/
def Answers.poolEvent (answers : Answers) (targetMinor : Nat) : PoolEvent where
  now := answers.now
  targetMinor := targetMinor
  answers := answers.karpenter
  stored := answers.stored

section ActivePool

variable {spec : EksUpgradeSpec} {config : KarpenterNodePoolsConfig}
  {karpenter : KarpenterNodePoolsStatus} {index targetMinor : Nat} {pool : KarpenterPoolStatus}

theorem isOver_of_activePoolIndex (active : activePoolIndex karpenter.pools = some index)
    (atIndex : karpenter.pools[index]? = some pool) : pool.isOver = false := by
  obtain ⟨inRange, needsWork, -⟩ := findIdx?_eq_some_iff_getElem.mp active
  have poolEq : karpenter.pools[index] = pool := by
    rw [getElem?_eq_getElem inRange] at atIndex
    exact Option.some.inj atIndex
  rw [poolEq] at needsWork
  simpa [KarpenterPoolStatus.isOver] using needsWork

theorem merge_karpenter {phases : PhaseStatuses} {stepped : KarpenterNodePoolsStatus}
    (present : phases.karpenterNodePools = some karpenter)
    (strategy : stepped.strategy = karpenter.strategy)
    (pools : stepped.pools.length = karpenter.pools.length) :
    phasesSchema.merge phases { phases with karpenterNodePools := some stepped } =
      { phases with karpenterNodePools := some stepped } := by
  have merged : karpenterNodePoolsSchema.merge karpenter stepped = stepped := by
    apply karpenterNodePoolsSchema_merge_eq
    · intro empty
      rw [← strategy, empty]
    · intro empty
      rw [empty, length_nil] at pools
      exact length_eq_zero_iff.mp pools.symm
  apply phasesSchema_merge_eq <;> simp [present, merged]

theorem storeStatus_phases {status server new : EksUpgradeStatus} (stored : Bool)
    (atServer : SamePoint status server) (same : new.phases = status.phases) :
    (storeStatus stored server new).phases = status.phases := by
  cases stored with
  | false => exact atServer.phases
  | true => simp [storeStatus, atServer.phases, same, phasesSchema_merge_self]

/-- A reconcile in the Karpenter phase is a step of the active NodePool. -/
theorem reconcile_pool {answers : Answers} {resource : Resource}
    (runs : (reconcile answers resource).exit = .dispatched .upgradingKarpenterNodePools)
    (configured : resource.spec.karpenterNodePools = some config)
    (present : resource.status.phases.karpenterNodePools = some karpenter)
    (active : activePoolIndex karpenter.pools = some index)
    (atIndex : karpenter.pools[index]? = some pool) (client : answers.karpenter.client = .ok ())
    (target : parseMinor resource.spec.targetVersion = some targetMinor) :
    let after := ({ pool } : PoolRun).act config (answers.poolEvent targetMinor)
    deletedClaims (reconcile answers resource).calls = after.deleted ∧
      ∃ stepped, (reconcile answers resource).status.phases.karpenterNodePools = some stepped ∧
        stepped.pools = karpenter.pools.set index after.pool := by
  rcases reconcile_cases answers resource with ⟨_, atServer, served⟩ | ⟨quiet, -, -⟩
  swap
  · exact absurd runs (quiet _)
  rw [served, exit_serve] at runs
  have inPhase := Exit.dispatched.inj runs
  have handled : dispatch answers resource.spec resource.status resource.status.currentPhase =
      executeKarpenter answers.now resource.spec resource.status answers.karpenter := by
    rw [inPhase]
    rfl
  simp only [executeKarpenter, configured, present, active, client, target, atIndex] at handled
  have working := isOver_of_activePoolIndex active atIndex
  have unchanged : karpenter.pools = karpenter.pools.set index pool :=
    (set_eq_of_getElem? atIndex).symm
  rw [served]
  constructor
  · rw [calls_serve, handled]
    simp [PoolRun.act, PoolRun.attempt, working, Answers.poolEvent]
  · cases result : (stepPool answers.now config targetMinor { pool with status := .inProgress }
        answers.karpenter).result with
    | error stop =>
      have unmoved : (({ pool } : PoolRun).act config (answers.poolEvent targetMinor)).pool =
          pool := by
        simp [PoolRun.act, PoolRun.attempt, working, Answers.poolEvent, result, stepStatus]
      rw [unmoved, ← unchanged]
      refine ⟨karpenter, ?_, rfl⟩
      rw [← present]
      apply congrArg PhaseStatuses.karpenterNodePools
      cases stop with
      | error =>
        simp only [serve, handled, result, Except.map]
        apply storeStatus_phases _ atServer
        unfold failStatus
        split <;> rfl
      | panic =>
        simp only [serve, handled, result, Except.map]
        exact atServer.phases
    | ok step =>
      obtain ⟨stepped, phasesEq, poolsEq, strategyEq⟩ : ∃ stepped,
          (storePoolStep answers.now resource.status karpenter index pool.name step).1.phases =
            { resource.status.phases with karpenterNodePools := some stepped } ∧
          stepped.pools = karpenter.pools.set index step.status ∧
          stepped.strategy = karpenter.strategy := by
        unfold storePoolStep PoolStep.status
        cases step.failure with
        | none | some => exact ⟨_, rfl, rfl, rfl⟩
      simp only [serve, handled, result, Except.map]
      cases storedEq : answers.stored with
      | false =>
        refine ⟨karpenter, ?_, ?_⟩
        · rw [← present, ← atServer.phases]
          rfl
        · simpa [PoolRun.act, working, Answers.poolEvent, storedEq] using unchanged
      | true =>
        refine ⟨stepped, ?_, ?_⟩
        · simp only [storeStatus, if_true, patchStatus_phases, stampStatus, phasesEq,
            atServer.phases]
          rw [merge_karpenter present strategyEq (by simp [poolsEq])]
        · simp [PoolRun.act, PoolRun.attempt, working, Answers.poolEvent, storedEq, result,
            stepStatus, poolsEq]

end ActivePool

open CurrentBatchEntry

def CurrentBatchEntry.claims (entries : List CurrentBatchEntry) : List String :=
  entries.map (·.nodeClaim)

/-! ## Deleting a batch -/

def Deletion.isDeleted : Deletion → Bool
  | deleted => true
  | _ => false

def Deletion.isRefused : Deletion → Bool
  | refused _ => true
  | _ => false

/-- The requests for one claim of a batch are answered, and the claim is deleted. -/
def KarpenterAnswers.Deletes (answers : KarpenterAnswers) (index : Nat) : Prop :=
  (answers.controllers index).isOk = true ∧ (answers.delete index).isDeleted = true

/-- A request for a claim of a batch fails before the claim is deleted. -/
def KarpenterAnswers.Refuses (answers : KarpenterAnswers) (index : Nat) : Prop :=
  (answers.controllers index).isOk = false ∨ (answers.delete index).isRefused = true

section Deleting

variable (now : Instant) (pool : String) (claims : List NodeClaimInfo)
  {answers : KarpenterAnswers}

/-- A batch whose requests are all answered is deleted and recorded as a whole. -/
theorem deleteBatch_of_deletes {index : Nat} {names : List String}
    (deletes : ∀ offset < names.length, answers.Deletes (index + offset)) :
    ∃ entries, (deleteBatch now pool claims answers index names).result = .ok entries ∧
      CurrentBatchEntry.claims entries = names ∧
      deletedClaims (deleteBatch now pool claims answers index names).calls = names := by
  induction names generalizing index with
  | nil => exact ⟨[], rfl, rfl, rfl⟩
  | cons name names ih =>
    have later : ∀ offset < names.length, answers.Deletes (index + 1 + offset) := by
      intro offset inRange
      have deleted := deletes (offset + 1) (by simpa using inRange)
      rwa [show index + 1 + offset = index + (offset + 1) by omega]
    obtain ⟨_, result, entriesEq, calls⟩ := ih later
    obtain ⟨owned, gone⟩ := deletes 0 (by simp)
    rw [Nat.add_zero] at owned gone
    cases controllersEq : answers.controllers index with
    | error =>
      rw [controllersEq] at owned
      cases owned
    | ok controllers =>
      cases deleteEq : answers.delete index with
      | refused | unanswered =>
        rw [deleteEq] at gone
        cases gone
      | deleted =>
        have owners : ∀ named : Bool, ∃ owners, (if named then Except.ok controllers else .ok []) =
              (Except.ok owners : Except HandlerError (List ControllerRef)) := by
          intro named
          cases named with
          | false => exact ⟨[], rfl⟩
          | true => exact ⟨controllers, rfl⟩
        obtain ⟨_, foundEq⟩ :=
          owners (((claims.find? fun claim => claim.name == name).bind (·.nodeName)).isSome)
        simp only [deleteBatch, controllersEq, foundEq, deleteEq, result, Except.map]
        refine ⟨_, rfl, ?_, ?_⟩
        · simp [CurrentBatchEntry.claims, ← entriesEq]
        · simpa [deletedClaims, Call.deletedClaim] using calls

theorem deleteBatch_of_refuses {index : Nat} {name : String} (names : List String)
    (node : ((claims.find? fun claim => claim.name == name).bind (·.nodeName)).isSome)
    (refuses : answers.Refuses index) :
    (deleteBatch now pool claims answers index (name :: names)).calls = [] ∧
      ∃ stop, (deleteBatch now pool claims answers index (name :: names)).result = .error stop := by
  cases controllersEq : answers.controllers index with
  | error =>
    simp only [deleteBatch, node, if_true, controllersEq]
    exact ⟨trivial, _, rfl⟩
  | ok =>
    have refused : (answers.delete index).isRefused := by
      rcases refuses with unowned | refused
      · rw [controllersEq] at unowned
        cases unowned
      · exact refused
    cases deleteEq : answers.delete index with
    | refused =>
      simp only [deleteBatch, node, if_true, controllersEq, deleteEq]
      exact ⟨trivial, _, rfl⟩
    | unanswered | deleted =>
      rw [deleteEq] at refused
      cases refused

end Deleting

/-! ## The stale claims -/

section Stale

variable {kubelet : Nat → Except HandlerError (Option String)} {index targetMinor : Nat}
  {claims : List NodeClaimInfo} {candidates : List (String × Option String)}
  {completed : List String}

theorem readKubelets_names (read : readKubelets kubelet index claims = .ok candidates) :
    candidates.map (·.1) = claims.map (·.name) := by
  induction claims generalizing index candidates with
  | nil =>
    cases read
    rfl
  | cons _ _ ih =>
    obtain ⟨_, -, rest⟩ := bind_eq_ok read
    obtain ⟨_, readLater, made⟩ := bind_eq_ok rest
    cases made
    simp [ih readLater]

variable {name : String}

theorem readKubelets_node (read : readKubelets kubelet index claims = .ok candidates)
    {version : String} (member : (name, some version) ∈ candidates) :
    ∃ claim ∈ claims, claim.name = name ∧ claim.nodeName.isSome := by
  induction claims generalizing index candidates with
  | nil =>
    cases read
    cases member
  | cons claim _ ih =>
    obtain ⟨_, readFound, rest⟩ := bind_eq_ok read
    obtain ⟨_, readLater, made⟩ := bind_eq_ok rest
    cases made
    rcases mem_cons.mp member with same | member
    · cases same
      refine ⟨claim, mem_cons_self, rfl, ?_⟩
      by_contra nodeless
      simp [readKubelet, nodeless, pure, Except.pure] at readFound
    · obtain ⟨other, inLater, facts⟩ := ih readLater member
      exact ⟨other, mem_cons_of_mem _ inLater, facts⟩

theorem mem_staleTargets (member : name ∈ staleTargets candidates completed targetMinor) :
    name ∉ completed ∧ ∃ version, (name, some version) ∈ candidates := by
  obtain ⟨candidate, kept, rfl⟩ := mem_map.mp member
  obtain ⟨inCandidates, fits⟩ := mem_filter.mp kept
  obtain ⟨_, found⟩ := candidate
  cases found with
  | none => simp at fits
  | some version =>
    simp only [Bool.and_eq_true, Bool.not_eq_true', contains_eq_mem,
      decide_eq_false_iff_not] at fits
    exact ⟨fits.1, version, inCandidates⟩

theorem find?_node (distinct : (claims.map (·.name)).Nodup)
    (named : ∃ claim ∈ claims, claim.name = name ∧ claim.nodeName.isSome) :
    ((claims.find? fun claim => claim.name == name).bind (·.nodeName)).isSome := by
  obtain ⟨claim, member, nameEq, node⟩ := named
  cases found : claims.find? fun claim => claim.name == name with
  | none =>
    have absent := find?_eq_none.mp found claim member
    simp [nameEq] at absent
  | some other =>
    have sameName : other.name = name := by simpa using find?_some found
    have same : other = claim :=
      inj_on_of_nodup_map distinct (mem_of_find?_eq_some found) member (sameName.trans nameEq.symm)
    simpa [same] using node

end Stale

/-- The names of the listed claims differ. -/
def PoolEvent.Listed (event : PoolEvent) : Prop :=
  ∀ claims ∈ event.answers.pool.claims.toOption, (claims.map (·.name)).Nodup

structure StaleClaims (claims : List NodeClaimInfo) (completed stale : List String) : Prop where
  distinct : stale.Nodup
  fresh : ∀ name ∈ stale, name ∉ completed
  node : ∀ name ∈ stale,
    ((claims.find? fun claim => claim.name == name).bind (·.nodeName)).isSome = true

theorem PoolEvent.Listed.staleClaims {event : PoolEvent} (listed : event.Listed)
    {completed stale : List String} {claims : List NodeClaimInfo}
    (resolved : resolveStale event.answers.pool event.targetMinor completed = .ok (claims, stale)) :
    StaleClaims claims completed stale := by
  obtain ⟨found, claimsEq, rest⟩ := bind_eq_ok resolved
  obtain ⟨candidates, read, made⟩ := bind_eq_ok rest
  obtain ⟨rfl, rfl⟩ := Prod.mk.inj (Except.ok.inj made)
  have distinct : (found.map (·.name)).Nodup := listed found (by simp [claimsEq, Except.toOption])
  constructor
  · have sublist : (staleTargets candidates completed event.targetMinor).Sublist
        (candidates.map (·.1)) := filter_sublist.map _
    rw [readKubelets_names read] at sublist
    exact sublist.nodup distinct
  · exact fun name member => (mem_staleTargets member).1
  · intro _ member
    obtain ⟨-, _, candidate⟩ := mem_staleTargets member
    exact find?_node distinct (readKubelets_node read candidate)

/-! ## Advancing a batch -/

variable {answers : KarpenterAnswers}

section Advancing

variable {now : Instant} {drainTo stableTo : Int}
  {observed : List (CurrentBatchEntry × Bool × Bool)}

def EntryOutcome.isFailed : EntryOutcome → Bool
  | failed _ => true
  | _ => false

def seenOutcome (now : Instant) (drainTo stableTo : Int) (seen : CurrentBatchEntry × Bool × Bool) :
    EntryOutcome :=
  decideEntry seen.1.state seen.2.1 seen.2.2 (elapsedSecs seen.1.startedAt now) drainTo stableTo

def FailsLast (now : Instant) (drainTo stableTo : Int)
    (observed : List (CurrentBatchEntry × Bool × Bool)) : Prop :=
  ∀ seen ∈ observed.dropLast, (seenOutcome now drainTo stableTo seen).isFailed = false

/-- Every entry stays in the batch or is done, when no entry is behind one that failed. -/
theorem advanceEntries_perm (failsLast : FailsLast now drainTo stableTo observed) :
    let progress := advanceEntries now drainTo stableTo observed
    (claims progress.remaining ++
      claims progress.completed).Perm (observed.map (·.1.nodeClaim)) := by
  induction observed with
  | nil => exact .refl []
  | cons seen observed ih =>
    have later : FailsLast now drainTo stableTo observed := by
      intro _ member
      apply failsLast
      cases observed with
      | nil => cases member
      | cons => exact mem_cons_of_mem _ member
    obtain ⟨entry, nodeExists, controllersStable⟩ := seen
    cases outcome : decideEntry entry.state nodeExists controllersStable
        (elapsedSecs entry.startedAt now) drainTo stableTo with
    | draining | waitStable =>
      simpa [advanceEntries, outcome, claims] using ih later
    | done =>
      simp only [advanceEntries, outcome, claims, map_cons]
      exact perm_middle.trans ((ih later).cons _)
    | failed =>
      have last : observed = [] := by
        cases observed with
        | nil => rfl
        | cons =>
          have passes := failsLast (entry, nodeExists, controllersStable) (by simp)
          simp [seenOutcome, outcome, EntryOutcome.isFailed] at passes
      simp [advanceEntries, outcome, claims, last]

theorem mem_advanceEntries_completed {entry : CurrentBatchEntry}
    (member : entry ∈ (advanceEntries now drainTo stableTo observed).completed) :
    ∃ seen ∈ observed, seen.1 = entry ∧ seen.2.2 := by
  induction observed with
  | nil => cases member
  | cons seen observed ih =>
    have later : entry ∈ (advanceEntries now drainTo stableTo observed).completed →
        ∃ other ∈ seen :: observed, other.1 = entry ∧ other.2.2 := by
      intro inLater
      obtain ⟨other, inObserved, facts⟩ := ih inLater
      exact ⟨other, mem_cons_of_mem _ inObserved, facts⟩
    obtain ⟨first, nodeExists, controllersStable⟩ := seen
    cases outcome : decideEntry first.state nodeExists controllersStable
        (elapsedSecs first.startedAt now) drainTo stableTo with
    | draining | waitStable => exact later (by simpa [advanceEntries, outcome] using member)
    | done =>
      simp only [advanceEntries, outcome, mem_cons] at member
      rcases member with rfl | member
      · refine ⟨_, mem_cons_self, rfl, ?_⟩
        unfold decideEntry at outcome
        split_ifs at outcome with draining late stable
        exact stable
      · exact later member
    | failed =>
      simp only [advanceEntries, outcome] at member
      cases member

variable {index : Nat} {batch : List CurrentBatchEntry}

theorem observeEntries_entries (seen : observeEntries answers index batch = .ok observed) :
    observed.map (·.1) = batch := by
  induction batch generalizing index observed with
  | nil =>
    cases seen
    rfl
  | cons _ _ ih =>
    obtain ⟨_, -, rest⟩ := bind_eq_ok seen
    obtain ⟨_, -, rest⟩ := bind_eq_ok rest
    obtain ⟨_, seenLater, made⟩ := bind_eq_ok rest
    cases made
    simp [ih seenLater]

theorem observeEntries_gone (seen : observeEntries answers index batch = .ok observed) :
    ∀ entry ∈ observed, entry.2.2 → entry.2.1 = false := by
  induction batch generalizing index observed with
  | nil =>
    cases seen
    intro entry member
    cases member
  | cons _ _ ih =>
    obtain ⟨nodeExists, -, rest⟩ := bind_eq_ok seen
    obtain ⟨_, asked, rest⟩ := bind_eq_ok rest
    obtain ⟨_, seenLater, made⟩ := bind_eq_ok rest
    cases made
    intro entry member stable
    rcases mem_cons.mp member with rfl | member
    · cases nodeExists with
      | false => rfl
      | true =>
        cases asked
        cases stable
    · exact ih seenLater entry member stable

variable {answers : KarpenterAnswers} {batch : List CurrentBatchEntry}

theorem mem_confirmedClaims (seen : observeEntries answers 0 batch = .ok observed) :
    ∀ name ∈ claims (advanceEntries now drainTo stableTo observed).completed,
      name ∈ confirmedClaims observed := by
  intro _ member
  obtain ⟨_, completed, rfl⟩ := mem_map.mp member
  obtain ⟨other, inObserved, rfl, stable⟩ := mem_advanceEntries_completed completed
  apply mem_map.mpr
  refine ⟨other, mem_filter.mpr ⟨inObserved, ?_⟩, rfl⟩
  simp [observeEntries_gone seen other inObserved stable, stable]

end Advancing

/-! ## Recording completed entries -/

structure Recorded (pool : KarpenterPoolStatus) (entries : List CurrentBatchEntry)
    (recorded : KarpenterPoolStatus) : Prop where
  completed : recorded.completedNodeClaims =
    pool.completedNodeClaims ++ CurrentBatchEntry.claims entries
  replacements : recorded.replacements.length = pool.replacements.length + entries.length
  replaced : pool.replacedNodes + entries.length < UInt32.size →
    recorded.replacedNodes = pool.replacedNodes + entries.length
  currentBatch : recorded.currentBatch = pool.currentBatch
  totalNodes : recorded.totalNodes = pool.totalNodes

theorem recorded_recordCompleted (claims : List NodeClaimInfo) (known : List String)
    (pool : KarpenterPoolStatus) (entries : List CurrentBatchEntry) :
    Recorded pool entries (recordCompleted claims known pool entries) := by
  induction entries generalizing known pool with
  | nil =>
    exact ⟨by simp [recordCompleted, CurrentBatchEntry.claims], rfl, fun _ => rfl, rfl, rfl⟩
  | cons entry _ ih =>
    obtain ⟨completed, replacements, replaced, currentBatch, totalNodes⟩ :=
      ih (known ++ (pickNewNodeclaim claims known entry.startedAt).toList)
        { pool with
          replacedNodes := clampU32 (pool.replacedNodes + 1)
          completedNodeClaims := pool.completedNodeClaims ++ [entry.nodeClaim]
          replacements := pool.replacements ++
            [{ oldNodeClaim := entry.nodeClaim
               newNodeClaim := pickNewNodeclaim claims known entry.startedAt
               nodeName := entry.nodeName }] }
    constructor
    · simpa [recordCompleted, CurrentBatchEntry.claims] using completed
    · simp only [recordCompleted, replacements, length_append, length_cons, length_nil]
      omega
    · intro fits
      rw [length_cons] at fits
      have next : clampU32 (pool.replacedNodes + 1) = pool.replacedNodes + 1 := by
        unfold clampU32
        omega
      simp only [next] at replaced
      simp only [recordCompleted, next, replaced (by omega), length_cons]
      omega
    · exact currentBatch
    · exact totalNodes

theorem recorded_recordProgress {pool recorded : KarpenterPoolStatus} {progress : BatchProgress}
    {answer : Except HandlerError (List NodeClaimInfo)}
    (ran : recordProgress pool progress answer = .ok recorded) :
    Recorded pool progress.completed recorded := by
  unfold recordProgress at ran
  split at ran
  next empty =>
    cases ran
    rw [isEmpty_iff.mp empty]
    exact recorded_recordCompleted [] [] pool []
  · obtain ⟨_, -, made⟩ := bind_eq_ok ran
    cases made
    exact recorded_recordCompleted ..

theorem advanceBatch_eq_ok {now : Instant} {drainTo stableTo : Int} {pool : KarpenterPoolStatus}
    {step : PoolStep} (ran : advanceBatch now drainTo stableTo pool answers = .ok step) :
    ∃ observed, observeEntries answers 0 pool.currentBatch = .ok observed ∧
      Recorded
        { pool with currentBatch := (advanceEntries now drainTo stableTo observed).remaining }
        (advanceEntries now drainTo stableTo observed).completed step.pool ∧
      step.failure = (advanceEntries now drainTo stableTo observed).failure := by
  obtain ⟨observed, seen, rest⟩ := bind_eq_ok ran
  obtain ⟨_, records, made⟩ := bind_eq_ok rest
  cases made
  exact ⟨observed, seen, recorded_recordProgress records, rfl⟩

end Addons.EksUpgrade
