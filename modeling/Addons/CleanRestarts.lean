import Addons.UpgradeRuns

/-!
# What survives a patch

A handler's status is merged into the stored one, where a member that is left out keeps
its old value.
-/

namespace Addons.EksUpgrade

open TransitionSystem Attempt UpgradePhase

/-! ## Which phases a reconcile serves -/

/-- A reconcile reached the handler of the phase or reported an authentication failure. -/
def Served (answers : Answers) (resource : Resource) : Prop :=
  (reconcile answers resource).exit = .dispatched resource.status.currentPhase ∨
    (reconcile answers resource).exit = .unauthenticated

theorem authenticate_served (answers : Answers) (resource : Resource) :
    (authenticate answers resource).exit = .dispatched resource.status.currentPhase ∨
      (authenticate answers resource).exit = .unauthenticated := by
  rcases authenticate_cases answers resource with ⟨server, -, served⟩ | ⟨refused, -, -⟩
  · rw [served]
    exact .inl (exit_serve answers resource server)
  · exact .inr refused

variable {resource : Resource}

theorem hasActiveUpdate_of_released (sound : resource.Sound)
    (idle : resource.status.currentPhase.holdsControlPlaneUpdate = false)
    (settled : resource.status.currentPhase.holdsNodegroupUpdate = false) :
    hasActiveUpdate resource.status = false := by
  have nodegroups := sound.released.nodegroups settled
  have controlPlane : (resource.status.phases.controlPlane.bind (·.updateId)).isSome = false := by
    cases present : resource.status.phases.controlPlane with
    | none => rfl
    | some details => simp [sound.released.controlPlane idle details present]
  simp only [hasActiveUpdate, controlPlane, Bool.false_or, List.any_eq_false]
  intro group member
  simp [nodegroups group member]

theorem hasActiveUpdate_of_karpenter (sound : resource.Sound)
    (phase : resource.status.currentPhase = .upgradingKarpenterNodePools) :
    hasActiveUpdate resource.status = false :=
  hasActiveUpdate_of_released sound (by rw [phase]; rfl) (by rw [phase]; rfl)

/-- A reconcile runs the handler of a running phase, except in the Karpenter phase while the spec
has not been edited. -/
theorem runningPhases_served (resource : Resource)
    (reached : Reachable Resource.Initial Resource.Step (fun _ _ => True) resource)
    (running : resource.status.currentPhase.isTerminal = false) (answers : Answers) :
    Served answers resource ↔
      (resource.status.currentPhase ≠ .upgradingKarpenterNodePools ∨
        resource.status.observedGeneration < resource.generation) := by
  have sound := sound_of_reachable reached
  unfold Served reconcile
  simp only [running, Bool.false_eq_true, if_false]
  split
  next skipped =>
    obtain ⟨unchanged, started, -, idle⟩ := skipped
    have karpenter : resource.status.currentPhase = .upgradingKarpenterNodePools := by
      revert running started idle
      cases resource.status.currentPhase <;> simp [isPolling, isTerminal]
    simp [karpenter, unchanged]
  next served =>
    refine iff_of_true (authenticate_served _ _) ?_
    by_cases karpenter : resource.status.currentPhase = .upgradingKarpenterNodePools
    · right
      by_contra unchanged
      apply served
      exact ⟨by omega, by simp [karpenter], hasActiveUpdate_of_karpenter sound karpenter,
        by simp [karpenter, isPolling]⟩
    · exact .inl karpenter

/-- A forward upgrade to the version the cluster has, with one NodePool to replace. -/
def karpenterSpec : EksUpgradeSpec where
  clusterName := "staging"
  targetVersion := "1.33"
  region := "eu-central-1"
  upgradeMode := .forward
  karpenterNodePools := some { enabled := true, nodePools := ["default"] }

/-- The resource after it was reconciled until the Karpenter phase. -/
def karpenterResource : Resource :=
  ({ spec := karpenterSpec, generation := 1 } : Resource).run
    [.reconcile calmAnswers, .reconcile calmAnswers, .reconcile calmAnswers]

theorem karpenterResource_phase :
    karpenterResource.status.currentPhase = .upgradingKarpenterNodePools ∧
      karpenterResource.status.observedGeneration = karpenterResource.generation := by
  decide +kernel

theorem karpenterResource_reached :
    Reachable Resource.Initial Resource.Step (fun _ _ => True) karpenterResource :=
  reachable_run _ _ (.start ⟨rfl, rfl⟩) fun _ _ _ => trivial

/-- The run is stuck: the reconcile waits for a change before it reaches the handler. -/
theorem karpenterPhase_stuck :
    ∃ resource, Reachable Resource.Initial Resource.Step (fun _ _ => True) resource ∧
      resource.status.currentPhase = .upgradingKarpenterNodePools ∧
      ∀ answers, (reconcile answers resource).exit = .idle ∧
        (reconcile answers resource).action = some .awaitChange ∧
        (reconcile answers resource).status = resource.status := by
  refine ⟨karpenterResource, karpenterResource_reached, karpenterResource_phase.1, ?_⟩
  intro answers
  have skipped : reconcile answers karpenterResource =
      { status := karpenterResource.status, exit := .idle, action := some .awaitChange } := by
    obtain ⟨phase, observed⟩ := karpenterResource_phase
    have idle := hasActiveUpdate_of_karpenter (sound_of_reachable karpenterResource_reached) phase
    simp [reconcile, phase, observed, idle, isTerminal, isPolling]
  simp [skipped]

theorem runningPhases_served_edited :
    (Served calmAnswers karpenterResource ↔
      (karpenterResource.status.currentPhase ≠ .upgradingKarpenterNodePools ∨
        karpenterResource.status.observedGeneration < karpenterResource.generation)) ∧
    (Served calmAnswers (karpenterResource.act (.edit karpenterSpec)) ↔
      ((karpenterResource.act (.edit karpenterSpec)).status.currentPhase ≠
          .upgradingKarpenterNodePools ∨
        (karpenterResource.act (.edit karpenterSpec)).status.observedGeneration <
          (karpenterResource.act (.edit karpenterSpec)).generation)) :=
  ⟨runningPhases_served karpenterResource karpenterResource_reached
      (by rw [karpenterResource_phase.1]; rfl) calmAnswers,
    runningPhases_served _ (karpenterResource_reached.next trivial rfl)
      rfl calmAnswers⟩

theorem Attempt.ofResult_ne_panic {Value : Type} (result : Except HandlerError Value) :
    (ofResult result).result ≠ .error .panic := by
  cases result with
  | error | ok => simp [ofResult, Except.mapError]

theorem map_ne_panic {Value Result : Type} {result : Except Stop Value} (change : Value → Result)
    (calm : result ≠ .error .panic) : result.map change ≠ .error .panic := by
  cases result with
  | error => exact fun same => calm (congrArg Except.error (Except.error.inj same))
  | ok => simp [Except.map]

theorem deleteBatch_ne_panic (now : Instant) (pool : String) (claims : List NodeClaimInfo)
    (answers : KarpenterAnswers) (index : Nat) (names : List String) :
    (deleteBatch now pool claims answers index names).result ≠ .error .panic := by
  induction names generalizing index with
  | nil => simp [deleteBatch]
  | cons _ _ ih =>
    simp only [deleteBatch]
    split
    · simp
    · split
      · simp
      · simp
      · exact map_ne_panic _ (ih (index + 1))

theorem stepPool_ne_panic (now : Instant) (config : KarpenterNodePoolsConfig) (targetMinor : Nat)
    (pool : KarpenterPoolStatus) (answers : KarpenterAnswers) :
    (stepPool now config targetMinor pool answers).result ≠ .error .panic := by
  unfold stepPool
  split
  · unfold startNextBatch
    split
    · simp
    · dsimp only
      split
      · simp
      · dsimp only
        apply map_ne_panic
        exact deleteBatch_ne_panic _ _ _ _ _ _
  · exact ofResult_ne_panic _

theorem executeKarpenter_ne_panic {spec : EksUpgradeSpec} (now : Instant)
    (status : EksUpgradeStatus) (answers : KarpenterAnswers)
    (configured : spec.karpenterNodePools.isSome) :
    (executeKarpenter now spec status answers).result ≠ .error .panic := by
  obtain ⟨_, configEq⟩ := Option.isSome_iff_exists.mp configured
  simp only [executeKarpenter, configEq]
  split
  · simp
  · split
    · simp
    · split
      · simp
      · simp
      · simp
      · exact map_ne_panic _ (stepPool_ne_panic _ _ _ _ _)

theorem executeControlPlane_ne_panic {status : EksUpgradeStatus} (now : Instant)
    (spec : EksUpgradeSpec) (answers : ControlPlaneAnswers)
    (inRange : ∀ details, status.phases.controlPlane = some details →
      details.currentStep ≤ details.totalSteps →
        currentTarget details status.phases.upgradePath ≠ none) :
    (executeControlPlane now spec status answers).result ≠ .error .panic := by
  unfold executeControlPlane
  split
  · simp
  next details present =>
    dsimp only
    split
    · simp
    next _ =>
      split
      next missing => exact absurd missing (inRange details present (by omega))
      · split
        · simp only [pollControlPlane]
          split
          · simp
          · split <;> simp
        · simp only [startControlPlane]
          split <;> simp

variable {details : ControlPlaneStatus}

theorem currentTarget_ne_none {path : List String}
    (first : 1 ≤ details.currentStep) (last : details.currentStep ≤ path.length) :
    currentTarget details path ≠ none := by
  have notZero : details.currentStep ≠ 0 := by omega
  simp only [currentTarget, notZero, if_false, ne_eq, List.getElem?_eq_none_iff]
  omega

variable {resource : Resource}

theorem Resource.Fits.inRange (fits : resource.Fits)
    (inPhase : resource.status.currentPhase.isControlPlane)
    (present : resource.status.phases.controlPlane = some details) :
    1 ≤ details.currentStep ∧ details.totalSteps = resource.status.phases.upgradePath.length := by
  have follows := fits.steps details present
  have nonempty := List.length_pos_iff.mpr (fits.planned.controlPlane inPhase)
  exact ⟨follows.started nonempty, follows.total⟩

theorem Resource.Fits.dispatch_ne_panic (fits : resource.Fits) (answers : Answers)
    (configured : resource.status.currentPhase = .upgradingKarpenterNodePools →
      resource.spec.karpenterNodePools.isSome) :
    (dispatch answers resource.spec resource.status resource.status.currentPhase).result ≠
      .error .panic := by
  have controlPlane : resource.status.currentPhase.isControlPlane →
      (executeControlPlane answers.now resource.spec resource.status answers.controlPlane).result ≠
        .error .panic := by
    intro inPhase
    apply executeControlPlane_ne_panic
    intro _ present steps
    obtain ⟨first, total⟩ := fits.inRange inPhase present
    exact currentTarget_ne_none first (total ▸ steps)
  cases phase : resource.status.currentPhase with
  | pending | completed | failed => simp [dispatch]
  | planning | preflightChecking | upgradingAddons | rollingBackAddons | upgradingNodeGroups
  | rollingBackNodeGroups => exact ofResult_ne_panic _
  | upgradingControlPlane | rollingBackControlPlane => exact controlPlane (phase ▸ rfl)
  | upgradingKarpenterNodePools =>
    exact executeKarpenter_ne_panic _ _ _ (configured phase)

variable {answers : Answers}

section

variable (calm : (dispatch answers resource.spec resource.status
  resource.status.currentPhase).result ≠ .error .panic)
include calm

theorem serve_action {server : EksUpgradeStatus} :
    (serve answers resource server).action ≠ none := by
  unfold serve
  dsimp only
  split
  · simp
  · simp
  next panicked => exact absurd panicked calm

theorem reconcile_action : (reconcile answers resource).action ≠ none := by
  rcases reconcile_cases answers resource with ⟨_, -, served⟩ | ⟨-, -, acts⟩
  · rw [served]
    exact serve_action calm
  · exact acts

end

variable {phase : UpgradePhase}

theorem reconcile_dispatched (runs : (reconcile answers resource).exit = .dispatched phase) :
    resource.status.currentPhase = phase := by
  rcases reconcile_cases answers resource with ⟨_, -, served⟩ | ⟨quiet, -, -⟩
  · rw [served, exit_serve] at runs
    exact Exit.dispatched.inj runs
  · exact absurd runs (quiet phase)

/-- No edit takes the Karpenter section away while the status has Karpenter details. -/
def KeepsSection (resource : Resource) : Event → Prop
  | .edit spec =>
    resource.status.phases.karpenterNodePools.isSome = true →
      spec.karpenterNodePools.isSome = true
  | .reconcile _ => True

/-- Karpenter details come with the section of the specification. -/
def Resource.Configured (resource : Resource) : Prop :=
  resource.status.phases.karpenterNodePools.isSome = true →
    resource.spec.karpenterNodePools.isSome = true

/-- Only planning adds Karpenter details, for the section it reads. -/
theorem PhaseMove.configured {now : Instant} {spec : EksUpgradeSpec} {found : PlanningAnswers}
    {phases phases' : PhaseStatuses} {next : UpgradePhase} {calls : List Call}
    (move : PhaseMove now spec found phases phase calls next phases')
    (configured : phases.karpenterNodePools.isSome →
      spec.karpenterNodePools.isSome) :
    phases'.karpenterNodePools.isSome → spec.karpenterNodePools.isSome := by
  cases move with
  | begin | reject | check | controlPlane | addonsDone | addon | nodegroupsDone | nodegroup
  | karpenterAbsent => exact configured
  | plan =>
    cases section' : spec.karpenterNodePools with
    | none =>
      simpa [plannedPhases, section'] using configured
    | some => exact fun _ => rfl
  | karpenterDone _ present | karpenter _ _ present => exact fun _ => present

theorem Resource.Configured.act (configured : resource.Configured) (sound : resource.Sound)
    (event : Event) (keeps : KeepsSection resource event) : (resource.act event).Configured := by
  cases event with
  | edit => exact keeps
  | reconcile answers =>
    apply @Outcome.holds _ (fun _ phases => phases.karpenterNodePools.isSome →
      resource.spec.karpenterNodePools.isSome) _ _ _ (@Outcome.reconcile answers _ sound.staged)
    · exact configured
    · exact fun _ _ same => same ▸ configured
    · exact configured
    · exact fun _ _ move => move.configured configured

theorem configured_of_reachable
    (reached : Reachable Resource.Initial Resource.Step KeepsSection resource) :
    resource.Configured := by
  have both : resource.Sound ∧ resource.Configured := by
    apply reached.invariant
    · rintro resource ⟨first, statusEq⟩
      refine ⟨.initial ⟨first, statusEq⟩, ?_⟩
      simp [Resource.Configured, statusEq]
    · rintro _ event _ ⟨sound, configured⟩ keeps taken
      subst taken
      exact ⟨sound.act event, configured.act sound event keeps⟩
  exact both.2

/-- In every run the control plane handler stays in its path; and when no edit takes away the
Karpenter section of a status with Karpenter details, the Karpenter handler finds its section,
and no reconcile panics. -/
theorem handlers_ne_panic (resource : Resource) (answers : Answers) :
    (Reachable Resource.Initial Resource.Step (fun _ _ => True) resource →
      ∀ phase details,
        (reconcile answers resource).exit = .dispatched phase → phase.isControlPlane = true →
        resource.status.phases.controlPlane = some details →
        details.currentStep ≤ details.totalSteps →
          1 ≤ details.currentStep ∧ details.currentStep ≤ details.totalSteps ∧
            details.totalSteps = resource.status.phases.upgradePath.length) ∧
    (Reachable Resource.Initial Resource.Step KeepsSection resource →
      ((reconcile answers resource).exit = .dispatched .upgradingKarpenterNodePools →
        resource.spec.karpenterNodePools.isSome = true) ∧
      (reconcile answers resource).action ≠ none) := by
  constructor
  · intro reached _ _ runs inPhase present steps
    have inPhase' : resource.status.currentPhase.isControlPlane = true := by
      rw [reconcile_dispatched runs]
      exact inPhase
    obtain ⟨first, total⟩ := (fits_of_reachable reached).inRange inPhase' present
    exact ⟨first, steps, total⟩
  · intro reached
    have fits := fits_of_reachable reached
    have configured := configured_of_reachable reached
    have found : resource.status.currentPhase = .upgradingKarpenterNodePools →
        resource.spec.karpenterNodePools.isSome = true :=
      fun inPhase => configured (fits.planned.karpenter inPhase)
    constructor
    · exact fun runs => found (reconcile_dispatched runs)
    · exact reconcile_action (fits.dispatch_ne_panic answers found)

theorem removedSection_panics :
    ∃ resource, Reachable Resource.Initial Resource.Step (fun _ _ => True) resource ∧
      (reconcile calmAnswers resource).exit = .dispatched .upgradingKarpenterNodePools ∧
      resource.spec.karpenterNodePools.isSome = false ∧
      (reconcile calmAnswers resource).action = none := by
  refine ⟨karpenterResource.act (.edit { karpenterSpec with karpenterNodePools := none }),
    karpenterResource_reached.next trivial rfl, ?_⟩
  decide +kernel

/-- The resource after it was reconciled until the control plane phase. -/
def stepResource : Resource :=
  ({ spec := stepSpec, generation := 1 } : Resource).run
    [.reconcile calmAnswers, .reconcile calmAnswers, .reconcile calmAnswers]

theorem handlers_ne_panic_instances :
    (∀ details, stepResource.status.phases.controlPlane = some details →
      details.currentStep ≤ details.totalSteps →
        1 ≤ details.currentStep ∧ details.currentStep ≤ details.totalSteps ∧
          details.totalSteps = stepResource.status.phases.upgradePath.length) ∧
    (karpenterResource.act (.edit karpenterSpec)).spec.karpenterNodePools.isSome = true := by
  have stepped : Reachable Resource.Initial Resource.Step (fun _ _ => True) stepResource :=
    reachable_run _ _ (.start ⟨rfl, rfl⟩) fun _ _ _ => trivial
  have steps : (reconcile calmAnswers stepResource).exit = .dispatched .upgradingControlPlane := by
    decide +kernel
  have started : Reachable Resource.Initial Resource.Step KeepsSection karpenterResource := by
    apply reachable_run _ _ (.start ⟨rfl, rfl⟩)
    intro _ _ member
    simp only [List.mem_cons, List.not_mem_nil, or_false, or_self] at member
    subst member
    exact trivial
  have keeps : KeepsSection karpenterResource (.edit karpenterSpec) := fun _ => rfl
  have runs : (reconcile calmAnswers (karpenterResource.act (.edit karpenterSpec))).exit =
      .dispatched .upgradingKarpenterNodePools := by
    decide +kernel
  have edited : Reachable Resource.Initial Resource.Step KeepsSection
      (karpenterResource.act (.edit karpenterSpec)) :=
    started.next keeps rfl
  constructor
  · intro details
    exact (handlers_ne_panic stepResource calmAnswers).1 stepped .upgradingControlPlane details
      steps rfl
  · exact ((handlers_ne_panic (karpenterResource.act (.edit karpenterSpec)) calmAnswers).2
      edited).1 runs

/-- In every run the updates of the control plane and of the node groups are not in flight
together, no other phase holds one, and the steps stay in the path. -/
theorem status_consistent (resource : Resource)
    (reached : Reachable Resource.Initial Resource.Step (fun _ _ => True) resource) :
    (resource.status.currentPhase ≠ .failed →
      (∀ details, resource.status.phases.controlPlane = some details → details.updateId = none) ∨
        ∀ group ∈ resource.status.phases.nodegroups, group.updateId = none) ∧
    (resource.status.currentPhase.holdsControlPlaneUpdate = false →
      resource.status.currentPhase.holdsNodegroupUpdate = false →
      hasActiveUpdate resource.status = false) ∧
    StepsFit resource.status.phases ∧
    resource.status.observedGeneration ≤ resource.generation := by
  have sound := sound_of_reachable reached
  refine ⟨?_, hasActiveUpdate_of_released sound, (fits_of_reachable reached).steps, sound.observed⟩
  intro working
  by_cases idle : resource.status.currentPhase.holdsControlPlaneUpdate = false
  · exact .inl (sound.released.controlPlane idle)
  · refine .inr (sound.released.nodegroups ?_)
    revert working idle
    cases resource.status.currentPhase <;> simp [holdsControlPlaneUpdate, holdsNodegroupUpdate]

theorem status_consistent_karpenterResource :
    ((∀ details, karpenterResource.status.phases.controlPlane = some details →
        details.updateId = none) ∨
      ∀ group ∈ karpenterResource.status.phases.nodegroups, group.updateId = none) ∧
    hasActiveUpdate karpenterResource.status = false := by
  obtain ⟨exclusive, released, -⟩ := status_consistent karpenterResource karpenterResource_reached
  rw [karpenterResource_phase.1] at exclusive released
  exact ⟨exclusive (by decide), released rfl rfl⟩

open Document Addons.Field Layout

/-- What a reconcile may patch into the status of a resource after the dispatch, or instead of
it. -/
inductive Returned (answers : Answers) (resource : Resource) : EksUpgradeStatus → Prop where
  | handled (next : EksUpgradeStatus) (requeue : Option Nat)
      (result : (dispatch answers resource.spec resource.status
        resource.status.currentPhase).result = .ok (next, requeue)) :
      Returned answers resource (stampStatus answers.now resource.spec resource.generation next)
  | failed (problem : HandlerError)
      (result : (dispatch answers resource.spec resource.status
        resource.status.currentPhase).result = .error (.error problem)) :
      Returned answers resource
        (failStatus answers.now resource.generation resource.status problem)
  | refused (message reason detail : String) :
      Returned answers resource
        (refuseStatus answers.now resource.generation resource.status message reason detail)

/-- A status replaces the stored one when every member it leaves out is unset there. -/
theorem patchStatus_eq {stored new : EksUpgradeStatus}
    (phase : new.phase = none → stored.phase = none)
    (currentVersion : new.currentVersion = none → stored.currentVersion = none)
    (progress : new.progress = none → stored.progress = none)
    (phases : phasesSchema.merge stored.phases new.phases = new.phases)
    (conditions : new.conditions = [] → stored.conditions = [])
    (startedAt : new.startedAt = none → stored.startedAt = none)
    (message : new.message = none → stored.message = none)
    (completedAt : new.completedAt = none → stored.completedAt = none)
    (identity : new.identity = stored.identity)
    (lifecycle : mergeOption lifecycleSchema.merge stored.lifecycle new.lifecycle =
      new.lifecycle) (lastTransition : new.lastTransition = none → stored.lastTransition = none) :
    patchStatus stored new = new := by
  have kept : ∀ {Value : Type} {old fresh : Option Value}, (fresh = none → old = none) →
      fresh.or old = fresh := by
    intro _ _ fresh unset
    cases fresh with
    | none => exact unset rfl
    | some => rfl
  have sameIdentity : mergeOption identitySchema.merge stored.identity new.identity =
      new.identity := by
    rw [identity]
    apply mergeOption_self
    intro _
    simp [identitySchema, schema, Layout.merge, requiredText, plain]
  have transition := (patchStatus_lastTransition stored new).trans (kept lastTransition)
  have replaced : skippedConditions.merge stored.conditions new.conditions = new.conditions :=
    skippedEmpty_merge_eq _ conditions
  have merged : patchStatus stored new =
      { phase := new.phase.or stored.phase
        currentVersion := new.currentVersion.or stored.currentVersion
        progress := new.progress.or stored.progress
        phases := phasesSchema.merge stored.phases new.phases
        conditions := skippedConditions.merge stored.conditions new.conditions
        startedAt := new.startedAt.or stored.startedAt
        observedGeneration := new.observedGeneration
        message := new.message.or stored.message
        completedAt := new.completedAt.or stored.completedAt
        identity := mergeOption identitySchema.merge stored.identity new.identity
        lifecycle := mergeOption lifecycleSchema.merge stored.lifecycle new.lifecycle
        lastTransition := (patchStatus stored new).lastTransition } :=
    rfl
  rw [merged, kept phase, kept currentVersion, kept progress, phases, replaced, kept startedAt,
    kept message, kept completedAt, sameIdentity, lifecycle, transition]

/-- What holds of a status when no restart has left anything behind. -/
structure EksUpgradeStatus.Clean (status : EksUpgradeStatus) : Prop where
  early : status.currentPhase = .pending ∨ status.currentPhase = .planning →
    status.progress = none ∧ status.phases.karpenterNodePools = none ∧ status.lifecycle = none
  later : plannedUnits status.phases = 0 → status.progress = none

/-- A restart finds neither progress nor Karpenter details. -/
def CleanRestart (resource : Resource) : Event → Prop
  | .edit _ => True
  | .reconcile _ =>
    resource.status.currentPhase.isTerminal = true →
    resource.status.observedGeneration < resource.generation →
      resource.status.progress = none ∧ resource.status.phases.karpenterNodePools = none

instance (resource : Resource) : (event : Event) → Decidable (CleanRestart resource event)
  | .edit _ => isTrue trivial
  | .reconcile _ => inferInstanceAs (Decidable (_ → _ → _ ∧ _))

theorem computeProgress_eq_none_iff {status : EksUpgradeStatus} :
    computeProgress status = none ↔ plannedUnits status.phases = 0 := by
  unfold computeProgress
  dsimp only
  split_ifs with nothing done
  · simp [nothing]
  · simp [nothing]
  · simp [nothing]

section Moves

variable {now : Instant} {spec : EksUpgradeSpec}
  {found : PlanningAnswers} {phases phases' : PhaseStatuses}
  {phase next : UpgradePhase} {calls : List Call}

theorem ControlPlaneMove.totalSteps {mode : UpgradeMode} {details details' : ControlPlaneStatus}
    {next : Option UpgradePhase}
    (move : ControlPlaneMove now mode phases details calls next details') :
    details'.totalSteps = details.totalSteps := by
  cases move with
  | leave | give | wait | start | succeed | finish => rfl

theorem PhaseMove.plannedUnits_eq (move : PhaseMove now spec found phases phase calls next phases')
    (planned : phase ≠ .planning) : plannedUnits phases' = plannedUnits phases := by
  cases move with
  | begin | reject | check | addonsDone | nodegroupsDone | karpenterAbsent => rfl
  | plan _ _ _ planned => exact absurd rfl planned
  | controlPlane _ _ _ _ present _ _ move =>
    simp [plannedUnits, present, move.totalSteps]
  | addon | nodegroup => simp [plannedUnits]
  | karpenterDone _ _ present => simp [plannedUnits, present]
  | karpenter karpenter karpenter' _ present kept =>
    have pools : karpenter'.pools.length = karpenter.pools.length := by
      simpa using congrArg List.length kept.2
    simp [plannedUnits, present, pools]

end Moves

namespace EksUpgradeStatus.Clean

variable {resource : Resource} {answers : Answers}

theorem progress_of_move (clean : resource.status.Clean) {now : Instant} {spec : EksUpgradeSpec}
    {found : PlanningAnswers} {calls : List Call} {next : UpgradePhase} {phases' : PhaseStatuses}
    (move : PhaseMove now spec found resource.status.phases resource.status.currentPhase calls next
      phases') (nothing : plannedUnits phases' = 0) : resource.status.progress = none := by
  by_cases planning : resource.status.currentPhase = .planning
  · exact (clean.early (.inr planning)).1
  · exact clean.later (move.plannedUnits_eq planning ▸ nothing)

theorem reconcile (clean : resource.status.Clean) (sound : resource.Sound)
    (restarts : CleanRestart resource (.reconcile answers)) :
    (resource.act (.reconcile answers)).status.Clean := by
  have outcome : Outcome answers resource _ (resource.act (.reconcile answers)).status :=
    Outcome.reconcile sound.staged
  cases outcome with
  | unmoved same =>
    have phase := same.currentPhase
    constructor
    · rw [phase]
      simp only [same.progress, same.phases, same.lifecycle]
      exact clean.early
    · simp only [same.progress, same.phases]
      exact clean.later
  | restarted terminal changed storedEq =>
    obtain ⟨progress, karpenter⟩ := restarts terminal changed
    constructor
    · intro early
      simp only [storedEq, resetStatus]
      exact ⟨progress, karpenter, trivial⟩
    · intro nothing
      simp only [storedEq, resetStatus]
      exact progress
  | failed _ phase phases _ progress =>
    have current := currentPhase_of_some phase
    constructor
    · rw [current]
      simp
    · simp only [progress, phases]
      exact clean.later
  | moved _ next move phase _ progress _ lifecycle =>
    have current := currentPhase_of_some phase
    have later : plannedUnits (resource.act (.reconcile answers)).status.phases = 0 →
        (resource.act (.reconcile answers)).status.progress = none := by
      intro nothing
      have nothingDone : computeProgress
          { phase := some next
            phases := (resource.act (.reconcile answers)).status.phases } = none :=
        computeProgress_eq_none_iff.mpr nothing
      rw [progress, clean.progress_of_move move nothing, nothingDone]
      rfl
    constructor
    · rw [current]
      intro early
      rcases move.stage with ⟨pending, rfl, same⟩ | ⟨-, rfl, -⟩ | later
      · obtain ⟨-, karpenter, unchecked⟩ := clean.early (.inl pending)
        have unplanned := sound.staged.unplanned (.inl pending)
        refine ⟨later ?_, same ▸ karpenter, ?_⟩
        · rw [same]
          simp [plannedUnits, unplanned.controlPlane, unplanned.addons, unplanned.nodegroups,
            karpenter]
        · rw [lifecycle (by simp [pending]), unchecked]
      · simp at early
      · rcases early with rfl | rfl
        · cases later
        · cases later
    · exact later

/-- What a reconcile returns replaces the stored status. -/
theorem patchStatus_returned (clean : resource.status.Clean) (sound : resource.Sound)
    (running : resource.status.currentPhase.isTerminal = false) {new : EksUpgradeStatus}
    (returned : Returned answers resource new) : patchStatus resource.status new = new := by
  have unset : ∀ {First Second : Type} {old : Option First} {fresh : Option Second},
      (old.isSome → fresh.isSome) → fresh = none → old = none := by
    intro _ _ old _ keeps missing
    cases old with
    | none => rfl
    | some => simp [missing] at keeps
  have ofRetains : ∀ {status : EksUpgradeStatus}, Retains resource.status status →
      (status.phase = none → resource.status.phase = none) →
      status.phases = resource.status.phases → status.progress = resource.status.progress →
      patchStatus resource.status status = status := by
    intro _ retains phase phases progress
    apply patchStatus_eq phase (unset retains.currentVersion)
    · exact fun missing => progress ▸ missing
    · rw [phases, phasesSchema_merge_self]
    · intro empty
      by_contra conditions
      exact retains.conditions conditions empty
    · exact unset retains.startedAt
    · exact unset retains.message
    · exact unset retains.completedAt
    · exact retains.identity
    · rw [retains.lifecycle, mergeLifecycle_self]
    · exact fun missing => retains.lastTransition ▸ missing
  have observed := Retains.observedGeneration resource.status resource.generation
  cases returned with
  | handled _ _ result =>
    obtain ⟨_, checked, _, phase, move, retains⟩ := dispatch_move running result
    apply patchStatus_eq
    · simp [stampStatus, phase]
    · exact unset retains.currentVersion
    · intro missing
      exact clean.progress_of_move move (computeProgress_eq_none_iff.mp missing)
    · exact move.merge_eq sound.staged
    · intro empty
      by_contra conditions
      exact retains.conditions conditions empty
    · exact unset retains.startedAt
    · exact unset retains.message
    · exact unset retains.completedAt
    · exact retains.identity
    · simp only [stampStatus]
      rw [retains.lifecycle]
      rcases checked with rfl | ⟨planning, -⟩
      · exact mergeLifecycle_self _
      · rw [(clean.early (.inr planning)).2.2]
        exact mergeOption_none _
    · intro missing
      simp only [stampStatus] at missing
      split at missing
      · cases missing
      · rw [retains.lastTransition] at missing
        exact missing
  | failed =>
    unfold failStatus
    split
    · apply ofRetains
      · exact observed.trans (Retains.setCondition ..)
      · exact id
      · rfl
      · rfl
    · apply ofRetains
      · exact observed.trans (Retains.setFailed ..)
      · simp
      · rfl
      · rfl
  | refused message =>
    apply ofRetains
    · have failed := Retains.setFailed resource.status answers.now message
      exact (failed.trans (Retains.setCondition ..)).trans (Retains.observedGeneration _ _)
    · simp [refuseStatus]
    · rfl
    · rfl

end EksUpgradeStatus.Clean

theorem clean_of_reachable {resource : Resource}
    (reached : Reachable Resource.Initial Resource.Step CleanRestart resource) :
    resource.status.Clean := by
  have both : resource.Sound ∧ resource.status.Clean := by
    apply reached.invariant
    · rintro resource ⟨first, statusEq⟩
      refine ⟨.initial ⟨first, statusEq⟩, ?_⟩
      rw [statusEq]
      exact ⟨fun _ => ⟨rfl, rfl, rfl⟩, fun _ => rfl⟩
    · rintro _ event _ ⟨sound, clean⟩ restarts taken
      subst taken
      refine ⟨sound.act event, ?_⟩
      cases event with
      | edit => exact clean
      | reconcile => exact clean.reconcile sound restarts
  exact both.2

/-- What a restart is meant to leave: the identity with its condition, and the last
transition. -/
def restartedStatus (stored : EksUpgradeStatus) (generation : Nat) : EksUpgradeStatus where
  phase := some .pending
  observedGeneration := generation
  conditions := authenticationConditions stored
  identity := stored.identity
  lastTransition := stored.lastTransition

/-- A restart starts clean exactly when it finds neither progress nor Karpenter details; and in
runs where every restart does, what a reconcile returns is what the document holds after the
patch. -/
theorem clearedFields_gone (document : Document Leaf) :
    (∀ stored generation, statusSchema.readDocument document = some stored →
      (statusSchema.readDocument (mergePatch document (resetStatusPatch stored generation)) =
          some (restartedStatus stored generation) ↔
        stored.progress = none ∧ stored.phases.karpenterNodePools = none)) ∧
    (∀ resource, Reachable Resource.Initial Resource.Step CleanRestart resource →
      resource.status.currentPhase.isTerminal = false →
      ∀ answers new, Returned answers resource new →
        statusSchema.readDocument document = some resource.status →
        statusSchema.readDocument (mergePatch document (statusSchema.write new)) = some new) := by
  constructor
  · intro stored generation holds
    rw [readDocument_resetStatus generation holds, Option.some.injEq]
    simp [resetStatus, restartedStatus]
  · intro _ reached running _ new returned holds
    have merged := (clean_of_reachable reached).patchStatus_returned (sound_of_reachable reached)
      running returned
    exact (statusSchema.readDocument_mergePatch new holds).trans (congrArg some merged)

/-- A dry run of an upgrade with a NodePool to replace. -/
def rehearsalSpec : EksUpgradeSpec := { karpenterSpec with dryRun := true }

/-- The resource after the dry run completed and its specification was edited. -/
def rehearsedResource (spec edited : EksUpgradeSpec) : Resource :=
  ({ spec, generation := 1 } : Resource).run
    [.reconcile calmAnswers, .reconcile calmAnswers, .reconcile calmAnswers, .edit edited]

theorem rehearsedResource_reached (spec edited : EksUpgradeSpec) :
    Reachable Resource.Initial Resource.Step (fun _ _ => True) (rehearsedResource spec edited) :=
  reachable_run _ _ (.start ⟨rfl, rfl⟩) fun _ _ _ => trivial

/-- A restart keeps the progress and the NodePools of the earlier run, and the progress that
the next handler clears survives its patch. -/
theorem restart_leaves_progress :
    (∃ resource, Reachable Resource.Initial Resource.Step (fun _ _ => True) resource ∧
      resource.status.currentPhase.isTerminal = true ∧
      (resetStatus resource.status resource.generation).progress = some "1/1" ∧
      (resetStatus resource.status resource.generation).phases.karpenterNodePools.isSome = true) ∧
    (∃ resource, Reachable Resource.Initial Resource.Step (fun _ _ => True) resource ∧
      ∃ new, Returned calmAnswers resource new ∧ resource.status.progress = some "1/1" ∧
        new.progress = none ∧ (patchStatus resource.status new).progress = some "1/1") := by
  constructor
  · refine ⟨rehearsedResource rehearsalSpec karpenterSpec, rehearsedResource_reached _ _, ?_⟩
    decide +kernel
  · refine ⟨(rehearsedResource { stepSpec with dryRun := true } stepSpec).act
      (.reconcile calmAnswers), (rehearsedResource_reached _ _).next trivial rfl, _,
      .handled _ _ rfl, ?_⟩
    decide +kernel

theorem clearedFields_gone_started :
    ∃ new, Returned calmAnswers stepResource new ∧
      statusSchema.readDocument
          (mergePatch (mergePatch .null (statusSchema.write stepResource.status))
            (statusSchema.write new)) =
        some new := by
  have reached : Reachable Resource.Initial Resource.Step CleanRestart stepResource := by
    apply Reachable.of_follow (show Resource.Initial { spec := stepSpec, generation := 1 } from
      ⟨rfl, rfl⟩) (fun _ _ _ acted => (Option.some_inj.mp acted).symm)
      [.reconcile calmAnswers, .reconcile calmAnswers, .reconcile calmAnswers]
    decide +kernel
  refine ⟨_, .handled _ _ rfl, ?_⟩
  apply (clearedFields_gone _).2 stepResource reached (by decide +kernel) calmAnswers
  · exact .handled _ _ rfl
  · exact statusSchema.readDocument_mergePatch_null _

end Addons.EksUpgrade
