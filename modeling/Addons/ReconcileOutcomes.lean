import Addons.HandlerMoves

/-!
# Outcomes of a reconcile

A reconcile leaves the run where it is, restarts it, ends it as failed, or stores a move of
its phase.
-/

namespace Addons.EksUpgrade

open Transaction (bind_eq_ok map_eq_ok mapError_eq_ok)

variable {now : Instant} {spec : EksUpgradeSpec} {status next : EksUpgradeStatus}
  {requeue : Option Nat}

section Planning

variable {pools : List KarpenterPoolStatus}

theorem pending_of_planPools {targetMinor : Option Nat} {answers : Nat → PoolAnswers} {index : Nat}
    {names : List String} (planned : planPools targetMinor answers index names = .ok pools) :
    ∀ pool ∈ pools, pool.status = .pending := by
  induction names generalizing index pools with
  | nil =>
    cases planned
    simp
  | cons _ _ ih =>
    obtain ⟨_, -, planned⟩ := bind_eq_ok planned
    obtain ⟨_, restPlanned, planned⟩ := bind_eq_ok planned
    cases planned
    intro pool member
    rcases List.mem_cons.mp member with rfl | member
    · rfl
    · exact ih restPlanned pool member

variable {answers : PlanningAnswers}

theorem planKarpenter_pools (planned : planKarpenter spec answers = .ok pools) :
    (spec.karpenterNodePools = none → pools = []) ∧ ∀ pool ∈ pools, pool.status = .pending := by
  have nothing : ∀ {pools : List KarpenterPoolStatus},
      (pure [] : Except HandlerError (List KarpenterPoolStatus)) = .ok pools → pools = [] := by
    intro _ empty
    exact (Except.ok.inj empty).symm
  unfold planKarpenter at planned
  cases configured : spec.karpenterNodePools with
  | none =>
    simp only [configured] at planned
    simp [nothing planned]
  | some =>
    simp only [configured] at planned
    split at planned
    · obtain ⟨-, -, planned⟩ := bind_eq_ok planned
      obtain ⟨_, -, planned⟩ := bind_eq_ok planned
      exact ⟨by simp, pending_of_planPools planned⟩
    · simp [nothing planned]

theorem createUpgradePlan_path {plan : UpgradePlan}
    (created : createUpgradePlan spec answers = .ok plan) :
    answers.clusterVersion = .ok (some plan.currentVersion) ∧
      calculatePath spec.upgradeMode plan.currentVersion spec.targetVersion =
        .ok plan.upgradePath := by
  obtain ⟨cluster, clusterEq, created⟩ := bind_eq_ok created
  obtain ⟨_, versionEq, created⟩ := bind_eq_ok created
  obtain ⟨_, pathEq, created⟩ := bind_eq_ok created
  obtain ⟨_, -, created⟩ := bind_eq_ok created
  obtain ⟨_, -, created⟩ := bind_eq_ok created
  cases created
  refine ⟨?_, mapError_eq_ok pathEq⟩
  cases cluster with
  | none => cases versionEq
  | some =>
    cases versionEq
    exact clusterEq

theorem Retains.setMessage (status : EksUpgradeStatus) (message : String) :
    Retains status { status with message := some message } :=
  { Retains.refl status with message := fun _ => rfl }

/-- Planning rejects a rollback, or makes a plan; the plan comes with the lifecycle it
read. -/
theorem executePlanning_move (result : executePlanning now spec status answers = .ok next) :
    (isConsecutiveRollback spec.upgradeMode status.lastTransition ∧
        MovesTo now spec answers status .planning [] next) ∨
      MovesTo now spec answers { status with lifecycle := some answers.lifecycle } .planning
    [] next := by
  unfold executePlanning at result
  cases rejection : rejectConsecutiveRollback now spec status with
  | some =>
    simp only [rejection] at result
    cases result
    unfold rejectConsecutiveRollback at rejection
    split at rejection
    next consecutive =>
      cases rejection
      have rollback : spec.upgradeMode = .rollback := by
        simp only [isConsecutiveRollback, decide_eq_true_eq] at consecutive
        exact consecutive.1
      left
      refine ⟨consecutive, .failed, rfl, .reject rollback, ?_⟩
      exact (Retains.setFailed ..).trans (.setCondition ..)
    · cases rejection
  | none =>
    simp only [rejection] at result
    obtain ⟨plan, created, result⟩ := bind_eq_ok result
    obtain ⟨pools, planned, result⟩ := bind_eq_ok result
    obtain ⟨configured, pending⟩ := planKarpenter_pools planned
    have versioned : Retains { status with lifecycle := some answers.lifecycle }
        { status with
          currentVersion := some plan.currentVersion
          phases := plannedPhases spec status.phases plan pools
          lifecycle := some answers.lifecycle } :=
      { Retains.refl { status with lifecycle := some answers.lifecycle } with
        currentVersion := fun _ => rfl }
    right
    split at result
    next empty =>
      cases result
      refine ⟨.completed, rfl, .plan plan pools created planned configured pending _ ?_, ?_⟩
      · rw [if_pos empty]
      · exact ((versioned.trans (.setPhase ..)).trans (.setMessage ..)).trans (.setCondition ..)
    next nonempty =>
      cases result
      refine ⟨.preflightChecking, rfl, .plan plan pools created planned configured pending _ ?_, ?_⟩
      · rw [if_neg nonempty]
      · exact (versioned.trans (.setPhase ..)).trans (.setCondition ..)

theorem executePreflight_move {found : PlanningAnswers} {answers : PreflightAnswers}
    (result : executePreflight now spec status answers = .ok next) :
    MovesTo now spec found status .preflightChecking [] next := by
  obtain ⟨results, -, result⟩ := bind_eq_ok result
  have checked := Retains.phases status
    { status.phases with preflight := some { checks := buildCheckStatuses results } }
  split at result
  · cases result
    exact ⟨.failed, rfl, .check _ .failed (.inl rfl), checked.trans (.setFailed ..)⟩
  · split at result
    next dry =>
      cases result
      refine ⟨.completed, rfl, .check _ .completed (.inr (.inl ⟨dry, rfl⟩)), ?_⟩
      exact ((checked.trans (.setPhase ..)).trans (.setMessage ..)).trans (.setCondition ..)
    next real =>
      cases result
      have executed : spec.dryRun = false := by simpa using real
      refine ⟨_, transitionTo_phase .., ?_, checked.trans (.transitionTo ..)⟩
      rw [transitionTo_phases]
      apply PhaseMove.check
      right
      right
      refine ⟨executed, ?_⟩
      cases spec.upgradeMode <;> rfl

end Planning

section Karpenter

variable {found : PlanningAnswers} {answers : KarpenterAnswers} {claims : List NodeClaimInfo}

theorem deletions_of_deleteBatch {pool : String} {index : Nat} {batch : List String} :
    ∀ call ∈ (deleteBatch now pool claims answers index batch).calls,
      ∃ nodeClaim, call = .nodeClaimDeleted pool nodeClaim := by
  induction batch generalizing index with
  | nil => simp [deleteBatch]
  | cons name _ ih =>
    unfold deleteBatch
    dsimp only
    split
    · simp
    · split
      · simp
      · simp
      · intro call member
        rcases List.mem_cons.mp member with rfl | member
        · exact ⟨name, rfl⟩
        · exact ih call member

variable {pool : KarpenterPoolStatus} {config : KarpenterNodePoolsConfig} {targetMinor : Nat}

theorem deletions_of_stepPool :
    ∀ call ∈ (stepPool now config targetMinor pool answers).calls,
      ∃ pool nodeClaim, call = .nodeClaimDeleted pool nodeClaim := by
  intro call member
  unfold stepPool at member
  split at member
  · unfold startNextBatch at member
    split at member
    · simp at member
    · dsimp only at member
      split at member
      · simp at member
      · dsimp only at member
        obtain ⟨nodeClaim, callEq⟩ := deletions_of_deleteBatch call member
        exact ⟨_, nodeClaim, callEq⟩
  · simp [Attempt.ofResult] at member

theorem recordCompleted_kept {known : List String} {completed : List CurrentBatchEntry} :
    (recordCompleted claims known pool completed).status = pool.status ∧
      (recordCompleted claims known pool completed).name = pool.name := by
  induction completed generalizing known pool with
  | nil => exact ⟨rfl, rfl⟩
  | cons _ _ ih => exact ih

variable {step : PoolStep}

theorem stepPool_kept (result : (stepPool now config targetMinor pool answers).result = .ok step) :
    step.pool.name = pool.name ∧
      (step.pool.status = pool.status ∨ step.pool.status = .completed) := by
  unfold stepPool at result
  split at result
  · unfold startNextBatch at result
    split at result
    · simp at result
    · dsimp only at result
      split at result
      · cases result
        exact ⟨rfl, .inr rfl⟩
      · dsimp only at result
        obtain ⟨_, -, rfl⟩ := map_eq_ok result
        exact ⟨rfl, .inl rfl⟩
  · have advanced := mapError_eq_ok result
    obtain ⟨_, -, advanced⟩ := bind_eq_ok advanced
    obtain ⟨_, recorded, advanced⟩ := bind_eq_ok advanced
    rw [← Except.ok.inj advanced]
    unfold recordProgress at recorded
    split at recorded
    · rw [← Except.ok.inj recorded]
      exact ⟨rfl, .inl rfl⟩
    · obtain ⟨_, -, recorded⟩ := bind_eq_ok recorded
      rw [← Except.ok.inj recorded]
      exact ⟨recordCompleted_kept.2, .inl recordCompleted_kept.1⟩

variable {index : Nat}

theorem set_eq_of_getElem? {Value : Type} {values : List Value} {value : Value}
    (found : values[index]? = some value) : values.set index value = values := by
  obtain ⟨bound, rfl⟩ := List.getElem?_eq_some_iff.mp found
  exact List.set_getElem_self bound

theorem storePoolStep_move {karpenter : KarpenterNodePoolsStatus} {name : String}
    {calls : List Call} (current : status.phase = some .upgradingKarpenterNodePools)
    (configured : spec.karpenterNodePools.isSome)
    (present : status.phases.karpenterNodePools = some karpenter)
    (deletions : ∀ call ∈ calls, ∃ pool nodeClaim, call = .nodeClaimDeleted pool nodeClaim)
    (working : step.pool.status ≠ .failed)
    (named : (karpenter.pools.map (·.name)).set index step.pool.name =
      karpenter.pools.map (·.name))
    (stored : storePoolStep now status karpenter index name step = (next, requeue)) :
    MovesTo now spec found status .upgradingKarpenterNodePools calls next := by
  unfold storePoolStep at stored
  cases failure : step.failure with
  | some =>
    simp only [failure, Prod.mk.injEq] at stored
    obtain ⟨rfl, -⟩ := stored
    refine ⟨.failed, rfl, ?_, (Retains.phases status _).trans (.setFailed ..)⟩
    exact .karpenter karpenter _ configured present
      (by simpa [recomputeTotals] using named) calls deletions
      .failed (.inl rfl)
  | none =>
    simp only [failure, Prod.mk.injEq] at stored
    obtain ⟨rfl, -⟩ := stored
    refine ⟨.upgradingKarpenterNodePools, current, ?_, .phases status _⟩
    apply PhaseMove.karpenter karpenter _ configured present
      (by simpa [recomputeTotals] using named) calls
      deletions
    right
    refine ⟨rfl, ?_⟩
    intro pool member failed
    rcases List.mem_or_eq_of_mem_set member with member | rfl
    · exact ⟨pool, member, failed⟩
    · exact absurd failed working

theorem executeKarpenter_move (current : status.phase = some .upgradingKarpenterNodePools)
    (result : (executeKarpenter now spec status answers).result = .ok (next, requeue)) :
    MovesTo now spec found status .upgradingKarpenterNodePools
      (executeKarpenter now spec status answers).calls next := by
  unfold executeKarpenter at result ⊢
  rcases config : spec.karpenterNodePools with _ | _
  · simp [config] at result
  have configured : spec.karpenterNodePools.isSome := by simp [config]
  simp only [config] at result ⊢
  cases present : status.phases.karpenterNodePools with
  | none =>
    simp only [present] at result ⊢
    obtain rfl := eq_of_ok result
    refine ⟨.completed, transitionTo_phase .., ?_, .transitionTo ..⟩
    exact .karpenterAbsent configured present
  | some karpenter =>
    simp only [present] at result ⊢
    cases active : activePoolIndex karpenter.pools with
    | none =>
      simp only [active] at result ⊢
      obtain rfl := eq_of_ok result
      have done : ∀ pool ∈ karpenter.pools, pool.status.isDone ∨ pool.status = .failed := by
        intro pool member
        have inactive := List.findIdx?_eq_none_iff.mp active pool member
        cases finished : pool.status.isDone with
        | true => exact .inl rfl
        | false => exact .inr (by simpa [finished] using inactive)
      refine ⟨.completed, transitionTo_phase .., ?_,
        (Retains.phases status _).trans (.transitionTo ..)⟩
      exact .karpenterDone karpenter configured present done
    | some index =>
      simp only [active] at result ⊢
      have unmoved (nextPhase : UpgradePhase)
          (nextEq : nextPhase = .failed ∨ nextPhase = .upgradingKarpenterNodePools) :
          PhaseMove now spec found status.phases .upgradingKarpenterNodePools [] nextPhase
            status.phases := by
        have same : PhaseMove now spec found status.phases _ [] nextPhase _ :=
          .karpenter karpenter karpenter configured present ⟨rfl, rfl⟩ [] (by simp) nextPhase
            (nextEq.imp_right fun stays =>
              ⟨stays, fun pool member failed => ⟨pool, member, failed⟩⟩)
        rwa [← present] at same
      rcases connected : answers.client with _ | _
      · simp [connected] at result
      cases minor : parseMinor spec.targetVersion with
      | none =>
        simp only [connected, minor] at result ⊢
        obtain rfl := eq_of_ok result
        exact ⟨.failed, rfl, unmoved _ (.inl rfl), .setFailed ..⟩
      | some =>
        cases atIndex : karpenter.pools[index]? with
        | none =>
          simp only [connected, minor, atIndex] at result ⊢
          obtain rfl := eq_of_ok result
          exact ⟨.upgradingKarpenterNodePools, current, unmoved _ (.inr rfl), .refl _⟩
        | some pool =>
          simp only [connected, minor, atIndex] at result ⊢
          obtain ⟨step, stepped, stored⟩ := map_eq_ok result
          obtain ⟨sameName, status⟩ := stepPool_kept stepped
          have working : step.pool.status ≠ .failed := by
            rcases status with same | finished
            · simp [same]
            · simp [finished]
          have named : (karpenter.pools.map (·.name)).set index step.pool.name =
              karpenter.pools.map (·.name) := by
            apply set_eq_of_getElem?
            rw [List.getElem?_map, atIndex, sameName]
            rfl
          exact storePoolStep_move current configured present
            deletions_of_stepPool working named stored

end Karpenter

theorem dispatch_move {answers : Answers} (running : status.currentPhase.isTerminal = false)
    (result : (dispatch answers spec status status.currentPhase).result = .ok (next, requeue)) :
    ∃ lifecycle, (lifecycle = status.lifecycle ∨
        status.currentPhase = .planning ∧ lifecycle.isSome) ∧
      MovesTo answers.now spec answers.planning { status with lifecycle } status.currentPhase
        (dispatch answers spec status status.currentPhase).calls next := by
  have current : status.currentPhase ≠ .pending → status.phase = some status.currentPhase := by
    intro started
    cases phase : status.phase with
    | none => simp [EksUpgradeStatus.currentPhase, phase] at started
    | some phase => simp [EksUpgradeStatus.currentPhase, phase]
  cases phase : status.currentPhase with
  | pending =>
    simp only [phase, dispatch] at result ⊢
    obtain rfl := eq_of_ok result
    refine ⟨status.lifecycle, .inl rfl, .planning, rfl, .begin, ?_⟩
    have started : Retains status { status with startedAt := some answers.now } :=
      { Retains.refl status with startedAt := fun _ => rfl }
    exact started.trans (.setPhase ..)
  | planning =>
    simp only [phase, dispatch] at result ⊢
    obtain ⟨planned, executed, stepEq⟩ := map_eq_ok (mapError_eq_ok result)
    obtain ⟨rfl, -⟩ := stepEq
    rcases executePlanning_move executed with ⟨-, rejected⟩ | planned
    · exact ⟨status.lifecycle, .inl rfl, rejected⟩
    · exact ⟨some answers.planning.lifecycle, .inr ⟨trivial, rfl⟩, planned⟩
  | preflightChecking =>
    simp only [phase, dispatch] at result ⊢
    obtain ⟨_, executed, stepEq⟩ := map_eq_ok (mapError_eq_ok result)
    obtain ⟨rfl, -⟩ := stepEq
    exact ⟨status.lifecycle, .inl rfl, executePreflight_move executed⟩
  | upgradingControlPlane | rollingBackControlPlane =>
    rw [phase] at current result
    exact ⟨status.lifecycle, .inl rfl,
      executeControlPlane_move (by simp) (current (by simp)) result⟩
  | upgradingAddons | rollingBackAddons =>
    rw [phase] at current result
    exact ⟨status.lifecycle, .inl rfl,
      executeAddons_move (by simp) (current (by simp)) (mapError_eq_ok result)⟩
  | upgradingNodeGroups | rollingBackNodeGroups =>
    rw [phase] at current result
    exact ⟨status.lifecycle, .inl rfl,
      executeNodegroups_move (by simp) (current (by simp)) (mapError_eq_ok result)⟩
  | upgradingKarpenterNodePools =>
    rw [phase] at current result
    exact ⟨status.lifecycle, .inl rfl, executeKarpenter_move (current (by simp)) result⟩
  | completed | failed => simp [phase, UpgradePhase.isTerminal] at running

open Addons.Field Layout

/-! ## Merging phase details -/

variable {Record : Type} {merge : Record → Record → Record}

@[simp]
theorem mergeOption_some (old new : Record) :
    mergeOption merge (some old) (some new) = some (merge old new) :=
  rfl

theorem mergeOption_self (same : ∀ record, merge record record = record) (record : Option Record) :
    mergeOption merge record record = record := by
  cases record with
  | none => rfl
  | some => simp [same]

theorem planningSchema_merge_self (planning : PlanningStatus) :
    planningSchema.merge planning planning = planning := by
  simp [planningSchema, schema, Layout.merge, skippedText, skipped, skippedTexts, skippedEmpty]

theorem preflightSchema_merge_self (preflight : PreflightStatus) :
    preflightSchema.merge preflight preflight = preflight := by
  simp [preflightSchema, schema, Layout.merge, skippedChecks, skippedEmpty]

theorem controlPlaneSchema_merge_eq {stored new : ControlPlaneStatus}
    (kept : new.completedAt = none → stored.completedAt = none) :
    controlPlaneSchema.merge stored new = new := by
  cases completed : new.completedAt with
  | none | some =>
    rcases new with ⟨_, _, _, _, _, _⟩
    simp_all [controlPlaneSchema, schema, Layout.merge, skippedTime, skipped, nullableText,
      nullableTime, nullable, defaultedNumber, plain]

theorem karpenterNodePoolsSchema_merge_eq {stored new : KarpenterNodePoolsStatus}
    (strategy : new.strategy = "" → stored.strategy = "")
    (pools : new.pools = [] → stored.pools = []) :
    karpenterNodePoolsSchema.merge stored new = new := by
  rcases new with ⟨_, _, _, _, _⟩
  simp [karpenterNodePoolsSchema, schema, Layout.merge, skippedEmptyText, nullableText, nullable,
    defaultedNumber, plain, skippedPools, skippedEmpty_merge_eq _ strategy,
    skippedEmpty_merge_eq _ pools]

theorem phasesSchema_merge_eq {stored new : PhaseStatuses}
    (planning : mergeOption planningSchema.merge stored.planning new.planning = new.planning)
    (preflight : mergeOption preflightSchema.merge stored.preflight new.preflight =
      new.preflight) (controlPlane : mergeOption controlPlaneSchema.merge stored.controlPlane
      new.controlPlane = new.controlPlane) (addons : new.addons = [] → stored.addons = [])
    (nodegroups : new.nodegroups = [] → stored.nodegroups = [])
    (karpenter : mergeOption karpenterNodePoolsSchema.merge stored.karpenterNodePools
      new.karpenterNodePools = new.karpenterNodePools) : phasesSchema.merge stored new = new := by
  simp [phasesSchema, schema, Layout.merge, skippedRecord, planning, preflight, controlPlane,
    skippedAddons, skippedNodegroups, skippedEmpty_merge_eq _ addons,
    skippedEmpty_merge_eq _ nodegroups, karpenter]

@[simp]
theorem mergePlanning_self (planning : Option PlanningStatus) :
    mergeOption planningSchema.merge planning planning = planning :=
  mergeOption_self planningSchema_merge_self planning

@[simp]
theorem mergePreflight_self (preflight : Option PreflightStatus) :
    mergeOption preflightSchema.merge preflight preflight = preflight :=
  mergeOption_self preflightSchema_merge_self preflight

@[simp]
theorem mergeControlPlane_self (controlPlane : Option ControlPlaneStatus) :
    mergeOption controlPlaneSchema.merge controlPlane controlPlane = controlPlane :=
  mergeOption_self (fun _ => controlPlaneSchema_merge_eq id) controlPlane

@[simp]
theorem mergeKarpenter_self (karpenter : Option KarpenterNodePoolsStatus) :
    mergeOption karpenterNodePoolsSchema.merge karpenter karpenter = karpenter :=
  mergeOption_self (fun _ => karpenterNodePoolsSchema_merge_eq id id) karpenter

theorem phasesSchema_merge_self (phases : PhaseStatuses) :
    phasesSchema.merge phases phases = phases := by
  apply phasesSchema_merge_eq <;> simp

/-- Nothing has been planned yet. -/
structure Unplanned (phases : PhaseStatuses) : Prop where
  planning : phases.planning = none
  preflight : phases.preflight = none
  controlPlane : phases.controlPlane = none
  addons : phases.addons = []
  nodegroups : phases.nodegroups = []

structure Staged (phase : UpgradePhase) (phases : PhaseStatuses) : Prop where
  unplanned : phase = .pending ∨ phase = .planning → Unplanned phases
  unchecked : phase = .preflightChecking → phases.preflight = none

theorem mergeOption_none (record : Option Record) : mergeOption merge none record = record := by
  cases record with
  | none | some => rfl

variable {now : Instant} {phases : PhaseStatuses} {calls : List Call}

theorem ControlPlaneMove.completedAt {mode : UpgradeMode} {details details' : ControlPlaneStatus}
    {next : Option UpgradePhase}
    (move : ControlPlaneMove now mode phases details calls next details') :
    details'.completedAt = none → details.completedAt = none := by
  cases move with
  | leave | finish => simp [ControlPlaneStatus.left]
  | give | wait | start | succeed => exact id

theorem mergeKarpenter_plannedPhases (spec : EksUpgradeSpec) (phases : PhaseStatuses)
    (plan : UpgradePlan) (pools : List KarpenterPoolStatus) :
    mergeOption karpenterNodePoolsSchema.merge phases.karpenterNodePools
        (plannedPhases spec phases plan pools).karpenterNodePools =
      (plannedPhases spec phases plan pools).karpenterNodePools := by
  simp only [plannedPhases]
  split
  next config _ =>
    split
    · exact mergeKarpenter_self _
    next nonempty =>
      have named : KarpenterStrategy.text config.strategy ≠ "" := by
        cases config.strategy
        decide
      cases phases.karpenterNodePools with
      | none => rfl
      | some =>
        simp only [mergeOption_some, Option.some.injEq]
        apply karpenterNodePoolsSchema_merge_eq
        · exact fun empty => absurd empty named
        · intro empty
          simp [show pools = [] from empty] at nonempty
  · exact mergeKarpenter_self _

/-- The phase details of a move replace the stored ones. -/
theorem PhaseMove.merge_eq {spec : EksUpgradeSpec} {found : PlanningAnswers}
    {phases' : PhaseStatuses} {phase next : UpgradePhase}
    (move : PhaseMove now spec found phases phase calls next phases')
    (staged : Staged phase phases) : phasesSchema.merge phases phases' = phases' := by
  cases move with
  | begin | reject | addonsDone | nodegroupsDone | karpenterAbsent =>
    exact phasesSchema_merge_self phases
  | plan plan pools =>
    have unplanned := staged.unplanned (.inr rfl)
    apply phasesSchema_merge_eq
    · rw [unplanned.planning, mergeOption_none]
    · rw [unplanned.preflight, mergeOption_none]
    · rw [unplanned.controlPlane, mergeOption_none]
    · exact fun _ => unplanned.addons
    · exact fun _ => unplanned.nodegroups
    · exact mergeKarpenter_plannedPhases spec phases plan pools
  | check => apply phasesSchema_merge_eq <;> simp [staged.unchecked rfl, mergeOption_none]
  | controlPlane _ _ _ _ present _ _ move =>
    apply phasesSchema_merge_eq <;>
      simp [present, controlPlaneSchema_merge_eq move.completedAt]
  | addon | nodegroup => apply phasesSchema_merge_eq <;> simp
  | karpenterDone _ _ present =>
    apply phasesSchema_merge_eq <;> simp [present, karpenterNodePoolsSchema_merge_eq]
  | karpenter _ _ _ present kept =>
    have pools (empty) := List.map_eq_nil_iff.mp (kept.2.symm.trans (List.map_eq_nil_iff.mpr empty))
    apply phasesSchema_merge_eq <;>
      simp [present, karpenterNodePoolsSchema_merge_eq (kept.1 ▸ id) pools]

section Patches

variable (stored new : EksUpgradeStatus)

@[simp]
theorem patchStatus_phase : (patchStatus stored new).phase = new.phase.or stored.phase :=
  rfl

@[simp]
theorem patchStatus_progress :
    (patchStatus stored new).progress = new.progress.or stored.progress :=
  rfl

@[simp]
theorem patchStatus_phases :
    (patchStatus stored new).phases = phasesSchema.merge stored.phases new.phases :=
  rfl

@[simp]
theorem patchStatus_observedGeneration :
    (patchStatus stored new).observedGeneration = new.observedGeneration :=
  rfl

@[simp]
theorem patchStatus_lastTransition :
    (patchStatus stored new).lastTransition = new.lastTransition.or stored.lastTransition := by
  show mergeOption transitionSchema.merge stored.lastTransition new.lastTransition = _
  cases new.lastTransition with
  | none => rfl
  | some =>
    cases stored.lastTransition with
    | none => rfl
    | some => rfl

@[simp]
theorem patchStatus_lifecycle :
    (patchStatus stored new).lifecycle =
      mergeOption lifecycleSchema.merge stored.lifecycle new.lifecycle :=
  rfl

end Patches

theorem mergeVersionLifecycle_self (version : Option VersionLifecycleInfo) :
    mergeOption versionLifecycleSchema.merge version version = version := by
  apply mergeOption_self
  intro _
  simp [versionLifecycleSchema, schema, Layout.merge, requiredText, plain, skippedTime, skipped]

theorem mergeLifecycle_self (lifecycle : Option LifecycleStatus) :
    mergeOption lifecycleSchema.merge lifecycle lifecycle = lifecycle := by
  apply mergeOption_self
  intro _
  simp [lifecycleSchema, schema, Layout.merge, requiredTime, plain, skippedText, skipped,
    skippedRecord, mergeVersionLifecycle_self]

structure SamePoint (status stored : EksUpgradeStatus) : Prop where
  phase : stored.phase = status.phase
  phases : stored.phases = status.phases
  lastTransition : stored.lastTransition = status.lastTransition
  progress : stored.progress = status.progress
  lifecycle : stored.lifecycle = status.lifecycle

theorem currentPhase_of_some {status : EksUpgradeStatus} {phase : UpgradePhase}
    (stored : status.phase = some phase) : status.currentPhase = phase :=
  congrArg (·.getD .pending) stored

theorem SamePoint.currentPhase {status stored : EksUpgradeStatus}
    (same : SamePoint status stored) : stored.currentPhase = status.currentPhase :=
  congrArg (·.getD .pending) same.phase

theorem SamePoint.refl (status : EksUpgradeStatus) : SamePoint status status :=
  ⟨rfl, rfl, rfl, rfl, rfl⟩

variable {new : EksUpgradeStatus}

theorem SamePoint.patchStatus {status server : EksUpgradeStatus}
    (atServer : SamePoint status server) (atNew : SamePoint status new) :
    SamePoint status (patchStatus server new) where
  phase := by simp [atServer.phase, atNew.phase]
  phases := by simp [atServer.phases, atNew.phases, phasesSchema_merge_self]
  lastTransition := by simp [atServer.lastTransition, atNew.lastTransition]
  progress := by simp [atServer.progress, atNew.progress]
  lifecycle := by simp [atServer.lifecycle, atNew.lifecycle, mergeLifecycle_self]

/-! ## The part of a reconcile that runs the handler -/

section

variable (answers : Answers) (resource : Resource)

theorem exit_serve (server : EksUpgradeStatus) :
    (serve answers resource server).exit = .dispatched resource.status.currentPhase := by
  unfold serve
  dsimp only
  split <;> rfl

theorem calls_serve (server : EksUpgradeStatus) :
    (serve answers resource server).calls =
      (dispatch answers resource.spec resource.status resource.status.currentPhase).calls := by
  unfold serve
  dsimp only
  split <;> rfl

theorem authenticate_cases :
    (∃ server, SamePoint resource.status server ∧
      authenticate answers resource = serve answers resource server) ∨
    ((authenticate answers resource).exit = .unauthenticated ∧
      (authenticate answers resource).calls = [] ∧
      (authenticate answers resource).action ≠ none) := by
  have same := SamePoint.refl resource.status
  unfold authenticate
  dsimp only
  split
  · exact .inr ⟨rfl, rfl, by simp⟩
  · split
    · exact .inl ⟨_, same, rfl⟩
    · split
      · refine .inl ⟨_, ?_, rfl⟩
        unfold storeStatus
        split
        · exact same.patchStatus ⟨rfl, rfl, rfl, rfl, rfl⟩
        · exact same
      · exact .inr ⟨rfl, rfl, by simp⟩

theorem reconcile_cases :
    (∃ server, SamePoint resource.status server ∧
      reconcile answers resource = serve answers resource server) ∨
    ((∀ phase, (reconcile answers resource).exit ≠ .dispatched phase) ∧
      (reconcile answers resource).calls = [] ∧ (reconcile answers resource).action ≠ none) := by
  unfold reconcile
  dsimp only
  split_ifs
  · exact .inr ⟨by simp, rfl, by simp⟩
  · exact .inr ⟨by simp, rfl, by simp⟩
  · exact .inr ⟨by simp, rfl, by simp⟩
  · exact .inr ⟨by simp, rfl, by simp⟩
  · rcases authenticate_cases answers resource with served | ⟨exit, calls, action⟩
    · exact .inl served
    · exact .inr ⟨by simp [exit], calls, action⟩

end

inductive Outcome (answers : Answers) (resource : Resource) (calls : List Call)
    (stored : EksUpgradeStatus) : Prop where
  | unmoved (same : SamePoint resource.status stored)
      (observed : stored.observedGeneration = resource.status.observedGeneration ∨
        stored.observedGeneration = resource.generation)
  | restarted (terminal : resource.status.currentPhase.isTerminal = true)
      (changed : resource.status.observedGeneration < resource.generation)
      (storedEq : stored = resetStatus resource.status resource.generation)
  | failed (running : resource.status.currentPhase.isTerminal = false)
      (phase : stored.phase = some .failed)
      (phases : stored.phases = resource.status.phases)
      (lastTransition : stored.lastTransition = resource.status.lastTransition)
      (progress : stored.progress = resource.status.progress)
      (observed : stored.observedGeneration = resource.generation)
      (lifecycle : stored.lifecycle = resource.status.lifecycle)
  | moved (running : resource.status.currentPhase.isTerminal = false) (next : UpgradePhase)
      (move : PhaseMove answers.now resource.spec answers.planning resource.status.phases
        resource.status.currentPhase calls next stored.phases)
      (phase : stored.phase = some next)
      (lastTransition : stored.lastTransition =
        if next = .completed then
          some { mode := resource.spec.upgradeMode, toVersion := resource.spec.targetVersion
                 completedAt := answers.now }
        else resource.status.lastTransition)
      (progress : stored.progress =
        (computeProgress { phase := some next, phases := stored.phases }).or
          resource.status.progress)
      (observed : stored.observedGeneration = resource.generation)
      (lifecycle : resource.status.currentPhase ≠ .planning →
        stored.lifecycle = resource.status.lifecycle)

namespace Outcome

variable {answers : Answers} {resource : Resource} {calls : List Call}
  {server : EksUpgradeStatus}

section

variable (running : resource.status.currentPhase.isTerminal = false)
include running

section

variable (atServer : SamePoint resource.status server)
  (observedServer : server.observedGeneration = resource.status.observedGeneration ∨
    server.observedGeneration = resource.generation)
include atServer observedServer

theorem of_failed (phase : new.phase = some .failed) (phases : new.phases = resource.status.phases)
    (lastTransition : new.lastTransition = resource.status.lastTransition)
    (progress : new.progress = resource.status.progress)
    (observed : new.observedGeneration = resource.generation)
    (lifecycle : new.lifecycle = resource.status.lifecycle) (applied : Bool) :
    Outcome answers resource calls (storeStatus applied server new) := by
  cases applied with
  | false => exact .unmoved atServer observedServer
  | true =>
    apply Outcome.failed running
    · simp [storeStatus, phase]
    · simp [storeStatus, phases, atServer.phases, phasesSchema_merge_self]
    · simp [storeStatus, lastTransition, atServer.lastTransition]
    · simp [storeStatus, progress, atServer.progress]
    · simp [storeStatus, observed]
    · simp [storeStatus, lifecycle, atServer.lifecycle, mergeLifecycle_self]

omit running in
theorem of_samePoint (atNew : SamePoint resource.status new)
    (observed : new.observedGeneration = resource.generation) (applied : Bool) :
    Outcome answers resource calls (storeStatus applied server new) := by
  cases applied with
  | false => exact .unmoved atServer observedServer
  | true => exact .unmoved (atServer.patchStatus atNew) (.inr observed)

theorem of_failStatus (problem : HandlerError) (applied : Bool) :
    Outcome answers resource calls (storeStatus applied server
      (failStatus answers.now resource.generation resource.status problem)) := by
  unfold failStatus
  split
  · apply of_samePoint atServer observedServer
    · exact ⟨rfl, rfl, rfl, rfl, rfl⟩
    · rfl
  · apply of_failed running atServer observedServer <;> rfl

/-- The outcome of a status that the handler returned. -/
theorem of_stampStatus {lifecycle : Option LifecycleStatus} {next : EksUpgradeStatus}
    (staged : Staged resource.status.currentPhase resource.status.phases)
    (moves : MovesTo answers.now resource.spec answers.planning { resource.status with lifecycle }
      resource.status.currentPhase calls next) (checked : lifecycle = resource.status.lifecycle ∨
      resource.status.currentPhase = .planning ∧ lifecycle.isSome) (applied : Bool) :
    Outcome answers resource calls (storeStatus applied server
      (stampStatus answers.now resource.spec resource.generation next)) := by
  obtain ⟨nextPhase, phase, move, retains⟩ := moves
  have merged : phasesSchema.merge server.phases next.phases = next.phases := by
    rw [atServer.phases]
    exact move.merge_eq staged
  have progress : computeProgress next =
      computeProgress { phase := some nextPhase, phases := next.phases } := by
    simp [computeProgress, phase]
  cases applied with
  | false => exact .unmoved atServer observedServer
  | true =>
    apply Outcome.moved running nextPhase
    · simpa [storeStatus, stampStatus, merged] using move
    · simp [storeStatus, stampStatus, phase]
    · by_cases completed : nextPhase = .completed
      · simp [storeStatus, stampStatus, phase, completed]
      · simp [storeStatus, stampStatus, phase, completed, retains.lastTransition,
          atServer.lastTransition]
    · simp [storeStatus, stampStatus, progress, merged, atServer.progress]
    · simp [storeStatus, stampStatus]
    · intro other
      have same : next.lifecycle = resource.status.lifecycle := by
        rcases checked with rfl | ⟨planning, -⟩
        · exact retains.lifecycle
        · exact absurd planning other
      simp [storeStatus, stampStatus, same, atServer.lifecycle, mergeLifecycle_self]

theorem serve (staged : Staged resource.status.currentPhase resource.status.phases) :
    Outcome answers resource (serve answers resource server).calls
      (serve answers resource server).status := by
  cases result : (dispatch answers resource.spec resource.status
      resource.status.currentPhase).result with
  | error stop =>
    cases stop with
    | error problem =>
      simp only [EksUpgrade.serve, result]
      exact of_failStatus running atServer observedServer problem answers.stored
    | panic =>
      simp only [EksUpgrade.serve, result]
      exact .unmoved atServer observedServer
  | ok step =>
    obtain ⟨_, checked, moves⟩ := dispatch_move running result
    simp only [EksUpgrade.serve, result]
    exact of_stampStatus running atServer observedServer staged moves checked answers.stored

end

theorem authenticate (staged : Staged resource.status.currentPhase resource.status.phases) :
    Outcome answers resource (authenticate answers resource).calls
      (authenticate answers resource).status := by
  have same := SamePoint.refl resource.status
  unfold EksUpgrade.authenticate
  dsimp only
  split
  · apply of_failed running same (.inl rfl) <;> rfl
  · split
    · exact serve running same (.inl rfl) staged
    · split
      next _ _ =>
        cases answers.identityStored with
        | false => exact serve running same (.inl rfl) staged
        | true =>
          apply serve running _ _ staged
          · exact same.patchStatus ⟨rfl, rfl, rfl, rfl, rfl⟩
          · exact .inr rfl
      · apply of_failed running same (.inl rfl) <;> rfl

end

theorem reconcile (staged : Staged resource.status.currentPhase resource.status.phases) :
    Outcome answers resource (reconcile answers resource).calls
      (reconcile answers resource).status := by
  have same := SamePoint.refl resource.status
  unfold EksUpgrade.reconcile
  dsimp only
  split
  next terminal =>
    split
    next changed =>
      split
      · exact .restarted terminal changed rfl
      · exact .unmoved same (.inl rfl)
    · exact .unmoved same (.inl rfl)
  next running =>
    split
    · exact .unmoved same (.inl rfl)
    · exact authenticate (by simpa using running) staged

end Outcome

end Addons.EksUpgrade
