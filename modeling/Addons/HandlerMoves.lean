import Addons.UpgradeReconcile

/-!
# Every handler makes one of the moves

One lemma for each handler: the status it returns is reached by a move of its phase, and it
keeps what the other phases recorded.
-/

namespace Addons.EksUpgrade

def ControlPlaneStatus.left (now : Instant) (controlPlane : ControlPlaneStatus) :
    ControlPlaneStatus :=
  { controlPlane with updateId := none, target := none, startedAt := none, completedAt := some now }

/-- The control plane details after the update of the current step succeeded. -/
def ControlPlaneStatus.advanced (controlPlane : ControlPlaneStatus) : ControlPlaneStatus :=
  { controlPlane with
    currentStep := controlPlane.currentStep + 1, updateId := none, target := none
    startedAt := none }

/-- The upgrade path of a plan; empty when there is none. -/
def PhaseStatuses.upgradePath (phases : PhaseStatuses) : List String :=
  (phases.planning.map (·.upgradePath)).getD []

/-- What the control plane handler does to the phase details, and the phase it goes to if it
leaves its own. -/
inductive ControlPlaneMove (now : Instant) (mode : UpgradeMode) (phases : PhaseStatuses)
    (controlPlane : ControlPlaneStatus) :
    List Call → Option UpgradePhase → ControlPlaneStatus → Prop where
  | leave (finished : controlPlane.totalSteps < controlPlane.currentStep)
      (next : UpgradePhase)
      (nextEq : next = afterControlPlane { phases } mode) :
      ControlPlaneMove now mode phases controlPlane [] (some next) (controlPlane.left now)
  | give (steps : controlPlane.currentStep ≤ controlPlane.totalSteps) :
      ControlPlaneMove now mode phases controlPlane [] (some .failed)
        { controlPlane with updateId := none }
  | wait (steps : controlPlane.currentStep ≤ controlPlane.totalSteps) :
      ControlPlaneMove now mode phases controlPlane [] none controlPlane
  | start (version updateId : String)
      (steps : controlPlane.currentStep ≤ controlPlane.totalSteps)
      (target : currentTarget controlPlane phases.upgradePath = some version)
      (idle : controlPlane.updateId = none) :
      ControlPlaneMove now mode phases controlPlane [.updateStarted version (some updateId)] none
        { controlPlane with
          target := some version, updateId := some updateId, startedAt := some now }
  | succeed (version updateId : String)
      (steps : controlPlane.currentStep < controlPlane.totalSteps)
      (target : currentTarget controlPlane phases.upgradePath = some version)
      (active : controlPlane.updateId = some updateId) :
      ControlPlaneMove now mode phases controlPlane [.updateSucceeded version updateId] none
        controlPlane.advanced
  | finish (version updateId : String)
      (steps : controlPlane.currentStep = controlPlane.totalSteps)
      (target : currentTarget controlPlane phases.upgradePath = some version)
      (active : controlPlane.updateId = some updateId)
      (next : UpgradePhase)
      (nextEq : next = afterControlPlane { phases } mode) :
      ControlPlaneMove now mode phases controlPlane [.updateSucceeded version updateId] (some next)
        (controlPlane.advanced.left now)

inductive PhaseMove (now : Instant) (spec : EksUpgradeSpec)
    (found : PlanningAnswers) (phases : PhaseStatuses) :
    UpgradePhase → List Call → UpgradePhase → PhaseStatuses → Prop where
  | begin : PhaseMove now spec found phases .pending [] .planning phases
  | reject (rollback : spec.upgradeMode = .rollback) :
      PhaseMove now spec found phases .planning [] .failed phases
  | plan (plan : UpgradePlan) (pools : List KarpenterPoolStatus)
      (created : createUpgradePlan spec found = .ok plan)
      (planned : planKarpenter spec found = .ok pools)
      (configured : spec.karpenterNodePools = none → pools = [])
      (pending : ∀ pool ∈ pools, pool.status = .pending)
      (next : UpgradePhase)
      (nextEq : next =
        if plan.isEmpty && pools.isEmpty then .completed else .preflightChecking) :
      PhaseMove now spec found phases .planning [] next (plannedPhases spec phases plan pools)
  | check (details : PreflightStatus) (next : UpgradePhase)
      (choice : next = .failed ∨ (spec.dryRun = true ∧ next = .completed) ∨
        (spec.dryRun = false ∧ next = afterPreflight { phases } spec.upgradeMode)) :
      PhaseMove now spec found phases .preflightChecking [] next
        { phases with preflight := some details }
  | controlPlane (phase : UpgradePhase)
      (inPhase : phase = .upgradingControlPlane ∨ phase = .rollingBackControlPlane)
      (details details' : ControlPlaneStatus) (present : phases.controlPlane = some details)
      (calls : List Call) (next : Option UpgradePhase)
      (move : ControlPlaneMove now spec.upgradeMode phases details calls next details') :
      PhaseMove now spec found phases phase calls (next.getD phase)
        { phases with controlPlane := some details' }
  | addonsDone (phase : UpgradePhase)
      (inPhase : phase = .upgradingAddons ∨ phase = .rollingBackAddons)
      (done : ∀ addon ∈ phases.addons, addon.status.isDone = true)
      (next : UpgradePhase) (nextEq : next = afterAddons { phases } spec.upgradeMode) :
      PhaseMove now spec found phases phase [] next phases
  | addon (phase : UpgradePhase)
      (inPhase : phase = .upgradingAddons ∨ phase = .rollingBackAddons)
      (index : Nat) (change : AddonStatus → AddonStatus)
      (named : ∀ addon, (change addon).name = addon.name)
      (next : UpgradePhase) (nextEq : next = phase ∨ next = .failed) :
      PhaseMove now spec found phases phase [] next
        { phases with addons := phases.addons.modify index change }
  | nodegroupsDone (phase : UpgradePhase)
      (inPhase : phase = .upgradingNodeGroups ∨ phase = .rollingBackNodeGroups)
      (done : ∀ group ∈ phases.nodegroups, group.status.isDone = true)
      (next : UpgradePhase) (nextEq : next = afterNodegroups { phases } spec.upgradeMode) :
      PhaseMove now spec found phases phase [] next phases
  | nodegroup (phase : UpgradePhase)
      (inPhase : phase = .upgradingNodeGroups ∨ phase = .rollingBackNodeGroups)
      (index : Nat) (change : NodegroupStatus → NodegroupStatus)
      (released : ∀ group, (change group).status.isDone = true →
        (change group).updateId = none ∨ change group = group)
      (named : ∀ group, (change group).name = group.name)
      (next : UpgradePhase) (nextEq : next = phase ∨ next = .failed) :
      PhaseMove now spec found phases phase [] next
        { phases with nodegroups := phases.nodegroups.modify index change }
  | karpenterAbsent (configured : spec.karpenterNodePools.isSome = true)
      (absent : phases.karpenterNodePools = none) :
      PhaseMove now spec found phases .upgradingKarpenterNodePools [] .completed phases
  | karpenterDone (karpenter : KarpenterNodePoolsStatus)
      (configured : spec.karpenterNodePools.isSome = true)
      (present : phases.karpenterNodePools = some karpenter)
      (done : ∀ pool ∈ karpenter.pools, pool.status.isDone = true ∨ pool.status = .failed) :
      PhaseMove now spec found phases .upgradingKarpenterNodePools [] .completed
        { phases with karpenterNodePools := some { karpenter with activePool := none } }
  | karpenter (karpenter karpenter' : KarpenterNodePoolsStatus)
      (configured : spec.karpenterNodePools.isSome = true)
      (present : phases.karpenterNodePools = some karpenter)
      (kept : karpenter'.strategy = karpenter.strategy ∧
        karpenter'.pools.map (·.name) = karpenter.pools.map (·.name))
      (calls : List Call)
      (deletions : ∀ call ∈ calls, ∃ pool nodeClaim, call = .nodeClaimDeleted pool nodeClaim)
      (next : UpgradePhase)
      (nextEq : next = .failed ∨
        next = .upgradingKarpenterNodePools ∧
          ∀ pool ∈ karpenter'.pools, pool.status = .failed →
            ∃ earlier ∈ karpenter.pools, earlier.status = .failed) :
      PhaseMove now spec found phases .upgradingKarpenterNodePools calls next
        { phases with karpenterNodePools := some karpenter' }

/-- What a handler leaves of the other members of a status. -/
structure Retains (status next : EksUpgradeStatus) : Prop where
  lastTransition : next.lastTransition = status.lastTransition
  identity : next.identity = status.identity
  currentVersion : status.currentVersion.isSome = true → next.currentVersion.isSome = true
  startedAt : status.startedAt.isSome = true → next.startedAt.isSome = true
  message : status.message.isSome = true → next.message.isSome = true
  completedAt : status.completedAt.isSome = true → next.completedAt.isSome = true
  lifecycle : next.lifecycle = status.lifecycle
  conditions : status.conditions ≠ [] → next.conditions ≠ []

namespace Retains

variable {status next last : EksUpgradeStatus}

theorem refl (status : EksUpgradeStatus) : Retains status status where
  lastTransition := rfl
  identity := rfl
  currentVersion := id
  startedAt := id
  message := id
  completedAt := id
  lifecycle := rfl
  conditions := id

theorem trans (first : Retains status next) (second : Retains next last) : Retains status last where
  lastTransition := second.lastTransition.trans first.lastTransition
  identity := second.identity.trans first.identity
  currentVersion := second.currentVersion ∘ first.currentVersion
  startedAt := second.startedAt ∘ first.startedAt
  message := second.message ∘ first.message
  completedAt := second.completedAt ∘ first.completedAt
  lifecycle := second.lifecycle.trans first.lifecycle
  conditions := second.conditions ∘ first.conditions

variable (status)

theorem phases (phases : PhaseStatuses) : Retains status { status with phases } where
  __ := refl status

theorem observedGeneration (observedGeneration : Nat) :
    Retains status { status with observedGeneration } where
  __ := refl status

theorem setCondition (now : Instant) (kind value reason : String) (message : Option String) :
    Retains status (setCondition now status kind value reason message) where
  __ := refl status
  conditions _ := by simp [EksUpgrade.setCondition]

theorem setPhase (now : Instant) (phase : UpgradePhase) :
    Retains status (setPhase now status phase) where
  __ := refl status
  completedAt isSet := by
    simp only [EksUpgrade.setPhase]
    split
    · rfl
    · exact isSet

theorem setFailed (now : Instant) (message : String) :
    Retains status (setFailed now status message) where
  __ := refl status
  message _ := rfl
  completedAt _ := rfl
  conditions _ := by simp [EksUpgrade.setFailed, EksUpgrade.setCondition]

theorem transitionTo (now : Instant) (phase : UpgradePhase) :
    Retains status (transitionTo now status phase) := by
  unfold EksUpgrade.transitionTo
  split
  · exact (setPhase status now phase).trans (setCondition ..)
  · exact setPhase status now phase

end Retains

open Transaction (bind_eq_ok)

/-- A handler's status comes from a move of the phase and keeps the rest. -/
def MovesTo (now : Instant) (spec : EksUpgradeSpec)
    (found : PlanningAnswers) (status : EksUpgradeStatus)
    (phase : UpgradePhase) (calls : List Call) (next : EksUpgradeStatus) : Prop :=
  ∃ nextPhase, next.phase = some nextPhase ∧
    PhaseMove now spec found status.phases phase calls nextPhase next.phases ∧ Retains status next

theorem eq_of_ok {ε α β : Type} {value other : α} {more rest : β}
    (same : (.ok (value, more) : Except ε (α × β)) = .ok (other, rest)) : value = other :=
  congrArg Prod.fst (Except.ok.inj same)

variable {now : Instant} {spec : EksUpgradeSpec} {found : PlanningAnswers}
  {status next : EksUpgradeStatus} {phase : UpgradePhase} {requeue : Option Nat}

section ControlPlane

variable {details : ControlPlaneStatus}

theorem modifyControlPlane_phases (present : status.phases.controlPlane = some details)
    (change : ControlPlaneStatus → ControlPlaneStatus) :
    (modifyControlPlane status change).phases =
      { status.phases with controlPlane := some (change details) } := by
  simp [modifyControlPlane, present]

theorem MovesTo.controlPlane {calls : List Call} {nextPhase : Option UpgradePhase}
    {details' : ControlPlaneStatus}
    (inPhase : phase = .upgradingControlPlane ∨ phase = .rollingBackControlPlane)
    (present : status.phases.controlPlane = some details)
    (move : ControlPlaneMove now spec.upgradeMode status.phases details calls nextPhase details')
    (phaseEq : next.phase = some (nextPhase.getD phase))
    (phasesEq : next.phases = { status.phases with controlPlane := some details' })
    (retains : Retains status next) : MovesTo now spec found status phase calls next := by
  refine ⟨nextPhase.getD phase, phaseEq, ?_, retains⟩
  rw [phasesEq]
  exact .controlPlane phase inPhase details details' present calls nextPhase move

theorem retains_modifyControlPlane (status : EksUpgradeStatus)
    (change : ControlPlaneStatus → ControlPlaneStatus) :
    Retains status (modifyControlPlane status change) :=
  .phases status _

theorem retains_advanceFromControlPlane (now : Instant) (status : EksUpgradeStatus)
    (mode : UpgradeMode) : Retains status (advanceFromControlPlane now status mode) :=
  (retains_modifyControlPlane status _).trans (.transitionTo ..)

theorem advanceFromControlPlane_phases (present : status.phases.controlPlane = some details)
    (mode : UpgradeMode) :
    (advanceFromControlPlane now status mode).phases =
      { status.phases with controlPlane := some (details.left now) } := by
  simp only [advanceFromControlPlane, transitionTo_phases]
  exact modifyControlPlane_phases present _

theorem advanceFromControlPlane_phase (mode : UpgradeMode) :
    (advanceFromControlPlane now status mode).phase =
      some (afterControlPlane { phases := status.phases } mode) := by
  simp only [advanceFromControlPlane, transitionTo_phase]
  cases mode <;> rfl

variable {answer : String} {step total : Nat} {mode : UpgradeMode}

section

variable {version : String} {answers : ControlPlaneAnswers}
  (inPhase : phase = .upgradingControlPlane ∨ phase = .rollingBackControlPlane)
  (current : status.phase = some phase)
include inPhase current

section

variable (present : status.phases.controlPlane = some details)
  (steps : details.currentStep ≤ details.totalSteps)
  (target : currentTarget details status.phases.upgradePath = some version)
include present steps target

theorem processUpdateResult_move {answer updateId : String}
    (active : details.updateId = some updateId) :
    MovesTo now spec found status phase
      (if answer = "Successful" then [.updateSucceeded version updateId] else [])
      (processUpdateResult now status answer details.currentStep details.totalSteps version
        spec.upgradeMode).1 := by
  by_cases successful : answer = "Successful"
  · subst successful
    simp only [processUpdateResult, if_true]
    have versioned : Retains status { status with currentVersion := some version } :=
      { Retains.refl status with currentVersion := fun _ => rfl }
    have moved := versioned.trans (retains_modifyControlPlane _ fun controlPlane =>
      { controlPlane with
        currentStep := details.currentStep + 1, updateId := none, target := none
        startedAt := none })
    by_cases last : details.totalSteps < details.currentStep + 1
    · rw [if_pos last]
      apply MovesTo.controlPlane inPhase present
        (.finish version updateId (by omega) target active _ rfl)
      · rw [advanceFromControlPlane_phase]
        cases spec.upgradeMode <;> rfl
      · rw [@advanceFromControlPlane_phases _ _ details.advanced]
        · rfl
        · simp [modifyControlPlane, present, ControlPlaneStatus.advanced]
      · exact moved.trans (retains_advanceFromControlPlane ..)
    · rw [if_neg last]
      apply MovesTo.controlPlane inPhase present
        (.succeed version updateId (by omega) target active)
      · exact current
      · exact modifyControlPlane_phases present _
      · exact moved
  · rw [if_neg successful]
    by_cases ended : answer = "Failed" ∨ answer = "Cancelled"
    · rcases ended with rfl | rfl
      all_goals
        apply MovesTo.controlPlane inPhase present (.give steps)
        · rfl
        · exact modifyControlPlane_phases present _
        · exact (retains_modifyControlPlane _ _).trans (.setFailed ..)
    · unfold processUpdateResult
      split
      · exact absurd rfl successful
      · exact absurd (.inl rfl) ended
      · exact absurd (.inr rfl) ended
      · apply MovesTo.controlPlane inPhase present (.wait steps)
        · exact current
        · rw [← present]
        · exact .refl status

theorem pollControlPlane_move {updateId : String} (active : details.updateId = some updateId)
    (result : (pollControlPlane now spec status details version updateId answers).result =
      .ok (next, requeue)) :
    MovesTo now spec found status phase
      (pollControlPlane now spec status details version updateId answers).calls next := by
  unfold pollControlPlane at result ⊢
  dsimp only at result ⊢
  split at result
  next late =>
    rw [if_pos late]
    obtain rfl := eq_of_ok result
    apply MovesTo.controlPlane inPhase present (.give steps)
    · rfl
    · exact modifyControlPlane_phases present _
    · exact (retains_modifyControlPlane _ _).trans (.setFailed ..)
  next early =>
    rw [if_neg early]
    cases answered : answers.updateStatus with
    | error => simp [answered] at result
    | ok =>
      simp only [answered, Except.ok.injEq] at result ⊢
      obtain rfl : _ = next := congrArg Prod.fst result
      exact processUpdateResult_move inPhase current present steps target active

theorem startControlPlane_move (idle : details.updateId = none)
    (result : (startControlPlane now status version answers).result = .ok (next, requeue)) :
    MovesTo now spec found status phase
    (startControlPlane now status version answers).calls next := by
  unfold startControlPlane at result ⊢
  cases started : answers.start with
  | accepted updateId =>
    simp only [started] at result ⊢
    obtain rfl := eq_of_ok result
    apply MovesTo.controlPlane inPhase present (.start version updateId steps target idle)
    · exact current
    · exact modifyControlPlane_phases present _
    · exact retains_modifyControlPlane status _
  | refused | unanswered => simp [started] at result

end

theorem executeControlPlane_move
    (result : (executeControlPlane now spec status answers).result = .ok (next, requeue)) :
    MovesTo now spec found status phase
    (executeControlPlane now spec status answers).calls next := by
  unfold executeControlPlane at result ⊢
  rcases present : status.phases.controlPlane with _ | details
  · simp [present] at result
  simp only [present] at result ⊢
  by_cases finished : details.totalSteps < details.currentStep
  · simp only [if_pos finished] at result ⊢
    obtain rfl := eq_of_ok result
    apply MovesTo.controlPlane inPhase present (.leave finished _ rfl)
    · exact advanceFromControlPlane_phase spec.upgradeMode
    · exact advanceFromControlPlane_phases present spec.upgradeMode
    · exact retains_advanceFromControlPlane ..
  · simp only [if_neg finished] at result ⊢
    have steps : details.currentStep ≤ details.totalSteps := by omega
    cases target : currentTarget details ((status.phases.planning.map (·.upgradePath)).getD []) with
    | none => simp [target] at result
    | some =>
      simp only [target] at result ⊢
      cases active : details.updateId with
      | none =>
        simp only [active] at result ⊢
        exact startControlPlane_move inPhase current present steps target active result
      | some =>
        simp only [active] at result ⊢
        exact pollControlPlane_move inPhase current present steps target active result

end

end ControlPlane

section Components

variable {answers : ComponentAnswers} {index : Nat} {name answer : String}

section

variable (inPhase : phase = .upgradingAddons ∨ phase = .rollingBackAddons)
include inPhase

theorem MovesTo.addon (index : Nat) (change : AddonStatus → AddonStatus)
    {nextPhase : UpgradePhase} (nextEq : nextPhase = phase ∨ nextPhase = .failed)
    (phaseEq : next.phase = some nextPhase) (phasesEq : next.phases =
      { status.phases with addons := status.phases.addons.modify index change })
    (named : ∀ addon, (change addon).name = addon.name)
    (retains : Retains status next) : MovesTo now spec found status phase [] next := by
  refine ⟨nextPhase, phaseEq, ?_, retains⟩
  rw [phasesEq]
  exact .addon phase inPhase index change named nextPhase nextEq

theorem applyAddonPollResult_move (current : status.phase = some phase) :
    MovesTo now spec found status phase []
    (applyAddonPollResult now status index name answer).1 := by
  unfold applyAddonPollResult
  split_ifs
  · exact .addon inPhase index _ (.inl rfl) current rfl (fun _ => rfl) (.phases status _)
  · exact .addon inPhase index _ (.inr rfl) rfl rfl (fun _ => rfl)
      ((Retains.phases status _).trans (.setFailed ..))
  · exact .addon inPhase index id (.inl rfl) current (by simp) (fun _ => rfl) (.refl status)

theorem executeAddons_move (current : status.phase = some phase)
    (result : executeAddons now spec status answers = .ok (next, requeue)) :
    MovesTo now spec found status phase [] next := by
  unfold executeAddons at result
  cases active : status.phases.addons.findIdx? (fun addon => !addon.status.isDone) with
  | none =>
    simp only [active] at result
    obtain rfl := eq_of_ok result
    have done : ∀ addon ∈ status.phases.addons, addon.status.isDone := by
      simpa using List.findIdx?_eq_none_iff.mp active
    refine ⟨afterAddons status spec.upgradeMode, by simp, ?_, .transitionTo ..⟩
    rw [transitionTo_phases]
    exact .addonsDone phase inPhase done _ rfl
  | some index =>
    have idle : MovesTo now spec found status phase [] status :=
      .addon inPhase index id (.inl rfl) current (by simp) (fun _ => rfl) (.refl status)
    simp only [active] at result
    cases atIndex : status.phases.addons[index]? with
    | none =>
      simp only [atIndex] at result
      obtain rfl := eq_of_ok result
      exact idle
    | some addon =>
      simp only [atIndex] at result
      cases state : addon.status with
      | pending =>
        simp only [state] at result
        obtain ⟨_, -, result⟩ := bind_eq_ok result
        obtain rfl := eq_of_ok result
        exact .addon inPhase index _ (.inl rfl) current rfl (fun _ => rfl) (.phases status _)
      | inProgress =>
        simp only [state] at result
        obtain ⟨_, -, result⟩ := bind_eq_ok result
        obtain rfl := eq_of_ok result
        exact applyAddonPollResult_move inPhase current
      | failed =>
        simp only [state] at result
        obtain rfl := eq_of_ok result
        exact .addon inPhase index id (.inr rfl) rfl (by simp) (fun _ => rfl) (.setFailed ..)
      | completed | skipped =>
        simp only [state] at result
        obtain rfl := eq_of_ok result
        exact idle

end

section

variable (inPhase : phase = .upgradingNodeGroups ∨ phase = .rollingBackNodeGroups)
include inPhase

theorem MovesTo.nodegroup (index : Nat) (change : NodegroupStatus → NodegroupStatus)
    (released : ∀ group, (change group).status.isDone →
      (change group).updateId = none ∨ change group = group)
    {nextPhase : UpgradePhase} (nextEq : nextPhase = phase ∨ nextPhase = .failed)
    (phaseEq : next.phase = some nextPhase) (phasesEq : next.phases =
      { status.phases with nodegroups := status.phases.nodegroups.modify index change })
    (named : ∀ group, (change group).name = group.name)
    (retains : Retains status next) : MovesTo now spec found status phase [] next := by
  refine ⟨nextPhase, phaseEq, ?_, retains⟩
  rw [phasesEq]
  exact .nodegroup phase inPhase index change released named nextPhase nextEq

theorem applyPollResult_move (current : status.phase = some phase) :
    MovesTo now spec found status phase [] (applyPollResult now status index name answer).1 := by
  have failure : ∀ text, MovesTo now spec found status phase [] (setFailed now
        (modifyNodegroup status index fun group =>
          { group with status := .failed, updateId := none }) text) := by
    intro _
    exact .nodegroup inPhase index _ (fun _ _ => .inl rfl) (.inr rfl) rfl rfl (fun _ => rfl)
      ((Retains.phases status _).trans (.setFailed ..))
  unfold applyPollResult
  split
  · exact .nodegroup inPhase index _ (fun _ _ => .inl rfl) (.inl rfl) current rfl (fun _ => rfl)
      (.phases status _)
  · exact failure _
  · exact failure _
  · exact .nodegroup inPhase index id (fun _ _ => .inr rfl) (.inl rfl) current (by simp)
      (fun _ => rfl)
      (.refl status)

theorem executeNodegroups_move (current : status.phase = some phase)
    (result : executeNodegroups now spec status answers = .ok (next, requeue)) :
    MovesTo now spec found status phase [] next := by
  unfold executeNodegroups at result
  cases active : findActiveNodegroup status with
  | none =>
    simp only [active] at result
    obtain rfl := eq_of_ok result
    have done : ∀ group ∈ status.phases.nodegroups, group.status.isDone := by
      simpa using List.findIdx?_eq_none_iff.mp active
    refine ⟨afterNodegroups status spec.upgradeMode, by simp, ?_, .transitionTo ..⟩
    rw [transitionTo_phases]
    exact .nodegroupsDone phase inPhase done _ rfl
  | some index =>
    have idle : MovesTo now spec found status phase [] status :=
      .nodegroup inPhase index id (fun _ _ => .inr rfl) (.inl rfl) current (by simp) (fun _ => rfl)
        (.refl status)
    simp only [active] at result
    cases atIndex : status.phases.nodegroups[index]? with
    | none =>
      simp only [atIndex] at result
      obtain rfl := eq_of_ok result
      exact idle
    | some group =>
      simp only [atIndex] at result
      cases state : group.status with
      | pending =>
        simp only [state] at result
        obtain ⟨_, -, result⟩ := bind_eq_ok result
        obtain rfl := eq_of_ok result
        exact .nodegroup inPhase index _ (fun _ done => by simp [ComponentStatus.isDone] at done)
          (.inl rfl) current rfl (fun _ => rfl) (.phases status _)
      | inProgress =>
        simp only [state] at result
        split at result
        · obtain rfl := eq_of_ok result
          exact .nodegroup inPhase index _ (fun _ _ => .inl rfl) (.inr rfl) rfl rfl (fun _ => rfl)
            ((Retains.phases status _).trans (.setFailed ..))
        · obtain ⟨_, -, result⟩ := bind_eq_ok result
          obtain rfl := eq_of_ok result
          exact applyPollResult_move inPhase current
      | failed =>
        simp only [state] at result
        obtain rfl := eq_of_ok result
        exact .nodegroup inPhase index id (fun _ _ => .inr rfl) (.inr rfl) rfl (by simp)
          (fun _ => rfl)
          (.setFailed ..)
      | completed | skipped =>
        simp only [state] at result
        obtain rfl := eq_of_ok result
        exact idle

end

end Components

end Addons.EksUpgrade
