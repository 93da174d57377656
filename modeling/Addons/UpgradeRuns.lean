import Addons.ReconcileOutcomes
import Addons.TransitionSystem

/-!
# Runs of the upgrade resource

Invariants of every run, whatever is edited and answered: the phase details fit the phase, and
a phase is entered only when the plan has work for it.
-/

namespace Addons.EksUpgrade

open TransitionSystem ControlPlaneStatus PhaseStatuses Option List

def Resource.Step (resource : Resource) (event : Event) (after : Resource) : Prop :=
  after = resource.act event

/-- Whether the phase comes after the preflight checks. -/
def UpgradePhase.isLater : UpgradePhase → Bool
  | pending => false
  | planning => false
  | preflightChecking => false
  | _ => true

variable (status : EksUpgradeStatus) (mode : UpgradeMode)

theorem isLater_afterControlPlane : (afterControlPlane status mode).isLater := by
  cases mode with
  | forward => simp only [afterControlPlane]; split_ifs <;> rfl
  | rollback => rfl

theorem isLater_afterAddons : (afterAddons status mode).isLater := by
  cases mode with
  | forward | rollback => simp only [afterAddons]; split_ifs <;> rfl

theorem isLater_afterNodegroups : (afterNodegroups status mode).isLater := by
  cases mode with
  | forward | rollback => simp only [afterNodegroups]; split_ifs <;> rfl

theorem isLater_afterPreflight : (afterPreflight status mode).isLater := by
  cases mode with
  | forward | rollback => simp only [afterPreflight]; split_ifs <;> rfl

variable {now : Instant} {spec : EksUpgradeSpec}
  {found : PlanningAnswers} {phases phases' : PhaseStatuses}
  {phase next : UpgradePhase} {calls : List Call}
  {mode} {details details' : ControlPlaneStatus}

theorem ControlPlaneMove.isLater {next : Option UpgradePhase}
    (move : ControlPlaneMove now mode phases details calls next details') :
    ∀ phase, next = some phase → phase.isLater := by
  intro _ leaves
  cases move with
  | leave _ _ nextEq | finish _ _ _ _ _ _ nextEq =>
    rw [← some.inj leaves, nextEq]
    exact isLater_afterControlPlane _ _
  | give => exact some.inj leaves ▸ rfl
  | wait | start | succeed => cases leaves

theorem Staged.of_isLater (later : phase.isLater) : Staged phase phases where
  unplanned early := by
    rcases early with rfl | rfl
    · cases later
    · cases later
  unchecked early := by
    subst early
    cases later

/-- The phases that poll a control plane update, and the one that may leave it behind. -/
def UpgradePhase.holdsControlPlaneUpdate : UpgradePhase → Bool
  | upgradingControlPlane => true
  | rollingBackControlPlane => true
  | failed => true
  | _ => false

/-- The phases that poll node group updates, and the one that may leave them behind. -/
def UpgradePhase.holdsNodegroupUpdate : UpgradePhase → Bool
  | upgradingNodeGroups => true
  | rollingBackNodeGroups => true
  | failed => true
  | _ => false

/-- Update ids are held only in the phases that poll them. -/
structure Released (phase : UpgradePhase) (phases : PhaseStatuses) : Prop where
  controlPlane : phase.holdsControlPlaneUpdate = false →
    ∀ details, phases.controlPlane = some details → details.updateId = none
  done : ∀ group ∈ phases.nodegroups, group.status.isDone = true → group.updateId = none
  nodegroups : phase.holdsNodegroupUpdate = false →
    ∀ group ∈ phases.nodegroups, group.updateId = none

theorem Released.of_eq (released : Released phase phases)
    (controlPlane : phases'.controlPlane = phases.controlPlane)
    (nodegroups : phases'.nodegroups = phases.nodegroups)
    (idle : phase.holdsControlPlaneUpdate = false) (settled : phase.holdsNodegroupUpdate = false) :
    Released next phases' where
  controlPlane _ := by
    rw [controlPlane]
    exact released.controlPlane idle
  done := by
    rw [nodegroups]
    exact released.done
  nodegroups _ := by
    rw [nodegroups]
    exact released.nodegroups settled

theorem ControlPlaneMove.released {next : Option UpgradePhase}
    (move : ControlPlaneMove now mode phases details calls next details') :
    next = none ∨ details'.updateId = none := by
  cases move with
  | leave | give | finish => exact .inr rfl
  | wait | start | succeed => exact .inl rfl

theorem mem_of_mem_modify {Value : Type} {change : Value → Value} {values : List Value}
    {index : Nat} {value : Value} (member : value ∈ values.modify index change) :
    value ∈ values ∨ ∃ earlier ∈ values, value = change earlier := by
  induction values generalizing index with
  | nil => simp at member
  | cons head _ ih =>
    cases index with
    | zero =>
      rcases mem_cons.mp member with rfl | member
      · exact .inr ⟨head, mem_cons_self, rfl⟩
      · exact .inl (mem_cons_of_mem head member)
    | succ =>
      rcases mem_cons.mp member with rfl | member
      · exact .inl mem_cons_self
      · rcases ih member with member | ⟨earlier, earlierMem, valueEq⟩
        · exact .inl (mem_cons_of_mem head member)
        · exact .inr ⟨earlier, mem_cons_of_mem head earlierMem, valueEq⟩

section

variable (move : PhaseMove now spec found phases phase calls next phases')
include move

theorem PhaseMove.stage :
    (phase = .pending ∧ next = .planning ∧ phases' = phases) ∨
      (phase = .planning ∧ next = .preflightChecking ∧ phases'.preflight = phases.preflight) ∨
      next.isLater := by
  cases move with
  | begin => exact .inl ⟨rfl, rfl, rfl⟩
  | reject | karpenterAbsent | karpenterDone => exact .inr (.inr rfl)
  | plan _ _ _ _ _ _ _ nextEq =>
    split_ifs at nextEq
    · exact .inr (.inr (nextEq ▸ rfl))
    · exact .inr (.inl ⟨rfl, nextEq, rfl⟩)
  | check _ _ choice =>
    right
    right
    rcases choice with rfl | ⟨-, rfl⟩ | ⟨-, rfl⟩
    · rfl
    · rfl
    · exact isLater_afterPreflight _ _
  | controlPlane _ inPhase _ _ _ _ next move =>
    right
    right
    cases leaves : next with
    | none => rcases inPhase with rfl | rfl <;> rfl
    | some other => exact move.isLater other leaves
  | addonsDone _ _ _ _ nextEq =>
    exact .inr (.inr (nextEq ▸ isLater_afterAddons _ _))
  | addon _ inPhase _ _ _ _ nextEq | nodegroup _ inPhase _ _ _ _ _ nextEq =>
    right
    right
    rcases nextEq with rfl | rfl
    · rcases inPhase with rfl | rfl <;> rfl
    · rfl
  | nodegroupsDone _ _ _ _ nextEq =>
    exact .inr (.inr (nextEq ▸ isLater_afterNodegroups _ _))
  | karpenter _ _ _ _ _ _ _ _ nextEq =>
    rcases nextEq with rfl | ⟨rfl, -⟩ <;> exact .inr (.inr rfl)

theorem PhaseMove.staged (staged : Staged phase phases) : Staged next phases' := by
  rcases move.stage with ⟨rfl, rfl, rfl⟩ | ⟨rfl, rfl, same⟩ | later
  · have unplanned := staged.unplanned (.inl rfl)
    exact ⟨fun _ => unplanned, fun _ => unplanned.preflight⟩
  · have unplanned := staged.unplanned (.inr rfl)
    exact ⟨by simp, fun _ => same.trans unplanned.preflight⟩
  · exact .of_isLater later

/-- Moves let go of the update ids of the phase they leave. -/
theorem PhaseMove.released (released : Released phase phases) : Released next phases' := by
  cases move with
  | begin | reject | check | karpenterAbsent | karpenterDone | karpenter =>
    exact released.of_eq rfl rfl rfl rfl
  | plan =>
    constructor
    · intro _ _ present
      simp only [plannedPhases, some.injEq] at present
      exact present ▸ rfl
    · intro group member _
      obtain ⟨info, -, rfl⟩ := mem_map.mp member
      rfl
    · intro _ group member
      obtain ⟨_, -, rfl⟩ := mem_map.mp member
      rfl
  | controlPlane phase inPhase _ _ _ _ _ move =>
    have settled : phase.holdsNodegroupUpdate = false := by
      rcases inPhase with rfl | rfl <;> rfl
    constructor
    · intro idle _ otherEq
      rcases move.released with stays | cleared
      · subst stays
        rcases inPhase with rfl | rfl
        · cases idle
        · cases idle
      · exact some.inj otherEq ▸ cleared
    · exact released.done
    · exact fun _ => released.nodegroups settled
  | addonsDone _ inPhase | addon _ inPhase =>
    rcases inPhase with rfl | rfl
    · exact released.of_eq rfl rfl rfl rfl
    · exact released.of_eq rfl rfl rfl rfl
  | nodegroupsDone phase inPhase done =>
    have idle : phase.holdsControlPlaneUpdate = false := by
      rcases inPhase with rfl | rfl <;> rfl
    exact ⟨fun _ => released.controlPlane idle, released.done,
      fun _ group member => released.done group member (done group member)⟩
  | nodegroup phase inPhase _ _ letGo _ _ nextEq =>
    have idle : phase.holdsControlPlaneUpdate = false := by
      rcases inPhase with rfl | rfl <;> rfl
    constructor
    · exact fun _ => released.controlPlane idle
    · intro group member done
      rcases mem_of_mem_modify member with member | ⟨earlier, earlierMem, rfl⟩
      · exact released.done group member done
      · rcases letGo earlier done with cleared | same
        · exact cleared
        · rw [same] at done ⊢
          exact released.done earlier earlierMem done
    · intro settled
      rcases nextEq with rfl | rfl
      · rcases inPhase with rfl | rfl
        · cases settled
        · cases settled
      · cases settled

end

/-- What holds of a phase and its details after a reconcile. -/
theorem Outcome.holds {Holds : UpgradePhase → PhaseStatuses → Prop} {answers : Answers}
    {resource : Resource} {stored : EksUpgradeStatus}
    (outcome : Outcome answers resource calls stored)
    (before : Holds resource.status.currentPhase resource.status.phases)
    (restarted : ∀ phases, Unplanned phases →
      phases.karpenterNodePools = resource.status.phases.karpenterNodePools →
        Holds .pending phases) (failed : Holds .failed resource.status.phases)
    (moved : ∀ next phases, PhaseMove answers.now resource.spec answers.planning
      resource.status.phases resource.status.currentPhase calls next phases → Holds next phases) :
    Holds stored.currentPhase stored.phases := by
  cases outcome with
  | unmoved same =>
    rw [same.currentPhase, same.phases]
    exact before
  | restarted _ _ storedEq =>
    subst storedEq
    exact restarted _ ⟨rfl, rfl, rfl, rfl, rfl⟩ rfl
  | failed _ phase phases =>
    rw [currentPhase_of_some phase, phases]
    exact failed
  | moved _ next move phase =>
    rw [currentPhase_of_some phase]
    exact moved next _ move

structure Resource.Sound (resource : Resource) : Prop where
  staged : Staged resource.status.currentPhase resource.status.phases
  released : Released resource.status.currentPhase resource.status.phases
  observed : resource.status.observedGeneration ≤ resource.generation

namespace Resource.Sound

variable {resource : Resource}

theorem initial (begins : resource.Initial) : resource.Sound := by
  obtain ⟨-, statusEq⟩ := begins
  constructor
  · rw [statusEq]
    exact ⟨fun _ => ⟨rfl, rfl, rfl, rfl, rfl⟩, fun _ => rfl⟩
  · rw [statusEq]
    exact ⟨by simp, by simp, by simp⟩
  · simp [statusEq]

theorem reconcile (sound : resource.Sound) (answers : Answers) :
    (resource.act (.reconcile answers)).Sound := by
  have outcome : Outcome answers resource _ (resource.act (.reconcile answers)).status :=
    Outcome.reconcile sound.staged
  constructor
  · apply outcome.holds sound.staged
    · exact fun _ unplanned _ => ⟨fun _ => unplanned, fun _ => unplanned.preflight⟩
    · exact .of_isLater rfl
    · exact fun _ _ move => move.staged sound.staged
  · apply outcome.holds sound.released
    · intro _ unplanned _
      constructor <;> simp [unplanned.controlPlane, unplanned.nodegroups]
    · exact ⟨by simp [UpgradePhase.holdsControlPlaneUpdate], sound.released.done,
        by simp [UpgradePhase.holdsNodegroupUpdate]⟩
    · exact fun _ _ move => move.released sound.released
  · cases outcome with
    | unmoved _ observed =>
      rcases observed with observed | observed
      · exact observed ▸ sound.observed
      · exact Nat.le_of_eq observed
    | restarted _ _ storedEq =>
      rw [storedEq]
      exact le_rfl
    | failed _ _ _ _ _ observed | moved _ _ _ _ _ _ observed => exact Nat.le_of_eq observed

theorem act (sound : resource.Sound) (event : Event) : (resource.act event).Sound := by
  cases event with
  | edit => exact ⟨sound.staged, sound.released, Nat.le_succ_of_le sound.observed⟩
  | reconcile answers => exact sound.reconcile answers

end Resource.Sound

variable {allowed : Resource → Event → Prop}

theorem sound_of_reachable {resource : Resource}
    (reached : Reachable Resource.Initial Resource.Step allowed resource) : resource.Sound := by
  apply reached.invariant
  · exact fun resource begins => .initial begins
  · intro _ event _ sound _ taken
    subst taken
    exact sound.act event

def Resource.run (resource : Resource) (events : List Event) : Resource :=
  events.foldl Resource.act resource

theorem reachable_run (resource : Resource) (events : List Event)
    (reached : Reachable Resource.Initial Resource.Step allowed resource)
    (permitted : ∀ resource, ∀ event ∈ events, allowed resource event) :
    Reachable Resource.Initial Resource.Step allowed (resource.run events) := by
  induction events generalizing resource with
  | nil => exact reached
  | cons event _ ih =>
    apply ih
    · exact reached.next (permitted resource event mem_cons_self) rfl
    · exact fun resource event member => permitted resource event (mem_cons_of_mem _ member)

/-- Answers of a cluster at version 1.33 where every check passes and there is nothing to
do. -/
def calmAnswers : Answers where
  now := 0
  client := .ok ()
  identity := .ok { accountId := "111122223333", arn := "arn:aws:iam::111122223333:role/kuo" }
  planning :=
    { clusterVersion := .ok (some "1.33"), addonUpgrades := .ok [], nodegroups := .ok []
      client := .ok (), nodepoolNames := .ok []
      pools := fun _ => { claims := .ok [], kubelet := fun _ => .ok none }
      lifecycle := { lastCheckedTime := 0 } }
  preflight :=
    { insights := none, cluster := .ok (some (some true)), disruptionBudgets := none
      karpenter := {} }
  controlPlane := { updateStatus := .ok "Successful", start := .accepted "update" }
  addons := { start := .ok "update", poll := .ok "ACTIVE" }
  nodegroups := { start := .ok "update", poll := .ok "Successful" }
  karpenter :=
    { client := .ok (), pool := { claims := .ok [], kubelet := fun _ => .ok none }
      controllers := fun _ => .ok [], delete := fun _ => .deleted
      nodeclaimExists := fun _ => .ok false, controllersStable := fun _ => .ok true
      claims := .ok [] }
  identityStored := true
  stored := true

/-- A forward upgrade by one minor version. -/
def stepSpec : EksUpgradeSpec where
  clusterName := "staging"
  targetVersion := "1.34"
  region := "eu-central-1"
  upgradeMode := .forward

/-! ## Planned work behind each phase -/

/-- The phases that the control plane handler serves. -/
def UpgradePhase.isControlPlane : UpgradePhase → Bool
  | upgradingControlPlane => true
  | rollingBackControlPlane => true
  | _ => false

structure Planned (phase : UpgradePhase) (phases : PhaseStatuses) : Prop where
  controlPlane : phase.isControlPlane = true → phases.upgradePath ≠ []
  karpenter : phase = .upgradingKarpenterNodePools → phases.karpenterNodePools.isSome = true

variable {now : Instant} {spec : EksUpgradeSpec}
  {found : PlanningAnswers} {phases phases' : PhaseStatuses}
  {phase next : UpgradePhase} {calls : List Call}

theorem Planned.of_other (controlPlane : phase.isControlPlane = false)
    (karpenter : phase ≠ .upgradingKarpenterNodePools) : Planned phase phases where
  controlPlane inPhase := by
    rw [controlPlane] at inPhase
    cases inPhase
  karpenter inPhase := absurd inPhase karpenter

theorem planned_completed : Planned .completed phases :=
  .of_other rfl (by decide)

theorem planned_failed : Planned .failed phases :=
  .of_other rfl (by decide)

theorem Planned.of_hasCpSteps (steps : hasCpSteps { phases })
    (inPhase : phase.isControlPlane) : Planned phase phases where
  controlPlane _ empty := by
    cases planning : phases.planning with
    | none => simp [hasCpSteps, planning] at steps
    | some =>
      simp only [upgradePath, planning] at empty
      simp_all [hasCpSteps]
  karpenter other := by
    subst other
    cases inPhase

theorem planned_of_hasKarpenter (pools : hasKarpenter { phases }) :
    Planned .upgradingKarpenterNodePools phases where
  controlPlane inPhase := by cases inPhase
  karpenter _ := by
    cases karpenter : phases.karpenterNodePools with
    | none => simp [hasKarpenter, karpenter] at pools
    | some => rfl

variable (mode : UpgradeMode)

theorem planned_afterNodegroups : Planned (afterNodegroups { phases } mode) phases := by
  cases mode with
  | forward =>
    simp only [afterNodegroups]
    split_ifs with pools
    · exact planned_of_hasKarpenter pools
    · exact planned_completed
  | rollback =>
    simp only [afterNodegroups]
    split_ifs with addons steps
    · exact .of_other rfl (by decide)
    · exact .of_hasCpSteps steps rfl
    · exact planned_completed

theorem planned_afterAddons : Planned (afterAddons { phases } mode) phases := by
  cases mode with
  | forward =>
    simp only [afterAddons]
    split_ifs with groups pools
    · exact .of_other rfl (by decide)
    · exact planned_of_hasKarpenter pools
    · exact planned_completed
  | rollback =>
    simp only [afterAddons]
    split_ifs with steps
    · exact .of_hasCpSteps steps rfl
    · exact planned_completed

theorem planned_afterControlPlane : Planned (afterControlPlane { phases } mode) phases := by
  cases mode with
  | forward =>
    simp only [afterControlPlane]
    split_ifs with addons groups pools
    · exact .of_other rfl (by decide)
    · exact .of_other rfl (by decide)
    · exact planned_of_hasKarpenter pools
    · exact planned_completed
  | rollback => exact planned_completed

theorem planned_afterPreflight : Planned (afterPreflight { phases } mode) phases := by
  cases mode with
  | forward =>
    simp only [afterPreflight]
    split_ifs with steps addons groups pools
    · exact .of_hasCpSteps steps rfl
    · exact .of_other rfl (by decide)
    · exact .of_other rfl (by decide)
    · exact planned_of_hasKarpenter pools
    · exact planned_completed
  | rollback =>
    simp only [afterPreflight]
    split_ifs with groups addons steps
    · exact .of_other rfl (by decide)
    · exact .of_other rfl (by decide)
    · exact .of_hasCpSteps steps rfl
    · exact planned_completed

theorem Planned.keep (planned : Planned phase phases)
    (path : phases'.upgradePath = phases.upgradePath)
    (karpenter : phases.karpenterNodePools.isSome →
      phases'.karpenterNodePools.isSome) : Planned phase phases' where
  controlPlane inPhase := path ▸ planned.controlPlane inPhase
  karpenter inPhase := karpenter (planned.karpenter inPhase)

variable {mode} {details details' : ControlPlaneStatus}

theorem ControlPlaneMove.planned {next : Option UpgradePhase}
    (move : ControlPlaneMove now mode phases details calls next details')
    (planned : Planned phase phases) : Planned (next.getD phase) phases := by
  cases move with
  | leave _ _ nextEq | finish _ _ _ _ _ _ nextEq => exact nextEq ▸ planned_afterControlPlane mode
  | give => exact planned_failed
  | wait | start | succeed => exact planned

/-- Moves lead to phases with planned work. -/
theorem PhaseMove.planned (move : PhaseMove now spec found phases phase calls next phases')
    (planned : Planned phase phases) : Planned next phases' := by
  cases move with
  | begin => exact .of_other rfl (by decide)
  | reject => exact planned_failed
  | plan _ _ _ _ _ _ _ nextEq =>
    split_ifs at nextEq
    · exact nextEq ▸ planned_completed
    · exact nextEq ▸ .of_other rfl (by decide)
  | check _ _ choice =>
    rcases choice with rfl | ⟨-, rfl⟩ | ⟨-, rfl⟩
    · exact planned_failed
    · exact planned_completed
    · exact (planned_afterPreflight spec.upgradeMode).keep rfl id
  | controlPlane _ _ _ _ _ _ _ move =>
    exact (move.planned planned).keep rfl id
  | addonsDone _ _ _ _ nextEq => exact nextEq ▸ planned_afterAddons _
  | addon _ _ _ _ _ _ nextEq | nodegroup _ _ _ _ _ _ _ nextEq =>
    rcases nextEq with rfl | rfl
    · exact planned.keep rfl id
    · exact planned_failed
  | nodegroupsDone _ _ _ _ nextEq => exact nextEq ▸ planned_afterNodegroups _
  | karpenterAbsent | karpenterDone =>
    exact planned_completed
  | karpenter _ _ _ _ _ _ _ _ nextEq =>
    rcases nextEq with rfl | ⟨rfl, -⟩
    · exact planned_failed
    · exact planned.keep rfl fun _ => rfl

structure ControlPlaneStatus.Follows (controlPlane : ControlPlaneStatus) (length : Nat) : Prop where
  total : controlPlane.totalSteps = length
  started : 0 < length → 1 ≤ controlPlane.currentStep
  bounded : controlPlane.currentStep ≤ length + 1

/-- The control plane details fit the planned path. -/
def StepsFit (phases : PhaseStatuses) : Prop :=
  ∀ details, phases.controlPlane = some details → details.Follows phases.upgradePath.length

theorem StepsFit.keep (fit : StepsFit phases)
    (controlPlane : phases'.controlPlane = phases.controlPlane)
    (path : phases'.upgradePath = phases.upgradePath) : StepsFit phases' := by
  intro details present
  rw [path]
  exact fit details (controlPlane ▸ present)

theorem ControlPlaneMove.follows {next : Option UpgradePhase} {length : Nat}
    (move : ControlPlaneMove now mode phases details calls next details')
    (follows : details.Follows length) : details'.Follows length := by
  obtain ⟨total, started, bounded⟩ := follows
  cases move with
  | leave | give | wait | start => exact ⟨total, started, bounded⟩
  | succeed =>
    constructor
    · exact total
    · simp [advanced]
    · simp only [advanced]
      omega
  | finish =>
    constructor
    · exact total
    · simp [advanced, left]
    · simp only [advanced, left]
      omega

/-- Moves keep the steps in line with the path. -/
theorem PhaseMove.stepsFit (move : PhaseMove now spec found phases phase calls next phases')
    (fit : StepsFit phases) : StepsFit phases' := by
  cases move with
  | begin | reject | addonsDone | nodegroupsDone | karpenterAbsent => exact fit
  | plan =>
    intro details present
    cases present
    constructor
    · rfl
    · intro nonempty
      simp only [upgradePath, plannedPhases, map_some, getD_some] at nonempty
      simp [nonempty]
    · simp only [upgradePath, plannedPhases, map_some, getD_some]
      split <;> omega
  | check | addon | nodegroup | karpenterDone | karpenter => exact fit.keep rfl rfl
  | controlPlane _ _ details _ present _ _ move =>
    intro _ otherEq
    cases otherEq
    exact move.follows (fit details present)

structure Resource.Fits (resource : Resource) : Prop where
  planned : Planned resource.status.currentPhase resource.status.phases
  steps : StepsFit resource.status.phases

namespace Resource.Fits

variable {resource : Resource}

theorem initial (begins : resource.Initial) : resource.Fits := by
  obtain ⟨-, statusEq⟩ := begins
  constructor
  · rw [statusEq]
    exact .of_other rfl (by decide)
  · intro _ present
    simp [statusEq] at present

theorem reconcile (fits : resource.Fits) (sound : resource.Sound) (answers : Answers) :
    (resource.act (.reconcile answers)).Fits := by
  have outcome : Outcome answers resource _ (resource.act (.reconcile answers)).status :=
    Outcome.reconcile sound.staged
  constructor
  · apply outcome.holds fits.planned
    · exact fun _ _ _ => .of_other rfl (by decide)
    · exact planned_failed
    · exact fun _ _ move => move.planned fits.planned
  · apply @Outcome.holds _ (fun _ => StepsFit) _ _ _ outcome fits.steps
    · intro _ unplanned _ _ present
      simp [unplanned.controlPlane] at present
    · exact fits.steps
    · exact fun _ _ move => move.stepsFit fits.steps

theorem act (fits : resource.Fits) (sound : resource.Sound) (event : Event) :
    (resource.act event).Fits := by
  cases event with
  | edit => exact ⟨fits.planned, fits.steps⟩
  | reconcile answers => exact fits.reconcile sound answers

end Resource.Fits

theorem fits_of_reachable {allowed : Resource → Event → Prop} {resource : Resource}
    (reached : Reachable Resource.Initial Resource.Step allowed resource) : resource.Fits := by
  have both : resource.Sound ∧ resource.Fits := by
    apply reached.invariant
    · exact fun resource begins => ⟨.initial begins, .initial begins⟩
    · rintro _ event _ ⟨sound, fits⟩ _ taken
      subst taken
      exact ⟨sound.act event, fits.act sound event⟩
  exact both.2

end Addons.EksUpgrade
