import Addons.UpgradeRuns

/-!
# The route of a run

The updates of the control plane follow the planned path, and the phases of a run follow each
other so that whatever comes before a phase is done when the phase is reached.
-/

namespace Addons.EksUpgrade

open TransitionSystem

/-- What planning fixed for a run. -/
structure RunPlan where
  mode : UpgradeMode
  targetVersion : String
  /-- The NodePools that were selected. -/
  pools : List String
  /-- The phase details as they were stored. -/
  phases : PhaseStatuses
deriving DecidableEq

structure RunRecord where
  plan : Option RunPlan := none
  /-- Whether the mode was edited after planning. -/
  redirected : Bool := false
  /-- Whether the target was edited after planning. -/
  retargeted : Bool := false
  calls : List Call := []
deriving DecidableEq

/-- A resource with its current run and the earlier ones. -/
structure Tracked where
  resource : Resource
  run : RunRecord := {}
  earlier : List RunRecord := []
deriving DecidableEq

def storedPlan (answers : Answers) (resource : Resource) (stored : EksUpgradeStatus) :
    Option RunPlan :=
  if resource.status.currentPhase = .planning ∧
      (stored.currentPhase = .preflightChecking ∨ stored.currentPhase = .completed) then
    some
      { mode := resource.spec.upgradeMode
        targetVersion := resource.spec.targetVersion
        pools := ((planKarpenter resource.spec answers.planning).toOption.getD []).map (·.name)
        phases := stored.phases }
  else none

def RunRecord.edit (run : RunRecord) (spec : EksUpgradeSpec) : RunRecord :=
  { run with
    redirected := run.redirected || run.plan.any fun plan => spec.upgradeMode != plan.mode
    retargeted := run.retargeted ||
      run.plan.any fun plan => spec.targetVersion != plan.targetVersion }

def RunRecord.reconcile (run : RunRecord) (answers : Answers) (resource : Resource) : RunRecord :=
  let result := EksUpgrade.reconcile answers resource
  { run with
    plan := (storedPlan answers resource result.status).or run.plan
    calls := run.calls ++ result.calls }

def restarts (answers : Answers) (resource : Resource) : Bool :=
  resource.status.currentPhase.isTerminal &&
    (reconcile answers resource).status.currentPhase == .pending

def Tracked.act (tracked : Tracked) : Event → Tracked
  | .edit spec =>
    { tracked with
      resource := tracked.resource.act (.edit spec), run := tracked.run.edit spec }
  | .reconcile answers =>
    if restarts answers tracked.resource then
      { resource := tracked.resource.act (.reconcile answers)
        earlier := tracked.earlier ++ [tracked.run] }
    else
      { tracked with
        resource := tracked.resource.act (.reconcile answers)
        run := tracked.run.reconcile answers tracked.resource }

/-- A resource that has just been created, with no history. -/
def Tracked.Initial (tracked : Tracked) : Prop :=
  tracked.resource.Initial ∧ tracked.run = {} ∧ tracked.earlier = []

def Tracked.Step (tracked : Tracked) (event : Event) (after : Tracked) : Prop :=
  after = tracked.act event

@[simp]
theorem Tracked.act_resource (tracked : Tracked) (event : Event) :
    (tracked.act event).resource = tracked.resource.act event := by
  cases event with
  | edit => rfl
  | reconcile =>
    simp only [Tracked.act]
    split <;> rfl

variable {allowed : Tracked → Event → Prop} {tracked : Tracked}

theorem resource_of_tracked (reached : Reachable Tracked.Initial Tracked.Step allowed tracked) :
    Reachable Resource.Initial Resource.Step (fun _ _ => True) tracked.resource := by
  apply reached.project Tracked.resource
  · exact fun tracked begins => begins.1
  · intro tracked event _ _ taken
    subst taken
    exact ⟨trivial, tracked.act_resource event⟩

/-- The phases of a run that has been planned and is not over. -/
def UpgradePhase.isInFlight : UpgradePhase → Bool
  | pending => false
  | planning => false
  | completed => false
  | failed => false
  | _ => true

variable {phase : UpgradePhase}

theorem isTerminal_of_isInFlight (inFlight : phase.isInFlight) : phase.isTerminal = false := by
  cases phase with
  | completed | failed => cases inFlight
  | _ => rfl

theorem early_of_not_isInFlight (running : phase.isTerminal = false)
    (grounded : ¬ phase.isInFlight) : phase = .pending ∨ phase = .planning := by
  cases phase with
  | pending => exact .inl rfl
  | planning => exact .inr rfl
  | completed | failed => cases running
  | _ => exact absurd rfl grounded

theorem PhaseMove.inFlight_cases {now : Instant} {spec : EksUpgradeSpec} {found : PlanningAnswers}
    {phases phases' : PhaseStatuses} {next : UpgradePhase} {calls : List Call}
    (move : PhaseMove now spec found phases phase calls next phases') (inFlight : next.isInFlight) :
    phase.isInFlight ∨
      (phase = .planning ∧ calls = [] ∧ next = .preflightChecking ∧
        ∃ plan pools, planKarpenter spec found = .ok pools ∧
          phases' = plannedPhases spec phases plan pools) := by
  cases move with
  | begin | reject => cases inFlight
  | plan plan pools _ planned _ _ _ nextEq =>
    split_ifs at nextEq
    · subst nextEq
      cases inFlight
    · exact .inr ⟨rfl, rfl, nextEq, plan, pools, planned, rfl⟩
  | check | karpenterAbsent | karpenterDone | karpenter => exact .inl rfl
  | controlPlane _ inPhase | addonsDone _ inPhase | addon _ inPhase | nodegroupsDone _ inPhase
  | nodegroup _ inPhase =>
    left
    rcases inPhase with rfl | rfl <;> rfl

/-- A property of the planned runs in flight that every step keeps. -/
structure KeptInFlight (InFlight : RunRecord → RunPlan → EksUpgradeSpec → UpgradePhase →
    PhaseStatuses → Prop) : Prop where
  plan : ∀ {run now spec found phases phases' plan pools},
    run.redirected = false → run.retargeted = false →
    phases' = plannedPhases spec phases plan pools →
    planKarpenter spec found = .ok pools →
    PhaseMove now spec found phases .planning [] .preflightChecking phases' →
    ∀ runPlan : RunPlan, runPlan.mode = spec.upgradeMode →
      runPlan.targetVersion = spec.targetVersion → runPlan.pools = pools.map (·.name) →
      runPlan.phases = phases' → InFlight run runPlan spec .preflightChecking phases'
  edit : ∀ {run plan spec phase phases} (spec' : EksUpgradeSpec), run.plan = some plan →
    InFlight run plan spec phase phases → InFlight (run.edit spec') plan spec' phase phases
  /-- It does not depend on calls that were not followed by a stored status. -/
  grow : ∀ {run plan spec phase phases} (calls : List Call),
    InFlight run plan spec phase phases →
      InFlight { run with calls := run.calls ++ calls } plan spec phase phases
  /-- Moves keep it. -/
  move : ∀ {run plan now spec found phases phase calls next phases'},
    InFlight run plan spec phase phases → phase.isInFlight = true → next.isInFlight = true →
    PhaseMove now spec found phases phase calls next phases' →
      InFlight { run with calls := run.calls ++ calls } plan spec next phases'

structure Tracked.Consistent (InFlight : RunRecord → RunPlan → EksUpgradeSpec → UpgradePhase →
    PhaseStatuses → Prop) (tracked : Tracked) : Prop where
  early : tracked.resource.status.currentPhase = .pending ∨
      tracked.resource.status.currentPhase = .planning →
    tracked.run.plan = none ∧ tracked.run.redirected = false ∧ tracked.run.retargeted = false
  inFlight : tracked.resource.status.currentPhase.isInFlight = true →
    ∃ plan, tracked.run.plan = some plan ∧
      InFlight tracked.run plan tracked.resource.spec tracked.resource.status.currentPhase
        tracked.resource.status.phases

variable {answers : Answers} {resource : Resource}

theorem restarts_eq_false (running : resource.status.currentPhase.isTerminal = false) :
    restarts answers resource = false := by
  simp [restarts, running]

theorem storedPlan_eq_none {stored : EksUpgradeStatus}
    (other : resource.status.currentPhase ≠ .planning) :
    storedPlan answers resource stored = none := by
  simp [storedPlan, other]

theorem Tracked.act_run (running : tracked.resource.status.currentPhase.isTerminal = false) :
    (tracked.act (.reconcile answers)).run = tracked.run.reconcile answers tracked.resource := by
  simp [Tracked.act, restarts_eq_false running]

theorem Tracked.act_run_of_isInFlight
    (inFlight : tracked.resource.status.currentPhase.isInFlight) :
    (tracked.act (.reconcile answers)).run =
      { tracked.run with
        calls := tracked.run.calls ++ (reconcile answers tracked.resource).calls } := by
  have planned : tracked.resource.status.currentPhase ≠ .planning := by
    intro planning
    rw [planning] at inFlight
    cases inFlight
  rw [Tracked.act_run (isTerminal_of_isInFlight inFlight)]
  simp [RunRecord.reconcile, storedPlan_eq_none planned]

namespace Tracked.Consistent

variable {InFlight : RunRecord → RunPlan → EksUpgradeSpec → UpgradePhase → PhaseStatuses → Prop}
  {tracked : Tracked}

theorem initial (begins : tracked.Initial) : tracked.Consistent InFlight := by
  obtain ⟨⟨-, statusEq⟩, runEq, -⟩ := begins
  constructor
  · intro _
    rw [runEq]
    exact ⟨rfl, rfl, rfl⟩
  · intro inFlight
    rw [statusEq] at inFlight
    cases inFlight

theorem restarted (terminal : tracked.resource.status.currentPhase.isTerminal)
    (pending : (reconcile answers tracked.resource).status.currentPhase = .pending) :
    (tracked.act (.reconcile answers)).Consistent InFlight := by
  have again : restarts answers tracked.resource := by
    simp [restarts, terminal, pending]
  constructor
  · intro _
    simp [Tracked.act, again]
  · intro inFlight
    rw [Tracked.act_resource] at inFlight
    simp only [Resource.act, pending] at inFlight
    cases inFlight

section

variable (consistent : tracked.Consistent InFlight)
include consistent

theorem edit (kept : KeptInFlight InFlight)
    (spec : EksUpgradeSpec) : (tracked.act (.edit spec)).Consistent InFlight := by
  constructor
  · intro early
    obtain ⟨plan, redirected, retargeted⟩ := consistent.early early
    simp [Tracked.act, RunRecord.edit, plan, redirected, retargeted]
  · intro inFlight
    obtain ⟨plan, planEq, holds⟩ := consistent.inFlight inFlight
    exact ⟨plan, planEq, kept.edit spec planEq holds⟩

/-- A reconcile that leaves the phase and its details where they are. -/
theorem unmoved (kept : KeptInFlight InFlight)
    (same : SamePoint tracked.resource.status (reconcile answers tracked.resource).status) :
    (tracked.act (.reconcile answers)).Consistent InFlight := by
  have phase := same.currentPhase
  have phaseAct : (tracked.act (.reconcile answers)).resource.status.currentPhase =
      tracked.resource.status.currentPhase := by
    rw [Tracked.act_resource]
    exact phase
  constructor
  · rw [phaseAct]
    intro early
    obtain ⟨plan, redirected, retargeted⟩ := consistent.early early
    have running : tracked.resource.status.currentPhase.isTerminal = false := by
      rcases early with early | early <;> rw [early] <;> rfl
    have unplanned : storedPlan answers tracked.resource
        (reconcile answers tracked.resource).status = none := by
      unfold storedPlan
      rw [phase]
      rcases early with early | early <;> simp [early]
    rw [Tracked.act_run running]
    simp [RunRecord.reconcile, unplanned, plan, redirected, retargeted]
  · rw [phaseAct]
    intro inFlight
    obtain ⟨plan, planEq, holds⟩ := consistent.inFlight inFlight
    rw [Tracked.act_run_of_isInFlight inFlight, Tracked.act_resource]
    refine ⟨plan, planEq, ?_⟩
    simp only [Resource.act, same.phases]
    exact kept.grow _ holds

/-- A reconcile that stores a move. -/
theorem moved (kept : KeptInFlight InFlight)
    {next : UpgradePhase} (running : tracked.resource.status.currentPhase.isTerminal = false)
    (move : PhaseMove answers.now tracked.resource.spec answers.planning
      tracked.resource.status.phases
      tracked.resource.status.currentPhase (reconcile answers tracked.resource).calls next
      (reconcile answers tracked.resource).status.phases)
    (phase : (reconcile answers tracked.resource).status.currentPhase = next) :
    (tracked.act (.reconcile answers)).Consistent InFlight := by
  have current : (tracked.act (.reconcile answers)).resource.status.currentPhase = next := by
    rw [Tracked.act_resource]
    exact phase
  constructor
  · rw [current]
    intro early
    rcases move.stage with ⟨pending, rfl, -⟩ | ⟨-, rfl, -⟩ | later
    · obtain ⟨plan, redirected, retargeted⟩ := consistent.early (.inl pending)
      have unplanned : tracked.resource.status.currentPhase ≠ .planning := by simp [pending]
      rw [Tracked.act_run running]
      simp [RunRecord.reconcile, storedPlan_eq_none unplanned, plan, redirected, retargeted]
    · simp at early
    · rcases early with rfl | rfl
      · cases later
      · cases later
  · rw [current]
    intro inFlight
    rw [Tracked.act_resource]
    rcases move.inFlight_cases inFlight with before | ⟨planning, none, nextEq, made⟩
    · obtain ⟨plan, planEq, holds⟩ := consistent.inFlight before
      rw [Tracked.act_run_of_isInFlight before]
      exact ⟨plan, planEq, kept.move holds before inFlight move⟩
    · obtain ⟨_, pools, planned, phasesEq⟩ := made
      subst nextEq
      obtain ⟨-, redirected, retargeted⟩ := consistent.early (.inr planning)
      rw [planning, none] at move
      have stored : storedPlan answers tracked.resource
          (reconcile answers tracked.resource).status = some
              { mode := tracked.resource.spec.upgradeMode
                targetVersion := tracked.resource.spec.targetVersion
                pools := pools.map (·.name)
                phases := (reconcile answers tracked.resource).status.phases } := by
        simp [storedPlan, planning, phase, planned, Except.toOption]
      rw [Tracked.act_run running]
      simp only [RunRecord.reconcile, stored, Option.some_or]
      refine ⟨_, rfl, ?_⟩
      apply kept.plan _ _ phasesEq planned move
      · rfl
      · rfl
      · rfl
      · rfl
      · exact redirected
      · exact retargeted

theorem act (kept : KeptInFlight InFlight) (sound : tracked.resource.Sound) (event : Event) :
    (tracked.act event).Consistent InFlight := by
  cases event with
  | edit spec => exact consistent.edit kept spec
  | reconcile answers =>
    have outcome := @Outcome.reconcile answers tracked.resource sound.staged
    cases outcome with
    | unmoved same => exact consistent.unmoved kept same
    | restarted terminal _ storedEq =>
      exact restarted terminal (congrArg EksUpgradeStatus.currentPhase storedEq)
    | failed _ phase =>
      have ended : (tracked.act (.reconcile answers)).resource.status.currentPhase = .failed := by
        rw [Tracked.act_resource]
        exact congrArg (·.getD .pending) phase
      constructor
      · rw [ended]
        simp
      · rw [ended]
        intro inFlight
        cases inFlight
    | moved running _ move phase =>
      exact consistent.moved kept running move (congrArg (·.getD .pending) phase)

end

end Tracked.Consistent

theorem consistent_of_tracked
    {InFlight : RunRecord → RunPlan → EksUpgradeSpec → UpgradePhase → PhaseStatuses → Prop}
    (kept : KeptInFlight InFlight)
    (reached : Reachable Tracked.Initial Tracked.Step allowed tracked) :
    tracked.Consistent InFlight := by
  have both : tracked.resource.Sound ∧ tracked.Consistent InFlight := by
    apply reached.invariant
    · exact fun tracked begins => ⟨.initial begins.1, .initial begins⟩
    · rintro _ event _ ⟨sound, consistent⟩ _ taken
      subst taken
      refine ⟨?_, consistent.act kept sound event⟩
      rw [Tracked.act_resource]
      exact sound.act event
  exact both.2

open List ControlPlaneStatus

/-! ## Control plane updates -/

/-- The calls of updates that were started and reported as successful, one after the
other. -/
def updateCalls (updates : List (String × String)) : List Call :=
  updates.flatMap fun update =>
    [.updateStarted update.1 (some update.2), .updateSucceeded update.1 update.2]

def Executed (calls : List Call) (versions : List String) : Prop :=
  ∃ updates, updates.map Prod.fst = versions ∧ (updateCalls updates).Sublist calls

def activeCall (details : ControlPlaneStatus) (path : List String) : List Call :=
  match details.updateId, currentTarget details path with
  | some updateId, some version => [.updateStarted version (some updateId)]
  | _, _ => []

/-- The steps of the path before the current one are done, and the active update was
started. -/
def Underway (calls : List Call) (path : List String) (details : ControlPlaneStatus) : Prop :=
  ∃ updates, updates.map Prod.fst = path.take (details.currentStep - 1) ∧
    (updateCalls updates ++ activeCall details path).Sublist calls

variable {calls : List Call} {path : List String} {details : ControlPlaneStatus}

theorem Underway.grow (underway : Underway calls path details) (more : List Call) :
    Underway (calls ++ more) path details := by
  obtain ⟨updates, versions, made⟩ := underway
  exact ⟨updates, versions, made.trans (sublist_append_left calls more)⟩

variable {details' : ControlPlaneStatus}

theorem Underway.release (underway : Underway calls path details)
    (step : details'.currentStep = details.currentStep) (idle : details'.updateId = none) :
    Underway calls path details' := by
  obtain ⟨updates, versions, made⟩ := underway
  refine ⟨updates, step ▸ versions, ?_⟩
  simp only [activeCall, idle, append_nil]
  exact (sublist_append_left _ _).trans made

section

variable {version updateId : String} (target : currentTarget details path = some version)
include target

theorem currentTarget_pos :
    0 < details.currentStep ∧ path[details.currentStep - 1]? = some version := by
  unfold currentTarget at target
  split at target
  · cases target
  next _ => exact ⟨by omega, target⟩

variable (active : details.updateId = some updateId)
include active

theorem activeCall_eq : activeCall details path = [.updateStarted version (some updateId)] := by
  simp [activeCall, active, target]

theorem Underway.advance (underway : Underway calls path details) :
    Underway (calls ++ [.updateSucceeded version updateId]) path details.advanced := by
  obtain ⟨_, atStep⟩ := currentTarget_pos target
  obtain ⟨updates, versions, made⟩ := underway
  refine ⟨updates ++ [(version, updateId)], ?_, ?_⟩
  · have step : details.advanced.currentStep - 1 = details.currentStep - 1 + 1 := by
      simp only [advanced]
      omega
    rw [step, take_add_one, atStep, map_append, versions]
    rfl
  · rw [activeCall_eq target active] at made
    have extended := made.append (List.Sublist.refl [Call.updateSucceeded version updateId])
    simpa [activeCall, advanced, updateCalls] using extended

end

theorem ControlPlaneMove.underway {now : Instant} {mode : UpgradeMode} {phases : PhaseStatuses}
    {made : List Call} {next : Option UpgradePhase}
    (move : ControlPlaneMove now mode phases details calls next details')
    (underway : Underway made phases.upgradePath details) :
    Underway (made ++ calls) phases.upgradePath details' := by
  cases move with
  | leave | give => exact (underway.grow []).release rfl rfl
  | wait => exact underway.grow []
  | start version updateId _ target idle =>
    obtain ⟨updates, versions, done⟩ := underway
    refine ⟨updates, versions, ?_⟩
    simp only [activeCall, idle, append_nil] at done
    have started : activeCall
        { details with
          target := some version, updateId := some updateId, startedAt := some now }
        phases.upgradePath = [.updateStarted version (some updateId)] :=
      activeCall_eq target rfl
    rw [started]
    exact done.append (List.Sublist.refl _)
  | succeed _ _ _ target active => exact underway.advance target active
  | finish _ _ _ target active =>
    exact (underway.advance target active).release rfl rfl

/-! ## The route of a run -/

inductive Component where
  | controlPlane
  | addons
  | nodegroups
  | karpenter
deriving DecidableEq

/-- What is done when a phase of the route is reached; `none` for phases that are not on it. -/
def doneBefore : UpgradeMode → UpgradePhase → Option (List Component)
  | _, .preflightChecking => some []
  | _, .failed => some []
  | .forward, .upgradingControlPlane => some []
  | .forward, .upgradingAddons => some [.controlPlane]
  | .forward, .upgradingNodeGroups => some [.controlPlane, .addons]
  | .forward, .upgradingKarpenterNodePools => some [.controlPlane, .addons, .nodegroups]
  | .forward, .completed => some [.controlPlane, .addons, .nodegroups, .karpenter]
  | .rollback, .rollingBackNodeGroups => some []
  | .rollback, .rollingBackAddons => some [.nodegroups]
  | .rollback, .rollingBackControlPlane => some [.nodegroups, .addons]
  | .rollback, .completed => some [.nodegroups, .addons, .controlPlane]
  | _, _ => none

/-- The component has been done; NodePools count when the run selected some. -/
def ComponentDone (pools : List String) (phases : PhaseStatuses) : Component → Prop
  | .controlPlane => phases.upgradePath = [] ∨
      ∃ details, phases.controlPlane = some details ∧ details.totalSteps < details.currentStep
  | .addons => ∀ addon ∈ phases.addons, addon.status.isDone = true
  | .nodegroups => ∀ group ∈ phases.nodegroups, group.status.isDone = true
  | .karpenter => pools ≠ [] → ∀ karpenter, phases.karpenterNodePools = some karpenter →
      ∀ pool ∈ karpenter.pools, pool.status.isDone = true

def OnRoute (mode : UpgradeMode) (pools : List String) (phase : UpgradePhase)
    (phases : PhaseStatuses) : Prop :=
  ∃ components, doneBefore mode phase = some components ∧
    ∀ component ∈ components, ComponentDone pools phases component

variable {mode : UpgradeMode} {pools : List String} {phase next : UpgradePhase}
  {phases phases' : PhaseStatuses}

theorem onRoute_failed : OnRoute mode pools .failed phases := by
  refine ⟨[], ?_, by simp⟩
  cases mode <;> rfl

theorem controlPlaneDone_of_noSteps (noSteps : ¬ hasCpSteps { phases }) :
    ComponentDone pools phases .controlPlane := by
  left
  cases planning : phases.planning with
  | none => simp [PhaseStatuses.upgradePath, planning]
  | some => simpa [hasCpSteps, planning, PhaseStatuses.upgradePath] using noSteps

theorem addonsDone_of_none (none : ¬ hasAddons { phases }) :
    ComponentDone pools phases .addons := by
  have empty : phases.addons = [] := by simpa [hasAddons] using none
  simp [ComponentDone, empty]

theorem nodegroupsDone_of_none (none : ¬ hasNodegroups { phases }) :
    ComponentDone pools phases .nodegroups := by
  have empty : phases.nodegroups = [] := by simpa [hasNodegroups] using none
  simp [ComponentDone, empty]

theorem karpenterDone_of_none (none : ¬ hasKarpenter { phases }) :
    ComponentDone pools phases .karpenter := by
  intro _ karpenter present
  have empty : karpenter.pools = [] := by simpa [hasKarpenter, present] using none
  simp [empty]

theorem onRoute_afterNodegroups (nodegroups : ComponentDone pools phases .nodegroups)
    (before : mode = .forward → ComponentDone pools phases .controlPlane ∧
      ComponentDone pools phases .addons) :
    OnRoute mode pools (afterNodegroups { phases } mode) phases := by
  cases mode with
  | forward =>
    obtain ⟨controlPlane, addons⟩ := before rfl
    simp only [afterNodegroups]
    split_ifs with karpenter
    · exact ⟨_, rfl, by simp [controlPlane, addons, nodegroups]⟩
    · exact ⟨_, rfl, by
        simp [controlPlane, addons, nodegroups, karpenterDone_of_none karpenter]⟩
  | rollback =>
    simp only [afterNodegroups]
    split_ifs with addons steps
    · exact ⟨_, rfl, by simp [nodegroups]⟩
    · exact ⟨_, rfl, by simp [nodegroups, addonsDone_of_none addons]⟩
    · exact ⟨_, rfl, by
        simp [nodegroups, addonsDone_of_none addons, controlPlaneDone_of_noSteps steps]⟩

theorem onRoute_afterAddons (addons : ComponentDone pools phases .addons)
    (before : mode = .forward → ComponentDone pools phases .controlPlane)
    (beforeRollback : mode = .rollback → ComponentDone pools phases .nodegroups) :
    OnRoute mode pools (afterAddons { phases } mode) phases := by
  cases mode with
  | forward =>
    have controlPlane := before rfl
    simp only [afterAddons]
    split_ifs with groups karpenter
    · exact ⟨_, rfl, by simp [controlPlane, addons]⟩
    · exact ⟨_, rfl, by simp [controlPlane, addons, nodegroupsDone_of_none groups]⟩
    · exact ⟨_, rfl, by
        simp [controlPlane, addons, nodegroupsDone_of_none groups, karpenterDone_of_none karpenter]⟩
  | rollback =>
    have nodegroups := beforeRollback rfl
    simp only [afterAddons]
    split_ifs with steps
    · exact ⟨_, rfl, by simp [nodegroups, addons]⟩
    · exact ⟨_, rfl, by simp [nodegroups, addons, controlPlaneDone_of_noSteps steps]⟩

theorem onRoute_afterControlPlane (controlPlane : ComponentDone pools phases .controlPlane)
    (before : mode = .rollback → ComponentDone pools phases .nodegroups ∧
      ComponentDone pools phases .addons) :
    OnRoute mode pools (afterControlPlane { phases } mode) phases := by
  cases mode with
  | forward =>
    simp only [afterControlPlane]
    split_ifs with addons groups karpenter
    · exact ⟨_, rfl, by simp [controlPlane]⟩
    · exact ⟨_, rfl, by simp [controlPlane, addonsDone_of_none addons]⟩
    · exact ⟨_, rfl, by
        simp [controlPlane, addonsDone_of_none addons, nodegroupsDone_of_none groups]⟩
    · exact ⟨_, rfl, by
        simp [controlPlane, addonsDone_of_none addons, nodegroupsDone_of_none groups,
          karpenterDone_of_none karpenter]⟩
  | rollback =>
    obtain ⟨nodegroups, addons⟩ := before rfl
    exact ⟨_, rfl, by simp [controlPlane, nodegroups, addons]⟩

theorem onRoute_afterPreflight : OnRoute mode pools (afterPreflight { phases } mode) phases := by
  cases mode with
  | forward =>
    by_cases steps : hasCpSteps { phases }
    · simp only [afterPreflight, if_pos steps]
      exact ⟨_, rfl, by simp⟩
    · simp only [afterPreflight, if_neg steps]
      exact @onRoute_afterControlPlane .forward pools phases (controlPlaneDone_of_noSteps steps)
        (by simp)
  | rollback =>
    by_cases groups : hasNodegroups { phases }
    · simp only [afterPreflight, if_pos groups]
      exact ⟨_, rfl, by simp⟩
    · simp only [afterPreflight, if_neg groups]
      exact @onRoute_afterNodegroups .rollback pools phases (nodegroupsDone_of_none groups)
        (by simp)

/-! ## Moves along the route -/

section

variable (route : OnRoute mode pools phase phases)
include route

theorem OnRoute.keep (working : Component)
    (later : ∀ components, doneBefore mode phase = some components → working ∉ components)
    (same : ∀ component, component ≠ working → ComponentDone pools phases component →
      ComponentDone pools phases' component) : OnRoute mode pools phase phases' := by
  obtain ⟨components, before, done⟩ := route
  refine ⟨components, before, ?_⟩
  intro component member
  apply same component _ (done component member)
  intro equal
  exact later components before (equal ▸ member)

theorem OnRoute.beforeControlPlane
    (inPhase : phase = .upgradingControlPlane ∨ phase = .rollingBackControlPlane) :
    mode = .rollback → ComponentDone pools phases .nodegroups ∧
      ComponentDone pools phases .addons := by
  obtain ⟨_, before, done⟩ := route
  rintro rfl
  rcases inPhase with rfl | rfl
  · cases before
  · cases before
    exact ⟨done _ (by simp), done _ (by simp)⟩

theorem OnRoute.beforeAddons (inPhase : phase = .upgradingAddons ∨ phase = .rollingBackAddons) :
    (mode = .forward → ComponentDone pools phases .controlPlane) ∧
      (mode = .rollback → ComponentDone pools phases .nodegroups) := by
  obtain ⟨_, before, done⟩ := route
  constructor
  · rintro rfl
    rcases inPhase with rfl | rfl
    · cases before
      exact done _ (by simp)
    · cases before
  · rintro rfl
    rcases inPhase with rfl | rfl
    · cases before
    · cases before
      exact done _ (by simp)

theorem OnRoute.beforeNodegroups
    (inPhase : phase = .upgradingNodeGroups ∨ phase = .rollingBackNodeGroups) :
    mode = .forward → ComponentDone pools phases .controlPlane ∧
      ComponentDone pools phases .addons := by
  obtain ⟨_, before, done⟩ := route
  rintro rfl
  rcases inPhase with rfl | rfl
  · cases before
    exact ⟨done _ (by simp), done _ (by simp)⟩
  · cases before

end

theorem OnRoute.keepKarpenter (route : OnRoute mode pools .upgradingKarpenterNodePools phases)
    (karpenterNodePools : Option KarpenterNodePoolsStatus) :
    OnRoute mode pools .upgradingKarpenterNodePools { phases with karpenterNodePools } := by
  apply route.keep .karpenter
  · cases mode <;> simp [doneBefore]
  · intro component other done
    cases component with
    | controlPlane | addons | nodegroups => exact done
    | karpenter => exact absurd rfl other

theorem OnRoute.afterKarpenter (route : OnRoute mode pools .upgradingKarpenterNodePools phases)
    (karpenter : ComponentDone pools phases .karpenter) : OnRoute mode pools .completed phases := by
  obtain ⟨_, before, done⟩ := route
  cases mode with
  | forward =>
    cases before
    refine ⟨_, rfl, ?_⟩
    intro _ member
    simp only [mem_cons, not_mem_nil, or_false] at member
    rcases member with rfl | rfl | rfl | rfl
    · exact done _ (by simp)
    · exact done _ (by simp)
    · exact done _ (by simp)
    · exact karpenter
  | rollback => cases before

section Moves

variable {now : Instant} {found : PlanningAnswers}
  {spec : EksUpgradeSpec} {calls : List Call}

theorem ControlPlaneMove.onRoute {next : Option UpgradePhase}
    (move : ControlPlaneMove now mode phases details calls next details')
    (inPhase : phase = .upgradingControlPlane ∨ phase = .rollingBackControlPlane)
    (route : OnRoute mode pools phase phases) :
    OnRoute mode pools (next.getD phase) { phases with controlPlane := some details' } := by
  have before := route.beforeControlPlane inPhase
  have stays : OnRoute mode pools phase { phases with controlPlane := some details' } := by
    apply route.keep .controlPlane
    · rcases inPhase with rfl | rfl <;> cases mode <;> simp [doneBefore]
    · intro component other done
      cases component with
      | controlPlane => exact absurd rfl other
      | addons | nodegroups | karpenter => exact done
  have leaves : details'.totalSteps < details'.currentStep →
      OnRoute mode pools (afterControlPlane { phases } mode)
        { phases with controlPlane := some details' } := by
    intro finished
    have same : afterControlPlane { phases } mode =
        afterControlPlane { phases := { phases with controlPlane := some details' } } mode := by
      cases mode <;> rfl
    rw [same]
    exact onRoute_afterControlPlane (.inr ⟨details', rfl, finished⟩) before
  cases move with
  | leave finished _ nextEq => exact nextEq ▸ leaves finished
  | give => exact onRoute_failed
  | wait | start | succeed => exact stays
  | finish _ _ _ _ _ _ nextEq =>
    apply nextEq ▸ leaves _
    simp only [left, advanced]
    omega

/-- Moves of a run in the planned mode stay on the route, dry runs apart. -/
theorem PhaseMove.onRoute (move : PhaseMove now spec found phases phase calls next phases')
    (inFlight : phase.isInFlight)
    (real : phase = .preflightChecking → spec.dryRun → next ≠ .completed)
    (working : pools ≠ [] → ∀ karpenter, phases.karpenterNodePools = some karpenter →
      ∀ pool ∈ karpenter.pools, pool.status ≠ .failed)
    (route : OnRoute spec.upgradeMode pools phase phases) :
    OnRoute spec.upgradeMode pools next phases' := by
  cases move with
  | begin | reject | plan => cases inFlight
  | check details _ choice =>
    rcases choice with rfl | ⟨dry, rfl⟩ | ⟨-, rfl⟩
    · exact onRoute_failed
    · exact absurd rfl (real rfl dry)
    · have same : afterPreflight { phases } spec.upgradeMode =
          afterPreflight { phases := { phases with preflight := some details } }
            spec.upgradeMode := by
        cases spec.upgradeMode <;> rfl
      exact onRoute_afterPreflight
  | controlPlane _ inPhase _ _ _ _ _ move =>
    exact move.onRoute inPhase route
  | addonsDone _ inPhase done _ nextEq =>
    obtain ⟨forward, rollback⟩ := route.beforeAddons inPhase
    exact nextEq ▸ onRoute_afterAddons done forward rollback
  | addon _ inPhase _ _ _ _ nextEq =>
    rcases nextEq with rfl | rfl
    · apply route.keep .addons
      · rcases inPhase with rfl | rfl <;> cases spec.upgradeMode <;> simp [doneBefore]
      · intro component other done
        cases component with
        | addons => exact absurd rfl other
        | controlPlane | nodegroups | karpenter => exact done
    · exact onRoute_failed
  | nodegroupsDone _ inPhase done _ nextEq =>
    exact nextEq ▸ onRoute_afterNodegroups done (route.beforeNodegroups inPhase)
  | nodegroup _ inPhase _ _ _ _ _ nextEq =>
    rcases nextEq with rfl | rfl
    · apply route.keep .nodegroups
      · rcases inPhase with rfl | rfl <;> cases spec.upgradeMode <;> simp [doneBefore]
      · intro component other done
        cases component with
        | nodegroups => exact absurd rfl other
        | controlPlane | addons | karpenter => exact done
    · exact onRoute_failed
  | karpenterAbsent _ absent =>
    apply route.afterKarpenter
    intro _ karpenter present
    rw [absent] at present
    cases present
  | karpenterDone karpenter _ present done =>
    apply (route.keepKarpenter _).afterKarpenter
    intro owned _ detailsEq pool member
    cases detailsEq
    rcases done pool member with finished | failed
    · exact finished
    · exact absurd failed (working owned karpenter present pool member)
  | karpenter _ _ _ _ _ _ _ _ nextEq =>
    rcases nextEq with rfl | ⟨rfl, -⟩
    · exact onRoute_failed
    · exact route.keepKarpenter _

end Moves

end Addons.EksUpgrade
