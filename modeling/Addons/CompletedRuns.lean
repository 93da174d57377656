import Addons.RunRoutes

/-!
# What a completed run has done

A run that completes without a dry run, and whose mode and target were not edited after
planning, has done everything that was planned: the updates of the path in order, every
add-on and node group, and every NodePool of a forward run.
-/

namespace Addons.EksUpgrade

open TransitionSystem List Option

/-- The phase details are those of the plan, further along. -/
structure RunPlan.Covers (plan : RunPlan) (phases : PhaseStatuses) : Prop where
  path : phases.upgradePath = plan.phases.upgradePath
  addons : phases.addons.map (·.name) = plan.phases.addons.map (·.name)
  nodegroups : phases.nodegroups.map (·.name) = plan.phases.nodegroups.map (·.name)
  pools : plan.pools ≠ [] → ∃ karpenter, phases.karpenterNodePools = some karpenter ∧
    karpenter.pools.map (·.name) = plan.pools

def PoolsWork (phases : PhaseStatuses) : Prop :=
  ∀ karpenter, phases.karpenterNodePools = some karpenter →
    ∀ pool ∈ karpenter.pools, pool.status ≠ .failed

/-- What holds of a planned run in flight. -/
structure OnCourse (run : RunRecord) (plan : RunPlan) (spec : EksUpgradeSpec)
    (phase : UpgradePhase) (phases : PhaseStatuses) : Prop where
  covers : plan.Covers phases
  working : plan.pools ≠ [] → PoolsWork phases
  underway : ∃ details, phases.controlPlane = some details ∧
    Underway run.calls phases.upgradePath details
  mode : run.redirected = false → spec.upgradeMode = plan.mode
  target : run.retargeted = false → spec.targetVersion = plan.targetVersion
  route : run.redirected = false → OnRoute plan.mode plan.pools phase phases

section Moves

variable {now : Instant} {found : PlanningAnswers}
  {spec : EksUpgradeSpec} {calls : List Call} {phase next : UpgradePhase}
  {phases phases' : PhaseStatuses} {plan : RunPlan}

theorem map_modify_eq {Value Result : Type} {view : Value → Result} {change : Value → Value}
    (same : ∀ value, view (change value) = view value) (values : List Value) (index : Nat) :
    (values.modify index change).map view = values.map view := by
  induction values generalizing index with
  | nil => simp
  | cons _ _ ih =>
    cases index with
    | zero => simp [same]
    | succ => simp [ih]

section

variable (move : PhaseMove now spec found phases phase calls next phases')
include move

theorem PhaseMove.covers (inFlight : phase.isInFlight) (covers : plan.Covers phases) :
    plan.Covers phases' := by
  cases move with
  | begin | reject | plan => cases inFlight
  | check | controlPlane =>
    exact ⟨covers.path, covers.addons, covers.nodegroups, covers.pools⟩
  | addonsDone | nodegroupsDone | karpenterAbsent => exact covers
  | addon _ _ _ _ named =>
    exact ⟨covers.path, (map_modify_eq named _ _).trans covers.addons, covers.nodegroups,
      covers.pools⟩
  | nodegroup _ _ _ _ _ named =>
    exact ⟨covers.path, covers.addons, (map_modify_eq named _ _).trans covers.nodegroups,
      covers.pools⟩
  | karpenterDone _ _ present =>
    refine ⟨covers.path, covers.addons, covers.nodegroups, ?_⟩
    intro owned
    obtain ⟨details, detailsEq, names⟩ := covers.pools owned
    obtain rfl := some.inj (present.symm.trans detailsEq)
    exact ⟨_, rfl, names⟩
  | karpenter _ _ _ present kept =>
    refine ⟨covers.path, covers.addons, covers.nodegroups, ?_⟩
    intro owned
    obtain ⟨_, detailsEq, names⟩ := covers.pools owned
    obtain rfl := some.inj (present.symm.trans detailsEq)
    exact ⟨_, rfl, kept.2.trans names⟩

/-- A NodePool fails only together with the run. -/
theorem PhaseMove.poolsWork (inFlight : phase.isInFlight) (running : next ≠ .failed)
    (working : PoolsWork phases) : PoolsWork phases' := by
  cases move with
  | begin | reject | plan => cases inFlight
  | check | controlPlane | addonsDone | addon | nodegroupsDone | nodegroup | karpenterAbsent =>
    exact working
  | karpenterDone karpenter _ present =>
    intro details detailsEq pool member
    cases detailsEq
    exact working karpenter present pool member
  | karpenter karpenter _ _ present _ _ _ _ nextEq =>
    rcases nextEq with rfl | ⟨rfl, failures⟩
    · exact absurd rfl running
    · intro _ detailsEq pool member failed
      cases detailsEq
      obtain ⟨earlier, earlierMem, earlierFailed⟩ := failures pool member failed
      exact working karpenter present earlier earlierMem earlierFailed

theorem PhaseMove.underway {made : List Call} (inFlight : phase.isInFlight)
    (underway : ∃ details, phases.controlPlane = some details ∧
      Underway made phases.upgradePath details) :
    ∃ details, phases'.controlPlane = some details ∧
      Underway (made ++ calls) phases'.upgradePath details := by
  obtain ⟨details, detailsEq, holds⟩ := underway
  cases move with
  | begin | reject | plan => cases inFlight
  | check | addonsDone | addon | nodegroupsDone | nodegroup | karpenterAbsent | karpenterDone
  | karpenter => exact ⟨details, detailsEq, holds.grow _⟩
  | controlPlane _ _ _ details' present _ _ move =>
    obtain rfl := some.inj (present.symm.trans detailsEq)
    exact ⟨details', rfl, move.underway holds⟩

end

end Moves

theorem underway_planned (calls : List Call) (spec : EksUpgradeSpec) (phases : PhaseStatuses)
    (plan : UpgradePlan) (pools : List KarpenterPoolStatus) :
    ∃ details, (plannedPhases spec phases plan pools).controlPlane = some details ∧
      Underway calls (plannedPhases spec phases plan pools).upgradePath details := by
  refine ⟨_, rfl, [], ?_, ?_⟩
  · split_ifs <;> simp
  · simp [updateCalls, activeCall]

variable {spec : EksUpgradeSpec} {phases phases' : PhaseStatuses} {plan : UpgradePlan}
  {found : PlanningAnswers} {now : Instant} {calls : List Call} {next : UpgradePhase}
  {tracked : Tracked} {answers : Answers}

theorem plannedPhases_pools {pools : List KarpenterPoolStatus}
    (configured : spec.karpenterNodePools = none → pools = []) (owned : pools ≠ []) :
    ∃ karpenter, (plannedPhases spec phases plan pools).karpenterNodePools = some karpenter ∧
      karpenter.pools = pools := by
  cases sectionEq : spec.karpenterNodePools with
  | none => exact absurd (configured sectionEq) owned
  | some config =>
    refine ⟨{ strategy := config.strategy.text, pools }, ?_, rfl⟩
    simp [plannedPhases, sectionEq, owned]

theorem PhaseMove.pending_next
    (move : PhaseMove now spec found phases .pending calls next phases') : next = .planning := by
  cases move with
  | begin => rfl
  | controlPlane _ inPhase | addonsDone _ inPhase | addon _ inPhase | nodegroupsDone _ inPhase
  | nodegroup _ inPhase => simp at inPhase

theorem PhaseMove.planning_cases
    (move : PhaseMove now spec found phases .planning calls next phases') :
    next = .failed ∨
      ∃ plan pools, createUpgradePlan spec found = .ok plan ∧
        planKarpenter spec found = .ok pools ∧ phases' = plannedPhases spec phases plan pools ∧
        (spec.karpenterNodePools = none → pools = []) ∧
        (∀ pool ∈ pools, pool.status = .pending) ∧
        next = if plan.isEmpty && pools.isEmpty then .completed else .preflightChecking := by
  cases move with
  | reject => exact .inl rfl
  | plan plan pools created planned configured pending _ nextEq =>
    exact .inr ⟨plan, pools, created, planned, rfl, configured, pending, nextEq⟩
  | controlPlane _ inPhase | addonsDone _ inPhase | addon _ inPhase | nodegroupsDone _ inPhase
  | nodegroup _ inPhase => simp at inPhase

/-- Every step keeps a planned run on its course. -/
theorem keptInFlight_onCourse : KeptInFlight OnCourse where
  plan := by
    intro run now spec found phases phases' plan pools straight _ phasesEq planned move
      runPlan mode target poolsEq runPhases
    have facts : (spec.karpenterNodePools = none → pools = []) ∧
        ∀ pool ∈ pools, pool.status = .pending := by
      rcases move.planning_cases with failed | ⟨-, _, -, planned', -, configured, pending, -⟩
      · cases failed
      · obtain rfl := Except.ok.inj (planned.symm.trans planned')
        exact ⟨configured, pending⟩
    obtain ⟨configured, pending⟩ := facts
    have owned : runPlan.pools ≠ [] → pools ≠ [] := by
      intro nonempty empty
      simp [poolsEq, empty] at nonempty
    subst phasesEq
    constructor
    · refine ⟨by rw [runPhases], by rw [runPhases], by rw [runPhases], ?_⟩
      intro nonempty
      obtain ⟨karpenter, present, same⟩ :=
        @plannedPhases_pools spec phases plan pools configured (owned nonempty)
      exact ⟨karpenter, present, by rw [same, poolsEq]⟩
    · intro nonempty details detailsEq pool member
      obtain ⟨_, present, same⟩ :=
        @plannedPhases_pools spec phases plan pools configured (owned nonempty)
      obtain rfl := some.inj (present.symm.trans detailsEq)
      rw [same] at member
      simp [pending pool member]
    · exact underway_planned run.calls spec phases plan pools
    · exact fun _ => mode.symm
    · exact fun _ => target.symm
    · refine fun _ => ⟨[], ?_, by simp⟩
      cases runPlan.mode <;> rfl
  edit := by
    intro run plan spec phase phases spec' planEq course
    have straight : (run.edit spec').redirected = false →
        run.redirected = false ∧ spec'.upgradeMode = plan.mode := by
      simp [RunRecord.edit, planEq]
    refine { course with mode := ?_, target := ?_, route := ?_ }
    · exact fun unedited => (straight unedited).2
    · simp [RunRecord.edit, planEq]
    · exact fun unedited => course.route (straight unedited).1
  grow := by
    intro run plan spec phase phases calls course
    obtain ⟨details, present, underway⟩ := course.underway
    exact ⟨course.covers, course.working, ⟨details, present, underway.grow calls⟩,
      course.mode, course.target, course.route⟩
  move := by
    intro _ _ _ _ _ _ _ _ next _ course inFlight inFlight' move
    have running : next ≠ .failed := by
      rintro rfl
      cases inFlight'
    constructor
    · exact move.covers inFlight course.covers
    · exact fun owned => move.poolsWork inFlight running (course.working owned)
    · exact move.underway inFlight course.underway
    · exact course.mode
    · exact course.target
    · intro straight
      have mode := course.mode straight
      rw [← mode]
      apply move.onRoute inFlight
      · rintro - - rfl
        cases inFlight'
      · exact course.working
      · rw [mode]
        exact course.route straight

structure RunDone (run : RunRecord) (plan : RunPlan) (phases : PhaseStatuses) : Prop where
  covers : plan.Covers phases
  updates : Executed run.calls phases.upgradePath
  addons : ∀ addon ∈ phases.addons, addon.status.isDone = true
  nodegroups : ∀ group ∈ phases.nodegroups, group.status.isDone = true
  pools : plan.mode = .forward → plan.pools ≠ [] →
    ∀ karpenter, phases.karpenterNodePools = some karpenter →
      ∀ pool ∈ karpenter.pools, pool.status.isDone = true

theorem executed_of_underway {pools : List String} (fit : StepsFit phases)
    (done : ComponentDone pools phases .controlPlane)
    (underway : ∃ details, phases.controlPlane = some details ∧
      Underway calls phases.upgradePath details) : Executed calls phases.upgradePath := by
  obtain ⟨details, present, updates, versions, made⟩ := underway
  refine ⟨updates, ?_, (sublist_append_left _ _).trans made⟩
  rw [versions]
  apply take_of_length_le
  rcases done with empty | ⟨_, present', _⟩
  · simp [empty]
  · obtain rfl := some.inj (present.symm.trans present')
    have total := (fit details present).total
    omega

theorem OnRoute.completed {mode : UpgradeMode} {pools : List String}
    (route : OnRoute mode pools .completed phases) :
    ComponentDone pools phases .controlPlane ∧ ComponentDone pools phases .addons ∧
      ComponentDone pools phases .nodegroups ∧
      (mode = .forward → ComponentDone pools phases .karpenter) := by
  obtain ⟨_, before, done⟩ := route
  cases mode with
  | forward =>
    cases before
    exact ⟨done _ (by simp), done _ (by simp), done _ (by simp), fun _ => done _ (by simp)⟩
  | rollback =>
    cases before
    exact ⟨done _ (by simp), done _ (by simp), done _ (by simp), by simp⟩

theorem onRoute_emptyPlan {pools : List KarpenterPoolStatus} (mode : UpgradeMode)
    (empty : plan.isEmpty) : OnRoute mode [] .completed (plannedPhases spec phases plan pools) := by
  simp only [UpgradePlan.isEmpty, Bool.and_eq_true, List.isEmpty_iff] at empty
  obtain ⟨⟨path, addons⟩, groups⟩ := empty
  have controlPlane : ComponentDone [] (plannedPhases spec phases plan pools) .controlPlane := by
    simp [ComponentDone, PhaseStatuses.upgradePath, plannedPhases, path]
  have addonsDone : ComponentDone [] (plannedPhases spec phases plan pools) .addons := by
    simp [ComponentDone, plannedPhases, addons]
  have groupsDone : ComponentDone [] (plannedPhases spec phases plan pools) .nodegroups := by
    simp [ComponentDone, plannedPhases, groups]
  have karpenter : ComponentDone [] (plannedPhases spec phases plan pools) .karpenter := by
    simp [ComponentDone]
  cases mode with
  | forward => exact ⟨_, rfl, by simp [controlPlane, addonsDone, groupsDone, karpenter]⟩
  | rollback => exact ⟨_, rfl, by simp [controlPlane, addonsDone, groupsDone]⟩

theorem runDone_of_onRoute {run : RunRecord} {plan : RunPlan} (fit : StepsFit phases)
    (covers : plan.Covers phases) (route : OnRoute plan.mode plan.pools .completed phases)
    (underway : ∃ details, phases.controlPlane = some details ∧
      Underway run.calls phases.upgradePath details) : RunDone run plan phases := by
  obtain ⟨controlPlane, addons, nodegroups, karpenter⟩ := route.completed
  constructor
  · exact covers
  · exact executed_of_underway fit controlPlane underway
  · exact addons
  · exact nodegroups
  · exact fun forward => karpenter forward

/-- The plan of a run that completes, what it has done, and how the plan compares with the
specification it completes under. -/
def CompletesPlan (tracked : Tracked) (answers : Answers) : Prop :=
  ∃ plan, (tracked.act (.reconcile answers)).run.plan = some plan ∧
    RunDone (tracked.act (.reconcile answers)).run plan
      (reconcile answers tracked.resource).status.phases ∧
    tracked.resource.spec.upgradeMode = plan.mode ∧
    (tracked.run.retargeted = false → tracked.resource.spec.targetVersion = plan.targetVersion)

/-- A reconcile that finds nothing to do completes the run it plans. -/
theorem completesPlan_of_planning (planning : tracked.resource.status.currentPhase = .planning)
    (completes : (reconcile answers tracked.resource).status.currentPhase = .completed)
    (fit : StepsFit (reconcile answers tracked.resource).status.phases)
    (move : PhaseMove answers.now tracked.resource.spec answers.planning
      tracked.resource.status.phases
      .planning (reconcile answers tracked.resource).calls .completed
      (reconcile answers tracked.resource).status.phases) : CompletesPlan tracked answers := by
  have running : tracked.resource.status.currentPhase.isTerminal = false := by
    rw [planning]
    rfl
  rcases move.planning_cases with failed | ⟨_, pools, -, planned, phasesEq, -, -, nextEq⟩
  · cases failed
  · split_ifs at nextEq with empty
    simp only [Bool.and_eq_true, List.isEmpty_iff] at empty
    have stored : storedPlan answers tracked.resource (reconcile answers tracked.resource).status =
          some
            { mode := tracked.resource.spec.upgradeMode
              targetVersion := tracked.resource.spec.targetVersion
              pools := []
              phases := (reconcile answers tracked.resource).status.phases } := by
      simp [storedPlan, planning, completes, planned, Except.toOption, empty.2]
    unfold CompletesPlan
    rw [Tracked.act_run running]
    simp only [RunRecord.reconcile, stored, some_or]
    refine ⟨_, rfl, ?_, rfl, fun _ => rfl⟩
    apply runDone_of_onRoute fit
    · exact ⟨rfl, rfl, rfl, fun owned => absurd rfl owned⟩
    · rw [phasesEq]
      exact onRoute_emptyPlan _ empty.1
    · rw [phasesEq]
      exact underway_planned _ _ _ _ _

/-- A reconcile that completes a run, a dry run apart, whose mode was not edited after
planning. -/
theorem completesPlan_of_reachable {allowed : Tracked → Event → Prop}
    (reached : Reachable Tracked.Initial Tracked.Step allowed tracked)
    (running : tracked.resource.status.currentPhase.isTerminal = false)
    (completes : (reconcile answers tracked.resource).status.currentPhase = .completed)
    (straight : tracked.run.redirected = false)
    (real : ¬ (tracked.resource.status.currentPhase = .preflightChecking ∧
      tracked.resource.spec.dryRun)) :
    CompletesPlan tracked answers ∧
      (reconcile answers tracked.resource).status.lastTransition =
        some { mode := tracked.resource.spec.upgradeMode
               toVersion := tracked.resource.spec.targetVersion, completedAt := answers.now } := by
  have resourceReached := resource_of_tracked reached
  have sound := sound_of_reachable resourceReached
  have fit : StepsFit (reconcile answers tracked.resource).status.phases :=
    ((fits_of_reachable resourceReached).reconcile sound answers).steps
  have consistent := consistent_of_tracked keptInFlight_onCourse reached
  have outcome := @Outcome.reconcile answers tracked.resource sound.staged
  cases outcome with
  | unmoved same =>
    have phase := same.currentPhase
    rw [← phase, completes] at running
    cases running
  | restarted terminal =>
    rw [terminal] at running
    cases running
  | failed _ phase =>
    have ended := currentPhase_of_some phase
    rw [ended] at completes
    cases completes
  | moved _ next move phase lastTransition =>
    obtain rfl : next = .completed := (congrArg (·.getD .pending) phase).symm.trans completes
    refine ⟨?_, lastTransition⟩
    by_cases inFlight : tracked.resource.status.currentPhase.isInFlight
    · obtain ⟨plan, planEq, course⟩ := consistent.inFlight inFlight
      have mode := course.mode straight
      unfold CompletesPlan
      rw [Tracked.act_run_of_isInFlight inFlight]
      refine ⟨plan, planEq, ?_, mode, course.target⟩
      apply runDone_of_onRoute fit
      · exact move.covers inFlight course.covers
      · rw [← mode]
        apply move.onRoute inFlight (fun checking dry => absurd ⟨checking, dry⟩ real) course.working
        rw [mode]
        exact course.route straight
      · exact move.underway inFlight course.underway
    · rcases early_of_not_isInFlight running inFlight with pending | planning
      · rw [pending] at move
        cases move.pending_next
      · rw [planning] at move
        exact completesPlan_of_planning planning completes fit move

/-- Whenever a run becomes completed, apart from dry runs and from runs whose mode was edited
after planning, everything that was planned is done, and the recorded transition has the planned
mode and, if it was not edited, the planned target. -/
theorem completedRuns_done (tracked : Tracked) (answers : Answers)
    (reached : Reachable Tracked.Initial Tracked.Step (fun _ _ => True) tracked)
    (running : tracked.resource.status.currentPhase.isTerminal = false)
    (completes : (tracked.act (.reconcile answers)).resource.status.currentPhase = .completed)
    (straight : tracked.run.redirected = false)
    (real : ¬ (tracked.resource.status.currentPhase = .preflightChecking ∧
      tracked.resource.spec.dryRun = true)) :
    ∃ plan, (tracked.act (.reconcile answers)).run.plan = some plan ∧
      RunDone (tracked.act (.reconcile answers)).run plan
        (tracked.act (.reconcile answers)).resource.status.phases ∧
      ∃ transition,
        (tracked.act (.reconcile answers)).resource.status.lastTransition = some transition ∧
          transition.mode = plan.mode ∧
            (tracked.run.retargeted = false → transition.toVersion = plan.targetVersion) := by
  rw [Tracked.act_resource] at completes ⊢
  obtain ⟨⟨plan, planEq, done, mode, target⟩, lastTransition⟩ :=
    completesPlan_of_reachable reached running completes straight real
  exact ⟨plan, planEq, done, _, lastTransition, mode, target⟩

def newTracked (spec : EksUpgradeSpec) : Tracked where
  resource := { spec, generation := 1 }

/-- A tracked resource after a number of reconciles of a calm cluster. -/
def calmTracked (spec : EksUpgradeSpec) : Nat → Tracked
  | 0 => newTracked spec
  | count + 1 => (calmTracked spec count).act (.reconcile calmAnswers)

theorem calmTracked_reached (spec : EksUpgradeSpec) (count : Nat) :
    Reachable Tracked.Initial Tracked.Step (fun _ _ => True) (calmTracked spec count) := by
  induction count with
  | zero => exact .start ⟨⟨rfl, rfl⟩, rfl, rfl⟩
  | succ _ ih => exact ih.next trivial rfl

theorem dryRun_completes_unexecuted :
    ∃ tracked, Reachable Tracked.Initial Tracked.Step (fun _ _ => True) tracked ∧
      tracked.resource.status.currentPhase.isTerminal = false ∧
      (tracked.act (.reconcile calmAnswers)).resource.status.currentPhase = .completed ∧
      (tracked.act (.reconcile calmAnswers)).resource.status.phases.upgradePath = ["1.34"] ∧
      ¬ Executed (tracked.act (.reconcile calmAnswers)).run.calls
        (tracked.act (.reconcile calmAnswers)).resource.status.phases.upgradePath := by
  refine ⟨calmTracked { stepSpec with dryRun := true } 2, calmTracked_reached _ _,
    by decide +kernel, by decide +kernel, by decide +kernel, ?_⟩
  rintro ⟨updates, versions, made⟩
  have noCalls : ((calmTracked { stepSpec with dryRun := true } 2).act
      (.reconcile calmAnswers)).run.calls = [] := by
    decide +kernel
  rw [noCalls, sublist_nil] at made
  cases updates with
  | nil => cases versions
  | cons => simp [updateCalls] at made

theorem completedRuns_done_step :
    ∃ plan, (calmTracked stepSpec 5).run.plan = some plan ∧
      RunDone (calmTracked stepSpec 5).run plan (calmTracked stepSpec 5).resource.status.phases ∧
      ∃ transition, (calmTracked stepSpec 5).resource.status.lastTransition = some transition ∧
        transition.mode = plan.mode ∧ transition.toVersion = plan.targetVersion := by
  obtain ⟨plan, planEq, done, transition, recorded, mode, target⟩ :=
    completedRuns_done (calmTracked stepSpec 4) calmAnswers (calmTracked_reached _ _)
      (by decide +kernel) (by decide +kernel) (by decide +kernel) (by decide +kernel)
  exact ⟨plan, planEq, done, transition, recorded, mode, target (by decide +kernel)⟩

open RunRecord

/-! ## The control plane updates of a run -/

def Call.version : Call → Option String
  | updateStarted version _ => some version
  | updateSucceeded version _ => some version
  | nodeClaimDeleted _ _ => none

variable {spec : EksUpgradeSpec} {status : EksUpgradeStatus} {now : Instant} {phase : UpgradePhase}
  {run : RunRecord}

theorem version_of_executeControlPlane {answers : ControlPlaneAnswers} :
    ∀ call ∈ (executeControlPlane now spec status answers).calls,
      ∃ details version, status.phases.controlPlane = some details ∧
        currentTarget details status.phases.upgradePath = some version ∧
        ((∃ updateId, call = .updateStarted version updateId) ∨
          ∃ updateId, details.updateId = some updateId ∧
            call = .updateSucceeded version updateId) := by
  intro _ member
  unfold executeControlPlane at member
  split at member
  · simp at member
  next details present =>
    dsimp only at member
    split at member
    · simp at member
    · split at member
      · simp at member
      next version target =>
        refine ⟨details, version, present, target, ?_⟩
        split at member
        next updateId active =>
          right
          simp only [pollControlPlane] at member
          split at member
          · simp at member
          · split at member
            · simp at member
            · split at member
              · exact ⟨updateId, active, mem_singleton.mp member⟩
              · simp at member
        · left
          simp only [startControlPlane] at member
          split at member
          · exact ⟨_, mem_singleton.mp member⟩
          · simp at member
          · exact ⟨_, mem_singleton.mp member⟩

theorem version_of_executeKarpenter {answers : KarpenterAnswers} :
    ∀ call ∈ (executeKarpenter now spec status answers).calls, call.version = none := by
  intro call member
  unfold executeKarpenter at member
  split at member
  · simp at member
  · split at member
    · simp at member
    · split at member
      · simp at member
      · split at member
        · simp at member
        · simp at member
        · simp at member
        · obtain ⟨_, _, rfl⟩ := deletions_of_stepPool call member
          rfl

variable {answers : Answers} {version : String} {call : Call}

theorem version_of_dispatch (member : call ∈ (dispatch answers spec status phase).calls)
    (versioned : call.version = some version) :
    phase.isControlPlane ∧ ∃ details, status.phases.controlPlane = some details ∧
      currentTarget details status.phases.upgradePath = some version ∧
      ∀ updateId, call = .updateSucceeded version updateId →
        details.updateId = some updateId := by
  have controlPlane : call ∈
      (executeControlPlane answers.now spec status answers.controlPlane).calls →
      ∃ details, status.phases.controlPlane = some details ∧
        currentTarget details status.phases.upgradePath = some version ∧
        ∀ updateId, call = .updateSucceeded version updateId →
          details.updateId = some updateId := by
    intro made
    obtain ⟨details, _, present, targetEq, kind⟩ := version_of_executeControlPlane call made
    rcases kind with ⟨updateId, rfl⟩ | ⟨_, active, rfl⟩
    · cases versioned
      exact ⟨details, present, targetEq, fun _ same => by cases same⟩
    · cases versioned
      refine ⟨details, present, targetEq, ?_⟩
      intro _ same
      cases same
      exact active
  cases phase with
  | upgradingControlPlane | rollingBackControlPlane => exact ⟨rfl, controlPlane member⟩
  | upgradingKarpenterNodePools =>
    rw [version_of_executeKarpenter call member] at versioned
    cases versioned
  | _ => simp [dispatch, Attempt.ofResult] at member

variable {resource : Resource}

theorem mem_calls_of_reconcile (member : call ∈ (reconcile answers resource).calls) :
    call ∈ (dispatch answers resource.spec resource.status
      resource.status.currentPhase).calls := by
  rcases reconcile_cases answers resource with ⟨_, -, served⟩ | ⟨-, quiet, -⟩
  · rwa [served, calls_serve] at member
  · rw [quiet] at member
    cases member

/-! ## The direction of a plan -/

/-- Whether the first version has a lower minor than the second. -/
def isBelow (first second : String) : Bool :=
  match minorOf first, minorOf second with
  | some low, some high => low < high
  | _, _ => false

/-- The version of the cluster when the run was planned. -/
def RunPlan.source (plan : RunPlan) : Option String := plan.phases.planning.bind (·.sourceVersion)

/-- The versions of a plan are all on one side of the version it starts from. -/
def RunPlan.Directed (plan : RunPlan) : Prop :=
  ∃ source, plan.source = some source ∧ ∀ version ∈ plan.phases.upgradePath,
    match plan.mode with
    | .forward => isBelow source version = true
    | .rollback => isBelow version source = true

variable {first second : String}

theorem isBelow_of_lt {low high : Nat} (atFirst : minorOf first = some low)
    (atSecond : minorOf second = some high) (below : low < high) : isBelow first second := by
  simp [isBelow, atFirst, atSecond, below]

theorem not_isBelow_of_isBelow (below : isBelow first second) : isBelow second first = false := by
  cases atFirst : minorOf first with
  | none => simp [isBelow, atFirst] at below
  | some =>
    cases atSecond : minorOf second with
    | none => simp [isBelow, atFirst, atSecond] at below
    | some =>
      simp only [isBelow, atFirst, atSecond, decide_eq_true_eq] at below
      simp only [isBelow, atFirst, atSecond, decide_eq_false_iff_not]
      omega

theorem directed_of_planned {found : PlanningAnswers} {phases : PhaseStatuses} {plan : UpgradePlan}
    {pools : List KarpenterPoolStatus} (created : createUpgradePlan spec found = .ok plan)
    (unplanned : phases.planning = none) {runPlan : RunPlan}
    (mode : runPlan.mode = spec.upgradeMode)
    (stored : runPlan.phases = plannedPhases spec phases plan pools) : runPlan.Directed := by
  obtain ⟨-, path⟩ := createUpgradePlan_path created
  refine ⟨plan.currentVersion, ?_, ?_⟩
  · simp [RunPlan.source, stored, plannedPhases, unplanned]
  · intro version member
    have planned : version ∈ plan.upgradePath := by
      simpa [PhaseStatuses.upgradePath, stored, plannedPhases] using member
    rw [mode]
    cases direction : spec.upgradeMode with
    | forward =>
      rw [direction] at path
      obtain ⟨low, high, source, target, below⟩ := lt_minorOf_mem_upgradePath path planned
      exact isBelow_of_lt source target below
    | rollback =>
      rw [direction] at path
      obtain ⟨_, _, source, target, below⟩ := minorOf_mem_rollbackPath_lt path planned
      exact isBelow_of_lt target source below

/-! ## Faithful records -/

structure RunRecord.Faithful (run : RunRecord) : Prop where
  planned : ∀ call ∈ run.calls, ∀ version, call.version = some version →
    ∃ plan, run.plan = some plan ∧ version ∈ plan.phases.upgradePath
  started : ∀ version updateId, .updateSucceeded version updateId ∈ run.calls →
    .updateStarted version (some updateId) ∈ run.calls
  directed : ∀ plan, run.plan = some plan → plan.Directed

theorem RunRecord.Faithful.new : ({} : RunRecord).Faithful where
  planned _ member := by cases member
  started _ _ member := by cases member
  directed _ none := by cases none

theorem RunRecord.Faithful.edit (faithful : run.Faithful)
    (spec : EksUpgradeSpec) : (run.edit spec).Faithful :=
  ⟨faithful.planned, faithful.started, faithful.directed⟩

variable {details : ControlPlaneStatus} {path : List String}

theorem mem_of_currentTarget (target : currentTarget details path = some version) :
    version ∈ path :=
  mem_of_getElem? (currentTarget_pos target).2

theorem isInFlight_of_isControlPlane (inPhase : phase.isControlPlane) : phase.isInFlight := by
  cases phase with
  | upgradingControlPlane => rfl
  | rollingBackControlPlane => rfl
  | _ => cases inPhase

variable {tracked : Tracked}

theorem planned_of_reconcile (consistent : tracked.Consistent OnCourse)
    (member : call ∈ (reconcile answers tracked.resource).calls)
    (versioned : call.version = some version) :
    tracked.resource.status.currentPhase.isInFlight ∧
      (∃ plan, tracked.run.plan = some plan ∧ version ∈ plan.phases.upgradePath) ∧
      ∀ updateId, call = .updateSucceeded version updateId →
        .updateStarted version (some updateId) ∈ tracked.run.calls := by
  obtain ⟨inPhase, _, present, target, succeeded⟩ :=
    version_of_dispatch (mem_calls_of_reconcile member) versioned
  have inFlight := isInFlight_of_isControlPlane inPhase
  obtain ⟨plan, planEq, course⟩ := consistent.inFlight inFlight
  obtain ⟨_, present', underway⟩ := course.underway
  obtain rfl := Option.some.inj (present.symm.trans present')
  refine ⟨inFlight, ⟨plan, planEq, ?_⟩, ?_⟩
  · rw [← course.covers.path]
    exact mem_of_currentTarget target
  · intro updateId same
    obtain ⟨_, -, made⟩ := underway
    rw [activeCall_eq target (succeeded updateId same)] at made
    exact made.subset (by simp)

variable {plan : RunPlan}

theorem storedPlan_cases (sound : resource.Sound)
    (stored : storedPlan answers resource (reconcile answers resource).status = some plan) :
    resource.status.currentPhase = .planning ∧ plan.mode = resource.spec.upgradeMode ∧
      ∃ made pools, createUpgradePlan resource.spec answers.planning = .ok made ∧
        plan.phases = plannedPhases resource.spec resource.status.phases made pools := by
  unfold storedPlan at stored
  split at stored
  next atPlanning =>
    obtain ⟨planning, next⟩ := atPlanning
    cases stored
    refine ⟨planning, rfl, ?_⟩
    have outcome := @Outcome.reconcile answers resource sound.staged
    cases outcome with
    | unmoved same =>
      have phase := same.currentPhase
      simp [phase, planning] at next
    | restarted terminal => simp [planning, UpgradePhase.isTerminal] at terminal
    | failed _ phase =>
      have ended := currentPhase_of_some phase
      simp [ended] at next
    | moved _ _ move phase =>
      have current := currentPhase_of_some phase
      rw [planning] at move
      rcases move.planning_cases with failed | ⟨made, pools, created, -, phasesEq, -⟩
      · simp [current, failed] at next
      · exact ⟨made, pools, created, phasesEq⟩
  · cases stored

theorem directed_of_storedPlan (sound : resource.Sound)
    (stored : storedPlan answers resource (reconcile answers resource).status = some plan) :
    plan.Directed := by
  obtain ⟨planning, mode, _, _, created, phasesEq⟩ := storedPlan_cases sound stored
  have unplanned := (sound.staged.unplanned (.inr planning)).planning
  exact directed_of_planned created unplanned mode phasesEq

theorem RunRecord.Faithful.reconcile (faithful : tracked.run.Faithful)
    (sound : tracked.resource.Sound) (consistent : tracked.Consistent OnCourse)
    (answers : Answers) : (tracked.run.reconcile answers tracked.resource).Faithful := by
  have keeps : ∀ plan, tracked.run.plan = some plan →
      (tracked.run.reconcile answers tracked.resource).plan = some plan := by
    intro plan planEq
    have planned : tracked.resource.status.currentPhase ≠ .planning := by
      intro planning
      rw [(consistent.early (.inr planning)).1] at planEq
      cases planEq
    simp [RunRecord.reconcile, storedPlan_eq_none planned, planEq]
  constructor
  · intro call member version versioned
    rcases mem_append.mp member with made | made
    · obtain ⟨plan, planEq, inPath⟩ := faithful.planned call made version versioned
      exact ⟨plan, keeps plan planEq, inPath⟩
    · obtain ⟨-, ⟨plan, planEq, inPath⟩, -⟩ := planned_of_reconcile consistent made versioned
      exact ⟨plan, keeps plan planEq, inPath⟩
  · intro version updateId member
    apply mem_append_left
    rcases mem_append.mp member with made | made
    · exact faithful.started version updateId made
    · exact (planned_of_reconcile consistent made rfl).2.2 updateId rfl
  · intro plan planEq
    rcases Option.or_eq_some_iff.mp planEq with stored | ⟨-, kept⟩
    · exact directed_of_storedPlan sound stored
    · exact faithful.directed plan kept

def Call.isStart : Call → Bool
  | updateStarted _ _ => true
  | _ => false

/-- Whether the run has started an update of the control plane. -/
def RunRecord.hasStarted (run : RunRecord) : Bool := run.calls.any Call.isStart

def RunRecord.mode (run : RunRecord) : Option UpgradeMode := run.plan.map (·.mode)

def RunRecord.source (run : RunRecord) : Option String := run.plan.bind (·.source)

def RunRecord.StartedLower (run : RunRecord) : Prop :=
  ∃ source version updateId, run.source = some source ∧
    .updateStarted version updateId ∈ run.calls ∧ isBelow version source = true

def RunRecord.ReportedHigher (run : RunRecord) : Prop :=
  ∃ source version updateId, run.source = some source ∧
    .updateSucceeded version updateId ∈ run.calls ∧ isBelow source version = true

/-- The changes made in a run: each with the version it started from and the one it reached. -/
def RunRecord.changes (run : RunRecord) : List (String × String) :=
  match run.source with
  | none => []
  | some source => run.calls.filterMap fun
      | .updateSucceeded version _ => some (source, version)
      | _ => none

/-- No run is a dry run or finds the control plane at its target, the mode is not edited
between planning and the end of a run, and a run that failed is restarted only if it had not
started an update. -/
def Decisive (tracked : Tracked) : Event → Prop
  | .edit spec => tracked.resource.status.currentPhase.isInFlight = true →
      spec.upgradeMode = tracked.resource.spec.upgradeMode
  | .reconcile answers =>
    (tracked.resource.status.currentPhase = .planning →
      ∀ version ∈ answers.planning.clusterVersion.toOption.join,
        (calculatePath tracked.resource.spec.upgradeMode version
          tracked.resource.spec.targetVersion).toOption ≠ some []) ∧
    (tracked.resource.status.currentPhase = .preflightChecking →
      tracked.resource.spec.dryRun = false) ∧
    (tracked.resource.status.currentPhase = .failed →
      tracked.resource.status.observedGeneration < tracked.resource.generation →
        tracked.run.hasStarted = false)

instance (tracked : Tracked) : (event : Event) → Decidable (Decisive tracked event)
  | .edit _ => inferInstanceAs (Decidable (_ → _))
  | .reconcile _ => inferInstanceAs (Decidable ((_ → _) ∧ (_ → _) ∧ (_ → _ → _)))

/-- The runs of a resource, the current one last. -/
def Tracked.runs (tracked : Tracked) : List RunRecord := tracked.earlier ++ [tracked.run]

def lastMode (runs : List RunRecord) : Option UpgradeMode :=
  (runs.filter (·.hasStarted)).getLast?.bind (·.mode)

theorem lastMode_concat_of_hasStarted {runs : List RunRecord}
    (started : run.hasStarted) : lastMode (runs ++ [run]) = run.mode := by
  simp [lastMode, filter_append, started]

theorem lastMode_append_of_not_hasStarted {runs others : List RunRecord}
    (quiet : ∀ run ∈ others, run.hasStarted = false) : lastMode
    (runs ++ others) = lastMode runs := by
  have none : others.filter (·.hasStarted) = [] := by
    simpa [filter_eq_nil_iff] using quiet
  simp [lastMode, filter_append, none]

/-- The run has made all the updates of a plan that has some. -/
def RunRecord.Decided (run : RunRecord) : Prop :=
  ∃ plan, run.plan = some plan ∧ plan.phases.upgradePath ≠ [] ∧
    Executed run.calls plan.phases.upgradePath

theorem Executed.exists_update {calls : List Call} {versions : List String}
    (executed : Executed calls versions) (nonempty : versions ≠ []) :
    ∃ version ∈ versions, ∃ updateId, .updateStarted version (some updateId) ∈ calls ∧
      .updateSucceeded version updateId ∈ calls := by
  obtain ⟨updates, versionsEq, made⟩ := executed
  cases updates with
  | nil => exact absurd versionsEq.symm nonempty
  | cons update =>
    obtain ⟨version, updateId⟩ := update
    refine ⟨version, ?_, updateId, made.subset ?_, made.subset ?_⟩
    · simp [← versionsEq]
    · simp [updateCalls]
    · simp [updateCalls]

theorem hasStarted_of_mem {version : String} {updateId : Option String}
    (member : .updateStarted version updateId ∈ run.calls) : run.hasStarted :=
  any_eq_true.mpr ⟨_, member, rfl⟩

theorem RunRecord.Decided.hasStarted (decided : run.Decided) : run.hasStarted := by
  obtain ⟨_, -, nonempty, executed⟩ := decided
  obtain ⟨_, -, _, started, -⟩ := executed.exists_update nonempty
  exact hasStarted_of_mem started

section Directions

variable {run : RunRecord}

theorem RunRecord.StartedLower.mode (lower : run.StartedLower) (faithful : run.Faithful) :
    run.mode = some .rollback := by
  obtain ⟨source, version, _, sourceEq, started, below⟩ := lower
  obtain ⟨plan, planEq, member⟩ := faithful.planned _ started version rfl
  obtain ⟨source', sourceEq', directed⟩ := faithful.directed plan planEq
  have same : source' = source := by
    simpa [RunRecord.source, planEq, sourceEq'] using sourceEq
  subst same
  have direction := directed version member
  cases modeEq : plan.mode with
  | forward =>
    rw [modeEq] at direction
    rw [not_isBelow_of_isBelow direction] at below
    cases below
  | rollback => simp [RunRecord.mode, planEq, modeEq]

theorem RunRecord.StartedLower.hasStarted (lower : run.StartedLower) : run.hasStarted := by
  obtain ⟨_, _, _, -, started, -⟩ := lower
  exact hasStarted_of_mem started

theorem RunRecord.Decided.reportedHigher (decided : run.Decided) (faithful : run.Faithful)
    (forward : run.mode = some .forward) : run.ReportedHigher := by
  obtain ⟨plan, planEq, nonempty, executed⟩ := decided
  obtain ⟨version, member, updateId, -, succeeded⟩ := executed.exists_update nonempty
  obtain ⟨source, sourceEq, directed⟩ := faithful.directed plan planEq
  have modeEq : plan.mode = .forward := by simpa [mode, planEq] using forward
  have direction := directed version member
  rw [modeEq] at direction
  refine ⟨source, version, updateId, ?_, succeeded, direction⟩
  simp [RunRecord.source, planEq, sourceEq]

variable {change : String × String}

theorem mem_changes (member : change ∈ run.changes) :
    run.source = some change.1 ∧ ∃ updateId, .updateSucceeded change.2 updateId ∈ run.calls := by
  unfold changes at member
  cases sourceEq : run.source with
  | none => simp [sourceEq] at member
  | some =>
    simp only [sourceEq, mem_filterMap] at member
    obtain ⟨call, made, changeEq⟩ := member
    cases call with
    | updateStarted => cases changeEq
    | updateSucceeded _ updateId =>
      cases changeEq
      exact ⟨rfl, updateId, made⟩
    | nodeClaimDeleted => cases changeEq

theorem isBelow_of_mem_changes (member : change ∈ run.changes)
    (faithful : run.Faithful) (rollback : run.mode = some .rollback) :
    isBelow change.2 change.1 := by
  obtain ⟨sourceEq, _, succeeded⟩ := mem_changes member
  obtain ⟨plan, planEq, inPath⟩ := faithful.planned _ succeeded change.2 rfl
  obtain ⟨source, sourceEq', directed⟩ := faithful.directed plan planEq
  have same : source = change.1 := by
    simpa [RunRecord.source, planEq, sourceEq'] using sourceEq
  have modeEq : plan.mode = .rollback := by simpa [mode, planEq] using rollback
  have direction := directed change.2 inPath
  rw [modeEq, same] at direction
  exact direction

theorem changes_eq_nil (faithful : run.Faithful) (quiet : run.hasStarted = false) :
    run.changes = [] := by
  apply eq_nil_iff_forall_not_mem.mpr
  intro change member
  obtain ⟨-, updateId, succeeded⟩ := mem_changes member
  have started := hasStarted_of_mem (faithful.started change.2 updateId succeeded)
  rw [quiet] at started
  cases started

theorem RunRecord.Decided.changes_ne_nil (decided : run.Decided) (faithful : run.Faithful) :
    run.changes ≠ [] := by
  obtain ⟨plan, planEq, nonempty, executed⟩ := decided
  obtain ⟨version, -, _, -, succeeded⟩ := executed.exists_update nonempty
  obtain ⟨source, sourceEq, -⟩ := faithful.directed plan planEq
  apply ne_nil_of_mem (a := (source, version))
  simp only [changes, RunRecord.source, planEq, Option.bind_some, sourceEq, mem_filterMap]
  exact ⟨_, succeeded, rfl⟩

end Directions

end Addons.EksUpgrade
