import Addons.CompletedRuns
import Mathlib.Data.List.Induction

/-!
# The guard against consecutive rollbacks

What the guard of the planning handler keeps over all runs of a resource, when the runs are
decisive.
-/

namespace Addons.EksUpgrade

open TransitionSystem List RunRecord EksUpgradeStatus Tracked

/-! ## A rejected plan is not stored -/

theorem currentPhase_storeStatus {stored : Bool} {server new : EksUpgradeStatus}
    {phase : UpgradePhase} (current : new.phase = some phase) :
    (storeStatus stored server new).currentPhase = server.currentPhase ∨
      (storeStatus stored server new).currentPhase = phase := by
  cases stored with
  | false => exact .inl rfl
  | true => simp [storeStatus, currentPhase, current]

variable {answers : Answers} {resource : Resource} {plan : RunPlan}

/-- A rollback that is rejected leaves the run in planning, or as failed. -/
theorem reconcile_of_consecutive (planning : resource.status.currentPhase = .planning)
    (consecutive :
      isConsecutiveRollback resource.spec.upgradeMode resource.status.lastTransition) :
    (reconcile answers resource).status.currentPhase = .planning ∨
      (reconcile answers resource).status.currentPhase = .failed := by
  have serves : ∀ server : EksUpgradeStatus, server.currentPhase = .planning →
      (serve answers resource server).status.currentPhase = .planning ∨
        (serve answers resource server).status.currentPhase = .failed := by
    intro _ atServer
    obtain ⟨rejected, executed, failed⟩ : ∃ rejected, executePlanning answers.now resource.spec
        resource.status answers.planning = .ok rejected ∧ rejected.phase = some .failed := by
      rw [executePlanning, rejectConsecutiveRollback, if_pos consecutive]
      exact ⟨_, rfl, rfl⟩
    have dispatched : (dispatch answers resource.spec resource.status .planning).result =
        .ok (rejected, some 0) := by
      simp [dispatch, Attempt.ofResult, executed, Except.map, Except.mapError]
    simp only [serve, planning, dispatched]
    rw [← atServer]
    exact currentPhase_storeStatus failed
  have refuses : ∀ message reason detail,
      (storeStatus answers.stored resource.status (refuseStatus answers.now resource.generation
        resource.status message reason detail)).currentPhase = .planning ∨
      (storeStatus answers.stored resource.status (refuseStatus answers.now resource.generation
        resource.status message reason detail)).currentPhase = .failed := by
    intro _ _ _
    rw [← planning]
    exact currentPhase_storeStatus rfl
  have authenticated : (authenticate answers resource).status.currentPhase = .planning ∨
      (authenticate answers resource).status.currentPhase = .failed := by
    unfold authenticate
    dsimp only
    split
    · exact refuses _ _ _
    · split
      · exact serves _ planning
      · split
        next _ _ =>
          apply serves
          have current : resource.status.phase = some .planning := by
            cases phase : resource.status.phase with
            | none => simp [currentPhase, phase] at planning
            | some phase => simpa [currentPhase, phase] using planning
          cases answers.identityStored with
          | false => exact planning
          | true => simp [storeStatus, currentPhase, identifyStatus, current]
        · exact refuses _ _ _
  unfold reconcile
  simp only [planning, UpgradePhase.isTerminal, UpgradePhase.isPolling, Bool.false_eq_true,
    if_false, and_false, reduceCtorEq]
  exact authenticated

theorem not_consecutive_of_storedPlan
    (stored : storedPlan answers resource (reconcile answers resource).status = some plan) :
    isConsecutiveRollback plan.mode resource.status.lastTransition = false := by
  unfold storedPlan at stored
  split at stored
  next atPlanning =>
    obtain ⟨planning, next⟩ := atPlanning
    cases stored
    by_contra consecutive
    simp only [Bool.not_eq_false] at consecutive
    rcases @reconcile_of_consecutive answers resource planning consecutive with phase | phase
    · simp [phase] at next
    · simp [phase] at next
  · cases stored

variable {tracked : Tracked}

theorem upgradePath_of_storedPlan
    (sound : tracked.resource.Sound) (decisive : Decisive tracked (.reconcile answers))
    (stored : storedPlan answers tracked.resource
      (reconcile answers tracked.resource).status = some plan) : plan.phases.upgradePath ≠ [] := by
  obtain ⟨planning, -, made, _, created, phasesEq⟩ := storedPlan_cases sound stored
  obtain ⟨cluster, path⟩ := createUpgradePlan_path created
  have moves := decisive.1 planning made.currentVersion (by simp [cluster, Except.toOption])
  rw [path] at moves
  have nonempty : made.upgradePath ≠ [] := fun empty => moves (congrArg some empty)
  simpa [PhaseStatuses.upgradePath, phasesEq, plannedPhases] using nonempty

/-! ## The invariant -/

/-- What holds of a tracked resource whose steps are decisive. -/
structure Tracked.Alternating (tracked : Tracked) : Prop where
  faithful : tracked.run.Faithful
  earlierFaithful : ∀ run ∈ tracked.earlier, run.Faithful
  /-- The mode of a run in flight is the planned one, and the plan has an update to make. -/
  straight : tracked.resource.status.currentPhase.isInFlight = true →
    tracked.run.redirected = false ∧
      ∀ plan, tracked.run.plan = some plan → plan.phases.upgradePath ≠ []
  decided : ∀ run ∈ tracked.earlier, run.hasStarted = true → run.Decided
  completed : tracked.resource.status.currentPhase = .completed →
    tracked.run.Decided ∧
      tracked.resource.status.lastTransition.map (·.mode) = tracked.run.mode
  transition : tracked.resource.status.currentPhase ≠ .completed →
    tracked.resource.status.lastTransition.map (·.mode) = lastMode tracked.earlier
  guarded : tracked.run.mode = some .rollback → lastMode tracked.earlier ≠ some .rollback
  order : ∀ before run after, tracked.earlier = before ++ run :: after →
    run.hasStarted = true → run.mode = some .rollback → lastMode before ≠ some .rollback

variable {before after : List RunRecord} {run : RunRecord}

namespace Tracked.Alternating

variable {tracked : Tracked} {answers : Answers}

theorem initial (begins : tracked.Initial) : tracked.Alternating := by
  obtain ⟨⟨-, statusEq⟩, runEq, earlierEq⟩ := begins
  constructor
  · rw [runEq]
    exact .new
  · simp [earlierEq]
  · intro inFlight
    rw [statusEq] at inFlight
    cases inFlight
  · simp [earlierEq]
  · intro completed
    rw [statusEq] at completed
    cases completed
  · intro _
    simp [statusEq, earlierEq, lastMode]
  · simp [earlierEq, lastMode]
  · intro _ _ _ decomposed
    simp [earlierEq] at decomposed

theorem RunRecord.Decided.grow {run' : RunRecord} (decided : run.Decided)
    (plan : run'.plan = run.plan) {calls : List Call} (more : run'.calls = run.calls ++ calls) :
    run'.Decided := by
  obtain ⟨made, planEq, nonempty, updates, versions, sublist⟩ := decided
  refine ⟨made, plan.trans planEq, nonempty, updates, versions, ?_⟩
  rw [more]
  exact sublist.trans (sublist_append_left _ _)

section

variable (alternating : tracked.Alternating)
include alternating

theorem edit (consistent : tracked.Consistent OnCourse)
    {spec : EksUpgradeSpec} (decisive : Decisive tracked (.edit spec)) :
    (tracked.act (.edit spec)).Alternating := by
  refine { alternating with faithful := ?_, straight := ?_ }
  · exact alternating.faithful.edit spec
  · intro inFlight
    obtain ⟨straight, nonempty⟩ := alternating.straight inFlight
    obtain ⟨plan, planEq, course⟩ := consistent.inFlight inFlight
    have same : spec.upgradeMode = plan.mode :=
      (decisive inFlight).trans (course.mode straight)
    refine ⟨?_, nonempty⟩
    simp [act, RunRecord.edit, straight, planEq, same]

theorem ordered (decomposed : tracked.runs = before ++ run :: after) (started : run.hasStarted)
    (rollback : run.mode = some .rollback) : lastMode before ≠ some .rollback := by
  rcases eq_nil_or_concat after with rfl | ⟨rest, last, rfl⟩
  · obtain ⟨rfl, same⟩ := append_inj' decomposed rfl
    obtain rfl := singleton_inj.mp same
    exact alternating.guarded rollback
  · have split : tracked.runs = (before ++ run :: rest) ++ [last] := by
      simpa using decomposed
    obtain ⟨earlierEq, -⟩ := append_inj' split rfl
    exact alternating.order before run rest earlierEq started rollback

/-- A restart closes the run. -/
theorem restarted (terminal : tracked.resource.status.currentPhase.isTerminal)
    (changed : tracked.resource.status.observedGeneration < tracked.resource.generation)
    (storedEq : (reconcile answers tracked.resource).status =
      resetStatus tracked.resource.status tracked.resource.generation)
    (decisive : Decisive tracked (.reconcile answers)) :
    (tracked.act (.reconcile answers)).Alternating := by
  have pending : (reconcile answers tracked.resource).status.currentPhase = .pending :=
    congrArg currentPhase storedEq
  have again : restarts answers tracked.resource := by
    simp [restarts, terminal, pending]
  have act : tracked.act (.reconcile answers) =
      { resource := tracked.resource.act (.reconcile answers)
        earlier := tracked.earlier ++ [tracked.run] } := by
    simp [act, again]
  have ended : tracked.resource.status.currentPhase = .completed ∨
      tracked.resource.status.currentPhase = .failed := by
    cases phase : tracked.resource.status.currentPhase with
    | completed => exact .inl rfl
    | failed => exact .inr rfl
    | _ => simp [phase, UpgradePhase.isTerminal] at terminal
  have lastTransition : (tracked.resource.act (.reconcile answers)).status.lastTransition =
        tracked.resource.status.lastTransition := by
    simp [Resource.act, storedEq, resetStatus]
  have quiet : tracked.resource.status.currentPhase = .failed →
      tracked.run.hasStarted = false := fun failed => decisive.2.2 failed changed
  rw [act]
  constructor
  · exact .new
  · intro run member
    rcases mem_append.mp member with member | member
    · exact alternating.earlierFaithful run member
    · exact mem_singleton.mp member ▸ alternating.faithful
  · intro inFlight
    simp only [Resource.act, pending] at inFlight
    cases inFlight
  · intro run member started
    rcases mem_append.mp member with member | member
    · exact alternating.decided run member started
    · obtain rfl := mem_singleton.mp member
      rcases ended with completed | failed
      · exact (alternating.completed completed).1
      · rw [quiet failed] at started
        cases started
  · intro completed
    simp [Resource.act, pending] at completed
  · intro _
    rw [lastTransition]
    rcases ended with completed | failed
    · obtain ⟨decided, recorded⟩ := alternating.completed completed
      rw [recorded, lastMode_concat_of_hasStarted decided.hasStarted]
    · rw [alternating.transition (by simp [failed])]
      exact (lastMode_append_of_not_hasStarted (by simpa using quiet failed)).symm
  · intro rollback
    cases rollback
  · exact fun _ _ _ decomposed => alternating.ordered decomposed

theorem guarded_reconcile
    (rollback : (tracked.run.reconcile answers tracked.resource).mode = some .rollback) :
    lastMode tracked.earlier ≠ some .rollback := by
  cases stored : storedPlan answers tracked.resource
      (reconcile answers tracked.resource).status with
  | none =>
    apply alternating.guarded
    simpa [mode, RunRecord.reconcile, stored] using rollback
  | some plan =>
    have mode : plan.mode = .rollback := by
      simpa [mode, RunRecord.reconcile, stored] using rollback
    have running : tracked.resource.status.currentPhase ≠ .completed := by
      intro completed
      simp [storedPlan, completed] at stored
    have alone := not_consecutive_of_storedPlan stored
    rw [← alternating.transition running]
    simpa [isConsecutiveRollback, mode] using alone

theorem straight_reconcile (sound : tracked.resource.Sound)
    (consistent : tracked.Consistent OnCourse) (decisive : Decisive tracked (.reconcile answers))
    (inFlight : (reconcile answers tracked.resource).status.currentPhase.isInFlight) :
    (tracked.run.reconcile answers tracked.resource).redirected = false ∧
      ∀ plan, (tracked.run.reconcile answers tracked.resource).plan = some plan →
        plan.phases.upgradePath ≠ [] := by
  cases stored : storedPlan answers tracked.resource
      (reconcile answers tracked.resource).status with
  | some plan =>
    obtain ⟨planning, -⟩ := storedPlan_cases sound stored
    refine ⟨(consistent.early (.inr planning)).2.1, ?_⟩
    intro other otherEq
    have same : plan = other := by simpa [RunRecord.reconcile, stored] using otherEq
    exact same ▸ upgradePath_of_storedPlan sound decisive stored
  | none =>
    have before : tracked.resource.status.currentPhase.isInFlight := by
      have outcome := @Outcome.reconcile answers tracked.resource sound.staged
      cases outcome with
      | unmoved same =>
        have phase := same.currentPhase
        exact phase ▸ inFlight
      | restarted _ _ storedEq =>
        rw [storedEq] at inFlight
        cases inFlight
      | failed _ phase =>
        have ended := currentPhase_of_some phase
        rw [ended] at inFlight
        cases inFlight
      | moved _ _ move phase =>
        have current := currentPhase_of_some phase
        rw [current] at inFlight
        rcases move.inFlight_cases inFlight with before | ⟨planning, -, rfl, -⟩
        · exact before
        · simp [storedPlan, planning, current] at stored
    obtain ⟨straight, nonempty⟩ := alternating.straight before
    refine ⟨straight, ?_⟩
    intro _ planEq
    apply nonempty
    simpa [RunRecord.reconcile, stored] using planEq

variable (reached : Reachable Tracked.Initial Tracked.Step Decisive tracked)
  (decisive : Decisive tracked (.reconcile answers))
include reached decisive

/-- A run that becomes completed has made the updates of its plan, and is recorded so. -/
theorem completes (running : tracked.resource.status.currentPhase.isTerminal = false)
    (completed : (reconcile answers tracked.resource).status.currentPhase = .completed) :
    (tracked.run.reconcile answers tracked.resource).Decided ∧
      (reconcile answers tracked.resource).status.lastTransition.map (·.mode) =
        (tracked.run.reconcile answers tracked.resource).mode := by
  have sound := sound_of_reachable (resource_of_tracked reached)
  have consistent := consistent_of_tracked keptInFlight_onCourse reached
  have straight : tracked.run.redirected = false := by
    by_cases inFlight : tracked.resource.status.currentPhase.isInFlight
    · exact (alternating.straight inFlight).1
    · exact (consistent.early (early_of_not_isInFlight running inFlight)).2.1
  have real : ¬ (tracked.resource.status.currentPhase = .preflightChecking ∧
      tracked.resource.spec.dryRun) := by
    rintro ⟨checking, dry⟩
    rw [decisive.2.1 checking] at dry
    cases dry
  obtain ⟨⟨plan, planEq, done, mode, -⟩, lastTransition⟩ :=
    completesPlan_of_reachable reached running completed straight real
  rw [act_run running] at planEq done
  have nonempty : plan.phases.upgradePath ≠ [] := by
    cases stored : storedPlan answers tracked.resource
        (reconcile answers tracked.resource).status with
    | some made =>
      have same : made = plan := by simpa [RunRecord.reconcile, stored] using planEq
      exact same ▸ upgradePath_of_storedPlan sound decisive stored
    | none =>
      have kept : tracked.run.plan = some plan := by
        simpa [RunRecord.reconcile, stored] using planEq
      apply (alternating.straight _).2 plan kept
      by_contra grounded
      have early := consistent.early (early_of_not_isInFlight running grounded)
      rw [early.1] at kept
      cases kept
  refine ⟨⟨plan, planEq, nonempty, ?_⟩, ?_⟩
  · rw [← done.covers.path]
    exact done.updates
  · rw [lastTransition]
    simp [RunRecord.mode, planEq, mode]

theorem continued (goesOn : restarts answers tracked.resource = false)
    (completed : (reconcile answers tracked.resource).status.currentPhase = .completed →
      (tracked.run.reconcile answers tracked.resource).Decided ∧
        (reconcile answers tracked.resource).status.lastTransition.map (·.mode) =
          (tracked.run.reconcile answers tracked.resource).mode)
    (transition : (reconcile answers tracked.resource).status.currentPhase ≠ .completed →
      tracked.resource.status.currentPhase ≠ .completed ∧
        (reconcile answers tracked.resource).status.lastTransition =
          tracked.resource.status.lastTransition) :
    (tracked.act (.reconcile answers)).Alternating := by
  have sound := sound_of_reachable (resource_of_tracked reached)
  have consistent := consistent_of_tracked keptInFlight_onCourse reached
  have act : tracked.act (.reconcile answers) =
      { tracked with
        resource := tracked.resource.act (.reconcile answers)
        run := tracked.run.reconcile answers tracked.resource } := by
    simp [act, goesOn]
  rw [act]
  constructor
  · exact alternating.faithful.reconcile sound consistent answers
  · exact alternating.earlierFaithful
  · exact alternating.straight_reconcile sound consistent decisive
  · exact alternating.decided
  · exact completed
  · intro other
    obtain ⟨before, same⟩ := transition other
    simp only [Resource.act, same]
    exact alternating.transition before
  · exact alternating.guarded_reconcile
  · exact alternating.order

theorem reconcile : (tracked.act (.reconcile answers)).Alternating := by
  have sound := sound_of_reachable (resource_of_tracked reached)
  have outcome := @Outcome.reconcile answers tracked.resource sound.staged
  cases outcome with
  | unmoved same =>
    have phase := same.currentPhase
    have goesOn : restarts answers tracked.resource = false := by
      unfold restarts
      rw [phase]
      cases tracked.resource.status.currentPhase <;> rfl
    apply alternating.continued reached decisive goesOn
    · intro completed
      rw [phase] at completed
      obtain ⟨decided, recorded⟩ := alternating.completed completed
      have unplanned : storedPlan answers tracked.resource
          (EksUpgrade.reconcile answers tracked.resource).status = none :=
        storedPlan_eq_none (by simp [completed])
      have plan : (tracked.run.reconcile answers tracked.resource).plan = tracked.run.plan := by
        simp [RunRecord.reconcile, unplanned]
      refine ⟨RunRecord.Decided.grow decided plan rfl, ?_⟩
      rw [same.lastTransition, recorded]
      simp [mode, plan]
    · intro other
      exact ⟨phase ▸ other, same.lastTransition⟩
  | restarted terminal changed storedEq =>
    exact alternating.restarted terminal changed storedEq decisive
  | failed running phase _ lastTransition =>
    have ended := currentPhase_of_some phase
    apply alternating.continued reached decisive (restarts_eq_false running)
    · simp [ended]
    · intro _
      refine ⟨?_, lastTransition⟩
      intro completed
      rw [completed] at running
      cases running
  | moved running _ _ phase lastTransition =>
    have current := currentPhase_of_some phase
    apply alternating.continued reached decisive (restarts_eq_false running)
    · exact alternating.completes reached decisive running
    · intro other
      rw [current] at other
      rw [if_neg other] at lastTransition
      refine ⟨?_, lastTransition⟩
      intro completed
      rw [completed] at running
      cases running

end

end Tracked.Alternating

theorem alternating_of_reachable
    (reached : Reachable Tracked.Initial Tracked.Step Decisive tracked) : tracked.Alternating := by
  induction reached with
  | start begins => exact .initial begins
  | @next _ _ event before decisive taken alternating =>
    subst taken
    cases event with
    | edit =>
      exact alternating.edit (consistent_of_tracked keptInFlight_onCourse before) decisive
    | reconcile => exact alternating.reconcile before decisive

/-! ## The order of rollbacks -/

theorem lastMode_eq_rollback {between : List RunRecord} {first : RunRecord}
    (started : first.hasStarted) (rollback : first.mode = some .rollback)
    (others : ∀ run ∈ between, run.hasStarted → run.mode = some .rollback) :
    lastMode (before ++ first :: between) = some .rollback := by
  induction between using reverseRecOn with
  | nil => rw [lastMode_concat_of_hasStarted started, rollback]
  | append_singleton between run ih =>
    have previous := ih fun other member => others other (mem_append_left _ member)
    have split : before ++ first :: (between ++ [run]) = (before ++ first :: between) ++ [run] := by
      simp
    rw [split]
    by_cases moves : run.hasStarted
    · rw [lastMode_concat_of_hasStarted moves]
      exact others run (by simp) moves
    · rw [lastMode_append_of_not_hasStarted]
      · exact previous
      · simpa using moves

theorem mem_earlier {last : RunRecord} (decomposed : tracked.runs = before ++ last :: after)
    (member : run ∈ before) : run ∈ tracked.earlier := by
  have earlierEq : tracked.earlier = before ++ (last :: after).dropLast := by
    rw [← dropLast_append_of_ne_nil (cons_ne_nil last after), ← decomposed]
    simp [runs]
  rw [earlierEq]
  exact mem_append_left _ member

theorem Tracked.Alternating.runFaithful (alternating : tracked.Alternating)
    (member : run ∈ tracked.runs) : run.Faithful := by
  rcases mem_append.mp member with member | member
  · exact alternating.earlierFaithful run member
  · exact mem_singleton.mp member ▸ alternating.faithful

theorem Tracked.Alternating.between (alternating : tracked.Alternating) {between : List RunRecord}
    {first second : RunRecord}
    (decomposed : tracked.runs = before ++ first :: between ++ second :: after)
    (firstLower : first.StartedLower) (secondLower : second.StartedLower) :
    ∃ run ∈ between, run.ReportedHigher := by
  have firstFaithful : first.Faithful := alternating.runFaithful (by simp [decomposed])
  have secondFaithful : second.Faithful := alternating.runFaithful (by simp [decomposed])
  have alone := alternating.ordered decomposed secondLower.hasStarted
    (secondLower.mode secondFaithful)
  by_contra none
  apply alone
  apply lastMode_eq_rollback firstLower.hasStarted (firstLower.mode firstFaithful)
  intro run member started
  have earlier : run ∈ tracked.earlier := mem_earlier decomposed (by simp [member])
  have decided := alternating.decided run earlier started
  obtain ⟨plan, planEq, -⟩ := decided
  cases mode : plan.mode with
  | rollback => simp [RunRecord.mode, planEq, mode]
  | forward =>
    have forward : run.mode = some .forward := by simp [RunRecord.mode, planEq, mode]
    have higher := (alternating.decided run earlier started).reportedHigher
      (alternating.earlierFaithful run earlier) forward
    exact absurd ⟨run, member, higher⟩ none

theorem lastChange_of_lastMode {runs : List RunRecord} (faithful : ∀ run ∈ runs, run.Faithful)
    (decided : ∀ run ∈ runs, run.hasStarted → run.Decided)
    (rollback : lastMode runs = some .rollback) :
    ∃ change, (runs.flatMap changes).getLast? = some change ∧
      isBelow change.2 change.1 := by
  induction runs using reverseRecOn with
  | nil => simp [lastMode] at rollback
  | append_singleton _ run ih =>
    have runFaithful := faithful run (by simp)
    by_cases started : run.hasStarted
    · rw [lastMode_concat_of_hasStarted started] at rollback
      have nonempty := (decided run (by simp) started).changes_ne_nil runFaithful
      refine ⟨run.changes.getLast nonempty, ?_, ?_⟩
      · simp [getLast?_append, getLast?_eq_getLast_of_ne_nil nonempty]
      · exact isBelow_of_mem_changes (getLast_mem nonempty) runFaithful rollback
    · have quiet : run.hasStarted = false := by simpa using started
      rw [lastMode_append_of_not_hasStarted (by simpa using quiet)] at rollback
      obtain ⟨change, last, below⟩ := ih (fun other member => faithful other (by simp [member]))
        (fun other member => decided other (by simp [member])) rollback
      exact ⟨change, by simpa [changes_eq_nil runFaithful quiet] using last, below⟩

/-- In runs that are all decisive, between two runs that each started a control plane update to
a lower minor there is one in which an update to a higher minor succeeded, and a rollback is
rejected as consecutive only when the last change made was a rollback. -/
theorem rollbacks_alternate (tracked : Tracked)
    (reached : Reachable Tracked.Initial Tracked.Step Decisive tracked) :
    (∀ before first between second after,
      tracked.runs = before ++ first :: between ++ second :: after →
      first.StartedLower → second.StartedLower → ∃ run ∈ between, run.ReportedHigher) ∧
    (tracked.resource.status.currentPhase = .planning →
      ∀ now, (rejectConsecutiveRollback now tracked.resource.spec
        tracked.resource.status).isSome = true →
      ∃ source version, (tracked.runs.flatMap changes).getLast? =
        some (source, version) ∧ isBelow version source = true) := by
  have alternating := alternating_of_reachable reached
  constructor
  · intro _ _ _ _ _ decomposed firstLower secondLower
    exact alternating.between decomposed firstLower secondLower
  · intro planning _ rejected
    have consecutive : isConsecutiveRollback tracked.resource.spec.upgradeMode
        tracked.resource.status.lastTransition = true := by
      by_contra alone
      simp [rejectConsecutiveRollback, alone] at rejected
    have rollback : lastMode tracked.earlier = some .rollback := by
      rw [← alternating.transition (by simp [planning])]
      simp only [isConsecutiveRollback, decide_eq_true_eq] at consecutive
      exact consecutive.2
    have unplanned :=
      ((consistent_of_tracked keptInFlight_onCourse reached).early (.inr planning)).1
    have unchanged : tracked.run.changes = [] := by
      simp [changes, source, unplanned]
    obtain ⟨⟨source, version⟩, last, below⟩ :=
      lastChange_of_lastMode alternating.earlierFaithful alternating.decided rollback
    refine ⟨source, version, ?_, below⟩
    simpa [runs, unchanged] using last

/-! ## Runs in which the guard fails -/

/-- Answers of a calm cluster at the given version. -/
def answersAt (version : String) : Answers :=
  { calmAnswers with
    planning := { calmAnswers.planning with clusterVersion := .ok (some version) } }

def versionSpec (upgradeMode : UpgradeMode) (targetVersion : String) : EksUpgradeSpec :=
  { stepSpec with upgradeMode, targetVersion }

def reconcilesThenEdit (version : String) (count : Nat) (spec : EksUpgradeSpec) : List Event :=
  List.replicate count (.reconcile (answersAt version)) ++ [.edit spec]

/-- A rollback from 1.33 to 1.32 that completes, before the next specification is seen. -/
def rolledBack (next : EksUpgradeSpec) : Tracked :=
  (reconcilesThenEdit "1.33" 5 next).foldl Tracked.act (newTracked (versionSpec .rollback "1.32"))

/-- A forward run to the version that the cluster has. -/
def stayed : Tracked :=
  (reconcilesThenEdit "1.32" 3 (versionSpec .rollback "1.31")).foldl Tracked.act
    (rolledBack (versionSpec .forward "1.32"))

/-- A second rollback, after a run that changed nothing. -/
def rolledBackTwice : Tracked :=
  (List.replicate 5 (Event.reconcile (answersAt "1.32"))).foldl Tracked.act stayed

/-- A rollback after a dry run of it. -/
def rehearsedRollback : Tracked :=
  (reconcilesThenEdit "1.33" 3 (versionSpec .rollback "1.32") ++
      List.replicate 2 (Event.reconcile (answersAt "1.33"))).foldl Tracked.act
    (newTracked { versionSpec .rollback "1.32" with dryRun := true })

theorem foldl_reached {events : List Event}
    (reached : Reachable Tracked.Initial Tracked.Step (fun _ _ => True) tracked) :
    Reachable Tracked.Initial Tracked.Step (fun _ _ => True) (events.foldl act tracked) := by
  induction events generalizing tracked with
  | nil => exact reached
  | cons _ _ ih => exact ih (reached.next trivial rfl)

theorem newTracked_reached {allowed : Tracked → Event → Prop} (spec : EksUpgradeSpec) :
    Reachable Tracked.Initial Tracked.Step allowed (newTracked spec) :=
  .start ⟨⟨rfl, rfl⟩, rfl, rfl⟩

/-- A run that changes nothing makes way for a second rollback, and a dry run of a rollback has
the rollback itself rejected. -/
theorem rollbacks_follow :
    (∃ tracked first between second,
      Reachable Tracked.Initial Tracked.Step (fun _ _ => True) tracked ∧
      tracked.runs = [] ++ first :: between ++ second :: [] ∧
      first.StartedLower ∧ second.StartedLower ∧ ∀ run ∈ between, ¬ run.ReportedHigher) ∧
    (∃ tracked, Reachable Tracked.Initial Tracked.Step (fun _ _ => True) tracked ∧
      tracked.resource.status.currentPhase = .planning ∧
      (rejectConsecutiveRollback 0 tracked.resource.spec tracked.resource.status).isSome = true ∧
      tracked.runs.flatMap changes = []) := by
  constructor
  · refine ⟨rolledBackTwice, (rolledBack (versionSpec .forward "1.32")).run, [stayed.run],
      rolledBackTwice.run, ?_, by decide +kernel, ?_, ?_, ?_⟩
    · exact foldl_reached (foldl_reached (foldl_reached (newTracked_reached _)))
    · exact ⟨"1.33", "1.32", some "update", by decide +kernel, by decide +kernel,
        by decide +kernel⟩
    · exact ⟨"1.32", "1.31", some "update", by decide +kernel, by decide +kernel,
        by decide +kernel⟩
    · intro _ member
      obtain rfl := mem_singleton.mp member
      rintro ⟨_, _, _, -, succeeded, -⟩
      cases succeeded
  · exact ⟨rehearsedRollback, foldl_reached (newTracked_reached _), by decide +kernel,
      by decide +kernel, by decide +kernel⟩

/-- A rollback that completed, and a second one in planning. -/
def rollbackAgain : Tracked :=
  (List.replicate 2 (Event.reconcile (answersAt "1.32"))).foldl Tracked.act
    (rolledBack (versionSpec .rollback "1.31"))

theorem rollbacks_alternate_again :
    ∃ source version, (rollbackAgain.runs.flatMap changes).getLast? =
      some (source, version) ∧ isBelow version source = true := by
  have reached : Reachable Tracked.Initial Tracked.Step Decisive rollbackAgain := by
    apply Reachable.of_follow (show (newTracked (versionSpec .rollback "1.32")).Initial from
      ⟨⟨rfl, rfl⟩, rfl, rfl⟩) (fun _ _ _ acted => (Option.some.inj acted).symm)
      (reconcilesThenEdit "1.33" 5 (versionSpec .rollback "1.31") ++
        replicate 2 (.reconcile (answersAt "1.32")))
    decide +kernel
  exact (rollbacks_alternate rollbackAgain reached).2 (by decide +kernel) 0 (by decide +kernel)

end Addons.EksUpgrade
