import Addons.KarpenterReplacement

/-!
# The reconcile loop

One reconcile reads the resource, runs the handler of its phase and stores the status it
returns.
-/

namespace Addons.EksUpgrade

/-- The values that a merge patch replaces as a whole. -/
inductive Leaf where
  | text (value : String)
  | number (value : Nat)
  | time (value : Instant)
  | phase (value : UpgradePhase)
  | mode (value : UpgradeMode)
  | texts (value : List String)
  | checks (value : List PreflightCheckStatus)
  | addons (value : List AddonStatus)
  | nodegroups (value : List NodegroupStatus)
  | pools (value : List KarpenterPoolStatus)
  | conditions (value : List UpgradeCondition)
deriving DecidableEq

namespace Leaf

def readText : Leaf → Option String
  | text value => some value
  | _ => none

def readNumber : Leaf → Option Nat
  | number value => some value
  | _ => none

def readTime : Leaf → Option Instant
  | time value => some value
  | _ => none

def readPhase : Leaf → Option UpgradePhase
  | phase value => some value
  | _ => none

def readMode : Leaf → Option UpgradeMode
  | mode value => some value
  | _ => none

def readTexts : Leaf → Option (List String)
  | texts value => some value
  | _ => none

def readChecks : Leaf → Option (List PreflightCheckStatus)
  | checks value => some value
  | _ => none

def readAddons : Leaf → Option (List AddonStatus)
  | addons value => some value
  | _ => none

def readNodegroups : Leaf → Option (List NodegroupStatus)
  | nodegroups value => some value
  | _ => none

def readPools : Leaf → Option (List KarpenterPoolStatus)
  | pools value => some value
  | _ => none

def readConditions : Leaf → Option (List UpgradeCondition)
  | conditions value => some value
  | _ => none

def textCodec : LeafCodec Leaf String := ⟨text, readText, fun _ => rfl⟩
def numberCodec : LeafCodec Leaf Nat := ⟨number, readNumber, fun _ => rfl⟩
def timeCodec : LeafCodec Leaf Instant := ⟨time, readTime, fun _ => rfl⟩
def phaseCodec : LeafCodec Leaf UpgradePhase := ⟨phase, readPhase, fun _ => rfl⟩
def modeCodec : LeafCodec Leaf UpgradeMode := ⟨mode, readMode, fun _ => rfl⟩
def textsCodec : LeafCodec Leaf (List String) := ⟨texts, readTexts, fun _ => rfl⟩
def checksCodec : LeafCodec Leaf (List PreflightCheckStatus) := ⟨checks, readChecks, fun _ => rfl⟩
def addonsCodec : LeafCodec Leaf (List AddonStatus) := ⟨addons, readAddons, fun _ => rfl⟩
def nodegroupsCodec : LeafCodec Leaf (List NodegroupStatus) :=
  ⟨nodegroups, readNodegroups, fun _ => rfl⟩
def poolsCodec : LeafCodec Leaf (List KarpenterPoolStatus) := ⟨pools, readPools, fun _ => rfl⟩
def conditionsCodec : LeafCodec Leaf (List UpgradeCondition) :=
  ⟨conditions, readConditions, fun _ => rfl⟩

end Leaf

open Document Option

def skippedText : Field Leaf (Option String) := .skipped Leaf.textCodec
def skippedTime : Field Leaf (Option Instant) := .skipped Leaf.timeCodec
def nullableText : Field Leaf (Option String) := .nullable Leaf.textCodec
def nullableTime : Field Leaf (Option Instant) := .nullable Leaf.timeCodec
def requiredText : Field Leaf String := .plain Leaf.textCodec none
def requiredTime : Field Leaf Instant := .plain Leaf.timeCodec none
def defaultedNumber : Field Leaf Nat := .plain Leaf.numberCodec (some 0)
def requiredMode : Field Leaf UpgradeMode := .plain Leaf.modeCodec none
def skippedPhase : Field Leaf (Option UpgradePhase) := .skipped Leaf.phaseCodec
def skippedTexts : Field Leaf (List String) := .skippedEmpty Leaf.textsCodec []
def skippedChecks : Field Leaf (List PreflightCheckStatus) := .skippedEmpty Leaf.checksCodec []
def skippedAddons : Field Leaf (List AddonStatus) := .skippedEmpty Leaf.addonsCodec []
def skippedNodegroups : Field Leaf (List NodegroupStatus) := .skippedEmpty Leaf.nodegroupsCodec []
def skippedPools : Field Leaf (List KarpenterPoolStatus) := .skippedEmpty Leaf.poolsCodec []
def skippedConditions : Field Leaf (List UpgradeCondition) := .skippedEmpty Leaf.conditionsCodec []
def skippedEmptyText : Field Leaf String := .skippedEmpty Leaf.textCodec ""

def planningSchema : Schema Leaf PlanningStatus :=
  Layout.schema
    (.member "sourceVersion" skippedText <| .last "upgradePath" skippedTexts) (by decide)
    ⟨fun status => (status.sourceVersion, status.upgradePath),
      fun (a, b) => ⟨a, b⟩, fun _ => rfl, fun _ => rfl⟩

def preflightSchema : Schema Leaf PreflightStatus :=
  Layout.schema
    (.last "checks" skippedChecks) (by decide)
    ⟨fun status => status.checks, fun a => ⟨a⟩, fun _ => rfl, fun _ => rfl⟩

def controlPlaneSchema : Schema Leaf ControlPlaneStatus :=
  Layout.schema
    (.member "currentStep" defaultedNumber <| .member "totalSteps" defaultedNumber <|
      .member "target" nullableText <| .member "updateId" nullableText <|
      .member "startedAt" nullableTime <| .last "completedAt" skippedTime) (by decide)
    ⟨fun status => (status.currentStep, status.totalSteps, status.target, status.updateId,
      status.startedAt, status.completedAt),
      fun (a, b, c, d, e, f) => ⟨a, b, c, d, e, f⟩, fun _ => rfl, fun _ => rfl⟩

def karpenterNodePoolsSchema : Schema Leaf KarpenterNodePoolsStatus :=
  Layout.schema
    (.member "strategy" skippedEmptyText <| .member "activePool" nullableText <|
      .member "totalNodes" defaultedNumber <| .member "replacedNodes" defaultedNumber <|
      .last "pools" skippedPools) (by decide)
    ⟨fun status => (status.strategy, status.activePool, status.totalNodes, status.replacedNodes,
      status.pools), fun (a, b, c, d, e) => ⟨a, b, c, d, e⟩, fun _ => rfl, fun _ => rfl⟩

def phasesSchema : Schema Leaf PhaseStatuses :=
  Layout.schema
    (.member "planning" (.skippedRecord planningSchema) <|
      .member "preflight" (.skippedRecord preflightSchema) <|
      .member "controlPlane" (.skippedRecord controlPlaneSchema) <|
      .member "addons" skippedAddons <| .member "nodegroups" skippedNodegroups <|
      .last "karpenterNodePools" (.skippedRecord karpenterNodePoolsSchema)) (by decide)
    ⟨fun status => (status.planning, status.preflight, status.controlPlane, status.addons,
      status.nodegroups, status.karpenterNodePools),
      fun (a, b, c, d, e, f) => ⟨a, b, c, d, e, f⟩, fun _ => rfl, fun _ => rfl⟩

def versionLifecycleSchema : Schema Leaf VersionLifecycleInfo :=
  Layout.schema
    (.member "version" requiredText <| .member "versionStatus" requiredText <|
      .member "endOfStandardSupportDate" skippedTime <|
      .last "endOfExtendedSupportDate" skippedTime) (by decide)
    ⟨fun status => (status.version, status.versionStatus, status.endOfStandardSupportDate,
      status.endOfExtendedSupportDate),
      fun (a, b, c, d) => ⟨a, b, c, d⟩, fun _ => rfl, fun _ => rfl⟩

def lifecycleSchema : Schema Leaf LifecycleStatus :=
  Layout.schema
    (.member "lastCheckedTime" requiredTime <|
      .member "currentVersion" (.skippedRecord versionLifecycleSchema) <|
      .member "targetVersion" (.skippedRecord versionLifecycleSchema) <|
      .last "error" skippedText) (by decide)
    ⟨fun status => (status.lastCheckedTime, status.currentVersion, status.targetVersion,
      status.error), fun (a, b, c, d) => ⟨a, b, c, d⟩, fun _ => rfl, fun _ => rfl⟩

def identitySchema : Schema Leaf AwsIdentity :=
  Layout.schema
    (.member "accountId" requiredText <| .last "arn" requiredText) (by decide)
    ⟨fun status => (status.accountId, status.arn),
      fun (a, b) => ⟨a, b⟩, fun _ => rfl, fun _ => rfl⟩

def transitionSchema : Schema Leaf TransitionRecord :=
  Layout.schema
    (.member "mode" requiredMode <| .member "toVersion" requiredText <|
      .last "completedAt" requiredTime) (by decide)
    ⟨fun status => (status.mode, status.toVersion, status.completedAt),
      fun (a, b, c) => ⟨a, b, c⟩, fun _ => rfl, fun _ => rfl⟩

theorem phasesSchema_merge_empty (new : PhaseStatuses) : phasesSchema.merge {} new = new := by
  rcases new with ⟨planning, preflight, controlPlane, addons, nodegroups, karpenterNodePools⟩
  cases planning <;> cases preflight <;> cases controlPlane <;> cases karpenterNodePools <;>
    simp [phasesSchema, Layout.schema, Layout.merge, Field.skippedRecord, Field.mergeOption,
      skippedAddons, skippedNodegroups, Field.skippedEmpty, eq_comm]

def phasesField : Field Leaf PhaseStatuses := .plainRecord phasesSchema {} phasesSchema_merge_empty

def statusSchema : Schema Leaf EksUpgradeStatus :=
  Layout.schema
    (.member "phase" skippedPhase <| .member "currentVersion" skippedText <|
      .member "progress" skippedText <| .member "phases" phasesField <|
      .member "conditions" skippedConditions <| .member "startedAt" skippedTime <|
      .member "observedGeneration" defaultedNumber <| .member "message" skippedText <|
      .member "completedAt" skippedTime <| .member "identity" (.skippedRecord identitySchema) <|
      .member "lifecycle" (.skippedRecord lifecycleSchema) <|
      .last "lastTransition" (.skippedRecord transitionSchema)) (by decide)
    ⟨fun status => (status.phase, status.currentVersion, status.progress, status.phases,
      status.conditions, status.startedAt, status.observedGeneration, status.message,
      status.completedAt, status.identity, status.lifecycle, status.lastTransition),
      fun (a, b, c, d, e, f, g, h, i, j, k, l) => ⟨a, b, c, d, e, f, g, h, i, j, k, l⟩,
      fun _ => rfl, fun _ => rfl⟩

open Document Option Leaf

/-! ## Storing a status -/

def patchStatus (stored new : EksUpgradeStatus) : EksUpgradeStatus := statusSchema.merge stored new

variable {stored : EksUpgradeStatus}

/-- The conditions that a restart keeps. -/
def authenticationConditions (status : EksUpgradeStatus) : List UpgradeCondition :=
  status.conditions.filter fun condition => condition.type == "AWSAuthenticated"

/-- What the patch of a restart says about the phase details. -/
def resetPhasesPatch : List (String × Document Leaf) :=
  [("planning", .null),
    ("preflight", .null),
    ("controlPlane", .null),
    ("addons", .leaf (.addons [])),
    ("nodegroups", .leaf (.nodegroups []))]

def resetStatusPatch (current : EksUpgradeStatus) (generation : Nat) : Document Leaf :=
  .object
    [("phase", .leaf (.phase .pending)),
      ("currentVersion", .null),
      ("message", .null),
      ("startedAt", .null),
      ("completedAt", .null),
      ("lifecycle", .null),
      ("observedGeneration", .leaf (.number generation)),
      ("conditions", .leaf (.conditions (authenticationConditions current))),
      ("phases", .object resetPhasesPatch)]

def resetStatus (stored : EksUpgradeStatus) (generation : Nat) : EksUpgradeStatus :=
  { stored with
    phase := some .pending
    currentVersion := none
    message := none
    startedAt := none
    completedAt := none
    lifecycle := none
    observedGeneration := generation
    conditions := authenticationConditions stored
    phases := { karpenterNodePools := stored.phases.karpenterNodePools } }

theorem read_resetPhasesPatch {members : List (String × Document Leaf)} {phases : PhaseStatuses}
    (holds : phasesSchema.readDocument (.object members) = some phases) :
    phasesSchema.readDocument (.object (mergeMembers members resetPhasesPatch)) =
      some { karpenterNodePools := phases.karpenterNodePools } := by
  have distinct : (resetPhasesPatch.map Prod.fst).Nodup := by decide
  simp only [Schema.readDocument, phasesSchema, Layout.read_schema_iff, Layout.read_member_iff,
    Layout.read_last, Document.members] at holds
  obtain ⟨-, -, -, -, -, karpenter⟩ := holds
  simp only [Schema.readDocument, Document.members, valueOf_mergeMembers distinct]
  simp [phasesSchema, resetPhasesPatch, patchMember, mergePatch, karpenter,
    skippedAddons, skippedNodegroups, addonsCodec, nodegroupsCodec, readAddons,
    readNodegroups]

theorem phasesField_read_reset {stored : Option (Document Leaf)} {phases : PhaseStatuses}
    (holds : phasesField.read stored = some phases) :
    phasesField.read (patchMember stored (some (.object resetPhasesPatch))) =
      some { karpenterNodePools := phases.karpenterNodePools } := by
  rcases stored with _ | _ | _ | members
  · have empty : phases = {} := by simpa [phasesField, Field.plainRecord] using holds.symm
    subst empty
    exact @read_resetPhasesPatch [] {} rfl
  · simp [phasesField, Field.plainRecord] at holds
  · simp [phasesField, Field.plainRecord] at holds
  · exact read_resetPhasesPatch holds

theorem read_unnamed {member : String → Option (Document Leaf)}
    (holds : statusSchema.read member = some stored) :
    skippedText.read (member "progress") = some stored.progress ∧
      phasesField.read (member "phases") = some stored.phases ∧
      (Field.skippedRecord identitySchema).read (member "identity") = some stored.identity ∧
      (Field.skippedRecord transitionSchema).read (member "lastTransition") =
        some stored.lastTransition := by
  simp only [statusSchema, Layout.read_schema_iff, Layout.read_member_iff, Layout.read_last]
    at holds
  obtain ⟨-, -, progress, phases, -, -, -, -, -, identity, -, lastTransition⟩ := holds
  exact ⟨progress, phases, identity, lastTransition⟩

theorem readDocument_resetStatus {document : Document Leaf} (generation : Nat)
    (holds : statusSchema.readDocument document = some stored) :
    statusSchema.readDocument (mergePatch document (resetStatusPatch stored generation)) =
      some (resetStatus stored generation) := by
  have distinct : ((resetStatusPatch stored generation).members.map Prod.fst).Nodup := by
    simp [resetStatusPatch]
  have patched : ∀ key, valueOf key
      (mergePatch document (resetStatusPatch stored generation)).members =
        patchMember (valueOf key document.members)
          (valueOf key (resetStatusPatch stored generation).members) :=
    valueOf_mergeMembers distinct document.members
  obtain ⟨progress, phases, identity, lastTransition⟩ := read_unnamed holds
  have phasesRead := phasesField_read_reset phases
  simp only [skippedText] at progress
  simp only [Schema.readDocument, patched]
  simp only [patchMember, mergePatch] at phasesRead
  simp [statusSchema, resetStatusPatch, patchMember, mergePatch, progress, phasesRead,
    identity, lastTransition, resetStatus, skippedPhase, skippedText, skippedTime,
    skippedConditions, defaultedNumber, phaseCodec, readPhase, conditionsCodec,
    readConditions, numberCodec, readNumber]

structure Answers where
  now : Instant
  client : Except String Unit
  identity : Except String AwsIdentity
  planning : PlanningAnswers
  preflight : PreflightAnswers
  controlPlane : ControlPlaneAnswers
  addons : ComponentAnswers
  nodegroups : ComponentAnswers
  karpenter : KarpenterAnswers
  /-- Whether the patch with the identity reaches the server. -/
  identityStored : Bool
  /-- Whether the last patch of the reconcile reaches the server. -/
  stored : Bool

/-- When the resource is looked at again. -/
inductive Action where
  | awaitChange
  | requeue (milliseconds : Nat)
deriving DecidableEq

/-- How far a reconcile went. -/
inductive Exit where
  | idle
  | restarted
  | unauthenticated
  | dispatched (phase : UpgradePhase)
deriving DecidableEq

/-- What a reconcile leaves: the stored status, its calls and the next action; `none` when it
panicked. -/
structure Reconciled where
  status : EksUpgradeStatus
  exit : Exit
  action : Option Action
  calls : List Call := []

/-- The phase of a status; a new resource is pending. -/
def EksUpgradeStatus.currentPhase (status : EksUpgradeStatus) : UpgradePhase :=
  status.phase.getD .pending

def UpgradePhase.isTerminal : UpgradePhase → Bool
  | completed => true
  | failed => true
  | _ => false

/-- The phases that are served although the resource has not changed. -/
def UpgradePhase.isPolling : UpgradePhase → Bool
  | planning => true
  | preflightChecking => true
  | upgradingControlPlane => true
  | upgradingAddons => true
  | upgradingNodeGroups => true
  | rollingBackNodeGroups => true
  | rollingBackAddons => true
  | rollingBackControlPlane => true
  | _ => false

def hasActiveUpdate (status : EksUpgradeStatus) : Bool :=
  (status.phases.controlPlane.bind (·.updateId)).isSome ||
    status.phases.nodegroups.any (·.updateId.isSome)

/-- Runs the handler of a phase. The rollback phases share the handlers of the forward
ones. -/
def dispatch (answers : Answers) (spec : EksUpgradeSpec) (status : EksUpgradeStatus) :
    UpgradePhase → Attempt Step
  | .pending =>
    { result := .ok
        (setPhase answers.now { status with startedAt := some answers.now } .planning, some 0) }
  | .planning =>
    .ofResult ((executePlanning answers.now spec status answers.planning).map fun next =>
      (next, some 0))
  | .preflightChecking =>
    .ofResult ((executePreflight answers.now spec status answers.preflight).map fun next =>
      (next, some 0))
  | .upgradingControlPlane | .rollingBackControlPlane =>
    executeControlPlane answers.now spec status answers.controlPlane
  | .upgradingAddons | .rollingBackAddons =>
    .ofResult (executeAddons answers.now spec status answers.addons)
  | .upgradingNodeGroups | .rollingBackNodeGroups =>
    .ofResult (executeNodegroups answers.now spec status answers.nodegroups)
  | .upgradingKarpenterNodePools => executeKarpenter answers.now spec status answers.karpenter
  | .completed | .failed => { result := .ok (status, none) }

/-- The status a reconcile stores when the handler returned `next`. -/
def stampStatus (now : Instant) (spec : EksUpgradeSpec) (generation : Nat)
    (next : EksUpgradeStatus) : EksUpgradeStatus :=
  { next with
    observedGeneration := generation
    progress := computeProgress next
    lastTransition :=
      if next.phase = some .completed then
        some { mode := spec.upgradeMode, toVersion := spec.targetVersion, completedAt := now }
      else next.lastTransition }

def failStatus (now : Instant) (generation : Nat) (current : EksUpgradeStatus)
    (problem : HandlerError) : EksUpgradeStatus :=
  let observed := { current with observedGeneration := generation }
  if problem.isTransient then
    setCondition now observed "Ready" "False" "TransientError" (some problem.message)
  else setFailed now observed problem.message

/-- The status stored when the AWS clients or the identity are refused. -/
def refuseStatus (now : Instant) (generation : Nat) (current : EksUpgradeStatus)
    (message reason detail : String) : EksUpgradeStatus :=
  { setCondition now (setFailed now current message) "AWSAuthenticated" "False" reason
      (some detail) with
    observedGeneration := generation }

def identifyStatus (now : Instant) (generation : Nat) (current : EksUpgradeStatus)
    (identity : AwsIdentity) : EksUpgradeStatus :=
  let account := identity.accountId
  { setCondition now current "AWSAuthenticated" "True" "IdentityVerified"
      (some s!"account={account}") with
    identity := some identity, observedGeneration := generation }

/-- What the server holds after a patch that may be lost. -/
def storeStatus (stored : Bool) (server new : EksUpgradeStatus) : EksUpgradeStatus :=
  if stored then patchStatus server new else server

/-- The action after a handler returned. -/
def requeueAction : Option Nat → Action
  | some 0 => .requeue 100
  | some seconds => .requeue (seconds * 1000)
  | none => .awaitChange

/-- Runs the handler and stores what it returned. -/
def serve (answers : Answers) (resource : Resource) (server : EksUpgradeStatus) : Reconciled :=
  let phase := resource.status.currentPhase
  let attempt := dispatch answers resource.spec resource.status phase
  match attempt.result with
  | .ok (next, requeue) =>
    { status := storeStatus answers.stored server
        (stampStatus answers.now resource.spec resource.generation next)
      exit := .dispatched phase
      action := some (if answers.stored then requeueAction requeue else .requeue 5000)
      calls := attempt.calls }
  | .error (.error problem) =>
    { status := storeStatus answers.stored server
        (failStatus answers.now resource.generation resource.status problem)
      exit := .dispatched phase
      action := some (if problem.isTransient then .requeue 10000 else .awaitChange)
      calls := attempt.calls }
  | .error .panic =>
    { status := server, exit := .dispatched phase, action := none, calls := attempt.calls }

/-- Checks the AWS clients and the identity before the handler runs. -/
def authenticate (answers : Answers) (resource : Resource) : Reconciled :=
  let current := resource.status
  match answers.client with
  | .error problem =>
    { status := storeStatus answers.stored current
        (refuseStatus answers.now resource.generation current s!"AWS client error: {problem}"
          "AuthenticationFailed" problem)
      exit := .unauthenticated
      action := some (.requeue 60000) }
  | .ok () =>
    if current.identity.isSome then serve answers resource current
    else
      match answers.identity with
      | .ok identity =>
        serve answers resource (storeStatus answers.identityStored current
          (identifyStatus answers.now resource.generation current identity))
      | .error problem =>
        { status := storeStatus answers.stored current
            (refuseStatus answers.now resource.generation current
              s!"AWS authentication failed: {problem}" "IdentityVerificationFailed" problem)
          exit := .unauthenticated
          action := some (.requeue 60000) }

def reconcile (answers : Answers) (resource : Resource) : Reconciled :=
  let current := resource.status
  let phase := current.currentPhase
  if phase.isTerminal then
    if current.observedGeneration < resource.generation then
      if answers.stored then
        { status := resetStatus current resource.generation, exit := .restarted
          action := some (.requeue 100) }
      else { status := current, exit := .restarted, action := some (.requeue 5000) }
    else { status := current, exit := .idle, action := some .awaitChange }
  else if resource.generation ≤ current.observedGeneration ∧ phase ≠ .pending ∧
      hasActiveUpdate current = false ∧ phase.isPolling = false then
    { status := current, exit := .idle, action := some .awaitChange }
  else authenticate answers resource

/-- One step of the resource: its specification is edited, or it is reconciled. -/
inductive Event where
  | edit (spec : EksUpgradeSpec)
  | reconcile (answers : Answers)

/-- The resource after a step. An edit of the specification makes a new generation. -/
def Resource.act (resource : Resource) : Event → Resource
  | .edit spec => { resource with spec, generation := resource.generation + 1 }
  | .reconcile answers => { resource with status := (reconcile answers resource).status }

/-- A resource that has just been created. -/
def Resource.Initial (resource : Resource) : Prop :=
  resource.generation = 1 ∧ resource.status = {}

end Addons.EksUpgrade
