import Addons.MergePatch
import Addons.TextParsing
import Addons.Transaction

/-!
# Planning and preflight checks

The two phases before any component is touched.
-/

namespace Addons.EksUpgrade

/-- Nanoseconds since the epoch. -/
abbrev Instant := Int

/-- Direction of the version change. -/
inductive UpgradeMode where
  | forward
  | rollback
deriving DecidableEq

inductive UpgradePhase where
  | pending
  | planning
  | preflightChecking
  | upgradingControlPlane
  | upgradingAddons
  | upgradingNodeGroups
  | upgradingKarpenterNodePools
  | rollingBackNodeGroups
  | rollingBackAddons
  | rollingBackControlPlane
  | completed
  | failed
deriving DecidableEq

inductive ComponentStatus where
  | pending
  | inProgress
  | completed
  | failed
  | skipped
deriving DecidableEq

structure TimeoutConfig where
  controlPlaneMinutes : Nat := 30
  nodegroupMinutes : Nat := 60
deriving DecidableEq

inductive KarpenterStrategy where
  | replace
deriving DecidableEq

def KarpenterStrategy.text : KarpenterStrategy → String
  | replace => "Replace"

structure KarpenterNodePoolsConfig where
  enabled : Bool := false
  nodePools : List String := []
  strategy : KarpenterStrategy := .replace
  maxUnavailable : String := "1"
  nodeDrainTimeoutMinutes : Nat := 15
  controllerStableTimeoutMinutes : Nat := 10
deriving DecidableEq

structure EksUpgradeSpec where
  clusterName : String
  targetVersion : String
  region : String
  upgradeMode : UpgradeMode
  assumeRoleArn : Option String := none
  addonVersions : Option (List (String × String)) := none
  dryRun : Bool := false
  timeouts : Option TimeoutConfig := none
  karpenterNodePools : Option KarpenterNodePoolsConfig := none
deriving DecidableEq

structure PlanningStatus where
  sourceVersion : Option String := none
  upgradePath : List String := []
deriving DecidableEq

structure PreflightCheckStatus where
  name : String
  status : String
  message : String
  resources : List String := []
deriving DecidableEq

structure PreflightStatus where
  checks : List PreflightCheckStatus := []
deriving DecidableEq

structure ControlPlaneStatus where
  /-- Current step in the upgrade path, counted from one. -/
  currentStep : Nat := 0
  totalSteps : Nat := 0
  target : Option String := none
  updateId : Option String := none
  startedAt : Option Instant := none
  completedAt : Option Instant := none
deriving DecidableEq

structure AddonStatus where
  name : String
  currentVersion : String
  targetVersion : String
  status : ComponentStatus
  startedAt : Option Instant := none
  completedAt : Option Instant := none
deriving DecidableEq

structure NodegroupStatus where
  name : String
  currentVersion : String
  targetVersion : String
  status : ComponentStatus
  updateId : Option String := none
  startedAt : Option Instant := none
  completedAt : Option Instant := none
deriving DecidableEq

inductive EntryState where
  | draining
  | waitingControllerStable
deriving DecidableEq

/-- One NodeClaim being replaced within a NodePool. -/
structure CurrentBatchEntry where
  nodeClaim : String
  nodeName : Option String := none
  providerId : Option String := none
  state : EntryState
  startedAt : Option Instant := none
  controllers : List String := []
deriving DecidableEq

structure NodeClaimReplacement where
  oldNodeClaim : String
  newNodeClaim : Option String := none
  nodeName : Option String := none
deriving DecidableEq

structure KarpenterPoolStatus where
  name : String
  status : ComponentStatus
  totalNodes : Nat := 0
  replacedNodes : Nat := 0
  completedNodeClaims : List String := []
  replacements : List NodeClaimReplacement := []
  currentBatch : List CurrentBatchEntry := []
deriving DecidableEq

structure KarpenterNodePoolsStatus where
  strategy : String := ""
  activePool : Option String := none
  totalNodes : Nat := 0
  replacedNodes : Nat := 0
  pools : List KarpenterPoolStatus := []
deriving DecidableEq

structure PhaseStatuses where
  planning : Option PlanningStatus := none
  preflight : Option PreflightStatus := none
  controlPlane : Option ControlPlaneStatus := none
  addons : List AddonStatus := []
  nodegroups : List NodegroupStatus := []
  karpenterNodePools : Option KarpenterNodePoolsStatus := none
deriving DecidableEq

structure VersionLifecycleInfo where
  version : String
  versionStatus : String
  endOfStandardSupportDate : Option Instant := none
  endOfExtendedSupportDate : Option Instant := none
deriving DecidableEq

structure LifecycleStatus where
  lastCheckedTime : Instant
  currentVersion : Option VersionLifecycleInfo := none
  targetVersion : Option VersionLifecycleInfo := none
  error : Option String := none
deriving DecidableEq

structure UpgradeCondition where
  type : String
  status : String
  reason : String
  message : Option String := none
  lastTransitionTime : Instant
deriving DecidableEq

structure AwsIdentity where
  accountId : String
  arn : String
deriving DecidableEq

/-- The last upgrade or rollback that reached `Completed`. -/
structure TransitionRecord where
  mode : UpgradeMode
  toVersion : String
  completedAt : Instant
deriving DecidableEq

structure EksUpgradeStatus where
  phase : Option UpgradePhase := none
  currentVersion : Option String := none
  progress : Option String := none
  phases : PhaseStatuses := {}
  conditions : List UpgradeCondition := []
  startedAt : Option Instant := none
  observedGeneration : Nat := 0
  message : Option String := none
  completedAt : Option Instant := none
  identity : Option AwsIdentity := none
  lifecycle : Option LifecycleStatus := none
  lastTransition : Option TransitionRecord := none
deriving DecidableEq

/-- The resource as the server holds it. -/
structure Resource where
  spec : EksUpgradeSpec
  generation : Nat
  status : EksUpgradeStatus := {}
deriving DecidableEq

/-! ## Status helpers and phase routing -/

/-- Whole seconds of a signed duration, rounded toward zero. -/
def numSeconds (duration : Int) : Int := duration.tdiv 1000000000

/-- Whole minutes of a signed duration, rounded toward zero. -/
def numMinutes (duration : Int) : Int := (numSeconds duration).tdiv 60

/-- An unsigned 64-bit number read as a signed one. -/
def asI64 (number : Nat) : Int := (Int64.ofNat number).toInt

def setCondition (now : Instant) (status : EksUpgradeStatus)
    (conditionType conditionStatus reason : String) (message : Option String) :
    EksUpgradeStatus :=
  { status with
    conditions := status.conditions.filter (fun condition => condition.type != conditionType) ++
      [{ type := conditionType, status := conditionStatus, reason, message,
         lastTransitionTime := now }] }

def setPhase (now : Instant) (status : EksUpgradeStatus) (phase : UpgradePhase) :
    EksUpgradeStatus :=
  { status with
    completedAt := if phase = .completed then some now else status.completedAt
    phase := some phase }

def setFailed (now : Instant) (status : EksUpgradeStatus) (message : String) :
    EksUpgradeStatus :=
  setCondition now
    { status with phase := some .failed, completedAt := some now, message := some message }
    "Ready" "False" "UpgradeFailed" (some message)

/-- Whether a component needs no more work. -/
def ComponentStatus.isDone : ComponentStatus → Bool
  | completed => true
  | skipped => true
  | _ => false

def plannedUnits (phases : PhaseStatuses) : Nat :=
  (phases.controlPlane.map (·.totalSteps)).getD 0 + phases.addons.length +
    phases.nodegroups.length + (phases.karpenterNodePools.map (·.pools.length)).getD 0

def ControlPlaneStatus.stepsDone (controlPlane : ControlPlaneStatus) : Nat :=
  if controlPlane.completedAt.isSome then controlPlane.totalSteps
  else controlPlane.currentStep - 1

def doneUnits (phases : PhaseStatuses) : Nat :=
  (phases.controlPlane.map (·.stepsDone)).getD 0 +
    phases.addons.countP (·.status.isDone) +
    phases.nodegroups.countP (·.status.isDone) +
    (phases.karpenterNodePools.map (·.pools.countP (·.status.isDone))).getD 0

/-- Progress as done and planned component units; `none` when nothing is planned. -/
def computeProgress (status : EksUpgradeStatus) : Option String :=
  let total := plannedUnits status.phases
  let done := doneUnits status.phases
  if total = 0 then none
  else if status.phase = some .completed then some s!"{total}/{total}"
  else some s!"{done}/{total}"

/-- Whether this would be a rollback right after a completed rollback. -/
def isConsecutiveRollback (mode : UpgradeMode) (last : Option TransitionRecord) : Bool :=
  mode = .rollback ∧ last.map (·.mode) = some .rollback

def hasCpSteps (status : EksUpgradeStatus) : Bool :=
  (status.phases.planning.map (fun planning => !planning.upgradePath.isEmpty)).getD false

def hasAddons (status : EksUpgradeStatus) : Bool := !status.phases.addons.isEmpty

def hasNodegroups (status : EksUpgradeStatus) : Bool := !status.phases.nodegroups.isEmpty

def hasKarpenter (status : EksUpgradeStatus) : Bool :=
  (status.phases.karpenterNodePools.map (fun karpenter => !karpenter.pools.isEmpty)).getD false

/-- Next phase after the node groups. -/
def afterNodegroups (status : EksUpgradeStatus) : UpgradeMode → UpgradePhase
  | .forward => if hasKarpenter status then .upgradingKarpenterNodePools else .completed
  | .rollback =>
    if hasAddons status then .rollingBackAddons
    else if hasCpSteps status then .rollingBackControlPlane
    else .completed

/-- Next phase after the add-ons. -/
def afterAddons (status : EksUpgradeStatus) : UpgradeMode → UpgradePhase
  | .forward =>
    if hasNodegroups status then .upgradingNodeGroups
    else if hasKarpenter status then .upgradingKarpenterNodePools
    else .completed
  | .rollback => if hasCpSteps status then .rollingBackControlPlane else .completed

/-- Next phase after the control plane, which runs last in a rollback. -/
def afterControlPlane (status : EksUpgradeStatus) : UpgradeMode → UpgradePhase
  | .forward =>
    if hasAddons status then .upgradingAddons
    else if hasNodegroups status then .upgradingNodeGroups
    else if hasKarpenter status then .upgradingKarpenterNodePools
    else .completed
  | .rollback => .completed

/-- Next phase after the preflight checks pass. -/
def afterPreflight (status : EksUpgradeStatus) : UpgradeMode → UpgradePhase
  | .forward =>
    if hasCpSteps status then .upgradingControlPlane
    else if hasAddons status then .upgradingAddons
    else if hasNodegroups status then .upgradingNodeGroups
    else if hasKarpenter status then .upgradingKarpenterNodePools
    else .completed
  | .rollback =>
    if hasNodegroups status then .rollingBackNodeGroups
    else if hasAddons status then .rollingBackAddons
    else if hasCpSteps status then .rollingBackControlPlane
    else .completed

/-- Next phase after the Karpenter NodePools, which run last. -/
def afterKarpenter (_status : EksUpgradeStatus) (_mode : UpgradeMode) : UpgradePhase := .completed

def transitionTo (now : Instant) (status : EksUpgradeStatus) (next : UpgradePhase) :
    EksUpgradeStatus :=
  if next = .completed then
    setCondition now (setPhase now status next) "Ready" "True" "UpgradeCompleted" none
  else setPhase now status next

section Fields

variable (now : Instant) (status : EksUpgradeStatus)

@[simp]
theorem setCondition_phase (kind value reason : String) (message : Option String) :
    (setCondition now status kind value reason message).phase = status.phase :=
  rfl

@[simp]
theorem setFailed_phase (message : String) : (setFailed now status message).phase = some .failed :=
  rfl

@[simp]
theorem setFailed_phases (message : String) :
    (setFailed now status message).phases = status.phases :=
  rfl

@[simp]
theorem transitionTo_phase (next : UpgradePhase) :
    (transitionTo now status next).phase = some next := by
  unfold transitionTo
  split
  · rfl
  · rfl

@[simp]
theorem transitionTo_phases (next : UpgradePhase) :
    (transitionTo now status next).phases = status.phases := by
  unfold transitionTo
  split
  · rfl
  · rfl

end Fields

/-! ## Versions and upgrade paths -/

open DecimalText UInt32 List
open Transaction (bind_eq_ok)

/-- Errors that can occur during an upgrade. -/
inductive KuoError where
  | awsSdk (component detail : String)
  | awsCredentials (component detail : String)
  | awsRegion (component detail : String)
  | clusterNotFound (cluster : String)
  | invalidVersion (version : String)
  | upgradeNotPossible (reason : String)
  | kubernetesApi (detail : String)
  | kubernetesForbidden (detail : String)
deriving DecidableEq

namespace KuoError

def message : KuoError → String
  | awsSdk component detail => s!"[{component}] {detail}"
  | awsCredentials component detail => s!"[{component}] AWS credentials error: {detail}"
  | awsRegion component detail => s!"[{component}] AWS region not configured: {detail}"
  | clusterNotFound cluster => s!"Cluster not found: {cluster}"
  | invalidVersion version => s!"Invalid version format: {version}"
  | upgradeNotPossible reason => s!"Upgrade not possible: {reason}"
  | kubernetesApi detail => s!"Kubernetes API error: {detail}"
  | kubernetesForbidden detail => s!"Kubernetes permission denied: {detail}"

/-- Whether the error is worth a retry. -/
def isTransient : KuoError → Bool
  | awsSdk _ _ => true
  | kubernetesApi _ => true
  | _ => false

end KuoError

/-- The digits of an unsigned number; one plus sign may stand before them. -/
def dropPlus : List Char → List Char
  | '+' :: digits => digits
  | digits => digits

def parseU32 (text : List Char) : Option Nat :=
  (parseDigits (dropPlus text)).filter (· < UInt32.size)

/-- Major and minor number of a version. -/
def parseK8sVersion (version : String) : Except KuoError (Nat × Nat) :=
  match version.toList.splitOn '.' with
  | major :: minor :: _ =>
    match parseU32 major, parseU32 minor with
    | some major, some minor => .ok (major, minor)
    | _, _ => .error (.invalidVersion version)
  | _ => .error (.invalidVersion version)

def formatK8sVersion (major minor : Nat) : String := s!"{major}.{minor}"

def calculateUpgradePath (current target : String) : Except KuoError (List String) := do
  let (currMajor, currMinor) ← parseK8sVersion current
  let (targetMajor, targetMinor) ← parseK8sVersion target
  if currMajor ≠ targetMajor then
    throw (.upgradeNotPossible "Cross-major version upgrades are not supported")
  else if targetMinor = currMinor then
    pure []
  else if targetMinor < currMinor then
    throw (.upgradeNotPossible
      s!"Target version {target} is lower than current version {current} (downgrade not supported)")
  else
    pure ((List.range' (currMinor + 1) (targetMinor - currMinor)).map (formatK8sVersion currMajor))

/-- The single version one minor below `current`. -/
def calculateRollbackPath (current target : String) : Except KuoError (List String) := do
  let (currMajor, currMinor) ← parseK8sVersion current
  let (targetMajor, targetMinor) ← parseK8sVersion target
  if currMajor ≠ targetMajor then
    throw (.upgradeNotPossible "Cross-major version rollbacks are not supported")
  else if targetMinor = currMinor then
    pure []
  else if targetMinor > currMinor then
    throw (.upgradeNotPossible
      s!"Target version {target} is higher than current version {current} (use Forward mode to upgrade)")
  else if targetMinor + 1 ≠ currMinor then
    throw (.upgradeNotPossible
      s!"Rollback supports only a single minor version (N-1): cannot roll back from {current} to {target}. Roll back one minor at a time.")
  else
    pure [target]

/-- The minor number of a version that can be read. -/
def minorOf (version : String) : Option Nat :=
  match parseK8sVersion version with
  | .ok (_, minor) => some minor
  | .error _ => none

theorem dropPlus_decimal (number : Nat) :
    dropPlus (Nat.toDigits 10 number) = Nat.toDigits 10 number := by
  have notPlus : '+' ∉ Nat.toDigits 10 number := notMem_decimal rfl
  cases digitsEq : Nat.toDigits 10 number with
  | nil => rfl
  | cons first =>
    have other : '+' ≠ first := by simp_all
    simp [dropPlus, other.symm]

theorem parseU32_decimal {number : Nat} (bound : number < size) :
    parseU32 (Nat.toDigits 10 number) = some number := by
  simp [parseU32, dropPlus_decimal, parseDigits_decimal, bound]

theorem lt_of_parseU32 {text : List Char} {number : Nat} (parsed : parseU32 text = some number) :
    number < size := by
  simp only [parseU32, Option.filter_eq_some_iff, decide_eq_true_eq] at parsed
  exact parsed.2

theorem dot_notMem_decimal (number : Nat) : '.' ∉ Nat.toDigits 10 number :=
  notMem_decimal rfl

theorem splitOn_formatK8sVersion (major minor : Nat) :
    (formatK8sVersion major minor).toList.splitOn '.' =
      [Nat.toDigits 10 major, Nat.toDigits 10 minor] := by
  have text : (formatK8sVersion major minor).toList =
      Nat.toDigits 10 major ++ '.' :: Nat.toDigits 10 minor := by
    simp [formatK8sVersion, toString, Nat.repr]
  rw [text, splitOn_append_cons_self_of_not_mem (dot_notMem_decimal major),
    splitOn_eq_singleton (dot_notMem_decimal minor)]

theorem parseK8sVersion_format {major minor : Nat} (majorBound : major < size)
    (minorBound : minor < size) :
    parseK8sVersion (formatK8sVersion major minor) = .ok (major, minor) := by
  simp [parseK8sVersion, splitOn_formatK8sVersion, parseU32_decimal majorBound,
    parseU32_decimal minorBound]

variable {version : String} {major minor : Nat}

theorem bounds_of_parseK8sVersion (parsed : parseK8sVersion version = .ok (major, minor)) :
    major < size ∧ minor < size := by
  unfold parseK8sVersion at parsed
  split at parsed
  · split at parsed
    next majorText minorText =>
      obtain ⟨rfl, rfl⟩ := parsed
      exact ⟨lt_of_parseU32 majorText, lt_of_parseU32 minorText⟩
    · simp at parsed
  · simp at parsed

theorem minorOf_eq_some (parsed : parseK8sVersion version = .ok (major, minor)) :
    minorOf version = some minor := by
  simp [minorOf, parsed]

variable {current target : String} {path : List String}

theorem lt_minorOf_mem_upgradePath (calculated : calculateUpgradePath current target = .ok path)
    (member : version ∈ path) :
    ∃ low high, minorOf current = some low ∧ minorOf version = some high ∧ low < high := by
  obtain ⟨⟨_, currMinor⟩, parsedCurrent, calculated⟩ := bind_eq_ok calculated
  obtain ⟨⟨_, _⟩, parsedTarget, calculated⟩ := bind_eq_ok calculated
  have currentBound := bounds_of_parseK8sVersion parsedCurrent
  have targetBound := bounds_of_parseK8sVersion parsedTarget
  dsimp only at calculated
  split_ifs at calculated with majors equal lower
  · cases calculated
    cases member
  · cases calculated
    simp only [mem_map, mem_range'_1] at member
    obtain ⟨minor, _, rfl⟩ := member
    have minorBound : minor < size := by omega
    have parsed := parseK8sVersion_format currentBound.1 minorBound
    exact ⟨currMinor, minor, minorOf_eq_some parsedCurrent, minorOf_eq_some parsed, by omega⟩

theorem minorOf_mem_rollbackPath_lt (calculated : calculateRollbackPath current target = .ok path)
    (member : version ∈ path) :
    ∃ low high, minorOf current = some high ∧ minorOf version = some low ∧ low < high := by
  obtain ⟨⟨_, currMinor⟩, parsedCurrent, calculated⟩ := bind_eq_ok calculated
  obtain ⟨⟨_, targetMinor⟩, parsedTarget, calculated⟩ := bind_eq_ok calculated
  dsimp only at calculated
  split_ifs at calculated with majors equal higher single
  · cases calculated
    cases member
  · cases calculated
    obtain rfl := mem_singleton.mp member
    exact ⟨targetMinor, currMinor, minorOf_eq_some parsedCurrent, minorOf_eq_some parsedTarget,
      by omega⟩

/-- An error of a handler: one of the operator's own or any other. -/
inductive HandlerError where
  | kuo (error : KuoError)
  | other (text : String)
deriving DecidableEq

namespace HandlerError

def message : HandlerError → String
  | kuo error => error.message
  | other text => text

def isTransient : HandlerError → Bool
  | kuo error => error.isTransient
  | other _ => false

end HandlerError

/-! ## Planning -/

structure AddonInfo where
  name : String
  currentVersion : String
deriving DecidableEq

structure NodeGroupInfo where
  name : String
  version : Option String
deriving DecidableEq

structure NodeClaimInfo where
  name : String
  nodeName : Option String := none
  providerId : Option String := none
  createdAt : Option Instant := none
deriving DecidableEq

/-- Answers about one NodePool: its NodeClaims, and the kubelet version for the read of each
backing node. -/
structure PoolAnswers where
  claims : Except HandlerError (List NodeClaimInfo)
  kubelet : Nat → Except HandlerError (Option String)

structure PlanningAnswers where
  clusterVersion : Except HandlerError (Option String)
  addonUpgrades : Except HandlerError (List (AddonInfo × String))
  nodegroups : Except HandlerError (List NodeGroupInfo)
  client : Except HandlerError Unit
  nodepoolNames : Except HandlerError (List String)
  pools : Nat → PoolAnswers
  lifecycle : LifecycleStatus

structure UpgradePlan where
  currentVersion : String
  upgradePath : List String
  addonUpgrades : List (AddonInfo × String)
  nodegroupUpgrades : List NodeGroupInfo

def UpgradePlan.isEmpty (plan : UpgradePlan) : Bool :=
  plan.upgradePath.isEmpty && plan.addonUpgrades.isEmpty && plan.nodegroupUpgrades.isEmpty

def calculatePath (mode : UpgradeMode) (current target : String) : Except KuoError (List String) :=
  match mode with
  | .forward => calculateUpgradePath current target
  | .rollback => calculateRollbackPath current target

def createUpgradePlan (spec : EksUpgradeSpec) (answers : PlanningAnswers) :
    Except HandlerError UpgradePlan := do
  let cluster ← answers.clusterVersion
  let currentVersion ← cluster.elim (throw (.kuo (.clusterNotFound spec.clusterName))) pure
  let upgradePath ←
    (calculatePath spec.upgradeMode currentVersion spec.targetVersion).mapError .kuo
  let addonUpgrades ← answers.addonUpgrades
  let nodegroups ← answers.nodegroups
  let nodegroupUpgrades := nodegroups.filter fun group => group.version != some spec.targetVersion
  pure { currentVersion, upgradePath, addonUpgrades, nodegroupUpgrades }

/-- The minor number of a version such as the one a kubelet reports. -/
def parseMinor (version : String) : Option Nat :=
  match ((TextParsing.trimChars version.toList).dropWhile (· == 'v')).splitOn '.' with
  | _ :: minor :: _ => parseU32 (minor.takeWhile Char.isDigit)
  | _ => none

def isStaleKubelet (kubeletVersion : String) (targetMinor : Nat) : Bool :=
  (parseMinor kubeletVersion).any (· < targetMinor)

/-- The NodeClaims to replace: those whose node is below the target and that are not done. -/
def staleTargets (candidates : List (String × Option String)) (completed : List String)
    (targetMinor : Nat) : List String :=
  (candidates.filter fun candidate =>
    !completed.contains candidate.1 &&
      candidate.2.any (fun kubelet => isStaleKubelet kubelet targetMinor)).map (·.1)

def readKubelet (kubelet : Except HandlerError (Option String)) (claim : NodeClaimInfo) :
    Except HandlerError (Option String) :=
  if claim.nodeName.isSome then kubelet else pure none

def readKubelets (kubelet : Nat → Except HandlerError (Option String)) :
    Nat → List NodeClaimInfo → Except HandlerError (List (String × Option String))
  | _, [] => pure []
  | index, claim :: rest => do
      let version ← readKubelet (kubelet index) claim
      let candidates ← readKubelets kubelet (index + 1) rest
      pure ((claim.name, version) :: candidates)

/-- The NodeClaims of a NodePool and those of them that are to be replaced. -/
def resolveStale (answers : PoolAnswers) (targetMinor : Nat) (completed : List String) :
    Except HandlerError (List NodeClaimInfo × List String) := do
  let claims ← answers.claims
  let candidates ← readKubelets answers.kubelet 0 claims
  pure (claims, staleTargets candidates completed targetMinor)

def KarpenterNodePoolsConfig.selectsAll (config : KarpenterNodePoolsConfig) : Bool :=
  config.nodePools.isEmpty ||
    config.nodePools.any (fun name => name.toList.map Char.toUpper == "ALL".toList)

/-- A count kept in 32 bits. -/
def clampU32 (number : Nat) : Nat := min number (UInt32.size - 1)

/-- The number of nodes a NodePool will replace; zero when the target cannot be read. -/
def countStale (targetMinor : Option Nat) (answers : PoolAnswers) : Except HandlerError Nat :=
  match targetMinor with
  | some minor => (resolveStale answers minor []).map fun resolved => clampU32 resolved.2.length
  | none => pure 0

/-- The entries for the selected NodePools, with the number of nodes each will replace. -/
def planPools (targetMinor : Option Nat) (pools : Nat → PoolAnswers) :
    Nat → List String → Except HandlerError (List KarpenterPoolStatus)
  | _, [] => pure []
  | index, name :: rest => do
      let totalNodes ← countStale targetMinor (pools index)
      let planned ← planPools targetMinor pools (index + 1) rest
      pure ({ name, status := .pending, totalNodes } :: planned)

def selectedPools (config : KarpenterNodePoolsConfig) (answers : PlanningAnswers) :
    Except HandlerError (List String) :=
  if config.selectsAll then answers.nodepoolNames else pure config.nodePools

def planKarpenter (spec : EksUpgradeSpec) (answers : PlanningAnswers) :
    Except HandlerError (List KarpenterPoolStatus) :=
  match spec.karpenterNodePools with
  | none => pure []
  | some config =>
    if config.enabled then do
      answers.client
      let names ← selectedPools config answers
      planPools (parseMinor spec.targetVersion) answers.pools 0 names
    else pure []

def rejectConsecutiveRollback (now : Instant) (spec : EksUpgradeSpec) (current : EksUpgradeStatus) :
    Option EksUpgradeStatus :=
  if isConsecutiveRollback spec.upgradeMode current.lastTransition then
    let lastTo := (current.lastTransition.map (·.toVersion)).getD "unknown"
    let target := spec.targetVersion
    let message := s!"Consecutive rollback rejected: the previous transition already rolled back to {lastTo}. EKS only permits rolling back to a version the cluster was recently upgraded from, so rolling back further to {target} is not possible. Roll forward before rolling back again."
    some (setCondition now (setFailed now current message) "Ready" "False"
      "ConsecutiveRollbackRejected" (some message))
  else none

def plannedPhases (spec : EksUpgradeSpec) (current : PhaseStatuses) (plan : UpgradePlan)
    (pools : List KarpenterPoolStatus) : PhaseStatuses :=
  { current with
    planning := some
      { sourceVersion :=
          ((current.planning.bind (·.sourceVersion)).or (some plan.currentVersion))
        upgradePath := plan.upgradePath }
    controlPlane := some
      { currentStep := if 0 < plan.upgradePath.length then 1 else 0
        totalSteps := plan.upgradePath.length }
    addons := plan.addonUpgrades.map fun upgrade =>
      { name := upgrade.1.name, currentVersion := upgrade.1.currentVersion
        targetVersion := upgrade.2, status := .pending }
    nodegroups := plan.nodegroupUpgrades.map fun group =>
      { name := group.name, currentVersion := group.version.getD "unknown"
        targetVersion := spec.targetVersion, status := .pending }
    karpenterNodePools :=
      match spec.karpenterNodePools with
      | some config =>
        if pools.isEmpty then current.karpenterNodePools
        else some { strategy := config.strategy.text, pools }
      | none => current.karpenterNodePools }

def executePlanning (now : Instant) (spec : EksUpgradeSpec) (current : EksUpgradeStatus)
    (answers : PlanningAnswers) : Except HandlerError EksUpgradeStatus :=
  match rejectConsecutiveRollback now spec current with
  | some rejected => pure rejected
  | none => do
      let plan ← createUpgradePlan spec answers
      let pools ← planKarpenter spec answers
      let planned : EksUpgradeStatus :=
        { current with
          currentVersion := some plan.currentVersion
          phases := plannedPhases spec current.phases plan pools
          lifecycle := some answers.lifecycle }
      if plan.isEmpty && pools.isEmpty then
        let message := "All components already at target version"
        pure (setCondition now { setPhase now planned .completed with message := some message }
          "Ready" "True" "AlreadyUpToDate" (some message))
      else
        pure (setCondition now (setPhase now planned .preflightChecking) "Ready" "False"
          "UpgradeInProgress" none)

/-! ## Preflight checks -/

inductive CheckStatus where
  | pass
  | fail
deriving DecidableEq

def CheckStatus.text : CheckStatus → String
  | pass => "Pass"
  | fail => "Fail"

structure PreflightCheckResult where
  name : String
  status : CheckStatus
  summary : String
  resources : List String := []
deriving DecidableEq

structure SkippedCheck where
  name : String
  reason : String
deriving DecidableEq

structure PreflightResults where
  checks : List PreflightCheckResult := []
  skipped : List SkippedCheck := []
deriving DecidableEq

def PreflightResults.addCheck (results : PreflightResults) (check : PreflightCheckResult) :
    PreflightResults :=
  { results with checks := results.checks ++ [check] }

def PreflightResults.addSkipped (results : PreflightResults) (name reason : String) :
    PreflightResults :=
  { results with skipped := results.skipped ++ [{ name, reason }] }

def PreflightResults.hasMandatoryFailures (results : PreflightResults) : Bool :=
  results.checks.any (·.status == .fail)

def PreflightCheckResult.failureReason (check : PreflightCheckResult) : String :=
  let name := check.name
  let summary := check.summary
  let resources := String.intercalate ", " check.resources
  if check.resources.isEmpty then s!"[{name}] {summary}" else s!"[{name}] {summary}: {resources}"

def PreflightResults.mandatoryFailureReasons (results : PreflightResults) : List String :=
  (results.checks.filter (·.status == .fail)).map (·.failureReason)

def buildCheckStatuses (results : PreflightResults) : List PreflightCheckStatus :=
  results.checks.map (fun check =>
      { name := check.name, status := check.status.text, message := check.summary
        resources := check.resources }) ++
    results.skipped.map fun check =>
      { name := check.name, status := "Skip", message := check.reason }

def deletionProtectionCheck (enabled : Bool) : PreflightCheckResult :=
  if enabled then
    { name := "EKS Deletion Protection", status := .pass
      summary := "Deletion protection is enabled" }
  else
    { name := "EKS Deletion Protection", status := .fail
      summary := "Deletion protection is disabled" }

structure PreflightAnswers where
  insights : Option PreflightCheckResult
  /-- The cluster's deletion protection, if the cluster is there and says so. -/
  cluster : Except HandlerError (Option (Option Bool))
  disruptionBudgets : Option PreflightCheckResult
  karpenter : PreflightResults

def runChecks (spec : EksUpgradeSpec) (current : EksUpgradeStatus) (answers : PreflightAnswers) :
    Except HandlerError PreflightResults := do
  let insights : PreflightResults := answers.insights.elim
    (PreflightResults.addSkipped {} "EKS Cluster Insights" "EKS Insights API unavailable")
    (PreflightResults.addCheck {})
  let cluster ← answers.cluster
  let protection ← cluster.elim (throw (.kuo (.clusterNotFound spec.clusterName))) pure
  let guarded := protection.elim
    (insights.addSkipped "EKS Deletion Protection" "unable to determine")
    (fun enabled => insights.addCheck (deletionProtectionCheck enabled))
  let drained :=
    if current.phases.nodegroups.isEmpty then
      guarded.addSkipped "PDB Drain Deadlock" "no managed node group upgrades"
    else answers.disruptionBudgets.elim
      (guarded.addSkipped "PDB Drain Deadlock" "Kubernetes API unavailable") guarded.addCheck
  if spec.karpenterNodePools.any (·.enabled) then
    pure
      { checks := drained.checks ++ answers.karpenter.checks
        skipped := drained.skipped ++ answers.karpenter.skipped }
  else pure drained

def executePreflight (now : Instant) (spec : EksUpgradeSpec) (current : EksUpgradeStatus)
    (answers : PreflightAnswers) : Except HandlerError EksUpgradeStatus := do
  let results ← runChecks spec current answers
  let checked : EksUpgradeStatus :=
    { current with
      phases := { current.phases with preflight := some { checks := buildCheckStatuses results } } }
  if results.hasMandatoryFailures then
    let reasons := String.intercalate "; " results.mandatoryFailureReasons
    pure (setFailed now checked s!"Preflight check failed: {reasons}")
  else if spec.dryRun then
    let message := "Dry-run: preflight passed, plan generated but not executed"
    pure (setCondition now { setPhase now checked .completed with message := some message }
      "Ready" "True" "DryRunCompleted" (some message))
  else pure (transitionTo now checked (afterPreflight checked spec.upgradeMode))

end Addons.EksUpgrade
