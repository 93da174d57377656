import Addons.UpgradePlanning

/-!
# Replacing Karpenter nodes

For each NodePool the operator deletes the NodeClaims of stale nodes, a batch at a time,
and waits until the old node is gone and the controllers of its pods have recovered.
-/

namespace Addons.EksUpgrade

open DecimalText
open TextParsing (trimChars)

/-! ## Phase handlers for the managed components -/

/-- Why a handler did not return a status. -/
inductive Stop where
  | error (problem : HandlerError)
  | panic
deriving DecidableEq

/-- What a handler does outside the status. -/
inductive Call where
  /-- An update of the control plane was started; its id may have been lost with the answer. -/
  | updateStarted (version : String) (updateId : Option String)
  /-- A poll said that an update of the control plane is done. -/
  | updateSucceeded (version updateId : String)
  | nodeClaimDeleted (pool nodeClaim : String)
deriving DecidableEq

/-- A handler's calls and its result. -/
structure Attempt (Value : Type) where
  calls : List Call := []
  result : Except Stop Value

/-- A status and the number of seconds to wait before the next step, if there is one. -/
abbrev Step := EksUpgradeStatus × Option Nat

def Attempt.ofResult {Value : Type} (result : Except HandlerError Value) : Attempt Value where
  result := result.mapError .error

/-! ## Control plane -/

/-- The answer to a request for a control plane update. -/
inductive UpdateStart where
  | accepted (updateId : String)
  | refused (problem : HandlerError)
  /-- The update starts, but the answer is lost. -/
  | unanswered (problem : HandlerError)

structure ControlPlaneAnswers where
  updateStatus : Except HandlerError String
  start : UpdateStart

def modifyControlPlane (status : EksUpgradeStatus)
    (change : ControlPlaneStatus → ControlPlaneStatus) : EksUpgradeStatus :=
  { status with
    phases := { status.phases with controlPlane := status.phases.controlPlane.map change } }

def advanceFromControlPlane (now : Instant) (status : EksUpgradeStatus) (mode : UpgradeMode) :
    EksUpgradeStatus :=
  let advanced := modifyControlPlane status fun controlPlane =>
    { controlPlane with
      updateId := none, target := none, startedAt := none, completedAt := some now }
  transitionTo now advanced (afterControlPlane advanced mode)

/-- The step after a poll of a control plane update. -/
def processUpdateResult (now : Instant) (status : EksUpgradeStatus) (answer : String)
    (step total : Nat) (targetVersion : String) (mode : UpgradeMode) : Step :=
  match answer with
  | "Successful" =>
    let moved := modifyControlPlane { status with currentVersion := some targetVersion }
      fun controlPlane =>
        { controlPlane with
          currentStep := step + 1, updateId := none, target := none, startedAt := none }
    if total < step + 1 then (advanceFromControlPlane now moved mode, none) else (moved, some 0)
  | "Failed" | "Cancelled" =>
    let cleared := modifyControlPlane status fun controlPlane =>
      { controlPlane with updateId := none }
    (setFailed now cleared s!"Control plane upgrade to {targetVersion} failed", none)
  | _ => (status, some 30)

/-- The version of the current step; there is none when the step is not one of the path. -/
def currentTarget (controlPlane : ControlPlaneStatus) (upgradePath : List String) :
    Option String :=
  if controlPlane.currentStep = 0 then none else upgradePath[controlPlane.currentStep - 1]?

/-- Whether an update that started at the given time has used up its minutes. -/
def isTimedOut (now : Instant) (startedAt : Option Instant) (minutes : Nat) : Bool :=
  startedAt.any fun started => asI64 minutes ≤ numMinutes (now - started)

def controlPlaneTimeout (now : Instant) (status : EksUpgradeStatus)
    (controlPlane : ControlPlaneStatus) (targetVersion updateId : String) (minutes : Nat) :
    EksUpgradeStatus :=
  let elapsed := numMinutes (now - controlPlane.startedAt.getD now)
  setFailed now (modifyControlPlane status fun details => { details with updateId := none })
    s!"Control plane upgrade to {targetVersion} timed out after {elapsed} minutes (limit: {minutes} minutes, update: {updateId})"

def pollControlPlane (now : Instant) (spec : EksUpgradeSpec) (current : EksUpgradeStatus)
    (controlPlane : ControlPlaneStatus) (targetVersion updateId : String)
    (answers : ControlPlaneAnswers) : Attempt Step :=
  let minutes := (spec.timeouts.map (·.controlPlaneMinutes)).getD 30
  if isTimedOut now controlPlane.startedAt minutes then
    { result := .ok
        (controlPlaneTimeout now current controlPlane targetVersion updateId minutes, none) }
  else
    match answers.updateStatus with
    | .error problem => { result := .error (.error problem) }
    | .ok answer =>
      { calls := if answer = "Successful" then [.updateSucceeded targetVersion updateId] else []
        result := .ok (processUpdateResult now current answer controlPlane.currentStep
          controlPlane.totalSteps targetVersion spec.upgradeMode) }

def startControlPlane (now : Instant) (current : EksUpgradeStatus) (targetVersion : String)
    (answers : ControlPlaneAnswers) : Attempt Step :=
  match answers.start with
  | .accepted updateId =>
    { calls := [.updateStarted targetVersion (some updateId)]
      result := .ok
        (modifyControlPlane current fun controlPlane =>
          { controlPlane with
            target := some targetVersion, updateId := some updateId, startedAt := some now },
        some 30) }
  | .refused problem => { result := .error (.error problem) }
  | .unanswered problem =>
    { calls := [.updateStarted targetVersion none], result := .error (.error problem) }

def executeControlPlane (now : Instant) (spec : EksUpgradeSpec) (current : EksUpgradeStatus)
    (answers : ControlPlaneAnswers) : Attempt Step :=
  match current.phases.controlPlane with
  | none =>
    { result := .error (.error (.other "control_plane status must be set before this phase")) }
  | some controlPlane =>
    let upgradePath := (current.phases.planning.map (·.upgradePath)).getD []
    if controlPlane.totalSteps < controlPlane.currentStep then
      { result := .ok (advanceFromControlPlane now current spec.upgradeMode, none) }
    else
      match currentTarget controlPlane upgradePath with
      | none => { result := .error .panic }
      | some targetVersion =>
        match controlPlane.updateId with
        | some updateId =>
          pollControlPlane now spec current controlPlane targetVersion updateId answers
        | none => startControlPlane now current targetVersion answers

/-! ## Add-ons -/

structure ComponentAnswers where
  start : Except HandlerError String
  poll : Except HandlerError String

def modifyAddon (status : EksUpgradeStatus) (index : Nat) (change : AddonStatus → AddonStatus) :
    EksUpgradeStatus :=
  { status with
    phases := { status.phases with addons := status.phases.addons.modify index change } }

/-- Whether an add-on status means that its update failed. -/
def isAddonFailure (answer : String) : Bool :=
  answer ∈ ["CREATE_FAILED", "UPDATE_FAILED", "DELETE_FAILED", "DEGRADED"]

def applyAddonPollResult (now : Instant) (status : EksUpgradeStatus) (index : Nat)
    (name answer : String) : Step :=
  if answer = "ACTIVE" then
    (modifyAddon status index fun addon =>
      { addon with status := .completed, completedAt := some now }, some 0)
  else if isAddonFailure answer then
    (setFailed now
      (modifyAddon status index fun addon =>
        { addon with status := .failed, completedAt := some now })
      s!"Addon {name} upgrade failed: {answer}", none)
  else (status, some 15)

def executeAddons (now : Instant) (spec : EksUpgradeSpec) (current : EksUpgradeStatus)
    (answers : ComponentAnswers) : Except HandlerError Step :=
  match current.phases.addons.findIdx? (fun addon => !addon.status.isDone) with
  | none => pure (transitionTo now current (afterAddons current spec.upgradeMode), none)
  | some index =>
    match current.phases.addons[index]? with
    | none => pure (current, some 0)
    | some addon =>
      let name := addon.name
      match addon.status with
      | .pending => do
          let _ ← answers.start
          pure (modifyAddon current index fun addon =>
            { addon with status := .inProgress, startedAt := some now }, some 15)
      | .inProgress => do
          let answer ← answers.poll
          pure (applyAddonPollResult now current index name answer)
      | .failed => pure (setFailed now current s!"Addon {name} is in failed state", none)
      | .completed | .skipped => pure (current, some 0)

/-! ## Node groups -/

/-- The status with one node group changed. -/
def modifyNodegroup (status : EksUpgradeStatus) (index : Nat)
    (change : NodegroupStatus → NodegroupStatus) : EksUpgradeStatus :=
  { status with
    phases := { status.phases with nodegroups := status.phases.nodegroups.modify index change } }

def findActiveNodegroup (status : EksUpgradeStatus) : Option Nat :=
  status.phases.nodegroups.findIdx? fun group => !group.status.isDone

def applyPollResult (now : Instant) (status : EksUpgradeStatus) (index : Nat)
    (name answer : String) : Step :=
  match answer with
  | "Successful" =>
    (modifyNodegroup status index fun group =>
      { group with
        status := .completed, updateId := none, startedAt := none, completedAt := some now },
      some 0)
  | "Failed" | "Cancelled" =>
    (setFailed now
      (modifyNodegroup status index fun group =>
        { group with status := .failed, updateId := none })
      s!"Nodegroup {name} upgrade failed: {answer}", none)
  | _ => (status, some 30)

def nodegroupTimeout (now : Instant) (status : EksUpgradeStatus) (index : Nat)
    (group : NodegroupStatus) (minutes : Nat) : EksUpgradeStatus :=
  let name := group.name
  let elapsed := numMinutes (now - group.startedAt.getD now)
  setFailed now
    (modifyNodegroup status index fun group => { group with status := .failed, updateId := none })
    s!"Nodegroup {name} upgrade timed out after {elapsed} minutes (limit: {minutes} minutes)"

def executeNodegroups (now : Instant) (spec : EksUpgradeSpec) (current : EksUpgradeStatus)
    (answers : ComponentAnswers) : Except HandlerError Step :=
  match findActiveNodegroup current with
  | none => pure (transitionTo now current (afterNodegroups current spec.upgradeMode), none)
  | some index =>
    match current.phases.nodegroups[index]? with
    | none => pure (current, some 0)
    | some group =>
      let name := group.name
      let minutes := (spec.timeouts.map (·.nodegroupMinutes)).getD 60
      match group.status with
      | .pending => do
          let updateId ← answers.start
          pure (modifyNodegroup current index fun group =>
            { group with
              status := .inProgress, updateId := some updateId, startedAt := some now },
            some 30)
      | .inProgress =>
        if isTimedOut now group.startedAt minutes then
          pure (nodegroupTimeout now current index group minutes, none)
        else do
          let answer ← answers.poll
          pure (applyPollResult now current index name answer)
      | .failed => pure (setFailed now current s!"Nodegroup {name} is in failed state", none)
      | .completed | .skipped => pure (current, some 0)

inductive EntryOutcome where
  | draining
  | waitStable
  | done
  | failed (reason : String)
deriving DecidableEq

/-- A sum of signed 64-bit numbers. -/
def addI64 (first second : Int) : Int := (Int64.ofInt (first + second)).toInt

def decideEntry (state : EntryState) (nodeExists controllersStable : Bool)
    (elapsed drainTo stableTo : Int) : EntryOutcome :=
  if state = .draining ∧ nodeExists = true then
    if drainTo < elapsed then
      let minutes := drainTo.tdiv 60
      .failed s!"NodeDrainTimeout after {minutes}m, the old node was not removed in time"
    else .draining
  else if controllersStable then .done
  else if addI64 drainTo stableTo < elapsed then
    let minutes := stableTo.tdiv 60
    .failed
      s!"ControllerStableTimeout after {minutes}m, workloads did not become Ready again in time"
  else .waitStable

/-- The claim that replaced a removed one: new, and not older than the removal. -/
def pickNewNodeclaim (candidates : List NodeClaimInfo) (known : List String)
    (after : Option Instant) : Option String :=
  ((candidates.filter fun claim => !known.contains claim.name).find? fun claim =>
    match after, claim.createdAt with
    | some removed, some created => removed ≤ created
    | _, _ => true).map (·.name)

/-- Up to `max` stale claims that are not done. -/
def selectBatch (stale completed : List String) (max : Nat) : List String :=
  (stale.filter fun name => !completed.contains name).take (Nat.max max 1)

structure ControllerRef where
  kind : String
  namespaceName : String
  name : String
deriving DecidableEq

def encodeController (controller : ControllerRef) : String :=
  let kind := controller.kind
  let space := controller.namespaceName
  let name := controller.name
  s!"{kind}|{space}|{name}"

/-- The first NodePool that still needs work. -/
def activePoolIndex (pools : List KarpenterPoolStatus) : Option Nat :=
  pools.findIdx? fun pool => !(pool.status.isDone || pool.status == .failed)

def parseUsize (text : List Char) : Option Nat :=
  (parseDigits (dropPlus text)).filter (· < UInt64.size)

/-- The number of nodes that may be replaced at once; at least one. -/
def KarpenterNodePoolsConfig.resolveMaxUnavailable (config : KarpenterNodePoolsConfig)
    (totalNodes : Nat) : Nat :=
  let raw := trimChars config.maxUnavailable.toList
  let parsed :=
    if raw.getLast? = some '%' then
      (parseUsize (trimChars raw.dropLast)).map fun percent =>
        min (totalNodes * percent) (UInt64.size - 1) / 100
    else parseUsize raw
  Nat.max (parsed.getD 1) 1

/-- The answer to the deletion of a NodeClaim. -/
inductive Deletion where
  | deleted
  | refused (problem : HandlerError)
  /-- The claim is deleted, but the answer is lost. -/
  | unanswered (problem : HandlerError)

structure KarpenterAnswers where
  client : Except HandlerError Unit
  pool : PoolAnswers
  controllers : Nat → Except HandlerError (List ControllerRef)
  delete : Nat → Deletion
  nodeclaimExists : Nat → Except HandlerError Bool
  controllersStable : Nat → Except HandlerError Bool
  claims : Except HandlerError (List NodeClaimInfo)

/-- A step of one NodePool: its next status, and the time to wait or the reason it failed. -/
structure PoolStep where
  pool : KarpenterPoolStatus
  after : Nat := 0
  failure : Option String := none

def deleteBatch (now : Instant) (pool : String) (claims : List NodeClaimInfo)
    (answers : KarpenterAnswers) : Nat → List String → Attempt (List CurrentBatchEntry)
  | _, [] => { result := .ok [] }
  | index, name :: rest =>
    let claim := claims.find? fun claim => claim.name == name
    let nodeName := claim.bind (·.nodeName)
    let owners := if nodeName.isSome then answers.controllers index else .ok []
    match owners with
    | .error problem => { result := .error (.error problem) }
    | .ok controllers =>
      match answers.delete index with
      | .refused problem => { result := .error (.error problem) }
      | .unanswered problem =>
        { calls := [.nodeClaimDeleted pool name], result := .error (.error problem) }
      | .deleted =>
        let entry : CurrentBatchEntry :=
          { nodeClaim := name, nodeName, providerId := claim.bind (·.providerId)
            state := .draining, startedAt := some now
            controllers := controllers.map encodeController }
        let later := deleteBatch now pool claims answers (index + 1) rest
        { calls := .nodeClaimDeleted pool name :: later.calls
          result := later.result.map (entry :: ·) }

/-- Starts the next batch of a NodePool, or completes it when nothing is stale. -/
def startNextBatch (now : Instant) (config : KarpenterNodePoolsConfig) (targetMinor : Nat)
    (pool : KarpenterPoolStatus) (answers : KarpenterAnswers) : Attempt PoolStep :=
  match resolveStale answers.pool targetMinor pool.completedNodeClaims with
  | .error problem => { result := .error (.error problem) }
  | .ok (claims, stale) =>
    let counted :=
      { pool with
        totalNodes := if pool.totalNodes = 0 then clampU32 stale.length else pool.totalNodes }
    if stale.isEmpty then { result := .ok { pool := { counted with status := .completed } } }
    else
      let batch := selectBatch stale counted.completedNodeClaims
        (config.resolveMaxUnavailable counted.totalNodes)
      let deleted := deleteBatch now pool.name claims answers 0 batch
      { calls := deleted.calls
        result := deleted.result.map fun entries =>
          { pool := { counted with currentBatch := counted.currentBatch ++ entries }
            after := 30 } }

/-- The entries of a batch after a step. -/
structure BatchProgress where
  remaining : List CurrentBatchEntry := []
  completed : List CurrentBatchEntry := []
  failure : Option String := none

def elapsedSecs (startedAt : Option Instant) (now : Instant) : Int :=
  (startedAt.map fun started => numSeconds (now - started)).getD 0

/-- Advances the entries in order and stops at the first one that fails. -/
def advanceEntries (now : Instant) (drainTo stableTo : Int) :
    List (CurrentBatchEntry × Bool × Bool) → BatchProgress
  | [] => {}
  | (entry, nodeExists, controllersStable) :: rest =>
    match decideEntry entry.state nodeExists controllersStable
        (elapsedSecs entry.startedAt now) drainTo stableTo with
    | .draining =>
      let later := advanceEntries now drainTo stableTo rest
      { later with remaining := { entry with state := .draining } :: later.remaining }
    | .waitStable =>
      let later := advanceEntries now drainTo stableTo rest
      { later with
        remaining := { entry with state := .waitingControllerStable } :: later.remaining }
    | .done =>
      let later := advanceEntries now drainTo stableTo rest
      { later with completed := entry :: later.completed }
    | .failed reason => { remaining := [entry], failure := some reason }

/-- Whether the controllers of an entry's pods have recovered; not asked while its claim is
there. -/
def observeControllers (nodeExists : Bool) (answer : Except HandlerError Bool) :
    Except HandlerError Bool :=
  if nodeExists then pure false else answer

/-- What the cluster says of each entry: whether its claim is there, and whether the
controllers of its pods have recovered. -/
def observeEntries (answers : KarpenterAnswers) :
    Nat → List CurrentBatchEntry → Except HandlerError (List (CurrentBatchEntry × Bool × Bool))
  | _, [] => pure []
  | index, entry :: rest => do
      let nodeExists ← answers.nodeclaimExists index
      let controllersStable ← observeControllers nodeExists (answers.controllersStable index)
      let observed ← observeEntries answers (index + 1) rest
      pure ((entry, nodeExists, controllersStable) :: observed)

def recordCompleted (claims : List NodeClaimInfo) :
    List String → KarpenterPoolStatus → List CurrentBatchEntry → KarpenterPoolStatus
  | _, pool, [] => pool
  | known, pool, entry :: rest =>
    let newClaim := pickNewNodeclaim claims known entry.startedAt
    recordCompleted claims (known ++ newClaim.toList)
      { pool with
        replacedNodes := clampU32 (pool.replacedNodes + 1)
        completedNodeClaims := pool.completedNodeClaims ++ [entry.nodeClaim]
        replacements := pool.replacements ++
          [{ oldNodeClaim := entry.nodeClaim, newNodeClaim := newClaim
             nodeName := entry.nodeName }] }
      rest

/-- Records the completed entries of a step, if there are any. -/
def recordProgress (pool : KarpenterPoolStatus) (progress : BatchProgress)
    (answer : Except HandlerError (List NodeClaimInfo)) :
    Except HandlerError KarpenterPoolStatus :=
  if progress.completed.isEmpty then pure pool
  else do
    let claims ← answer
    let known := pool.completedNodeClaims ++ progress.remaining.map (·.nodeClaim) ++
      progress.completed.map (·.nodeClaim)
    pure (recordCompleted claims known pool progress.completed)

def advanceBatch (now : Instant) (drainTo stableTo : Int) (pool : KarpenterPoolStatus)
    (answers : KarpenterAnswers) : Except HandlerError PoolStep := do
  let observed ← observeEntries answers 0 pool.currentBatch
  let progress := advanceEntries now drainTo stableTo observed
  let recorded ←
    recordProgress { pool with currentBatch := progress.remaining } progress answers.claims
  pure
    { pool := recorded
      after := if progress.failure.isSome || recorded.currentBatch.isEmpty then 0 else 30
      failure := progress.failure }

def recomputeTotals (karpenter : KarpenterNodePoolsStatus) : KarpenterNodePoolsStatus :=
  { karpenter with
    totalNodes := (karpenter.pools.map (·.totalNodes)).foldl (· + ·) 0 % UInt32.size
    replacedNodes := (karpenter.pools.map (·.replacedNodes)).foldl (· + ·) 0 % UInt32.size }

def timeoutSeconds (minutes : Nat) : Int := min (minutes * 60) Int64.maxValue.toInt

def stepPool (now : Instant) (config : KarpenterNodePoolsConfig) (targetMinor : Nat)
    (pool : KarpenterPoolStatus) (answers : KarpenterAnswers) : Attempt PoolStep :=
  if pool.currentBatch.isEmpty then startNextBatch now config targetMinor pool answers
  else Attempt.ofResult (advanceBatch now (timeoutSeconds config.nodeDrainTimeoutMinutes)
    (timeoutSeconds config.controllerStableTimeoutMinutes) pool answers)

/-- Stores a step of the active NodePool in the status. -/
def storePoolStep (now : Instant) (current : EksUpgradeStatus)
    (karpenter : KarpenterNodePoolsStatus) (index : Nat) (name : String) (step : PoolStep) : Step :=
  match step.failure with
  | some reason =>
    let stepped := recomputeTotals
      { karpenter with pools := karpenter.pools.set index { step.pool with status := .failed } }
    (setFailed now
      { current with phases := { current.phases with karpenterNodePools := some stepped } }
      s!"Karpenter NodePool {name} failed: {reason}", none)
  | none =>
    let stepped := recomputeTotals
      { karpenter with pools := karpenter.pools.set index step.pool, activePool := some name }
    ({ current with phases := { current.phases with karpenterNodePools := some stepped } },
      some step.after)

def executeKarpenter (now : Instant) (spec : EksUpgradeSpec) (current : EksUpgradeStatus)
    (answers : KarpenterAnswers) : Attempt Step :=
  match spec.karpenterNodePools with
  | none => { result := .error .panic }
  | some config =>
    match current.phases.karpenterNodePools with
    | none => { result := .ok (transitionTo now current .completed, some 0) }
    | some karpenter =>
      match activePoolIndex karpenter.pools with
      | none =>
        let finished : EksUpgradeStatus :=
          { current with
            phases :=
              { current.phases with
                karpenterNodePools := some { karpenter with activePool := none } } }
        { result := .ok
            (transitionTo now finished (afterKarpenter finished spec.upgradeMode), some 0) }
      | some index =>
        match answers.client, parseMinor spec.targetVersion, karpenter.pools[index]? with
        | .error problem, _, _ => { result := .error (.error problem) }
        | .ok (), none, _ =>
          let target := spec.targetVersion
          { result := .ok (setFailed now current s!"Invalid target version: {target}", none) }
        | .ok (), some _, none => { result := .ok (current, some 0) }
        | .ok (), some targetMinor, some pool =>
          let step :=
            stepPool now config targetMinor { pool with status := .inProgress } answers
          { calls := step.calls
            result := step.result.map (storePoolStep now current karpenter index pool.name) }

end Addons.EksUpgrade
