import Addons.MergePatch
import Addons.ScalingSteps
import Mathlib.Data.List.Dedup

/-!
# The claim autoscaler

The specification and the status of a `PersistentVolumeClaimAutoscaler`, the merge patch by
which the status is written, and the decision for one claim: whether and how far it grows.
-/

namespace Addons.VolumeAutoscaler

section

open Option Document

/-! ## The specification -/

inductive ClaimTargetKind where
  | statefulSet
  | persistentVolumeClaim
deriving DecidableEq

def ClaimTargetKind.text : ClaimTargetKind → String
  | statefulSet => "StatefulSet"
  | persistentVolumeClaim => "PersistentVolumeClaim"

/-- Names the claims to scale, in the autoscaler's namespace. -/
structure ClaimTargetRef where
  kind : ClaimTargetKind
  name : String
deriving DecidableEq

inductive ClaimResourceName where
  | storage
  | inodes
deriving DecidableEq

structure ClaimMetricSpec where
  name : ClaimResourceName
  averageUtilization : Int
deriving DecidableEq

structure ClaimScalingRules where
  selectPolicy : SelectPolicy := .max
  policies : List ScalingPolicy := []
  cooldownDuration : Option String := none
deriving DecidableEq

structure ClaimBehavior where
  scaleUp : Option ClaimScalingRules := none
deriving DecidableEq

structure ClaimAutoscalerSpec where
  scaleTargetRef : ClaimTargetRef
  maxCapacity : String
  metrics : List ClaimMetricSpec := []
  behavior : Option ClaimBehavior := none
deriving DecidableEq

/-- The cooldown in seconds when none is given. -/
def defaultCooldown : Nat := 1800

def defaultUtilizationPercent : Int := 80

def targetSummary (target : ClaimTargetRef) : String := s!"{target.kind.text}/{target.name}"

/-- The utilization target of one resource; no metrics at all means storage at the default. -/
def targetUtilization (spec : ClaimAutoscalerSpec) (name : ClaimResourceName) : Option Int :=
  if spec.metrics = [] then
    if name = .storage then some defaultUtilizationPercent else none
  else (spec.metrics.find? fun metric => metric.name = name).map (·.averageUtilization)

/-! ## The status -/

/-- The reasons that claims and conditions report. -/
inductive Reason where
  | belowTarget
  | succeededRescale
  | failedRescale
  | cooldown
  | maxCapacity
  | scalingDisabled
  | dryRun
  | failedMetric
  | failedGetScale
  | ambiguous
  | validMetric
  | readyForNewScale
  | withinRange
  | invalidSpec
  | claimNotBound
  | expansionNotAllowed
  | resizeInProgress
  | awaitingFilesystemResize
deriving DecidableEq

def Reason.text : Reason → String
  | belowTarget => "BelowTarget"
  | succeededRescale => "SucceededRescale"
  | failedRescale => "FailedRescale"
  | cooldown => "Cooldown"
  | maxCapacity => "MaxCapacityReached"
  | scalingDisabled => "ScalingDisabled"
  | dryRun => "DryRun"
  | failedMetric => "FailedGetResourceMetric"
  | failedGetScale => "FailedGetScale"
  | ambiguous => "AmbiguousSelector"
  | validMetric => "ValidMetricFound"
  | readyForNewScale => "ReadyForNewScale"
  | withinRange => "DesiredWithinRange"
  | invalidSpec => "InvalidSpec"
  | claimNotBound => "ClaimNotBound"
  | expansionNotAllowed => "VolumeExpansionNotAllowed"
  | resizeInProgress => "ResizeInProgress"
  | awaitingFilesystemResize => "AwaitingFilesystemResize"

inductive ConditionType where
  | ableToScale
  | scalingActive
  | scalingLimited
deriving DecidableEq

def ConditionType.text : ConditionType → String
  | ableToScale => "AbleToScale"
  | scalingActive => "ScalingActive"
  | scalingLimited => "ScalingLimited"

structure Condition where
  type : ConditionType
  status : Bool
  reason : Reason
  message : String
  observedGeneration : Option Int
  lastTransitionTime : Time
deriving DecidableEq

/-- One target claim as observed in the latest pass. -/
structure ClaimStatus where
  name : String
  currentCapacity : Option String := none
  desiredCapacity : Option String := none
  currentUtilization : Option Int := none
  currentInodesUtilization : Option Int := none
  lastScaleTime : Option Time := none
  cooldownUntil : Option Time := none
  capacityAtLastScale : Option String := none
  trackedBy : Option String := none
  reason : Reason
  message : String := ""
deriving DecidableEq

/-- What the controller last observed and did. -/
structure ClaimAutoscalerStatus where
  target : String := ""
  utilization : String := ""
  reason : String := ""
  cooldownDuration : String := ""
  observedGeneration : Option Int := none
  lastScaleTime : Option Time := none
  currentVolumes : Int := 0
  claims : List ClaimStatus := []
  conditions : List Condition := []
deriving DecidableEq

/-- The resource: its metadata, its specification and the status last stored. -/
structure ClaimAutoscaler where
  namespace_ : String := ""
  name : String := ""
  generation : Option Int := none
  spec : ClaimAutoscalerSpec
  status : Option ClaimAutoscalerStatus := none
deriving DecidableEq

/-! ## Conditions and the summary -/

def maxMessageChars : Nat := 256

/-- A message cut to `maxMessageChars`, with the cut marked. -/
def brief (message : String) : String :=
  if message.toList.length ≤ maxMessageChars then message
  else String.ofList (message.toList.take maxMessageChars) ++ "..."

def condition (conditions : List Condition) (type : ConditionType) : Option Condition :=
  conditions.find? fun condition => condition.type = type

/-- Insert or update a condition. Its transition time moves only when its status changes. -/
def setCondition (conditions : List Condition) (type : ConditionType) (status : Bool)
    (reason : Reason) (message : String) (generation : Option Int) (now : Instant) :
    List Condition :=
  let kept := (condition conditions type).filter fun condition => condition.status = status
  let last := (kept.map (·.lastTransitionTime)).getD (k8sTime now)
  let others := conditions.eraseP fun condition => condition.type = type
  let updated := others ++
    [{ type, status, reason, message, observedGeneration := generation,
       lastTransitionTime := last }]
  updated.insertionSort fun first second => first.type.text ≤ second.type.text

def unhealthyReason (conditions : List Condition) (type : ConditionType) (healthy : Bool) :
    Option Reason :=
  ((condition conditions type).filter fun condition => condition.status ≠ healthy).map (·.reason)

/-- The reason to look at first. -/
def summaryReason (conditions : List Condition) : String :=
  if conditions = [] then ""
  else
    let first := (unhealthyReason conditions .scalingActive true).or
      ((unhealthyReason conditions .ableToScale true).or
        (unhealthyReason conditions .scalingLimited false))
    (first.map Reason.text).getD "Ready"

/-- Whether the first optional instant is after the second; none comes before every instant. -/
def isAfter : Option Instant → Option Instant → Bool
  | some first, some second => second < first
  | some _, none => true
  | none, _ => false

/-- The later of two optional times. -/
def latest : Option Time → Option Time → Option Time
  | some first, some second =>
    if isAfter (fromK8sTime second) (fromK8sTime first) then some second else some first
  | first, second => first.or second

def summaryCooldown (spec : ClaimAutoscalerSpec) : String :=
  match (spec.behavior.bind (·.scaleUp)).bind (·.cooldownDuration) with
  | none => formatCooldown defaultCooldown
  | some raw =>
    match parseCooldown raw with
    | .ok seconds => formatCooldown seconds
    | .error _ => raw

/-- The fields that are shown in one line. -/
def refreshSummary (spec : ClaimAutoscalerSpec) (status : ClaimAutoscalerStatus) :
    ClaimAutoscalerStatus :=
  let used := (status.claims.filterMap (·.currentUtilization)).max?
  let shown := (used.map fun percent => s!"{percent}%").getD "<unknown>"
  let goal := targetUtilization spec .storage
  let blocked := (condition status.conditions .ableToScale).filter fun condition =>
    condition.reason = .expansionNotAllowed
  { status with
    target := targetSummary spec.scaleTargetRef
    utilization := (goal.map fun percent => s!"{shown}/{percent}%").getD shown
    reason := (blocked.map fun condition => condition.reason.text).getD
      (summaryReason status.conditions)
    cooldownDuration := summaryCooldown spec }

/-! ## The stored form -/

/-- The scalars and arrays of a serialized status. -/
inductive Leaf where
  | text (value : String)
  | number (value : Int)
  | time (value : Time)
  | claims (value : List ClaimStatus)
  | conditions (value : List Condition)

namespace Leaf

def readText : Leaf → Option String
  | text value => some value
  | _ => none

def readNumber : Leaf → Option Int
  | number value => some value
  | _ => none

def readTime : Leaf → Option Time
  | time value => some value
  | _ => none

def readClaims : Leaf → Option (List ClaimStatus)
  | claims value => some value
  | _ => none

def readConditions : Leaf → Option (List Condition)
  | conditions value => some value
  | _ => none

end Leaf

def emptyText : Field Leaf String :=
  .skippedEmpty ⟨Leaf.text, Leaf.readText, fun _ => rfl⟩ ""

def optionalNumber : Field Leaf (Option Int) :=
  .skipped ⟨Leaf.number, Leaf.readNumber, fun _ => rfl⟩

def optionalTime : Field Leaf (Option Time) :=
  .skipped ⟨Leaf.time, Leaf.readTime, fun _ => rfl⟩

def volumeCount : Field Leaf Int :=
  .plain ⟨Leaf.number, Leaf.readNumber, fun _ => rfl⟩ (some 0)

def claimList : Field Leaf (List ClaimStatus) :=
  .skippedEmpty ⟨Leaf.claims, Leaf.readClaims, fun _ => rfl⟩ []

def conditionList : Field Leaf (List Condition) :=
  .skippedEmpty ⟨Leaf.conditions, Leaf.readConditions, fun _ => rfl⟩ []

def claimStatusSchema : Schema Leaf ClaimAutoscalerStatus :=
  Layout.schema
    (.member "target" emptyText <| .member "utilization" emptyText <|
      .member "reason" emptyText <| .member "cooldownDuration" emptyText <|
      .member "observedGeneration" optionalNumber <| .member "lastScaleTime" optionalTime <|
      .member "currentVolumes" volumeCount <| .member "claims" claimList <|
      .last "conditions" conditionList) (by decide)
    ⟨fun status => (status.target, status.utilization, status.reason, status.cooldownDuration,
      status.observedGeneration, status.lastScaleTime, status.currentVolumes, status.claims,
      status.conditions),
      fun (a, b, c, d, e, f, g, h, i) => ⟨a, b, c, d, e, f, g, h, i⟩, fun _ => rfl, fun _ => rfl⟩

/-- How times are written as text: what is read back after a time was written. Writing that
again changes nothing. -/
structure TimeText where
  held : Time → Time
  held_held : ∀ time, held (held time) = held time

/-- The status as it is read back, its times as their text holds them. -/
def ClaimAutoscalerStatus.held (text : TimeText) (status : ClaimAutoscalerStatus) :
    ClaimAutoscalerStatus :=
  { status with
    lastScaleTime := status.lastScaleTime.map text.held
    claims := status.claims.map fun claim =>
      { claim with
        lastScaleTime := claim.lastScaleTime.map text.held
        cooldownUntil := claim.cooldownUntil.map text.held }
    conditions := status.conditions.map fun condition =>
      { condition with lastTransitionTime := text.held condition.lastTransitionTime } }

def patchClaimStatus (text : TimeText) (stored : Option ClaimAutoscalerStatus)
    (new : ClaimAutoscalerStatus) : ClaimAutoscalerStatus :=
  match stored with
  | none => new.held text
  | some old => claimStatusSchema.merge old (new.held text)

theorem claims_patchClaimStatus (text : TimeText) (stored : Option ClaimAutoscalerStatus)
    (new : ClaimAutoscalerStatus) :
    (patchClaimStatus text stored new).claims =
      if new.claims = [] then (stored.map (·.claims)).getD [] else (new.held text).claims := by
  cases stored with
  | none =>
    by_cases empty : new.claims = []
    · simp [patchClaimStatus, ClaimAutoscalerStatus.held, empty]
    · simp [patchClaimStatus, empty]
  | some old =>
    change claimList.merge old.claims (new.held text).claims = _
    simp [claimList, Field.skippedEmpty, ClaimAutoscalerStatus.held]

/-! ## Settings -/

/-- The fully resolved settings of one autoscaler; the cooldown is in seconds. -/
structure Effective where
  paused : Bool
  storageTarget : Option Int
  inodesTarget : Option Int
  selectMin : Bool
  steps : List Step
  maxCapacityGib : Int
  cooldown : Nat
deriving DecidableEq

/-- The shortest cooldown in seconds. -/
def minCooldown : Nat := 60

/-- The loop over the metrics, with the names of those before. -/
def checkMetrics (seen : List ClaimResourceName) : List ClaimMetricSpec → Except String Unit
  | [] => pure ()
  | metric :: rest =>
    if metric.name ∈ seen then .error "each metrics resource name may appear once"
    else if 1 ≤ metric.averageUtilization ∧ metric.averageUtilization ≤ 100 then
      checkMetrics (metric.name :: seen) rest
    else
      .error s!"averageUtilization must be between 1 and 100, got {metric.averageUtilization}"

def compileMaxCapacity (maxCapacity : String) : Except String Int :=
  match quantityBytes maxCapacity with
  | .error error => .error s!"maxCapacity: {error}"
  | .ok bytes =>
    let size := (bytes / gib).floor
    if size < 1 then .error s!"maxCapacity must be at least 1Gi, got {maxCapacity}"
    else pure (min size maxI32)

def compileCooldown : Option String → Except String Nat
  | none => pure defaultCooldown
  | some raw =>
    match parseCooldown raw with
    | .error error => .error s!"behavior.scaleUp.cooldownDuration: {error}"
    | .ok seconds =>
      if seconds < minCooldown then
        .error s!"behavior.scaleUp.cooldownDuration {debugText raw} is shorter than 1m"
      else pure seconds

def ClaimAutoscalerSpec.rules (spec : ClaimAutoscalerSpec) : ClaimScalingRules :=
  (spec.behavior.bind (·.scaleUp)).getD {}

def compile (spec : ClaimAutoscalerSpec) : Except String Effective := do
  if 2 < spec.metrics.length then .error "metrics supports at most storage and inodes"
  checkMetrics [] spec.metrics
  let maxCapacityGib ← compileMaxCapacity spec.maxCapacity
  let cooldown ← compileCooldown spec.rules.cooldownDuration
  let steps ← compileSteps spec.rules.policies
  pure
    { paused := spec.rules.selectPolicy = .disabled
      storageTarget := targetUtilization spec .storage
      inodesTarget := targetUtilization spec .inodes
      selectMin := spec.rules.selectPolicy = .min
      steps
      maxCapacityGib
      cooldown }

/-! ## Decisions -/

/-- What the controller knows about one claim before deciding. -/
structure Claim where
  name : String
  uid : String := ""
  bound : Bool := false
  storageClass : String := ""
  expandable : Option Bool := none
  capacityBytes : Option ℚ := none
  resizing : Option String := none
  trackedBy : Option String := none
deriving DecidableEq

/-- Used percent of each resource, and the size of the filesystem that the kubelet reports. -/
structure Usage where
  storage : Option ℚ := none
  inodes : Option ℚ := none
  capacityBytes : Option ℚ := none
deriving DecidableEq

/-- What the controller recorded at the claim's last resize. -/
structure LastScale where
  at_ : Option Instant := none
  capacityBytes : Option ℚ := none
deriving DecidableEq

structure Outcome where
  reason : Reason := .belowTarget
  message : String := ""
  storage : Option Int := none
  inodes : Option Int := none
  currentGib : Option Int := none
  desiredGib : Option Int := none
  cooldownUntil : Option Instant := none
  capacityAtLastScale : Option ℚ := none
deriving DecidableEq

/-- The claim should be patched to the desired size. -/
def Outcome.resize (outcome : Outcome) : Bool := outcome.reason = .succeededRescale

def Outcome.finish (outcome : Outcome) (reason : Reason) (message : String) : Outcome :=
  { outcome with reason, message }

/-- A percentage rounded to a whole number, half away from zero. -/
def percent (value : ℚ) : Int := (max 0 (min value 100) + 1 / 2).floor

/-- Below this a reported size counts as unchanged. -/
def growthToleranceBytes : ℚ := 1048576

/-- Whether the kubelet still reports the filesystem of before the last resize. -/
def staleFilesystem (usage : Usage) (lastScale : LastScale) : Option ℚ :=
  match lastScale.capacityBytes, usage.capacityBytes with
  | some before, some bytes => if bytes ≤ before + growthToleranceBytes then some bytes else none
  | _, _ => none

/-- The recorded filesystem size once it is known not to be stale. -/
def grownCapacity (usage : Usage) (lastScale : LastScale) : Option ℚ :=
  match lastScale.capacityBytes, usage.capacityBytes with
  | some _, some _ => none
  | before, _ => before

def crossedTarget (name : String) (target value : Option Int) : Option String :=
  match target, value with
  | some target, some value =>
    if target ≤ value then some s!"{name} {value}% >= {target}%" else none
  | _, _ => none

def unexpandableMessage (claim : Claim) : String :=
  if claim.storageClass = "" then "the claim names no StorageClass"
  else if claim.expandable = none then s!"StorageClass {claim.storageClass} not found"
  else s!"StorageClass {claim.storageClass} does not set allowVolumeExpansion"

def cooldownEnd (effective : Effective) : Option Instant → Option (Option Instant)
  | none => some none
  | some last => (addDelta last (timeDelta effective.cooldown)).map some

/-- The decision for a claim whose target is crossed. -/
def decideCrossed (rfc3339 : Instant → String) (effective : Effective) (usage : Usage)
    (lastScale : LastScale) (dryRun : Bool) (now : Instant) (out : Outcome) (current : Int)
    (crossed : String) : Option Outcome :=
  if effective.paused then
    some (out.finish .scalingDisabled s!"{crossed}, but selectPolicy is Disabled")
  else
    (cooldownEnd effective lastScale.at_).map fun cooldown =>
      match cooldown.filter fun ends => now < ends with
      | some ends =>
        { out with cooldownUntil := some ends }.finish .cooldown
          s!"{crossed}, cooling down until {rfc3339 ends}"
      | none =>
        if effective.maxCapacityGib ≤ current then
          { out with desiredGib := some current }.finish .maxCapacity
            s!"{crossed}, but {current}Gi is already at maxCapacity {effective.maxCapacityGib}Gi"
        else
          let desired := min (stepUp current effective.steps effective.selectMin)
            effective.maxCapacityGib
          if dryRun then
            { out with desiredGib := some desired }.finish .dryRun
              s!"{crossed}, would grow {current}Gi to {desired}Gi"
          else
            { out with
              desiredGib := some desired
              capacityAtLastScale := usage.capacityBytes }.finish .succeededRescale
              s!"{crossed}, growing {current}Gi to {desired}Gi"

/-- The decision for a claim that can be grown and measured. -/
def decideMeasured (rfc3339 : Instant → String) (effective : Effective) (usage : Usage)
    (lastScale : LastScale) (dryRun : Bool) (now : Instant) (out : Outcome) (current : Int) :
    Option Outcome :=
  match staleFilesystem usage lastScale with
  | some bytes =>
    let size := bytesGib bytes
    some (out.finish .awaitingFilesystemResize
      s!"kubelet still reports a {size} filesystem, as before the last resize, so its utilization is stale")
  | none =>
    let out := { out with capacityAtLastScale := grownCapacity usage lastScale }
    if (effective.storageTarget.isSome && usage.storage.isSome) ||
        (effective.inodesTarget.isSome && usage.inodes.isSome) then
      let crossed := (crossedTarget "storage" effective.storageTarget out.storage).toList ++
        (crossedTarget "inodes" effective.inodesTarget out.inodes).toList
      if crossed = [] then some (out.finish .belowTarget "")
      else
        decideCrossed rfc3339 effective usage lastScale dryRun now out current
          (", ".intercalate crossed)
    else
      some (out.finish .failedMetric
        "no kubelet_volume_stats series for the claim; is a Pod mounting it?")

/-- What to do with a claim, given what was recorded at its last resize. `none` is a
panic. -/
def decideClaim (rfc3339 : Instant → String) (effective : Effective) (claim : Claim) (usage : Usage)
    (lastScale : LastScale) (dryRun : Bool) (now : Instant) : Option Outcome :=
  let currentGib := claim.capacityBytes.map ceilGib
  let out : Outcome :=
    { storage := usage.storage.map percent
      inodes := usage.inodes.map percent
      currentGib
      capacityAtLastScale := lastScale.capacityBytes }
  if claim.bound then
    match currentGib with
    | none => some (out.finish .claimNotBound "the claim reports no status.capacity.storage")
    | some current =>
      if claim.expandable = some true then
        match claim.resizing with
        | some why => some (out.finish .resizeInProgress why)
        | none => decideMeasured rfc3339 effective usage lastScale dryRun now out current
      else some (out.finish .expansionNotAllowed (unexpandableMessage claim))
  else some (out.finish .claimNotBound "the claim is not bound")

/-! ## When a claim is resized -/

section Resize

variable {rfc3339 : Instant → String} {effective : Effective} {claim : Claim} {usage : Usage}
  {lastScale : LastScale} {dryRun : Bool} {now : Instant} {out outcome : Outcome}
  {current : Int} {crossed : String}

@[simp]
theorem resize_finish (outcome : Outcome) (reason : Reason) (message : String) :
    (outcome.finish reason message).resize ↔ reason = .succeededRescale :=
  decide_eq_true_iff

/-- The cooldown of the last resize is over. -/
def Rested (effective : Effective) (lastScale : LastScale) (now : Instant) : Prop :=
  ∀ last, lastScale.at_ = some last →
    ∃ ends, addDelta last (timeDelta effective.cooldown) = some ends ∧ ends ≤ now

theorem rested_of_cooldownEnd {cooldown : Option Instant}
    (found : cooldownEnd effective lastScale.at_ = some cooldown)
    (elapsed : (cooldown.filter fun ends => now < ends) = none) :
    Rested effective lastScale now := by
  intro last recorded
  rw [recorded] at found
  obtain ⟨ends, sum, rfl⟩ := map_eq_some_iff.mp found
  refine ⟨ends, sum, ?_⟩
  simpa [filter_some] using elapsed

/-- The claim is grown: its cooldown is over, it is below the limit, and the size of its
filesystem is recorded. -/
structure Grows (effective : Effective) (usage : Usage) (lastScale : LastScale) (now : Instant)
    (current : Int) (outcome : Outcome) : Prop where
  resized : outcome.resize = true
  rested : Rested effective lastScale now
  below : current < effective.maxCapacityGib
  desired : outcome.desiredGib =
    some (min (stepUp current effective.steps effective.selectMin) effective.maxCapacityGib)
  recorded : outcome.capacityAtLastScale = usage.capacityBytes

/-- The claim is left as it is, with the given record of its filesystem. -/
def Stays (record : Option ℚ) (outcome : Outcome) : Prop :=
  outcome.resize = false ∧ outcome.capacityAtLastScale = record

theorem stays_finish {reason : Reason} (outcome : Outcome) (message : String)
    (other : reason ≠ .succeededRescale) :
    Stays outcome.capacityAtLastScale (outcome.finish reason message) := by
  refine ⟨?_, rfl⟩
  rw [← Bool.not_eq_true, resize_finish]
  exact other

theorem decideCrossed_cases
    (decided : decideCrossed rfc3339 effective usage lastScale dryRun now out current crossed =
      some outcome) :
    Stays out.capacityAtLastScale outcome ∨
      Grows effective usage lastScale now current outcome := by
  unfold decideCrossed at decided
  split at decided
  · cases decided
    exact .inl (stays_finish _ _ (by simp))
  · obtain ⟨cooldown, found, rfl⟩ := map_eq_some_iff.mp decided
    cases elapsed : cooldown.filter fun ends => now < ends with
    | some => exact .inl (stays_finish _ _ (by simp))
    | none =>
      dsimp only
      split
      · exact .inl (stays_finish _ _ (by simp))
      next below =>
        split
        · exact .inl (stays_finish _ _ (by simp))
        · exact .inr
            { resized := rfl
              rested := rested_of_cooldownEnd found elapsed
              below := Int.not_le.mp below
              desired := rfl
              recorded := rfl }

theorem decideMeasured_cases
    (decided : decideMeasured rfc3339 effective usage lastScale dryRun now out current =
      some outcome) :
    (∃ bytes, staleFilesystem usage lastScale = some bytes ∧
        Stays out.capacityAtLastScale outcome) ∨
      staleFilesystem usage lastScale = none ∧
        (Stays (grownCapacity usage lastScale) outcome ∨
          Grows effective usage lastScale now current outcome) := by
  unfold decideMeasured at decided
  split at decided
  next bytes stale =>
    cases decided
    exact .inl ⟨bytes, stale, stays_finish _ _ (by simp)⟩
  next fresh =>
    refine .inr ⟨fresh, ?_⟩
    dsimp only at decided
    split at decided
    · split at decided
      · cases decided
        exact .inl (stays_finish _ _ (by simp))
      · exact decideCrossed_cases decided
    · cases decided
      exact .inl (stays_finish _ _ (by simp))

section

variable (decided : decideClaim rfc3339 effective claim usage lastScale dryRun now = some outcome)
include decided

theorem decideClaim_cases :
    Stays lastScale.capacityBytes outcome ∨
      staleFilesystem usage lastScale = none ∧
        (Stays (grownCapacity usage lastScale) outcome ∨
          ∃ bytes, claim.capacityBytes = some bytes ∧
            Grows effective usage lastScale now (ceilGib bytes) outcome) := by
  unfold decideClaim at decided
  dsimp only at decided
  split at decided
  · split at decided
    · cases decided
      exact .inl (stays_finish _ _ (by simp))
    next current sized =>
      split at decided
      · split at decided
        · cases decided
          exact .inl (stays_finish _ _ (by simp))
        · obtain ⟨bytes, measured, rfl⟩ := map_eq_some_iff.mp sized
          rcases decideMeasured_cases decided with ⟨_, _, stays⟩ | ⟨fresh, stays | grows⟩
          · exact .inl stays
          · exact .inr ⟨fresh, .inl stays⟩
          · exact .inr ⟨fresh, .inr ⟨bytes, measured, grows⟩⟩
      · cases decided
        exact .inl (stays_finish _ _ (by simp))
  · cases decided
    exact .inl (stays_finish _ _ (by simp))

theorem grows_of_decideClaim (resized : outcome.resize) :
    ∃ bytes, claim.capacityBytes = some bytes ∧
      Grows effective usage lastScale now (ceilGib bytes) outcome := by
  rcases decideClaim_cases decided with ⟨kept, -⟩ | ⟨-, ⟨kept, -⟩ | grows⟩
  · simp [resized] at kept
  · simp [resized] at kept
  · exact grows

theorem rested_of_decideClaim (resized : outcome.resize) : Rested effective lastScale now := by
  obtain ⟨_, _, grows⟩ := grows_of_decideClaim decided resized
  exact grows.rested

end

section

variable (fits : (cooldownEnd effective lastScale.at_).isSome)
include fits

theorem isSome_decideCrossed :
    (decideCrossed rfc3339 effective usage lastScale dryRun now out current crossed).isSome := by
  unfold decideCrossed
  split
  · rfl
  · rwa [isSome_map]

theorem isSome_decideMeasured :
    (decideMeasured rfc3339 effective usage lastScale dryRun now out current).isSome := by
  unfold decideMeasured
  split
  · rfl
  · dsimp only
    split
    · split
      · rfl
      · exact isSome_decideCrossed fits
    · rfl

theorem isSome_decideClaim :
    (decideClaim rfc3339 effective claim usage lastScale dryRun now).isSome := by
  unfold decideClaim
  dsimp only
  split
  · split
    · rfl
    · split
      · split
        · rfl
        · exact isSome_decideMeasured fits
      · rfl
  · rfl

end

end Resize

end

open List

/-! ## The status of one pass -/

/-- Why an autoscaler as a whole is not scaling. -/
structure Inactive where
  reason : Reason
  message : String
deriving DecidableEq

def entry (claim : Claim) (outcome : Outcome) (scaledAt : Option Instant) : ClaimStatus :=
  { name := claim.name
    currentCapacity := claim.capacityBytes.map fun bytes => gibQuantity (ceilGib bytes)
    desiredCapacity := outcome.desiredGib.map gibQuantity
    currentUtilization := outcome.storage
    currentInodesUtilization := outcome.inodes
    lastScaleTime := scaledAt.map k8sTime
    cooldownUntil := outcome.cooldownUntil.map k8sTime
    capacityAtLastScale := outcome.capacityAtLastScale.map bytesQuantity
    trackedBy := claim.trackedBy
    reason := outcome.reason
    message := brief outcome.message }

/-- Mark the autoscaler unable to scale because of a storage class. -/
def blockExpansion (status : ClaimAutoscalerStatus) (blockers : List String)
    (generation : Option Int) (now : Instant) : ClaimAutoscalerStatus :=
  { status with
    conditions := setCondition status.conditions .ableToScale false .expansionNotAllowed
      (brief ("; ".intercalate blockers)) generation now }

def plural (count : Nat) : String := if count = 1 then "claim" else "claims"

def previousTime (claims : List ClaimStatus) (name : String) : Option Time :=
  claims.reverse.findSome? fun claim => if claim.name = name then claim.lastScaleTime else none

/-- An entry without a resize takes over the recorded time. -/
def ClaimStatus.carry (previous : List ClaimStatus) (claim : ClaimStatus) : ClaimStatus :=
  { claim with lastScaleTime := claim.lastScaleTime.or (previousTime previous claim.name) }

/-- The entries by name, with the recorded times taken over. -/
def carriedEntries (previous : List ClaimStatus) (entries : List ClaimStatus) :
    List ClaimStatus :=
  (entries.insertionSort fun first second => first.name ≤ second.name).map
    (ClaimStatus.carry previous)

def reasonCount (entries : List ClaimStatus) (reason : Reason) : Nat :=
  entries.countP fun claim => claim.reason = reason

def activeCondition (entries : List ClaimStatus) : Option Inactive → Bool × Reason × String
  | some inactive => (false, inactive.reason, brief inactive.message)
  | none =>
    if entries = [] then
      (false, .failedGetScale, "scaleTargetRef selects no PersistentVolumeClaim")
    else if reasonCount entries .failedMetric = entries.length then
      (false, .failedMetric, "kubelet_volume_stats has no series for any target claim")
    else
      (true, .validMetric,
        s!"measuring utilization of {entries.length} {plural entries.length}")

def ableCondition (entries : List ClaimStatus) (inactive : Option Inactive) :
    Bool × Reason × String :=
  let failed := reasonCount entries .failedRescale
  let cooling := reasonCount entries .cooldown
  let resized := reasonCount entries .succeededRescale
  match inactive.filter fun inactive => inactive.reason = .failedGetScale with
  | some missing => (false, .failedGetScale, brief missing.message)
  | none =>
    if 0 < failed then (false, .failedRescale, s!"{failed} {plural failed} failed to resize")
    else if 0 < cooling then
      (false, .cooldown, s!"{cooling} {plural cooling} wait for the cooldown")
    else if 0 < resized then
      (true, .succeededRescale, s!"{resized} {plural resized} resized")
    else (true, .readyForNewScale, "the controller can resize any target claim")

def limitedCondition (entries : List ClaimStatus) : Bool × Reason × String :=
  let limited := reasonCount entries .maxCapacity
  if 0 < limited then (true, .maxCapacity, s!"{limited} {plural limited} at maxCapacity")
  else (false, .withinRange, "every desired capacity is within maxCapacity")

def build (previous : Option ClaimAutoscalerStatus) (generation : Option Int)
    (entries : List ClaimStatus) (inactive : Option Inactive) (now : Instant) :
    ClaimAutoscalerStatus :=
  let entries := carriedEntries ((previous.map (·.claims)).getD []) entries
  let last := entries.foldl (fun last claim => latest last claim.lastScaleTime)
    (previous.bind (·.lastScaleTime))
  let set (type : ConditionType) (value : Bool × Reason × String) (conditions : List Condition) :=
    setCondition conditions type value.1 value.2.1 value.2.2 generation now
  let conditions := (previous.map (·.conditions)).getD []
  { observedGeneration := generation
    lastScaleTime := last
    currentVolumes := min entries.length maxI32
    claims := entries
    conditions :=
      set .scalingLimited (limitedCondition entries)
        (set .ableToScale (ableCondition entries inactive)
          (set .scalingActive (activeCondition entries inactive) conditions)) }

/-! ## The recorded times -/

def recordedTime (claims : List ClaimStatus) (name : String) : Option Time :=
  (claims.reverse.find? fun claim => claim.name = name).bind (·.lastScaleTime)

variable {claims : List ClaimStatus}

theorem previousTime_of_recordedTime {name : String} {time : Time}
    (recorded : recordedTime claims name = some time) : previousTime claims name = some time := by
  unfold recordedTime at recorded
  unfold previousTime
  generalize claims.reverse = claims at recorded
  induction claims with
  | nil => simp at recorded
  | cons claim _ ih =>
    by_cases named : claim.name = name
    · have found : claim.lastScaleTime = some time := by simpa [named] using recorded
      simp [named, found]
    · have rest := ih (by simpa [named] using recorded)
      simpa [named] using rest

theorem find?_eq_of_mem {claim : ClaimStatus} (distinct : (claims.map (·.name)).Nodup)
    (member : claim ∈ claims) :
    (claims.find? fun other => other.name = claim.name) = some claim := by
  induction claims with
  | nil => cases member
  | cons first _ ih =>
    simp only [map_cons, nodup_cons, mem_map, not_exists, not_and] at distinct
    rcases mem_cons.mp member with rfl | later
    · simp
    · have different : first.name ≠ claim.name := fun same => distinct.1 claim later same.symm
      simpa [different] using ih distinct.2 later

theorem recordedTime_of_mem {claim : ClaimStatus} (distinct : (claims.map (·.name)).Nodup)
    (member : claim ∈ claims) : recordedTime claims claim.name = claim.lastScaleTime := by
  have reversed : (claims.reverse.map (·.name)).Nodup := by
    rw [map_reverse]
    exact nodup_reverse.mpr distinct
  simp [recordedTime, find?_eq_of_mem reversed (mem_reverse.mpr member)]

variable {previous entries : List ClaimStatus}

theorem mem_carriedEntries {claim : ClaimStatus} :
    claim ∈ carriedEntries previous entries ↔ ∃ found ∈ entries, found.carry previous = claim := by
  simp [carriedEntries]

theorem carriedEntries_eq_nil : carriedEntries previous entries = [] ↔ entries = [] := by
  rw [carriedEntries, map_eq_nil_iff, ← length_eq_zero_iff, length_insertionSort,
    length_eq_zero_iff]

theorem nodup_carriedEntries (distinct : (entries.map (·.name)).Nodup) :
    ((carriedEntries previous entries).map (·.name)).Nodup := by
  have sorted : ((carriedEntries previous entries).map (·.name)).Perm (entries.map (·.name)) := by
    rw [carriedEntries, map_map]
    exact (perm_insertionSort _ entries).map _
  exact sorted.nodup_iff.mpr distinct

structure ClaimCondition where
  type : String
  status : String
  message : Option String := none
deriving DecidableEq

structure ClaimObjectStatus where
  phase : Option String := none
  conditions : List ClaimCondition := []
  allocatedStatus : Option String := none
  capacity : Option String := none
deriving DecidableEq

structure PersistentVolumeClaim where
  name : String
  uid : String := ""
  /-- The value of the Argo CD tracking annotation. -/
  trackingId : Option String := none
  storageClassName : Option String := none
  /-- `spec.resources.requests.storage`. -/
  requests : Option String := none
  status : Option ClaimObjectStatus := none
deriving DecidableEq

/-- One of a stateful set's `volumeClaimTemplates`. -/
structure VolumeClaimTemplate where
  name : Option String
  storageClassName : Option String := none
deriving DecidableEq

structure StatefulSet where
  name : String
  volumeClaimTemplates : List VolumeClaimTemplate := []
deriving DecidableEq

/-- Each storage class with its `allowVolumeExpansion`, and the default class. -/
structure StorageClasses where
  expandable : List (String × Bool) := []
  default : Option String := none
deriving DecidableEq

/-! ## The policy input of a claim -/

/-- The application in a tracking annotation, when it is a valid name. -/
def trackingApp (id : String) : Option String :=
  let app := id.toList.takeWhile (· != ':')
  let alphanumeric (character : Char) : Bool := character.isLower || character.isDigit
  if app ≠ [] ∧ app.length ≤ 253 ∧
      app.all (fun character => alphanumeric character || character == '-' || character == '.') ∧
      app.head?.any alphanumeric ∧ app.getLast?.any alphanumeric then
    some (String.ofList app)
  else none

def storageOf (quantity : Option String) : Option ℚ :=
  quantity.bind fun quantity => (quantityBytes quantity).toOption

/-- Resize states that are reported on a claim. -/
def resizeConditions : List String :=
  ["Resizing", "FileSystemResizePending", "ControllerResizeError", "NodeResizeError"]

def conditionMessage (condition : ClaimCondition) : String :=
  match condition.message.filter (· ≠ "") with
  | some message => s!"{condition.type}: {message}"
  | none => condition.type

/-- Why a previous resize of the claim has not finished, if it has not. -/
def resizing (object : PersistentVolumeClaim) : Option String := do
  let status ← object.status
  match status.conditions.find? fun condition =>
      condition.status = "True" ∧ condition.type ∈ resizeConditions with
  | some condition => some (conditionMessage condition)
  | none =>
    match status.allocatedStatus with
    | some allocated => some s!"allocatedResourceStatuses.storage is {allocated}"
    | none => do
        let requested ← storageOf object.requests
        let capacity ← storageOf status.capacity
        let requestedText := roundHalfEven requested
        let capacityText := roundHalfEven capacity
        if capacity < requested then
          some s!"requested {requestedText} bytes, capacity {capacityText} bytes"
        else none

def claim (object : PersistentVolumeClaim) (classes : StorageClasses) : Claim :=
  let storageClass := object.storageClassName.getD ""
  { name := object.name
    uid := object.uid
    bound := (object.status.bind (·.phase)) = some "Bound"
    expandable := classes.expandable.lookup storageClass
    storageClass
    capacityBytes := storageOf (object.status.bind (·.capacity))
    resizing := resizing object
    trackedBy := object.trackingId.bind trackingApp }

/-! ## The claims of a target -/

/-- Whether a claim is called `<template>-<statefulset>-<ordinal>`. -/
def hasOrdinal (start name : String) : Bool :=
  let ordinal := name.toList.drop start.toList.length
  start.toList.isPrefixOf name.toList && ordinal ≠ [] && ordinal.all Char.isDigit

def statefulSetClaims (statefulSet : StatefulSet) (claims : List String) : List String :=
  let starts := (statefulSet.volumeClaimTemplates.filterMap (·.name)).map fun template =>
    s!"{template}-{statefulSet.name}-"
  claims.filter fun name => starts.any fun start => hasOrdinal start name

/-- The claims that a target names, or why the target does not exist. -/
def resolve (target : ClaimTargetRef) (claims : List String) (statefulSets : List StatefulSet) :
    Except String (List String) :=
  match target.kind with
  | .persistentVolumeClaim =>
    if target.name ∈ claims then pure [target.name]
    else .error s!"PersistentVolumeClaim {target.name} not found"
  | .statefulSet =>
    match statefulSets.find? fun statefulSet => statefulSet.name = target.name with
    | some statefulSet => pure (statefulSetClaims statefulSet claims)
    | none => .error s!"StatefulSet {target.name} not found"

/-- What a target's stateful set asks of classes that do not allow expansion. -/
def templateBlockers (target : ClaimTargetRef) (statefulSets : List StatefulSet)
    (classes : StorageClasses) : List (String × String) :=
  match target.kind, statefulSets.find? fun statefulSet => statefulSet.name = target.name with
  | .statefulSet, some statefulSet =>
    statefulSet.volumeClaimTemplates.filterMap fun template =>
      let storageClass := (template.storageClassName.or classes.default).getD ""
      let name := template.name.getD ""
      if classes.expandable.lookup storageClass = some true then none
      else some (storageClass, s!"volumeClaimTemplate {name}")
  | _, _ => []

/-- Why the target cannot be grown, one line for each storage class. -/
def expansionBlockers (target : ClaimTargetRef) (statefulSets : List StatefulSet)
    (claims : List Claim) (classes : StorageClasses) : List String :=
  let blocked := (claims.filter fun claim => claim.expandable ≠ some true).map fun claim =>
    (claim.storageClass, claim.name)
  let subjects := blocked ++ templateBlockers target statefulSets classes
  let names := ((subjects.map Prod.fst).dedup).insertionSort (· ≤ ·)
  names.map fun storageClass =>
    let why :=
      if storageClass = "" then "no StorageClass is named and the cluster has no default"
      else if (classes.expandable.lookup storageClass).isSome then
        s!"StorageClass {storageClass} does not set allowVolumeExpansion"
      else s!"StorageClass {storageClass} not found"
    let list := ", ".intercalate ((subjects.filter fun subject =>
      subject.1 = storageClass).map Prod.snd)
    s!"{why} ({list})"

/-! ## Utilization samples -/

inductive Series where
  | storage
  | inodes
  | capacity
deriving DecidableEq

/-- The finite sample of a claim; the last one counts. -/
def sampleOf (samples : List (String × ℚ)) (name : String) : Option ℚ :=
  samples.reverse.lookup name

/-- The utilization of each claim, from the series that the settings ask for. -/
def usage (query : Series → Except String (List (String × ℚ))) (effective : Effective) :
    Except String (String → Usage) := do
  let asked (wanted : Bool) (series : Series) : Except String (List (String × ℚ)) :=
    if wanted then query series else pure []
  let storage ← asked effective.storageTarget.isSome .storage
  let inodes ← asked effective.inodesTarget.isSome .inodes
  let capacity ← asked (effective.storageTarget.isSome || effective.inodesTarget.isSome) .capacity
  pure fun name =>
    { storage := sampleOf storage name
      inodes := sampleOf inodes name
      capacityBytes := sampleOf capacity name }

end Addons.VolumeAutoscaler
