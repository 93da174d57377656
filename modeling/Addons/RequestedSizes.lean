import Addons.ClaimAutoscaler

/-!
# The sizes that are requested

Both controllers take one step from the current size and compare it with their limit.
-/

namespace Addons.VolumeAutoscaler

/-! ## The instance volume autoscaler -/

/-- A quantity rounded up to whole GiB. -/
def quantityGib (quantity : String) : Except String Int := do
  let bytes ← quantityBytes quantity
  let size := (bytes / gib).ceil
  if 0 ≤ size ∧ size ≤ maxI32 then pure size
  else .error s!"quantity {debugText (TextParsing.trim quantity)} out of range"

inductive TargetKind where
  | ec2Instance
  | tagSelector
deriving DecidableEq

/-- One instance by its id, or every instance that carries all of the tags. -/
structure ScaleTargetRef where
  kind : TargetKind
  name : Option String := none
  tags : Option (List (String × String)) := none
deriving DecidableEq

structure ScalingRules where
  selectPolicy : SelectPolicy := .max
  policies : List ScalingPolicy := []
  cooldownDuration : Option String := none
deriving DecidableEq

structure InstanceAutoscalerSpec where
  scaleTargetRef : ScaleTargetRef
  maxCapacity : String
  /-- The utilization targets of the metrics, which are all for storage. -/
  metrics : List Int := []
  scaleUp : Option ScalingRules := none
deriving DecidableEq

structure InstanceAutoscaler where
  name : String := ""
  spec : InstanceAutoscalerSpec
deriving DecidableEq

inductive Target where
  | ec2Instance (id : String)
  | tags (tags : List (String × String))
deriving DecidableEq

/-- The fully resolved settings of one autoscaler; the cooldown is in seconds. -/
structure InstanceEffective where
  policy : String
  paused : Bool
  usageThresholdPercent : Int
  selectMin : Bool
  steps : List Step
  maxVolumeSizeGib : Int
  cooldown : Nat
deriving DecidableEq

structure Compiled where
  target : Target
  effective : InstanceEffective
deriving DecidableEq

/-- The shortest cooldown of a volume, and the one when none is given. -/
def minVolumeCooldown : Nat := 21600

def isInstanceId (id : String) : Bool :=
  let digits := id.toList.drop 2
  "i-".toList.isPrefixOf id.toList && decide (8 ≤ digits.length ∧ digits.length ≤ 17) &&
    digits.all fun digit => digit.isDigit || ('a' ≤ digit && digit ≤ 'f')

def compileTarget (target : ScaleTargetRef) : Except String Target :=
  match target.kind with
  | .ec2Instance =>
    if target.tags.isSome then .error "scaleTargetRef.tags is not allowed with kind Instance"
    else
      match target.name with
      | some id =>
        if isInstanceId id then pure (.ec2Instance id)
        else .error s!"scaleTargetRef.name {debugText id} is not an EC2 instance ID"
      | none => .error "scaleTargetRef.name is required with kind Instance"
  | .tagSelector =>
    let tags := target.tags.getD []
    if target.name.isSome then
      .error "scaleTargetRef.name is not allowed with kind TagSelector"
    else if tags = [] then .error "scaleTargetRef.tags is required with kind TagSelector"
    else if tags.any fun tag => tag.1 = "" ∨ tag.2 = "" then
      .error "scaleTargetRef.tags entries need a non-empty key and value"
    else if 50 < tags.length ∨
        tags.any (fun tag => 128 < tag.1.utf8ByteSize ∨ 256 < tag.2.utf8ByteSize) then
      .error "scaleTargetRef.tags allows up to 50 tags with keys up to 128 and values up to 256 characters"
    else pure (.tags tags)

def cooldownOf : Option String → Except String Nat
  | none => pure minVolumeCooldown
  | some raw =>
    match parseCooldown raw with
    | .error error => .error s!"behavior.scaleUp.cooldownDuration: {error}"
    | .ok seconds =>
      if seconds < minVolumeCooldown then
        .error s!"behavior.scaleUp.cooldownDuration {debugText raw} is shorter than 6h, which keeps a volume within the EBS limit of four modifications in 24 hours"
      else pure seconds

/-- The limit in GiB, rounded up. -/
def compileMaxVolumeSize (maxCapacity : String) : Except String Int :=
  match quantityGib maxCapacity with
  | .error error => .error s!"maxCapacity: {error}"
  | .ok size =>
    if ((quantityBytes maxCapacity).toOption.getD 0) < gib then
      .error "maxCapacity must be at least 1Gi"
    else pure size

def compileThreshold (metrics : List Int) : Except String Int :=
  let threshold := metrics.head?.getD 80
  if 1 < metrics.length then .error "metrics supports a single storage metric"
  else if 1 ≤ threshold ∧ threshold ≤ 100 then pure threshold
  else .error s!"averageUtilization must be between 1 and 100, got {threshold}"

def InstanceAutoscalerSpec.rules (spec : InstanceAutoscalerSpec) : ScalingRules :=
  spec.scaleUp.getD {}

def compileInstance (autoscaler : InstanceAutoscaler) : Except String Compiled := do
  let spec := autoscaler.spec
  let target ← compileTarget spec.scaleTargetRef
  let maxVolumeSizeGib ← compileMaxVolumeSize spec.maxCapacity
  let usageThresholdPercent ← compileThreshold spec.metrics
  let steps ← compileSteps spec.rules.policies
  let cooldown ← cooldownOf spec.rules.cooldownDuration
  pure
    { target
      effective :=
        { policy := autoscaler.name
          paused := spec.rules.selectPolicy = .disabled
          usageThresholdPercent
          selectMin := spec.rules.selectPolicy = .min
          steps
          maxVolumeSizeGib
          cooldown } }

/-- A discovered instance; the size of its root volume is an `i32` that is not negative. -/
structure Instance where
  id : String
  name : String := ""
  rootVolumeId : String := ""
  rootVolumeSizeGib : Int
  sizeInRange : 0 ≤ rootVolumeSizeGib ∧ rootVolumeSizeGib ≤ maxI32

structure VolumeModification where
  state : String
  startTime : Option Instant
deriving DecidableEq

/-- The size of a volume and, when they are not zero, its throughput and IOPS. -/
structure ModifySpec where
  sizeGib : Int
  throughputMibps : Int := 0
  iops : Int := 0
deriving DecidableEq

structure Recommendation where
  action : String
  throughputMibps : Int
  iops : Int
  currentMibps : Int
deriving DecidableEq

structure CordonNode where
  name : String
  unschedulable : Bool := false
  /-- The Node carries the mark of the protective cordon. -/
  protective : Bool := false
  condition : Option Bool := none
deriving DecidableEq

inductive NodeCall where
  | cordon
  | uncordon
  | forget
  | setCondition (status : Bool) (reason message : String)
deriving DecidableEq

/-- A request that changes something, and whether it was accepted. -/
inductive Call where
  | node (name : String) (call : NodeCall) (accepted : Bool)
  | modifyVolume (volume : String) (spec : ModifySpec) (accepted : Bool)
deriving DecidableEq

inductive InstanceReason where
  | noRootVolume
  | of (reason : Reason)
deriving DecidableEq

/-- What happened to one instance during a pass. -/
structure Observation where
  capacityGib : Int
  usage : Option Int := none
  desiredGib : Option Int := none
  reason : Option InstanceReason := none
  message : String := ""
  scaledAt : Option Instant := none
  cooldownUntil : Option Instant := none
deriving DecidableEq

def Observation.set (observation : Observation) (reason : Reason) (message : String) :
    Observation :=
  { observation with reason := some (.of reason), message }

inductive Ending where
  | done
  | failed (error : String)
  | panicked
deriving DecidableEq

structure Reconciled where
  observation : Observation
  ending : Ending := .done
  calls : List Call := []

/-- The settings, the clock, and what is answered to each request of the flow. -/
structure InstanceAnswers where
  dryRun : Bool := false
  /-- The text of an instant, and of a cooldown's end. -/
  rfc3339 : Instant → String := fun _ => ""
  now : Instant
  /-- The output of the measure script. -/
  measured : Except String String
  lastModification : Except String (Option VolumeModification) := pure none
  /-- The recommendation that may ride along, when there is a fresh one. -/
  recommendation : Option Recommendation := none
  modifyCombined : Except String Unit := pure ()
  modifySize : Except String Unit := pure ()
  waited : Except String Unit := pure ()
  expanded : Except String Unit := pure ()
  measuredAfter : Except String String := pure "0"
  cordoned : Except String Unit := pure ()
  uncordoned : Except String Unit := pure ()
  forgotten : Except String Unit := pure ()
  conditionApplied : Except String Unit := pure ()
  conditionReleased : Except String Unit := pure ()

/-! ## The protective cordon -/

def accepted : Except String Unit → Bool
  | .ok _ => true
  | .error _ => false

/-- Cordon the Node unless it carries the mark or someone else has cordoned it. -/
def cordonNode (answers : InstanceAnswers) (node : CordonNode) : CordonNode × List Call :=
  if node.protective ∨ node.unschedulable ∨ answers.dryRun then (node, [])
  else
    (if accepted answers.cordoned then { node with unschedulable := true, protective := true }
      else node,
      [.node node.name .cordon (accepted answers.cordoned)])

/-- Lift the cordon of a Node with the mark, or drop the mark when someone else has. -/
def uncordonNode (answers : InstanceAnswers) (node : CordonNode) : CordonNode × List Call :=
  if ¬ node.protective ∨ answers.dryRun then (node, [])
  else if node.unschedulable then
    (if accepted answers.uncordoned then { node with unschedulable := false, protective := false }
      else node,
      [.node node.name .uncordon (accepted answers.uncordoned)])
  else
    (if accepted answers.forgotten then { node with protective := false } else node,
      [.node node.name .forget (accepted answers.forgotten)])

/-- The reason and the message of the condition that is written. -/
def conditionTexts (node : CordonNode) (under : Bool) : String × String :=
  if node.protective then
    ("ProtectiveCordonApplied",
      "volume-autoscaler has cordoned the node for high root filesystem usage")
  else if node.condition = none then
    ("ProtectiveCordonNotNeeded",
      "volume-autoscaler has no cordon as root filesystem usage is under the threshold")
  else if under ∧ ¬ node.unschedulable then
    ("ProtectiveCordonReleased",
      "volume-autoscaler has no cordon as root filesystem usage is back under the threshold")
  else
    ("ProtectiveCordonMarkRemoved",
      "volume-autoscaler has no cordon as its mark was removed by someone else")

/-- Write the condition when it disagrees with the mark. -/
def syncProtectiveCondition (dryRun : Bool) (answer : Except String Unit)
    (effective : InstanceEffective) (usage : Int) (node : CordonNode) : CordonNode × List Call :=
  let under : Bool := usage < effective.usageThresholdPercent
  if node.condition = some node.protective ∨
      (¬ node.protective ∧ node.condition = none ∧ ¬ under) ∨ dryRun then (node, [])
  else
    let texts := conditionTexts node under
    (if accepted answer then { node with condition := some node.protective } else node,
      [.node node.name (.setCondition node.protective texts.1 texts.2) (accepted answer)])

/-- Cordon the Node, then bring its condition in line. -/
def applyProtectiveCordon (answers : InstanceAnswers) (effective : InstanceEffective)
    (usage : Int) : Option CordonNode → Option CordonNode × List Call
  | none => (none, [])
  | some node =>
    let changed := cordonNode answers node
    let synced := syncProtectiveCondition answers.dryRun answers.conditionApplied effective usage
      changed.1
    (some synced.1, changed.2 ++ synced.2)

/-- Lift the cordon of the Node, then bring its condition in line. -/
def releaseProtectiveCordon (answers : InstanceAnswers) (effective : InstanceEffective)
    (usage : Int) : Option CordonNode → Option CordonNode × List Call
  | none => (none, [])
  | some node =>
    let changed := uncordonNode answers node
    let synced := syncProtectiveCondition answers.dryRun answers.conditionReleased effective usage
      changed.1
    (some synced.1, changed.2 ++ synced.2)

/-! ## The resize -/

def parseUsagePercent (output : String) : Except String Int :=
  let text := TextParsing.trim (String.ofList ((TextParsing.trim output).toList.reverse.dropWhile
    (· == '%')).reverse)
  if text = "" then .error "empty usage output"
  else
    match parseI32 text.toList with
    | none => .error s!"parse usage {debugText output}"
    | some value =>
      if 0 ≤ value ∧ value ≤ 100 then pure value else .error s!"usage {value} out of range"

def measureUsage (output : Except String String) : Except String Int := do
  parseUsagePercent (← output)

/-- Whether the volume must wait: until when, or for a modification in progress. The outer
`none` is the panic of an instant that is out of range. -/
def cooldownBlock (now : Instant) (cooldown : Nat) :
    Option VolumeModification → Option (Option (Option Instant))
  | none => some none
  | some modification =>
    if modification.state = "modifying" ∨ modification.state = "optimizing" then
      some (some none)
    else
      match modification.startTime with
      | none => some none
      | some start =>
        (addDelta start (timeDelta cooldown)).map fun ends =>
          if now < ends then some (some ends) else none

/-- The recommendation to fold into a modification: only ever an increase. -/
def throughputPiggyback (recommendation : Option Recommendation) : Option Recommendation :=
  recommendation.filter fun found =>
    found.action = "increase" ∧ found.currentMibps < found.throughputMibps

def targetSize (current : Int) (effective : InstanceEffective) : Int :=
  stepUp current effective.steps effective.selectMin

/-- The modification requests: a combined one falls back to the size alone. -/
def modifyVolume (answers : InstanceAnswers) (volume : String) (target : Int) :
    Except String Unit × List Call :=
  let sizeOnly : ModifySpec := { sizeGib := target }
  let alone := Call.modifyVolume volume sizeOnly (accepted answers.modifySize)
  match throughputPiggyback answers.recommendation with
  | none => (answers.modifySize, [alone])
  | some found =>
    let combined := Call.modifyVolume volume
      { sizeGib := target, throughputMibps := found.throughputMibps, iops := found.iops }
      (accepted answers.modifyCombined)
    if accepted answers.modifyCombined then (pure (), [combined])
    else (answers.modifySize, [combined, alone])

/-- Grow the volume and its filesystem, and measure again. -/
def growVolume (answers : InstanceAnswers) (target : Instance) (effective : InstanceEffective)
    (node : Option CordonNode) (usage desired : Int) (observation : Observation) : Reconciled :=
  let current := target.rootVolumeSizeGib
  let modified := modifyVolume answers target.rootVolumeId desired
  match modified.1, answers.waited, answers.expanded with
  | .error error, _, _ =>
    { observation, ending := .failed s!"modify volume: {error}", calls := modified.2 }
  | _, .error error, _ =>
    { observation, ending := .failed s!"wait for modification: {error}", calls := modified.2 }
  | _, _, .error error =>
    { observation, ending := .failed s!"resize filesystem: {error}", calls := modified.2 }
  | .ok _, .ok _, .ok _ =>
    let after := measureUsage answers.measuredAfter
    let released :=
      match after with
      | .ok after =>
        if after < effective.usageThresholdPercent then
          (releaseProtectiveCordon answers effective after node).2
        else []
      | .error _ => []
    let calls := modified.2 ++ released
    match addDelta answers.now (timeDelta effective.cooldown) with
    | none => { observation, ending := .panicked, calls }
    | some ends =>
      { observation :=
          { observation with
            capacityGib := desired
            usage := some (after.toOption.getD 0)
            scaledAt := some answers.now
            cooldownUntil := some ends }.set .succeededRescale
            s!"grew from {current} GiB to {desired} GiB at {usage}% usage"
        calls }

def reconcileCrossed (answers : InstanceAnswers) (target : Instance) (effective : InstanceEffective)
    (node : Option CordonNode) (usage : Int) (observation : Observation) :
    Reconciled :=
  let desired := targetSize target.rootVolumeSizeGib effective
  let observation := { observation with desiredGib := some desired }
  if effective.maxVolumeSizeGib < desired then
    { observation := observation.set .maxCapacity
        s!"{desired} GiB would exceed maxCapacity {effective.maxVolumeSizeGib} GiB" }
  else
    match answers.lastModification with
    | .error error => { observation, ending := .failed s!"check cooldown: {error}" }
    | .ok last =>
      match cooldownBlock answers.now effective.cooldown last with
      | none => { observation, ending := .panicked }
      | some (some blocked) =>
        let cooldown := formatCooldown effective.cooldown
        let message :=
          match blocked with
          | none => "a modification of the volume is still in progress"
          | some ends => s!"the volume was modified within the {cooldown} cooldown, next modification after {answers.rfc3339 ends}"
        { observation :=
            { observation with cooldownUntil := blocked }.set .cooldown message }
      | some none =>
        if answers.dryRun then
          { observation := observation.set .dryRun s!"would grow to {desired} GiB" }
        else growVolume answers target effective node usage desired observation

def reconcileInstance (answers : InstanceAnswers) (target : Instance)
    (effective : InstanceEffective) (node : Option CordonNode) : Reconciled :=
  let observation : Observation := { capacityGib := target.rootVolumeSizeGib }
  if target.rootVolumeId = "" then
    { observation :=
        { observation with
          reason := some .noRootVolume, message := "no root EBS volume resolved" } }
  else if effective.paused then
    { observation := observation.set .scalingDisabled
        "behavior.scaleUp.selectPolicy is Disabled" }
  else
    match measureUsage answers.measured with
    | .error error =>
      { observation := { observation with reason := some (.of .failedMetric) }
        ending := .failed s!"measure usage: {error}" }
    | .ok usage =>
      let observation := { observation with usage := some usage }
      if usage < effective.usageThresholdPercent then
        { observation := observation.set .belowTarget
            s!"usage {usage}% is below the {effective.usageThresholdPercent}% target"
          calls := (releaseProtectiveCordon answers effective usage node).2 }
      else
        let applied := applyProtectiveCordon answers effective usage node
        let crossed := reconcileCrossed answers target effective applied.1 usage observation
        { crossed with calls := applied.2 ++ crossed.calls }

/-! ## What the flow requests -/

section Calls

variable {answers : InstanceAnswers} {target : Instance} {effective : InstanceEffective}
  {node : Option CordonNode} {usage desired : Int} {observation : Observation}

theorem calls_growVolume :
    (growVolume answers target effective node usage desired observation).calls =
        (modifyVolume answers target.rootVolumeId desired).2 ∨
      ∃ after, (growVolume answers target effective node usage desired observation).calls =
        (modifyVolume answers target.rootVolumeId desired).2 ++
          (releaseProtectiveCordon answers effective after node).2 := by
  unfold growVolume
  dsimp only
  split
  · exact .inl rfl
  · exact .inl rfl
  · exact .inl rfl
  · cases measureUsage answers.measuredAfter with
    | error =>
      left
      split <;> simp
    | ok after =>
      by_cases under : after < effective.usageThresholdPercent
      · refine .inr ⟨after, ?_⟩
        simp only [under, if_true]
        split <;> rfl
      · left
        simp only [under, if_false, List.append_nil]
        split <;> rfl

/-- The volume is free to be modified, in a pass that is not a dry run. -/
def Free (answers : InstanceAnswers) (effective : InstanceEffective) : Prop :=
  (∃ last, answers.lastModification = .ok last ∧
    cooldownBlock answers.now effective.cooldown last = some none) ∧ answers.dryRun = false

theorem calls_reconcileCrossed_of_free
    (within : targetSize target.rootVolumeSizeGib effective ≤ effective.maxVolumeSizeGib)
    (free : Free answers effective) :
    (reconcileCrossed answers target effective node usage observation).calls =
      (growVolume answers target effective node usage
        (targetSize target.rootVolumeSizeGib effective)
        { observation with
          desiredGib := some (targetSize target.rootVolumeSizeGib effective) }).calls := by
  obtain ⟨⟨last, listed, unblocked⟩, wet⟩ := free
  unfold reconcileCrossed
  simp [Int.not_lt.mpr within, listed, unblocked, wet]

theorem calls_reconcileCrossed_of_not_free
    (held : ¬ (targetSize target.rootVolumeSizeGib effective ≤ effective.maxVolumeSizeGib ∧
      Free answers effective)) :
    (reconcileCrossed answers target effective node usage observation).calls = [] := by
  unfold reconcileCrossed
  dsimp only
  split
  · rfl
  next within =>
    split
    · rfl
    next last listed =>
      split
      · rfl
      · rfl
      next unblocked =>
        split
        · rfl
        next wet =>
          exact absurd ⟨Int.not_lt.mp within, ⟨last, listed, unblocked⟩,
            Bool.eq_false_of_not_eq_true wet⟩ held

/-- The flow looks at the volume: it is known, its autoscaler is active, and the measured usage
has crossed the target. -/
def Crosses (answers : InstanceAnswers) (target : Instance) (effective : InstanceEffective)
    (usage : Int) : Prop :=
  target.rootVolumeId ≠ "" ∧ effective.paused = false ∧
    measureUsage answers.measured = .ok usage ∧ effective.usageThresholdPercent ≤ usage

theorem calls_reconcileInstance_of_crosses (crosses : Crosses answers target effective usage) :
    ∃ observation, (reconcileInstance answers target effective node).calls =
      (applyProtectiveCordon answers effective usage node).2 ++
        (reconcileCrossed answers target effective
          (applyProtectiveCordon answers effective usage node).1 usage observation).calls := by
  obtain ⟨known, active, measured, crossed⟩ := crosses
  refine ⟨{ capacityGib := target.rootVolumeSizeGib, usage := some usage }, ?_⟩
  unfold reconcileInstance
  simp only [known, active, measured, Int.not_lt.mpr crossed, if_false, Bool.false_eq_true]

theorem calls_reconcileInstance_of_not_crosses
    (below : ∀ usage, ¬ Crosses answers target effective usage) :
    (reconcileInstance answers target effective node).calls = [] ∨
      ∃ usage, (reconcileInstance answers target effective node).calls =
        (releaseProtectiveCordon answers effective usage node).2 := by
  unfold reconcileInstance
  split
  · exact .inl rfl
  next known =>
    split
    · exact .inl rfl
    next active =>
      split
      · exact .inl rfl
      next usage measured =>
        split
        · exact .inr ⟨usage, rfl⟩
        next crossed =>
          exact absurd ⟨known, Bool.eq_false_of_not_eq_true active, measured,
            Int.not_lt.mp crossed⟩ (below usage)

end Calls

open List Transaction

/-! ## The claim controller -/

theorem exists_of_storageOf {quantity : Option String} {bytes : ℚ}
    (found : storageOf quantity = some bytes) :
    ∃ text, quantity = some text ∧ quantityBytes text = .ok bytes := by
  obtain ⟨text, given, parsed⟩ := Option.bind_eq_some_iff.mp found
  refine ⟨text, given, ?_⟩
  cases read : quantityBytes text with
  | error =>
    rw [read] at parsed
    cases parsed
  | ok =>
    rw [read] at parsed
    exact congrArg Except.ok (Option.some.inj parsed)

theorem compileMaxCapacity_eq {maxCapacity : String} {limit : Int}
    (compiled : compileMaxCapacity maxCapacity = .ok limit) :
    ∃ bytes, quantityBytes maxCapacity = .ok bytes ∧ limit = min (bytes / gib).floor maxI32 := by
  unfold compileMaxCapacity at compiled
  split at compiled
  · cases compiled
  next bytes parsed =>
    dsimp only at compiled
    split at compiled
    · cases compiled
    · exact ⟨bytes, parsed, (Except.ok.inj compiled).symm⟩

/-- The values of an `f64` that are not negative and that a division by `gib` keeps exact. -/
def IsDouble (value : ℚ) : Prop :=
  ∃ mantissa : Nat, ∃ exponent : Int, mantissa < 2 ^ 53 ∧ -1044 ≤ exponent ∧ exponent ≤ 971 ∧
    value = mantissa * 2 ^ exponent

/-- The quantity stands for the bytes, and the `f64` arithmetic of the source gives just these: the
number, the multiplier and their product are all doubles. -/
def ReadAs (quantity : String) (bytes : ℚ) : Prop :=
  ∃ value multiplier, quantityParts quantity = .ok (value, multiplier) ∧
    bytes = value * multiplier ∧ IsDouble value ∧ IsDouble multiplier ∧ IsDouble bytes

theorem ReadAs.quantityBytes_eq {quantity : String} {bytes : ℚ} (read : ReadAs quantity bytes) :
    quantityBytes quantity = .ok bytes := by
  obtain ⟨_, _, parts, rfl, -⟩ := read
  rw [quantityBytes, parts]
  rfl

theorem readAs_of_eq {quantity : String} {bytes : ℚ} (exact : ∃ bytes, ReadAs quantity bytes)
    (parsed : quantityBytes quantity = .ok bytes) : ReadAs quantity bytes := by
  obtain ⟨_, read⟩ := exact
  cases Except.ok.inj (parsed.symm.trans read.quantityBytes_eq)
  exact read

variable {spec : ClaimAutoscalerSpec} {effective : Effective}

theorem compile_eq (compiled : compile spec = .ok effective) :
    compileMaxCapacity spec.maxCapacity = .ok effective.maxCapacityGib ∧
      compileSteps spec.rules.policies = .ok effective.steps ∧
      effective.selectMin = decide (spec.rules.selectPolicy = .min) := by
  unfold compile at compiled
  split at compiled
  · cases compiled
  · obtain ⟨_, -, compiled⟩ := bind_eq_ok compiled
    obtain ⟨_, limited, compiled⟩ := bind_eq_ok compiled
    obtain ⟨_, -, compiled⟩ := bind_eq_ok compiled
    obtain ⟨_, stepped, compiled⟩ := bind_eq_ok compiled
    cases Except.ok.inj compiled
    exact ⟨limited, stepped, rfl⟩

/-- The request of the claim controller: above the capacity, within the limit, and by the
selected step unless the limit, which is an `i32` too, is closer. -/
def ClaimRequestFits (spec : ClaimAutoscalerSpec) (object : PersistentVolumeClaim)
    (outcome : Outcome) : Prop :=
  ∃ capacity bytes limit desired step, object.status.bind (·.capacity) = some capacity ∧
    ReadAs capacity bytes ∧ ReadAs spec.maxCapacity limit ∧ outcome.desiredGib = some desired ∧
    bytes < desired * gib ∧ desired * gib ≤ limit ∧
    Selected (policySteps spec.rules.policies) (spec.rules.selectPolicy = .min) (ceilGib bytes)
      step ∧
    desired = min (ceilGib bytes + step) (min (limit / gib).floor maxI32)

theorem claimRequestFits
    {object : PersistentVolumeClaim} {classes : StorageClasses} {rfc3339 : Instant → String}
    {usage : Usage} {lastScale : LastScale} {dryRun : Bool} {now : Instant} {outcome : Outcome}
    (compiled : compile spec = .ok effective)
    (decided : decideClaim rfc3339 effective (claim object classes) usage lastScale dryRun now =
      some outcome) (resized : outcome.resize) (exact : ∃ limit, ReadAs spec.maxCapacity limit)
    (exactCapacity : ∀ capacity, object.status.bind (·.capacity) = some capacity →
      ∃ bytes, ReadAs capacity bytes) :
    ClaimRequestFits spec object outcome := by
  obtain ⟨bytes, measured, grows⟩ := grows_of_decideClaim decided resized
  obtain ⟨limited, stepped, select⟩ := compile_eq compiled
  obtain ⟨limit, parsed, limitEq⟩ := compileMaxCapacity_eq limited
  obtain ⟨capacity, found, parsedCapacity⟩ := exists_of_storageOf measured
  have start : 0 ≤ ceilGib bytes := ceilGib_nonneg (quantityBytes_nonneg parsedCapacity)
  obtain ⟨step, selected, stepEq⟩ := stepUp_of_compiled effective.selectMin stepped start
  have positive := one_le_of_selected selected
  have below := grows.below
  have desired := grows.desired
  rw [stepEq] at desired
  rw [select] at selected
  have clamped : min (min (ceilGib bytes + step) maxI32) effective.maxCapacityGib =
      min (ceilGib bytes + step) (min (limit / gib).floor maxI32) := by
    rw [limitEq]
    omega
  have read := readAs_of_eq (exactCapacity capacity found) parsedCapacity
  refine ⟨capacity, bytes, limit, _, step, found, read, readAs_of_eq exact parsed, desired, ?_, ?_,
    selected, clamped⟩
  · apply lt_of_ceilGib_lt
    · omega
    · omega
  · apply le_of_le_floor
    omega

/-! ## The resizer -/

section Requests

variable {answers : InstanceAnswers} {target : Instance} {effective : InstanceEffective}
  {node : Option CordonNode} {usage desired : Int} {observation : Observation}
  {volume : String} {spec : ModifySpec} {answered : Bool}

theorem notMem_syncProtectiveCondition {dryRun : Bool} {answer : Except String Unit}
    {changed : CordonNode} :
    .modifyVolume volume spec answered ∉
      (syncProtectiveCondition dryRun answer effective usage changed).2 := by
  unfold syncProtectiveCondition
  dsimp only
  split <;> simp

theorem notMem_applyProtectiveCordon :
    .modifyVolume volume spec answered ∉
    (applyProtectiveCordon answers effective usage node).2 := by
  cases node with
  | none => simp [applyProtectiveCordon]
  | some node =>
    have cordoned : .modifyVolume volume spec answered ∉ (cordonNode answers node).2 := by
      unfold cordonNode
      split <;> simp
    simp [applyProtectiveCordon, cordoned, notMem_syncProtectiveCondition]

theorem notMem_releaseProtectiveCordon :
    .modifyVolume volume spec answered ∉
      (releaseProtectiveCordon answers effective usage node).2 := by
  cases node with
  | none => simp [releaseProtectiveCordon]
  | some node =>
    have uncordoned : .modifyVolume volume spec answered ∉ (uncordonNode answers node).2 := by
      unfold uncordonNode
      split
      · simp
      · split <;> simp
    simp [releaseProtectiveCordon, uncordoned, notMem_syncProtectiveCondition]

theorem size_of_mem_modifyVolume {named : String}
    (called : .modifyVolume volume spec answered ∈ (modifyVolume answers named desired).2) :
    spec.sizeGib = desired := by
  unfold modifyVolume at called
  split at called
  · simp only [mem_singleton, Call.modifyVolume.injEq] at called
    rw [called.2.1]
  · split at called
    · simp only [mem_singleton, Call.modifyVolume.injEq] at called
      rw [called.2.1]
    · simp only [mem_cons, not_mem_nil, or_false, Call.modifyVolume.injEq] at called
      rcases called with combined | alone
      · rw [combined.2.1]
      · rw [alone.2.1]

theorem exists_mem_modifyVolume (answers : InstanceAnswers) (named : String) (desired : Int) :
    ∃ spec answered, .modifyVolume named spec answered ∈
    (modifyVolume answers named desired).2 := by
  unfold modifyVolume
  split
  · exact ⟨_, _, mem_singleton_self _⟩
  · split
    · exact ⟨_, _, mem_singleton_self _⟩
    · exact ⟨_, _, mem_cons_self⟩

theorem mem_growVolume
    (called : .modifyVolume volume spec answered ∈
      (growVolume answers target effective node usage desired observation).calls) :
    .modifyVolume volume spec answered ∈ (modifyVolume answers target.rootVolumeId desired).2 := by
  rcases @calls_growVolume answers target effective node usage desired observation with
    plain | ⟨after, released⟩
  · rwa [plain] at called
  · rw [released] at called
    exact (mem_append.mp called).resolve_right notMem_releaseProtectiveCordon

theorem exists_mem_growVolume :
    ∃ spec answered, .modifyVolume target.rootVolumeId spec answered ∈
      (growVolume answers target effective node usage desired observation).calls := by
  obtain ⟨spec, answered, sent⟩ := exists_mem_modifyVolume answers target.rootVolumeId desired
  refine ⟨spec, answered, ?_⟩
  rcases @calls_growVolume answers target effective node usage desired observation with
    plain | ⟨after, released⟩
  · rwa [plain]
  · rw [released]
    exact mem_append_left _ sent

theorem of_mem_reconcileInstance
    (called : .modifyVolume volume spec answered ∈
      (reconcileInstance answers target effective node).calls) :
    (∃ usage, Crosses answers target effective usage) ∧ Free answers effective ∧
      targetSize target.rootVolumeSizeGib effective ≤ effective.maxVolumeSizeGib ∧
      spec.sizeGib = targetSize target.rootVolumeSizeGib effective := by
  by_cases crossed : ∃ usage, Crosses answers target effective usage
  · obtain ⟨usage, crosses⟩ := crossed
    obtain ⟨_, calls⟩ :=
      @calls_reconcileInstance_of_crosses answers target effective node usage crosses
    rw [calls] at called
    have looked := (mem_append.mp called).resolve_left notMem_applyProtectiveCordon
    by_cases free : targetSize target.rootVolumeSizeGib effective ≤ effective.maxVolumeSizeGib ∧
        Free answers effective
    · rw [calls_reconcileCrossed_of_free free.1 free.2] at looked
      exact ⟨⟨usage, crosses⟩, free.2, free.1, size_of_mem_modifyVolume (mem_growVolume looked)⟩
    · rw [calls_reconcileCrossed_of_not_free free] at looked
      cases looked
  · rcases @calls_reconcileInstance_of_not_crosses answers target effective node
      (not_exists.mp crossed) with none | ⟨usage, released⟩
    · rw [none] at called
      cases called
    · rw [released] at called
      exact absurd called notMem_releaseProtectiveCordon

end Requests

theorem compileMaxVolumeSize_eq {maxCapacity : String} {limit : Int}
    (compiled : compileMaxVolumeSize maxCapacity = .ok limit) :
    ∃ bytes, quantityBytes maxCapacity = .ok bytes ∧ limit = (bytes / gib).ceil ∧
      limit ≤ maxI32 := by
  unfold compileMaxVolumeSize at compiled
  split at compiled
  · cases compiled
  next _ rounded =>
    split at compiled
    · cases compiled
    · cases Except.ok.inj compiled
      obtain ⟨bytes, parsed, rounded⟩ := bind_eq_ok rounded
      dsimp only at rounded
      split at rounded
      next inRange =>
        cases Except.ok.inj rounded
        exact ⟨bytes, parsed, rfl, inRange.2⟩
      · cases rounded

variable {autoscaler : InstanceAutoscaler} {compiled : Compiled}

theorem selected_unique {steps : List Step} {selectMin : Bool} {current first second : Int}
    (one : Selected steps selectMin current first)
    (other : Selected steps selectMin current second) : first = second := by
  obtain ⟨chosen, member, best, rfl⟩ := one
  obtain ⟨chosen', member', best', rfl⟩ := other
  have forward := best chosen' member'
  have backward := best' chosen member
  cases selectMin with
  | true =>
    simp only [if_true] at forward backward
    omega
  | false =>
    simp only [Bool.false_eq_true, if_false] at forward backward
    omega

def InstanceAutoscaler.Selects (autoscaler : InstanceAutoscaler) (current step : Int) : Prop :=
  Selected (policySteps autoscaler.spec.rules.policies)
    (autoscaler.spec.rules.selectPolicy = .min) current step

/-- The requests of the resizer: above the size of the volume, within the limit, and by the
selected step. -/
def VolumeRequestsFit (autoscaler : InstanceAutoscaler) (effective : InstanceEffective)
    (answers : InstanceAnswers) (target : Instance) (node : Option CordonNode) : Prop :=
  ∀ volume spec answered,
    .modifyVolume volume spec answered ∈ (reconcileInstance answers target effective node).calls →
    ∃ limit step, ReadAs autoscaler.spec.maxCapacity limit ∧
      target.rootVolumeSizeGib * gib < spec.sizeGib * gib ∧ spec.sizeGib * gib ≤ limit ∧
      autoscaler.Selects target.rootVolumeSizeGib step ∧
      spec.sizeGib = target.rootVolumeSizeGib + step

/-- The selected step leads above the limit, but not above the limit rounded up to whole
GiB. -/
def StepsPastLimit (autoscaler : InstanceAutoscaler) (current : Int) : Prop :=
  ∃ limit step, ReadAs autoscaler.spec.maxCapacity limit ∧
    autoscaler.Selects current step ∧ limit < ((current + step : Int) : ℚ) * gib ∧
    min (current + step) maxI32 ≤ (limit / gib).ceil

theorem le_ceil_of_mul_le {limit : ℚ} {size : Int} (within : size * gib ≤ limit) :
    size ≤ (limit / gib).ceil := by
  have bound : (size : ℚ) ≤ (limit / gib).ceil :=
    ((le_div_iff₀ gib_pos).mpr within).trans Rat.le_ceil
  exact_mod_cast bound

section

variable (accepted : compileInstance autoscaler = .ok compiled)
include accepted

theorem compileInstance_eq :
    compileMaxVolumeSize autoscaler.spec.maxCapacity = .ok compiled.effective.maxVolumeSizeGib ∧
      compileSteps autoscaler.spec.rules.policies = .ok compiled.effective.steps ∧
      compiled.effective.selectMin = decide (autoscaler.spec.rules.selectPolicy = .min) := by
  obtain ⟨_, -, accepted⟩ := bind_eq_ok accepted
  obtain ⟨_, limited, accepted⟩ := bind_eq_ok accepted
  obtain ⟨_, -, accepted⟩ := bind_eq_ok accepted
  obtain ⟨_, stepped, accepted⟩ := bind_eq_ok accepted
  obtain ⟨_, -, accepted⟩ := bind_eq_ok accepted
  cases Except.ok.inj accepted
  exact ⟨limited, stepped, rfl⟩

theorem targetSize_eq (target : Instance) :
    ∃ step, autoscaler.Selects target.rootVolumeSizeGib step ∧
      targetSize target.rootVolumeSizeGib compiled.effective =
        min (target.rootVolumeSizeGib + step) maxI32 := by
  obtain ⟨-, stepped, select⟩ := compileInstance_eq accepted
  obtain ⟨step, selected, stepEq⟩ :=
    stepUp_of_compiled compiled.effective.selectMin stepped target.sizeInRange.1
  rw [select] at selected
  exact ⟨step, selected, stepEq⟩

theorem volumeRequestsFit_iff (exact : ∃ limit, ReadAs autoscaler.spec.maxCapacity limit)
    (answers : InstanceAnswers) (target : Instance) (node : Option CordonNode) :
    VolumeRequestsFit autoscaler compiled.effective answers target node ↔
      ¬ ((∃ usage, Crosses answers target compiled.effective usage) ∧
        Free answers compiled.effective ∧
        StepsPastLimit autoscaler target.rootVolumeSizeGib) := by
  obtain ⟨limited, -, -⟩ := compileInstance_eq accepted
  obtain ⟨limit, parsed, rounded, _⟩ := compileMaxVolumeSize_eq limited
  obtain ⟨step, selected, sized⟩ := targetSize_eq accepted target
  have positive : 1 ≤ step := one_le_of_selected selected
  constructor
  · rintro fit ⟨⟨_, crosses⟩, free, limit', step', read, selected', above, within⟩
    cases Except.ok.inj (parsed.symm.trans read.quantityBytes_eq)
    cases selected_unique selected selected'
    have small : targetSize target.rootVolumeSizeGib compiled.effective ≤
        compiled.effective.maxVolumeSizeGib := by
      rw [sized, rounded]
      exact within
    obtain ⟨_, calls⟩ := @calls_reconcileInstance_of_crosses answers target _ node _ crosses
    obtain ⟨spec, answered, sent⟩ := exists_mem_growVolume
    obtain ⟨_, _, read', -, below, selected', taken⟩ := fit _ spec answered (by
      rw [calls, calls_reconcileCrossed_of_free small free]
      exact mem_append_right _ sent)
    cases Except.ok.inj (parsed.symm.trans read'.quantityBytes_eq)
    cases selected_unique selected selected'
    rw [taken] at below
    exact absurd (above.trans_le below) (lt_irrefl _)
  · intro held _ spec _ sent
    obtain ⟨crossed, free, small, taken⟩ := of_mem_reconcileInstance sent
    have within : ((target.rootVolumeSizeGib + step : Int) : ℚ) * gib ≤ limit := by
      by_contra above
      apply held
      refine ⟨crossed, free, limit, step, readAs_of_eq exact parsed, selected, not_le.mp above, ?_⟩
      rw [← sized, ← rounded]
      exact small
    have bound := le_ceil_of_mul_le within
    have stepped : spec.sizeGib = target.rootVolumeSizeGib + step := by
      omega
    refine ⟨limit, step, readAs_of_eq exact parsed, ?_, ?_, selected, stepped⟩
    · apply mul_lt_mul_of_pos_right _ gib_pos
      rw [stepped]
      have grown : target.rootVolumeSizeGib < target.rootVolumeSizeGib + step := by omega
      exact_mod_cast grown
    · rw [stepped]
      exact within

end

/-- Where the quantities are read without rounding, every request of the claim controller fits, and
those of the resizer fit unless the selected step leads into the gap between the limit and the limit
rounded up. -/
theorem requests_fit_iff {autoscaler : InstanceAutoscaler} {compiled : Compiled}
    (accepted : compileInstance autoscaler = .ok compiled)
    (exact : ∃ limit, ReadAs autoscaler.spec.maxCapacity limit) (answers : InstanceAnswers)
    (target : Instance) (node : Option CordonNode) {spec : ClaimAutoscalerSpec}
    {effective : Effective} (acceptedClaims : compile spec = .ok effective)
    (exactClaims : ∃ limit, ReadAs spec.maxCapacity limit) (object : PersistentVolumeClaim)
    (exactCapacity : ∀ capacity, object.status.bind (·.capacity) = some capacity →
      ∃ bytes, ReadAs capacity bytes) (classes : StorageClasses) (rfc3339 : Instant → String)
    (usage : Usage) (lastScale : LastScale) (dryRun : Bool) (now : Instant) :
    (∀ outcome, decideClaim rfc3339 effective (claim object classes) usage lastScale dryRun now =
        some outcome → outcome.resize = true →
      ClaimRequestFits spec object outcome) ∧
    (VolumeRequestsFit autoscaler compiled.effective answers target node ↔
      ¬ ((∃ usage, Crosses answers target compiled.effective usage) ∧
        Free answers compiled.effective ∧
        StepsPastLimit autoscaler target.rootVolumeSizeGib)) := by
  refine ⟨?_, volumeRequestsFit_iff accepted exact answers target node⟩
  intro _ decided resized
  exact claimRequestFits acceptedClaims decided resized exactClaims exactCapacity

def rootAutoscaler (maxCapacity : String) : InstanceAutoscaler :=
  { name := "root"
    spec :=
      { scaleTargetRef := { kind := .ec2Instance, name := some "i-0123456789abcdef0" }
        maxCapacity } }

def rootEffective (limit : Int) : InstanceEffective :=
  { policy := "root"
    paused := false
    usageThresholdPercent := 80
    selectMin := false
    steps := [.percent 10, .gib 1]
    maxVolumeSizeGib := limit
    cooldown := 21600 }

def rootInstance : Instance where
  id := "i-0123456789abcdef0"
  rootVolumeId := "vol-1"
  rootVolumeSizeGib := 85
  sizeInRange := by decide

/-- With a limit of 100G a volume of 85 GiB is grown to 94 GiB, which is more. -/
theorem request_past_limit :
    compileInstance (rootAutoscaler "100G") =
        .ok ⟨.ec2Instance "i-0123456789abcdef0", rootEffective 94⟩ ∧
      quantityBytes "100G" = .ok 100000000000 ∧
      .modifyVolume "vol-1" { sizeGib := 94 } true ∈
        (reconcileInstance { now := 0, measured := .ok "90%" } rootInstance (rootEffective 94)
          none).calls ∧
      100000000000 < 94 * gib := by
  refine ⟨?_, ?_, ?_, ?_⟩
  · decide +kernel
  · decide +kernel
  · decide +kernel
  · norm_num [gib]

theorem readAs_gi {quantity : String} {count : Nat} (small : count < 2 ^ 53)
    (parts : quantityParts quantity = .ok ((count : ℚ), gib)) : ReadAs quantity (count * gib) := by
  have power : gib = 2 ^ (30 : Int) := by norm_num [gib]
  exact ⟨count, gib, parts, rfl, ⟨count, 0, small, by decide, by decide, by simp⟩,
    ⟨1, 30, by decide, by decide, by decide, by rw [power]; simp⟩,
    ⟨count, 30, small, by decide, by decide, by rw [power]⟩⟩

/-- With a limit of 100Gi the same volume is grown within it, and a claim of 10Gi would be. -/
theorem requests_fit_iff_root :
    VolumeRequestsFit (rootAutoscaler "100Gi") (rootEffective 100)
      { now := 0, measured := .ok "90%" } rootInstance none := by
  have accepted : compileInstance (rootAutoscaler "100Gi") =
      .ok ⟨.ec2Instance "i-0123456789abcdef0", rootEffective 100⟩ := by decide +kernel
  have compiled : compile { scaleTargetRef := { kind := .statefulSet, name := "web" }
                            maxCapacity := "100Gi" } =
      .ok { paused := false, storageTarget := some 80, inodesTarget := none, selectMin := false
            steps := [.percent 10, .gib 1], maxCapacityGib := 100, cooldown := 1800 } := by
    decide +kernel
  have limitRead : ReadAs "100Gi" ((100 : Nat) * gib) := readAs_gi (by decide) (by decide +kernel)
  have capacityRead : ReadAs "10Gi" ((10 : Nat) * gib) := readAs_gi (by decide) (by decide +kernel)
  have fits := (requests_fit_iff accepted ⟨_, limitRead⟩ { now := 0, measured := .ok "90%" }
    rootInstance none compiled ⟨_, limitRead⟩
    { name := "data-web-0", status := some { capacity := some "10Gi" } }
    (by rintro _ ⟨⟩; exact ⟨_, capacityRead⟩) {} (fun _ => "") {} {} false 0).2
  apply fits.mpr
  rintro ⟨-, -, _, step, read, -, above, within⟩
  cases Except.ok.inj (limitRead.quantityBytes_eq.symm.trans read.quantityBytes_eq)
  have rounded : ((100 : Nat) * gib / gib).ceil = 100 := by decide +kernel
  have more : ((100 : Nat) : ℚ) < (rootInstance.rootVolumeSizeGib + step : Int) :=
    lt_of_mul_lt_mul_right above gib_pos.le
  have larger : 100 < rootInstance.rootVolumeSizeGib + step := by exact_mod_cast more
  unfold maxI32 at within
  omega

end Addons.VolumeAutoscaler
