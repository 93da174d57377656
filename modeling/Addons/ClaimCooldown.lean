import Addons.ClaimAutoscaler
import Addons.TransitionSystem

/-!
# Resizes and the cooldown

A run of the controller over one autoscaler: passes at times that do not go back, each
from the status last stored, between edits of the specification.
-/

namespace Addons.VolumeAutoscaler

open List ClaimStatus

/-! ## One pass of the claim controller -/

/-- What the caches hold; names of claims are unique in a namespace. -/
structure Listing where
  objects : List PersistentVolumeClaim
  statefulSets : List StatefulSet := []
  classes : StorageClasses := {}
  autoscalers : List ClaimAutoscaler := []
  distinct : (objects.map (·.name)).Nodup

/-- Everything a pass needs: the settings, the clock, and what is answered to its requests. -/
structure Context where
  dryRun : Bool := false
  rfc3339 : Instant → String := fun _ => ""
  now : Instant
  listing : Except String Listing
  query : Series → Except String (List (String × ℚ)) := fun _ => pure []
  resizeClaim : String → String → Except String Unit := fun _ _ => pure ()
  patchStatus : Except String Unit := pure ()

/-- How a pass ends before the status is written. -/
inductive Verdict where
  | status (next : ClaimAutoscalerStatus)
  | failed (error : String)
  | panicked
deriving DecidableEq

/-- The claims whose resize was accepted, and how the pass ended. -/
structure Evaluated where
  resized : List Claim := []
  verdict : Verdict

def halted (autoscaler : ClaimAutoscaler) (entries : List ClaimStatus) (reason : Reason)
    (message : String) (now : Instant) : ClaimAutoscalerStatus :=
  refreshSummary autoscaler.spec
    (build autoscaler.status autoscaler.generation entries (some ⟨reason, message⟩) now)

def ClaimAutoscaler.claims (autoscaler : ClaimAutoscaler) : List ClaimStatus :=
  (autoscaler.status.map (·.claims)).getD []

/-- What the previous status recorded about a claim's last resize. -/
def recorded (autoscaler : ClaimAutoscaler) (name : String) : LastScale :=
  match autoscaler.claims.reverse.find? fun claim => claim.name = name with
  | none => {}
  | some claim =>
    { at_ := claim.lastScaleTime.bind fromK8sTime
      capacityBytes := storageOf claim.capacityAtLastScale }

def uniform (autoscaler : ClaimAutoscaler) (claims : List Claim) (reason : Reason)
    (message : String) : List ClaimStatus :=
  claims.map fun claim =>
    entry claim
      { reason, message, capacityAtLastScale := (recorded autoscaler claim.name).capacityBytes }
      none

/-- The claims shared with other autoscalers of the namespace, each with the first one. -/
def overlaps (autoscaler : ClaimAutoscaler) (mine : List String) (listing : Listing) :
    List (String × String) :=
  let names := listing.objects.map (·.name)
  let targets (other : ClaimAutoscaler) (name : String) : Bool :=
    match resolve other.spec.scaleTargetRef names listing.statefulSets with
    | .ok theirs => other.name ≠ autoscaler.name ∧ name ∈ theirs
    | .error _ => false
  (mine.insertionSort (· ≤ ·)).filterMap fun name =>
    (listing.autoscalers.find? fun other => targets other name).map fun other =>
      (name, other.name)

/-- Send the resize that the outcome asks for. The outcome that is reported, and when the
resize was sent. -/
def apply (context : Context) (claim : Claim) (outcome : Outcome) : Outcome × Option Instant :=
  if outcome.resize then
    let desired := gibQuantity (outcome.desiredGib.getD 0)
    match context.resizeClaim claim.name desired with
    | .ok _ => (outcome, some context.now)
    | .error error =>
      (outcome.finish .failedRescale s!"resize to {desired} failed: {error}", none)
  else (outcome, none)

/-- What `decideClaims` did: the accepted resizes, and the entries unless it panicked. -/
structure Decided where
  resized : List Claim := []
  entries : Option (List ClaimStatus)

/-- Decide, resize and record every target claim. -/
def decideClaims (context : Context) (autoscaler : ClaimAutoscaler) (effective : Effective)
    (usage : String → Usage) : List Claim → Decided
  | [] => { entries := some [] }
  | claim :: rest =>
    match decideClaim context.rfc3339 effective claim (usage claim.name)
        (recorded autoscaler claim.name) context.dryRun context.now with
    | none => { entries := none }
    | some outcome =>
      let applied := apply context claim outcome
      let later := decideClaims context autoscaler effective usage rest
      { resized := (applied.2.map fun _ => claim).toList ++ later.resized
        entries := later.entries.map fun entries =>
          entry claim applied.1 applied.2 :: entries }

def targetClaims (autoscaler : ClaimAutoscaler) (listing : Listing) :
    Except String (List Claim) :=
  (resolve autoscaler.spec.scaleTargetRef (listing.objects.map (·.name))
      listing.statefulSets).map fun targets =>
    (listing.objects.filter fun object => object.name ∈ targets).map fun object =>
      claim object listing.classes

def decidedStatus (context : Context) (autoscaler : ClaimAutoscaler) (effective : Effective)
    (blockers : List String) (entries : List ClaimStatus) : ClaimAutoscalerStatus :=
  let inactive := if effective.paused then
    some ⟨.scalingDisabled, "behavior.scaleUp.selectPolicy is Disabled"⟩ else none
  let status := build autoscaler.status autoscaler.generation entries inactive context.now
  refreshSummary autoscaler.spec
    (if blockers = [] then status
      else blockExpansion status blockers autoscaler.generation context.now)

def evaluateClaims (context : Context) (autoscaler : ClaimAutoscaler) (effective : Effective)
    (listing : Listing) (claims : List Claim) : Evaluated :=
  let halt (reason : Reason) (message : String) : Evaluated :=
    { verdict := .status (halted autoscaler (uniform autoscaler claims reason message) reason
        message context.now) }
  let shared := overlaps autoscaler (claims.map (·.name)) listing
  let detail := ", ".intercalate (shared.map fun pair => s!"{pair.1} ({pair.2})")
  if shared ≠ [] then halt .ambiguous s!"claims also targeted by another autoscaler: {detail}"
  else
    match usage context.query effective with
    | .error error => halt .failedMetric s!"metrics query failed: {error}"
    | .ok usage =>
      let decided := decideClaims context autoscaler effective usage claims
      let blockers := expansionBlockers autoscaler.spec.scaleTargetRef listing.statefulSets
        claims listing.classes
      { resized := decided.resized
        verdict :=
          match decided.entries with
          | none => .panicked
          | some entries =>
            .status (decidedStatus context autoscaler effective blockers entries) }

def evaluate (context : Context) (autoscaler : ClaimAutoscaler) : Evaluated :=
  match compile autoscaler.spec with
  | .error error =>
    { verdict := .status (halted autoscaler [] .invalidSpec error context.now) }
  | .ok effective =>
    match context.listing with
    | .error error => { verdict := .failed error }
    | .ok listing =>
      match targetClaims autoscaler listing with
      | .error error =>
        { verdict := .status (halted autoscaler [] .failedGetScale error context.now) }
      | .ok claims => evaluateClaims context autoscaler effective listing claims

/-- The status that is stored after a pass: it is patched when it has changed. -/
def storedStatus (text : TimeText) (context : Context) (autoscaler : ClaimAutoscaler) :
    Verdict → Option ClaimAutoscalerStatus
  | .status next =>
    if autoscaler.status = some next then autoscaler.status
    else
      match context.patchStatus with
      | .ok _ => some (patchClaimStatus text autoscaler.status next)
      | .error _ => autoscaler.status
  | .failed _ => autoscaler.status
  | .panicked => autoscaler.status

/-- The resource after a pass. -/
def reconcile (text : TimeText) (context : Context) (autoscaler : ClaimAutoscaler) :
    ClaimAutoscaler :=
  { autoscaler with
    status := storedStatus text context autoscaler (evaluate context autoscaler).verdict }

variable {context : Context} {autoscaler : ClaimAutoscaler} {effective : Effective}

theorem recorded_at (autoscaler : ClaimAutoscaler) (name : String) :
    (recorded autoscaler name).at_ =
      (recordedTime autoscaler.claims name).bind fromK8sTime := by
  unfold recorded recordedTime
  cases autoscaler.claims.reverse.find? fun claim => claim.name = name with
  | none => rfl
  | some => rfl

theorem exists_of_recordedTime {claims : List ClaimStatus} {name : String} {time : Time}
    (recorded : recordedTime claims name = some time) :
    ∃ claim ∈ claims, claim.name = name ∧ claim.lastScaleTime = some time := by
  obtain ⟨claim, found, timed⟩ := Option.bind_eq_some_iff.mp recorded
  have named := find?_some found
  exact ⟨claim, mem_reverse.mp (mem_of_find?_eq_some found), by simpa using named, timed⟩

structure Surveyed (context : Context) (autoscaler : ClaimAutoscaler) (effective : Effective)
    (claims resized : List Claim) (entries : List ClaimStatus) : Prop where
  names : entries.map (·.name) = claims.map (·.name)
  among : resized.Sublist claims
  rested : ∀ claim ∈ resized, Rested effective (recorded autoscaler claim.name) context.now
  accepted : ∀ claim ∈ resized, ∃ quantity, context.resizeClaim claim.name quantity = .ok ()
  stamped : ∀ claim ∈ resized, ∃ listed ∈ entries, listed.name = claim.name ∧
    listed.lastScaleTime = some (k8sTime context.now)
  others : ∀ listed ∈ entries, listed.lastScaleTime = none ∨
    listed.lastScaleTime = some (k8sTime context.now) ∧ ∃ claim ∈ resized, claim.name = listed.name

theorem surveyed_nil : Surveyed context autoscaler effective [] [] [] where
  names := rfl
  among := .slnil
  rested := by simp
  accepted := by simp
  stamped := by simp
  others := by simp

theorem surveyed_uniform (claims : List Claim) (reason : Reason) (message : String) :
    Surveyed context autoscaler effective claims [] (uniform autoscaler claims reason message) where
  names := by simp [uniform, entry]
  among := nil_sublist claims
  rested := by simp
  accepted := by simp
  stamped := by simp
  others := by simp [uniform, entry]

variable {claims : List Claim} {entries : List ClaimStatus} {resized : List Claim}

theorem Surveyed.skip (claim : Claim)
    (outcome : Outcome) (survey : Surveyed context autoscaler effective claims resized entries) :
    Surveyed context autoscaler effective (claim :: claims) resized
      (entry claim outcome none :: entries) where
  names := by simp [entry, survey.names]
  among := survey.among.cons claim
  rested := survey.rested
  accepted := survey.accepted
  stamped resizedClaim member := by
    obtain ⟨listed, found, stamped⟩ := survey.stamped resizedClaim member
    exact ⟨listed, mem_cons_of_mem _ found, stamped⟩
  others listed member := by
    rcases mem_cons.mp member with rfl | later
    · exact .inl rfl
    · exact survey.others listed later

theorem Surveyed.resize {claim : Claim} (outcome : Outcome) {quantity : String}
    (rested : Rested effective (recorded autoscaler claim.name) context.now)
    (accepted : context.resizeClaim claim.name quantity = .ok ())
    (survey : Surveyed context autoscaler effective claims resized entries) :
    Surveyed context autoscaler effective (claim :: claims) (claim :: resized)
      (entry claim outcome (some context.now) :: entries) where
  names := by simp [entry, survey.names]
  among := survey.among.cons_cons claim
  rested := forall_mem_cons.mpr ⟨rested, survey.rested⟩
  accepted := forall_mem_cons.mpr ⟨⟨quantity, accepted⟩, survey.accepted⟩
  stamped resizedClaim member := by
    rcases mem_cons.mp member with rfl | later
    · exact ⟨_, mem_cons_self, rfl, rfl⟩
    · obtain ⟨listed, found, stamped⟩ := survey.stamped resizedClaim later
      exact ⟨listed, mem_cons_of_mem _ found, stamped⟩
  others listed member := by
    rcases mem_cons.mp member with rfl | later
    · exact .inr ⟨rfl, claim, mem_cons_self, rfl⟩
    · rcases survey.others listed later with untouched | ⟨stamped, other, found, named⟩
      · exact .inl untouched
      · exact .inr ⟨stamped, other, mem_cons_of_mem _ found, named⟩

theorem apply_cases (context : Context) (claim : Claim) (outcome : Outcome) :
    ((apply context claim outcome).2 = none) ∨
      (apply context claim outcome).2 = some context.now ∧ outcome.resize ∧
        ∃ quantity, context.resizeClaim claim.name quantity = .ok () := by
  unfold apply
  split
  next wanted =>
    dsimp only
    split
    next accepted => exact .inr ⟨rfl, wanted, _, accepted⟩
    · exact .inl rfl
  · exact .inl rfl

variable {usage : String → Usage}

theorem surveyed_decideClaims
    (decided : (decideClaims context autoscaler effective usage claims).entries = some entries) :
    Surveyed context autoscaler effective claims
      (decideClaims context autoscaler effective usage claims).resized entries := by
  induction claims generalizing entries with
  | nil =>
    cases Option.some.inj decided
    exact surveyed_nil
  | cons claim _ ih =>
    unfold decideClaims at decided ⊢
    split at decided
    · cases decided
    next outcome chosen =>
      obtain ⟨_, later, rfl⟩ := Option.map_eq_some_iff.mp decided
      have survey := ih later
      rcases apply_cases context claim outcome with kept | ⟨sent, wanted, _, accepted⟩
      · simpa [chosen, kept] using survey.skip claim (apply context claim outcome).1
      · have rested := rested_of_decideClaim chosen wanted
        simpa [chosen, sent] using survey.resize (apply context claim outcome).1 rested accepted

theorem isSome_decideClaims
    (fits : ∀ name, (cooldownEnd effective (recorded autoscaler name).at_).isSome) :
    (decideClaims context autoscaler effective usage claims).entries.isSome := by
  induction claims with
  | nil => rfl
  | cons claim _ ih =>
    obtain ⟨_, chosen⟩ := Option.isSome_iff_exists.mp
      (@isSome_decideClaim context.rfc3339 effective claim (usage claim.name)
        (recorded autoscaler claim.name) context.dryRun context.now (fits claim.name))
    simpa [decideClaims, chosen] using ih

theorem nodup_targetClaims {listing : Listing}
    (resolved : targetClaims autoscaler listing = .ok claims) : (claims.map (·.name)).Nodup := by
  obtain ⟨targets, -, rfl⟩ := Transaction.map_eq_ok resolved
  have kept : (listing.objects.filter fun object => object.name ∈ targets).Sublist
      listing.objects := filter_sublist
  have names := (kept.map (·.name)).nodup listing.distinct
  simpa [map_map, Function.comp_def, claim] using names

/-! ## The stored entries -/

def ClaimStatus.held (text : TimeText) (claim : ClaimStatus) : ClaimStatus :=
  { claim with
    lastScaleTime := claim.lastScaleTime.map text.held
    cooldownUntil := claim.cooldownUntil.map text.held }

theorem recordedTime_carriedEntries {previous : List ClaimStatus} {listed : ClaimStatus}
    (distinct : (entries.map (·.name)).Nodup) (member : listed ∈ entries) :
    recordedTime (carriedEntries previous entries) listed.name =
      listed.lastScaleTime.or (previousTime previous listed.name) := by
  have carried : listed.carry previous ∈ carriedEntries previous entries :=
    mem_carriedEntries.mpr ⟨listed, member, rfl⟩
  exact recordedTime_of_mem (nodup_carriedEntries distinct) carried

theorem recordedTime_held (text : TimeText) (claims : List ClaimStatus) (name : String) :
    recordedTime (claims.map (held text)) name =
      (recordedTime claims name).map text.held := by
  unfold recordedTime
  rw [← map_reverse, find?_map]
  have same : ((fun claim : ClaimStatus => decide (claim.name = name)) ∘ held text) =
      fun claim => decide (claim.name = name) := rfl
  rw [same]
  cases claims.reverse.find? fun claim => decide (claim.name = name) with
  | none => rfl
  | some => rfl

theorem claims_reconcile_of_ne (text : TimeText) {verdict : Verdict}
    (ended : (evaluate context autoscaler).verdict = verdict)
    (unfinished : ∀ next, verdict ≠ .status next) :
    (reconcile text context autoscaler).claims = autoscaler.claims := by
  unfold reconcile ClaimAutoscaler.claims
  rw [ended]
  cases verdict with
  | status next => exact absurd rfl (unfinished next)
  | failed => rfl
  | panicked => rfl

theorem claims_reconcile (text : TimeText) {next : ClaimAutoscalerStatus}
    (ended : (evaluate context autoscaler).verdict = .status next) :
    (reconcile text context autoscaler).claims = autoscaler.claims ∧
        (context.patchStatus ≠ .ok () ∨ next.claims = [] ∨ next.claims = autoscaler.claims) ∨
      (reconcile text context autoscaler).claims = next.claims.map (held text) ∧
        next.claims ≠ [] := by
  unfold reconcile ClaimAutoscaler.claims
  rw [ended]
  unfold storedStatus
  by_cases same : autoscaler.status = some next
  · exact .inl ⟨by simp [same], .inr (.inr (by simp [same]))⟩
  · cases answered : context.patchStatus with
    | error =>
      refine .inl ⟨by simp [same], .inl ?_⟩
      intro accepted
      cases accepted
    | ok _ =>
      by_cases empty : next.claims = []
      · exact .inl ⟨by simp [same, claims_patchClaimStatus, empty], .inr (.inl empty)⟩
      · refine .inr ⟨?_, empty⟩
        simp [same, claims_patchClaimStatus, empty, ClaimAutoscalerStatus.held, held]

open TransitionSystem Option

/-- A resize of a claim object that the server accepted, with the cooldown configured then,
in seconds. -/
structure Resize where
  name : String
  uid : String
  time : Instant
  cooldown : Nat
deriving DecidableEq

/-- The autoscaler, the time of its last pass and the resizes so far, the newest first. -/
structure ScalingRun where
  autoscaler : ClaimAutoscaler
  clock : Option Instant := none
  resizes : List Resize := []
deriving DecidableEq

inductive ScalingEvent where
  | pass (context : Context)
  | edit (spec : ClaimAutoscalerSpec) (generation : Option Int)

def configuredCooldown (spec : ClaimAutoscalerSpec) : Nat :=
  match compile spec with
  | .ok effective => effective.cooldown
  | .error _ => 0

def passResizes (context : Context) (autoscaler : ClaimAutoscaler) : List Resize :=
  (evaluate context autoscaler).resized.map fun claim =>
    { name := claim.name
      uid := claim.uid
      time := context.now
      cooldown := configuredCooldown autoscaler.spec }

def ScalingRun.act (text : TimeText) (run : ScalingRun) : ScalingEvent → Option ScalingRun
  | .pass context =>
    if run.clock.all (· ≤ context.now) then
      some
        { autoscaler := reconcile text context run.autoscaler
          clock := some context.now
          resizes := passResizes context run.autoscaler ++ run.resizes }
    else none
  | .edit spec generation =>
    some { run with autoscaler := { run.autoscaler with spec, generation } }

def ScalingRun.Step (text : TimeText) (run : ScalingRun) (event : ScalingEvent)
    (after : ScalingRun) : Prop :=
  run.act text event = some after

/-- A run starts with any resource. -/
def ScalingRun.Initial (run : ScalingRun) : Prop := run.resizes = []

/-- Two resizes of one object are at least the cooldown apart that is configured at the
later one. -/
def Resize.Apart (later earlier : Resize) : Prop :=
  later.name = earlier.name → later.uid = earlier.uid →
    earlier.time + later.cooldown * 1000000000 ≤ later.time

instance (later earlier : Resize) : Decidable (later.Apart earlier) := by
  unfold Resize.Apart
  infer_instance

/-- The text of a status gives the reading of the clock back as it is. -/
def HoldsExactly (text : TimeText) (now : Instant) : Prop :=
  text.held (k8sTime now) = k8sTime now ∧ fromK8sTime (k8sTime now) = some now

def passClaims (context : Context) (autoscaler : ClaimAutoscaler) : Option (List Claim) :=
  context.listing.toOption.bind fun listing => (targetClaims autoscaler listing).toOption

/-- Every recorded time and the configured cooldown add up to an instant. -/
def CooldownsInRange (autoscaler : ClaimAutoscaler) : Prop :=
  ∀ claim ∈ autoscaler.claims, ∀ time ∈ claim.lastScaleTime, ∀ last ∈ fromK8sTime time,
    last + configuredCooldown autoscaler.spec * 1000000000 ≤ latestInstant

instance (autoscaler : ClaimAutoscaler) : Decidable (CooldownsInRange autoscaler) :=
  inferInstanceAs (Decidable (∀ claim ∈ _, ∀ time ∈ _, ∀ last ∈ _, _))

/-- What a pass needs so that no record is lost. -/
structure KeepsRecords (text : TimeText) (autoscaler : ClaimAutoscaler) (context : Context) :
    Prop where
  writes : ∀ name quantity, context.resizeClaim name quantity = .ok () →
    context.patchStatus = .ok () ∧ HoldsExactly text context.now
  inRange : CooldownsInRange autoscaler
  /-- A pass with target claims still has every claim with a record among them. -/
  retains : ∀ claims ∈ passClaims context autoscaler, claims ≠ [] →
    ∀ claim ∈ autoscaler.claims, claim.lastScaleTime.isSome → claim.name ∈ claims.map (·.name)

/-- The condition of a run: every pass keeps the records. -/
def ScalingRun.Keeps (text : TimeText) (run : ScalingRun) : ScalingEvent → Prop
  | .pass context => KeepsRecords text run.autoscaler context
  | .edit _ _ => True

/-! ## What a pass does to the records -/

section Pass

variable {text : TimeText} {context : Context} {autoscaler : ClaimAutoscaler}
  {effective : Effective} {cooldown : Nat}

theorem cooldown_le {last : Int} (early : -8334601228800000000000 ≤ last)
    (inRange : last + cooldown * 1000000000 ≤ 8210266876799999999999) :
    cooldown ≤ 9223372036854775 := by
  omega

variable {last : Instant} {time : Time}

theorem addDelta_of_le (read : fromK8sTime time = some last)
    (inRange : last + cooldown * 1000000000 ≤ latestInstant) :
    addDelta last (timeDelta cooldown) = some (last + cooldown * 1000000000) := by
  have early : earliestInstant ≤ last := by
    unfold fromK8sTime at read
    dsimp only at read
    split at read
    next within => exact some.inj read ▸ within.1
    · cases read
  have short : cooldown ≤ 9223372036854775 := cooldown_le early inRange
  simp [timeDelta, short, addDelta, inRange]

theorem configuredCooldown_eq (compiled : compile autoscaler.spec = .ok effective) :
    configuredCooldown autoscaler.spec = effective.cooldown := by
  simp [configuredCooldown, compiled]

theorem CooldownsInRange.addDelta_recorded (fits : CooldownsInRange autoscaler)
    (compiled : compile autoscaler.spec = .ok effective) {name : String}
    (found : recordedTime autoscaler.claims name = some time)
    (read : fromK8sTime time = some last) :
    addDelta last (timeDelta effective.cooldown) =
      some (last + effective.cooldown * 1000000000) := by
  obtain ⟨claim, member, -, timed⟩ := exists_of_recordedTime found
  have inRange := fits claim member time timed last read
  rw [configuredCooldown_eq compiled] at inRange
  exact addDelta_of_le read inRange

theorem CooldownsInRange.isSome_cooldownEnd (fits : CooldownsInRange autoscaler)
    (compiled : compile autoscaler.spec = .ok effective) (name : String) :
    (cooldownEnd effective (recorded autoscaler name).at_).isSome := by
  rw [recorded_at]
  cases found : recordedTime autoscaler.claims name with
  | none => rfl
  | some time =>
    cases read : fromK8sTime time with
    | none => simp [read, cooldownEnd]
    | some => simp [read, cooldownEnd, fits.addDelta_recorded compiled found read]

/-- Either the pass leaves the entries out, or it lists its target claims. -/
theorem evaluate_cases (keeps : KeepsRecords text autoscaler context) :
    ((evaluate context autoscaler).resized = [] ∧
      ∀ next, (evaluate context autoscaler).verdict = .status next → next.claims = []) ∨
    ∃ effective listing claims entries next, compile autoscaler.spec = .ok effective ∧
      context.listing = .ok listing ∧ targetClaims autoscaler listing = .ok claims ∧
      (evaluate context autoscaler).verdict = .status next ∧
      next.claims = carriedEntries autoscaler.claims entries ∧
      Surveyed context autoscaler effective claims (evaluate context autoscaler).resized
        entries := by
  unfold evaluate
  cases compiled : compile autoscaler.spec with
  | error =>
    refine .inl ⟨rfl, ?_⟩
    rintro next ⟨rfl⟩
    exact carriedEntries_eq_nil.mpr rfl
  | ok effective =>
    cases listed : context.listing with
    | error =>
      refine .inl ⟨rfl, ?_⟩
      intro next ended
      cases ended
    | ok listing =>
      dsimp only
      cases resolved : targetClaims autoscaler listing with
      | error =>
        refine .inl ⟨rfl, ?_⟩
        rintro next ⟨rfl⟩
        exact carriedEntries_eq_nil.mpr rfl
      | ok claims =>
        refine .inr ?_
        unfold evaluateClaims
        dsimp only
        split
        · exact ⟨effective, listing, claims, _, _, rfl, rfl, resolved, rfl, rfl,
            surveyed_uniform claims _ _⟩
        · split
          · exact ⟨effective, listing, claims, _, _, rfl, rfl, resolved, rfl, rfl,
              surveyed_uniform claims _ _⟩
          next usage _ =>
            obtain ⟨entries, decided⟩ := isSome_iff_exists.mp
              (@isSome_decideClaims context autoscaler effective claims usage
                (keeps.inRange.isSome_cooldownEnd compiled))
            refine ⟨effective, listing, claims, entries, _, rfl, rfl, resolved,
              by rw [decided], ?_, surveyed_decideClaims decided⟩
            unfold decidedStatus
            dsimp only
            split <;> rfl

end Pass

/-! ## Runs -/

/-- The stored entries hold the time of a resize, or a later one. -/
def Remembers (text : TimeText) (claims : List ClaimStatus) (name : String) (at_ : Instant) :
    Prop :=
  ∃ time last, recordedTime claims name = some time ∧ text.held time = time ∧
    fromK8sTime time = some last ∧ at_ ≤ last

section Records

variable {text : TimeText} {context : Context} {autoscaler : ClaimAutoscaler}
  {effective : Effective}

theorem time_le_of_ends {at_ last ends now : Int} {cooldown : Nat} (after : at_ ≤ last)
    (sum : last + cooldown * 1000000000 = ends) (elapsed : ends ≤ now) : at_ ≤ now := by
  omega

section

variable (keeps : KeepsRecords text autoscaler context)
include keeps

/-- The record of a resize lasts as long as no pass drops the claim's entry. -/
theorem remembers_reconcile {name : String}
    {at_ : Instant} (remembered : Remembers text autoscaler.claims name at_) :
    Remembers text (reconcile text context autoscaler).claims name at_ := by
  rcases evaluate_cases keeps with ⟨-, bare⟩ |
    ⟨effective, listing, claims, entries, next, compiled, listed, resolved, ended, built, survey⟩
  · cases ended : (evaluate context autoscaler).verdict with
    | status next =>
      rcases claims_reconcile text ended with ⟨unchanged, -⟩ | ⟨-, filled⟩
      · rwa [unchanged]
      · exact absurd (bare next ended) filled
    | failed | panicked => rwa [claims_reconcile_of_ne text ended (by simp)]
  · rcases claims_reconcile text ended with ⟨unchanged, -⟩ | ⟨written, filled⟩
    · rwa [unchanged]
    · obtain ⟨time, last, found, held, read, after⟩ := remembered
      have nonempty : claims ≠ [] := by
        rintro rfl
        have noEntries : entries = [] := map_eq_nil_iff.mp survey.names
        exact filled (by rw [built, noEntries]; exact carriedEntries_eq_nil.mpr rfl)
      obtain ⟨old, oldMember, oldNamed, oldTimed⟩ := exists_of_recordedTime found
      have passed : passClaims context autoscaler = some claims := by
        simp [passClaims, listed, resolved, Except.toOption]
      have target := keeps.retains claims passed nonempty old oldMember (by simp [oldTimed])
      rw [oldNamed, ← survey.names] at target
      obtain ⟨listedClaim, member, rfl⟩ := mem_map.mp target
      have distinct : (entries.map (·.name)).Nodup := by
        rw [survey.names]
        exact nodup_targetClaims resolved
      have rewritten : recordedTime (reconcile text context autoscaler).claims listedClaim.name =
          (listedClaim.lastScaleTime.or
            (previousTime autoscaler.claims listedClaim.name)).map text.held := by
        rw [written, recordedTime_held, built, recordedTime_carriedEntries distinct member]
      rcases survey.others listedClaim member with untimed | ⟨stamped, claim, resized, same⟩
      · -- the entry takes the recorded time over
        refine ⟨time, last, ?_, held, read, after⟩
        rw [rewritten, untimed, previousTime_of_recordedTime found]
        exact congrArg some held
      · -- the claim is resized again, after its cooldown
        obtain ⟨quantity, accepted⟩ := survey.accepted claim resized
        obtain ⟨-, heldNow, readNow⟩ := keeps.writes claim.name quantity accepted
        have recordedLast : (recorded autoscaler claim.name).at_ = some last := by
          rw [recorded_at, same, found]
          exact read
        obtain ⟨_, sum, elapsed⟩ := survey.rested claim resized last recordedLast
        rw [keeps.inRange.addDelta_recorded compiled found read] at sum
        refine ⟨k8sTime context.now, context.now, ?_, heldNow, readNow, ?_⟩
        · rw [rewritten, stamped]
          exact congrArg some heldNow
        · exact time_le_of_ends after (some.inj sum) elapsed

theorem remembers_resized {claim : Claim}
    (resized : claim ∈ (evaluate context autoscaler).resized) :
    Remembers text (reconcile text context autoscaler).claims claim.name context.now := by
  rcases evaluate_cases keeps with ⟨none, -⟩ |
    ⟨effective, listing, claims, entries, next, compiled, listed, resolved, ended, built, survey⟩
  · rw [none] at resized
    cases resized
  · obtain ⟨quantity, accepted⟩ := survey.accepted claim resized
    obtain ⟨patched, heldNow, readNow⟩ := keeps.writes claim.name quantity accepted
    obtain ⟨_, member, named, stamped⟩ := survey.stamped claim resized
    have distinct : (entries.map (·.name)).Nodup := by
      rw [survey.names]
      exact nodup_targetClaims resolved
    have recordedNow : recordedTime next.claims claim.name = some (k8sTime context.now) := by
      rw [built, ← named, recordedTime_carriedEntries distinct member, stamped]
      rfl
    refine ⟨k8sTime context.now, context.now, ?_, heldNow, readNow, le_refl _⟩
    rcases claims_reconcile text ended with ⟨unchanged, unwritten⟩ | ⟨written, -⟩
    · rcases unwritten with refused | empty | same
      · exact absurd patched refused
      · rw [empty] at recordedNow
        cases recordedNow
      · rw [unchanged, ← same, recordedNow]
    · rw [written, recordedTime_held, recordedNow]
      exact congrArg some heldNow

theorem apart_of_remembers {later earlier : Resize}
    (resized : later ∈ passResizes context autoscaler)
    (remembered : Remembers text autoscaler.claims earlier.name earlier.time) :
    later.Apart earlier := by
  obtain ⟨claim, member, rfl⟩ := mem_map.mp resized
  intro sameName _
  dsimp only at sameName ⊢
  rcases evaluate_cases keeps with ⟨none, -⟩ |
    ⟨effective, listing, claims, entries, next, compiled, listed, resolved, ended, built, survey⟩
  · rw [none] at member
    cases member
  · obtain ⟨_, last, found, -, read, after⟩ := remembered
    have recordedLast : (recorded autoscaler claim.name).at_ = some last := by
      rw [recorded_at, sameName, found]
      exact read
    obtain ⟨_, sum, elapsed⟩ := survey.rested claim member last recordedLast
    rw [keeps.inRange.addDelta_recorded compiled found read] at sum
    have rested := (some.inj sum).trans_le elapsed
    rw [configuredCooldown_eq compiled]
    exact (Int.add_le_add_right after _).trans rested

theorem pairwise_passResizes : (passResizes context autoscaler).Pairwise Resize.Apart := by
  rcases evaluate_cases keeps with ⟨none, -⟩ |
    ⟨effective, listing, claims, entries, next, compiled, listed, resolved, ended, built, survey⟩
  · simp [passResizes, none]
  · have distinct := (survey.among.map (·.name)).nodup (nodup_targetClaims resolved)
    apply pairwise_map.mpr
    refine (pairwise_map.mp distinct).imp ?_
    intro _ _ different sameName
    exact absurd sameName different

end

end Records

structure ScalingRun.Spaced (text : TimeText) (run : ScalingRun) : Prop where
  remembered : ∀ resize ∈ run.resizes,
    Remembers text run.autoscaler.claims resize.name resize.time
  apart : run.resizes.Pairwise Resize.Apart

variable {run : ScalingRun} {text : TimeText}

theorem ScalingRun.Spaced.initial (begins : run.Initial) : run.Spaced text where
  remembered := by
    rw [begins]
    simp
  apart := by
    rw [begins]
    exact List.Pairwise.nil

variable {event : ScalingEvent}

theorem ScalingRun.Spaced.step {after : ScalingRun} (spaced : run.Spaced text)
    (keeps : run.Keeps text event) (taken : run.Step text event after) : after.Spaced text := by
  cases event with
  | pass =>
    obtain ⟨-, rfl⟩ := of_guard taken
    constructor
    · intro resize member
      rcases mem_append.mp member with new | old
      · obtain ⟨_, resized, rfl⟩ := mem_map.mp new
        exact remembers_resized keeps resized
      · exact remembers_reconcile keeps (spaced.remembered resize old)
    · apply pairwise_append.mpr
      refine ⟨pairwise_passResizes keeps, spaced.apart, ?_⟩
      intro _ new earlier old
      exact apart_of_remembers keeps new (spaced.remembered earlier old)
  | edit =>
    cases taken
    exact ⟨spaced.remembered, spaced.apart⟩

/-- In a run whose passes keep the records, two resizes of one claim object are at least the
configured cooldown apart. -/
theorem resizes_apart (text : TimeText) {run : ScalingRun}
    (reached : Reachable ScalingRun.Initial (ScalingRun.Step text) (ScalingRun.Keeps text) run) :
    run.resizes.Pairwise Resize.Apart := by
  have spaced : run.Spaced text := reached.invariant (fun _ begins => .initial begins)
    fun _ _ _ spaced keeps taken => spaced.step keeps taken
  exact spaced.apart

/-! ## Runs that lose a record -/

def wholeSeconds : TimeText where
  held time := time / 1000 * 1000
  held_held time := by rw [Int.mul_ediv_cancel _ (by decide)]

/-- An autoscaler of a stateful set, with the defaults but for the cooldown. -/
def webAutoscaler (cooldown : Option String) : ClaimAutoscaler :=
  { namespace_ := "ns"
    name := "web"
    generation := some 1
    spec :=
      { scaleTargetRef := { kind := .statefulSet, name := "web" }
        maxCapacity := "100Gi"
        behavior := some { scaleUp := some { cooldownDuration := cooldown } } } }

def webClaim (name capacity : String) : PersistentVolumeClaim :=
  { name
    uid := "uid-" ++ name
    storageClassName := some "gp3"
    requests := some capacity
    status := some { phase := some "Bound", capacity := some capacity } }

/-- A pass at which the first of two claims is 85 percent full. -/
def webPass (now : Instant) (templates : List String) (capacity : String)
    (patched : Except String Unit) : Context :=
  { now
    listing := .ok
      { objects := [webClaim "data-web-0" capacity, webClaim "log-web-0" "10Gi"]
        statefulSets :=
          [{ name := "web"
             volumeClaimTemplates := templates.map fun template => { name := some template } }]
        classes := { expandable := [("gp3", true)] }
        distinct := by simp [webClaim] }
    query := fun series =>
      match series with
      | .storage => .ok [("data-web-0", 85), ("log-web-0", 10)]
      | _ => .ok []
    patchStatus := patched }

/-- Every status patch is accepted, at a time that its text holds, and no record is lost. -/
def ScalingRun.Patched (text : TimeText) (run : ScalingRun) : ScalingEvent → Prop
  | .pass context =>
    (context.patchStatus = .ok () ∧ HoldsExactly text context.now) ∧
    CooldownsInRange run.autoscaler ∧
    ∀ claims ∈ passClaims context run.autoscaler, claims ≠ [] →
      ∀ claim ∈ run.autoscaler.claims, claim.lastScaleTime.isSome →
        claim.name ∈ claims.map (·.name)
  | .edit _ _ => True

instance (text : TimeText) (now : Instant) : Decidable (HoldsExactly text now) :=
  inferInstanceAs (Decidable (_ ∧ _))

instance (text : TimeText) (run : ScalingRun) (event : ScalingEvent) :
    Decidable (run.Patched text event) :=
  match event with
  | .pass _ => inferInstanceAs (Decidable (_ ∧ _ ∧ _))
  | .edit _ _ => inferInstanceAs (Decidable True)

theorem ScalingRun.Patched.keeps (patched : run.Patched text event) : run.Keeps text event := by
  cases event with
  | pass =>
    obtain ⟨written, inRange, retains⟩ := patched
    exact ⟨fun _ _ _ => written, inRange, retains⟩
  | edit => trivial

/-- Two resizes, half an hour apart. -/
theorem resizes_apart_web :
    ∃ run : ScalingRun, run.resizes.length = 2 ∧ run.resizes.Pairwise Resize.Apart := by
  have follows : ∃ run, Reachable ScalingRun.Initial (ScalingRun.Step wholeSeconds)
      (ScalingRun.Patched wholeSeconds) run ∧ run.resizes.length = 2 := by
    apply Reachable.exists_of_follow (ScalingRun.act wholeSeconds)
      [.pass (webPass 1000000000000000000 ["data"] "50Gi" (.ok ())),
        .pass (webPass 1000001800000000000 ["data"] "55Gi" (.ok ()))]
      (show ScalingRun.Initial { autoscaler := webAutoscaler none } from rfl)
    · intro run _ _ taken
      exact taken
    · decide +kernel
  obtain ⟨run, reached, two⟩ := follows
  have kept := reached.mono fun _ _ patched => patched.keeps
  exact ⟨run, two, resizes_apart wholeSeconds kept⟩

/-- Whether the passes, one after the other, resize a claim twice within its cooldown. -/
def resizesEarly (cooldown : Option String) (passes : List Context) : Bool :=
  ((passes.map ScalingEvent.pass).foldlM (ScalingRun.act wholeSeconds)
      { autoscaler := webAutoscaler cooldown }).any fun run =>
    decide (¬ run.resizes.Pairwise Resize.Apart)

/-- The claim is left out of the targets of one pass. -/
example : resizesEarly none
    [webPass 1000000000000000000 ["data", "log"] "50Gi" (.ok ()),
      webPass 1000000300000000000 ["log"] "55Gi" (.ok ()),
      webPass 1000000600000000000 ["data", "log"] "55Gi" (.ok ())] = true := by
  decide +kernel

/-- The cooldown is too long for a `TimeDelta`. -/
example : resizesEarly (some "9223372036854776s")
    [webPass 1000000000000000000 ["data"] "50Gi" (.ok ()),
      webPass 1000000600000000000 ["data"] "55Gi" (.ok ())] = true := by
  decide +kernel

/-- The recorded time is cut to whole seconds. -/
example : resizesEarly none
    [webPass 1000000000999000000 ["data"] "50Gi" (.ok ()),
      webPass 1000001800000000000 ["data"] "55Gi" (.ok ())] = true := by
  decide +kernel

/-- The status patch after a resize fails, and the claim is resized again ten minutes
later. -/
theorem resized_within_cooldown :
    ∃ run, Reachable ScalingRun.Initial (ScalingRun.Step wholeSeconds) (fun _ _ => True) run ∧
      ¬ run.resizes.Pairwise Resize.Apart := by
  apply Reachable.exists_of_follow (ScalingRun.act wholeSeconds)
    [.pass (webPass 1000000000000000000 ["data"] "50Gi" (.error "request timed out")),
      .pass (webPass 1000000600000000000 ["data"] "55Gi" (.ok ()))]
    (show ScalingRun.Initial { autoscaler := webAutoscaler none } from rfl)
  · intro _ _ _ taken
    exact taken
  · decide +kernel

end Addons.VolumeAutoscaler
