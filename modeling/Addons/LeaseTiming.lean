import Addons.LeaseElection
import Mathlib.Algebra.Order.Ring.Int

/-!
# The elector's timers

The same elector, with the instants at which it acts.
-/

namespace Addons.LeaseTiming

open ConditionalStore TransitionSystem LeaseElection

/-- Durations and instants count nanoseconds. -/
def second : Nat := 1000000000

structure LeaderElectionConfig where
  leaseDuration : Nat
  renewDeadline : Nat
  retryPeriod : Nat

namespace LeaderElectionConfig

/-- `exceeds` is the floating-point comparison of the renew deadline with the retry period
times the jitter factor. -/
def validate (config : LeaderElectionConfig) (exceeds : Nat → Nat → Bool) :
    Except String Unit :=
  if config.leaseDuration ≤ config.renewDeadline then
    .error "leaseDuration must be greater than renewDeadline"
  else if !exceeds config.renewDeadline config.retryPeriod then
    .error "renewDeadline must be greater than retryPeriod*JitterFactor"
  else if config.leaseDuration < second then
    .error "leaseDuration must be greater than zero"
  else if config.renewDeadline < second then
    .error "renewDeadline must be greater than zero"
  else if config.retryPeriod < second then
    .error "retryPeriod must be greater than zero"
  else .ok ()

/-- The whole seconds that records carry. -/
def leaseSeconds (config : LeaderElectionConfig) : Int64 :=
  Int64.ofNat (config.leaseDuration / second)

/-- How long a record read back from the Lease is valid. -/
def storedDuration (config : LeaderElectionConfig) : Nat :=
  config.leaseSeconds.toInt32.toInt64.toInt.toNat * 1000000000

end LeaderElectionConfig

/-- Where an attempt is: waiting for the fast update, for the `GET` to take effect, for
its answer, or for the create or update. -/
inductive Call where
  | fastUpdating (number : Nat)
  | getting
  | got (found : Option (Nat × Option LeaseSpec))
  | writing (wanted : LeaderElectionRecord) (number : Nat)
  deriving DecidableEq

/-- A run of `try_acquire_or_renew`. -/
structure Attempt where
  started : Nat
  record : LeaderElectionRecord
  call : Call
  deriving DecidableEq

/-- What a replica's election loop is doing. In `retryPause` the next attempt of a renewal
window is due at the first instant, and the window ends at the second. In `renewPause` the
next window begins. -/
inductive Activity where
  | acquiring (attempt : Attempt)
  | acquirePause (wake : Nat)
  | window (deadline : Nat) (attempt : Attempt)
  | retryPause (wake deadline : Nat)
  | renewPause (wake : Nat)
  | releasing (number deadline : Nat)
  | backoff (wake : Nat)
  | finished
  deriving DecidableEq

namespace Activity

/-- The replica has a lead token that `run` has not cancelled. -/
def leads : Activity → Bool
  | window _ _ | retryPause _ _ | renewPause _ | releasing _ _ => true
  | _ => false

def attempt? : Activity → Option Attempt
  | acquiring attempt | window _ attempt => some attempt
  | _ => none

def withCall (call : Call) : Activity → Activity
  | acquiring attempt => acquiring { attempt with call := call }
  | window deadline attempt => window deadline { attempt with call := call }
  | other => other

/-- After an attempt that failed; only `acquire` jitters its pause. -/
def failed (config : LeaderElectionConfig) (now pause : Nat) : Activity → Activity
  | acquiring _ => acquirePause (now + pause)
  | window deadline _ => retryPause (now + config.retryPeriod) deadline
  | other => other

/-- After an attempt that succeeded: the first renewal is due at once. -/
def succeeded (config : LeaderElectionConfig) (now : Nat) : Activity → Activity
  | acquiring _ => renewPause now
  | window _ _ => renewPause (now + config.retryPeriod)
  | other => other

/-- The instant at which a release runs into its timeout. -/
def releaseEnd? : Activity → Option Nat
  | releasing _ deadline => some deadline
  | _ => none

/-- The instant at which a timer of the leader is due. -/
def due? : Activity → Option Nat
  | window deadline _ | retryPause _ deadline | releasing _ deadline => some deadline
  | renewPause wake => some wake
  | _ => none

end Activity

/-- `cancelled` tells whether the term's token is cancelled, and with it the lead token.
`acknowledged` is the renew time of the last record that the replica knows is stored. -/
structure Replica where
  lease : Option (Nat × Option LeaseSpec) := none
  elector : LeaderElector := {}
  activity : Activity := .acquirePause 0
  cancelled : Bool := false
  steppingDown : Bool := false
  shutDown : Bool := false
  acknowledged : Int := 0
  deriving DecidableEq

/-- A write of the Lease on its way to the API server. -/
structure Request (Id : Type) where
  number : Nat
  sender : Id
  release : Bool
  condition : Condition
  record : LeaderElectionRecord
  deriving DecidableEq

/-- What the replicas share: the time, the Lease, and the requests. `stored` gives the
object that a request stored, with its resource version. -/
structure Shared (Id : Type) where
  now : Nat
  lease : Cell (Option LeaseSpec)
  writes : List (Request Id)
  stored : Nat → Option (Nat × Option LeaseSpec)
  nextNumber : Nat

structure State (Id : Type) extends Shared Id where
  replica : Id → Replica

/-- The replicas that contend, with the configuration they share. Their identities are the
names of their pods, and `offset` is what each wall clock is ahead of the common clock. -/
structure Deployment (Id : Type) where
  config : LeaderElectionConfig
  identity : Id → String
  offset : Id → Int
  named : ∀ id, identity id ≠ ""
  distinct : Function.Injective identity

/-- A replica's wall-clock time in microseconds. -/
def Deployment.wall {Id : Type} (fleet : Deployment Id) (id : Id) (now : Nat) : Int :=
  ((now : Int) + fleet.offset id) / 1000

section Model

variable {Id : Type} [DecidableEq Id] (fleet : Deployment Id)

namespace Shared

/-- A request leaves for the API server. -/
def send (shared : Shared Id) (sender : Id) (release : Bool) (condition : Condition)
    (record : LeaderElectionRecord) : Shared Id :=
  { shared with
    writes := ⟨shared.nextNumber, sender, release, condition, record⟩ :: shared.writes
    nextNumber := shared.nextNumber + 1 }

def land (shared : Shared Id) (request : Request Id) : Shared Id :=
  let content := some (recordToLeaseSpec request.record)
  { shared with
    lease := shared.lease.write content
    writes := shared.writes.filter fun other => other.number ≠ request.number
    stored := Function.update shared.stored request.number (some (shared.lease.nextTag, content)) }

def refuse (shared : Shared Id) (request : Request Id) : Shared Id :=
  { shared with writes := shared.writes.filter fun other => other.number ≠ request.number }

/-- A request reaches the API server. -/
def deliver (shared : Shared Id) (number : Nat) : Option (Shared Id) :=
  (shared.writes.find? fun request => request.number = number).map fun request =>
    if shared.lease.accepts request.condition then shared.land request
    else shared.refuse request

end Shared

namespace State

def set (state : State Id) (id : Id) (replica : Replica) : State Id :=
  { state with replica := Function.update state.replica id replica }

def send (state : State Id) (id : Id) (replica : Replica) (release : Bool) (condition : Condition)
    (record : LeaderElectionRecord) : State Id :=
  { state.toShared.send id release condition record with
    replica := Function.update state.replica id replica }

/-- Start an attempt: a leader whose lease is valid updates optimistically. -/
def start (state : State Id) (id : Id) (replica : Replica) (within : Attempt → Activity) :
    State Id :=
  let record := attemptRecord (fleet.identity id) fleet.config.leaseSeconds
    (fleet.wall id state.now)
  let fast := replica.elector.isLeader (fleet.identity id) && replica.elector.isLeaseValid state.now
  let record := if fast then LeaderElector.renewal record replica.elector.observedRecord else record
  match fast, replica.lease with
  | true, some (version, _) =>
    state.send id
      { replica with activity := within ⟨state.now, record, .fastUpdating state.nextNumber⟩ }
      false (.ifMatch version) record
  | _, _ => state.set id { replica with activity := within ⟨state.now, record, .getting⟩ }

/-- A replica goes on once its pause is over. Within a window nothing asks again whether the
term is cancelled. -/
def begin (state : State Id) (id : Id) : Option (State Id) :=
  let replica := state.replica id
  match replica.activity with
  | .acquirePause wake =>
    if wake ≤ state.now ∧ !replica.cancelled then
      some (state.start fleet id replica .acquiring)
    else none
  | .backoff wake =>
    if wake ≤ state.now ∧ !replica.cancelled then
      some (state.start fleet id
        { replica with elector := { observedTime := state.now } } .acquiring)
    else none
  | .retryPause wake deadline =>
    if wake ≤ state.now then
      some (state.start fleet id replica (.window deadline))
    else none
  | .renewPause wake =>
    if wake ≤ state.now ∧ !replica.cancelled then
      some (state.start fleet id replica
        (.window (state.now + fleet.config.renewDeadline)))
    else none
  | _ => none

/-- The `GET` of an attempt takes effect. -/
def read (state : State Id) (id : Id) : Option (State Id) :=
  let replica := state.replica id
  match replica.activity.attempt? with
  | some ⟨_, _, .getting⟩ =>
    some (state.set id
      { replica with activity := replica.activity.withCall (.got state.lease.current) })
  | _ => none

/-- The attempt ends without success. -/
def giveUp (state : State Id) (id : Id) (replica : Replica) (pause : Nat) : State Id :=
  state.set id { replica with activity := replica.activity.failed fleet.config state.now pause }

/-- The answer of the `GET` arrives: create the Lease, leave it to its holder, or take it. -/
def respond (state : State Id) (id : Id) (pause : Nat) : Option (State Id) :=
  let replica := state.replica id
  if pause < fleet.config.retryPeriod ∨ fleet.config.retryPeriod * 22 < pause * 10 then none
  else
    match replica.activity.attempt? with
    | some ⟨_, record, .got none⟩ =>
      some (state.send id
        { replica with activity := replica.activity.withCall (.writing record state.nextNumber) }
        false .ifNoneMatch record)
    | some ⟨_, record, .got (some (version, spec))⟩ =>
      let old := leaseSpecToRecord spec
      let elector := replica.elector.observe old state.now
      let replica := { replica with lease := some (version, spec), elector := elector }
      if elector.heldByOther (fleet.identity id) old state.now then
        some (state.giveUp fleet id replica pause)
      else
        let wanted := elector.acquisition (fleet.identity id) record old
        some (state.send id
          { replica with activity := replica.activity.withCall (.writing wanted state.nextNumber) }
          false (.ifMatch version) wanted)
    | _ => none

/-- A call fails; only after the fast update does the attempt go on. -/
def fail (state : State Id) (id : Id) (pause : Nat) : Option (State Id) :=
  let replica := state.replica id
  if pause < fleet.config.retryPeriod ∨ fleet.config.retryPeriod * 22 < pause * 10 then none
  else
    match replica.activity.attempt? with
    | some ⟨_, _, .fastUpdating _⟩ =>
      some (state.set id { replica with activity := replica.activity.withCall .getting })
    | some _ => some (state.giveUp fleet id replica pause)
    | none => none

def succeed (state : State Id) (id : Id) (replica : Replica) (record : LeaderElectionRecord)
    (content : Nat × Option LeaseSpec) : State Id :=
  state.set id
    { replica with
      lease := some content
      elector := replica.elector.setObservedRecord record state.now
      activity := replica.activity.succeeded fleet.config state.now
      acknowledged := record.renewTime.getD 0 }

def ack (state : State Id) (id : Id) : Option (State Id) :=
  let replica := state.replica id
  match replica.activity.attempt? with
  | some ⟨_, record, .fastUpdating number⟩ =>
    (state.stored number).map (state.succeed fleet id replica record)
  | some ⟨_, _, .writing wanted number⟩ =>
    (state.stored number).map (state.succeed fleet id replica wanted)
  | _ => none

/-- The term is over, and its elector is dropped. -/
def stop (state : State Id) (id : Id) (replica : Replica) : State Id :=
  let pause := if replica.steppingDown then fleet.config.leaseDuration + fleet.config.retryPeriod
    else fleet.config.retryPeriod
  state.set id
    { replica with
      elector := {}
      activity := if replica.shutDown then .finished else .backoff (state.now + pause)
      cancelled := false
      steppingDown := false }

/-- `release`, which ends the term at once when the replica does not hold the Lease. -/
def release (state : State Id) (id : Id) (replica : Replica) : State Id :=
  match replica.elector.isLeader (fleet.identity id), replica.lease with
  | true, some (version, _) =>
    state.send id
      { replica with
        activity := .releasing state.nextNumber (state.now + fleet.config.renewDeadline) }
      true (.ifMatch version) (replica.elector.released (fleet.wall id state.now))
  | _, _ => state.stop fleet id replica

/-- The renewal window is over or the term was cancelled. -/
def interrupt (state : State Id) (id : Id) : Option (State Id) :=
  let replica := state.replica id
  match replica.activity with
  | .window deadline _ | .retryPause _ deadline =>
    if replica.cancelled ∨ deadline ≤ state.now then some (state.release fleet id replica)
    else none
  | .renewPause _ => if replica.cancelled then some (state.release fleet id replica) else none
  | .acquiring _ | .acquirePause _ =>
    if replica.cancelled then some (state.stop fleet id replica) else none
  | _ => none

/-- The release was answered, failed, or took too long. -/
def endRelease (state : State Id) (id : Id) (answered : Bool) : Option (State Id) :=
  let replica := state.replica id
  match replica.activity with
  | .releasing number _ =>
    if answered then
      (state.stored number).map fun content =>
        state.stop fleet id { replica with lease := some content }
    else some (state.stop fleet id replica)
  | _ => none

/-- `step_down`, for a replica that leads. -/
def stepDown (state : State Id) (id : Id) : Option (State Id) :=
  let replica := state.replica id
  if replica.activity.leads then
    some (state.set id { replica with cancelled := true, steppingDown := true })
  else none

def shutDown (state : State Id) (id : Id) : State Id :=
  state.set id { state.replica id with cancelled := true, shutDown := true }

end State

inductive Event (Id : Type) where
  | tick (elapsed : Nat)
  | begin (id : Id)
  | read (id : Id)
  | respond (id : Id) (pause : Nat)
  | fail (id : Id) (pause : Nat)
  | ack (id : Id)
  | interrupt (id : Id)
  | endRelease (id : Id) (answered : Bool)
  | stepDown (id : Id)
  | shutDown (id : Id)
  | restart (id : Id)
  | deliver (number : Nat)
  deriving DecidableEq

/-- What an event other than the passing of time does. -/
def act (state : State Id) : Event Id → Option (State Id)
  | .tick _ => none
  | .begin id => state.begin fleet id
  | .read id => state.read id
  | .respond id pause => state.respond fleet id pause
  | .fail id pause => state.fail fleet id pause
  | .ack id => state.ack fleet id
  | .interrupt id => state.interrupt fleet id
  | .endRelease id answered => state.endRelease fleet id answered
  | .stepDown id => state.stepDown id
  | .shutDown id => some (state.shutDown id)
  | .restart id => some (state.set id {})
  | .deliver number =>
    (state.toShared.deliver number).map fun shared => { state with toShared := shared }

/-- Time passes until a timer of a leader is due, or something happens. -/
inductive Step : State Id → Event Id → State Id → Prop where
  | tick {state : State Id} {elapsed : Nat}
      (due : ∀ id, ∀ instant ∈ (state.replica id).activity.due?, state.now + elapsed ≤ instant) :
      Step state (.tick elapsed) { state with now := state.now + elapsed }
  | acts {state after : State Id} {event : Event Id}
      (taken : act fleet state event = some after) : Step state event after

/-- All replicas are new. The Lease may be there, left by whoever held it, with a renew time
that is not in the future. -/
structure Initial (state : State Id) : Prop where
  now : state.now = 0
  writes : state.writes = []
  stored : ∀ number, state.stored number = none
  replica : ∀ id, state.replica id = {}
  lease : ∀ spec ∈ state.lease.value?, ∀ id time,
    (leaseSpecToRecord spec).holderIdentity = fleet.identity id →
      (leaseSpecToRecord spec).renewTime = some time → time ≤ fleet.wall id 0

/-- The replica holds a lead token that is not cancelled. -/
def Leads (state : State Id) (id : Id) : Prop :=
  (state.replica id).activity.leads = true ∧ (state.replica id).cancelled = false

end Model

open Cell Shared LeaderElector

/-! ## How long a record binds the other replicas -/

variable {Id : Type}

namespace Deployment

variable (fleet : Deployment Id)

/-- The instant at which the wall clock of `id` began to show `time`. -/
def since (id : Id) (time : Int) : Int :=
  time * 1000 - fleet.offset id

/-- The instant at which a record of `id` that was renewed at `time` lapses. -/
def expiry (id : Id) (time : Int) : Int :=
  fleet.since id time + fleet.config.storedDuration

def Past (now : Nat) (record : LeaderElectionRecord) : Prop :=
  ∀ id time, record.holderIdentity = fleet.identity id → record.renewTime = some time →
    fleet.since id time ≤ now

/-- On the holder's clock the lease duration has passed since the renew time. -/
def Lapsed (now : Nat) (record : LeaderElectionRecord) : Prop :=
  ∀ id time, record.holderIdentity = fleet.identity id → record.renewTime = some time →
    fleet.since id time + record.leaseDurationSeconds.toInt.toNat * 1000000000 ≤ now

/-- A record over which `id` may write. -/
def Yields (now : Nat) (id : Id) (record : LeaderElectionRecord) : Prop :=
  record.holderIdentity = fleet.identity id ∨ fleet.Lapsed now record

def RenewedBy (id : Id) (time : Int) (record : LeaderElectionRecord) : Prop :=
  record.holderIdentity = fleet.identity id → ∀ renewed, record.renewTime = some renewed →
    renewed ≤ time

variable {fleet} {now later : Nat} {id : Id} {record : LeaderElectionRecord}

theorem since_wall_le (fleet : Deployment Id) (id : Id) (now : Nat) :
    fleet.since id (fleet.wall id now) ≤ now := by
  simp only [since, wall]
  omega

theorem le_wall_of_since_le {time : Int} (past : fleet.since id time ≤ now) :
    time ≤ fleet.wall id now := by
  apply Int.le_ediv_of_mul_le (by decide)
  simp only [since] at past
  omega

theorem since_mono (fleet : Deployment Id) (id : Id) {first second : Int} (le : first ≤ second) :
    fleet.since id first ≤ fleet.since id second := by
  simp only [since]
  omega

theorem Past.mono (past : fleet.Past now record) (le : now ≤ later) : fleet.Past later record := by
  intro holder time holderEq renewed
  have written := past holder time holderEq renewed
  omega

theorem Past.renewedBy (past : fleet.Past now record) :
    fleet.RenewedBy id (fleet.wall id now) record := by
  intro holderEq renewed renewedEq
  exact le_wall_of_since_le (past id renewed holderEq renewedEq)

theorem past_of_unheld (unheld : record.holderIdentity = "") : fleet.Past now record := by
  intro holder time holderEq
  exact absurd (holderEq.symm.trans unheld) (fleet.named holder)

theorem Yields.mono (yields : fleet.Yields now id record) (le : now ≤ later) :
    fleet.Yields later id record := by
  rcases yields with own | lapsed
  · exact .inl own
  · right
    intro holder time holderEq renewed
    have ended := lapsed holder time holderEq renewed
    omega

theorem yields_of_unheld (unheld : record.holderIdentity = "") : fleet.Yields now id record := by
  right
  intro holder time holderEq
  exact absurd (holderEq.symm.trans unheld) (fleet.named holder)

end Deployment

/-- What an elector has observed: either the record it read last, with an observed time
after the renew time, or a record of its own, written over what it had read. -/
inductive ElectorSound (fleet : Deployment Id) (now : Nat) (id : Id) (elector : LeaderElector) :
    Prop where
  | follows (recordEq : elector.observedRecord = elector.observedRaw.getD {})
      (past : fleet.Past elector.observedTime elector.observedRecord)
  | owns (holderEq : elector.observedRecord.holderIdentity = fleet.identity id)
      (yields : ∀ raw ∈ elector.observedRaw, fleet.Yields now id raw)

namespace ElectorSound

variable {fleet : Deployment Id} {now later : Nat} {id : Id} {elector : LeaderElector}
  {old : LeaderElectionRecord}

theorem new (observedTime : Nat) : ElectorSound fleet now id { observedTime := observedTime } :=
  .follows rfl (Deployment.past_of_unheld rfl)

theorem observedRaw_observe (elector : LeaderElector) (old : LeaderElectionRecord) (now : Nat) :
    (elector.observe old now).observedRaw = some old := by
  unfold LeaderElector.observe
  split
  case isTrue seen => exact seen
  case isFalse => rfl

section

variable (sound : ElectorSound fleet now id elector)
include sound

theorem mono (le : now ≤ later) : ElectorSound fleet later id elector := by
  cases sound with
  | follows recordEq past => exact .follows recordEq past
  | owns holderEq yields => exact .owns holderEq fun raw found => (yields raw found).mono le

theorem observe (past : fleet.Past now old) :
    ElectorSound fleet now id (elector.observe old now) := by
  unfold LeaderElector.observe
  split
  · exact sound
  · exact .follows rfl past

theorem yields_of_isLeader (leader : elector.isLeader (fleet.identity id)) :
    ∀ raw ∈ elector.observedRaw, fleet.Yields now id raw := by
  intro raw found
  cases sound with
  | follows recordEq =>
    have rawEq : elector.observedRecord = raw := by rw [recordEq, Option.mem_def.mp found]; rfl
    exact .inl (rawEq ▸ of_decide_eq_true leader)
  | owns _ yields => exact yields raw found

/-- A record that is found free yields to the replica. -/
theorem yields_of_free (found : elector.observedRaw = some old)
    (free : elector.heldByOther (fleet.identity id) old now = false) : fleet.Yields now id old := by
  by_cases unheld : old.holderIdentity = ""
  · exact Deployment.yields_of_unheld unheld
  by_cases leader : elector.isLeader (fleet.identity id)
  · exact sound.yields_of_isLeader leader old found
  have expired : elector.isLeaseValid now = false := by
    simpa [heldByOther, unheld, leader] using free
  cases sound with
  | follows recordEq past =>
    have oldEq : elector.observedRecord = old := by rw [recordEq, found]; rfl
    right
    intro holder time holderEq renewed
    have before := past holder time (oldEq ▸ holderEq) (oldEq ▸ renewed)
    simp only [isLeaseValid, oldEq, decide_eq_false_iff_not, not_lt] at expired
    omega
  | owns _ yields => exact yields old found

end

end ElectorSound

structure Seen (fleet : Deployment Id) (shared : Shared Id) (content : Nat × Option LeaseSpec) :
    Prop where
  guarded : shared.lease.Guarded (.ifMatch content.1) (· = some content.2)
  past : fleet.Past shared.now (leaseSpecToRecord content.2)
  present : shared.lease.current ≠ none

/-- The Lease carries a record of `id` that was renewed at `time` or later. -/
def Holds (fleet : Deployment Id) (shared : Shared Id) (id : Id) (time : Int) : Prop :=
  ∃ spec renewed, shared.lease.value? = some spec ∧
    (leaseSpecToRecord spec).holderIdentity = fleet.identity id ∧
    (leaseSpecToRecord spec).renewTime = some renewed ∧ time ≤ renewed ∧
    (leaseSpecToRecord spec).leaseDurationSeconds.toInt.toNat * 1000000000 =
      fleet.config.storedDuration

/-- An attempt's write that took effect and whose answer is on its way. -/
structure Landed (fleet : Deployment Id) (shared : Shared Id) (id : Id) (time : Int)
    (content : Nat × Option LeaseSpec) : Prop where
  standing : Holds fleet shared id time ∨ fleet.expiry id time ≤ shared.now
  stale : ∀ request ∈ shared.writes, request.sender = id → shared.lease.Stale request.condition
  holderEq : (leaseSpecToRecord content.2).holderIdentity = fleet.identity id

/-- The write on whose answer an attempt of `id` waits. -/
structure Pending (fleet : Deployment Id) (shared : Shared Id) (id : Id) (time : Int)
    (number : Nat) : Prop where
  sent : number < shared.nextNumber
  own : ∀ request ∈ shared.writes, request.number = number →
    request.sender = id ∧ request.release = false ∧ request.record.renewTime = some time
  landed : ∀ content, shared.stored number = some content → Landed fleet shared id time content

structure Claim (fleet : Deployment Id) (shared : Shared Id) (request : Request Id)
    (time : Int) : Prop where
  holderEq : request.record.holderIdentity = fleet.identity request.sender
  durationEq : request.record.leaseDurationSeconds = fleet.config.leaseSeconds
  renewedEq : request.record.renewTime = some time
  past : fleet.since request.sender time ≤ shared.now
  later : shared.lease.Guarded request.condition fun value =>
    ∀ spec ∈ value, fleet.RenewedBy request.sender time (leaseSpecToRecord spec)

structure RequestSound (fleet : Deployment Id) (shared : Shared Id) (request : Request Id) :
    Prop where
  sent : request.number < shared.nextNumber
  guarded : shared.lease.Guarded request.condition fun value =>
    ∀ spec ∈ value, fleet.Yields shared.now request.sender (leaseSpecToRecord spec)
  released : request.release = true → request.record.holderIdentity = ""
  claimed : request.release = false → ∃ time, Claim fleet shared request time

def CallSound (fleet : Deployment Id) (shared : Shared Id) (id : Id) (elector : LeaderElector)
    (time : Int) : Call → Prop
  | .fastUpdating number =>
    Pending fleet shared id time number ∧
      ∀ raw ∈ elector.observedRaw, fleet.Yields shared.now id raw
  | .getting => True
  | .got none => elector.observedRaw = none
  | .got (some content) =>
    Seen fleet shared content ∧ fleet.RenewedBy id time (leaseSpecToRecord content.2)
  | .writing wanted number =>
    wanted.holderIdentity = fleet.identity id ∧ wanted.renewTime = some time ∧
      Pending fleet shared id time number ∧
      ∀ raw ∈ elector.observedRaw, fleet.Yields shared.now id raw

structure AttemptSound (fleet : Deployment Id) (shared : Shared Id) (id : Id)
    (elector : LeaderElector) (attempt : Attempt) : Prop where
  started : attempt.started ≤ shared.now
  holderEq : attempt.record.holderIdentity = fleet.identity id
  durationEq : attempt.record.leaseDurationSeconds = fleet.config.leaseSeconds
  renewedEq : attempt.record.renewTime = some (fleet.wall id attempt.started)
  lease : ∀ spec ∈ shared.lease.value?,
    fleet.RenewedBy id (fleet.wall id attempt.started) (leaseSpecToRecord spec)
  writes : ∀ request ∈ shared.writes, request.sender = id → request.release = false →
    ∀ renewed, request.record.renewTime = some renewed → renewed ≤ fleet.wall id attempt.started
  call : CallSound fleet shared id elector (fleet.wall id attempt.started) attempt.call

/-- The timers and answers of at most `bound` end the leader's term before its record lapses: the
renewal window takes up to the renew deadline, and the release after it up to `bound`. -/
def Fresh (config : LeaderElectionConfig) (bound now : Nat) (expiry : Int) : Activity → Prop
  | .window deadline _ | .retryPause _ deadline => now ≤ deadline ∧ deadline + bound < expiry
  | .renewPause wake => now ≤ wake ∧ wake + config.renewDeadline + bound < expiry
  | .releasing _ deadline =>
    now + config.renewDeadline ≤ deadline + bound ∧ deadline + bound < expiry + config.renewDeadline
  | _ => False

theorem Fresh.valid {config : LeaderElectionConfig} {bound now : Nat} {expiry : Int}
    {activity : Activity} (fresh : Fresh config bound now expiry activity) : now < expiry := by
  cases activity <;> simp only [Fresh] at fresh <;> omega

structure ReplicaSound (fleet : Deployment Id) (bound : Nat) (shared : Shared Id) (id : Id)
    (replica : Replica) : Prop where
  cached : ∀ content ∈ replica.lease, Seen fleet shared content
  elector : ElectorSound fleet shared.now id replica.elector
  observed : replica.elector.observedRaw ≠ none → shared.lease.current ≠ none
  own : replica.elector.isLeader (fleet.identity id) = true →
    ∀ content ∈ replica.lease, fleet.Yields shared.now id (leaseSpecToRecord content.2)
  attempt : ∀ attempt ∈ replica.activity.attempt?,
    AttemptSound fleet shared id replica.elector attempt
  leads : replica.activity.leads = true → replica.cancelled = false →
    Holds fleet shared id replica.acknowledged ∧
      Fresh fleet.config bound shared.now (fleet.expiry id replica.acknowledged) replica.activity

structure SharedSound (fleet : Deployment Id) (shared : Shared Id) : Prop where
  past : ∀ spec ∈ shared.lease.value?, fleet.Past shared.now (leaseSpecToRecord spec)
  requests : ∀ request ∈ shared.writes, RequestSound fleet shared request
  stored : ∀ number content, shared.stored number = some content → Seen fleet shared content
  unstored : ∀ number, shared.nextNumber ≤ number → shared.stored number = none

structure Sound (fleet : Deployment Id) (bound : Nat) (state : State Id) : Prop where
  shared : SharedSound fleet state.toShared
  replica : ∀ id, ReplicaSound fleet bound state.toShared id (state.replica id)

variable {fleet : Deployment Id} {bound : Nat} {shared after : Shared Id} {id : Id} {time : Int}

theorem CallSound.imp {elector : LeaderElector} {call : Call} (le : shared.now ≤ after.now)
    (pending : ∀ number, Pending fleet shared id time number → Pending fleet after id time number)
    (seen : ∀ content, Seen fleet shared content → Seen fleet after content)
    (sound : CallSound fleet shared id elector time call) :
    CallSound fleet after id elector time call := by
  match call, sound with
  | .fastUpdating number, sound =>
    exact ⟨pending number sound.1, fun raw found => (sound.2 raw found).mono le⟩
  | .getting, _ => trivial
  | .got none, sound => exact sound
  | .got (some content), sound => exact ⟨seen content sound.1, sound.2⟩
  | .writing _ number, ⟨holderEq, renewedEq, sent, yields⟩ =>
    exact ⟨holderEq, renewedEq, pending number sent, fun raw found => (yields raw found).mono le⟩

/-! ## While nothing takes effect -/

/-- Time passes, requests are refused, and replicas other than `id` send new ones. -/
structure Quiet (id : Id) (before after : Shared Id) : Prop where
  now : before.now ≤ after.now
  lease : after.lease = before.lease
  stored : after.stored = before.stored
  nextNumber : before.nextNumber ≤ after.nextNumber
  writes : ∀ request ∈ after.writes,
    request ∈ before.writes ∨ before.nextNumber ≤ request.number ∧ request.sender ≠ id

variable {content : Nat × Option LeaseSpec}

section

variable (now : shared.now ≤ after.now) (lease : after.lease = shared.lease)
include now lease

theorem Seen.of_lease_eq (seen : Seen fleet shared content) : Seen fleet after content :=
  ⟨lease ▸ seen.guarded, seen.past.mono now, lease ▸ seen.present⟩

theorem RequestSound.of_lease_eq {request : Request Id}
    (nextNumber : shared.nextNumber ≤ after.nextNumber)
    (sound : RequestSound fleet shared request) : RequestSound fleet after request where
  sent := lt_of_lt_of_le sound.sent nextNumber
  guarded := by
    rw [lease]
    exact sound.guarded.imp fun _ yields spec found => (yields spec found).mono now
  released := sound.released
  claimed := by
    intro claims
    obtain ⟨claimed, claim⟩ := sound.claimed claims
    have past := claim.past
    exact ⟨claimed, claim.holderEq, claim.durationEq, claim.renewedEq, by omega,
      lease ▸ claim.later⟩

theorem SharedSound.of_lease_eq (stored : after.stored = shared.stored)
    (nextNumber : shared.nextNumber ≤ after.nextNumber)
    (writes : ∀ request ∈ after.writes, request ∈ shared.writes ∨ RequestSound fleet after request)
    (sound : SharedSound fleet shared) : SharedSound fleet after where
  past := by
    rw [lease]
    exact fun spec found => (sound.past spec found).mono now
  requests := by
    intro request sent
    rcases writes request sent with before | new
    · exact (sound.requests request before).of_lease_eq now lease nextNumber
    · exact new
  stored := by
    rw [stored]
    exact fun number content found => (sound.stored number content found).of_lease_eq now lease
  unstored := by
    rw [stored]
    exact fun number new => sound.unstored number (nextNumber.trans new)

end

namespace Quiet

section

variable (quiet : Quiet id shared after)
include quiet

theorem holds (holds : Holds fleet shared id time) : Holds fleet after id time := by
  unfold Holds at holds ⊢
  rw [quiet.lease]
  exact holds

theorem landed (landed : Landed fleet shared id time content) :
    Landed fleet after id time content where
  standing := by
    have later := quiet.now
    rcases landed.standing with holds | _
    · exact .inl (quiet.holds holds)
    · right
      omega
  stale := by
    intro request sent own
    rw [quiet.lease]
    rcases quiet.writes request sent with before | ⟨-, other⟩
    · exact landed.stale request before own
    · exact absurd own other
  holderEq := landed.holderEq

theorem pending {number : Nat} (pending : Pending fleet shared id time number) :
    Pending fleet after id time number where
  sent := lt_of_lt_of_le pending.sent quiet.nextNumber
  own := by
    intro request sent numberEq
    rcases quiet.writes request sent with before | ⟨_, -⟩
    · exact pending.own request before numberEq
    · have earlier := pending.sent
      omega
  landed := by
    intro content stored
    rw [quiet.stored] at stored
    exact quiet.landed (pending.landed content stored)

theorem attempt {elector : LeaderElector} {attempt : Attempt}
    (sound : AttemptSound fleet shared id elector attempt) :
    AttemptSound fleet after id elector attempt where
  started := Nat.le_trans sound.started quiet.now
  holderEq := sound.holderEq
  durationEq := sound.durationEq
  renewedEq := sound.renewedEq
  lease := by
    rw [quiet.lease]
    exact sound.lease
  writes := by
    intro request sent own
    rcases quiet.writes request sent with before | ⟨-, other⟩
    · exact sound.writes request before own
    · exact absurd own other
  call := sound.call.imp quiet.now (fun _ => quiet.pending) fun _ seen =>
    seen.of_lease_eq quiet.now quiet.lease

theorem replica {replica : Replica} (sound : ReplicaSound fleet bound shared id replica)
    (fresh : replica.activity.leads → replica.cancelled = false →
      Fresh fleet.config bound after.now (fleet.expiry id replica.acknowledged) replica.activity) :
    ReplicaSound fleet bound after id replica where
  cached := fun content found => (sound.cached content found).of_lease_eq quiet.now quiet.lease
  elector := sound.elector.mono quiet.now
  observed := by
    rw [quiet.lease]
    exact sound.observed
  own := fun leader content found => (sound.own leader content found).mono quiet.now
  attempt := fun attempt found => quiet.attempt (sound.attempt attempt found)
  leads := fun leads uncancelled =>
    ⟨quiet.holds (sound.leads leads uncancelled).1, fresh leads uncancelled⟩

end

end Quiet

/-! ## When a request takes effect -/

section Land

variable {request : Request Id}

/-- Duration and transitions pass through 32 bits. -/
theorem leaseSpecToRecord_recordToLeaseSpec (record : LeaderElectionRecord) :
    leaseSpecToRecord (some (recordToLeaseSpec record)) =
      { record with
        leaseDurationSeconds := record.leaseDurationSeconds.toInt32.toInt64
        leaderTransitions := record.leaderTransitions.toInt32.toInt64 } := rfl

theorem Claim.holds_land (claim : Claim fleet shared request time) :
    Holds fleet (shared.land request) request.sender time := by
  refine ⟨some (recordToLeaseSpec request.record), time, rfl, claim.holderEq, claim.renewedEq,
    le_refl time, ?_⟩
  rw [leaseSpecToRecord_recordToLeaseSpec, claim.durationEq]
  rfl

/-- A hold ends when it has lapsed or by a release of its own. -/
theorem Holds.land (holds : Holds fleet shared id time) (sound : RequestSound fleet shared request)
    (accepted : shared.lease.accepts request.condition) :
    Holds fleet (shared.land request) id time ∨ fleet.expiry id time ≤ shared.now ∨
      request.sender = id ∧ request.release := by
  obtain ⟨spec, renewed, valueEq, holderEq, renewedEq, le, _⟩ := holds
  have yields := sound.guarded.2 accepted spec valueEq
  by_cases valid : (shared.now : Int) < fleet.expiry id time
  · have renewedValid := fleet.since_mono id le
    have own : id = request.sender := by
      rcases yields with own | lapsed
      · exact fleet.distinct (holderEq.symm.trans own)
      · have ended := lapsed id renewed holderEq renewedEq
        simp only [Deployment.expiry] at valid
        omega
    subst own
    cases releaseEq : request.release with
    | true => exact .inr (.inr ⟨rfl, rfl⟩)
    | false =>
      obtain ⟨_, claim⟩ := sound.claimed releaseEq
      have newer := claim.later.2 accepted spec valueEq holderEq renewed renewedEq
      obtain ⟨written, writtenRenewed, facts⟩ := claim.holds_land
      exact .inl ⟨written, writtenRenewed, facts.1, facts.2.1, facts.2.2.1,
        le.trans (newer.trans facts.2.2.2.1), facts.2.2.2.2⟩
  · exact .inr (.inl (not_lt.mp valid))

theorem Seen.land (seen : Seen fleet shared content) : Seen fleet (shared.land request) content :=
  ⟨guarded_write seen.guarded _, seen.past, by simp [Shared.land, write]⟩

/-- A write that lands makes the others in flight fail. -/
theorem SharedSound.stale_land (sound : SharedSound fleet shared) :
    ∀ other ∈ (shared.land request).writes,
      (shared.land request).lease.Stale other.condition := by
  intro other sent
  exact stale_write (sound.requests other (List.mem_filter.mp sent |>.1)).guarded.1 _

theorem Claim.landed (sound : SharedSound fleet shared) (claim : Claim fleet shared request time) :
    Landed fleet (shared.land request) request.sender time
      (shared.lease.nextTag, some (recordToLeaseSpec request.record)) where
  standing := .inl claim.holds_land
  stale := fun other sent _ => sound.stale_land other sent
  holderEq := claim.holderEq

section

variable (sound : SharedSound fleet shared) (sent : request ∈ shared.writes)
  (accepted : shared.lease.accepts request.condition = true)
include sound sent accepted

theorem Landed.land (landed : Landed fleet shared id time content) :
    Landed fleet (shared.land request) id time content where
  standing := by
    rcases landed.standing with holds | lapsed
    · rcases holds.land (sound.requests request sent) accepted with stays | lapsed | ⟨own, -⟩
      · exact .inl stays
      · exact .inr lapsed
      · exact absurd accepted (landed.stale request sent own).not_accepts
    · exact .inr lapsed
  stale := fun other sent _ => sound.stale_land other sent
  holderEq := landed.holderEq

theorem Pending.land {number : Nat} (pending : Pending fleet shared id time number) :
    Pending fleet (shared.land request) id time number where
  sent := pending.sent
  own := fun other found => pending.own other (List.mem_filter.mp found |>.1)
  landed := by
    intro content stored
    by_cases numberEq : request.number = number
    · -- the write that the attempt waits for takes effect now
      obtain ⟨rfl, claims, renewedEq⟩ := pending.own request sent numberEq
      obtain ⟨claimed, claim⟩ := (sound.requests request sent).claimed claims
      have timeEq : claimed = time := Option.some.inj (claim.renewedEq.symm.trans renewedEq)
      have contentEq : some (shared.lease.nextTag, some (recordToLeaseSpec request.record)) =
          some content := by
        simpa [land, numberEq] using stored
      cases contentEq
      exact timeEq ▸ claim.landed sound
    · have before : shared.stored number = some content := by
        simpa [Shared.land, Function.update_of_ne (Ne.symm numberEq)] using stored
      exact (pending.landed content before).land sound sent accepted

theorem AttemptSound.land {elector : LeaderElector} {attempt : Attempt}
    (attemptSound : AttemptSound fleet shared id elector attempt) :
    AttemptSound fleet (shared.land request) id elector attempt :=
  { attemptSound with
    lease := by
      rintro _ ⟨⟩ holderEq renewed renewedEq
      cases releaseEq : request.release with
      | true =>
        have unheld := (sound.requests request sent).released releaseEq
        exact absurd (holderEq.symm.trans unheld) (fleet.named id)
      | false =>
        obtain ⟨_, claim⟩ := (sound.requests request sent).claimed releaseEq
        have own := fleet.distinct (claim.holderEq.symm.trans holderEq)
        exact attemptSound.writes request sent own releaseEq renewed renewedEq
    writes := fun other found => attemptSound.writes other (List.mem_filter.mp found |>.1)
    call := attemptSound.call.imp (le_refl shared.now)
      (fun _ pending => pending.land sound sent accepted)
      fun _ => Seen.land }

/-- A replica stays sound unless the write is its release while it leads. -/
theorem ReplicaSound.land {replica : Replica}
    (replicaSound : ReplicaSound fleet bound shared id replica)
    (kept : replica.activity.leads → replica.cancelled = false →
      request.sender = id → request.release = false) :
    ReplicaSound fleet bound (shared.land request) id replica where
  cached := fun content found => (replicaSound.cached content found).land
  elector := replicaSound.elector
  observed := fun _ => by simp [Shared.land, write]
  own := replicaSound.own
  attempt := fun attempt found =>
    (replicaSound.attempt attempt found).land sound sent accepted
  leads := by
    intro leads uncancelled
    obtain ⟨holds, fresh⟩ := replicaSound.leads leads uncancelled
    refine ⟨?_, fresh⟩
    rcases holds.land (sound.requests request sent) accepted with stays | lapsed | ⟨own, released⟩
    · exact stays
    · exact absurd lapsed (not_le.mpr fresh.valid)
    · exact absurd released (by simp [kept leads uncancelled own])

end

theorem RequestSound.land {other : Request Id} (sound : RequestSound fleet shared other) :
    RequestSound fleet (shared.land request) other where
  sent := sound.sent
  guarded := guarded_write sound.guarded _
  released := sound.released
  claimed := by
    intro claims
    obtain ⟨claimed, claim⟩ := sound.claimed claims
    exact ⟨claimed, claim.holderEq, claim.durationEq, claim.renewedEq, claim.past,
      guarded_write claim.later _⟩

theorem RequestSound.past (sound : RequestSound fleet shared request) :
    fleet.Past shared.now (leaseSpecToRecord (some (recordToLeaseSpec request.record))) := by
  cases releaseEq : request.release with
  | true => exact Deployment.past_of_unheld (sound.released releaseEq)
  | false =>
    obtain ⟨time, claim⟩ := sound.claimed releaseEq
    intro holder renewed holderEq renewedEq
    have senderEq : request.sender = holder := fleet.distinct (claim.holderEq.symm.trans holderEq)
    have timeEq : time = renewed := Option.some.inj (claim.renewedEq.symm.trans renewedEq)
    exact senderEq ▸ timeEq ▸ claim.past

theorem SharedSound.land (sound : SharedSound fleet shared) (sent : request ∈ shared.writes) :
    SharedSound fleet (shared.land request) where
  past := by
    rintro _ ⟨⟩
    exact (sound.requests request sent).past
  requests := fun other found => (sound.requests other (List.mem_filter.mp found |>.1)).land
  stored := by
    intro number content stored
    by_cases numberEq : number = request.number
    · have contentEq : some (shared.lease.nextTag, some (recordToLeaseSpec request.record)) =
          some content := by
        simpa [Shared.land, numberEq] using stored
      cases contentEq
      exact ⟨guarded_written _ _, (sound.requests request sent).past,
        by simp [Shared.land, write]⟩
    · have before : shared.stored number = some content := by
        simpa [Shared.land, Function.update_of_ne numberEq] using stored
      exact (sound.stored number content before).land
  unstored := by
    intro number new
    have older := (sound.requests request sent).sent
    have numberNe : number ≠ request.number := by
      simp only [Shared.land] at new
      omega
    simpa [Shared.land, Function.update_of_ne numberNe] using sound.unstored number new

end Land

end Addons.LeaseTiming
