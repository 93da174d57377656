import Addons.ConditionalStore
import Addons.TransitionSystem

/-!
# Leader election of the volume autoscaler

Replicas contend for one Lease object. Every claim in flight writes over a Lease that yields
to it at the instant of its attempt.
-/

namespace Addons.ReplicaElection

open ConditionalStore TransitionSystem List

/-! ## The Lease -/

/-- Durations and instants count nanoseconds. -/
def second : Nat := 1000000000

structure Timing where
  leaseDuration : Nat := 15 * second
  renewDeadline : Nat := 10 * second
  retryPeriod : Nat := 2 * second

/-- The specification of a Lease; its times are in milliseconds. -/
structure LeaseSpec where
  holderIdentity : Option String := none
  leaseDurationSeconds : Option Int := none
  acquireTime : Option Int := none
  renewTime : Option Int := none
  leaseTransitions : Option Int := none
deriving DecidableEq

/-- An instant as a Lease carries it. -/
def micro (now : Nat) : Int := (now / 1000000 : Nat)

def renewTime (spec : Option LeaseSpec) : Option Int := spec.bind (·.renewTime)

def holder (spec : Option LeaseSpec) : String := (spec.bind (·.holderIdentity)).getD ""

/-- The longest `TimeDelta`. -/
def maxDelta : Nat := 9223372036854775807000000

/-- How long a record is valid; a duration that is no `TimeDelta` counts as none. -/
def ttl (timing : Timing) : Nat :=
  if timing.leaseDuration ≤ maxDelta then timing.leaseDuration else 0

def expired (timing : Timing) (now : Nat) (spec : Option LeaseSpec) : Bool :=
  match renewTime spec with
  | none => true
  | some time => decide (time * 1000000 + ttl timing < now)

def durationSeconds (timing : Timing) : Int :=
  let seconds := timing.leaseDuration / second
  if seconds ≤ 2147483647 then seconds else 15

def createdSpec (timing : Timing) (identity : String) (now : Nat) : LeaseSpec :=
  { holderIdentity := some identity
    leaseDurationSeconds := some (durationSeconds timing)
    acquireTime := some (micro now)
    renewTime := some (micro now)
    leaseTransitions := some 0 }

/-- The Lease that an attempt takes over or renews. -/
def claimedSpec (timing : Timing) (identity : String) (now : Nat) (spec : Option LeaseSpec) :
    LeaseSpec :=
  let found := spec.getD {}
  let taken :=
    if holder spec = identity then found
    else
      { found with
        leaseTransitions := some (found.leaseTransitions.getD 0 + 1)
        acquireTime := some (micro now) }
  { taken with
    holderIdentity := some identity
    leaseDurationSeconds := some (durationSeconds timing)
    renewTime := some (micro now) }

/-- Another candidate holds the Lease, at the instant of an attempt. -/
def heldByOther (timing : Timing) (identity : String) (now : Nat) (spec : Option LeaseSpec) :
    Bool :=
  holder spec ≠ "" ∧ holder spec ≠ identity ∧ expired timing now spec = false

/-! ## Replicas -/

/-- Where a run of `try_acquire` or `release` is: waiting for the `GET` to take effect, for its
answer, or for the create or update. -/
inductive Call where
  | getting
  | got (found : Option (Nat × Option LeaseSpec))
  | writing (number : Nat)
deriving DecidableEq

structure Attempt where
  started : Nat
  call : Call
deriving DecidableEq

/-- What a replica is doing. In `renewPause` and `renewing` it is inside `lead`, and `lastOk` is
when its last successful attempt was answered. -/
inductive Activity where
  | pause (wake : Nat)
  | acquiring (attempt : Attempt)
  | renewPause (wake lastOk : Nat)
  | renewing (lastOk : Nat) (attempt : Attempt)
  | releasing (call : Call)
  | finished
deriving DecidableEq

def Activity.leads : Activity → Bool
  | .renewPause _ _ | .renewing _ _ => true
  | _ => false

def Activity.attempt? : Activity → Option Attempt
  | .acquiring attempt | .renewing _ attempt => some attempt
  | _ => none

def Activity.withCall (call : Call) : Activity → Activity
  | .acquiring attempt => .acquiring { attempt with call }
  | .renewing lastOk attempt => .renewing lastOk { attempt with call }
  | .releasing _ => .releasing call
  | other => other

def Activity.call? : Activity → Option Call
  | .acquiring attempt | .renewing _ attempt => some attempt.call
  | .releasing call => some call
  | _ => none

/-- `acknowledged` is the instant of the last attempt that the replica knows succeeded. -/
structure Replica where
  activity : Activity := .pause 0
  shutDown : Bool := false
  acknowledged : Nat := 0
deriving DecidableEq

/-- A write of the Lease on its way to the API server. `stamp` is the instant of its attempt;
a release has none. -/
structure Request (Id : Type) where
  number : Nat
  sender : Id
  stamp : Option Nat
  condition : Condition
  spec : LeaseSpec
deriving DecidableEq

/-- What the replicas share: the time, the Lease, and the requests. `stored` lists those that
have taken effect. -/
structure Shared (Id : Type) where
  now : Nat := 0
  lease : Cell (Option LeaseSpec)
  writes : List (Request Id) := []
  stored : List Nat := []
  nextNumber : Nat := 0

structure State (Id : Type) extends Shared Id where
  replica : Id → Replica := fun _ => {}

/-- The replicas that contend; their identities are the names of their pods. -/
structure Deployment (Id : Type) where
  timing : Timing
  identity : Id → String
  named : ∀ id, identity id ≠ ""
  distinct : Function.Injective identity

section Model

variable {Id : Type} [DecidableEq Id] (fleet : Deployment Id)

namespace Shared

/-- A request leaves for the API server. -/
def send (shared : Shared Id) (sender : Id) (stamp : Option Nat) (condition : Condition)
    (spec : LeaseSpec) : Shared Id :=
  { shared with
    writes := ⟨shared.nextNumber, sender, stamp, condition, spec⟩ :: shared.writes
    nextNumber := shared.nextNumber + 1 }

def land (shared : Shared Id) (request : Request Id) : Shared Id :=
  { shared with
    lease := shared.lease.write (some request.spec)
    writes := shared.writes.filter fun other => other.number ≠ request.number
    stored := request.number :: shared.stored }

def refuse (shared : Shared Id) (request : Request Id) : Shared Id :=
  { shared with writes := shared.writes.filter fun other => other.number ≠ request.number }

/-- A request reaches the API server. -/
def deliver (shared : Shared Id) (number : Nat) : Option (Shared Id) :=
  (shared.writes.find? fun request => request.number = number).map fun request =>
    if shared.lease.accepts request.condition then shared.land request
    else shared.refuse request

end Shared

namespace State

def set (state : State Id) (id : Id) (replica : Replica) : State Id :=
  { state with replica := Function.update state.replica id replica }

def setActivity (state : State Id) (id : Id) (activity : Activity) : State Id :=
  state.set id { state.replica id with activity }

/-- A replica sends a request and waits for its answer. -/
def send (state : State Id) (id : Id) (stamp : Option Nat) (condition : Condition)
    (spec : LeaseSpec) : State Id :=
  let replica := state.replica id
  { state.toShared.send id stamp condition spec with
    replica := Function.update state.replica id
      { replica with activity := replica.activity.withCall (.writing state.nextNumber) } }

/-- The next attempt, once the pause is over. -/
def begin (state : State Id) (id : Id) : Option (State Id) :=
  match (state.replica id).activity with
  | .pause wake =>
    if wake ≤ state.now ∧ (state.replica id).shutDown = false then
      some (state.setActivity id (.acquiring ⟨state.now, .getting⟩))
    else none
  | .renewPause wake lastOk =>
    if wake ≤ state.now then
      some (state.setActivity id (.renewing lastOk ⟨state.now, .getting⟩))
    else none
  | _ => none

/-- The `GET` takes effect. -/
def read (state : State Id) (id : Id) : Option (State Id) :=
  match (state.replica id).activity.call? with
  | some .getting =>
    some (state.setActivity id
      ((state.replica id).activity.withCall (.got state.lease.current)))
  | _ => none

/-- Between two attempts of `run`. -/
def rest (state : State Id) (id : Id) : State Id :=
  state.setActivity id (.pause (state.now + fleet.timing.retryPeriod))

/-- `lead` has ended: the Lease is released on shutdown. -/
def leave (state : State Id) (id : Id) : State Id :=
  if (state.replica id).shutDown then state.setActivity id (.releasing .getting)
  else state.rest fleet id

/-- Another candidate holds the Lease. -/
def yield (state : State Id) (id : Id) : State Id :=
  if (state.replica id).activity.leads then state.leave fleet id else state.rest fleet id

/-- The answer of the `GET` arrives. -/
def respond (state : State Id) (id : Id) : Option (State Id) :=
  let identity := fleet.identity id
  match (state.replica id).activity, (state.replica id).activity.call? with
  | .releasing _, some (.got none) => some (state.setActivity id .finished)
  | .releasing _, some (.got (some (version, spec))) =>
    if holder spec = identity then
      some (state.send id none (.ifMatch version)
        { spec.getD {} with holderIdentity := some "" })
    else some (state.setActivity id .finished)
  | activity, some (.got found) =>
    activity.attempt?.map fun attempt =>
      match found with
      | none =>
        state.send id (some attempt.started) .ifNoneMatch
          (createdSpec fleet.timing identity attempt.started)
      | some (version, spec) =>
        if heldByOther fleet.timing identity attempt.started spec then state.yield fleet id
        else
          state.send id (some attempt.started) (.ifMatch version)
            (claimedSpec fleet.timing identity attempt.started spec)
  | _, _ => none

/-- A call fails. The leader goes on until its last success is too long ago. -/
def fail (state : State Id) (id : Id) : Option (State Id) :=
  match (state.replica id).activity with
  | .acquiring _ => some (state.rest fleet id)
  | .renewing lastOk _ =>
    if fleet.timing.renewDeadline ≤ state.now - lastOk then some (state.leave fleet id)
    else
      some (state.setActivity id
        (.renewPause (state.now + fleet.timing.retryPeriod) lastOk))
  | .releasing _ => some (state.setActivity id .finished)
  | _ => none

/-- The replica learns that its write has taken effect. -/
def ack (state : State Id) (id : Id) : Option (State Id) :=
  let replica := state.replica id
  match replica.activity.call? with
  | some (.writing number) =>
    if number ∈ state.stored then
      match replica.activity.attempt? with
      | some attempt =>
        some (state.set id
          { replica with
            activity := .renewPause (state.now + fleet.timing.retryPeriod) state.now
            acknowledged := attempt.started })
      | none => some (state.setActivity id .finished)
    else none
  | _ => none

/-- `lead` returns, by itself or because its token is cancelled. -/
def leadEnds (state : State Id) (id : Id) : Option (State Id) :=
  if (state.replica id).activity.leads then some (state.leave fleet id) else none

/-- A replica that is not leading notices the shutdown between two attempts. -/
def quit (state : State Id) (id : Id) : Option (State Id) :=
  match (state.replica id).activity, (state.replica id).shutDown with
  | .pause _, true => some (state.setActivity id .finished)
  | _, _ => none

end State

inductive Event (Id : Type) where
  | tick (elapsed : Nat)
  | begin (id : Id)
  | read (id : Id)
  | respond (id : Id)
  | fail (id : Id)
  | ack (id : Id)
  | leadEnds (id : Id)
  | quit (id : Id)
  | shutDown (id : Id)
  /-- The process of a replica dies, and a new one starts. -/
  | restart (id : Id)
  | deliver (number : Nat)
deriving DecidableEq

/-- What an event other than the passing of time does. -/
def act (state : State Id) : Event Id → Option (State Id)
  | .tick _ => none
  | .begin id => state.begin id
  | .read id => state.read id
  | .respond id => state.respond fleet id
  | .fail id => state.fail fleet id
  | .ack id => state.ack fleet id
  | .leadEnds id => state.leadEnds fleet id
  | .quit id => state.quit id
  | .shutDown id => some (state.set id { state.replica id with shutDown := true })
  | .restart id => some (state.set id {})
  | .deliver number =>
    (state.toShared.deliver number).map fun shared => { state with toShared := shared }

/-- The instant at which a leader's sleep is over. -/
def Activity.due? : Activity → Option Nat
  | .renewPause wake _ => some wake
  | _ => none

/-- Time passes until a leader's sleep is over, or something happens. -/
inductive Step : State Id → Event Id → State Id → Prop where
  | tick {state : State Id} {elapsed : Nat}
      (due : ∀ id, ∀ instant ∈ (state.replica id).activity.due?, state.now + elapsed ≤ instant) :
      Step state (.tick elapsed) { state with now := state.now + elapsed }
  | acts {state after : State Id} {event : Event Id}
      (taken : act fleet state event = some after) : Step state event after

/-- All replicas are new; the Lease may be there, whatever it says. -/
structure Initial (state : State Id) : Prop where
  writes : state.writes = []
  stored : state.stored = []
  replica : ∀ id, state.replica id = {}

/-- The replica is inside `lead`. -/
def Leads (state : State Id) (id : Id) : Prop :=
  (state.replica id).activity.leads = true

/-- The condition of a run: a renewal is answered within the bound, and so is an attempt that
succeeds. -/
def Timely (bound : Nat) (state : State Id) : Event Id → Prop
  | .tick elapsed => ∀ id, Leads state id → ∀ attempt ∈ (state.replica id).activity.attempt?,
      state.now + elapsed ≤ attempt.started + bound
  | .ack id => ∀ attempt ∈ (state.replica id).activity.attempt?,
      state.now ≤ attempt.started + bound
  | _ => True

end Model

/-! ## The invariant -/

variable {Id : Type}

/-- The record of an attempt at the instant has lapsed. -/
def Lapsed (fleet : Deployment Id) (stamp now : Nat) : Prop :=
  micro stamp * 1000000 + ttl fleet.timing < now

/-- The Lease carries a record of `id` that was renewed at the instant or later. -/
def Holds (fleet : Deployment Id) (shared : Shared Id) (id : Id) (stamp : Nat) : Prop :=
  ∃ spec time, shared.lease.value? = some spec ∧ holder spec = fleet.identity id ∧
    renewTime spec = some time ∧ micro stamp ≤ time

/-- An attempt at the instant may take the Lease. -/
def Yields (fleet : Deployment Id) (sender : Id) (stamp : Nat) (spec : Option LeaseSpec) : Prop :=
  holder spec = "" ∨ holder spec = fleet.identity sender ∨
    expired fleet.timing stamp spec = true

structure RequestSound (fleet : Deployment Id) (shared : Shared Id) (request : Request Id) :
    Prop where
  sent : request.number < shared.nextNumber
  known : shared.lease.Known request.condition
  claims : ∀ stamp, request.stamp = some stamp →
    stamp ≤ shared.now ∧ holder (some request.spec) = fleet.identity request.sender ∧
      renewTime (some request.spec) = some (micro stamp) ∧
      shared.lease.Guarded request.condition fun value =>
        ∀ spec ∈ value, Yields fleet request.sender stamp spec
  releases : request.stamp = none → shared.lease.Guarded request.condition fun value =>
    ∀ spec ∈ value, holder spec = fleet.identity request.sender

/-- An attempt's write took effect: its record stands or has lapsed, and nothing else that the
replica has sent can take effect. -/
structure Landed (fleet : Deployment Id) (shared : Shared Id) (id : Id) (stamp : Nat) : Prop where
  standing : Holds fleet shared id stamp ∨ Lapsed fleet stamp shared.now
  stale : ∀ request ∈ shared.writes, request.sender = id → shared.lease.Stale request.condition

/-- The write on whose answer an attempt of `id` waits. -/
structure Pending (fleet : Deployment Id) (shared : Shared Id) (id : Id) (stamp number : Nat) :
    Prop where
  sent : number < shared.nextNumber
  own : ∀ request ∈ shared.writes, request.number = number →
    request.sender = id ∧ request.stamp = some stamp
  landed : number ∈ shared.stored → Landed fleet shared id stamp

/-- What was read of the Lease, as long as its version is the current one. -/
def Seen (shared : Shared Id) (content : Nat × Option LeaseSpec) : Prop :=
  shared.lease.Guarded (.ifMatch content.1) (· = some content.2)

def CallSound (fleet : Deployment Id) (shared : Shared Id) (id : Id) (stamp : Nat) : Call → Prop
  | .getting => True
  | .got found => ∀ content ∈ found, Seen shared content
  | .writing number => Pending fleet shared id stamp number

/-- A request of the replica that can still take effect renews its record. -/
def Renews (shared : Shared Id) (id : Id) (stamp : Nat) : Prop :=
  ∀ request ∈ shared.writes, request.sender = id →
    shared.lease.accepts request.condition = true →
      ∃ later, request.stamp = some later ∧ stamp ≤ later

/-- How long ago the last success of a leader may be. -/
def Fresh (fleet : Deployment Id) (bound now acknowledged : Nat) : Activity → Prop
  | .renewPause wake lastOk =>
    acknowledged ≤ lastOk ∧ lastOk ≤ now ∧ lastOk ≤ acknowledged + bound ∧ now ≤ wake ∧
      wake ≤ lastOk + fleet.timing.renewDeadline + fleet.timing.retryPeriod
  | .renewing lastOk attempt =>
    acknowledged ≤ lastOk ∧ lastOk ≤ attempt.started ∧ lastOk ≤ acknowledged + bound ∧
      now ≤ attempt.started + bound ∧
      attempt.started ≤ lastOk + fleet.timing.renewDeadline + fleet.timing.retryPeriod
  | _ => True

structure ReplicaSound (fleet : Deployment Id) (bound : Nat) (shared : Shared Id) (id : Id)
    (replica : Replica) : Prop where
  attempt : ∀ attempt ∈ replica.activity.attempt?,
    attempt.started ≤ shared.now ∧ CallSound fleet shared id attempt.started attempt.call
  releasing : ∀ content, replica.activity = .releasing (.got (some content)) →
    Seen shared content
  leads : replica.activity.leads = true →
    Holds fleet shared id replica.acknowledged ∧ Renews shared id replica.acknowledged ∧
      Fresh fleet bound shared.now replica.acknowledged replica.activity

structure SharedSound (fleet : Deployment Id) (shared : Shared Id) : Prop where
  requests : ∀ request ∈ shared.writes, RequestSound fleet shared request
  stored : ∀ number ∈ shared.stored, number < shared.nextNumber

structure Sound (fleet : Deployment Id) (bound : Nat) (state : State Id) : Prop where
  shared : SharedSound fleet state.toShared
  replica : ∀ id, ReplicaSound fleet bound state.toShared id (state.replica id)

/-- The lease lasts as long as a leader goes on after its last success, with two calls that
take the bound, and a millisecond for the rounding of the instant. -/
def Fits (timing : Timing) (bound : Nat) : Prop :=
  timing.leaseDuration ≤ maxDelta ∧
    timing.renewDeadline + timing.retryPeriod + 2 * bound + 1000000 ≤ timing.leaseDuration

variable {fleet : Deployment Id} {bound : Nat} {shared after : Shared Id} {id : Id} {stamp : Nat}

theorem Lapsed.mono {now later : Nat} (lapsed : Lapsed fleet stamp now) (le : now ≤ later) :
    Lapsed fleet stamp later := by
  unfold Lapsed at lapsed ⊢
  omega

theorem Fresh.not_lapsed {now acknowledged : Nat} {activity : Activity}
    (fits : Fits fleet.timing bound) (leads : activity.leads)
    (fresh : Fresh fleet bound now acknowledged activity) : ¬ Lapsed fleet acknowledged now := by
  obtain ⟨representable, fits⟩ := fits
  unfold Lapsed
  rw [ttl, if_pos representable, micro]
  cases activity with
  | renewPause =>
    obtain ⟨-, -, answered, _, _⟩ := fresh
    omega
  | renewing =>
    obtain ⟨-, -, _, _, _⟩ := fresh
    omega
  | pause | acquiring | releasing | finished => cases leads

/-! ## While nothing takes effect -/

/-- Time passes, requests are refused, and replicas other than `id` send new ones. -/
structure Quiet (id : Id) (before after : Shared Id) : Prop where
  now : before.now ≤ after.now
  lease : after.lease = before.lease
  stored : after.stored = before.stored
  nextNumber : before.nextNumber ≤ after.nextNumber
  writes : ∀ request ∈ after.writes,
    request ∈ before.writes ∨ before.nextNumber ≤ request.number ∧ request.sender ≠ id

namespace Quiet

section

variable (quiet : Quiet id shared after)
include quiet

theorem holds (holds : Holds fleet shared id stamp) : Holds fleet after id stamp := by
  unfold Holds at holds ⊢
  rwa [quiet.lease]

theorem seen {content : Nat × Option LeaseSpec} (seen : Seen shared content) :
    Seen after content := by
  unfold Seen at seen ⊢
  rwa [quiet.lease]

theorem landed (landed : Landed fleet shared id stamp) : Landed fleet after id stamp where
  standing := by
    rcases landed.standing with holds | lapsed
    · exact .inl (quiet.holds holds)
    · exact .inr (lapsed.mono quiet.now)
  stale := by
    intro request sent own
    rw [quiet.lease]
    rcases quiet.writes request sent with before | ⟨-, other⟩
    · exact landed.stale request before own
    · exact absurd own other

theorem pending {number : Nat} (pending : Pending fleet shared id stamp number) :
    Pending fleet after id stamp number where
  sent := Nat.lt_of_lt_of_le pending.sent quiet.nextNumber
  own := by
    intro request sent numberEq
    rcases quiet.writes request sent with before | ⟨_, -⟩
    · exact pending.own request before numberEq
    · have earlier := pending.sent
      omega
  landed := by
    rw [quiet.stored]
    exact fun stored => quiet.landed (pending.landed stored)

theorem call {call : Call} (sound : CallSound fleet shared id stamp call) :
    CallSound fleet after id stamp call := by
  cases call with
  | getting => trivial
  | got => exact fun content member => quiet.seen (sound content member)
  | writing => exact quiet.pending sound

theorem renews (renews : Renews shared id stamp) : Renews after id stamp := by
  intro request sent own
  rw [quiet.lease]
  rcases quiet.writes request sent with before | ⟨-, other⟩
  · exact renews request before own
  · exact absurd own other

theorem replica {replica : Replica} (sound : ReplicaSound fleet bound shared id replica)
    (fresh : replica.activity.leads →
      Fresh fleet bound after.now replica.acknowledged replica.activity) :
    ReplicaSound fleet bound after id replica where
  attempt attempt found :=
    ⟨Nat.le_trans (sound.attempt attempt found).1 quiet.now,
      quiet.call (sound.attempt attempt found).2⟩
  releasing content found := quiet.seen (sound.releasing content found)
  leads leads :=
    ⟨quiet.holds (sound.leads leads).1, quiet.renews (sound.leads leads).2.1, fresh leads⟩

end

end Quiet

/-! ## When a request takes effect -/

section Land

variable {request : Request Id}

theorem SharedSound.stale_land (sound : SharedSound fleet shared) :
    ∀ other ∈ (shared.land request).writes,
      (shared.land request).lease.Stale other.condition := by
  intro other sent
  exact Cell.stale_write (sound.requests other (mem_filter.mp sent).1).known _

theorem Holds.sender_eq (holds : Holds fleet shared id stamp)
    (sound : RequestSound fleet shared request)
    (accepted : shared.lease.accepts request.condition) :
    request.sender = id ∨ Lapsed fleet stamp shared.now := by
  obtain ⟨spec, _, valueEq, holderEq, renewedEq, le⟩ := holds
  cases stampEq : request.stamp with
  | none =>
    have own := (sound.releases stampEq).2 accepted spec valueEq
    exact .inl (fleet.distinct (own.symm.trans holderEq))
  | some claimed =>
    obtain ⟨_, -, -, guarded⟩ := sound.claims claimed stampEq
    rcases guarded.2 accepted spec valueEq with unheld | own | lapsed
    · exact absurd (holderEq.symm.trans unheld) (fleet.named id)
    · exact .inl (fleet.distinct (own.symm.trans holderEq))
    · right
      simp only [expired, renewedEq, decide_eq_true_eq] at lapsed
      unfold Lapsed
      omega

theorem RequestSound.holds_land (sound : RequestSound fleet shared request) {later : Nat}
    (stampEq : request.stamp = some later) (le : stamp ≤ later) :
    Holds fleet (shared.land request) request.sender stamp := by
  obtain ⟨-, holderEq, renewedEq, -⟩ := sound.claims later stampEq
  refine ⟨some request.spec, micro later, rfl, holderEq, renewedEq, ?_⟩
  unfold micro
  omega

theorem Seen.land {content : Nat × Option LeaseSpec} (seen : Seen shared content) :
    Seen (shared.land request) content :=
  Cell.guarded_write seen _

section

variable (sound : SharedSound fleet shared) (sent : request ∈ shared.writes)
  (accepted : shared.lease.accepts request.condition = true)
include sound sent accepted

theorem Landed.land (landed : Landed fleet shared id stamp) :
    Landed fleet (shared.land request) id stamp where
  standing := by
    right
    rcases landed.standing with holds | lapsed
    · rcases holds.sender_eq (sound.requests request sent) accepted with own | lapsed
      · exact absurd accepted (landed.stale request sent own).not_accepts
      · exact lapsed
    · exact lapsed
  stale := fun other found _ => sound.stale_land other found

theorem Pending.land {number : Nat} (pending : Pending fleet shared id stamp number) :
    Pending fleet (shared.land request) id stamp number where
  sent := pending.sent
  own := fun other found => pending.own other (mem_filter.mp found).1
  landed := by
    intro stored
    rcases mem_cons.mp stored with rfl | before
    · -- the write that the attempt waits for takes effect now
      obtain ⟨rfl, stampEq⟩ := pending.own request sent rfl
      exact
        { standing := .inl ((sound.requests request sent).holds_land stampEq (Nat.le_refl _))
          stale := fun other found _ => sound.stale_land other found }
    · exact (pending.landed before).land sound sent accepted

theorem ReplicaSound.land {replica : Replica} (fits : Fits fleet.timing bound)
    (replicaSound : ReplicaSound fleet bound shared id replica) :
    ReplicaSound fleet bound (shared.land request) id replica where
  attempt := by
    intro attempt found
    obtain ⟨past, call⟩ := replicaSound.attempt attempt found
    refine ⟨past, ?_⟩
    cases callEq : attempt.call with
    | getting => trivial
    | got content =>
      rw [callEq] at call
      exact fun content member => (call content member).land
    | writing =>
      rw [callEq] at call
      exact Pending.land sound sent accepted call
  releasing content found := (replicaSound.releasing content found).land
  leads := by
    intro leads
    obtain ⟨holds, renews, fresh⟩ := replicaSound.leads leads
    refine ⟨?_, ?_, fresh⟩
    · rcases holds.sender_eq (sound.requests request sent) accepted with own | lapsed
      · obtain ⟨_, stampEq, le⟩ := renews request sent own accepted
        exact own ▸ (sound.requests request sent).holds_land stampEq le
      · exact absurd lapsed (fresh.not_lapsed fits leads)
    · intro other found _ acceptable
      exact absurd acceptable (sound.stale_land other found).not_accepts

end

theorem SharedSound.land (sound : SharedSound fleet shared) (sent : request ∈ shared.writes) :
    SharedSound fleet (shared.land request) where
  requests := by
    intro other found
    have before := sound.requests other (mem_filter.mp found).1
    exact
      { sent := before.sent
        known := Cell.known_write before.known _
        claims := by
          intro stamp stampEq
          obtain ⟨past, holderEq, renewedEq, guarded⟩ := before.claims stamp stampEq
          exact ⟨past, holderEq, renewedEq, Cell.guarded_write guarded _⟩
        releases := fun stampEq => Cell.guarded_write (before.releases stampEq) _ }
  stored := by
    intro number stored
    rcases mem_cons.mp stored with rfl | before
    · exact (sound.requests request sent).sent
    · exact sound.stored number before

end Land

end Addons.ReplicaElection
