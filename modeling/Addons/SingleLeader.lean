import Addons.LeaseTiming

/-!
# At most one replica leads

No two replicas hold an uncancelled lead token as long as answers arrive within a bound for which
the lease duration leaves room, and a release takes effect only after the token of its sender is
cancelled.
-/

namespace Addons.LeaseTiming

open ConditionalStore TransitionSystem LeaseElection Option

section

variable {Id : Type} {fleet : Deployment Id} {bound : Nat} {shared : Shared Id} {id : Id}
  {replica : Replica}

/-! ## A replica that changes itself -/

namespace Activity

variable (config : LeaderElectionConfig) (now pause : Nat) (call : Call) (activity : Activity)

@[simp]
theorem attempt?_failed : (activity.failed config now pause).attempt? = none := by
  cases activity <;> rfl

@[simp]
theorem attempt?_succeeded : (activity.succeeded config now).attempt? = none := by
  cases activity <;> rfl

@[simp]
theorem attempt?_withCall :
    (activity.withCall call).attempt? =
      activity.attempt?.map fun attempt => { attempt with call := call } := by
  cases activity <;> rfl

/-- A leader that goes on has led before, and stays as fresh as it was. -/
def Keeps (config : LeaderElectionConfig) (bound now : Nat) (before after : Activity) : Prop :=
  after.leads → before.leads ∧ ∀ expiry, Fresh config bound now expiry before →
    Fresh config bound now expiry after

variable {config now pause call activity} {bound time : Nat}

theorem keeps_failed : Keeps config bound time activity (activity.failed config now pause) := by
  cases activity <;> simp [Keeps, leads, failed, Fresh]

theorem keeps_withCall : Keeps config bound time activity (activity.withCall call) := by
  cases activity <;> simp [Keeps, leads, withCall, Fresh]

theorem keeps_failed_withCall :
    Keeps config bound time (activity.failed config now pause) (activity.withCall call) := by
  cases activity <;> simp [Keeps, leads, failed, withCall, Fresh]

end Activity

theorem ReplicaSound.new (fleet : Deployment Id) (bound : Nat) (shared : Shared Id) (id : Id) :
    ReplicaSound fleet bound shared id {} where
  cached := by simp
  elector := .new 0
  observed := by simp
  own := by simp
  attempt := by simp [Activity.attempt?]
  leads := by simp [Activity.leads]

variable {content : Nat × Option LeaseSpec}

/-! ## A replica that sends a request -/

variable {release : Bool} {condition : Condition} {record : LeaderElectionRecord} {time : Int}

theorem quiet_send (shared : Shared Id) {sender : Id} (other : sender ≠ id) (release : Bool)
    (condition : Condition) (record : LeaderElectionRecord) :
    Quiet id shared (shared.send sender release condition record) where
  now := le_refl _
  lease := rfl
  stored := rfl
  nextNumber := Nat.le_succ _
  writes := by
    intro _ sent
    rcases List.mem_cons.mp sent with rfl | before
    · exact .inr ⟨le_refl _, other⟩
    · exact .inl before

theorem SharedSound.send (sound : SharedSound fleet shared)
    (request : RequestSound fleet (shared.send id release condition record)
      ⟨shared.nextNumber, id, release, condition, record⟩) :
    SharedSound fleet (shared.send id release condition record) := by
  refine sound.of_lease_eq (le_refl shared.now) rfl rfl (Nat.le_succ _) fun other sent => ?_
  rcases List.mem_cons.mp sent with rfl | before
  · exact .inr request
  · exact .inl before

theorem SharedSound.pending_send (sound : SharedSound fleet shared)
    (renewedEq : record.renewTime = some time) (condition : Condition) :
    Pending fleet (shared.send id false condition record) id time shared.nextNumber where
  sent := Nat.lt_succ_self _
  own := by
    intro request sent _
    rcases List.mem_cons.mp sent with rfl | before
    · exact ⟨rfl, rfl, renewedEq⟩
    · have earlier := (sound.requests request before).sent
      omega
  landed := by
    intro _ stored
    exact absurd (stored.symm.trans (sound.unstored _ (le_refl _))) (by simp)

section

variable (sound : ReplicaSound fleet bound shared id replica)
include sound

theorem ReplicaSound.withActivity (activity : Activity)
    (attempt : ∀ attempt ∈ activity.attempt?, AttemptSound fleet shared id replica.elector attempt)
    (keeps : Activity.Keeps fleet.config bound shared.now replica.activity activity) :
    ReplicaSound fleet bound shared id { replica with activity := activity } :=
  { sound with
    attempt := attempt
    leads := fun now uncancelled => (sound.leads (keeps now).1 uncancelled).imp_right
      ((keeps now).2 _) }

theorem ReplicaSound.failed (now pause : Nat) :
    ReplicaSound fleet bound shared id
      { replica with activity := replica.activity.failed fleet.config now pause } :=
  sound.withActivity _ (by simp) Activity.keeps_failed

theorem ReplicaSound.withCall {attempt : Attempt} {call : Call}
    (attempting : replica.activity.attempt? = some attempt)
    (callSound : CallSound fleet shared id replica.elector (fleet.wall id attempt.started) call) :
    ReplicaSound fleet bound shared id
      { replica with activity := replica.activity.withCall call } := by
  apply sound.withActivity _ _ Activity.keeps_withCall
  simp only [Activity.attempt?_withCall, attempting, map_some]
  rintro _ ⟨⟩
  exact { sound.attempt attempt attempting with call := callSound }

theorem ReplicaSound.observe (seen : Seen fleet shared content) (now pause : Nat) :
    ReplicaSound fleet bound shared id { replica with
      lease := some content
      elector := replica.elector.observe (leaseSpecToRecord content.2) shared.now
      activity := replica.activity.failed fleet.config now pause } where
  cached := by
    rintro _ ⟨⟩
    exact seen
  elector := sound.elector.observe seen.past
  observed := fun _ => seen.present
  own := by
    rintro leader _ ⟨⟩
    exact (sound.elector.observe seen.past).yields_of_isLeader leader _
      (ElectorSound.observedRaw_observe _ _ _)
  attempt := by simp
  leads := (sound.failed now pause).leads

theorem ReplicaSound.succeeded {number : Nat} (seen : Seen fleet shared content)
    (pending : Pending fleet shared id time number)
    (yields : ∀ raw ∈ replica.elector.observedRaw, fleet.Yields shared.now id raw)
    (holderEq : record.holderIdentity = fleet.identity id)
    (renewedEq : record.renewTime = some time) (stored : shared.stored number = some content)
    (fresh : replica.cancelled = false →
      Fresh fleet.config bound shared.now (fleet.expiry id time)
        (replica.activity.succeeded fleet.config shared.now)) :
    ReplicaSound fleet bound shared id { replica with
      lease := some content
      elector := replica.elector.setObservedRecord record shared.now
      activity := replica.activity.succeeded fleet.config shared.now
      acknowledged := record.renewTime.getD 0 } where
  cached := by
    rintro _ ⟨⟩
    exact seen
  elector := .owns holderEq yields
  observed := sound.observed
  own := by
    rintro - _ ⟨⟩
    exact .inl (pending.landed content stored).holderEq
  attempt := by simp
  leads := by
    intro _ uncancelled
    have fresh := fresh uncancelled
    simp only [renewedEq, getD_some]
    refine ⟨?_, fresh⟩
    rcases (pending.landed content stored).standing with holds | lapsed
    · exact holds
    · exact absurd lapsed (not_le.mpr fresh.valid)

theorem ReplicaSound.send (activity : Activity) (attempt : ∀ attempt ∈ activity.attempt?,
      AttemptSound fleet (shared.send id release condition record) id replica.elector attempt)
    (keeps : Activity.Keeps fleet.config bound shared.now replica.activity activity) :
    ReplicaSound fleet bound (shared.send id release condition record) id
      { replica with activity := activity } :=
  { sound with
    cached := fun content found => (sound.cached content found).of_lease_eq (le_refl shared.now) rfl
    attempt := attempt
    leads := fun now uncancelled => (sound.leads (keeps now).1 uncancelled).imp_right
      ((keeps now).2 _) }

end

theorem AttemptSound.send {elector sender : LeaderElector} {attempt : Attempt} {call : Call}
    (sound : AttemptSound fleet shared id elector attempt)
    (renewedEq : record.renewTime = some (fleet.wall id attempt.started))
    (callSound : CallSound fleet (shared.send id false condition record) id sender
      (fleet.wall id attempt.started) call) :
    AttemptSound fleet (shared.send id false condition record) id sender
      { attempt with call := call } :=
  { sound with
    writes := by
      intro request sent own claims renewed found
      rcases List.mem_cons.mp sent with rfl | before
      · exact le_of_eq (some.inj (found.symm.trans renewedEq))
      · exact sound.writes request before own claims renewed found
    call := callSound }

theorem Seen.guarded_of (seen : Seen fleet shared content) (holds : LeaderElectionRecord → Prop)
    (satisfied : holds (leaseSpecToRecord content.2)) :
    shared.lease.Guarded (.ifMatch content.1) fun value =>
      ∀ spec ∈ value, holds (leaseSpecToRecord spec) :=
  seen.guarded.imp fun _ valueEq spec found => by
    obtain rfl : content.2 = spec := some.inj (valueEq.symm.trans found)
    exact satisfied

end

open Activity

variable {Id : Type} {fleet : Deployment Id} {bound : Nat} {state after : State Id}

/-- The lease duration leaves room for a retry period, a renewal window and two answers, with the
microsecond that is lost by cutting the renew time. -/
def Fits (config : LeaderElectionConfig) (bound : Nat) : Prop :=
  config.retryPeriod + config.renewDeadline + 2 * bound + 1000 ≤ config.storedDuration

/-- The API server answers in time: the release of a leader has ended after `bound`, and an attempt
that succeeds has its answer after `bound`. A release takes effect after the token of its sender is
cancelled. -/
def Timely (fleet : Deployment Id) (bound : Nat) (state : State Id) : Event Id → Prop
  | .tick elapsed => ∀ id, Leads state id → ∀ deadline ∈ (state.replica id).activity.releaseEnd?,
      state.now + elapsed + fleet.config.renewDeadline ≤ deadline + bound
  | .ack id => (state.replica id).cancelled = false →
      ∀ attempt ∈ (state.replica id).activity.attempt?, state.now ≤ attempt.started + bound
  | .deliver number => ∀ request ∈ state.writes, request.number = number →
      request.release = true → ¬Leads state request.sender
  | _ => True

/-- A record that was stored in time stays valid for a pause, a window and a release. -/
theorem fresh_succeeded (fits : Fits fleet.config bound) {id : Id} {activity : Activity}
    {started now : Nat} (attempting : activity.attempt? ≠ none) (recent : now ≤ started + bound) :
    Fresh fleet.config bound now (fleet.expiry id (fleet.wall id started))
      (activity.succeeded fleet.config now) := by
  have stored : (started : Int) + fleet.config.storedDuration <
      fleet.expiry id (fleet.wall id started) + 1000 := by
    simp only [Deployment.expiry, Deployment.since, Deployment.wall]
    omega
  unfold Fits at fits
  cases activity with
  | acquiring | window =>
    simp only [succeeded, Fresh]
    omega
  | _ => exact absurd rfl attempting

theorem Initial.sound (initial : Initial fleet state) : Sound fleet bound state where
  shared := {
    past := by
      intro spec found id time holderEq renewed
      have written := fleet.since_mono id (initial.lease spec found id time holderEq renewed)
      have wall := fleet.since_wall_le id 0
      omega
    requests := by simp [initial.writes]
    stored := by simp [initial.stored]
    unstored := fun number _ => initial.stored number }
  replica := by
    intro id
    rw [initial.replica id]
    exact .new fleet bound _ id

namespace Sound

theorem acquisition_claims (elector : LeaderElector) (identity : String)
    (record old : LeaderElectionRecord) :
    (elector.acquisition identity record old).holderIdentity = record.holderIdentity ∧
      (elector.acquisition identity record old).leaseDurationSeconds = record.leaseDurationSeconds ∧
      (elector.acquisition identity record old).renewTime = record.renewTime := by
  unfold LeaderElector.acquisition
  split <;> exact ⟨rfl, rfl, rfl⟩

theorem tick {elapsed : Nat} (sound : Sound fleet bound state)
    (timely : Timely fleet bound state (.tick elapsed))
    (due : ∀ id, ∀ instant ∈ (state.replica id).activity.due?, state.now + elapsed ≤ instant) :
    Sound fleet bound { state with now := state.now + elapsed } := by
  have quiet : ∀ id, Quiet id state.toShared { state.toShared with now := state.now + elapsed } :=
    fun id => ⟨Nat.le_add_right _ _, rfl, rfl, le_refl _, fun _ sent => .inl sent⟩
  refine ⟨sound.shared.of_lease_eq (Nat.le_add_right _ _) rfl rfl (le_refl _) fun _ sent =>
    .inl sent, fun id => ?_⟩
  refine (quiet id).replica (sound.replica id) fun leads uncancelled => ?_
  have fresh := ((sound.replica id).leads leads uncancelled).2
  have answered := timely id ⟨leads, uncancelled⟩
  have due := due id
  generalize (state.replica id).activity = activity at fresh answered due ⊢
  cases activity <;>
    simp only [Fresh, releaseEnd?, due?, mem_def, some.injEq, forall_eq']
      at fresh answered due ⊢ <;>
    omega

theorem deliver {number : Nat} {shared : Shared Id} (sound : Sound fleet bound state)
    (timely : Timely fleet bound state (.deliver number))
    (delivered : state.deliver number = some shared) :
    Sound fleet bound { state with toShared := shared } := by
  obtain ⟨request, found, sharedEq⟩ := map_eq_some_iff.mp delivered
  have sent : request ∈ state.writes := List.mem_of_find?_eq_some found
  have numberEq : request.number = number := by
    simpa using List.find?_some found
  split at sharedEq
  · obtain rfl := sharedEq
    case isTrue accepted =>
      refine ⟨sound.shared.land sent, fun id => ?_⟩
      apply (sound.replica id).land sound.shared sent accepted
      rintro leads uncancelled rfl
      exact Bool.eq_false_iff.mpr fun released =>
        timely request sent numberEq released ⟨leads, uncancelled⟩
  · obtain rfl := sharedEq
    have quiet : ∀ id, Quiet id state.toShared (state.refuse request) := fun id =>
      ⟨le_refl _, rfl, rfl, le_refl _, fun _ kept => .inl (List.mem_filter.mp kept).1⟩
    refine ⟨sound.shared.of_lease_eq (le_refl state.now) rfl rfl (le_refl _) fun _ kept =>
      .inl (List.mem_filter.mp kept).1, fun id => ?_⟩
    exact (quiet id).replica (sound.replica id) fun leads uncancelled =>
      ((sound.replica id).leads leads uncancelled).2

variable [DecidableEq Id] {id : Id} {replica : Replica}

section

variable (sound : Sound fleet bound state)
include sound

theorem set (replicaSound : ReplicaSound fleet bound state.toShared id replica) :
    Sound fleet bound (state.set id replica) := by
  refine ⟨sound.shared, fun other => ?_⟩
  by_cases same : other = id
  · subst same
    simpa [State.set] using replicaSound
  · simpa [State.set, Function.update_of_ne same] using sound.replica other

variable {condition : Condition}

theorem send {release : Bool} {record : LeaderElectionRecord}
    (request : RequestSound fleet (state.toShared.send id release condition record)
      ⟨state.nextNumber, id, release, condition, record⟩)
    (replicaSound : ReplicaSound fleet bound (state.toShared.send id release condition record) id
      replica) : Sound fleet bound (state.send id replica release condition record) := by
  refine ⟨sound.shared.send request, fun other => ?_⟩
  by_cases same : other = id
  · subst same
    simpa [State.send] using replicaSound
  · have kept := (quiet_send state.toShared (Ne.symm same) release condition record).replica
      (sound.replica other) fun leads uncancelled =>
        ((sound.replica other).leads leads uncancelled).2
    simpa [State.send, Function.update_of_ne same] using kept

theorem sendClaim {attempt : Attempt} {wanted : LeaderElectionRecord}
    {elector : LeaderElector} {activity : Activity} {call : Call}
    (replicaSound : ReplicaSound fleet bound state.toShared id replica)
    (attemptSound : AttemptSound fleet state.toShared id elector attempt)
    (holderEq : wanted.holderIdentity = fleet.identity id)
    (durationEq : wanted.leaseDurationSeconds = fleet.config.leaseSeconds)
    (renewedEq : wanted.renewTime = some (fleet.wall id attempt.started))
    (guarded : state.lease.Guarded condition fun value => ∀ spec ∈ value,
      fleet.Yields state.now id (leaseSpecToRecord spec) ∧
        fleet.RenewedBy id (fleet.wall id attempt.started) (leaseSpecToRecord spec))
    (attemptEq : activity.attempt? = some { attempt with call := call })
    (keeps : Keeps fleet.config bound state.now replica.activity activity)
    (callSound : Pending fleet (state.toShared.send id false condition wanted) id
        (fleet.wall id attempt.started) state.nextNumber →
      CallSound fleet (state.toShared.send id false condition wanted) id replica.elector
        (fleet.wall id attempt.started) call) :
    Sound fleet bound
      (state.send id { replica with activity := activity } false condition wanted) := by
  have past : fleet.since id (fleet.wall id attempt.started) ≤ state.now := by
    have started := attemptSound.started
    have wall := fleet.since_wall_le id attempt.started
    omega
  have request : RequestSound fleet (state.toShared.send id false condition wanted)
      ⟨state.nextNumber, id, false, condition, wanted⟩ :=
    { sent := Nat.lt_succ_self _
      guarded := guarded.imp fun _ holds spec found => (holds spec found).1
      released := by simp
      claimed := fun _ => ⟨_, holderEq, durationEq, renewedEq, past,
        guarded.imp fun _ holds spec found => (holds spec found).2⟩ }
  apply sound.send request
  apply replicaSound.send activity _ keeps
  rw [attemptEq]
  rintro _ ⟨⟩
  exact attemptSound.send renewedEq (callSound (sound.shared.pending_send renewedEq condition))

theorem start {within : Attempt → Activity}
    (replicaSound : ReplicaSound fleet bound state.toShared id replica)
    (attemptEq : ∀ attempt, (within attempt).attempt? = some attempt)
    (keeps : ∀ attempt, Keeps fleet.config bound state.now replica.activity (within attempt)) :
    Sound fleet bound (state.start fleet id replica within) := by
  unfold State.start
  extract_lets plain fast record
  obtain ⟨holderEq, durationEq, renewedEq⟩ : record.holderIdentity = fleet.identity id ∧
      record.leaseDurationSeconds = fleet.config.leaseSeconds ∧
        record.renewTime = some (fleet.wall id state.now) := by
    simp only [record]
    split <;> exact ⟨rfl, rfl, rfl⟩
  have attemptSound : AttemptSound fleet state.toShared id replica.elector
      ⟨state.now, record, .getting⟩ :=
    { holderEq, durationEq, renewedEq
      started := le_refl _
      lease := fun spec found => (sound.shared.past spec found).renewedBy
      writes := by
        rintro request sent rfl claims renewed found
        obtain ⟨time, claim⟩ := (sound.shared.requests request sent).claimed claims
        obtain rfl : time = renewed := some.inj (claim.renewedEq.symm.trans found)
        exact Deployment.le_wall_of_since_le claim.past
      call := trivial }
  split
  case h_1 version spec isFast cached =>
    have leader : replica.elector.isLeader (fleet.identity id) :=
      (Bool.and_eq_true_iff.mp isFast).1
    have seen := replicaSound.cached _ cached
    exact sound.sendClaim replicaSound attemptSound holderEq durationEq renewedEq
      (seen.guarded_of (fun old => fleet.Yields _ id old ∧ fleet.RenewedBy id _ old)
        ⟨replicaSound.own leader _ cached, seen.past.renewedBy⟩)
      (attemptEq ⟨state.now, record, .fastUpdating state.nextNumber⟩) (keeps _)
      fun pending => ⟨pending, replicaSound.elector.yields_of_isLeader leader⟩
  case h_2 =>
    apply sound.set
    apply replicaSound.withActivity _ _ (keeps _)
    rw [attemptEq]
    rintro _ ⟨⟩
    exact attemptSound

theorem begin (taken : state.begin fleet id = some after) : Sound fleet bound after := by
  have replicaSound := sound.replica id
  cases activityEq : (state.replica id).activity with
  | acquiring | window | releasing | finished => simp [State.begin, activityEq] at taken
  | acquirePause =>
    simp only [State.begin, activityEq, ite_none_right_eq_some, some.injEq] at taken
    obtain ⟨-, rfl⟩ := taken
    exact sound.start replicaSound (fun _ => rfl) (by simp [Keeps, leads])
  | retryPause | renewPause =>
    simp only [State.begin, activityEq, ite_none_right_eq_some, some.injEq] at taken
    obtain ⟨-, rfl⟩ := taken
    refine sound.start replicaSound (fun _ => rfl) fun _ _ => ⟨by simp [activityEq, leads], ?_⟩
    simp only [activityEq, Fresh]
    omega
  | backoff =>
    simp only [State.begin, activityEq, ite_none_right_eq_some, some.injEq] at taken
    obtain ⟨-, rfl⟩ := taken
    -- a new elector has observed nothing, but the lock keeps the Lease it cached
    apply sound.start _ (fun _ => rfl) (by simp [Keeps, leads])
    exact {
      cached := replicaSound.cached
      elector := .new _
      observed := by simp
      own := fun leader => absurd (of_decide_eq_true leader).symm (fleet.named id)
      attempt := by simp [attempt?]
      leads := by simp [leads] }

theorem read (taken : state.read id = some after) : Sound fleet bound after := by
  unfold State.read at taken
  dsimp only at taken
  split at taken
  case h_2 => contradiction
  case h_1 started record attempting =>
    cases taken
    apply sound.set
    apply (sound.replica id).withCall attempting
    have attemptSound := (sound.replica id).attempt _ attempting
    cases currentEq : state.lease.current with
    | none =>
      by_contra observed
      exact (sound.replica id).observed observed currentEq
    | some content =>
      have valueEq : state.lease.value? = some content.2 := by simp [Cell.value?, currentEq]
      exact ⟨⟨Cell.guarded_read currentEq, sound.shared.past _ valueEq, by simp [currentEq]⟩,
        attemptSound.lease _ valueEq⟩

variable {pause : Nat}

theorem fail (taken : state.fail fleet id pause = some after) : Sound fleet bound after := by
  unfold State.fail at taken
  dsimp only at taken
  split at taken
  · contradiction
  split at taken
  · rename_i attempting
    cases taken
    exact sound.set ((sound.replica id).withCall attempting trivial)
  · cases taken
    exact sound.set ((sound.replica id).failed _ _)
  · contradiction

theorem ack (fits : Fits fleet.config bound) (timely : Timely fleet bound state (.ack id))
    (taken : state.ack fleet id = some after) : Sound fleet bound after := by
  have replicaSound := sound.replica id
  unfold State.ack at taken
  dsimp only at taken
  split at taken
  case h_1 started record number attempting =>
    obtain ⟨content, stored, rfl⟩ := map_eq_some_iff.mp taken
    have attemptSound := replicaSound.attempt _ attempting
    obtain ⟨pending, yields⟩ := attemptSound.call
    exact sound.set (replicaSound.succeeded (sound.shared.stored _ _ stored) pending yields
      attemptSound.holderEq attemptSound.renewedEq stored fun uncancelled =>
        fresh_succeeded fits (by simp [attempting]) (timely uncancelled _ attempting))
  case h_2 started record wanted number attempting =>
    obtain ⟨_, stored, rfl⟩ := map_eq_some_iff.mp taken
    obtain ⟨holderEq, renewedEq, pending, yields⟩ := (replicaSound.attempt _ attempting).call
    exact sound.set (replicaSound.succeeded (sound.shared.stored _ _ stored) pending yields
      holderEq renewedEq stored fun uncancelled =>
        fresh_succeeded fits (by simp [attempting]) (timely uncancelled _ attempting))
  case h_3 => contradiction

theorem respond (taken : state.respond fleet id pause = some after) : Sound fleet bound after := by
  have replicaSound := sound.replica id
  unfold State.respond at taken
  dsimp only at taken
  split at taken
  · contradiction
  split at taken
  case h_1 started record attempting =>
    cases taken
    have attemptSound := replicaSound.attempt _ attempting
    have unobserved : (state.replica id).elector.observedRaw = none := attemptSound.call
    have guarded : state.lease.Guarded .ifNoneMatch fun value => ∀ spec ∈ value,
        fleet.Yields state.now id (leaseSpecToRecord spec) ∧
          fleet.RenewedBy id (fleet.wall id started) (leaseSpecToRecord spec) := by
      refine ⟨trivial, fun accepted spec found => ?_⟩
      simp [Cell.value?, isNone_iff_eq_none.mp accepted] at found
    apply sound.sendClaim replicaSound attemptSound attemptSound.holderEq attemptSound.durationEq
      attemptSound.renewedEq guarded (by simp [attempting]; rfl) keeps_withCall
    intro pending
    exact ⟨attemptSound.holderEq, attemptSound.renewedEq, pending, by simp [unobserved]⟩
  case h_2 started record version spec attempting =>
    have attemptSound := replicaSound.attempt _ attempting
    obtain ⟨seen, renewedBy⟩ : Seen fleet state.toShared (version, spec) ∧
      fleet.RenewedBy id (fleet.wall id started) (leaseSpecToRecord spec) := attemptSound.call
    have observed := replicaSound.observe seen state.now pause
    have raw := ElectorSound.observedRaw_observe (state.replica id).elector
      (leaseSpecToRecord spec) state.now
    split at taken
    · cases taken
      exact sound.set observed
    · rename_i free
      cases taken
      have yields := observed.elector.yields_of_free raw (Bool.eq_false_iff.mpr free)
      obtain ⟨holderEq, durationEq, renewedEq⟩ := acquisition_claims
        ((state.replica id).elector.observe (leaseSpecToRecord spec) state.now)
        (fleet.identity id) record (leaseSpecToRecord spec)
      apply sound.sendClaim observed attemptSound (holderEq.trans attemptSound.holderEq)
        (durationEq.trans attemptSound.durationEq) (renewedEq.trans attemptSound.renewedEq)
        (seen.guarded_of (fun old => fleet.Yields _ id old ∧ fleet.RenewedBy id _ old)
          ⟨yields, renewedBy⟩) (by simp [attempting]; rfl) keeps_failed_withCall
      intro pending
      refine ⟨holderEq.trans attemptSound.holderEq, renewedEq.trans attemptSound.renewedEq,
        pending, ?_⟩
      rw [raw]
      rintro _ ⟨⟩
      exact yields
  case h_3 => contradiction

theorem stop (cached : ∀ content ∈ replica.lease, Seen fleet state.toShared content) :
    Sound fleet bound (state.stop fleet id replica) := by
  apply sound.set
  exact {
    cached := cached
    elector := .new 0
    observed := by simp
    own := fun leader => absurd (of_decide_eq_true leader).symm (fleet.named id)
    attempt := by
      split <;> simp [attempt?]
    leads := by
      split <;> simp [leads] }

theorem release (replicaSound : ReplicaSound fleet bound state.toShared id replica)
    (keeps : ∀ number, Keeps fleet.config bound state.now replica.activity
      (.releasing number (state.now + fleet.config.renewDeadline))) :
    Sound fleet bound (state.release fleet id replica) := by
  unfold State.release
  split
  case h_1 version spec leader cached =>
    have guarded := (replicaSound.cached _ cached).guarded_of (fleet.Yields state.now id)
      (replicaSound.own leader _ cached)
    apply sound.send ⟨Nat.lt_succ_self _, guarded, fun _ => rfl, by simp⟩
    exact replicaSound.send _ (by simp [attempt?]) (keeps _)
  case h_2 => exact sound.stop replicaSound.cached

theorem interrupt (taken : state.interrupt fleet id = some after) : Sound fleet bound after := by
  have replicaSound := sound.replica id
  cases activityEq : (state.replica id).activity with
  | acquiring | acquirePause =>
    simp only [State.interrupt, activityEq, ite_none_right_eq_some, some.injEq] at taken
    obtain ⟨-, rfl⟩ := taken
    exact sound.stop replicaSound.cached
  | window | retryPause | renewPause =>
    simp only [State.interrupt, activityEq, ite_none_right_eq_some, some.injEq] at taken
    obtain ⟨-, rfl⟩ := taken
    refine sound.release replicaSound fun _ _ => ⟨by simp [activityEq, leads], ?_⟩
    simp only [activityEq, Fresh]
    omega
  | releasing | backoff | finished => simp [State.interrupt, activityEq] at taken

theorem endRelease {answered : Bool} (taken : state.endRelease fleet id answered = some after) :
    Sound fleet bound after := by
  unfold State.endRelease at taken
  dsimp only at taken
  split at taken
  case h_1 number deadline activityEq =>
    cases answered with
    | true =>
      obtain ⟨content, stored, rfl⟩ := map_eq_some_iff.mp taken
      apply sound.stop
      rintro _ ⟨⟩
      exact sound.shared.stored number content stored
    | false =>
      cases taken
      exact sound.stop (sound.replica id).cached
  case h_2 => contradiction

theorem stepDown (taken : state.stepDown id = some after) : Sound fleet bound after := by
  obtain ⟨-, rfl⟩ := of_guard taken
  exact sound.set { sound.replica id with leads := by simp }

theorem step {event : Event Id} (fits : Fits fleet.config bound)
    (timely : Timely fleet bound state event)
    (step : Step fleet state event after) : Sound fleet bound after := by
  cases step with
  | tick due => exact sound.tick timely due
  | acts taken =>
    cases event with
    | tick => simp [act] at taken
    | begin => exact sound.begin taken
    | read => exact sound.read taken
    | respond => exact sound.respond taken
    | fail => exact sound.fail taken
    | ack => exact sound.ack fits timely taken
    | interrupt => exact sound.interrupt taken
    | endRelease => exact sound.endRelease taken
    | stepDown => exact sound.stepDown taken
    | shutDown id =>
      cases taken
      exact sound.set { sound.replica id with leads := by simp }
    | restart id =>
      cases taken
      exact sound.set (.new fleet bound _ id)
    | deliver =>
      obtain ⟨_, delivered, rfl⟩ := map_eq_some_iff.mp taken
      exact sound.deliver timely delivered

end

omit [DecidableEq Id] in
theorem eq_of_leads {first second : Id} (sound : Sound fleet bound state)
    (firstLeads : Leads state first)
    (secondLeads : Leads state second) : first = second := by
  obtain ⟨firstSpec, -, firstValue, firstHolder, -⟩ :=
    ((sound.replica first).leads firstLeads.1 firstLeads.2).1
  obtain ⟨secondSpec, -, secondValue, secondHolder, -⟩ :=
    ((sound.replica second).leads secondLeads.1 secondLeads.2).1
  obtain rfl : firstSpec = secondSpec := some.inj (firstValue.symm.trans secondValue)
  exact fleet.distinct (firstHolder.symm.trans secondHolder)

end Sound

/-- In every run whose answers keep to a bound that fits the configuration at most one replica
leads. -/
theorem leads_unique [DecidableEq Id] (fits : Fits fleet.config bound)
    (reached : Reachable (Initial fleet) (Step fleet) (Timely fleet bound) state)
    {first second : Id}
    (firstLeads : Leads state first) (secondLeads : Leads state second) : first = second := by
  have sound : Sound fleet bound state := reached.invariant (fun _ initial => initial.sound)
    fun _ _ _ before timely taken => before.step fits timely taken
  exact sound.eq_of_leads firstLeads secondLeads

/-! ## Two replicas with the default configuration -/

def defaults : LeaderElectionConfig := ⟨15 * second, 10 * second, 2 * second⟩

def pair : Deployment Bool where
  config := defaults
  identity := podName
  offset := fun _ => 0
  named := podName_ne_empty
  distinct := podName_injective

/-- Nobody has created the Lease. -/
def fresh : State Bool where
  now := 0
  lease := .empty
  writes := []
  stored := fun _ => none
  nextNumber := 0
  replica := fun _ => {}

theorem fresh_initial : Initial pair fresh where
  now := rfl
  writes := rfl
  stored := fun _ => rfl
  replica := fun _ => rfl
  lease := by simp [fresh, Cell.value?, Cell.empty]

/-- A step of the two replicas, computed. -/
def advance (state : State Bool) : Event Bool → Option (State Bool)
  | .tick elapsed =>
    if ∀ id, ∀ instant ∈ (state.replica id).activity.due?, state.now + elapsed ≤ instant then
      some { state with now := state.now + elapsed }
    else none
  | event => act pair state event

theorem step_of_advance (current : State Bool) (event : Event Bool) (next : State Bool)
    (advanced : advance current event = some next) : Step pair current event next := by
  cases event with
  | tick =>
    obtain ⟨due, nextEq⟩ := ite_none_right_eq_some.mp advanced
    exact some.inj nextEq ▸ .tick due
  | _ => exact .acts advanced

instance (current : State Bool) (id : Bool) : Decidable (Leads current id) :=
  inferInstanceAs (Decidable (_ ∧ _))

/-- An attempt whose calls are answered at once. -/
def attemptEvents (id : Bool) : List (Event Bool) :=
  [.begin id, .read id, .respond id (4 * second)]

/-- The first replica acquires and is then cut off from the API server: its renewal runs
into the deadline after 10 seconds, and the release into its own after another 10. The other
replica tries every 4 seconds and finds the Lease expired after 16. -/
def cutOff : List (Event Bool) :=
  attemptEvents false ++ [.deliver 0, .ack false, .begin false] ++ attemptEvents true ++
    [.tick (4 * second)] ++ attemptEvents true ++ [.tick (4 * second)] ++ attemptEvents true ++
    [.tick (2 * second), .interrupt false, .tick (2 * second)] ++ attemptEvents true ++
    [.tick (4 * second)] ++ attemptEvents true ++ [.deliver 3, .ack true]

/-- Two replicas lead at once under the default configuration. -/
theorem leads_both :
    (∀ exceeds : Nat → Nat → Bool, exceeds (10 * second) (2 * second) = true →
      pair.config.validate exceeds = .ok ()) ∧
    ∃ state, Reachable (Initial pair) (Step pair) (fun _ _ => True) state ∧
      Leads state false ∧ Leads state true := by
  constructor
  · intro _ longer
    simp only [LeaderElectionConfig.validate, pair, defaults, longer]
    rfl
  · have both : ((cutOff.foldlM advance fresh).any fun final =>
        decide (Leads final false ∧ Leads final true)) = true := by decide +kernel
    obtain ⟨final, run, leads⟩ := (any_eq_true _ _).mp both
    refine ⟨final, ?_, of_decide_eq_true leads⟩
    apply (Reachable.start fresh_initial).foldlM _ run
    intro current event next advanced
    exact ⟨trivial, step_of_advance current event next advanced⟩

instance (current : State Bool) :
    (event : Event Bool) → Decidable (Timely pair second current event)
  | .tick _ => inferInstanceAs (Decidable (∀ _, _))
  | .ack _ => inferInstanceAs (Decidable (_ → _))
  | .deliver _ => inferInstanceAs (Decidable (∀ _ ∈ _, _))
  | .begin _ | .read _ | .respond _ _ | .fail _ _ | .interrupt _ | .endRelease _ _ | .stepDown _
  | .shutDown _ | .restart _ => inferInstanceAs (Decidable True)

/-- A step that is taken in time. -/
def advanceTimely (current : State Bool) (event : Event Bool) : Option (State Bool) :=
  if Timely pair second current event then advance current event else none

/-- The first replica acquires, renews, and steps down; the other takes the Lease over. -/
def handover : List (Event Bool) :=
  attemptEvents false ++ [.deliver 0, .ack false, .begin false, .deliver 1, .ack false] ++
    attemptEvents true ++ [.tick (2 * second), .begin false, .tick second, .deliver 2, .ack false,
    .stepDown false, .interrupt false, .deliver 3, .endRelease false true, .tick second] ++
    attemptEvents true ++ [.deliver 4, .ack true]

theorem leads_unique_handover :
    Fits pair.config second ∧ ∃ state, Leads state true ∧
      ∀ other, Leads state other → other = true := by
  have fits : Fits pair.config second := by
    unfold Fits
    decide +kernel
  have led : ((handover.foldlM advanceTimely fresh).any fun final =>
      decide (Leads final true)) = true := by decide +kernel
  obtain ⟨final, run, leads⟩ := (any_eq_true _ _).mp led
  have reached : Reachable (Initial pair) (Step pair) (Timely pair second) final := by
    apply (Reachable.start fresh_initial).foldlM _ run
    intro current event next advanced
    obtain ⟨timely, taken⟩ := ite_none_right_eq_some.mp advanced
    exact ⟨timely, step_of_advance current event next taken⟩
  exact ⟨fits, final, of_decide_eq_true leads, fun _ otherLeads =>
    leads_unique fits reached otherLeads (of_decide_eq_true leads)⟩

end Addons.LeaseTiming
