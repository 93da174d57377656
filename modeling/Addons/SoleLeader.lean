import Addons.ReplicaElection

/-!
# One replica leads

While renewals are answered in time, whoever is inside `lead` holds the Lease.
-/

namespace Addons.ReplicaElection

open ConditionalStore TransitionSystem Option Activity List Nat

/-! ## What a replica does keeps the invariant -/

variable {activity : Activity}

section Steps

variable {Id : Type} {fleet : Deployment Id} {bound : Nat} {shared : Shared Id} {id : Id}
  {replica : Replica}

/-! ## A replica that changes itself -/

/-- The replica neither leads nor waits for an answer that matters. -/
def Activity.Idle (activity : Activity) : Prop :=
  activity.attempt? = none ∧ activity.leads = false ∧
    ∀ content, activity ≠ .releasing (.got (some content))

theorem ReplicaSound.idle (idle : activity.Idle) (shutDown : Bool) (acknowledged : Nat) :
    ReplicaSound fleet bound shared id ⟨activity, shutDown, acknowledged⟩ where
  attempt := by simp [idle.1]
  releasing content found := absurd found (idle.2.2 content)
  leads := by simp [idle.2.1]

@[simp]
theorem Activity.leads_withCall (call : Call) (activity : Activity) :
    (activity.withCall call).leads = activity.leads := by
  cases activity <;> rfl

theorem Activity.attempt?_withCall (call : Call) (activity : Activity) :
    (activity.withCall call).attempt? =
      activity.attempt?.map fun attempt => { attempt with call } := by
  cases activity <;> rfl

variable {call : Call}

theorem Activity.call_of_attempt {attempt : Attempt}
    (attempting : activity.attempt? = some attempt) (calling : activity.call? = some call) :
    attempt.call = call := by
  cases activity with
  | acquiring | renewing =>
    cases attempting
    exact some.inj calling
  | pause | renewPause | releasing | finished => cases attempting

theorem fresh_withCall {now acknowledged : Nat} (call : Call) :
    Fresh fleet bound now acknowledged (activity.withCall call) ↔
      Fresh fleet bound now acknowledged activity := by
  cases activity <;> rfl

theorem releasing_withCall {content : Nat × Option LeaseSpec}
    (found : activity.withCall call = .releasing (.got (some content))) :
    call = .got (some content) := by
  cases activity with
  | releasing =>
    cases found
    rfl
  | pause | acquiring | renewPause | renewing | finished => cases found

theorem ReplicaSound.withCall (sound : ReplicaSound fleet bound shared id replica)
    (attempts : ∀ attempt ∈ replica.activity.attempt?,
      CallSound fleet shared id attempt.started call)
    (seen : ∀ content, call = .got (some content) → Seen shared content) :
    ReplicaSound fleet bound shared id
      { replica with activity := replica.activity.withCall call } where
  attempt attempt found := by
    simp only [attempt?_withCall] at found
    obtain ⟨before, member, rfl⟩ := map_eq_some_iff.mp found
    exact ⟨(sound.attempt before member).1, attempts before member⟩
  releasing content found := seen content (releasing_withCall found)
  leads leads := by
    simp only [leads_withCall] at leads
    obtain ⟨holds, renews, fresh⟩ := sound.leads leads
    exact ⟨holds, renews, (fresh_withCall call).mpr fresh⟩

/-! ## A replica that sends a request -/

section Send

variable {stamp : Option Nat} {condition : Condition} {spec : LeaseSpec}

theorem quiet_send (shared : Shared Id) {other : Id} (different : other ≠ id) (stamp : Option Nat)
    (condition : Condition) (spec : LeaseSpec) :
    Quiet other shared (shared.send id stamp condition spec) where
  now := Nat.le_refl _
  lease := rfl
  stored := rfl
  nextNumber := le_succ _
  writes := by
    intro _ sent
    rcases mem_cons.mp sent with rfl | before
    · exact .inr ⟨Nat.le_refl _, different.symm⟩
    · exact .inl before

theorem SharedSound.pending_send (sound : SharedSound fleet shared) (started : Nat) :
    Pending fleet (shared.send id (some started) condition spec) id started
      shared.nextNumber where
  sent := lt_succ_self _
  own := by
    intro request sent _
    rcases mem_cons.mp sent with rfl | before
    · exact ⟨rfl, rfl⟩
    · have earlier := (sound.requests request before).sent
      omega
  landed stored := absurd (sound.stored _ stored) (Nat.lt_irrefl _)

theorem exists_renewal {now acknowledged : Nat} (leads : activity.leads)
    (calling : activity.call? ≠ none) (fresh : Fresh fleet bound now acknowledged activity) :
    ∃ attempt, activity.attempt? = some attempt ∧ acknowledged ≤ attempt.started := by
  cases activity with
  | renewing _ attempt => exact ⟨attempt, rfl, Nat.le_trans fresh.1 fresh.2.1⟩
  | renewPause => exact absurd rfl calling
  | pause | acquiring | releasing | finished => cases leads

theorem ReplicaSound.send (sound : ReplicaSound fleet bound shared id replica)
    (sharedSound : SharedSound fleet shared)
    (stamped : ∀ attempt ∈ replica.activity.attempt?, stamp = some attempt.started)
    (calling : replica.activity.call? ≠ none) :
    ReplicaSound fleet bound (shared.send id stamp condition spec) id
      { replica with activity := replica.activity.withCall (.writing shared.nextNumber) } where
  attempt attempt found := by
    simp only [attempt?_withCall] at found
    obtain ⟨before, member, rfl⟩ := map_eq_some_iff.mp found
    cases stamped before member
    exact ⟨(sound.attempt before member).1, sharedSound.pending_send before.started⟩
  releasing content found := by cases releasing_withCall found
  leads leads := by
    simp only [leads_withCall] at leads
    obtain ⟨holds, renews, fresh⟩ := sound.leads leads
    refine ⟨holds, ?_, (fresh_withCall _).mpr fresh⟩
    intro request sent own accepted
    rcases mem_cons.mp sent with rfl | before
    · obtain ⟨attempt, attempting, le⟩ := exists_renewal leads calling fresh
      exact ⟨attempt.started, stamped attempt attempting, le⟩
    · exact renews request before own accepted

end Send

end Steps

namespace Sound

variable {Id : Type} [DecidableEq Id] {fleet : Deployment Id} {bound : Nat}
  {state after : State Id} {id : Id}

section

variable (sound : Sound fleet bound state)
include sound

theorem set {replica : Replica}
    (replicaSound : ReplicaSound fleet bound state.toShared id replica) :
    Sound fleet bound (state.set id replica) where
  shared := sound.shared
  replica other := by
    by_cases same : other = id
    · subst same
      simpa [State.set] using replicaSound
    · simpa [State.set, Function.update_of_ne same] using sound.replica other

theorem idle (idle : activity.Idle) : Sound fleet bound (state.setActivity id activity) :=
  sound.set (.idle idle _ _)

theorem rest : Sound fleet bound (state.rest fleet id) :=
  sound.idle ⟨rfl, rfl, by simp⟩

theorem leave : Sound fleet bound (state.leave fleet id) := by
  unfold State.leave
  split
  · exact sound.idle ⟨rfl, rfl, by simp⟩
  · exact sound.rest

theorem yield : Sound fleet bound (state.yield fleet id) := by
  unfold State.yield
  split
  · exact sound.leave
  · exact sound.rest

end

section

variable (sound : Sound fleet bound state)
include sound

theorem begin (taken : state.begin id = some after) : Sound fleet bound after := by
  unfold State.begin at taken
  split at taken
  · obtain ⟨-, rfl⟩ := of_guard taken
    apply sound.set
    exact
      { attempt := by
          rintro attempt ⟨rfl⟩
          exact ⟨Nat.le_refl _, trivial⟩
        releasing := by simp
        leads := by simp [leads] }
  next _ _ activityEq =>
    obtain ⟨_, rfl⟩ := of_guard taken
    obtain ⟨holds, renews, fresh⟩ := (sound.replica id).leads (by simp [activityEq, leads])
    rw [activityEq] at fresh
    obtain ⟨first, second, third, fourth, fifth⟩ := fresh
    apply sound.set
    exact
      { attempt := by
          rintro _ ⟨rfl⟩
          exact ⟨Nat.le_refl _, trivial⟩
        releasing := by simp
        leads := fun _ => ⟨holds, renews, first, second, third, le_add_right _ _,
          Nat.le_trans fourth fifth⟩ }
  · cases taken

theorem read (taken : state.read id = some after) : Sound fleet bound after := by
  unfold State.read at taken
  split at taken
  · cases taken
    have seen : ∀ content ∈ state.lease.current, Seen state.toShared content :=
      fun content found => Cell.guarded_read found
    apply sound.set
    apply (sound.replica id).withCall
    · exact fun _ _ => seen
    · rintro content found
      exact seen content (Call.got.inj found)
  · cases taken

variable {condition : Condition} {spec : LeaseSpec}

theorem send {stamp : Option Nat}
    (request : RequestSound fleet (state.toShared.send id stamp condition spec)
      ⟨state.nextNumber, id, stamp, condition, spec⟩)
    (stamped : ∀ attempt ∈ (state.replica id).activity.attempt?, stamp = some attempt.started)
    (calling : (state.replica id).activity.call? ≠ none) :
    Sound fleet bound (state.send id stamp condition spec) := by
  constructor
  · constructor
    · intro other sent
      rcases mem_cons.mp sent with rfl | before
      · exact request
      · have otherSound := sound.shared.requests other before
        exact { otherSound with sent := lt_succ_of_lt otherSound.sent }
    · intro number stored
      exact lt_succ_of_lt (sound.shared.stored number stored)
  · intro other
    by_cases same : other = id
    · subst same
      simpa [State.send] using (sound.replica other).send sound.shared stamped calling
    · simp only [State.send, Function.update_of_ne same]
      apply (quiet_send state.toShared same stamp condition spec).replica (sound.replica other)
      intro leads
      exact ((sound.replica other).leads leads).2.2

theorem respond_releasing {call : Call}
    {content : Nat × Option LeaseSpec} (activityEq : (state.replica id).activity = .releasing call)
    (calling : (state.replica id).activity.call? = some (.got (some content)))
    (own : holder content.2 = fleet.identity id) (spec : LeaseSpec) :
    Sound fleet bound (state.send id none (.ifMatch content.1) spec) := by
  have callEq : call = .got (some content) := by
    rw [activityEq] at calling
    exact some.inj calling
  have seen := (sound.replica id).releasing content (callEq ▸ activityEq)
  apply sound.send
  · exact
      { sent := lt_succ_self _
        known := seen.1
        claims := by simp
        releases := fun _ => seen.imp fun _ valueEq _ found => by
          cases valueEq.symm.trans found
          exact own }
  · simp [activityEq, attempt?]
  · simp [calling]

theorem respond_claim {attempt : Attempt}
    (attempting : (state.replica id).activity.attempt? = some attempt)
    (calling : (state.replica id).activity.call? ≠ none)
    (holderEq : holder (some spec) = fleet.identity id)
    (renewedEq : renewTime (some spec) = some (micro attempt.started))
    (guarded : state.lease.Guarded condition fun value =>
      ∀ found ∈ value, Yields fleet id attempt.started found) :
    Sound fleet bound (state.send id (some attempt.started) condition spec) := by
  have past := ((sound.replica id).attempt attempt attempting).1
  apply sound.send
  · exact
      { sent := lt_succ_self _
        known := guarded.1
        claims := by
          rintro _ ⟨rfl⟩
          exact ⟨past, holderEq, renewedEq, guarded⟩
        releases := by simp }
  · intro _ found
    cases attempting.symm.trans found
    rfl
  · exact calling

end

omit [DecidableEq Id] in
theorem yields_of_not_heldByOther {stamp : Nat} {spec : Option LeaseSpec}
    (free : ¬ heldByOther fleet.timing (fleet.identity id) stamp spec) :
    Yields fleet id stamp spec := by
  simp only [heldByOther, decide_eq_true_eq, not_and, Bool.not_eq_false] at free
  by_cases unheld : holder spec = ""
  · exact .inl unheld
  · by_cases own : holder spec = fleet.identity id
    · exact .inr (.inl own)
    · exact .inr (.inr (free unheld own))

omit [DecidableEq Id] in
theorem not_lapsed_of_le {stamp now : Nat} (fits : Fits fleet.timing bound)
    (recent : now ≤ stamp + bound) : ¬ Lapsed fleet stamp now := by
  obtain ⟨representable, fits⟩ := fits
  unfold Lapsed
  rw [ttl, if_pos representable, micro]
  omega

end Sound

namespace Sound

variable {Id : Type} [DecidableEq Id] {fleet : Deployment Id} {bound : Nat}
  {state after : State Id} {id : Id}

omit [DecidableEq Id] in
theorem initial (begins : Initial state) : Sound fleet bound state where
  shared :=
    { requests := by simp [begins.writes]
      stored := by simp [begins.stored] }
  replica id := by
    rw [begins.replica id]
    exact .idle ⟨rfl, rfl, by simp⟩ _ _

section

variable (sound : Sound fleet bound state)
include sound

omit [DecidableEq Id] in
theorem tick {elapsed : Nat}
    (due : ∀ id, ∀ instant ∈ (state.replica id).activity.due?, state.now + elapsed ≤ instant)
    (timely : Timely bound state (.tick elapsed)) :
    Sound fleet bound { state with now := state.now + elapsed } := by
  have quiet (id : Id) : Quiet id state.toShared
      { state.toShared with now := state.now + elapsed } :=
    ⟨le_add_right _ _, rfl, rfl, Nat.le_refl _, fun _ => .inl⟩
  constructor
  · constructor
    · intro request sent
      have before := sound.shared.requests request sent
      exact
        { before with
          claims := by
            intro stamp stampEq
            obtain ⟨past, rest⟩ := before.claims stamp stampEq
            exact ⟨Nat.le_trans past (le_add_right _ _), rest⟩ }
    · exact sound.shared.stored
  · intro id
    apply (quiet id).replica (sound.replica id)
    intro leads
    have fresh := ((sound.replica id).leads leads).2.2
    cases activityEq : (state.replica id).activity with
    | renewPause wake lastOk =>
      rw [activityEq] at fresh
      have asleep := due id wake (by simp [activityEq, due?])
      obtain ⟨first, second, third, -, fifth⟩ := fresh
      exact ⟨first, Nat.le_trans second (le_add_right _ _), third, asleep, fifth⟩
    | renewing lastOk attempt =>
      rw [activityEq] at fresh
      have answered := timely id leads attempt (by simp [activityEq, attempt?])
      obtain ⟨first, second, third, -, fifth⟩ := fresh
      exact ⟨first, second, third, answered, fifth⟩
    | pause wake | acquiring attempt | releasing call | finished => trivial

theorem respond (taken : state.respond fleet id = some after) : Sound fleet bound after := by
  unfold State.respond at taken
  dsimp only at taken
  split at taken
  · cases taken
    exact sound.idle ⟨rfl, rfl, by simp⟩
  next _ version spec activityEq calling =>
    split at taken
    next own =>
      cases taken
      exact sound.respond_releasing activityEq calling own _
    · cases taken
      exact sound.idle ⟨rfl, rfl, by simp⟩
  next found calling _ _ =>
    obtain ⟨attempt, attempting, rfl⟩ := map_eq_some_iff.mp taken
    have calls : (state.replica id).activity.call? ≠ none := by simp [calling]
    have heard := ((sound.replica id).attempt attempt attempting).2
    rw [call_of_attempt attempting calling] at heard
    cases found with
    | none =>
      apply sound.respond_claim attempting calls rfl rfl
      refine ⟨trivial, ?_⟩
      intro absent spec found
      simp only [Cell.accepts, isNone_iff_eq_none] at absent
      simp [Cell.value?, absent] at found
    | some content =>
      obtain ⟨_, _⟩ := content
      dsimp only
      split
      · exact sound.yield
      next free =>
        have seen := heard _ rfl
        apply sound.respond_claim attempting calls rfl rfl
        refine seen.imp fun _ valueEq _ found => ?_
        cases valueEq.symm.trans found
        exact yields_of_not_heldByOther free
  · cases taken

theorem fail (taken : state.fail fleet id = some after) : Sound fleet bound after := by
  unfold State.fail at taken
  split at taken
  · cases taken
    exact sound.rest
  next _ attempt activityEq =>
    split at taken
    · cases taken
      exact sound.leave
    next _ =>
      cases taken
      obtain ⟨holds, renews, fresh⟩ :=
        (sound.replica id).leads (by simp [activityEq, leads])
      have began := ((sound.replica id).attempt attempt (by simp [activityEq, attempt?])).1
      rw [activityEq] at fresh
      obtain ⟨first, second, third, -, -⟩ := fresh
      apply sound.set
      exact
        { attempt := by simp [attempt?]
          releasing := by simp
          leads := fun _ => ⟨holds, renews, first, Nat.le_trans second began, third,
            le_add_right _ _, by omega⟩ }
  · cases taken
    exact sound.idle ⟨rfl, rfl, by simp⟩
  · cases taken

theorem ack (fits : Fits fleet.timing bound)
    (timely : Timely bound state (.ack id)) (taken : state.ack fleet id = some after) :
    Sound fleet bound after := by
  unfold State.ack at taken
  dsimp only at taken
  split at taken
  next _ calling =>
    obtain ⟨stored, taken⟩ := ite_none_right_eq_some.mp taken
    split at taken
    next attempt attempting =>
      cases taken
      obtain ⟨past, pending⟩ := (sound.replica id).attempt attempt attempting
      rw [call_of_attempt attempting calling] at pending
      have landed := Pending.landed pending stored
      have recent := timely attempt attempting
      apply sound.set
      exact
        { attempt := by simp [attempt?]
          releasing := by simp
          leads := fun _ => by
            refine ⟨?_, ?_, past, Nat.le_refl _, recent, le_add_right _ _, by omega⟩
            · rcases landed.standing with holds | lapsed
              · exact holds
              · exact absurd lapsed (not_lapsed_of_le fits recent)
            · intro request sent own accepted
              exact absurd accepted (landed.stale request sent own).not_accepts }
    · cases taken
      exact sound.idle ⟨rfl, rfl, by simp⟩
  · cases taken

omit [DecidableEq Id] in
theorem deliver (fits : Fits fleet.timing bound)
    {shared : Shared Id} {number : Nat} (delivered : state.deliver number = some shared) :
    Sound fleet bound { state with toShared := shared } := by
  obtain ⟨request, found, rfl⟩ := map_eq_some_iff.mp delivered
  have sent := mem_of_find?_eq_some found
  split
  next accepted =>
    exact ⟨sound.shared.land sent, fun id =>
      (sound.replica id).land sound.shared sent accepted fits⟩
  · have quiet (id : Id) : Quiet id state.toShared (state.refuse request) :=
      ⟨Nat.le_refl _, rfl, rfl, Nat.le_refl _, fun _ left => .inl (mem_filter.mp left).1⟩
    refine ⟨⟨?_, sound.shared.stored⟩, ?_⟩
    · intro other left
      have before := sound.shared.requests other (mem_filter.mp left).1
      exact ⟨before.sent, before.known, before.claims, before.releases⟩
    · intro id
      exact (quiet id).replica (sound.replica id) fun leads => ((sound.replica id).leads leads).2.2

theorem step {event : Event Id} (fits : Fits fleet.timing bound)
    (timely : Timely bound state event) (taken : Step fleet state event after) :
    Sound fleet bound after := by
  cases taken with
  | tick due => exact sound.tick due timely
  | acts taken =>
    cases event with
    | tick => cases taken
    | begin => exact sound.begin taken
    | read => exact sound.read taken
    | respond => exact sound.respond taken
    | fail => exact sound.fail taken
    | ack => exact sound.ack fits timely taken
    | leadEnds =>
      obtain ⟨-, rfl⟩ := of_guard taken
      exact sound.leave
    | quit =>
      unfold act State.quit at taken
      dsimp only at taken
      split at taken
      · cases taken
        exact sound.idle ⟨rfl, rfl, by simp⟩
      · cases taken
    | shutDown id =>
      cases taken
      have before := sound.replica id
      exact sound.set ⟨before.attempt, before.releasing, before.leads⟩
    | restart =>
      cases taken
      exact sound.set (.idle ⟨rfl, rfl, by simp⟩ _ _)
    | deliver =>
      obtain ⟨_, delivered, rfl⟩ := map_eq_some_iff.mp taken
      exact sound.deliver fits delivered

omit [DecidableEq Id] in
theorem eq_of_leads {first second : Id} (firstLeads : Leads state first)
    (secondLeads : Leads state second) : first = second := by
  obtain ⟨_, -, firstValue, firstHolder, -⟩ := ((sound.replica first).leads firstLeads).1
  obtain ⟨_, -, secondValue, secondHolder, -⟩ :=
    ((sound.replica second).leads secondLeads).1
  cases firstValue.symm.trans secondValue
  exact fleet.distinct (firstHolder.symm.trans secondHolder)

end

end Sound

/-- In every run whose calls are answered within a bound that the timing leaves room for, at
most one replica is inside `lead`. -/
theorem sole_leader {Id : Type} [DecidableEq Id] {fleet : Deployment Id} {bound : Nat}
    (fits : Fits fleet.timing bound) {state : State Id}
    (reached : Reachable Initial (Step fleet) (Timely bound) state) {first second : Id}
    (firstLeads : Leads state first) (secondLeads : Leads state second) : first = second := by
  have sound : Sound fleet bound state := reached.invariant (fun _ begins => .initial begins)
    fun _ _ _ before timely taken => before.step fits timely taken
  exact sound.eq_of_leads firstLeads secondLeads

/-! ## Two replicas -/

def podName (other : Bool) : String :=
  if other then "volume-autoscaler-1" else "volume-autoscaler-0"

def pair (timing : Timing) : Deployment Bool where
  timing
  identity := podName
  named := by decide
  distinct := by
    have distinct : ∀ first second, podName first = podName second → first = second := by decide
    exact fun first second => distinct first second

def noLease : State Bool := { lease := .empty }

theorem initial_noLease : Initial noLease :=
  ⟨rfl, rfl, fun _ => rfl⟩

/-- A step of the two replicas, computed. -/
def advance (timing : Timing) (state : State Bool) : Event Bool → Option (State Bool)
  | .tick elapsed =>
    if ∀ id, ∀ instant ∈ (state.replica id).activity.due?, state.now + elapsed ≤ instant then
      some { state with now := state.now + elapsed }
    else none
  | event => act (pair timing) state event

theorem step_of_advance (timing : Timing) (state : State Bool) (event : Event Bool)
    (after : State Bool) (advanced : advance timing state event = some after) :
    Step (pair timing) state event after := by
  cases event with
  | tick =>
    obtain ⟨due, rfl⟩ := of_guard advanced
    exact .tick due
  | _ => exact .acts advanced

instance (state : State Bool) (id : Bool) : Decidable (Leads state id) :=
  inferInstanceAs (Decidable (_ = true))

instance (bound : Nat) (state : State Bool) :
    (event : Event Bool) → Decidable (Timely bound state event)
  | .tick _ => inferInstanceAs (Decidable (∀ _, _ → ∀ _ ∈ _, _))
  | .ack _ => inferInstanceAs (Decidable (∀ _ ∈ _, _))
  | .begin _ | .read _ | .respond _ | .fail _ | .leadEnds _ | .quit _ | .shutDown _ | .restart _
  | .deliver _ => inferInstanceAs (Decidable True)

/-- An attempt up to its write, whose `GET` is answered at once. -/
def attemptEvents (id : Bool) : List (Event Bool) := [.begin id, .read id, .respond id]

/-- The first replica acquires, renews and is told to stop; the other takes the released Lease
over. -/
theorem sole_leader_handover :
    ∃ state : State Bool, Leads state true ∧ ∀ other, Leads state other → other = true := by
  have follows : ∃ state, Reachable Initial (Step (pair {})) (Timely second) state ∧
      Leads state true := by
    apply Reachable.exists_of_follow (advance {})
      (attemptEvents false ++ [.deliver 0, .ack false, .tick (2 * second)] ++
        attemptEvents false ++ [.tick second, .deliver 1, .ack false, .shutDown false,
        .leadEnds false, .read false, .respond false, .deliver 2, .ack false] ++
        attemptEvents true ++ [.deliver 3, .ack true])
      initial_noLease
    · exact step_of_advance {}
    · decide +kernel
  obtain ⟨state, reached, leads⟩ := follows
  have fits : Fits (pair {}).timing second := ⟨by decide, by decide⟩
  exact ⟨state, leads, fun _ otherLeads => sole_leader fits reached otherLeads leads⟩

def leadBoth (timing : Timing) (events : List (Event Bool)) : Bool :=
  (events.foldlM (advance timing) noLease).any fun state => Leads state false ∧ Leads state true

/-- Renewals fail at once, but the leader sleeps past the end of its lease. -/
example : leadBoth ⟨15 * second, 14 * second, 13 * second⟩
    (attemptEvents false ++ [.deliver 0, .ack false, .tick (13 * second), .begin false,
      .fail false, .tick (2 * second + 1)] ++ attemptEvents true ++
      [.deliver 1, .ack true]) = true := by
  decide +kernel

/-- Under the default timing, the first replica acquires and its renewal hangs; after 15
seconds the other takes the Lease over, and both are inside `lead`. -/
theorem both_lead_while_renewal_hangs :
    ∃ state, Reachable Initial (Step (pair {})) (fun _ _ => True) state ∧
      Leads state false ∧ Leads state true := by
  apply Reachable.exists_of_follow (advance {})
    (attemptEvents false ++ [.deliver 0, .ack false, .tick (2 * second), .begin false,
      .tick (13 * second + 1)] ++ attemptEvents true ++ [.deliver 1, .ack true])
    initial_noLease
  · exact step_of_advance {}
  · decide +kernel

end Addons.ReplicaElection
