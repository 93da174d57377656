import Addons.ConditionalStore
import Addons.TransitionSystem
import Mathlib.Algebra.Ring.Int.Defs

/-!
# Leader election on a Lease

Replicas contend for one Lease object of the API server.
-/

namespace Addons.LeaseElection

open ConditionalStore TransitionSystem

/-- What contenders compare. Wall-clock times count microseconds. -/
structure LeaderElectionRecord where
  holderIdentity : String := ""
  leaseDurationSeconds : Int64 := 0
  acquireTime : Option Int := none
  renewTime : Option Int := none
  leaderTransitions : Int64 := 0
  deriving DecidableEq

structure LeaseSpec where
  holderIdentity : Option String
  leaseDurationSeconds : Option Int32
  acquireTime : Option Int
  renewTime : Option Int
  leaseTransitions : Option Int32
  deriving DecidableEq

/-- A Lease object. `acquirers` is not stored: it lists who has acquired the Lease so
far, the newest first. -/
structure Lease where
  spec : Option LeaseSpec
  acquirers : List String
  deriving DecidableEq

def leaseSpecToRecord : Option LeaseSpec → LeaderElectionRecord
  | none => {}
  | some spec =>
    { holderIdentity := spec.holderIdentity.getD ""
      leaseDurationSeconds := spec.leaseDurationSeconds.elim 0 Int32.toInt64
      acquireTime := spec.acquireTime
      renewTime := spec.renewTime
      leaderTransitions := spec.leaseTransitions.elim 0 Int32.toInt64 }

def recordToLeaseSpec (record : LeaderElectionRecord) : LeaseSpec where
  holderIdentity := some record.holderIdentity
  leaseDurationSeconds := some record.leaseDurationSeconds.toInt32
  acquireTime := record.acquireTime
  renewTime := record.renewTime
  leaseTransitions := some record.leaderTransitions.toInt32

def Lease.record (lease : Lease) : LeaderElectionRecord :=
  leaseSpecToRecord lease.spec

def acquirersAfter (current : Option Lease) (record : LeaderElectionRecord) : List String :=
  match current with
  | none => [record.holderIdentity]
  | some lease =>
    if record.holderIdentity ≠ "" ∧ record.holderIdentity ≠ lease.record.holderIdentity then
      record.holderIdentity :: lease.acquirers
    else lease.acquirers

/-- `fencing_token`, given the object the call found. -/
def fencingToken (lease : Option Lease) : Int64 :=
  match lease with
  | none => 0
  | some lease => (lease.spec.bind LeaseSpec.leaseTransitions).elim 0 Int32.toInt64

/-- What one run of the elector has observed. Instants count nanoseconds. -/
structure LeaderElector where
  observedRecord : LeaderElectionRecord := {}
  observedRaw : Option LeaderElectionRecord := none
  observedTime : Nat := 0
  deriving DecidableEq

namespace LeaderElector

/-- The last observed leader was this client. -/
def isLeader (elector : LeaderElector) (identity : String) : Bool :=
  elector.observedRecord.holderIdentity = identity

def isLeaseValid (elector : LeaderElector) (now : Nat) : Bool :=
  elector.observedTime + elector.observedRecord.leaseDurationSeconds.toInt.toNat * 1000000000 > now

def setObservedRecord (elector : LeaderElector) (record : LeaderElectionRecord) (now : Nat) :
    LeaderElector :=
  { elector with observedRecord := record, observedTime := now }

/-- Take over a record read from the Lease, unless it was read before. -/
def observe (elector : LeaderElector) (old : LeaderElectionRecord) (now : Nat) :
    LeaderElector :=
  if elector.observedRaw = some old then elector
  else { elector.setObservedRecord old now with observedRaw := some old }

/-- Another client holds the Lease and it has not expired. -/
def heldByOther (elector : LeaderElector) (identity : String) (old : LeaderElectionRecord)
    (now : Nat) : Bool :=
  old.holderIdentity ≠ "" && elector.isLeaseValid now && !elector.isLeader identity

def renewal (record old : LeaderElectionRecord) : LeaderElectionRecord :=
  { record with acquireTime := old.acquireTime, leaderTransitions := old.leaderTransitions }

def acquisition (elector : LeaderElector) (identity : String) (record old : LeaderElectionRecord) :
    LeaderElectionRecord :=
  if elector.isLeader identity then renewal record old
  else { record with leaderTransitions := old.leaderTransitions + 1 }

/-- The record that gives the Lease up. -/
def released (elector : LeaderElector) (wall : Int) : LeaderElectionRecord where
  holderIdentity := ""
  leaseDurationSeconds := 1
  acquireTime := some wall
  renewTime := some wall
  leaderTransitions := elector.observedRecord.leaderTransitions

end LeaderElector

def attemptRecord (identity : String) (leaseDurationSeconds : Int64) (wall : Int) :
    LeaderElectionRecord where
  holderIdentity := identity
  leaseDurationSeconds := leaseDurationSeconds
  acquireTime := some wall
  renewTime := some wall
  leaderTransitions := 0

/-- Where a replica is within `try_acquire_or_renew` or `release`. Writes carry the
number of their request. -/
inductive Stage where
  | waiting
  | fastUpdating (record : LeaderElectionRecord) (number : Nat)
  | getting (record : LeaderElectionRecord)
  | writing (record : LeaderElectionRecord) (number : Nat)
  | releasing (number : Nat)
  deriving DecidableEq

/-- A replica: the Lease its lock has cached with its resource version, its elector, and
the term it leads. -/
structure Replica where
  lease : Option (Nat × Lease) := none
  elector : LeaderElector := {}
  stage : Stage := .waiting
  leading : Option Nat := none

/-- A leadership term. `acquired` is the number of transitions at which the replica
acquired and `acquirers` who had acquired the Lease by then. `endedAt` counts the terms
that had begun when it ended, and `fence` is what the term promotes with. -/
structure Term (Id : Type) where
  replica : Id
  acquired : Int64
  acquirers : List String
  endedAt : Option Nat := none
  fence : Option Int64 := none

/-- A write of the Lease on its way to the API server. -/
structure LeaseWrite where
  number : Nat
  condition : Condition
  record : LeaderElectionRecord
  deriving DecidableEq

/-- `stored` gives the object that a request stored, with its resource version. -/
structure State (Id : Type) where
  lease : Cell Lease
  writes : List LeaseWrite
  stored : Nat → Option (Nat × Lease)
  nextNumber : Nat
  replica : Id → Replica
  terms : List (Term Id)

/-- All replicas are new. The Lease may be there, left by whoever holds it. -/
structure Initial {Id : Type} (state : State Id) : Prop where
  writes : state.writes = []
  stored : ∀ number, state.stored number = none
  replica : ∀ id, state.replica id = {}
  terms : state.terms = []
  lease : ∀ lease ∈ state.lease.value?, lease.acquirers = [lease.record.holderIdentity]

variable {Id : Type} [DecidableEq Id]

namespace State

def set (state : State Id) (id : Id) (replica : Replica) : State Id :=
  { state with replica := Function.update state.replica id replica }

def send (state : State Id) (id : Id) (replica : Replica) (condition : Condition)
    (record : LeaderElectionRecord) : State Id :=
  { state.set id replica with
    writes := ⟨state.nextNumber, condition, record⟩ :: state.writes
    nextNumber := state.nextNumber + 1 }

def written (state : State Id) (write : LeaseWrite) : Lease where
  spec := some (recordToLeaseSpec write.record)
  acquirers := acquirersAfter state.lease.value? write.record

def land (state : State Id) (write : LeaseWrite) : State Id :=
  { state with
    lease := state.lease.write (state.written write)
    writes := state.writes.erase write
    stored := Function.update state.stored write.number
      (some (state.lease.nextTag, state.written write)) }

def refuse (state : State Id) (write : LeaseWrite) : State Id :=
  { state with writes := state.writes.erase write }

/-- An attempt of `id` succeeded: a replica that does not lead begins a term. -/
def succeed (state : State Id) (id : Id) (replica : Replica) (lease : Lease) : State Id :=
  match replica.leading with
  | some _ => state.set id replica
  | none =>
    { state.set id { replica with leading := some state.terms.length } with
      terms := state.terms ++ [{
        replica := id
        acquired := replica.elector.observedRecord.leaderTransitions
        acquirers := lease.acquirers }] }

/-- `renew` returned: the term is over and a new elector will contend. -/
def stop (state : State Id) (id : Id) (replica : Replica) (term : Nat) : State Id :=
  { state.set id { replica with elector := {}, stage := .waiting, leading := none } with
    terms := state.terms.modify term fun ended =>
      { ended with endedAt := some state.terms.length } }

/-- The term reads its fencing token and promotes with it. -/
def promote (state : State Id) (term : Nat) (fence : Int64) : State Id :=
  { state with terms := state.terms.modify term fun promoted =>
      { promoted with fence := some fence } }

end State

inductive Event (Id : Type) where
  | replica (id : Id)
  | land (write : LeaseWrite)
  | readToken (term : Nat) (answered : Bool)

/-- One step of a replica, of the API server, or of a term's start-up task. -/
inductive Step (identity : Id → String) (leaseDurationSeconds : Int64) :
    State Id → Event Id → State Id → Prop where
  | attemptFast {state : State Id} {id : Id} {version : Nat} {lease : Lease}
      {record : LeaderElectionRecord} (wall : Int) (now : Nat)
      (waiting : (state.replica id).stage = .waiting)
      (leads : (state.replica id).elector.isLeader (identity id) = true)
      (valid : (state.replica id).elector.isLeaseValid now = true)
      (cached : (state.replica id).lease = some (version, lease))
      (recordEq : record = LeaderElector.renewal
        (attemptRecord (identity id) leaseDurationSeconds wall)
        (state.replica id).elector.observedRecord) :
      Step identity leaseDurationSeconds state (.replica id)
        (state.send id { state.replica id with stage := .fastUpdating record state.nextNumber }
          (.ifMatch version) record)
  | attemptSlow {state : State Id} {id : Id} (wall : Int) (now : Nat)
      (waiting : (state.replica id).stage = .waiting)
      (slow : (state.replica id).elector.isLeader (identity id) = false ∨
        (state.replica id).elector.isLeaseValid now = false ∨
        (state.replica id).lease = none) :
      Step identity leaseDurationSeconds state (.replica id)
        (state.set id { state.replica id with
          stage := .getting (attemptRecord (identity id) leaseDurationSeconds wall) })
  | fastFails {state : State Id} {id : Id} {record : LeaderElectionRecord} {number : Nat}
      (updating : (state.replica id).stage = .fastUpdating record number) :
      Step identity leaseDurationSeconds state (.replica id)
        (state.set id { state.replica id with stage := .getting record })
  | getMissing {state : State Id} {id : Id} {record : LeaderElectionRecord}
      (getting : (state.replica id).stage = .getting record)
      (missing : state.lease.current = none) :
      Step identity leaseDurationSeconds state (.replica id)
        (state.send id { state.replica id with stage := .writing record state.nextNumber }
          .ifNoneMatch record)
  | getHeld {state : State Id} {id : Id} {record : LeaderElectionRecord} {version : Nat}
      {lease : Lease} (now : Nat) (getting : (state.replica id).stage = .getting record)
      (found : state.lease.current = some (version, lease))
      (held : ((state.replica id).elector.observe lease.record now).heldByOther (identity id)
        lease.record now = true) :
      Step identity leaseDurationSeconds state (.replica id)
        (state.set id { state.replica id with
          lease := some (version, lease)
          elector := (state.replica id).elector.observe lease.record now
          stage := .waiting })
  | getFree {state : State Id} {id : Id} {record wanted : LeaderElectionRecord}
      {version : Nat} {lease : Lease} {elector : LeaderElector} (now : Nat)
      (getting : (state.replica id).stage = .getting record)
      (found : state.lease.current = some (version, lease))
      (observed : elector = (state.replica id).elector.observe lease.record now)
      (free : elector.heldByOther (identity id) lease.record now = false)
      (wantedEq : wanted = elector.acquisition (identity id) record lease.record) :
      Step identity leaseDurationSeconds state (.replica id)
        (state.send id { state.replica id with
            lease := some (version, lease)
            elector := elector
            stage := .writing wanted state.nextNumber }
          (.ifMatch version) wanted)
  | attemptFails {state : State Id} {id : Id}
      (attempting : ∀ number, (state.replica id).stage ≠ .releasing number) :
      Step identity leaseDurationSeconds state (.replica id)
        (state.set id { state.replica id with stage := .waiting })
  | attemptSucceeds {state : State Id} {id : Id} {record : LeaderElectionRecord}
      {number version : Nat} {lease : Lease} (now : Nat)
      (writing : (state.replica id).stage = .writing record number ∨
        (state.replica id).stage = .fastUpdating record number)
      (stored : state.stored number = some (version, lease)) :
      Step identity leaseDurationSeconds state (.replica id)
        (state.succeed id { state.replica id with
          lease := some (version, lease)
          elector := (state.replica id).elector.setObservedRecord record now
          stage := .waiting } lease)
  | release {state : State Id} {id : Id} {term version : Nat} {lease : Lease} (wall : Int)
      (leading : (state.replica id).leading = some term)
      (attempting : ∀ number, (state.replica id).stage ≠ .releasing number)
      (leads : (state.replica id).elector.isLeader (identity id) = true)
      (cached : (state.replica id).lease = some (version, lease)) :
      Step identity leaseDurationSeconds state (.replica id)
        (state.send id { state.replica id with stage := .releasing state.nextNumber }
          (.ifMatch version) ((state.replica id).elector.released wall))
  | stop {state : State Id} {id : Id} {term : Nat}
      (leading : (state.replica id).leading = some term)
      (unheld : (state.replica id).elector.isLeader (identity id) = false ∨
        ∃ number, (state.replica id).stage = .releasing number) :
      Step identity leaseDurationSeconds state (.replica id)
        (state.stop id (state.replica id) term)
  | stopReleased {state : State Id} {id : Id} {term number version : Nat} {lease : Lease}
      (leading : (state.replica id).leading = some term)
      (releasing : (state.replica id).stage = .releasing number)
      (stored : state.stored number = some (version, lease)) :
      Step identity leaseDurationSeconds state (.replica id)
        (state.stop id { state.replica id with lease := some (version, lease) } term)
  | contend {state : State Id} {id : Id} (follows : (state.replica id).leading = none) :
      Step identity leaseDurationSeconds state (.replica id)
        (state.set id { state.replica id with elector := {}, stage := .waiting })
  | restart {state : State Id} {id : Id} (follows : (state.replica id).leading = none) :
      Step identity leaseDurationSeconds state (.replica id) (state.set id {})
  | restartLeader {state : State Id} {id : Id} {term : Nat}
      (leading : (state.replica id).leading = some term) :
      Step identity leaseDurationSeconds state (.replica id) (state.stop id {} term)
  | land {state : State Id} {write : LeaseWrite} (sent : write ∈ state.writes)
      (accepted : state.lease.accepts write.condition = true) :
      Step identity leaseDurationSeconds state (.land write) (state.land write)
  | refuse {state : State Id} {write : LeaseWrite} (sent : write ∈ state.writes)
      (refused : state.lease.accepts write.condition = false) :
      Step identity leaseDurationSeconds state (.land write) (state.refuse write)
  | readToken {state : State Id} {index : Nat} {term : Term Id}
      (found : state.terms[index]? = some term) (unread : term.fence = none) :
      Step identity leaseDurationSeconds state (.readToken index true)
        (state.promote index (fencingToken state.lease.value?))
  | readFails {state : State Id} {index : Nat} {term : Term Id}
      (found : state.terms[index]? = some term) (unread : term.fence = none) :
      Step identity leaseDurationSeconds state (.readToken index false)
        (state.promote index 0)

open LeaderElector List

/-! ## The history of the Lease -/

/-- Holder and transition count, which decide who may write. -/
def Agrees (record : LeaderElectionRecord) (lease : Lease) : Prop :=
  record.holderIdentity = lease.record.holderIdentity ∧
    record.leaderTransitions = lease.record.leaderTransitions

structure WellFormed (origin : Int) (lease : Lease) : Prop where
  counted : lease.record.leaderTransitions.toInt = origin + lease.acquirers.length
  holder : lease.record.holderIdentity = "" ∨
    lease.acquirers.head? = some lease.record.holderIdentity

structure Precedes (earlier later : Lease) : Prop where
  acquirers : earlier.acquirers <:+ later.acquirers
  holder : earlier.acquirers = later.acquirers →
    later.record.holderIdentity = earlier.record.holderIdentity ∨
      later.record.holderIdentity = ""

theorem Precedes.refl (lease : Lease) : Precedes lease lease :=
  ⟨suffix_rfl, fun _ => .inl rfl⟩

variable {first second third : Lease}

theorem Precedes.trans (before : Precedes first second)
    (after : Precedes second third) : Precedes first third where
  acquirers := before.acquirers.trans after.acquirers
  holder := by
    intro same
    have firstEq : first.acquirers = second.acquirers := by
      apply before.acquirers.eq_of_length
      have firstLe := before.acquirers.length_le
      have secondLe := after.acquirers.length_le
      rw [← same] at secondLe
      omega
    have secondEq : second.acquirers = third.acquirers := firstEq ▸ same
    rcases after.holder secondEq with thirdHolder | given
    · rw [thirdHolder]
      exact before.holder firstEq
    · exact .inr given

theorem agrees_of_between {origin : Int} (firstFormed : WellFormed origin first)
    (thirdFormed : WellFormed origin third)
    (before : Precedes first second) (after : Precedes second third)
    (same : first.record = third.record) :
    second.acquirers = third.acquirers ∧
      second.record.holderIdentity = third.record.holderIdentity := by
  have lengths : first.acquirers.length = third.acquirers.length := by
    have firstCount := firstFormed.counted
    have thirdCount := thirdFormed.counted
    rw [same] at firstCount
    omega
  have firstLe := before.acquirers.length_le
  have secondLe := after.acquirers.length_le
  have firstEq := before.acquirers.eq_of_length (by omega)
  have secondEq := after.acquirers.eq_of_length (by omega)
  refine ⟨secondEq, ?_⟩
  rcases after.holder secondEq with kept | given
  · exact kept.symm
  · rcases before.holder firstEq with kept | givenBefore
    · rw [kept, same]
    · rw [givenBefore, given]

/-- What a write may do to the Lease it replaces. -/
def Follows (current : Option Lease) (record : LeaderElectionRecord) : Prop :=
  match current with
  | none => record.holderIdentity ≠ "" ∧ record.leaderTransitions = 0
  | some lease =>
    (record.holderIdentity = lease.record.holderIdentity ∨ record.holderIdentity = "") ∧
        record.leaderTransitions = lease.record.leaderTransitions ∨
      record.holderIdentity ≠ "" ∧
        record.holderIdentity ≠ lease.record.holderIdentity ∧
        record.leaderTransitions = lease.record.leaderTransitions + 1

variable {count : Int64}

theorem toInt64_toInt32 (lower : -2 ^ 31 ≤ count.toInt)
    (upper : count.toInt < 2 ^ 31) : count.toInt32.toInt64 = count := by
  rw [← Int64.toInt_inj, Int32.toInt_toInt64, Int64.toInt_toInt32, Int.bmod_eq_of_le] <;> omega

theorem fencingToken_eq (lease : Lease) :
    fencingToken (some lease) = lease.record.leaderTransitions := by
  obtain ⟨spec, acquirers⟩ := lease
  cases spec <;> rfl

theorem transitions_range (lease : Lease) :
    -2 ^ 31 ≤ lease.record.leaderTransitions.toInt ∧
      lease.record.leaderTransitions.toInt < 2 ^ 31 := by
  rw [← fencingToken_eq]
  simp only [fencingToken]
  cases lease.spec.bind LeaseSpec.leaseTransitions with
  | none => decide
  | some count =>
    simp only [Option.elim_some, Int32.toInt_toInt64]
    exact ⟨Int32.le_toInt count, Int32.toInt_lt count⟩

theorem toInt_succ (lower : -2 ^ 31 ≤ count.toInt) (upper : count.toInt < 2 ^ 31) :
    (count + 1).toInt = count.toInt + 1 := by
  have one : (1 : Int64).toInt = 1 := by decide
  rw [Int64.toInt_add, one, Int.bmod_eq_of_le] <;> omega

section Writing

variable {Id : Type} {state : State Id} {write : LeaseWrite} {origin : Int}

theorem written_holder :
    (state.written write).record.holderIdentity = write.record.holderIdentity := rfl

theorem written_transitions (lower : -2 ^ 31 ≤ write.record.leaderTransitions.toInt)
    (upper : write.record.leaderTransitions.toInt < 2 ^ 31) :
    (state.written write).record.leaderTransitions = write.record.leaderTransitions :=
  toInt64_toInt32 lower upper

theorem written_create (absent : state.lease.value? = none) (created : origin = -1)
    (follows : Follows state.lease.value? write.record) :
    WellFormed origin (state.written write) ∧ Agrees write.record (state.written write) := by
  rw [absent] at follows
  obtain ⟨held, zero⟩ := follows
  have transitions : (state.written write).record.leaderTransitions = 0 := by
    rw [written_transitions] <;> simp [zero]
  have acquirersEq : (state.written write).acquirers = [write.record.holderIdentity] := by
    simp [State.written, acquirersAfter, absent]
  refine ⟨⟨?_, .inr ?_⟩, written_holder.symm, zero.trans transitions.symm⟩
  · rw [transitions, acquirersEq, created]
    rfl
  · rw [acquirersEq, written_holder]
    rfl

/-- A later write that keeps, gives up or acquires the Lease. -/
theorem written_follows {lease : Lease} (found : state.lease.value? = some lease)
    (formed : WellFormed origin lease) (room : lease.record.leaderTransitions.toInt < 2 ^ 31 - 1)
    (follows : Follows state.lease.value? write.record) :
    WellFormed origin (state.written write) ∧ Agrees write.record (state.written write) ∧
      Precedes lease (state.written write) := by
  have range := transitions_range lease
  rw [found] at follows
  rcases follows with ⟨kept, transitions⟩ | ⟨held, other, transitions⟩
  · have written := @written_transitions _ state write (transitions ▸ range.1)
      (transitions ▸ range.2)
    have acquirersEq : (state.written write).acquirers = lease.acquirers := by
      rcases kept with kept | given
      · simp [State.written, acquirersAfter, found, kept]
      · simp [State.written, acquirersAfter, found, given]
    refine ⟨⟨?_, ?_⟩, ⟨written_holder.symm, written.symm⟩, ?_, fun _ => ?_⟩
    · rw [written, transitions, acquirersEq]
      exact formed.counted
    · rw [acquirersEq, written_holder]
      rcases kept with kept | given
      · rw [kept]
        exact formed.holder
      · exact .inl given
    · exact acquirersEq.symm ▸ suffix_rfl
    · exact kept
  · have succ := toInt_succ range.1 range.2
    rw [← transitions] at succ
    have written := @written_transitions _ state write (by omega) (by omega)
    have acquirersEq : (state.written write).acquirers =
        write.record.holderIdentity :: lease.acquirers := by
      simp [State.written, acquirersAfter, found, held, other]
    refine ⟨⟨?_, .inr ?_⟩, ⟨written_holder.symm, written.symm⟩, ?_, fun same => ?_⟩
    · have counted := formed.counted
      rw [written, acquirersEq, length_cons]
      omega
    · rw [acquirersEq, written_holder]
      rfl
    · rw [acquirersEq]
      exact suffix_cons _ _
    · rw [acquirersEq] at same
      exact absurd same (cons_ne_self _ _).symm

end Writing

/-- An object that was stored under a version. -/
structure Known (origin : Int) (cell : Cell Lease) (version : Nat) (lease : Lease) : Prop where
  formed : WellFormed origin lease
  guarded : cell.Guarded (.ifMatch version) (· = some lease)
  current : ∃ now ∈ cell.value?, Precedes lease now

structure Informed (origin : Int) (cell : Cell Lease) (replica : Replica) : Prop where
  known : ∀ version lease, replica.lease = some (version, lease) →
    Known origin cell version lease
  observed : replica.elector.observedRecord = {} ∨
    ∃ version lease, replica.lease = some (version, lease) ∧
      Agrees replica.elector.observedRecord lease
  raw : ∀ record, replica.elector.observedRaw = some record →
    ∃ version lease, replica.lease = some (version, lease) ∧
      Agrees replica.elector.observedRecord lease ∧
      ∃ first, WellFormed origin first ∧ first.record = record ∧ Precedes first lease

variable {origin : Int} {cell : Cell Lease} {replica : Replica} {version : Nat} {lease : Lease}

theorem Known.write {value : Lease} (known : Known origin cell version lease)
    (precedes : ∀ now ∈ cell.value?, Precedes now value) :
    Known origin (cell.write value) version lease where
  formed := known.formed
  guarded := Cell.guarded_write known.guarded value
  current := by
    obtain ⟨now, nowEq, before⟩ := known.current
    exact ⟨value, rfl, before.trans (precedes now nowEq)⟩

theorem informed_fresh : Informed origin cell {} where
  known := by simp
  observed := .inl rfl
  raw := by simp

theorem Informed.contend (informed : Informed origin cell replica) {stage : Stage}
    {leading : Option Nat} :
    Informed origin cell { replica with elector := {}, stage := stage, leading := leading } where
  known := informed.known
  observed := .inl rfl
  raw := by simp

theorem Informed.moves (informed : Informed origin cell replica) {stage : Stage} :
    Informed origin cell { replica with stage := stage } :=
  ⟨informed.known, informed.observed, informed.raw⟩

theorem known_found (formed : WellFormed origin lease)
    (found : cell.current = some (version, lease)) : Known origin cell version lease where
  formed := formed
  guarded := Cell.guarded_read found
  current := ⟨lease, by simp [Cell.value?, found], Precedes.refl lease⟩

section

variable (informed : Informed origin cell replica)
include informed

theorem Informed.observe_agrees (formed : WellFormed origin lease)
    (found : cell.current = some (version, lease)) (now : Nat) :
    Agrees (replica.elector.observe lease.record now).observedRecord lease := by
  unfold observe
  split
  · rename_i same
    obtain ⟨_, cached, cachedEq, observed, first, firstFormed, firstEq, before⟩ :=
      informed.raw lease.record same
    have known := informed.known _ _ cachedEq
    obtain ⟨current, currentEq, after⟩ := known.current
    have currentLease : current = lease := by
      simpa [Cell.value?, found, eq_comm] using currentEq
    subst currentLease
    obtain ⟨acquirersEq, holderEq⟩ :=
      agrees_of_between firstFormed formed before after firstEq
    have transitionsEq : cached.record.leaderTransitions = current.record.leaderTransitions := by
      rw [← Int64.toInt_inj, known.formed.counted, formed.counted, acquirersEq]
    exact ⟨observed.1.trans holderEq, observed.2.trans transitionsEq⟩
  · exact ⟨rfl, rfl⟩

theorem Informed.observe (formed : WellFormed origin lease)
    (found : cell.current = some (version, lease)) (now : Nat) (stage : Stage) :
    Informed origin cell { replica with
      lease := some (version, lease)
      elector := replica.elector.observe lease.record now
      stage := stage } where
  known := by
    rintro _ _ ⟨⟩
    exact known_found formed found
  observed := .inr ⟨version, lease, rfl, informed.observe_agrees formed found now⟩
  raw := by
    intro record recordEq
    refine ⟨version, lease, rfl, informed.observe_agrees formed found now, lease, formed, ?_,
      Precedes.refl lease⟩
    unfold LeaderElector.observe at recordEq
    split at recordEq
    · rename_i same
      rw [same] at recordEq
      exact Option.some.inj recordEq
    · exact Option.some.inj recordEq

theorem Informed.succeed {record : LeaderElectionRecord}
    (known : Known origin cell version lease) (agrees : Agrees record lease)
    (later : ∀ version cached, replica.lease = some (version, cached) → Precedes cached lease)
    (now : Nat) (stage : Stage) :
    Informed origin cell { replica with
      lease := some (version, lease)
      elector := replica.elector.setObservedRecord record now
      stage := stage } where
  known := by
    rintro _ _ ⟨⟩
    exact known
  observed := .inr ⟨version, lease, rfl, agrees⟩
  raw := by
    intro raw rawEq
    obtain ⟨oldVersion, cached, cachedEq, _, first, formed, firstEq, before⟩ :=
      informed.raw raw rawEq
    exact ⟨version, lease, rfl, agrees, first, formed, firstEq,
      before.trans (later oldVersion cached cachedEq)⟩

theorem Informed.leads {identity : String}
    (named : identity ≠ "") (leads : replica.elector.isLeader identity)
    (cached : replica.lease = some (version, lease)) :
    lease.record.holderIdentity = identity ∧
      lease.record.leaderTransitions = replica.elector.observedRecord.leaderTransitions := by
  have holder : replica.elector.observedRecord.holderIdentity = identity := by
    simpa [isLeader] using leads
  rcases informed.observed with nothing | ⟨_, other, otherEq, agrees⟩
  · rw [nothing] at holder
    exact absurd holder.symm named
  · cases cached.symm.trans otherEq
    exact ⟨agrees.1.symm.trans holder, agrees.2.symm⟩

end

/-- The identities of two replicas. -/
def podName (second : Bool) : String :=
  if second then "forklift-1" else "forklift-0"

theorem podName_ne_empty (second : Bool) : podName second ≠ "" := by
  cases second <;> decide

theorem podName_injective : Function.Injective podName := by
  have distinct : ∀ first second, podName first = podName second → first = second := by decide
  exact fun first second => distinct first second

end Addons.LeaseElection
