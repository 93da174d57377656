import Addons.LeaseElection

/-!
# Terms and their tokens

Along a run whose terms read their tokens before the Lease is acquired again, every term
rests on an acquisition by its own replica, and the acquirers known to a term that has
its token include those of all earlier terms.
-/

namespace Addons.LeaseTerms

open ConditionalStore TransitionSystem LeaseElection List LeaderElector Option Nat Function

variable {Id : Type} {identity : Id → String} {leaseDurationSeconds : Int64} {origin : Int}

structure Sent (state : State Id) (replica : Replica) (number : Nat)
    (record : LeaderElectionRecord) : Prop where
  numbered : number < state.nextNumber
  wanted : ∀ write ∈ state.writes, write.number = number → write.record = record
  stored : ∀ version lease, state.stored number = some (version, lease) →
    Agrees record lease ∧
      ∀ version cached, replica.lease = some (version, cached) → Precedes cached lease

def StageInformed (identity : Id → String) (state : State Id) (id : Id) (replica : Replica) :
    Prop :=
  match replica.stage with
  | .getting record => record.holderIdentity = identity id ∧
      (replica.lease = none → record.leaderTransitions = 0)
  | .fastUpdating record number | .writing record number =>
    record.holderIdentity = identity id ∧ Sent state replica number record ∧
      (replica.lease = none → record.leaderTransitions = 0)
  | _ => True

structure TermOrdered (identity : Id → String) (origin : Int) (cell : Cell Lease)
    (term : Term Id) : Prop where
  own : term.acquirers.head? = some (identity term.replica)
  counted : term.acquired.toInt = origin + term.acquirers.length
  current : ∃ now ∈ cell.value?, term.acquirers <:+ now.acquirers
  fence : ∀ fence ∈ term.fence, fence = term.acquired

structure Ordered (identity : Id → String) (origin : Int) (state : State Id) : Prop where
  formed : ∀ lease ∈ state.lease.value?, WellFormed origin lease
  created : state.lease.value? = none → origin = -1
  writes : ∀ write ∈ state.writes, write.number < state.nextNumber ∧
    state.lease.Guarded write.condition fun current => Follows current write.record
  stored : ∀ number version lease, state.stored number = some (version, lease) →
    number < state.nextNumber ∧ Known origin state.lease version lease
  informed : ∀ id, Informed origin state.lease (state.replica id)
  stage : ∀ id, StageInformed identity state id (state.replica id)
  terms : ∀ term ∈ state.terms, TermOrdered identity origin state.lease term
  ordered : ∀ (early late : Nat) (before after : Term Id), early < late →
    state.terms[early]? = some before → state.terms[late]? = some after →
      after.fence ≠ none → before.acquirers <:+ after.acquirers
  ended : ∀ (index : Nat) (term : Term Id) (moment : Nat), state.terms[index]? = some term →
    term.endedAt = some moment → index < moment

/-- The read of the token is answered, and no acquisition of the Lease took effect since
the one the term rests on. The transition count is not at its limit when a write takes
effect. -/
def Prompt (state : State Id) : Event Id → Prop
  | .replica _ => True
  | .land _ => ∀ lease ∈ state.lease.value?,
      lease.record.leaderTransitions.toInt < 2 ^ 31 - 1
  | .readToken index answered => answered = true ∧
      ∀ term ∈ state.terms[index]?, ∀ lease ∈ state.lease.value?,
        lease.acquirers = term.acquirers

variable {record : LeaderElectionRecord} {lease : Lease}

section Steps

variable {state after : State Id} {id : Id} {replica : Replica}

theorem Sent.mono {number : Nat} (sent : Sent state replica number record)
    (numbers : state.nextNumber ≤ after.nextNumber)
    (writes : ∀ write ∈ after.writes, write ∈ state.writes ∨ state.nextNumber ≤ write.number)
    (stored : after.stored = state.stored) : Sent after replica number record where
  numbered := lt_of_lt_of_le sent.numbered numbers
  wanted := by
    intro write member same
    rcases writes write member with before | _
    · exact sent.wanted write before same
    · have numbered := sent.numbered
      omega
  stored := by
    rw [stored]
    exact sent.stored

theorem StageInformed.mono (informed : StageInformed identity state id replica)
    (numbers : state.nextNumber ≤ after.nextNumber)
    (writes : ∀ write ∈ after.writes, write ∈ state.writes ∨ state.nextNumber ≤ write.number)
    (stored : after.stored = state.stored) : StageInformed identity after id replica := by
  unfold StageInformed at informed ⊢
  cases stageEq : replica.stage with
  | fastUpdating | writing =>
    rw [stageEq] at informed
    exact ⟨informed.1, informed.2.1.mono numbers writes stored, informed.2.2⟩
  | _ =>
    rw [stageEq] at informed
    exact informed

variable {terms : List (Term Id)} {term found : Term Id} {index : Nat} {change : Term Id → Term Id}

theorem getElem?_modify_cases {position : Nat}
    (foundEq : (terms.modify index change)[position]? = some found) :
    ∃ term, terms[position]? = some term ∧
      found = if index = position then change term else term := by
  rw [getElem?_modify] at foundEq
  obtain ⟨term, termEq, rfl⟩ := map_eq_some_iff.mp foundEq
  exact ⟨term, termEq, rfl⟩

section

variable (ordered : Ordered identity origin state)
include ordered

theorem Ordered.withTerms (each : ∀ term ∈ terms, TermOrdered identity origin state.lease term)
    (suffixes : ∀ (early late : Nat) (before after : Term Id), early < late →
      terms[early]? = some before → terms[late]? = some after → after.fence ≠ none →
        before.acquirers <:+ after.acquirers)
    (ended : ∀ (index : Nat) (term : Term Id) (moment : Nat), terms[index]? = some term →
      term.endedAt = some moment → index < moment) :
    Ordered identity origin { state with terms := terms } :=
  { ordered with
    stage := fun id => (ordered.stage id).mono (le_refl _) (fun _ member => .inl member) rfl
    terms := each
    ordered := suffixes
    ended := ended }

theorem Ordered.beginTerm
    (termOrdered : TermOrdered identity origin state.lease term) (unread : term.fence = none)
    (running : term.endedAt = none) :
    Ordered identity origin { state with terms := state.terms ++ [term] } := by
  have cases : ∀ (index : Nat) (found : Term Id), (state.terms ++ [term])[index]? = some found →
      state.terms[index]? = some found ∨ found = term := by
    intro index found foundEq
    rcases mem_append.mp (mem_of_getElem? foundEq) with _ | last
    · by_cases inside : index < state.terms.length
      · rw [getElem?_append_left inside] at foundEq
        exact .inl foundEq
      · rw [getElem?_append_right (by omega)] at foundEq
        exact .inr (mem_singleton.mp (mem_of_getElem? foundEq))
    · exact .inr (mem_singleton.mp last)
  apply ordered.withTerms
  · intro found member
    rcases mem_append.mp member with before | last
    · exact ordered.terms found before
    · rw [mem_singleton.mp last]
      exact termOrdered
  · intro early late before after less beforeEq afterEq promoted
    rcases cases late after afterEq with lateEq | rfl
    · have inside := (List.getElem?_eq_some_iff.mp lateEq).1
      rw [List.getElem?_append_left (by omega)] at beforeEq
      exact ordered.ordered early late before after less beforeEq lateEq promoted
    · exact absurd unread promoted
  · intro index found moment foundEq endedEq
    rcases cases index found foundEq with before | rfl
    · exact ordered.ended index found moment before endedEq
    · rw [running] at endedEq
      cases endedEq

/-- One term changes, and keeps its acquirers. -/
theorem Ordered.modifyTerm (acquirers : ∀ term, (change term).acquirers = term.acquirers)
    (each : ∀ term, state.terms[index]? = some term →
      TermOrdered identity origin state.lease (change term))
    (suffixes : ∀ early before term, early < index → state.terms[early]? = some before →
      state.terms[index]? = some term → (change term).fence ≠ none →
        before.acquirers <:+ term.acquirers)
    (ended : ∀ term moment, state.terms[index]? = some term →
      (change term).endedAt = some moment → index < moment) :
    Ordered identity origin { state with terms := state.terms.modify index change } := by
  apply ordered.withTerms
  · intro found member
    obtain ⟨position, foundEq⟩ := mem_iff_getElem?.mp member
    obtain ⟨term, termEq, rfl⟩ := getElem?_modify_cases foundEq
    split
    next same => exact each term (same ▸ termEq)
    · exact ordered.terms term (mem_of_getElem? termEq)
  · intro early late _ _ less beforeEq afterEq promoted
    obtain ⟨first, firstEq, rfl⟩ := getElem?_modify_cases beforeEq
    obtain ⟨second, secondEq, rfl⟩ := getElem?_modify_cases afterEq
    simp only [apply_ite Term.acquirers, acquirers, ite_self]
    split at promoted
    next same =>
      exact suffixes early first second (same ▸ less) firstEq (same ▸ secondEq) promoted
    · exact ordered.ordered early late first second less firstEq secondEq promoted
  · intro position _ moment foundEq endedEq
    obtain ⟨term, termEq, rfl⟩ := getElem?_modify_cases foundEq
    split at endedEq
    next same => exact same ▸ ended term moment (same ▸ termEq) endedEq
    · exact ordered.ended position term moment termEq endedEq

theorem Ordered.endTerm (index : Nat) :
    Ordered identity origin { state with terms := state.terms.modify index fun ended =>
      { ended with endedAt := some state.terms.length } } := by
  apply ordered.modifyTerm
  · exact fun _ => rfl
  · intro term termEq
    exact { ordered.terms term (mem_of_getElem? termEq) with }
  · intro early before term
    exact ordered.ordered early index before term
  · rintro term _ termEq ⟨⟩
    exact (List.getElem?_eq_some_iff.mp termEq).1

theorem Ordered.promote
    (found : state.terms[index]? = some term) (leaseEq : state.lease.value? = some lease)
    (prompt : lease.acquirers = term.acquirers) :
    Ordered identity origin (state.promote index (fencingToken state.lease.value?)) := by
  have token : fencingToken state.lease.value? = term.acquired := by
    have counted := (ordered.terms term (mem_of_getElem? found)).counted
    rw [leaseEq, fencingToken_eq, ← Int64.toInt_inj, counted,
      (ordered.formed lease leaseEq).counted, prompt]
  apply ordered.modifyTerm
  · exact fun _ => rfl
  · intro other otherEq
    cases found.symm.trans otherEq
    refine { ordered.terms term (mem_of_getElem? found) with fence := ?_ }
    rintro _ ⟨⟩
    exact token
  · intro early before other _ beforeEq otherEq _
    cases found.symm.trans otherEq
    obtain ⟨_, nowEq, suffix⟩ := (ordered.terms before (mem_of_getElem? beforeEq)).current
    cases leaseEq.symm.trans nowEq
    exact prompt ▸ suffix
  · intro other moment
    exact ordered.ended index other moment

theorem Ordered.refuse {write : LeaseWrite} : Ordered identity origin (state.refuse write) :=
  { ordered with
    writes := fun other member => ordered.writes other (mem_of_mem_erase member)
    stage := fun id => (ordered.stage id).mono (le_refl _)
      (fun _ member => .inl (mem_of_mem_erase member)) rfl }

variable [DecidableEq Id]

/-- A replica changes what it knows or sends one write. -/
theorem Ordered.acts (leaseEq : after.lease = state.lease)
    (storedEq : after.stored = state.stored) (termsEq : after.terms = state.terms)
    (numbers : state.nextNumber ≤ after.nextNumber)
    (writes : ∀ write ∈ after.writes, write ∈ state.writes ∨
      state.nextNumber ≤ write.number ∧ write.number < after.nextNumber ∧
        state.lease.Guarded write.condition fun current => Follows current write.record)
    (replicaEq : after.replica = Function.update state.replica id replica)
    (informed : Informed origin state.lease replica)
    (stage : StageInformed identity after id replica) : Ordered identity origin after where
  formed := leaseEq ▸ ordered.formed
  created := leaseEq ▸ ordered.created
  writes := by
    intro write member
    rw [leaseEq]
    rcases writes write member with before | ⟨_, numbered, guarded⟩
    · obtain ⟨numbered, guarded⟩ := ordered.writes write before
      exact ⟨lt_of_lt_of_le numbered numbers, guarded⟩
    · exact ⟨numbered, guarded⟩
  stored := by
    intro number version lease found
    rw [storedEq] at found
    rw [leaseEq]
    obtain ⟨numbered, known⟩ := ordered.stored number version lease found
    exact ⟨lt_of_lt_of_le numbered numbers, known⟩
  informed := by
    intro other
    rw [leaseEq, replicaEq]
    by_cases same : other = id
    · subst same
      simpa using informed
    · simpa [same] using ordered.informed other
  stage := by
    intro other
    rw [replicaEq]
    by_cases same : other = id
    · subst same
      simpa using stage
    · have kept := (ordered.stage other).mono numbers
        (fun write member => (writes write member).imp_right And.left) storedEq
      simpa [same] using kept
  terms := by
    rw [termsEq, leaseEq]
    exact ordered.terms
  ordered := termsEq ▸ ordered.ordered
  ended := termsEq ▸ ordered.ended

theorem Ordered.set (informed : Informed origin state.lease replica)
    (stage : StageInformed identity state id replica) :
    Ordered identity origin (state.set id replica) :=
  ordered.acts rfl rfl rfl (le_refl _) (fun _ member => .inl member) rfl informed
    (stage.mono (le_refl _) (fun _ member => .inl member) rfl)

variable {condition : Condition}

theorem Ordered.sent_fresh {sender : Replica} :
    Sent (state.send id sender condition record) replica state.nextNumber record where
  numbered := lt_succ_self _
  wanted := by
    intro write member _
    rcases mem_cons.mp member with rfl | member
    · rfl
    · have numbered := (ordered.writes write member).1
      omega
  stored := by
    intro _ _ storedEq
    have numbered := (ordered.stored _ _ _ storedEq).1
    exact absurd numbered (lt_irrefl _)

theorem Ordered.send (guarded : state.lease.Guarded condition fun current => Follows current record)
    (informed : Informed origin state.lease replica)
    (stage : StageInformed identity (state.send id replica condition record) id replica) :
    Ordered identity origin (state.send id replica condition record) := by
  refine ordered.acts rfl rfl rfl (le_succ _) ?_ rfl informed stage
  intro _ member
  rcases mem_cons.mp member with rfl | member
  · exact .inr ⟨le_refl _, lt_succ_self _, guarded⟩
  · exact .inl member

end

end Steps

section Landing

variable {state : State Id} {write : LeaseWrite} (ordered : Ordered identity origin state)
  (sent : write ∈ state.writes)
include ordered sent

theorem StageInformed.land {id : Id} (agrees : Agrees write.record (state.written write))
    (precedes : ∀ lease ∈ state.lease.value?, Precedes lease (state.written write)) :
    StageInformed identity (state.land write) id (state.replica id) := by
  have informed := ordered.stage id
  have lands : ∀ number record, Sent state (state.replica id) number record →
      Sent (state.land write) (state.replica id) number record := by
    intro number record known
    refine ⟨known.numbered, ?_, ?_⟩
    · intro other member same
      exact known.wanted other (mem_of_mem_erase member) same
    · intro version lease storedEq
      by_cases same : number = write.number
      · subst same
        simp only [State.land, update_self, some.injEq, Prod.mk.injEq] at storedEq
        obtain ⟨rfl, rfl⟩ := storedEq
        refine ⟨known.wanted write sent rfl ▸ agrees, ?_⟩
        intro version cached cachedEq
        obtain ⟨now, nowEq, before⟩ := ((ordered.informed id).known version cached cachedEq).current
        exact before.trans (precedes now nowEq)
      · simp only [State.land, update_of_ne same] at storedEq
        exact known.stored version lease storedEq
  unfold StageInformed at informed ⊢
  cases stageEq : (state.replica id).stage with
  | fastUpdating record number | writing record number =>
    simp only [stageEq] at informed
    exact ⟨informed.1, lands number record informed.2.1, informed.2.2⟩
  | _ =>
    simp only [stageEq] at informed
    exact informed

variable
  (prompt : ∀ lease ∈ state.lease.value?, lease.record.leaderTransitions.toInt < 2 ^ 31 - 1)
  (accepted : state.lease.accepts write.condition)
include prompt accepted

theorem Ordered.written :
    WellFormed origin (state.written write) ∧ Agrees write.record (state.written write) ∧
      ∀ lease ∈ state.lease.value?, Precedes lease (state.written write) := by
  have follows := (ordered.writes write sent).2.2 accepted
  cases leaseEq : state.lease.value? with
  | none =>
    obtain ⟨formed, agrees⟩ := written_create leaseEq (ordered.created leaseEq) follows
    exact ⟨formed, agrees, by simp⟩
  | some lease =>
    obtain ⟨formed, agrees, precedes⟩ := written_follows leaseEq (ordered.formed lease leaseEq)
      (prompt lease leaseEq) follows
    refine ⟨formed, agrees, ?_⟩
    rintro _ ⟨⟩
    exact precedes

theorem Ordered.land : Ordered identity origin (state.land write) := by
  obtain ⟨formed, agrees, precedes⟩ := ordered.written sent prompt accepted
  constructor
  case formed =>
    rintro lease ⟨⟩
    exact formed
  case created => exact fun absent => by cases absent
  case writes =>
    intro other member
    obtain ⟨numbered, guarded⟩ := ordered.writes other (mem_of_mem_erase member)
    exact ⟨numbered, Cell.guarded_write guarded _⟩
  case stored =>
    intro number version lease storedEq
    by_cases same : number = write.number
    · subst same
      simp only [State.land, update_self, some.injEq, Prod.mk.injEq] at storedEq
      obtain ⟨rfl, rfl⟩ := storedEq
      exact ⟨(ordered.writes write sent).1, formed, Cell.guarded_written _ _,
        state.written write, rfl, Precedes.refl _⟩
    · simp only [State.land, update_of_ne same] at storedEq
      obtain ⟨numbered, known⟩ := ordered.stored number version lease storedEq
      exact ⟨numbered, known.write precedes⟩
  case informed =>
    intro id
    have informed := ordered.informed id
    exact ⟨fun version lease cached => (informed.known version lease cached).write precedes,
      informed.observed, informed.raw⟩
  case stage =>
    intro id
    exact StageInformed.land ordered sent agrees precedes
  case terms =>
    intro term member
    have termOrdered := ordered.terms term member
    obtain ⟨now, nowEq, suffix⟩ := termOrdered.current
    exact ⟨termOrdered.own, termOrdered.counted,
      ⟨state.written write, rfl, suffix.trans (precedes now nowEq).acquirers⟩, termOrdered.fence⟩
  case ordered => exact ordered.ordered
  case ended => exact ordered.ended

end Landing

section Runs

variable [DecidableEq Id] {state after : State Id} {id : Id}

section

variable (ordered : Ordered identity origin state)
include ordered

variable {version now : Nat} {wall : Int}

theorem Ordered.stop {replica : Replica} {term : Nat}
    (informed : Informed origin state.lease replica) :
    Ordered identity origin (state.stop id replica term) := by
  have stopped : Ordered identity origin (state.set id
      { replica with elector := {}, stage := .waiting, leading := none }) :=
    ordered.set informed.contend trivial
  exact stopped.endTerm term

section

variable (named : ∀ id, identity id ≠ "")
include named

/-- The object an attempt stored is the replica's, and a replica that did not lead begins
a term with it. -/
theorem Ordered.succeed {number : Nat}
    (writing : (state.replica id).stage = .writing record number ∨
      (state.replica id).stage = .fastUpdating record number)
    (stored : state.stored number = some (version, lease)) :
    Ordered identity origin (state.succeed id { state.replica id with
      lease := some (version, lease)
      elector := (state.replica id).elector.setObservedRecord record now
      stage := .waiting } lease) := by
  obtain ⟨holder, sent⟩ : record.holderIdentity = identity id ∧
      Sent state (state.replica id) number record := by
    have informed := ordered.stage id
    unfold StageInformed at informed
    rcases writing with stageEq | stageEq <;> rw [stageEq] at informed <;>
      exact ⟨informed.1, informed.2.1⟩
  obtain ⟨agrees, later⟩ := sent.stored version lease stored
  have known := (ordered.stored number version lease stored).2
  have informed := (ordered.informed id).succeed known agrees later now .waiting
  unfold State.succeed
  cases leadingEq : (state.replica id).leading with
  | some =>
    exact ordered.set ⟨informed.known, informed.observed, informed.raw⟩ trivial
  | none =>
    have set : Ordered identity origin (state.set id { state.replica id with
        lease := some (version, lease)
        elector := (state.replica id).elector.setObservedRecord record now
        stage := .waiting
        leading := some state.terms.length }) :=
      ordered.set ⟨informed.known, informed.observed, informed.raw⟩ trivial
    apply set.beginTerm _ rfl rfl
    constructor
    case own =>
      have own : lease.record.holderIdentity = identity id := agrees.1.symm.trans holder
      rcases known.formed.holder with nobody | first
      · exact absurd (own.symm.trans nobody) (named id)
      · rw [own] at first
        exact first
    case counted =>
      change record.leaderTransitions.toInt = _
      rw [agrees.2]
      exact known.formed.counted
    case current =>
      obtain ⟨now, nowEq, before⟩ := known.current
      exact ⟨now, nowEq, before.acquirers⟩
    case fence => simp

theorem Ordered.attemptFast (leads : (state.replica id).elector.isLeader (identity id))
    (cached : (state.replica id).lease = some (version, lease)) (recordEq : record = renewal
      (attemptRecord (identity id) leaseDurationSeconds wall)
      (state.replica id).elector.observedRecord) :
    Ordered identity origin (state.send id
      { state.replica id with stage := .fastUpdating record state.nextNumber }
      (.ifMatch version) record) := by
  have informed := ordered.informed id
  obtain ⟨holder, transitions⟩ := informed.leads (named id) leads cached
  subst recordEq
  apply ordered.send _ informed.moves
  · exact ⟨rfl, ordered.sent_fresh, by simp [cached]⟩
  · apply (informed.known version lease cached).guarded.imp
    rintro _ rfl
    exact .inl ⟨.inl holder.symm, transitions.symm⟩

theorem Ordered.getMissing (getting : (state.replica id).stage = .getting record)
    (missing : state.lease.current = none) :
    Ordered identity origin (state.send id
      { state.replica id with stage := .writing record state.nextNumber } .ifNoneMatch record) := by
  have informed := ordered.informed id
  obtain ⟨holder, zero⟩ : record.holderIdentity = identity id ∧
      ((state.replica id).lease = none → record.leaderTransitions = 0) := by
    have stage := ordered.stage id
    unfold StageInformed at stage
    rwa [getting] at stage
  have absent : state.lease.value? = none := by simp [Cell.value?, missing]
  have uncached : (state.replica id).lease = none := by
    cases cachedEq : (state.replica id).lease with
    | none => rfl
    | some cached =>
      obtain ⟨_, nowEq, _⟩ := (informed.known cached.1 cached.2 cachedEq).current
      rw [absent] at nowEq
      cases nowEq
  apply ordered.send _ informed.moves
  · exact ⟨holder, ordered.sent_fresh, zero⟩
  · refine ⟨trivial, fun _ => ?_⟩
    rw [absent]
    exact ⟨holder ▸ named id, zero uncached⟩

theorem Ordered.getFree {wanted : LeaderElectionRecord} {elector : LeaderElector}
    (getting : (state.replica id).stage = .getting record)
    (found : state.lease.current = some (version, lease))
    (observed : elector = (state.replica id).elector.observe lease.record now)
    (wantedEq : wanted = elector.acquisition (identity id) record lease.record) :
    Ordered identity origin (state.send id { state.replica id with
        lease := some (version, lease)
        elector := elector
        stage := .writing wanted state.nextNumber } (.ifMatch version) wanted) := by
  have holder : record.holderIdentity = identity id := by
    have stage := ordered.stage id
    unfold StageInformed at stage
    rw [getting] at stage
    exact stage.1
  have formed := ordered.formed lease (by simp [Cell.value?, found])
  have agrees := (ordered.informed id).observe_agrees formed found now
  rw [← observed] at agrees
  have wantedHolder : wanted.holderIdentity = identity id := by
    rw [wantedEq, acquisition]
    split <;> exact holder
  have informed := (ordered.informed id).observe formed found now (.writing wanted state.nextNumber)
  rw [← observed] at informed
  apply ordered.send _ informed
  · exact ⟨wantedHolder, ordered.sent_fresh, by simp⟩
  · apply (Cell.guarded_read found).imp
    rintro _ rfl
    by_cases leads : elector.isLeader (identity id)
    · have own : lease.record.holderIdentity = identity id := by
        rw [← agrees.1]
        simpa [isLeader] using leads
      left
      refine ⟨.inl (wantedHolder.trans own.symm), ?_⟩
      rw [wantedEq, acquisition, if_pos leads]
      rfl
    · have other : lease.record.holderIdentity ≠ identity id := by
        rw [← agrees.1]
        simpa [isLeader] using leads
      right
      refine ⟨wantedHolder ▸ named id, fun same => other (same.symm.trans wantedHolder), ?_⟩
      rw [wantedEq, acquisition, if_neg leads]

theorem Ordered.release (leads : (state.replica id).elector.isLeader (identity id))
    (cached : (state.replica id).lease = some (version, lease)) :
    Ordered identity origin (state.send id
      { state.replica id with stage := .releasing state.nextNumber }
      (.ifMatch version) ((state.replica id).elector.released wall)) := by
  have informed := ordered.informed id
  obtain ⟨_, transitions⟩ := informed.leads (named id) leads cached
  apply ordered.send _ informed.moves
  · trivial
  · apply (informed.known version lease cached).guarded.imp
    rintro _ rfl
    exact .inl ⟨.inr rfl, transitions.symm⟩

theorem Ordered.step {event : Event Id} (prompt : Prompt state event)
    (taken : Step identity leaseDurationSeconds state event after) :
    Ordered identity origin after := by
  cases taken with
  | attemptFast _ _ _ leads _ cached recordEq =>
    exact ordered.attemptFast named leads cached recordEq
  | attemptSlow =>
    exact ordered.set (ordered.informed _).moves ⟨rfl, fun _ => rfl⟩
  | @fastFails id record number updating =>
    have stage := ordered.stage id
    unfold StageInformed at stage
    rw [updating] at stage
    exact ordered.set (ordered.informed id).moves ⟨stage.1, stage.2.2⟩
  | getMissing getting missing => exact ordered.getMissing named getting missing
  | @getHeld id record version lease now getting found =>
    have formed := ordered.formed lease (by simp [Cell.value?, found])
    exact ordered.set ((ordered.informed id).observe formed found now .waiting) trivial
  | getFree _ getting found observed _ wantedEq =>
    exact ordered.getFree named getting found observed wantedEq
  | attemptFails => exact ordered.set (ordered.informed _).moves trivial
  | attemptSucceeds _ writing stored => exact ordered.succeed named writing stored
  | release _ _ _ leads cached => exact ordered.release named leads cached
  | stop => exact ordered.stop (ordered.informed _)
  | @stopReleased id term number version lease leading releasing stored =>
    have known := (ordered.stored number version lease stored).2
    have informed : Informed origin state.lease
        { (state.replica id) with
          lease := some (version, lease), elector := {}, stage := .waiting, leading := none } :=
      ⟨by rintro _ _ ⟨⟩; exact known, .inl rfl, by simp⟩
    exact Ordered.endTerm (ordered.set informed trivial) term
  | contend => exact ordered.set (ordered.informed _).contend trivial
  | restart => exact ordered.set informed_fresh trivial
  | restartLeader => exact ordered.stop informed_fresh
  | land sent accepted => exact ordered.land sent prompt accepted
  | refuse => exact ordered.refuse
  | readToken found =>
    have termOrdered := ordered.terms _ (mem_of_getElem? found)
    obtain ⟨lease, leaseEq, _⟩ := termOrdered.current
    exact ordered.promote found leaseEq (prompt.2 _ found lease leaseEq)
  | readFails => cases prompt.1

end

end

end Runs

end Addons.LeaseTerms
