import Addons.SegmentOrder
import Addons.SnapshotFencing

/-!
# Superseded generations

A PUT that takes effect retires the other generations of its term, and a cleanup lists
nothing that lives.
-/

namespace Addons.SupersededGenerations

open ConditionalStore SnapshotMetadata WalShipper WalSegments MetaSync SnapshotFencing Shipper
  SegmentOrder

/-- The id of the generation a leader ships to. -/
def currentId (shipper : Shipper) : Option String :=
  shipper.generation.map Generation.id

section CurrentId

variable (shipper : Shipper)

@[simp]
theorem currentId_empty : currentId {} = none := rfl

@[simp]
theorem currentId_popFront (entry : Pending) :
    currentId (shipper.popFront entry) = currentId shipper := rfl

@[simp]
theorem currentId_markBroken : currentId shipper.markBroken = currentId shipper := by
  simp [currentId, markBroken, Function.comp_def]

@[simp]
theorem currentId_dropPendingOf (id : String) :
    currentId (shipper.dropPendingOf id) = currentId shipper := rfl

@[simp]
theorem currentId_conflict (entry : Pending) :
    currentId (shipper.conflict entry) = currentId shipper := by
  unfold conflict
  split <;> simp

@[simp]
theorem currentId_shipped (entry : Pending) :
    currentId (shipper.shipped entry) = currentId shipper := by
  unfold currentId shipped
  rw [Option.map_map]
  apply Option.map_congr
  intro generation _
  simp only [Function.comp_apply]
  split <;> rfl

@[simp]
theorem currentId_published (id : String) :
    currentId (shipper.published id) = currentId shipper := by
  simp [currentId, published, dropPendingExcept, Function.comp_def]

@[simp]
theorem currentId_adopt (captured : Captured) :
    currentId (shipper.adopt captured) = currentId shipper := by
  unfold adopt
  by_cases lost : captured.lost.isSome = true <;> simp [lost] <;> rfl

theorem currentId_pushSegments {generation : Generation}
    (current : shipper.generation = some generation) (encoded : List (List UInt8 × Nat)) :
    currentId (shipper.pushSegments generation encoded) = currentId shipper := by
  simp [currentId, pushSegments, current]

@[simp]
theorem currentId_queueSegments (codec : SegmentCodec) (joined : Bool)
    (batches : List (UInt32 × List WalFormat.Frame)) :
    currentId (shipper.queueSegments codec joined batches) = currentId shipper := by
  rcases queueSegments_cases shipper codec joined batches with
    same | broken | ⟨generation, encoded, current, _, pushed | dropped⟩
  · rw [same]
  · rw [broken, currentId_markBroken]
  · rw [pushed, currentId_pushSegments shipper current]
  · rw [dropped, currentId_markBroken, currentId_dropPendingOf,
      currentId_pushSegments shipper current]

@[simp]
theorem currentId_afterCapture (codec : SegmentCodec) (joined : Bool) (captured : Captured) :
    currentId (afterCapture codec joined captured shipper) = currentId shipper := by
  simp [afterCapture]

end CurrentId

variable {Id : Type} {state after : State Id} {id : String}

structure Dead (state : State Id) (id : String) : Prop where
  replaced : ∃ stored ∈ state.snapshot.value?, generationOf stored.entries ≠ some id
  requests : ∀ request ∈ state.puts, request.put.names = some id →
    state.snapshot.Stale request.condition
  holders : ∀ holder, currentId (state.process holder).shipper = some id →
    ∃ stored ∈ state.snapshot.value?, (state.process holder).fence < parseFence stored.entries

/-- What a step does to the process that takes it, as far as generations go: it goes on
with the generation it had under the fence it had, or drops it. -/
def Continues (before after : Process) : Prop :=
  currentId after.shipper = none ∨
    (currentId after.shipper = currentId before.shipper ∧ after.fence = before.fence)

theorem continues_of_advance {codec : SegmentCodec} {before after : Process}
    (advances : Advance codec before after) : Continues before after := by
  cases advances with
  | demote | restart => exact .inl rfl
  | _ => exact .inr ⟨by simp, rfl⟩

theorem Dead.frame (dead : Dead state id) (snapshotEq : after.snapshot = state.snapshot)
    (sent : ∀ request ∈ after.puts, request.put.names = some id → request ∈ state.puts)
    (continues : ∀ holder, currentId (after.process holder).shipper = some id →
      Continues (state.process holder) (after.process holder)) : Dead after id where
  replaced := snapshotEq ▸ dead.replaced
  requests := by
    intro request member named
    rw [snapshotEq]
    exact dead.requests request (sent request member named) named
  holders := by
    intro holder holds
    rw [snapshotEq]
    rcases continues holder holds with dropped | ⟨sameId, sameFence⟩
    · rw [dropped] at holds
      cases holds
    · rw [sameFence]
      exact dead.holders holder (sameId ▸ holds)

theorem generationOf_metadata {put : SnapshotPut}
    (named : generationOf put.metadata.entries = some id) : put.names = some id := by
  rw [SnapshotPut.metadata, putMetadata, generationOf_putEntries] at named
  exact (Option.filter_eq_some_iff.mp named).1

@[simp]
theorem parseFence_metadata (put : SnapshotPut) : parseFence put.metadata.entries = put.fence :=
  parseFence_putEntries put.fence put.base

/-- A generation that was replaced stays so when a snapshot lands. -/
theorem Dead.landPut (dead : Dead state id) (fenced : Fenced state) {request : InFlight}
    (sent : request ∈ state.puts) (accepted : state.snapshot.accepts request.condition) :
    Dead (state.landPut request) id where
  replaced := by
    refine ⟨request.put.metadata, rfl, ?_⟩
    intro named
    exact (dead.requests request sent (generationOf_metadata named)).not_accepts accepted
  requests := by
    intro other member _
    exact Cell.stale_write (fenced.guarded other (List.mem_of_mem_erase member)).1 _
  holders := by
    intro holder holds
    obtain ⟨stored, storedEq, older⟩ := dead.holders holder holds
    have replaced := (fenced.guarded request sent).2 accepted stored storedEq
    refine ⟨request.put.metadata, rfl, ?_⟩
    rw [parseFence_metadata]
    exact Int64.lt_of_lt_of_le older replaced

end Addons.SupersededGenerations
