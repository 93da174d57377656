import Addons.WalShipper
import Mathlib.Data.List.Range

/-!
# The order of a leader's segment queue

Segments are queued and uploaded in the order of their numbers: the queue holds, for every
generation, a run of consecutive numbers whose predecessors all reached the bucket.
-/

namespace Addons.SegmentOrder

open WalShipper WalSegments List Shipper

/-- The numbers of a generation's queued segments. -/
def seqs (pending : List Pending) (id : String) : List Nat :=
  (pending.filter fun entry => entry.generation = id).map Pending.seq

/-- What holds of a leader's shipping state. `minted` are the generations of its term,
`uploaded` the segments that were stored. -/
structure Queued (minted : String → Prop) (uploaded : String → Nat → Prop)
    (shipper : Shipper) : Prop where
  generation : ∀ generation ∈ shipper.generation, minted generation.id
  pending : ∀ entry ∈ shipper.pending, minted entry.generation
  own : ∀ generation ∈ shipper.generation, generation.base = .published →
    ∀ entry ∈ shipper.pending, entry.generation = generation.id
  ordered : ∀ id, ∃ first count, seqs shipper.pending id = List.range' first count ∧
    (∀ seq < first, uploaded id seq) ∧
    ∀ generation ∈ shipper.generation, generation.broken = false → generation.id = id →
      first + count = generation.nextSeq

variable {minted : String → Prop} {uploaded : String → Nat → Prop} {shipper : Shipper}

theorem queued_empty : Queued minted uploaded {} where
  generation := by simp
  pending := by simp
  own := by simp
  ordered := by
    intro id
    exact ⟨0, 0, rfl, by simp, by simp⟩

/-- `after` keeps the queue entries of some generations, all of those of its current
generation if that still takes segments, and only those once it is published. -/
structure Shrinks (keep : String → Bool) (shipper after : Shipper) : Prop where
  pending : after.pending = shipper.pending.filter fun entry => keep entry.generation
  generation : ∀ current ∈ after.generation, ∃ previous ∈ shipper.generation,
    current.id = previous.id ∧ current.nextSeq = previous.nextSeq ∧
      (current.broken = false → previous.broken = false ∧ keep previous.id = true) ∧
      (current.base = .published →
        previous.base = .published ∨ ∀ id, keep id = true → id = previous.id)

theorem seqs_filter (pending : List Pending) (keep : String → Bool) (id : String) :
    seqs (pending.filter fun entry => keep entry.generation) id =
      if keep id then seqs pending id else [] := by
  unfold seqs
  rw [filter_filter]
  by_cases kept : keep id
  · rw [if_pos kept]
    congr 1
    apply filter_congr
    intro entry _
    by_cases same : entry.generation = id <;> simp [same, kept]
  · rw [if_neg kept]
    simp only [map_eq_nil_iff, filter_eq_nil_iff]
    intro entry _
    by_cases same : entry.generation = id <;> simp [same, kept]

theorem shrinks_markBroken (shipper : Shipper) :
    Shrinks (fun _ => true) shipper shipper.markBroken where
  pending := by simp [markBroken]
  generation := by
    intro _ member
    obtain ⟨previous, previousEq, rfl⟩ := Option.map_eq_some_iff.mp member
    exact ⟨previous, previousEq, rfl, rfl, nofun, fun published => .inl published⟩

theorem shrinks_dropPendingOf_markBroken (shipper : Shipper) (id : String) :
    Shrinks (fun other => other ≠ id) shipper (shipper.dropPendingOf id).markBroken where
  pending := rfl
  generation := by
    intro _ member
    obtain ⟨previous, previousEq, rfl⟩ := Option.map_eq_some_iff.mp member
    exact ⟨previous, previousEq, rfl, rfl, nofun, fun published => .inl published⟩

theorem seqs_numberSegments (id : String) (first : Nat) (encoded : List (List UInt8)) :
    seqs (numberSegments id first encoded) id = List.range' first encoded.length := by
  induction encoded generalizing first with
  | nil => rfl
  | cons _ _ ih =>
    have tail := ih (first + 1)
    unfold seqs at tail ⊢
    simp [numberSegments, tail, range'_succ]

variable {id : String} {entry : Pending}

theorem seqs_numberSegments_ne {other : String} (different : other ≠ id) (first : Nat)
    (encoded : List (List UInt8)) : seqs (numberSegments id first encoded) other = [] := by
  unfold seqs
  rw [map_eq_nil_iff, filter_eq_nil_iff]
  intro _ member
  rw [generation_of_mem_numberSegments member]
  simpa using different.symm

theorem queueSegments_cases (shipper : Shipper) (codec : SegmentCodec) (joined : Bool)
    (batches : List (UInt32 × List WalFormat.Frame)) :
    shipper.queueSegments codec joined batches = shipper ∨
      shipper.queueSegments codec joined batches = shipper.markBroken ∨
      ∃ generation encoded, shipper.generation = some generation ∧
        generation.broken = false ∧
        (shipper.queueSegments codec joined batches =
            shipper.pushSegments generation encoded ∨
          shipper.queueSegments codec joined batches =
            ((shipper.pushSegments generation encoded).dropPendingOf generation.id
              ).markBroken) := by
  unfold queueSegments
  split
  · exact .inl rfl
  · cases usableEq : shipper.usable with
    | none => exact .inl rfl
    | some generation =>
      obtain ⟨current, usable⟩ := Option.filter_eq_some_iff.mp usableEq
      cases joined with
      | false => exact .inr (.inl rfl)
      | true =>
        simp only [Bool.not_true, Bool.false_eq_true, if_false]
        cases encodeBatches codec generation.nextFrame batches with
        | error => exact .inr (.inl rfl)
        | ok encoded =>
          refine .inr (.inr ⟨generation, encoded, current, by simpa using usable, ?_⟩)
          simp only
          split
          · exact .inr rfl
          · exact .inl rfl

theorem seqs_eq_nil {pending : List Pending} (absent : ∀ entry ∈ pending, entry.generation ≠ id) :
    seqs pending id = [] := by
  unfold seqs
  rw [map_eq_nil_iff, filter_eq_nil_iff]
  intro entry member
  simpa using absent entry member

theorem seqs_cons_self (entry : Pending) (rest : List Pending) :
    seqs (entry :: rest) entry.generation = entry.seq :: seqs rest entry.generation := by
  simp [seqs]

theorem seqs_cons_ne (different : entry.generation ≠ id) (rest : List Pending) :
    seqs (entry :: rest) id = seqs rest id := by
  simp [seqs, different]

variable {rest : List Pending}

section

variable (queued : Queued minted uploaded shipper)
include queued

theorem Queued.mono {minted' : String → Prop} {uploaded' : String → Nat → Prop}
    (mints : ∀ id, minted id → minted' id)
    (uploads : ∀ id seq, uploaded id seq → uploaded' id seq) :
    Queued minted' uploaded' shipper where
  generation := fun generation member => mints _ (queued.generation generation member)
  pending := fun entry member => mints _ (queued.pending entry member)
  own := queued.own
  ordered := by
    intro id
    obtain ⟨first, count, seqsEq, before, total⟩ := queued.ordered id
    exact ⟨first, count, seqsEq, fun seq less => uploads id seq (before seq less), total⟩

theorem Queued.shrinks {keep : String → Bool} {after : Shipper}
    (shrinks : Shrinks keep shipper after) :
    Queued minted uploaded after where
  generation := by
    intro current member
    obtain ⟨previous, previousMem, idEq, _⟩ := shrinks.generation current member
    rw [idEq]
    exact queued.generation previous previousMem
  pending := by
    intro entry member
    rw [shrinks.pending] at member
    exact queued.pending entry (mem_of_mem_filter member)
  own := by
    intro current member published entry queuedEntry
    rw [shrinks.pending, mem_filter] at queuedEntry
    obtain ⟨previous, previousMem, idEq, _, _, onlyOwn⟩ := shrinks.generation current member
    rw [idEq]
    rcases onlyOwn published with already | onlyOwn
    · exact queued.own previous previousMem already entry queuedEntry.1
    · exact onlyOwn _ queuedEntry.2
  ordered := by
    intro id
    rw [shrinks.pending, seqs_filter]
    by_cases kept : keep id
    · obtain ⟨first, count, seqsEq, before, total⟩ := queued.ordered id
      refine ⟨first, count, by rw [if_pos kept, seqsEq], before, ?_⟩
      intro current member usable named
      obtain ⟨previous, previousMem, idEq, seqEq, stillUsable, _⟩ :=
        shrinks.generation current member
      rw [seqEq]
      exact total previous previousMem (stillUsable usable).1 (idEq ▸ named)
    · refine ⟨0, 0, by rw [if_neg kept]; rfl, by simp, ?_⟩
      intro current member usable named
      obtain ⟨_, _, idEq, _, stillUsable, _⟩ := shrinks.generation current member
      rw [← idEq, named] at stillUsable
      exact absurd (stillUsable usable).2 kept

theorem Queued.adopt (captured : Captured) : Queued minted uploaded (shipper.adopt captured) := by
  have moved : Queued minted uploaded { shipper with
      cursor := captured.cursor
      knownEnd := captured.knownEnd
      restartOk := captured.restartOk } :=
    ⟨queued.generation, queued.pending, queued.own, queued.ordered⟩
  unfold Shipper.adopt
  by_cases lost : captured.lost.isSome
  · simpa [lost] using moved.shrinks (shrinks_markBroken _)
  · simpa [lost] using moved

theorem Queued.conflict (entry : Pending) : Queued minted uploaded (shipper.conflict entry) := by
  unfold Shipper.conflict
  by_cases current : shipper.isCurrent entry.generation
  · rw [if_pos current]
    exact queued.shrinks (shrinks_dropPendingOf_markBroken shipper entry.generation)
  · rw [if_neg current]
    have shrinks : Shrinks (fun other => other ≠ entry.generation) shipper
        (shipper.dropPendingOf entry.generation) := by
      refine ⟨rfl, fun generation member => ⟨generation, member, rfl, rfl, ?_, .inl⟩⟩
      intro usable
      have different : generation.id ≠ entry.generation := by
        intro same
        apply current
        rw [isCurrent, show shipper.generation = some generation from member]
        simpa using same
      exact ⟨usable, by simpa using different⟩
    exact queued.shrinks shrinks

variable {generation : Generation}

theorem Queued.published (current : shipper.generation = some generation) :
    Queued minted uploaded (shipper.published generation.id) := by
  have shrinks : Shrinks (fun other => other = generation.id) shipper
      (shipper.published generation.id) := by
    refine ⟨rfl, ?_⟩
    intro _ member
    simp only [Shipper.published, dropPendingExcept, current, Option.map_some,
      Option.mem_def, Option.some.injEq] at member
    subst member
    exact ⟨generation, current, rfl, rfl, fun usable => ⟨usable, by simp⟩,
      fun _ => .inr (by simp)⟩
  exact queued.shrinks shrinks

theorem Queued.pushSegments
    (current : shipper.generation = some generation) (usable : generation.broken = false)
    (encoded : List (List UInt8 × Nat)) :
    Queued minted uploaded (shipper.pushSegments generation encoded) where
  generation := by
    rintro after ⟨⟩
    exact queued.generation generation current
  pending := by
    intro entry member
    rcases mem_append.mp member with member | member
    · exact queued.pending entry member
    · rw [generation_of_mem_numberSegments member]
      exact queued.generation generation current
  own := by
    rintro after ⟨⟩ published entry member
    rcases mem_append.mp member with member | member
    · exact queued.own generation current published entry member
    · exact generation_of_mem_numberSegments member
  ordered := by
    intro id
    obtain ⟨first, count, seqsEq, before, total⟩ := queued.ordered id
    have split : seqs (shipper.pushSegments generation encoded).pending id =
        seqs shipper.pending id ++
          seqs (numberSegments generation.id generation.nextSeq (encoded.map Prod.fst)) id := by
      simp [seqs, Shipper.pushSegments]
    rw [split, seqsEq]
    by_cases same : id = generation.id
    · subst same
      have nextEq := total generation current usable rfl
      refine ⟨first, count + encoded.length, ?_, before, ?_⟩
      · rw [seqs_numberSegments, ← nextEq, length_map, range'_append_1]
      · rintro after ⟨⟩ _ _
        simp only
        omega
    · refine ⟨first, count, ?_, before, ?_⟩
      · rw [seqs_numberSegments_ne same, append_nil]
      · rintro _ ⟨⟩ _ named
        exact absurd named.symm same

theorem Queued.queueSegments (codec : SegmentCodec)
    (joined : Bool) (batches : List (UInt32 × List WalFormat.Frame)) :
    Queued minted uploaded (shipper.queueSegments codec joined batches) := by
  rcases queueSegments_cases shipper codec joined batches with
    same | broken | ⟨generation, encoded, current, usable, pushed | dropped⟩
  · rwa [same]
  · rw [broken]
    exact queued.shrinks (shrinks_markBroken shipper)
  · rw [pushed]
    exact queued.pushSegments current usable encoded
  · rw [dropped]
    exact (queued.pushSegments current usable encoded).shrinks
      (shrinks_dropPendingOf_markBroken _ _)

theorem Queued.startGeneration (fresh : ¬minted id) (size raw : Nat) (sha : String) :
    Queued (fun other => minted other ∨ other = id) uploaded
      (shipper.startGeneration id size raw sha) where
  generation := by
    rintro generation ⟨⟩
    exact .inr rfl
  pending := fun entry member => .inl (queued.pending entry member)
  own := by
    rintro generation ⟨⟩
    exact nofun
  ordered := by
    intro other
    by_cases same : other = id
    · subst same
      refine ⟨0, 0, seqs_eq_nil ?_, by simp, ?_⟩
      · rintro entry member rfl
        exact fresh (queued.pending entry member)
      · rintro generation ⟨⟩ _ _
        rfl
    · obtain ⟨first, count, seqsEq, before, _⟩ := queued.ordered other
      refine ⟨first, count, seqsEq, before, ?_⟩
      rintro _ ⟨⟩ _ named
      exact absurd named.symm same

theorem Queued.front (pendingEq : shipper.pending = entry :: rest) :
    (∀ seq < entry.seq, uploaded entry.generation seq) ∧
      ∃ count, seqs rest entry.generation = List.range' (entry.seq + 1) count ∧
        ∀ generation ∈ shipper.generation, generation.broken = false →
          generation.id = entry.generation → entry.seq + 1 + count = generation.nextSeq := by
  obtain ⟨_, count, seqsEq, before, total⟩ := queued.ordered entry.generation
  rw [pendingEq, seqs_cons_self] at seqsEq
  cases count with
  | zero => cases seqsEq
  | succ count =>
    obtain ⟨firstEq, restEq⟩ := cons.inj (range'_succ ▸ seqsEq)
    subst firstEq
    refine ⟨before, count, restEq, ?_⟩
    intro generation member usable named
    have totalEq := total generation member usable named
    omega

/-- The front segment leaves the queue when it was stored. -/
theorem Queued.shipped (pendingEq : shipper.pending = entry :: rest)
    (stored : uploaded entry.generation entry.seq) :
    Queued minted uploaded (shipper.shipped entry) := by
  have restEq : (shipper.shipped entry).pending = rest := by
    simp [Shipper.shipped, popFront, pendingEq]
  have sameGeneration : ∀ current ∈ (shipper.shipped entry).generation,
      ∃ previous ∈ shipper.generation, current.id = previous.id ∧
        current.nextSeq = previous.nextSeq ∧ current.broken = previous.broken ∧
        current.base = previous.base := by
    intro current member
    obtain ⟨previous, previousEq, rfl⟩ := Option.map_eq_some_iff.mp member
    refine ⟨previous, previousEq, ?_⟩
    split <;> simp
  constructor
  case generation =>
    intro current member
    obtain ⟨previous, previousMem, idEq, _⟩ := sameGeneration current member
    rw [idEq]
    exact queued.generation previous previousMem
  case pending =>
    intro other member
    rw [restEq] at member
    exact queued.pending other (pendingEq ▸ mem_cons_of_mem _ member)
  case own =>
    intro current member published other otherMem
    obtain ⟨previous, previousMem, idEq, _, _, baseEq⟩ := sameGeneration current member
    rw [restEq] at otherMem
    rw [idEq]
    exact queued.own previous previousMem (baseEq ▸ published) other
      (pendingEq ▸ mem_cons_of_mem _ otherMem)
  case ordered =>
    intro id
    rw [restEq]
    by_cases same : entry.generation = id
    · subst same
      obtain ⟨before, count, seqsEq, total⟩ := queued.front pendingEq
      refine ⟨entry.seq + 1, count, seqsEq, ?_, ?_⟩
      · intro seq less
        rcases Nat.lt_succ_iff_lt_or_eq.mp less with less | rfl
        · exact before seq less
        · exact stored
      · intro current member usable named
        obtain ⟨previous, previousMem, idEq, seqEq, brokenEq, _⟩ := sameGeneration current member
        rw [seqEq]
        exact total previous previousMem (brokenEq ▸ usable) (idEq ▸ named)
    · obtain ⟨first, count, seqsEq, before, total⟩ := queued.ordered id
      rw [pendingEq, seqs_cons_ne same] at seqsEq
      refine ⟨first, count, seqsEq, before, ?_⟩
      intro current member usable named
      obtain ⟨previous, previousMem, idEq, seqEq, brokenEq, _⟩ := sameGeneration current member
      rw [seqEq]
      exact total previous previousMem (brokenEq ▸ usable) (idEq ▸ named)

theorem Queued.not_superseded (member : entry ∈ shipper.pending) :
    shipper.superseded entry = false := by
  cases generationEq : shipper.generation with
  | none => simp [superseded, generationEq]
  | some generation =>
    have own := queued.own generation generationEq
    by_cases published : generation.base = .published
    · simp [superseded, generationEq, own published entry member]
    · simp [superseded, generationEq, published]

end

end Addons.SegmentOrder
