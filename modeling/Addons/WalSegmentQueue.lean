import Addons.WalCapture
import Mathlib.Data.List.Forall2

/-!
# The segments of a generation

What is stored of a generation and what is queued for it together carry its frames.
-/

namespace Addons.WalSegmentQueue

open WalFormat WalSegments WalShipper WalCapture List UInt64

/-- Segment objects by generation and sequence number. -/
abbrev Objects := String → Nat → Option (List UInt8)

def Objects.put (objects : Objects) (entry : Pending) : Objects :=
  fun id seq =>
    if id = entry.generation ∧ seq = entry.seq then some entry.bytes else objects id seq

def segmentBytes (objects : Objects) (pending : List Pending) (id : String) (seq : Nat) :
    Option (List UInt8) :=
  (objects id seq).or
    ((pending.find? fun entry => entry.generation = id ∧ entry.seq = seq).map Pending.bytes)

/-- The decoded segments of a generation in order, `none` when one of them is missing
or damaged. -/
def generationSegments (codec : SegmentCodec) (objects : Objects) (pending : List Pending)
    (generation : Generation) : Option (List Segment) :=
  (List.range generation.nextSeq).mapM fun seq =>
    (segmentBytes objects pending generation.id seq).bind fun bytes =>
      (decodeSegment codec bytes).toOption

def FirstFramesCount : Nat → List Segment → Prop
  | _, [] => True
  | count, segment :: segments =>
    segment.firstFrame = UInt64.ofNat count ∧
      FirstFramesCount (count + segment.frames.length) segments

def segmentFrames (segments : List Segment) : List Frame :=
  segments.flatMap Segment.frames

structure QueueHolds (objects : Objects) (inFlight pending : List Pending)
    (id : String) (bytes : List (List UInt8)) (done : Nat) : Prop where
  done_le : done ≤ bytes.length
  uploaded : ∀ seq < done, objects id seq = bytes[seq]?
  stored : ∀ seq content, objects id seq = some content → bytes[seq]? = some content
  flying : ∀ entry ∈ inFlight, entry.generation = id →
    bytes[entry.seq]? = some entry.bytes
  queued : pending.filter (fun entry => entry.generation = id) =
    numberSegments id done (bytes.drop done)

variable {id : String} {bytes : List (List UInt8)} {objects : Objects}
  {inFlight pending : List Pending} {done : Nat} {codec : SegmentCodec} {count : Nat}

theorem numberSegments_append (id : String) (seq : Nat) (first second : List (List UInt8)) :
    numberSegments id seq (first ++ second) =
      numberSegments id seq first ++ numberSegments id (seq + first.length) second := by
  induction first generalizing seq with
  | nil => rfl
  | cons _ _ ih =>
    simp only [cons_append, numberSegments, ih, length_cons, cons.injEq, true_and]
    congr 2
    omega

theorem numberSegments_find (id : String) (start seq : Nat) (bytes : List (List UInt8)) :
    ((numberSegments id start bytes).find? fun entry => entry.seq = seq).map Pending.bytes =
      if start ≤ seq then bytes[seq - start]? else none := by
  induction bytes generalizing start with
  | nil => simp [numberSegments]
  | cons _ _ ih =>
    rcases Nat.lt_trichotomy start seq with lower | equal | _
    · obtain ⟨gap, rfl⟩ := Nat.exists_eq_add_of_lt lower
      have notHere : ¬start = start + gap + 1 := by omega
      have index : start + gap + 1 - start = gap + 1 := by omega
      have index' : start + gap + 1 - (start + 1) = gap := by omega
      simp only [numberSegments, find?_cons, decide_eq_false notHere, ih, index, index']
      simp [show start ≤ start + gap + 1 by omega]
    · subst equal
      simp [numberSegments]
    · have notHere : ¬start = seq := by omega
      simp only [numberSegments, find?_cons, decide_eq_false notHere, ih]
      simp [show ¬start ≤ seq by omega, show ¬start + 1 ≤ seq by omega]

theorem segmentBytes_of_queueHolds
    (holds : QueueHolds objects inFlight pending id bytes done) (seq : Nat) :
    segmentBytes objects pending id seq = bytes[seq]? := by
  have inQueue : (pending.find? fun entry => entry.generation = id ∧ entry.seq = seq).map
      Pending.bytes = if done ≤ seq then bytes[seq]? else none := by
    have filtered : (pending.find? fun entry => entry.generation = id ∧ entry.seq = seq) =
        (pending.filter fun entry => entry.generation = id).find? fun entry =>
          entry.seq = seq := by
      simp [find?_filter]
    rw [filtered, holds.queued, numberSegments_find]
    split
    · rename_i after
      rw [getElem?_drop, Nat.add_sub_cancel' after]
    · rfl
  cases objectEq : objects id seq with
  | some content =>
    simp [segmentBytes, objectEq, holds.stored seq content objectEq]
  | none =>
    simp only [segmentBytes, objectEq, Option.none_or, inQueue]
    split
    · rfl
    · rename_i before
      rw [← holds.uploaded seq (Nat.not_le.mp before), objectEq]

/-- Decoding every segment of a generation gives back what was packed. -/
theorem generationSegments_of_queueHolds {generation : Generation} {segments : List Segment}
    (holds : QueueHolds objects inFlight pending generation.id bytes done)
    (count : bytes.length = generation.nextSeq)
    (decodes : List.Forall₂ (fun content segment => decodeSegment codec content = .ok segment)
      bytes segments) : generationSegments codec objects pending generation = some segments := by
  have readsBytes : generationSegments codec objects pending generation =
      (range bytes.length).mapM fun seq =>
        bytes[seq]?.bind fun content => (decodeSegment codec content).toOption := by
    rw [generationSegments, ← count]
    simp only [segmentBytes_of_queueHolds holds]
  rw [readsBytes]
  clear readsBytes holds count
  induction decodes with
  | nil => rfl
  | @cons content segment bytes segments decoded rest ih =>
    rw [length_cons, range_succ_eq_map, mapM_cons]
    simp only [getElem?_cons_zero, Option.bind_some, decoded, mapM_map]
    have shifted : (fun seq => (content :: bytes)[seq]?.bind fun content =>
        (decodeSegment codec content).toOption) ∘ Nat.succ =
        fun seq => bytes[seq]?.bind fun content =>
          (decodeSegment codec content).toOption := by
      funext seq
      simp
    rw [shifted, ih]
    rfl

theorem encodeBatches_decodes {batches : List (UInt32 × List Frame)}
    {encoded : List (List UInt8 × Nat)} (valid : ∀ batch ∈ batches, validPageSize batch.1 ∧
      ∀ frame ∈ batch.2, frame.pgno ≠ 0)
    (encodes : encodeBatches codec (ofNat count) batches = .ok encoded) :
    ∃ segments, List.Forall₂
        (fun content segment => decodeSegment codec content = .ok segment)
        (encoded.map Prod.fst) segments ∧
      FirstFramesCount count segments ∧
      segmentFrames segments = batches.flatMap Prod.snd ∧
      (encoded.map Prod.snd).sum = (batches.flatMap Prod.snd).length := by
  induction batches generalizing count encoded with
  | nil =>
    cases encodes
    exact ⟨[], .nil, trivial, rfl, rfl⟩
  | cons batch batches ih =>
    obtain ⟨pageSize, frames⟩ := batch
    obtain ⟨⟨pageSizeOk, numbered⟩, validRest⟩ := forall_mem_cons.mp valid
    simp only [encodeBatches, ← ofNat_add] at encodes
    rcases segmentEq : encodeSegment codec pageSize (ofNat count) frames with _ | _
    · simp [segmentEq] at encodes
    cases restEq : encodeBatches codec (ofNat (count + frames.length)) batches with
    | error => simp only [segmentEq, restEq, Except.map, reduceCtorEq] at encodes
    | ok =>
      simp only [segmentEq, restEq, Except.map, Except.ok.injEq] at encodes
      subst encodes
      obtain ⟨segments, decodes, firsts, framesEq, lengthEq⟩ := ih validRest restEq
      have decoded := decodeSegment_encodeSegment pageSizeOk numbered segmentEq
      refine ⟨⟨pageSize, ofNat count, frames⟩ :: segments,
        .cons decoded decodes, ⟨rfl, firsts⟩, ?_, ?_⟩
      · simp only [segmentFrames, flatMap_cons] at framesEq ⊢
        rw [framesEq]
      · simp only [map_cons, sum_cons, flatMap_cons, length_append, lengthEq]

theorem FirstFramesCount.append {first second : List Segment}
    (firsts : FirstFramesCount count first)
    (seconds : FirstFramesCount (count + (segmentFrames first).length) second) :
    FirstFramesCount count (first ++ second) := by
  induction first generalizing count with
  | nil => simpa [segmentFrames] using seconds
  | cons _ _ ih =>
    obtain ⟨here, later⟩ := firsts
    refine ⟨here, ih later ?_⟩
    simpa [segmentFrames, Nat.add_assoc] using seconds

structure Carries (codec : SegmentCodec) (objects : Objects) (inFlight pending : List Pending)
    (generation : Generation) (frames : List Frame) : Prop where
  nextFrame : generation.nextFrame = UInt64.ofNat frames.length
  queue : ∃ bytes done segments,
    QueueHolds objects inFlight pending generation.id bytes done ∧
    bytes.length = generation.nextSeq ∧
    List.Forall₂ (fun content segment => decodeSegment codec content = .ok segment)
      bytes segments ∧
    FirstFramesCount 0 segments ∧ segmentFrames segments = frames

namespace QueueHolds

variable {objects : Objects} {inFlight pending : List Pending} {id : String}
  {bytes : List (List UInt8)} {done : Nat} {entry : Pending}

theorem start (noObject : ∀ seq, objects id seq = none)
    (noFlight : ∀ entry ∈ inFlight, entry.generation ≠ id)
    (noPending : ∀ entry ∈ pending, entry.generation ≠ id) :
    QueueHolds objects inFlight pending id [] 0 where
  done_le := Nat.le_refl 0
  uploaded := by simp
  stored := by simp [noObject]
  flying := fun entry member same => absurd same (noFlight entry member)
  queued := by simpa [numberSegments] using noPending

theorem push (holds : QueueHolds objects inFlight pending id bytes done)
    (encoded : List (List UInt8)) :
    QueueHolds objects inFlight (pending ++ numberSegments id bytes.length encoded) id
      (bytes ++ encoded) done where
  done_le := by simpa using Nat.le_add_right_of_le holds.done_le
  uploaded := fun seq before => by
    rw [holds.uploaded seq before, getElem?_append_left (before.trans_le holds.done_le)]
  stored := fun seq content found => by
    have known := holds.stored seq content found
    rw [getElem?_append_left (List.getElem?_eq_some_iff.mp known).1, known]
  flying := fun entry member same => by
    have known := holds.flying entry member same
    rw [getElem?_append_left (List.getElem?_eq_some_iff.mp known).1, known]
  queued := by
    have allOwn : (numberSegments id bytes.length encoded).filter
        (fun entry => entry.generation = id) = numberSegments id bytes.length encoded :=
      filter_eq_self.mpr fun _ member => by
        simpa using generation_of_mem_numberSegments member
    rw [filter_append, holds.queued, allOwn,
      drop_append_of_le_length holds.done_le, numberSegments_append, length_drop,
      Nat.add_sub_cancel' holds.done_le]

section

variable (holds : QueueHolds objects inFlight (entry :: pending) id bytes done)
include holds

theorem front (own : entry.generation = id) :
    entry.seq = done ∧ bytes[done]? = some entry.bytes ∧
      pending.filter (fun entry => entry.generation = id) =
        numberSegments id (done + 1) (bytes.drop (done + 1)) := by
  have queued := holds.queued
  rw [filter_cons_of_pos (by simpa using own)] at queued
  cases remaining : bytes.drop done with
  | nil =>
    rw [remaining] at queued
    cases queued
  | cons content rest =>
    rw [remaining, numberSegments] at queued
    obtain ⟨rfl, tailEq⟩ := cons.inj queued
    have atDone : bytes[done]? = some content := by
      rw [← head?_drop, remaining, head?_cons]
    have dropEq : bytes.drop (done + 1) = rest := by
      rw [← drop_drop, remaining, drop_one, tail_cons]
    exact ⟨rfl, atDone, by rw [dropEq, tailEq]⟩

theorem pop_other (other : entry.generation ≠ id) :
    QueueHolds objects inFlight pending id bytes done :=
  { holds with
    queued := by
      have queued := holds.queued
      rwa [filter_cons_of_neg (by simpa using other)] at queued }

theorem pop_own (own : entry.generation = id) (present : objects id entry.seq = some entry.bytes) :
    QueueHolds objects inFlight pending id bytes (done + 1) := by
  obtain ⟨seqEq, contentEq, tailEq⟩ := holds.front own
  refine { holds with done_le := ?_, uploaded := ?_, queued := tailEq }
  · exact (List.getElem?_eq_some_iff.mp contentEq).1
  · intro seq before
    rcases Nat.lt_succ_iff_lt_or_eq.mp before with earlier | rfl
    · exact holds.uploaded seq earlier
    · rw [contentEq, ← seqEq, present]

end

section

variable (holds : QueueHolds objects inFlight pending id bytes done)
include holds

theorem put (known : entry.generation = id → bytes[entry.seq]? = some entry.bytes) :
    QueueHolds (objects.put entry) inFlight pending id bytes done := by
  refine { holds with uploaded := ?_, stored := ?_ }
  · intro seq before
    simp only [Objects.put]
    split
    · rename_i same
      rw [same.2, known same.1.symm]
    · exact holds.uploaded seq before
  · intro seq content found
    simp only [Objects.put] at found
    split at found
    · rename_i same
      rw [same.2, known same.1.symm, found]
    · exact holds.stored seq content found

theorem keep {kept : Pending → Bool} (keepsOwn : ∀ entry, entry.generation = id → kept entry) :
    QueueHolds objects inFlight (pending.filter kept) id bytes done :=
  { holds with
    queued := by
      rw [← holds.queued, filter_filter]
      refine filter_congr fun entry _ => ?_
      by_cases own : entry.generation = id
      · simp [own, keepsOwn entry own]
      · simp [own] }

theorem other_objects {after : Objects} (same : ∀ seq, after id seq = objects id seq) :
    QueueHolds after inFlight pending id bytes done :=
  { holds with
    uploaded := fun seq before => (same seq).trans (holds.uploaded seq before)
    stored := fun seq content found => holds.stored seq content ((same seq).symm.trans found) }

end

end QueueHolds

namespace Carries

variable {codec : SegmentCodec} {objects : Objects} {inFlight pending : List Pending}
  {generation : Generation} {frames : List Frame}

section

variable (carries : Carries codec objects inFlight pending generation frames)
include carries

theorem push {batches : List (UInt32 × List Frame)} {encoded : List (List UInt8 × Nat)}
    (valid : ∀ batch ∈ batches, validPageSize batch.1 ∧
      ∀ frame ∈ batch.2, frame.pgno ≠ 0)
    (encodes : encodeBatches codec generation.nextFrame batches = .ok encoded) :
    Carries codec objects inFlight
      (pending ++ numberSegments generation.id generation.nextSeq (encoded.map Prod.fst))
      { generation with
        nextFrame := generation.nextFrame + ofNat (encoded.map Prod.snd).sum
        nextSeq := generation.nextSeq + encoded.length }
      (frames ++ batches.flatMap Prod.snd) := by
  obtain ⟨nextFrame, bytes, done, segments, holds, count, decodes, firsts, framesEq⟩ := carries
  rw [nextFrame] at encodes
  obtain ⟨added, addedDecodes, _, addedFrames, addedLength⟩ :=
    encodeBatches_decodes valid encodes
  refine ⟨?_, bytes ++ encoded.map Prod.fst, done, segments ++ added, ?_, ?_, ?_, ?_, ?_⟩
  · rw [nextFrame, addedLength, ← ofNat_add, length_append]
  · rw [← count]
    exact holds.push _
  · rw [length_append, length_map, count]
  · exact rel_append decodes addedDecodes
  · refine firsts.append ?_
    rwa [framesEq, Nat.zero_add]
  · rw [segmentFrames, flatMap_append]
    exact congrArg₂ _ framesEq addedFrames

theorem decode :
    ∃ segments, generationSegments codec objects pending generation = some segments ∧
      FirstFramesCount 0 segments ∧ segmentFrames segments = frames := by
  obtain ⟨-, _, _, segments, holds, count, decodes, firsts, framesEq⟩ := carries
  exact ⟨segments, generationSegments_of_queueHolds holds count decodes, firsts, framesEq⟩

end

end Carries

end Addons.WalSegmentQueue
