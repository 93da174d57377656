import Addons.WalReplay
import Addons.WalShippingInvariant
import Addons.WalWriting

/-!
# No undetected hole in a shipped generation

The segments of a generation that is not broken carry exactly the frames committed after
its base, as long as no capture fails harmfully after its checkpoint.
-/

namespace Addons.WalShippingExact

open WalFormat WalReading WalSegments WalShipper WalCapture WalSegmentQueue WalShipping List Option
open WalShippingInvariant WalWriting TransitionSystem

/-- In a term whose failing checkpoints are harmless, the segments of a generation
that is not broken decode, are numbered by their frames, and carry a prefix of the
frames committed after its base. What they and the running cycle do not carry is
unread in the WAL, unless the next capture abandons the generation. -/
theorem shippedFrames_exact (codec : SegmentCodec) (state : State)
    (reached : Reachable Initial (Step codec) CheckpointFailsHarmlessly state)
    (generation : Generation) (current : state.shipper.generation = some generation)
    (notBroken : generation.broken = false) :
    ∃ segments,
      generationSegments codec state.objects state.shipper.pending generation = some segments ∧
      FirstFramesCount 0 segments ∧
      segmentFrames segments ++ heldFrames state.phase <+:
        state.database.committed.drop state.baseFrames ∧
      ∀ frames, state.unread = some frames →
        segmentFrames segments ++ heldFrames state.phase ++ frames =
          state.database.committed.drop state.baseFrames := by
  have holds : Invariant codec state := reached.invariant
    (fun _ initial => invariant_initial initial)
    (fun _ _ _ before harmless step => before.step harmless step)
  obtain ⟨frames, position, carries, -, -, committed, readAt⟩ :=
    holds.tracks generation (usable_eq_some.mpr ⟨current, notBroken⟩)
  obtain ⟨segments, decoded, firsts, framesEq⟩ := carries.decode
  subst framesEq
  refine ⟨segments, decoded, firsts, ⟨_, committed.symm⟩, fun rest found => ?_⟩
  rcases unread_eq readAt with unreadEq | ⟨-, -, lost⟩
  · have restEq : rest = state.database.committed.drop position :=
      some.inj (found.symm.trans unreadEq)
    rw [restEq, committed]
  · have impossible : some rest = none := found.symm.trans lost
    cases impossible

def firstFrame : Frame := ⟨1, 1, List.replicate 512 0⟩
def secondFrame : Frame := ⟨1, 1, List.replicate 512 1⟩

section OneFrame

variable (pageSize : UInt32) (salt : UInt32) (frame : Frame)

/-- The WAL after a transaction of one frame under fresh salts, in a file that an
earlier log has extended by `tail` bytes. -/
def oneFrameWal (tail : Nat) : List UInt8 :=
  writeLog (salt, salt) pageSize [frame] tail

def oneFrameEnd : Cursor :=
  afterFrame (headerOf (salt, salt) pageSize).start frame

def oneFrameRead : CaptureRead where
  cursor := some (oneFrameEnd pageSize salt frame)
  knownEnd := some (oneFrameEnd pageSize salt frame)
  restartOk := false
  batches := [(pageSize, [frame])]
  taken := pageSize.toNat
  complete := true

variable {pageSize frame} (valid : validPageSize pageSize = true)
  (writable : Writable pageSize frame) (commits : frame.commit ≠ 0)

include valid writable commits

theorem oneFrameWal_holdsLog (tail : Nat) :
    HoldsLog (oneFrameWal pageSize salt frame tail) (headerOf (salt, salt) pageSize) [frame]
      (oneFrameEnd pageSize salt frame) :=
  writeLog_holdsLog valid (by simpa using writable) (by simpa [EndsOnCommit] using commits) tail

theorem captureFrames_oneFrame (tail : Nat) {shipper : Shipper} (cursor : shipper.cursor = none)
    (knownEnd : shipper.knownEnd = none) :
    captureFrames (some (oneFrameWal pageSize salt frame tail)) shipper true =
      .ok (oneFrameRead pageSize salt frame) := by
  have holdsLog := oneFrameWal_holdsLog salt valid writable commits tail
  obtain ⟨front, rest, middle, framesEq, chain, stopped, readEq⟩ :=
    @HoldsLog.readCommitted_eq _ _ [] [frame] _ _ holdsLog (.nil _) none none
      (.inr ⟨rfl, rfl⟩) (by simp [KnownBoundary]) segmentFrameBytes
  have frontEq : front = [frame] ∧ rest = [] := by
    cases front with
    | nil =>
      subst framesEq
      simp [segmentFrameBytes] at stopped
    | cons =>
      obtain ⟨rfl, othersEq⟩ := cons.inj framesEq
      obtain ⟨rfl, rfl⟩ := append_eq_nil_iff.mp othersEq.symm
      exact ⟨rfl, rfl⟩
  obtain ⟨rfl, rfl⟩ := frontEq
  have middleEq : middle = oneFrameEnd pageSize salt frame :=
    chain.deterministic holdsLog.chain
  subst middleEq
  have passEq : captureRead (some (oneFrameWal pageSize salt frame tail))
      shipper.captureStart = .ok (oneFrameRead pageSize salt frame, false) := by
    simp only [captureRead, Shipper.captureStart, cursor, knownEnd, readEq]
    simp [oneFrameRead, oneFrameEnd, afterFrame, headerOf, Header.start]
  simp only [captureFrames, if_true, capturePasses, captureLoop, passEq]

end OneFrame

theorem oneFrameWal_length {pageSize : UInt32} {frame : Frame} (writable : Writable pageSize frame)
    (salt : UInt32) (tail : Nat) :
    (oneFrameWal pageSize salt frame tail).length =
      walHeaderLen + frameHeaderLen + pageSize.toNat + tail := by
  have frameLength : (writeFrame (headerOf (salt, salt) pageSize).start frame).length =
      frameHeaderLen + pageSize.toNat := writeFrame_length writable
  simp only [oneFrameWal, writeLog, writeFrames, length_append, writeHeader_length,
    frameLength, length_nil, length_replicate]
  omega

theorem firstFrame_writable : Writable 512 firstFrame :=
  ⟨by decide, length_replicate⟩

theorem secondFrame_writable : Writable 512 secondFrame :=
  ⟨by decide, length_replicate⟩

def emptyDatabase : Database where
  wal := none
  committed := []
  walStart := 0
  backfilled := 0
  salts := []
  walStart_le := Nat.le_refl 0
  backfilled_le := Nat.le_refl 0
  holds := .inl ⟨rfl, rfl⟩

/-- The first transaction, in a WAL file that an earlier log has extended by `tail`
bytes, with `folded` of its frames in the database file. -/
def firstDatabase (tail : Nat) (folded : Fin 2) : Database where
  wal := some (oneFrameWal 512 1 firstFrame tail)
  committed := [firstFrame]
  walStart := 0
  backfilled := folded
  salts := [(1, 1)]
  walStart_le := Nat.zero_le _
  backfilled_le := Nat.le_of_lt_succ folded.isLt
  holds := .inr ⟨_, _, _, rfl,
    oneFrameWal_holdsLog 1 (by decide) firstFrame_writable (by decide) tail,
    List.mem_singleton.mpr rfl⟩

def secondDatabase : Database where
  wal := some (oneFrameWal 512 2 secondFrame 0)
  committed := [firstFrame, secondFrame]
  walStart := 1
  backfilled := 1
  salts := [(2, 2), (1, 1)]
  walStart_le := Nat.le_refl 1
  backfilled_le := by simp
  holds := .inr ⟨_, _, _, rfl,
    oneFrameWal_holdsLog 2 (by decide) secondFrame_writable (by decide) 0,
    List.mem_cons_self⟩

def baseGeneration : Generation :=
  publishedGeneration "000000000001-1700000000000-0a1b2c3d"

/-- A term after a first cycle that published a base of the empty database. -/
def publishedState (database : Database) (phase : Phase) : State where
  shipper := { generation := some baseGeneration }
  database := database
  objects := fun _ _ => none
  inFlight := []
  baseFrames := 0
  phase := phase

/-- A term that has done nothing yet, in the given phase. -/
def emptyState (phase : Phase) : State where
  shipper := {}
  database := emptyDatabase
  objects := fun _ _ => none
  inFlight := []
  baseFrames := 0
  phase := phase

/-- The same term once its first generation was started. -/
def startedState (phase : Phase) : State :=
  { emptyState phase with
    shipper := ({} : Shipper).startGeneration baseGeneration.id 512 512 "" }

/-- The first capture of a term only truncates the WAL. -/
def firstRound : Round where
  finalFlush := false
  left := maxRounds
  captured := ({} : Shipper).captureStart.finish true false 0 (some .truncated)

variable {allowed : State → Event → Prop}

abbrev Reached (allowed : State → Event → Prop) : State → Prop :=
  Reachable Initial (Step storedCodec) allowed

theorem publishedState_reachable (cycles : ∀ state, allowed state .cycle) :
    Reached allowed (publishedState emptyDatabase .idle) := by
  have truncates : emptyDatabase.Truncates emptyDatabase := ⟨rfl, rfl, rfl, rfl, rfl⟩
  have idle : Reached allowed (emptyState .idle) :=
    .start ⟨rfl, rfl⟩
  have capturing : Reached allowed
      (emptyState (.capturing false maxRounds)) := idle.next (cycles _) (.begin false rfl)
  have queueing : Reached allowed (emptyState (.queueing firstRound)) :=
    capturing.next (cycles _) (@Step.capture _ (emptyState (.capturing false maxRounds)) _ _
      ({} : Shipper).captureStart _ emptyDatabase rfl rfl rfl (.truncated truncates))
  have starting : Reached allowed (emptyState (.starting firstRound)) :=
    queueing.next (cycles _) (@Step.queue _ (emptyState (.queueing firstRound)) _ true rfl)
  have fresh : FreshGeneration (emptyState (.starting firstRound)) baseGeneration.id :=
    ⟨fun _ => rfl, by simp [emptyState], by simp [emptyState]⟩
  have uploading : Reached allowed (startedState (.uploading firstRound)) :=
    starting.next (cycles _) (.start 512 512 "" rfl fresh)
  have publishing : Reached allowed (startedState (.publishing firstRound)) :=
    uploading.next (cycles _) (.uploadDone rfl rfl)
  exact publishing.next (cycles _) (@Step.publish _ (startedState (.publishing firstRound))
    firstRound { baseGeneration with base := .local 512 512 "" } (fun _ _ => none)
    rfl rfl Base.noConfusion (fun _ => rfl) (fun _ _ => .inl rfl))

theorem firstDatabase_header (tail : Nat) (folded : Fin 2) :
    walHeader (firstDatabase tail folded).wal = some (headerOf (1, 1) 512) := by
  change (some (oneFrameWal 512 1 firstFrame tail)).bind fileHeader = _
  exact (oneFrameWal_holdsLog 1 (by decide) firstFrame_writable (by decide) tail).header_eq

theorem firstCommitted_reachable (cycles : ∀ state, allowed state .cycle)
    (commits : ∀ state frames, allowed state (.commit frames)) (tail : Nat) :
    Reached allowed (publishedState (firstDatabase tail 0) .idle) :=
  (publishedState_reachable cycles).next (commits _ [firstFrame])
    (.commit (.restart rfl (firstDatabase_header tail 0) not_mem_nil rfl rfl rfl rfl))

/-- The next capture reads it, and fails after its checkpoint has folded it. -/
theorem firstFolded_reachable {tail : Nat} (large : checkpointWalBytes ≤ tail) :
    Reached (fun _ _ => True) (publishedState (firstDatabase tail 1) .idle) := by
  have committed : Reached (fun _ _ => True) (publishedState (firstDatabase tail 0) .idle) :=
    firstCommitted_reachable (fun _ => trivial) (fun _ _ => trivial) tail
  have capturing : Reached (fun _ _ => True)
      (publishedState (firstDatabase tail 0) (.capturing false maxRounds)) :=
    committed.next trivial (.begin false rfl)
  have readEq : captureFrames (firstDatabase tail 0).wal
      (publishedState (firstDatabase tail 0) (.capturing false maxRounds)).shipper true =
        .ok (oneFrameRead 512 1 firstFrame) :=
    captureFrames_oneFrame 1 (by decide) firstFrame_writable (by decide) tail rfl rfl
  have checkpointed : checkpointWalBytes ≤ walLen (firstDatabase tail 0).wal := by
    change _ ≤ (oneFrameWal 512 1 firstFrame tail).length
    rw [oneFrameWal_length firstFrame_writable]
    omega
  have runs : (oneFrameRead 512 1 firstFrame).checkpoints
      (rotates (publishedState (firstDatabase tail 0) (.capturing false maxRounds)).shipper false)
      (reads (publishedState (firstDatabase tail 0) (.capturing false maxRounds)).shipper)
      (walLen (firstDatabase tail 0).wal) := by
    rw [CaptureRead.checkpoints, decide_eq_true checkpointed]
    rfl
  have folds : (firstDatabase tail 0).Folds (firstDatabase tail 1) :=
    ⟨rfl, rfl, rfl, Nat.zero_le _, rfl⟩
  exact capturing.next trivial (.captureFailsLate rfl readEq runs (.inl folds))

section OneTransaction

variable (database : Database) (salt : UInt32) (frame : Frame)

/-- The round that captures the only transaction of a small WAL. -/
def oneFrameRound : Round where
  finalFlush := false
  left := maxRounds
  captured := (oneFrameRead 512 salt frame).finish false true (walLen database.wal) none

def capturedShipper : Shipper :=
  ({ generation := some baseGeneration } : Shipper).adopt
    (oneFrameRound database salt frame).captured

/-- The term after that transaction was queued as segment 0. -/
def queuedState : State :=
  { publishedState database (.uploading (oneFrameRound database salt frame)) with
    shipper := (capturedShipper database salt frame).pushSegments baseGeneration
      [(oneFrameSegment 512 0 frame, 1)] }

def queuedGeneration : Generation :=
  { baseGeneration with nextSeq := 1, nextFrame := 1 }

variable {database salt frame} (writable : Writable 512 frame)

include writable

theorem queuedState_reachable (cycles : ∀ state, allowed state .cycle) (commits : frame.commit ≠ 0)
    (walEq : database.wal = some (oneFrameWal 512 salt frame 0))
    (committed : Reached allowed (publishedState database .idle)) :
    Reached allowed (queuedState database salt frame) := by
  have capturing : Reached allowed (publishedState database (.capturing false maxRounds)) :=
    committed.next (cycles _) (.begin false rfl)
  have readEq : captureFrames database.wal
      (publishedState database (.capturing false maxRounds)).shipper true =
        .ok (oneFrameRead 512 salt frame) := by
    rw [walEq]
    exact captureFrames_oneFrame salt (by decide) writable commits 0 rfl rfl
  have small : ¬checkpointWalBytes ≤ walLen database.wal := by
    rw [walEq]
    change ¬_ ≤ (oneFrameWal 512 salt frame 0).length
    rw [oneFrameWal_length writable]
    decide
  have runs : (none : Option Checkpoint).isSome =
      (oneFrameRead 512 salt frame).checkpoints false true (walLen database.wal) := by
    simp [CaptureRead.checkpoints, small]
  have queueing : Reached allowed
      { publishedState database (.queueing (oneFrameRound database salt frame)) with
        shipper := capturedShipper database salt frame } :=
    capturing.next (cycles _) (@Step.capture _
      (publishedState database (.capturing false maxRounds)) _ _
      (oneFrameRead 512 salt frame) none database rfl readEq runs .none)
  have pushed : (capturedShipper database salt frame).queueSegments storedCodec true
      [(512, [frame])] = (capturedShipper database salt frame).pushSegments baseGeneration
        [(oneFrameSegment 512 0 frame, 1)] := queueSegments_oneFrame rfl rfl writable.2
  rw [queuedState, ← pushed]
  exact queueing.next (cycles _) (@Step.queue _
    { publishedState database (.queueing (oneFrameRound database salt frame)) with
      shipper := capturedShipper database salt frame } _ true rfl)

theorem queuedState_carries :
    Carries storedCodec (fun _ _ => none) [] (queuedState database salt frame).shipper.pending
      queuedGeneration [frame] := by
  have begun : Carries storedCodec (fun _ _ => none) [] [] baseGeneration [] :=
    ⟨rfl, [], 0, [], .start (fun _ => rfl) (by simp) (by simp), rfl, .nil, trivial, rfl⟩
  have numbered : ∀ batch ∈ [((512 : UInt32), [frame])],
      validPageSize batch.1 ∧ ∀ frame ∈ batch.2, frame.pgno ≠ 0 := by
    simpa using And.intro (by decide : validPageSize 512) writable.1
  exact begun.push numbered (encodeBatches_oneFrame writable.2 0)

end OneTransaction

/-- The term after the second transaction was queued as segment 0. -/
def holeState : State := queuedState secondDatabase 2 secondFrame

theorem holeState_reachable : Reached (fun _ _ => True) holeState := by
  have found : walHeader secondDatabase.wal = some (headerOf (2, 2) 512) := by
    change (some (oneFrameWal 512 2 secondFrame 0)).bind fileHeader = _
    exact (oneFrameWal_holdsLog 2 (by decide) secondFrame_writable (by decide) 0).header_eq
  have commits : (firstDatabase checkpointWalBytes 1).Commits [secondFrame] secondDatabase :=
    .restart rfl found (by decide) rfl rfl rfl rfl
  exact queuedState_reachable secondFrame_writable (fun _ => trivial) (by decide) rfl
    ((firstFolded_reachable (Nat.le_refl checkpointWalBytes)).next trivial (.commit commits))

/-- A capture that reads frames and then fails, although its checkpoint took effect,
loses them: after the WAL restarts, the same generation goes on with the next
transaction. -/
theorem shippedFrames_hole :
    Reachable Initial (Step storedCodec) (fun _ _ => True) holeState ∧
      ∃ generation, holeState.shipper.generation = some generation ∧
        generation.broken = false ∧
        ¬∃ segments,
          generationSegments storedCodec holeState.objects holeState.shipper.pending
            generation = some segments ∧
          segmentFrames segments ++ heldFrames holeState.phase <+:
            holeState.database.committed.drop holeState.baseFrames := by
  refine ⟨holeState_reachable, queuedGeneration, rfl, rfl, ?_⟩
  rintro ⟨segments, decoded, shipped⟩
  obtain ⟨found, foundDecoded, -, foundFrames⟩ := (queuedState_carries secondFrame_writable).decode
  have sameSegments : segments = found := some.inj (decoded.symm.trans foundDecoded)
  subst sameSegments
  rw [foundFrames] at shipped
  have sameFrame : secondFrame = firstFrame := (cons_prefix_cons.mp shipped).1
  exact absurd (congrArg (fun frame => frame.page.head?) sameFrame) (by decide)

/-- The first transaction was queued as segment 0. -/
def firstQueued : State := queuedState (firstDatabase 0 0) 1 firstFrame

theorem firstQueued_reachable : Reached CheckpointFailsHarmlessly firstQueued :=
  queuedState_reachable firstFrame_writable (fun _ => trivial) (by decide) rfl
    (firstCommitted_reachable (fun _ => trivial) (fun _ _ => trivial) 0)

theorem shippedFrames_exact_firstQueued :
    ∃ segments,
      generationSegments storedCodec (fun _ _ => none) firstQueued.shipper.pending
        queuedGeneration = some segments ∧
      FirstFramesCount 0 segments ∧ segmentFrames segments = [firstFrame] ∧
      ∀ frames, firstQueued.unread = some frames → frames = [] := by
  obtain ⟨segments, decoded, firsts, -, whole⟩ :=
    shippedFrames_exact storedCodec firstQueued firstQueued_reachable queuedGeneration rfl rfl
  obtain ⟨_, foundDecoded, -, framesEq⟩ := (queuedState_carries firstFrame_writable).decode
  cases decoded.symm.trans foundDecoded
  refine ⟨segments, decoded, firsts, framesEq, fun frames unread => ?_⟩
  have all : segmentFrames segments ++ [] ++ frames = [firstFrame] := whole frames unread
  simpa [framesEq] using all

open WalFollowing SnapshotMetadata

/-- The file that a standby replays from a base and the first segments in the bucket is the
base after some of the transactions committed since, and after all of them once the leader
has shipped everything and the standby has it. -/
theorem replayed_past_state {codec : SegmentCodec} {state : State} {generation : Generation}
    (reached : Reachable WalShipping.Initial (Step codec) CheckpointFailsHarmlessly state)
    (current : state.shipper.generation = some generation) (notBroken : generation.broken = false)
    {bucket : Bucket} {keys : List String} {objects : List (List UInt8)} {base : List UInt8}
    {replay : Replay} (stored : keys.map bucket.getObject = objects.map some)
    (listed : ∀ seq, (inside : seq < objects.length) →
      state.objects generation.id seq = some objects[seq])
    (replayed : replayKeys codec bucket keys base = .ok replay) :
    ∃ segments applied,
      generationSegments codec state.objects state.shipper.pending generation = some segments ∧
      segmentFrames segments <+: state.database.committed.drop state.baseFrames ∧
      applied <+: segments ∧ (∀ segment ∈ applied.getLast?, endsOnCommit segment) ∧
      replay.db = writeSegments base applied ∧
      (objects.length = generation.nextSeq → replay.spool = [] →
        heldFrames state.phase = [] → state.unread = some [] →
        segmentFrames applied = state.database.committed.drop state.baseFrames) := by
  have holds : Invariant codec state := reached.invariant
    (fun _ initial => invariant_initial initial)
    (fun _ _ _ before harmless step => before.step harmless step)
  obtain ⟨_, _, ⟨-, bytes, _, segments, queue, count, decodes, -, rfl⟩, -, -, committed, readAt⟩ :=
    holds.tracks generation (usable_eq_some.mpr ⟨current, notBroken⟩)
  rcases replayKeys_agrees stored with ⟨rebuilt, _, built, again, agrees⟩ | ⟨_, _, -, failed⟩
  swap
  · cases replayed.symm.trans failed
  cases replayed.symm.trans again
  obtain ⟨found, foundDecodes, split, dbEq⟩ := rebuild_ok built
  have first : objects <+: bytes := prefix_iff_getElem?.mpr fun seq inside =>
    queue.stored seq _ (listed seq inside)
  have taken := forall₂_take objects.length decodes
  rw [← prefix_iff_eq_take.mp first] at taken
  have foundEq : found = segments.take objects.length :=
    right_unique_forall₂' (fun _ _ _ one two => Except.ok.inj (one.symm.trans two))
      foundDecodes taken
  refine ⟨segments, settled found, generationSegments_of_queueHolds queue count decodes, ?_,
    .trans ⟨_, split⟩ (foundEq ▸ take_prefix _ _), getLast_settled found,
    agrees.db.trans dbEq, ?_⟩
  · rw [committed, append_assoc]
    exact prefix_append _ _
  · intro whole settles held nothing
    have waiting := agrees.spooled.holds
    rw [settles, forall₂_nil_left_iff] at waiting
    have all : found = segments := by
      rw [foundEq, whole, ← count, decodes.length_eq, take_length]
    rw [waiting, append_nil, all] at split
    rcases unread_eq readAt with unreadEq | ⟨-, -, lost⟩
    · have read := some.inj (nothing.symm.trans unreadEq)
      rw [all, split, committed, held, ← read, append_nil, append_nil]
    · cases nothing.symm.trans lost

def firstEntry : Pending := ⟨baseGeneration.id, 0, oneFrameSegment 512 0 firstFrame⟩

/-- The segment of the first transaction is in the bucket. -/
def firstShipped : State :=
  { firstQueued with
    objects := firstQueued.objects.put firstEntry
    shipper := firstQueued.shipper.shipped firstEntry }

def shippedGeneration : Generation :=
  { queuedGeneration with
    segmentBytes := queuedGeneration.segmentBytes + firstEntry.bytes.length
    segments := queuedGeneration.segments + 1 }

theorem firstShipped_reachable : Reached CheckpointFailsHarmlessly firstShipped :=
  firstQueued_reachable.next (show CheckpointFailsHarmlessly _ .cycle from trivial)
    (@Step.putStored _ firstQueued _ firstEntry [] rfl rfl rfl rfl)

theorem firstShipped_generation : firstShipped.shipper.generation = some shippedGeneration := by
  have same : queuedGeneration.id = firstEntry.generation := rfl
  have current : (firstQueued.shipper.popFront firstEntry).generation = some queuedGeneration := rfl
  simp [firstShipped, Shipper.shipped, current, same, shippedGeneration]

def firstKey : String := segmentKey "meta.db" baseGeneration.id 0

def firstSegmentBucket : Bucket where
  objects := [(firstKey, firstEntry.bytes)]
  sorted := pairwise_singleton _ _

theorem replayed_past_state_firstShipped :
    ∃ replay segments,
      replayKeys storedCodec firstSegmentBucket [firstKey] [7] = .ok replay ∧
      segmentFrames segments = [firstFrame] ∧ replay.db = writeSegments [7] segments := by
  have settles : (replayKeys storedCodec firstSegmentBucket [firstKey] [7]).toOption.map
      Replay.spool = some [] := by
    decide +kernel
  have empty : firstShipped.unread.map List.length = some 0 := by
    decide +kernel
  have nothing : firstShipped.unread = some [] := by
    simpa using empty
  cases replayed : replayKeys storedCodec firstSegmentBucket [firstKey] [7] with
  | error => simp [replayed, Except.toOption] at settles
  | ok replay =>
    have spool : replay.spool = [] := by
      simpa [replayed, Except.toOption] using settles
    obtain ⟨_, applied, -, -, -, -, dbEq, whole⟩ :=
      @replayed_past_state _ firstShipped shippedGeneration firstShipped_reachable
        firstShipped_generation rfl firstSegmentBucket [firstKey] [firstEntry.bytes] _ _
        (by simp [firstSegmentBucket, Bucket.getObject])
        (fun seq inside => by
          cases Nat.lt_one_iff.mp inside
          rfl) replayed
    exact ⟨replay, applied, rfl, whole rfl spool rfl nothing, dbEq⟩

end Addons.WalShippingExact
