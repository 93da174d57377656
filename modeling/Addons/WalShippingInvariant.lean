import Addons.WalShipping

/-!
# What a leader term keeps

The invariant of a leader term: the segments of a usable generation, the frames
held by the running cycle and the unread part of the WAL together are the frames
committed after the generation's base.
-/

namespace Addons.WalShippingInvariant

open WalFormat WalReading WalSegments WalShipper WalCapture WalSegmentQueue WalShipping
open List Option Shipper CaptureRead TransitionSystem

def heldFrames (phase : Phase) : List Frame :=
  phase.held.flatMap Prod.snd

/-- The WAL was truncated for a generation that is still to be started. -/
def rotating : Phase → Bool
  | .queueing round => round.captured.rotated
  | .starting _ => true
  | _ => false

/-- The generation carries `frames`, the cycle holds the next ones, and the WAL has
been read up to `position`. -/
structure Tracks (codec : SegmentCodec) (state : State) (generation : Generation)
    (frames : List Frame) (position : Nat) : Prop where
  carries : Carries codec state.objects state.inFlight state.shipper.pending generation frames
  valid : ∀ batch ∈ state.phase.held, validPageSize batch.1 = true ∧
    ∀ frame ∈ batch.2, frame.pgno ≠ 0
  position_eq : position = state.baseFrames + (frames ++ heldFrames state.phase).length
  committed : state.database.committed.drop state.baseFrames =
    (frames ++ heldFrames state.phase) ++ state.database.committed.drop position
  readAt : ReadAt state.database state.shipper.cursor state.shipper.knownEnd
    state.shipper.restartOk position

structure Invariant (codec : SegmentCodec) (state : State) : Prop where
  tracks : ∀ generation, state.shipper.usable = some generation →
    ∃ frames position, Tracks codec state generation frames position
  rotation : rotating state.phase = true → state.shipper.cursor = none ∧
    state.shipper.knownEnd = none ∧ state.database.walStart = state.database.backfilled

variable {shipper : Shipper} {generation : Generation} {codec : SegmentCodec} {state : State}
  {frames : List Frame} {position : Nat}

/-- The cycle holds no frames. -/
theorem Tracks.of_held (empty : state.phase.held = [])
    (carries : Carries codec state.objects state.inFlight state.shipper.pending generation frames)
    (positionEq : position = state.baseFrames + frames.length)
    (committed : state.database.committed.drop state.baseFrames =
      frames ++ state.database.committed.drop position)
    (readAt : ReadAt state.database state.shipper.cursor state.shipper.knownEnd
      state.shipper.restartOk position) : Tracks codec state generation frames position where
  carries := carries
  valid := by simp [empty]
  position_eq := by simpa [heldFrames, empty] using positionEq
  committed := by simpa [heldFrames, empty] using committed
  readAt := readAt

theorem usable_eq_some :
    shipper.usable = some generation ↔
      shipper.generation = some generation ∧ generation.broken = false := by
  simp [usable, filter_eq_some_iff]

@[simp]
theorem markBroken_usable (shipper : Shipper) : shipper.markBroken.usable = none := by
  cases generationEq : shipper.generation <;>
    simp [usable, markBroken, generationEq]

theorem invariant_initial (initial : Initial state) : Invariant codec state := by
  obtain ⟨shipperEq, phaseEq⟩ := initial
  refine ⟨fun _ usable => ?_, fun rotates => ?_⟩
  · rw [shipperEq] at usable
    simp [Shipper.usable] at usable
  · rw [phaseEq] at rotates
    cases rotates

variable {after : Database} {database : Database}

variable {cursor : Option Cursor}

/-- A read without a limit returns all that follows the cursor. -/
private theorem readCommitted_all {file : List UInt8} {header : Header}
    {before after : List Frame} {start last : Cursor}
    (holdsLog : HoldsLog file header (before ++ after) last)
    (reached : Chain file header.start before start)
    (resumes : cursor = some start ∨ cursor = none ∧ before = []) :
    ∃ next complete endCursor, readCommitted (some file) cursor (file.length + 1) none =
      .ok (.frames after next complete endCursor) := by
  have noKnown : KnownBoundary file header (before ++ after) none := by simp [KnownBoundary]
  obtain ⟨front, rest, _, afterEq, chain, stopped, readEq⟩ :=
    holdsLog.readCommitted_eq reached resumes noKnown (file.length + 1)
  have restEmpty : rest = [] := by
    refine stopped.resolve_right fun full => ?_
    rcases eq_or_ne front [] with rfl | nonempty
    · simp at full
    · have inside := chain.inside (by simp [nonempty])
      have small : header.pageSize.toNat ≤ header.start.frameLen := by
        simp [Cursor.frameLen, Header.start]
      have bound := Nat.mul_le_mul (Nat.le_add_left front.length before.length) small
      rw [chain.offset, length_append] at inside
      omega
  rw [restEmpty, append_nil] at afterEq
  exact ⟨_, _, _, afterEq ▸ readEq⟩

private theorem readCommitted_fresh (database : Database) :
    ∃ next complete endCursor,
      readCommitted database.wal none (walLen database.wal + 1) none =
        .ok (.frames (database.committed.drop database.walStart) next complete endCursor) := by
  rcases database.holds with ⟨noHeader, empty⟩ | ⟨file, _, _, wal, holdsLog, -⟩
  · cases walEq : database.wal with
    | none => exact ⟨none, true, none, by simp [readCommitted, noFrames, empty]⟩
    | some file =>
      have headerEq : fileHeader file = none := by simpa [walHeader, walEq] using noHeader
      exact ⟨none, true, none, by simp [readCommitted, headerEq, noFrames, empty]⟩
  · rw [wal]
    exact readCommitted_all holdsLog (.nil _) (.inr ⟨rfl, rfl⟩)

theorem unread_eq {knownEnd : Option Cursor} {restartOk : Bool}
    (readAt : ReadAt database cursor knownEnd restartOk position) :
    unread database.wal cursor restartOk = some (database.committed.drop position) ∨
      cursor ≠ none ∧ restartOk = false ∧ unread database.wal cursor restartOk = none := by
  cases readAt with
  | fresh =>
    obtain ⟨next, complete, endCursor, readEq⟩ := readCommitted_fresh database
    exact .inl (by simp [unread, readEq])
  | inside wal log holdsLog reached =>
    obtain ⟨next, complete, endCursor, readEq⟩ :=
      readCommitted_all holdsLog reached (.inl rfl)
    left
    rw [← drop_drop, log, drop_left, wal]
    simp [unread, walLen, readEq]
  | @stale cursor knownEnd restartOk position used gone bound safe =>
    have resets : ∃ why, readCommitted database.wal (some cursor) (walLen database.wal + 1)
        none = .ok (.reset why) := readCommitted_of_gone gone _ _
    obtain ⟨_, resetEq⟩ := resets
    cases restartOk with
    | false => exact .inr ⟨by simp, rfl, by simp [unread, resetEq]⟩
    | true =>
      obtain ⟨_, _, _, readEq⟩ := readCommitted_fresh database
      left
      rw [(safe rfl).1]
      simp [unread, resetEq, readEq]

variable {read : CaptureRead} {rotate : Bool} {checkpoint : Option Checkpoint} {length : Nat}

theorem capture_readAt (took : Took database position read frames)
    (notLost : (read.finish rotate true length checkpoint).lost = none)
    (effect : CheckpointRan database checkpoint after) (noReset : read.reset = none) :
    ReadAt after (read.finish rotate true length checkpoint).cursor
      (read.finish rotate true length checkpoint).knownEnd
      (read.finish rotate true length checkpoint).restartOk (position + frames.length) := by
  cases effect with
  | none => simpa [finish] using took.readAt
  | truncated truncates =>
    have complete : read.complete := by
      by_contra notComplete
      simp [finish, drained, noReset, notComplete] at notLost
    rw [took.complete complete, ← truncates.walStart]
    refine .fresh (.inl ?_)
    rw [truncates.walStart, truncates.backfilled]
  | busy folds =>
    cases complete : read.complete with
    | false =>
      obtain ⟨notOk, hasCursor⟩ := took.incomplete complete
      have kept := took.readAt.folds folds fun unnoticed => by
        rcases unnoticed with noCursor | ok
        · rw [noCursor] at hasCursor
          cases hasCursor
        · rw [notOk] at ok
          cases ok
      simpa [finish, drained, complete] using kept
    | true =>
      have safe : after.RestartSafe (position + frames.length) := by
        rw [took.complete complete, ← folds.committed]
        exact .inl after.backfilled_le
      have armed := (took.readAt.folds folds fun _ => safe).arm
        (by simpa only [folds.wal] using took.current) safe
      simpa [finish, drained, complete, noReset] using armed

theorem adopt_usable {captured : Captured}
    (usable : (shipper.adopt captured).usable = some generation) :
    captured.lost = none ∧ shipper.usable = some generation := by
  simp only [adopt] at usable
  split at usable
  · rw [markBroken_usable] at usable
    cases usable
  · rename_i notLost
    exact ⟨by simpa using notLost, usable⟩

theorem adopt_cursor (shipper : Shipper) (captured : Captured) :
    (shipper.adopt captured).cursor = captured.cursor ∧
      (shipper.adopt captured).knownEnd = captured.knownEnd ∧
      (shipper.adopt captured).restartOk = captured.restartOk ∧
      (shipper.adopt captured).pending = shipper.pending := by
  simp only [adopt]
  split <;> exact ⟨rfl, rfl, rfl, rfl⟩

theorem queueSegments_cursor (shipper : Shipper) (codec : SegmentCodec) (joined : Bool)
    (batches : List (UInt32 × List Frame)) :
    (shipper.queueSegments codec joined batches).cursor = shipper.cursor ∧
      (shipper.queueSegments codec joined batches).knownEnd = shipper.knownEnd := by
  simp only [queueSegments]
  split
  · exact ⟨rfl, rfl⟩
  · split
    · exact ⟨rfl, rfl⟩
    · split
      · exact ⟨rfl, rfl⟩
      · split
        · exact ⟨rfl, rfl⟩
        · split <;> exact ⟨rfl, rfl⟩

variable {joined : Bool}

theorem queueSegments_usable {batches : List (UInt32 × List Frame)}
    (usable : (shipper.queueSegments codec joined batches).usable = some generation) :
    batches = [] ∧ shipper.queueSegments codec joined batches = shipper ∨
      ∃ before encoded, shipper.usable = some before ∧
        encodeBatches codec before.nextFrame batches = .ok encoded ∧
        shipper.queueSegments codec joined batches = shipper.pushSegments before encoded := by
  simp only [queueSegments] at usable ⊢
  split at usable
  · rename_i empty
    exact .inl ⟨empty, by rw [if_pos empty]⟩
  · rename_i nonempty
    rw [if_neg nonempty]
    split at usable
    · rename_i notUsable
      rw [notUsable] at usable
      cases usable
    · rename_i before usableBefore
      split at usable
      · rw [markBroken_usable] at usable
        cases usable
      · rename_i wasJoined
        split at usable
        · rw [markBroken_usable] at usable
          cases usable
        · rename_i encoded encodes
          split at usable
          · cases usable
          · rename_i small
            refine .inr ⟨before, encoded, usableBefore, encodes, ?_⟩
            rw [if_neg wasJoined, if_neg small]

variable {round : Round} {entry : Pending}

theorem shipped_usable (usable : (shipper.shipped entry).usable = some generation) :
    ∃ before, shipper.usable = some before ∧ generation.id = before.id ∧
      generation.nextSeq = before.nextSeq ∧ generation.nextFrame = before.nextFrame := by
  obtain ⟨generationEq, notBroken⟩ := usable_eq_some.mp usable
  simp only [shipped, popFront, map_eq_some_iff] at generationEq
  obtain ⟨before, beforeEq, rfl⟩ := generationEq
  refine ⟨before, usable_eq_some.mpr ⟨beforeEq, ?_⟩, ?_⟩
  · split at notBroken <;> exact notBroken
  · split <;> exact ⟨rfl, rfl, rfl⟩

variable {rest : List Pending} {objects : Objects}

private theorem front_known {inFlight pending : List Pending}
    {id : String} {bytes : List (List UInt8)} {done : Nat} (front : pending = entry :: rest)
    (holds : QueueHolds objects inFlight pending id bytes done)
    (own : entry.generation = id) : bytes[entry.seq]? = some entry.bytes := by
  subst front
  obtain ⟨seqEq, contentEq, -⟩ := holds.front own
  rw [seqEq, contentEq]

private theorem after_held (round : Round) : round.after.held = [] := by
  simp only [Round.after]
  split <;> rfl

private theorem after_rotating (round : Round) : rotating round.after = false := by
  simp only [Round.after]
  split <;> rfl

section

variable (holds : Invariant codec state)
include holds

theorem Invariant.phase {next : Phase} (empty : state.phase.held = []) (nextEmpty : next.held = [])
    (notRotating : rotating next = false) : Invariant codec { state with phase := next } := by
  refine ⟨fun generation usable => ?_, fun rotates => ?_⟩
  · obtain ⟨frames, position, carries, -, positionEq, committed, readAt⟩ :=
      holds.tracks generation usable
    simp only [heldFrames, empty, flatMap_nil, append_nil] at positionEq committed
    exact ⟨frames, position, .of_held nextEmpty carries positionEq committed readAt⟩
  · rw [show rotating next = true from rotates] at notRotating
    cases notRotating

/-- A step that changes only the upload side of the shipping state. -/
theorem Invariant.upload {objects : Objects}
    {inFlight : List Pending} (cursor : shipper.cursor = state.shipper.cursor)
    (knownEnd : shipper.knownEnd = state.shipper.knownEnd)
    (restartOk : shipper.restartOk = state.shipper.restartOk)
    (keeps : ∀ generation, shipper.usable = some generation →
      ∃ before, state.shipper.usable = some before ∧ generation.id = before.id ∧
        generation.nextSeq = before.nextSeq ∧ generation.nextFrame = before.nextFrame ∧
        ∀ bytes done,
          QueueHolds state.objects state.inFlight state.shipper.pending before.id bytes done →
          ∃ newDone, QueueHolds objects inFlight shipper.pending before.id bytes newDone) :
    Invariant codec
      { state with shipper := shipper, objects := objects, inFlight := inFlight } := by
  refine ⟨fun generation usable => ?_, fun rotates => ?_⟩
  · obtain ⟨before, usableBefore, idEq, seqEq, frameEq, queue⟩ := keeps generation usable
    obtain ⟨frames, position, carries, valid, positionEq, committed, readAt⟩ :=
      holds.tracks before usableBefore
    obtain ⟨nextFrame, bytes, done, segments, queued, count, decodes, firsts, framesEq⟩ := carries
    obtain ⟨newDone, newQueued⟩ := queue bytes done queued
    refine ⟨frames, position, ⟨frameEq.trans nextFrame, bytes, newDone, segments,
      idEq ▸ newQueued, count.trans seqEq.symm, decodes, firsts, framesEq⟩, valid, positionEq,
      committed, ?_⟩
    simpa only [cursor, knownEnd, restartOk] using readAt
  · obtain ⟨cursorNone, knownNone, startEq⟩ := holds.rotation rotates
    exact ⟨cursor.trans cursorNone, knownEnd.trans knownNone, startEq⟩

theorem Invariant.commit (commit : state.database.Commits frames after) :
    Invariant codec { state with database := after } := by
  refine ⟨fun generation usable => ?_, fun rotates => ?_⟩
  · obtain ⟨carried, position, carries, valid, positionEq, committed, readAt⟩ :=
      holds.tracks generation usable
    have bound := readAt.bound
    refine ⟨carried, position, carries, valid, positionEq, ?_, readAt.commits commit⟩
    change after.committed.drop state.baseFrames =
      (carried ++ heldFrames state.phase) ++ after.committed.drop position
    have grown : after.committed = state.database.committed ++ frames := by
      cases commit <;> assumption
    rw [grown, drop_append_of_le_length (by omega),
      drop_append_of_le_length bound, committed, append_assoc]
  · obtain ⟨cursorNone, knownNone, startEq⟩ := holds.rotation rotates
    refine ⟨cursorNone, knownNone, ?_⟩
    cases commit with
    | append _ _ _ _ _ _ _ walStart backfilled =>
      rw [walStart, backfilled, startEq]
    | restart folded _ _ _ walStart backfilled =>
      rw [walStart, backfilled, folded]

theorem Invariant.failedCheckpoint (notHeld : state.phase.held = [])
    (effect : state.database.Folds after ∨ state.database.Truncates after)
    (harmless : CheckpointFailsHarmlessly state (.failedCheckpoint after)) :
    Invariant codec { state with database := after, phase := .idle } := by
  have committedEq : after.committed = state.database.committed := by
    rcases effect with folds | truncates
    · exact folds.committed
    · exact truncates.committed
  refine ⟨fun generation usable => ?_, fun rotates => by cases rotates⟩
  obtain ⟨frames, position, carries, -, positionEq, committed, readAt⟩ :=
    holds.tracks generation usable
  have reading : reads state.shipper := by
    rw [reads, show state.shipper.usable = some generation from usable]
    rfl
  have allTaken (folded : after.backfilled = after.committed.length)
      (unnoticed : state.shipper.cursor = none ∨ state.shipper.restartOk) :
      position = state.database.committed.length := by
    have nothing : state.unread = some [] := harmless folded reading unnoticed
    have bound := readAt.bound
    rcases unread_eq readAt with found | ⟨hasCursor, notOk, -⟩
    · have empty : state.database.committed.drop position = [] :=
        some.inj (found.symm.trans nothing)
      have := drop_eq_nil_iff.mp empty
      omega
    · rcases unnoticed with noCursor | ok
      · exact absurd noCursor hasCursor
      · rw [notOk] at ok
        cases ok
  simp only [heldFrames, notHeld, flatMap_nil, append_nil] at positionEq committed
  refine ⟨frames, position, .of_held rfl carries positionEq ?_ ?_⟩
  · simpa [committedEq] using committed
  · rcases effect with folds | truncates
    · refine readAt.folds folds fun unnoticed => ?_
      rcases after.backfilled_le.lt_or_eq with below | folded
      · exact .inr below
      · exact .inl (by rw [folded, committedEq, allTaken folded unnoticed])
    · refine readAt.truncates truncates (allTaken ?_)
      rw [truncates.backfilled, truncates.committed]

theorem Invariant.capture {finalFlush : Bool} {left : Nat} (notHeld : state.phase.held = [])
    (readEq : captureFrames state.database.wal state.shipper (reads state.shipper) = .ok read)
    (effect : CheckpointRan state.database checkpoint after) :
    Invariant codec { state with
      database := after
      shipper := state.shipper.adopt
        (read.finish rotate (reads state.shipper) length checkpoint)
      phase := .queueing ⟨finalFlush, left,
        read.finish rotate (reads state.shipper) length checkpoint⟩ } := by
  obtain ⟨cursorEq, knownEq, restartEq, pendingEq⟩ := adopt_cursor state.shipper
    (read.finish rotate (reads state.shipper) length checkpoint)
  refine ⟨fun generation usable => ?_, fun rotates => ?_⟩
  · obtain ⟨notLost, usableBefore⟩ := adopt_usable usable
    obtain ⟨frames, position, carries, -, positionEq, committed, readAt⟩ :=
      holds.tracks generation usableBefore
    simp only [heldFrames, notHeld, flatMap_nil, append_nil] at positionEq committed
    have reading : reads state.shipper := by rw [reads, usableBefore]; rfl
    rw [reading] at notLost readEq cursorEq knownEq restartEq pendingEq ⊢
    obtain ⟨found, loopEq, outcome⟩ :=
      @captureLoop_eq state.database _ state.shipper.captureStart readAt ⟨rfl, rfl, rfl⟩ rfl
    have sameRead : found = read := by
      have firstEq := (loopEq 0).symm.trans readEq
      exact Except.ok.inj firstEq
    subst sameRead
    have noReset : found.reset = none := by
      by_contra reset
      obtain ⟨_, whyEq⟩ := ne_none_iff_exists'.mp reset
      simp [finish, whyEq] at notLost
    obtain ⟨-, taken, took⟩ := outcome.resolve_left (not_not_intro noReset)
    have readAfter := capture_readAt took notLost effect noReset
    have committedEq : after.committed = state.database.committed := by
      cases effect with
      | none => rfl
      | truncated truncates => exact truncates.committed
      | busy folds => exact folds.committed
    have heldEq : (found.finish rotate true length checkpoint).batches.flatMap Prod.snd =
        taken := took.batches.frames_eq
    refine ⟨frames, position + taken.length, ?_, took.batches.valid, ?_, ?_, ?_⟩
    · rw [pendingEq]
      exact carries
    · simp only [heldFrames, Phase.held, heldEq, length_append, positionEq]
      omega
    · simp only [heldFrames, Phase.held, heldEq, committedEq]
      rw [committed, append_assoc, took.next]
    · simp only [cursorEq, knownEq, restartEq]
      exact readAfter
  · have rotated : (read.finish rotate (reads state.shipper) length checkpoint).rotated =
        true := rotates
    cases effect with
    | none | busy => simp [finish] at rotated
    | truncated truncates =>
      refine ⟨cursorEq.trans (by simp [finish]),
        knownEq.trans (by simp [finish]), ?_⟩
      exact truncates.walStart.trans truncates.backfilled.symm

/-- Queueing turns the held frames into segments of the generation. -/
theorem Invariant.queue {next : Phase}
    (phase : state.phase = .queueing round) (nextEmpty : next.held = [])
    (nextRotating : rotating next → round.captured.rotated) :
    Invariant codec { state with
      shipper := state.shipper.queueSegments codec joined round.captured.batches
      phase := next } := by
  obtain ⟨cursorEq, knownEq⟩ :=
    queueSegments_cursor state.shipper codec joined round.captured.batches
  have heldEq : heldFrames state.phase = round.captured.batches.flatMap Prod.snd := by
    rw [heldFrames, phase]
    rfl
  refine ⟨fun generation usable => ?_, fun rotates => ?_⟩
  · rcases queueSegments_usable usable with ⟨empty, sameShipper⟩ |
      ⟨before, encoded, usableBefore, encodes, pushed⟩
    · rw [sameShipper] at usable ⊢
      obtain ⟨frames, position, carries, -, positionEq, committed, readAt⟩ :=
        holds.tracks generation usable
      rw [heldEq, empty, flatMap_nil, append_nil] at positionEq committed
      exact ⟨frames, position, .of_held nextEmpty carries positionEq committed readAt⟩
    · obtain ⟨frames, position, carries, valid, positionEq, committed, readAt⟩ :=
        holds.tracks before usableBefore
      rw [heldEq] at positionEq committed
      rw [phase] at valid
      rw [pushed] at usable ⊢
      have generationEq := (usable_eq_some.mp usable).1
      simp only [pushSegments, some.injEq] at generationEq
      subst generationEq
      exact ⟨frames ++ round.captured.batches.flatMap Prod.snd, position,
        .of_held nextEmpty (carries.push valid encodes) positionEq committed readAt⟩
  · obtain ⟨cursorNone, knownNone, startEq⟩ := holds.rotation (by
      rw [phase]
      exact nextRotating rotates)
    exact ⟨cursorEq.trans cursorNone, knownEq.trans knownNone, startEq⟩

theorem Invariant.start {id : String}
    {size raw : Nat} {sha : String} (phase : state.phase = .starting round)
    (fresh : FreshGeneration state id) :
    Invariant codec { state with
      shipper := state.shipper.startGeneration id size raw sha
      baseFrames := state.database.backfilled
      phase := .uploading round } := by
  obtain ⟨cursorNone, knownNone, startEq⟩ := holds.rotation (by rw [phase]; rfl)
  obtain ⟨noObject, noFlight, noPending⟩ := fresh
  refine ⟨fun _ usable => ?_, fun rotates => by cases rotates⟩
  have generationEq := (usable_eq_some.mp usable).1
  simp only [startGeneration, some.injEq] at generationEq
  subst generationEq
  refine ⟨[], state.database.walStart, .of_held rfl ⟨rfl, ?_⟩ ?_ ?_ ?_⟩
  · exact ⟨[], 0, [], .start noObject noFlight noPending, rfl, .nil, trivial, rfl⟩
  · simp [startEq]
  · simp [startEq]
  · simp only [startGeneration, cursorNone, knownNone]
    exact .fresh (.inl startEq.ge)

theorem Invariant.shipped (front : state.shipper.pending = entry :: rest)
    (present : objects entry.generation entry.seq = some entry.bytes) (keeps : ∀ id bytes done,
      QueueHolds state.objects state.inFlight state.shipper.pending id bytes done →
      QueueHolds objects state.inFlight state.shipper.pending id bytes done) :
    Invariant codec { state with
      objects := objects
      shipper := state.shipper.shipped entry } := by
  refine holds.upload rfl rfl rfl fun _ usable => ?_
  obtain ⟨before, usableBefore, idEq, seqEq, frameEq⟩ := shipped_usable usable
  refine ⟨before, usableBefore, idEq, seqEq, frameEq, fun bytes done queue => ?_⟩
  have kept := keeps before.id bytes done queue
  have pendingEq : (state.shipper.shipped entry).pending = rest := by
    rw [Shipper.shipped, popFront, front, tail_cons]
  rw [front] at kept
  rw [pendingEq]
  by_cases own : entry.generation = before.id
  · exact ⟨done + 1, kept.pop_own own (own ▸ present)⟩
  · exact ⟨done, kept.pop_other own⟩

theorem Invariant.dropSuperseded (front : state.shipper.pending = entry :: rest)
    (superseded : state.shipper.superseded entry) :
    Invariant codec { state with shipper := state.shipper.popFront entry } := by
  refine holds.upload rfl rfl rfl fun generation usable => ?_
  have generationEq : state.shipper.generation = some generation :=
    (usable_eq_some.mp usable).1
  have other : entry.generation ≠ generation.id := by
    simp only [Shipper.superseded, generationEq, any_some, decide_eq_true_eq] at superseded
    exact superseded.1.symm
  refine ⟨generation, usable, rfl, rfl, rfl, fun _ done queue => ⟨done, ?_⟩⟩
  have pendingEq : (state.shipper.popFront entry).pending = rest := by
    rw [popFront, front, tail_cons]
  rw [front] at queue
  rw [pendingEq]
  exact queue.pop_other other

theorem Invariant.conflict (entry : Pending) :
    Invariant codec { state with shipper := state.shipper.conflict entry } := by
  have cursors : (state.shipper.conflict entry).cursor = state.shipper.cursor ∧
      (state.shipper.conflict entry).knownEnd = state.shipper.knownEnd ∧
      (state.shipper.conflict entry).restartOk = state.shipper.restartOk := by
    simp only [Shipper.conflict]
    split <;> exact ⟨rfl, rfl, rfl⟩
  refine holds.upload cursors.1 cursors.2.1 cursors.2.2 fun generation usable => ?_
  by_cases isCurrent : state.shipper.isCurrent entry.generation
  · have broken : (state.shipper.conflict entry).usable = none := by
      simp only [Shipper.conflict, isCurrent, if_true]
      exact markBroken_usable state.shipper
    rw [broken] at usable
    cases usable
  · simp only [Shipper.conflict, isCurrent, if_false, Bool.false_eq_true] at usable ⊢
    have usableBefore : state.shipper.usable = some generation := usable
    have other : generation.id ≠ entry.generation := by
      simpa [Shipper.isCurrent, (usable_eq_some.mp usableBefore).1] using isCurrent
    refine ⟨generation, usableBefore, rfl, rfl, rfl, fun _ done queue => ⟨done, ?_⟩⟩
    exact queue.keep fun _ own => by simpa [own] using other

theorem Invariant.publish (current : state.shipper.generation = some generation)
    (kept : ∀ seq, objects generation.id seq = state.objects generation.id seq) :
    Invariant codec { state with
      objects := objects
      shipper := state.shipper.published generation.id } := by
  refine holds.upload rfl rfl rfl fun _ usable => ?_
  obtain ⟨afterEq, notBroken⟩ := usable_eq_some.mp usable
  simp only [published, dropPendingExcept, current, map_some, some.injEq] at afterEq
  subst afterEq
  refine ⟨generation, usable_eq_some.mpr ⟨current, notBroken⟩, rfl, rfl, rfl,
    fun _ done queue => ⟨done, ?_⟩⟩
  exact (queue.other_objects kept).keep fun _ own => by simpa using own

theorem Invariant.step {after : State} {event : Event}
    (harmless : CheckpointFailsHarmlessly state event) (step : Step codec state event after) :
    Invariant codec after := by
  cases step with
  | commit writes => exact holds.commit writes
  | @land entry sent absent =>
    refine holds.upload rfl rfl rfl fun generation usable =>
      ⟨generation, usable, rfl, rfl, rfl, fun bytes done queue => ⟨done, ?_⟩⟩
    exact queue.put (queue.flying entry sent)
  | begin _ idle => exact holds.phase (congrArg Phase.held idle) rfl rfl
  | captureFailsEarly phase | startFails phase | uploadDone phase | publishFails phase =>
    exact holds.phase (congrArg Phase.held phase) rfl rfl
  | captureFailsLate phase _ _ effect =>
    exact holds.failedCheckpoint (congrArg Phase.held phase) effect harmless
  | capture phase readEq _ effect => exact holds.capture (congrArg Phase.held phase) readEq effect
  | queue _ phase =>
    refine holds.queue phase ?_ ?_
    · split <;> rfl
    · split
      · intro
        assumption
      · intro rotates
        cases rotates
  | copyFails =>
    refine ⟨fun generation usable => ?_, fun rotates => by cases rotates⟩
    rw [markBroken_usable] at usable
    cases usable
  | start _ _ _ phase fresh => exact holds.start phase fresh
  | dropSuperseded _ front superseded => exact holds.dropSuperseded front superseded
  | @putStored _ entry _ phase front current absent =>
    refine holds.shipped front (by simp [Objects.put]) fun id bytes done queue => ?_
    exact queue.put (front_known front queue)
  | putRepeated _ front _ same =>
    exact holds.shipped front same fun _ _ _ queue => queue
  | @putConflicts _ entry _ phase front current taken =>
    exact (holds.conflict entry).phase (congrArg Phase.held phase) rfl rfl
  | @putFails _ entry _ phase front current =>
    have flown : Invariant codec { state with inFlight := entry :: state.inFlight } :=
      holds.upload rfl rfl rfl fun generation usable =>
        ⟨generation, usable, rfl, rfl, rfl, fun _ done queue =>
          ⟨done, { queue with
            flying := forall_mem_cons.mpr ⟨front_known front queue, queue.flying⟩ }⟩⟩
    exact flown.phase (congrArg Phase.held phase) rfl rfl
  | publishNothing phase =>
    exact holds.phase (congrArg Phase.held phase) (after_held _) (after_rotating _)
  | publish phase current _ kept =>
    exact (holds.publish current kept).phase (congrArg Phase.held phase) (after_held _)
      (after_rotating _)

end

end Addons.WalShippingInvariant
