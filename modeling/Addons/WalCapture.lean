import Addons.WalReading
import Addons.WalShipper

/-!
# Capturing committed frames

SQLite's side of the WAL, and where a shipper stands in the sequence of all committed
frames.
-/

namespace Addons.WalCapture

open ByteOrder WalFormat WalReading WalShipper List Option

def walHeader (wal : Option (List UInt8)) : Option Header :=
  wal.bind fileHeader

/-- The WAL file holds exactly the log `frames` under one of the given salts; an
empty log may also be a file without a header, or none. -/
def WalHolds (wal : Option (List UInt8)) (frames : List Frame) (salts : List Pair) : Prop :=
  (walHeader wal = none ∧ frames = []) ∨
    ∃ file header last, wal = some file ∧ HoldsLog file header frames last ∧
      header.salt ∈ salts

/-- The database as SQLite keeps it. `committed` lists the frames of all committed
transactions in order. The current log starts at index `walStart`, the database
file holds the first `backfilled` frames, and `salts` are those used so far. -/
structure Database where
  wal : Option (List UInt8)
  committed : List Frame
  walStart : Nat
  backfilled : Nat
  salts : List Pair
  walStart_le : walStart ≤ backfilled
  backfilled_le : backfilled ≤ committed.length
  holds : WalHolds wal (committed.drop walStart) salts

namespace Database

/-- A transaction is written. It is appended to the current log, or, once every
committed frame is in the database file, starts a new log with new salts. A
rolled-back or unfinished transaction commits no frames. -/
inductive Commits (frames : List Frame) (database after : Database) : Prop where
  | append {file newFile : List UInt8} {header : Header} {last : Cursor}
      (wal : database.wal = some file) (found : fileHeader file = some header)
      (chain : Chain file header.start (database.committed.drop database.walStart) last)
      (newWal : after.wal = some newFile)
      (agree : file.take last.offset = newFile.take last.offset)
      (long : last.offset ≤ newFile.length)
      (committed : after.committed = database.committed ++ frames)
      (walStart : after.walStart = database.walStart)
      (backfilled : after.backfilled = database.backfilled)
      (salts : after.salts = database.salts)
  | restart {header : Header}
      (folded : database.backfilled = database.committed.length)
      (newWal : walHeader after.wal = some header)
      (newSalt : header.salt ∉ database.salts)
      (committed : after.committed = database.committed ++ frames)
      (walStart : after.walStart = database.committed.length)
      (backfilled : after.backfilled = database.backfilled)
      (salts : after.salts = header.salt :: database.salts)

/-- A checkpoint folds every frame into the database file and truncates the WAL. -/
structure Truncates (database after : Database) : Prop where
  wal : walHeader after.wal = none
  committed : after.committed = database.committed
  walStart : after.walStart = database.committed.length
  backfilled : after.backfilled = database.committed.length
  salts : after.salts = database.salts

/-- A checkpoint folds further frames into the database file and leaves the WAL. -/
structure Folds (database after : Database) : Prop where
  wal : after.wal = database.wal
  committed : after.committed = database.committed
  walStart : after.walStart = database.walStart
  backfilled : database.backfilled ≤ after.backfilled
  salts : after.salts = database.salts

/-- A restart of the WAL now would not drop a committed frame from `position` on. -/
def RestartSafe (database : Database) (position : Nat) : Prop :=
  database.backfilled ≤ position ∨ database.backfilled < database.committed.length

end Database

open Database

/-- Exactly the first `position` committed frames were taken. The cursor is unset
and the current log unread, or it stands inside the current log, or it belongs to
a log that is gone. Where a reset would go unnoticed, no unread frame can be
dropped by a restart. -/
inductive ReadAt (database : Database) :
    Option Cursor → Option Cursor → Bool → Nat → Prop where
  | fresh {restartOk : Bool} (safe : database.RestartSafe database.walStart) :
      ReadAt database none none restartOk database.walStart
  | inside {file : List UInt8} {header : Header} {before after : List Frame}
      {cursor last : Cursor} {knownEnd : Option Cursor} {restartOk : Bool}
      (wal : database.wal = some file)
      (log : database.committed.drop database.walStart = before ++ after)
      (holdsLog : HoldsLog file header (before ++ after) last)
      (reached : Chain file header.start before cursor)
      (boundary : KnownBoundary file header (before ++ after) knownEnd)
      (safe : restartOk = true → database.RestartSafe (database.walStart + before.length)) :
      ReadAt database (some cursor) knownEnd restartOk (database.walStart + before.length)
  | stale {cursor : Cursor} {knownEnd : Option Cursor} {restartOk : Bool} {position : Nat}
      (used : cursor.salt ∈ database.salts)
      (gone : ∀ header ∈ walHeader database.wal, header.salt ≠ cursor.salt)
      (bound : position ≤ database.committed.length)
      (safe : restartOk = true →
        position = database.walStart ∧ database.RestartSafe position) :
      ReadAt database (some cursor) knownEnd restartOk position

/-- Captured batches carry these frames, packed as `encode_segment` wants them. -/
structure BatchesHold (batches : List (UInt32 × List Frame)) (frames : List Frame) :
    Prop where
  frames_eq : batches.flatMap Prod.snd = frames
  valid : ∀ batch ∈ batches, validPageSize batch.1 = true ∧
    ∀ frame ∈ batch.2, frame.pgno ≠ 0

structure Took (database : Database) (position : Nat) (state : CaptureRead)
    (frames : List Frame) : Prop where
  batches : BatchesHold state.batches frames
  next : database.committed.drop position =
    frames ++ database.committed.drop (position + frames.length)
  readAt : ReadAt database state.cursor state.knownEnd state.restartOk
    (position + frames.length)
  complete : state.complete = true → position + frames.length = database.committed.length
  incomplete : state.complete = false → state.restartOk = false ∧ state.cursor.isSome
  current : ∀ cursor ∈ state.cursor, ∃ header ∈ walHeader database.wal,
    header.salt = cursor.salt

variable {database : Database} {position : Nat} {header : Header} {state : CaptureRead}

theorem ReadAt.bound {cursor knownEnd : Option Cursor} {restartOk : Bool}
    (readAt : ReadAt database cursor knownEnd restartOk position) :
    position ≤ database.committed.length := by
  have startLe := database.walStart_le.trans database.backfilled_le
  cases readAt with
  | fresh => exact startLe
  | inside _ log =>
    have total := congrArg List.length log
    simp only [length_drop, length_append] at total
    omega
  | stale _ _ bound => exact bound

/-- The pass that reads frames out of a log from where the cursor stands. -/
private theorem captureRead_of_holdsLog {file : List UInt8}
    {before after : List Frame} {start last : Cursor} (wal : database.wal = some file)
    (log : database.committed.drop database.walStart = before ++ after)
    (holdsLog : HoldsLog file header (before ++ after) last)
    (reached : Chain file header.start before start)
    (resumes : state.cursor = some start ∨ state.cursor = none ∧ before = [])
    (boundary : KnownBoundary file header (before ++ after) state.knownEnd)
    (safe : state.restartOk →
      database.RestartSafe (database.walStart + before.length))
    (untouched : state.batches = [] ∧ state.taken = 0 ∧ state.complete = false) :
    ∃ read frames, captureRead database.wal state = .ok (read, false) ∧
      read.reset = state.reset ∧
      Took database (database.walStart + before.length) read frames := by
  obtain ⟨noBatches, nothingTaken, notComplete⟩ := untouched
  obtain ⟨front, rest, middle, afterEq, chain, stopped, readEq⟩ :=
    holdsLog.readCommitted_eq reached resumes boundary segmentFrameBytes
  have nextEq : database.committed.drop (database.walStart + before.length) =
      front ++ database.committed.drop (database.walStart + before.length + front.length) := by
    have unread : database.committed.drop (database.walStart + before.length) = front ++ rest := by
      rw [← drop_drop, log, drop_left, afterEq]
    rw [← @List.drop_drop _ front.length, unread, drop_left]
  have boundaryEnd : KnownBoundary file header ((before ++ front) ++ rest) (some last) := by
    rintro cursor ⟨⟩ -
    exact ⟨before ++ after, [], by simp [afterEq], holdsLog.chain⟩
  have logEq : database.committed.drop database.walStart = (before ++ front) ++ rest := by
    rw [log, afterEq, append_assoc]
  have holdsEq : HoldsLog file header ((before ++ front) ++ rest) last := by
    rw [append_assoc, ← afterEq]
    exact holdsLog
  have lengthEq : database.committed.length =
      database.walStart + before.length + front.length + rest.length := by
    have total := congrArg List.length logEq
    simp only [length_drop, length_append] at total
    have := database.walStart_le.trans database.backfilled_le
    omega
  have positionEq : database.walStart + before.length + front.length =
      database.walStart + (before ++ front).length := by
    rw [length_append, Nat.add_assoc]
  have current : ∃ header ∈ walHeader database.wal, header.salt = middle.salt :=
    ⟨header, by simp [walHeader, wal, holdsLog.header_eq], chain.sameLog.1.symm⟩
  rcases eq_or_ne front [] with rfl | nonempty
  · have restEmpty : rest = [] := by
      rcases stopped with empty | full
      · exact empty
      · simp [segmentFrameBytes] at full
    refine ⟨{ state with cursor := some middle, knownEnd := some last, complete := true },
      [], ?_, rfl, ?_⟩
    · simp [captureRead, wal, readEq, restEmpty]
    · refine ⟨⟨by simp [noBatches], by simp [noBatches]⟩, nextEq, ?_, ?_, by simp, ?_⟩
      · rw [positionEq]
        exact .inside wal logEq holdsEq chain boundaryEnd (by simpa using safe)
      · simp [lengthEq, restEmpty]
      · simpa using current
  · refine ⟨{ state with
        cursor := some middle
        knownEnd := some last
        restartOk := false
        taken := front.length * middle.pageSize.toNat
        batches := [(middle.pageSize, front)]
        complete := decide (rest = []) }, front, ?_, rfl, ?_⟩
    · rcases eq_or_ne rest [] with restEmpty | restFull
      · simp [captureRead, wal, readEq, nonempty, noBatches, nothingTaken, restEmpty]
      · have full : captureBytes ≤ front.length * middle.pageSize.toNat := by
          rw [chain.sameLog.2.1]
          exact stopped.resolve_left restFull
        simp [captureRead, wal, readEq, nonempty, noBatches, nothingTaken, restFull,
          notComplete, full]
    · have pages : ∀ frame ∈ front, frame.pgno ≠ 0 := fun frame member =>
        (chain.wellFormed frame (mem_append_right before member)).1
      have pageSizeOk : validPageSize middle.pageSize := by
        rw [chain.sameLog.2.1]
        exact fileHeader_pageSize holdsLog.header_eq
      refine ⟨⟨by simp, by simpa using ⟨pageSizeOk, pages⟩⟩, nextEq, ?_, ?_, by simp, ?_⟩
      · rw [positionEq]
        exact .inside wal logEq holdsEq chain boundaryEnd (by simp)
      · simp only [decide_eq_true_eq]
        rintro rfl
        simp [lengthEq]
      · simpa using current

theorem readCommitted_of_gone {wal : Option (List UInt8)} {cursor : Cursor}
    (gone : ∀ header ∈ walHeader wal, header.salt ≠ cursor.salt) (limit : Nat)
    (knownEnd : Option Cursor) :
    ∃ why, readCommitted wal (some cursor) limit knownEnd = .ok (.reset why) := by
  cases wal with
  | none => exact ⟨_, rfl⟩
  | some file =>
    cases headerEq : fileHeader file with
    | none => exact ⟨"the wal file was truncated", by simp [readCommitted, headerEq]⟩
    | some header =>
      have other : cursor.salt ≠ header.salt :=
        (gone header (by simp [walHeader, headerEq])).symm
      exact ⟨"the wal restarted with new salts",
        by simp [readCommitted, headerEq, resumeAt, other]⟩

/-- The pass over a log that no cursor has entered. -/
private theorem captureRead_of_fresh
    (cursorEq : state.cursor = none) (knownEq : state.knownEnd = none)
    (safe : database.RestartSafe database.walStart)
    (untouched : state.batches = [] ∧ state.taken = 0 ∧ state.complete = false) :
    ∃ read frames, captureRead database.wal state = .ok (read, false) ∧
      read.reset = state.reset ∧ Took database database.walStart read frames := by
  rcases database.holds with ⟨noHeader, empty⟩ | ⟨file, _, _, wal, holdsLog, -⟩
  · have endEq : database.walStart = database.committed.length := by
      have := drop_eq_nil_iff.mp empty
      have := database.walStart_le.trans database.backfilled_le
      omega
    refine ⟨{ state with cursor := none, knownEnd := none, complete := true }, [], ?_, rfl, ?_⟩
    · have readEq : readCommitted database.wal none segmentFrameBytes none = .ok noFrames := by
        cases walEq : database.wal with
        | none => rfl
        | some file =>
          have headerEq : fileHeader file = none := by simpa [walHeader, walEq] using noHeader
          simp [readCommitted, headerEq]
      simp [captureRead, cursorEq, knownEq, readEq, noFrames]
    · refine ⟨⟨by simp [untouched.1], by simp [untouched.1]⟩, by simp, ?_, ?_, by simp,
        by simp⟩
      · exact .fresh safe
      · simp [endEq]
  · exact captureRead_of_holdsLog wal rfl holdsLog (.nil _) (.inr ⟨cursorEq, rfl⟩)
      (by simp [KnownBoundary, knownEq]) (fun _ => safe) untouched

/-- The read loop takes the frames that follow the position, or finds that the log
is gone. Two passes are enough for it. -/
theorem captureLoop_eq
    (readAt : ReadAt database state.cursor state.knownEnd state.restartOk position)
    (untouched : state.batches = [] ∧ state.taken = 0 ∧ state.complete = false)
    (noReset : state.reset = none) :
    ∃ read, (∀ extra, captureLoop database.wal (capturePasses + extra) state = .ok read) ∧
      (read.reset ≠ none ∨
        read.reset = none ∧ ∃ frames, Took database position read frames) := by
  have passes (extra : Nat) : capturePasses + extra = (extra + 1) + 1 := by
    simp only [capturePasses]
    omega
  simp only [passes]
  generalize cursorEq : state.cursor = cursor at readAt
  generalize knownEq : state.knownEnd = knownEnd at readAt
  generalize restartEq : state.restartOk = restartOk at readAt
  cases readAt with
  | fresh safe =>
    obtain ⟨read, frames, passEq, resetEq, took⟩ :=
      captureRead_of_fresh cursorEq knownEq safe untouched
    refine ⟨read, fun extra => by simp [captureLoop, passEq], .inr ⟨?_, frames, took⟩⟩
    rw [resetEq, noReset]
  | inside wal log holdsLog reached boundary safe =>
    obtain ⟨read, frames, passEq, resetEq, took⟩ :=
      captureRead_of_holdsLog wal log holdsLog reached (.inl cursorEq) (knownEq ▸ boundary)
        (restartEq ▸ safe) untouched
    refine ⟨read, fun extra => by simp [captureLoop, passEq], .inr ⟨?_, frames, took⟩⟩
    rw [resetEq, noReset]
  | stale _ gone _ safe =>
    obtain ⟨why, readEq⟩ := readCommitted_of_gone gone segmentFrameBytes state.knownEnd
    cases restartOk with
    | false =>
      refine ⟨{ state with reset := some why, cursor := none, knownEnd := none }, fun _ => ?_,
        .inl (by simp)⟩
      simp [captureLoop, captureRead, cursorEq, readEq, restartEq]
    | true =>
      have passEq : captureRead database.wal state = .ok
          ({ state with cursor := none, knownEnd := none, restartOk := false }, true) := by
        simp [captureRead, cursorEq, readEq, restartEq]
      obtain ⟨positionEq, restartSafe⟩ := safe rfl
      rw [positionEq] at restartSafe ⊢
      obtain ⟨read, frames, secondEq, resetEq, took⟩ :=
        @captureRead_of_fresh database
          { state with cursor := none, knownEnd := none, restartOk := false }
          rfl rfl restartSafe untouched
      refine ⟨read, fun _ => ?_, .inr ⟨resetEq.trans noReset, frames, took⟩⟩
      simp only [captureLoop, passEq, secondEq]

theorem Database.salt_used
    (found : walHeader database.wal = some header) : header.salt ∈ database.salts := by
  rcases database.holds with ⟨noHeader, -⟩ | ⟨_, _, _, wal, holdsLog, used⟩
  · rw [noHeader] at found
    cases found
  · rw [wal, walHeader, bind_some, holdsLog.header_eq] at found
    cases found
    exact used

namespace ReadAt

variable {database after : Database} {cursor : Cursor} {cursors knownEnd : Option Cursor}
  {restartOk : Bool} {position : Nat}

theorem salt_used (readAt : ReadAt database (some cursor) knownEnd restartOk position) :
    cursor.salt ∈ database.salts := by
  cases readAt with
  | inside wal _ holdsLog reached =>
    rw [reached.sameLog.1]
    exact Database.salt_used (by rw [wal, walHeader, bind_some, holdsLog.header_eq])
  | stale used => exact used

section

variable (readAt : ReadAt database cursors knownEnd restartOk position)
include readAt

theorem restartSafe (unnoticed : cursors = none ∨ restartOk) : database.RestartSafe position := by
  cases readAt with
  | fresh safe => exact safe
  | inside _ _ _ _ _ safe => exact safe (by simpa using unnoticed)
  | stale _ _ _ safe => exact (safe (by simpa using unnoticed)).2

theorem folds (checkpoint : database.Folds after)
    (safeAfter : cursors = none ∨ restartOk → after.RestartSafe position) :
    ReadAt after cursors knownEnd restartOk position := by
  obtain ⟨wal, committed, walStart, -, salts⟩ := checkpoint
  cases readAt with
  | fresh =>
    rw [← walStart] at safeAfter ⊢
    exact .fresh (safeAfter (.inl rfl))
  | inside walEq log holdsLog reached boundary =>
    rw [← walStart] at safeAfter log ⊢
    rw [← committed] at log
    exact .inside (wal.trans walEq) log holdsLog reached boundary (fun ok => safeAfter (.inr ok))
  | stale _ _ _ safe =>
    refine .stale (by rwa [salts]) (by rwa [wal]) (by rwa [committed]) (fun ok => ?_)
    exact ⟨(safe ok).1.trans walStart.symm, safeAfter (.inr ok)⟩

theorem truncates (checkpoint : database.Truncates after)
    (allTaken : cursors = none ∨ restartOk → position = database.committed.length) :
    ReadAt after cursors knownEnd restartOk position := by
  have bound := readAt.bound
  obtain ⟨wal, committed, walStart, backfilled, salts⟩ := checkpoint
  have safeEnd : after.RestartSafe database.committed.length := .inl backfilled.le
  cases cursors with
  | none =>
    have positionEq : position = after.walStart := (allTaken (.inl rfl)).trans walStart.symm
    cases readAt with
    | fresh =>
      rw [positionEq]
      exact .fresh (walStart ▸ safeEnd)
  | some =>
    refine .stale (salts ▸ readAt.salt_used) (by simp [wal]) (committed ▸ bound) (fun ok => ?_)
    have positionEq := allTaken (.inr ok)
    exact ⟨positionEq.trans walStart.symm, positionEq ▸ safeEnd⟩

theorem arm (current : ∀ cursor ∈ cursors, ∃ header ∈ walHeader database.wal,
      header.salt = cursor.salt) (safe : database.RestartSafe position) :
    ReadAt database cursors knownEnd true position := by
  cases readAt with
  | fresh safe => exact .fresh safe
  | inside wal log holdsLog reached boundary _ =>
    exact .inside wal log holdsLog reached boundary (fun _ => safe)
  | stale _ gone _ _ =>
    obtain ⟨header, found, same⟩ := current _ rfl
    exact absurd same (gone header found)

end

variable {frames : List Frame}

private theorem restartSafe_append {position : Nat} (safe : database.RestartSafe position)
    (committed : after.committed = database.committed ++ frames)
    (backfilled : after.backfilled = database.backfilled) : after.RestartSafe position := by
  simp only [RestartSafe, committed, backfilled, length_append] at safe ⊢
  omega

private theorem commits_append {file newFile : List UInt8} {header : Header} {last : Cursor}
    (readAt : ReadAt database cursors knownEnd restartOk position)
    (wal : database.wal = some file) (found : fileHeader file = some header)
    (chain : Chain file header.start (database.committed.drop database.walStart) last)
    (newWal : after.wal = some newFile) (agree : file.take last.offset = newFile.take last.offset)
    (long : last.offset ≤ newFile.length)
    (committed : after.committed = database.committed ++ frames)
    (walStart : after.walStart = database.walStart)
    (backfilled : after.backfilled = database.backfilled) (salts : after.salts = database.salts) :
    ReadAt after cursors knownEnd restartOk position := by
  have startLe := database.walStart_le.trans database.backfilled_le
  have headerLe : walHeaderLen ≤ last.offset := by
    rw [chain.offset]
    exact Nat.le_add_right _ _
  have insideFile : last.offset ≤ file.length := by
    rcases eq_or_ne (database.committed.drop database.walStart) [] with empty | nonempty
    · simpa [chain.offset, empty] using fileHeader_inside found
    · exact chain.inside nonempty
  have newFound : fileHeader newFile = some header := by
    rw [← fileHeader_congr agree headerLe insideFile long, found]
  have moves {before rest : List Frame} {cursor : Cursor}
      (log : database.committed.drop database.walStart = before ++ rest)
      (reached : Chain file header.start before cursor) :
      Chain newFile header.start before cursor := by
    rw [log] at chain
    obtain ⟨_, first, second⟩ := chain.split
    have sameEnd := first.deterministic reached
    subst sameEnd
    exact reached.congr agree (second.offset ▸ Nat.le_add_right _ _) insideFile long
  have newLog : after.committed.drop after.walStart =
      database.committed.drop database.walStart ++ frames := by
    rw [committed, walStart, drop_append_of_le_length startLe]
  cases readAt with
  | fresh safe =>
    rw [← walStart] at safe ⊢
    exact .fresh (restartSafe_append safe committed backfilled)
  | @inside file' header' before rest cursor last' knownEnd restartOk wal' log holdsLog reached
      boundary safe =>
      rw [wal] at wal'
      cases wal'
      have sameHeader := holdsLog.header_eq.symm.trans found
      cases sameHeader
      rcases after.holds with ⟨noHeader, -⟩ | ⟨other, _, _, newWal', newHolds, -⟩
      · rw [newWal, walHeader, bind_some, newFound] at noHeader
        cases noHeader
      · rw [newWal] at newWal'
        cases newWal'
        have sameNew := newHolds.header_eq.symm.trans newFound
        cases sameNew
        rw [newLog, log, append_assoc] at newHolds
        rw [← walStart] at safe ⊢
        refine .inside newWal ?_ newHolds (moves log reached) ?_
          (fun ok => restartSafe_append (safe ok) committed backfilled)
        · rw [newLog, log, append_assoc]
        · intro known member salt
          obtain ⟨front, back, logEq, stands⟩ := boundary known member salt
          refine ⟨front, back ++ frames, ?_, moves (log.trans logEq) stands⟩
          rw [← append_assoc, logEq, append_assoc]
  | stale used gone _ safe =>
    refine .stale (salts ▸ used) ?_ ?_ (fun ok => ?_)
    · intro _ otherFound
      rw [newWal, walHeader, bind_some, newFound] at otherFound
      cases otherFound
      exact gone header (by rw [wal, walHeader, bind_some, found]; rfl)
    · rw [committed, length_append]
      omega
    · exact ⟨(safe ok).1.trans walStart.symm, restartSafe_append (safe ok).2 committed backfilled⟩

/-- Writing a transaction keeps the position: an append leaves the read part of the
log in place, and a restart drops only frames that were taken or is noticed. -/
theorem commits (readAt : ReadAt database cursors knownEnd restartOk position)
    (commit : database.Commits frames after) :
    ReadAt after cursors knownEnd restartOk position := by
  cases commit with
  | append wal found chain newWal agree long committed walStart backfilled salts =>
    exact commits_append readAt wal found chain newWal agree long committed walStart
      backfilled salts
  | @restart header folded newWal newSalt committed walStart backfilled salts =>
    have bound := readAt.bound
    have safe := readAt.restartSafe
    have atEnd (unnoticed : cursors = none ∨ restartOk) : position = database.committed.length := by
      have := safe unnoticed
      simp only [RestartSafe] at this
      omega
    have safeEnd : after.RestartSafe database.committed.length :=
      .inl (backfilled.trans folded).le
    cases cursors with
    | none =>
      have positionEq := (atEnd (.inl rfl)).trans walStart.symm
      cases readAt with
      | fresh =>
        rw [positionEq]
        exact .fresh (walStart ▸ safeEnd)
    | some =>
      refine .stale ?_ ?_ ?_ (fun ok => ?_)
      · rw [salts]
        exact mem_cons_of_mem _ readAt.salt_used
      · intro _ otherFound
        rw [newWal] at otherFound
        cases otherFound
        exact fun same => newSalt (same ▸ readAt.salt_used)
      · rw [committed, length_append]
        omega
      · have positionEq := atEnd (.inr ok)
        exact ⟨positionEq.trans walStart.symm, positionEq ▸ safeEnd⟩

end ReadAt

end Addons.WalCapture
