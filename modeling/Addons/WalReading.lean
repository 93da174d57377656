import Addons.WalFormat

/-!
# What a read of a live WAL file returns

`Chain` follows valid frames through a file.
-/

namespace Addons.WalReading

open ByteOrder WalFormat List Nat

def frameAt (file : List UInt8) (cursor : Cursor) : Option (Frame × Cursor) :=
  if cursor.offset + cursor.frameLen ≤ file.length then
    (nextFrame (slice file cursor.offset cursor.frameLen) cursor).map fun next =>
      (bufferFrame (slice file cursor.offset cursor.frameLen), next)
  else none

/-- Consecutive valid frames of a file from one cursor to another. -/
inductive Chain (file : List UInt8) : Cursor → List Frame → Cursor → Prop where
  | nil (cursor : Cursor) : Chain file cursor [] cursor
  | cons {cursor next last : Cursor} {frame : Frame} {frames : List Frame}
      (head : frameAt file cursor = some (frame, next))
      (tail : Chain file next frames last) :
      Chain file cursor (frame :: frames) last

def EndsOnCommit (frames : List Frame) : Prop :=
  ∀ frame ∈ frames.getLast?, frame.commit ≠ 0

/-- No valid frame from this cursor on ends a transaction. -/
def NoCommitFrom (file : List UInt8) (cursor : Cursor) : Prop :=
  ∀ frames last, Chain file cursor frames last → ∀ frame ∈ frames, frame.commit = 0

/-- The parts of a cursor that no frame changes. -/
def Cursor.SameLog (first second : Cursor) : Prop :=
  first.salt = second.salt ∧ first.pageSize = second.pageSize ∧
    first.bigEndian = second.bigEndian

variable {cursor next : Cursor}

theorem nextFrame_eq_some {buffer : List UInt8} (valid : nextFrame buffer cursor = some next) :
    Cursor.SameLog next cursor ∧ next.offset = cursor.offset + buffer.length ∧
      (bufferFrame buffer).pgno ≠ 0 := by
  simp only [nextFrame] at valid
  split at valid
  · cases valid
  · rename_i trusted
    split at valid
    · cases valid
    · cases valid
      exact ⟨⟨rfl, rfl, rfl⟩, rfl, fun zero => trusted (Or.inr zero)⟩

variable {file : List UInt8} {frame : Frame}

section

variable (valid : frameAt file cursor = some (frame, next))
include valid

theorem frameAt_eq_some :
    cursor.offset + cursor.frameLen ≤ file.length ∧
      nextFrame (slice file cursor.offset cursor.frameLen) cursor = some next ∧
      bufferFrame (slice file cursor.offset cursor.frameLen) = frame := by
  simp only [frameAt] at valid
  split at valid
  · rename_i inside
    obtain ⟨_, foundEq, pairEq⟩ := Option.map_eq_some_iff.mp valid
    cases pairEq
    exact ⟨inside, foundEq, rfl⟩
  · cases valid

theorem frameAt_sameLog : Cursor.SameLog next cursor :=
  (nextFrame_eq_some (frameAt_eq_some valid).2.1).1

theorem frameAt_offset : next.offset = cursor.offset + cursor.frameLen := by
  obtain ⟨inside, nextEq, -⟩ := frameAt_eq_some valid
  rw [(nextFrame_eq_some nextEq).2.1, slice_length inside]

theorem frameAt_wellFormed : frame.pgno ≠ 0 ∧ frame.page.length = cursor.pageSize.toNat := by
  obtain ⟨inside, nextEq, frameEq⟩ := frameAt_eq_some valid
  subst frameEq
  refine ⟨(nextFrame_eq_some nextEq).2.2, ?_⟩
  have bufferLen := slice_length inside
  change (List.drop _ _).length = _
  rw [length_drop, bufferLen, Cursor.frameLen, Nat.add_sub_cancel_left]

end

theorem frameLen_pos (cursor : Cursor) : 0 < cursor.frameLen := by
  simp only [Cursor.frameLen, frameHeaderLen]
  omega

namespace Chain

variable {file : List UInt8} {cursor middle last : Cursor}
  {frames before after : List Frame}

theorem append (first : Chain file cursor before middle) (second : Chain file middle after last) :
    Chain file cursor (before ++ after) last := by
  induction first with
  | nil => exact second
  | cons head _ ih => exact .cons head (ih second)

theorem split (chain : Chain file cursor (before ++ after) last) :
    ∃ middle, Chain file cursor before middle ∧ Chain file middle after last := by
  induction before generalizing cursor with
  | nil => exact ⟨cursor, .nil cursor, chain⟩
  | cons _ _ ih =>
    cases chain with
    | cons head tail =>
      obtain ⟨middle, first, second⟩ := ih tail
      exact ⟨middle, .cons head first, second⟩

theorem deterministic {other : Cursor} (first : Chain file cursor frames last)
    (second : Chain file cursor frames other) : last = other := by
  induction first with
  | nil => cases second; rfl
  | cons head _ ih =>
    cases second with
    | cons otherHead otherTail =>
      rw [head] at otherHead
      cases otherHead
      exact ih otherTail

section

variable (chain : Chain file cursor frames last)
include chain

theorem sameLog : Cursor.SameLog last cursor := by
  induction chain with
  | nil => exact ⟨rfl, rfl, rfl⟩
  | cons head _ ih =>
    obtain ⟨salt, pageSize, bigEndian⟩ := frameAt_sameLog head
    exact ⟨ih.1.trans salt, ih.2.1.trans pageSize, ih.2.2.trans bigEndian⟩

theorem offset : last.offset = cursor.offset + frames.length * cursor.frameLen := by
  induction chain with
  | nil => simp
  | cons head _ ih =>
    have step := frameAt_offset head
    have sameLen := congrArg (fun size => frameHeaderLen + size.toNat) (frameAt_sameLog head).2.1
    simp only [Cursor.frameLen] at step sameLen ih ⊢
    rw [ih, step, sameLen, length_cons, succ_mul]
    omega

theorem inside (nonempty : frames ≠ []) : last.offset ≤ file.length := by
  induction chain with
  | nil => exact absurd rfl nonempty
  | cons head tail ih =>
    cases tail with
    | nil =>
      rw [frameAt_offset head]
      exact (frameAt_eq_some head).1
    | cons => exact ih (by simp)

theorem length_le : frames.length ≤ file.length := by
  rcases eq_or_ne frames [] with rfl | nonempty
  · simp
  · have bound := chain.inside nonempty
    rw [chain.offset] at bound
    have := Nat.le_mul_of_pos_right frames.length (frameLen_pos cursor)
    omega

theorem wellFormed :
    ∀ frame ∈ frames, frame.pgno ≠ 0 ∧ frame.page.length = cursor.pageSize.toNat := by
  induction chain with
  | nil => simp
  | cons head _ ih =>
    have sameSize := (frameAt_sameLog head).2.1
    rw [sameSize] at ih
    exact forall_mem_cons.mpr ⟨frameAt_wellFormed head, ih⟩

theorem congr {other : List UInt8} {shared : Nat} (agree : file.take shared = other.take shared)
    (reached : last.offset ≤ shared)
    (sharedFile : shared ≤ file.length) (sharedOther : shared ≤ other.length) :
    Chain other cursor frames last := by
  induction chain with
  | nil cursor => exact .nil cursor
  | @cons cursor _ _ _ _ head tail ih =>
    have bound := tail.offset
    have step := frameAt_offset head
    have inside : cursor.offset + cursor.frameLen ≤ shared := by omega
    have sliceEq : slice file cursor.offset cursor.frameLen =
        slice other cursor.offset cursor.frameLen := by
      rw [← slice_take inside, agree, slice_take inside]
    refine .cons ?_ (ih reached)
    rw [← head]
    simp only [frameAt, sliceEq]
    rw [if_pos (inside.trans sharedFile), if_pos (inside.trans sharedOther)]

end

end Chain

variable {endCursor : Cursor}

theorem scanEnd_step (fuel : Nat) (head : frameAt file cursor = some (frame, next)) :
    scanEnd file (fuel + 1) cursor endCursor =
      scanEnd file fuel next (if frame.commit ≠ 0 then next else endCursor) := by
  obtain ⟨inside, nextEq, frameEq⟩ := frameAt_eq_some head
  simp only [scanEnd, if_pos inside, nextEq, ← frameEq, bufferFrame]

theorem scanEnd_of_noCommit (fuel : Nat) (noCommit : NoCommitFrom file cursor) :
    scanEnd file fuel cursor endCursor = endCursor := by
  induction fuel generalizing cursor with
  | zero => rfl
  | succ fuel ih =>
    cases head : frameAt file cursor with
    | none =>
      simp only [frameAt] at head
      simp only [scanEnd]
      split at head
      · rename_i inside
        rw [if_pos inside, Option.map_eq_none_iff.mp head]
      · rename_i outside
        rw [if_neg outside]
    | some pair =>
      obtain ⟨frame, next⟩ := pair
      have zero : frame.commit = 0 :=
        noCommit [frame] next (.cons head (.nil next)) frame (by simp)
      have later : NoCommitFrom file next := fun frames last chain other member =>
        noCommit (frame :: frames) last (.cons head chain) other (by simp [member])
      rw [scanEnd_step fuel head, zero]
      exact ih later

variable {frames : List Frame} {last : Cursor} {length : Nat}

theorem EndsOnCommit.tail (ends : EndsOnCommit (frame :: frames)) : EndsOnCommit frames := by
  intro last member
  refine ends last ?_
  cases frames with
  | nil => simp at member
  | cons => simpa using member

theorem EndsOnCommit.of_append {before after : List Frame} (ends : EndsOnCommit (before ++ after)) :
    EndsOnCommit after := by
  induction before with
  | nil => exact ends
  | cons _ _ ih => exact ih ends.tail

variable {fuel : Nat}

theorem scanEnd_of_chain (chain : Chain file cursor frames last) (enough : frames.length ≤ fuel)
    (ends : EndsOnCommit frames) (noCommit : NoCommitFrom file last) (endCursor : Cursor) :
    scanEnd file fuel cursor endCursor = if frames = [] then endCursor else last := by
  induction chain generalizing fuel endCursor with
  | nil => simpa using scanEnd_of_noCommit fuel noCommit
  | @cons cursor next _ frame _ head tail ih =>
    cases fuel with
    | zero => simp at enough
    | succ fuel =>
      rw [scanEnd_step fuel head, ih (by simpa using enough) ends.tail noCommit]
      cases tail with
      | nil =>
        have commit : frame.commit ≠ 0 := ends frame (by simp)
        simp [commit]
      | cons => simp

/-- Reading towards a boundary takes frames in order, and stops before the
boundary only when the limit is met. -/
theorem readFrames_of_chain (limit : Nat)
    (taken : List Frame) (chain : Chain file cursor frames last) (enough : frames.length ≤ fuel) :
    ∃ front rest middle, frames = front ++ rest ∧ Chain file cursor front middle ∧
      Chain file middle rest last ∧
      (rest = [] ∨ limit ≤ (taken ++ front).length * cursor.pageSize.toNat) ∧
      readFrames file limit last fuel cursor taken = .ok (taken ++ front, middle) := by
  induction chain generalizing fuel taken with
  | nil cursor =>
    refine ⟨[], [], cursor, rfl, .nil cursor, .nil cursor, .inl rfl, ?_⟩
    cases fuel <;> simp [readFrames]
  | @cons cursor next last frame frames head tail ih =>
    cases fuel with
    | zero => simp at enough
    | succ =>
      obtain ⟨inside, nextEq, frameEq⟩ := frameAt_eq_some head
      have ahead : cursor.offset < last.offset := by
        have total := (Chain.cons head tail).offset
        have positive : 0 < (frame :: frames).length * cursor.frameLen :=
          mul_pos (succ_pos _) (frameLen_pos cursor)
        omega
      by_cases more : taken.length * cursor.pageSize.toNat < limit
      · obtain ⟨front, rest, middle, framesEq, first, second, stopped, readEq⟩ :=
          ih (taken ++ [frame]) (by simpa using enough)
        rw [(frameAt_sameLog head).2.1, append_assoc] at stopped
        refine ⟨frame :: front, rest, middle, by rw [framesEq, cons_append],
          .cons head first, second, stopped, ?_⟩
        simp only [readFrames, if_pos (And.intro ahead more), if_pos inside, nextEq,
          frameEq, readEq]
        simp
      · refine ⟨[], frame :: frames, cursor, rfl, .nil cursor, .cons head tail,
          .inr (by simpa using more), ?_⟩
        simp [readFrames, more]

structure HoldsLog (file : List UInt8) (header : Header) (frames : List Frame)
    (last : Cursor) : Prop where
  header_eq : fileHeader file = some header
  chain : Chain file header.start frames last
  ends : EndsOnCommit frames
  noCommit : NoCommitFrom file last

/-- A boundary handed back as `known_end`: nothing, a cursor of another log, or
the end of a transaction of this one. -/
def KnownBoundary (file : List UInt8) (header : Header) (log : List Frame) (known : Option Cursor) :
    Prop :=
  ∀ cursor ∈ known, cursor.salt = header.salt →
    ∃ before after, log = before ++ after ∧ Chain file header.start before cursor

variable {header : Header}

theorem fileHeader_inside (found : fileHeader file = some header) :
    header.start.offset ≤ file.length := by
  simp only [fileHeader] at found
  split at found
  · assumption
  · cases found

theorem fileHeader_pageSize (found : fileHeader file = some header) :
    validPageSize header.pageSize := by
  simp only [fileHeader] at found
  split at found
  · simp only [parseHeader] at found
    split at found
    · cases found
    · split_ifs at found with version pageSize sum
      cases found
      simpa using pageSize
  · cases found

theorem fileHeader_congr {other : List UInt8} {shared : Nat}
    (agree : file.take shared = other.take shared) (covers : walHeaderLen ≤ shared)
    (sharedFile : shared ≤ file.length) (sharedOther : shared ≤ other.length) :
    fileHeader file = fileHeader other := by
  have headEq : file.take walHeaderLen = other.take walHeaderLen := by
    rw [← min_eq_left covers, ← take_take, agree, take_take]
  simp only [fileHeader, headEq]
  rw [if_pos (covers.trans sharedFile), if_pos (covers.trans sharedOther)]

theorem resumeAt_of_sameLog (same : Cursor.SameLog cursor header.start)
    (inside : cursor.offset ≤ length) : resumeAt header length (some cursor) = .ok cursor := by
  obtain ⟨salt, pageSize, bigEndian⟩ := same
  have agrees : ¬(cursor.salt ≠ header.salt ∨ cursor.pageSize ≠ header.pageSize ∨
      cursor.bigEndian ≠ header.bigEndian) := by
    simpa [Header.start] using ⟨salt, pageSize, bigEndian⟩
  simp only [resumeAt, if_neg agrees, if_neg (not_lt.mpr inside)]

namespace HoldsLog

variable {file : List UInt8} {header : Header} {before after : List Frame}
  {start last : Cursor}

section

variable (holds : HoldsLog file header (before ++ after) last)
  (reached : Chain file header.start before start)
include holds reached

theorem chain_after : Chain file start after last := by
  obtain ⟨_, first, second⟩ := holds.chain.split
  rwa [first.deterministic reached] at second

theorem offset_inside : start.offset ≤ file.length := by
  rcases eq_or_ne before [] with rfl | nonempty
  · cases reached
    exact fileHeader_inside holds.header_eq
  · exact reached.inside nonempty

private theorem scanEnd_start : scanEnd file file.length start start = last := by
  have chain := holds.chain_after reached
  rw [scanEnd_of_chain chain chain.length_le holds.ends.of_append holds.noCommit]
  split
  · rename_i empty
    subst empty
    cases chain
    rfl
  · rfl

theorem scanEnd_known {known : Option Cursor}
    (boundary : KnownBoundary file header (before ++ after) known) :
    scanEnd file file.length (scanFrom start file.length known)
      (scanFrom start file.length known) = last := by
  cases known with
  | none => exact holds.scanEnd_start reached
  | some cursor =>
    simp only [scanFrom]
    split
    · rename_i usable
      have salt : cursor.salt = header.salt := usable.1.trans reached.sameLog.1
      obtain ⟨_, _, logEq, stands⟩ := boundary cursor rfl salt
      exact (logEq ▸ holds).scanEnd_start stands
    · exact holds.scanEnd_start reached

variable {cursor known : Option Cursor}
  (resumes : cursor = some start ∨ cursor = none ∧ before = [])
include resumes

theorem resumeAt_eq : resumeAt header file.length cursor = .ok start := by
  rcases resumes with rfl | ⟨rfl, rfl⟩
  · exact resumeAt_of_sameLog reached.sameLog (holds.offset_inside reached)
  · cases reached
    rfl

variable (boundary : KnownBoundary file header (before ++ after) known) (limit : Nat)
include boundary

theorem readCommitted_known :
    readCommitted (some file) cursor limit known = readCommitted (some file) cursor limit none := by
  have unknown : KnownBoundary file header (before ++ after) none := by
    intro _ member
    cases member
  simp only [readCommitted, holds.header_eq, holds.resumeAt_eq reached resumes,
    holds.scanEnd_known reached boundary, holds.scanEnd_known reached unknown]

/-- A read resumed inside the log returns the frames that follow, in order, and
says whether they were all of them. -/
theorem readCommitted_eq :
    ∃ front rest middle, after = front ++ rest ∧
      Chain file header.start (before ++ front) middle ∧
      (rest = [] ∨ limit ≤ front.length * header.pageSize.toNat) ∧
      readCommitted (some file) cursor limit known =
        .ok (.frames front (some middle) (decide (rest = [])) (some last)) := by
  have resume := holds.resumeAt_eq reached resumes
  have chain := holds.chain_after reached
  obtain ⟨front, rest, middle, afterEq, first, second, stopped, readEq⟩ :=
    readFrames_of_chain limit [] chain chain.length_le
  rw [reached.sameLog.2.1] at stopped
  refine ⟨front, rest, middle, afterEq, reached.append first, stopped, ?_⟩
  have completeIff : middle.offset = last.offset ↔ rest = [] := by
    have restLen := second.offset
    have positive := frameLen_pos middle
    constructor
    · intro _
      have zero : rest.length * middle.frameLen = 0 := by omega
      rcases Nat.mul_eq_zero.mp zero with empty | _
      · exact length_eq_zero_iff.mp empty
      · omega
    · rintro rfl
      simpa using restLen.symm
  simp only [readCommitted, holds.header_eq, resume, holds.scanEnd_known reached boundary,
    readEq, nil_append, completeIff]

end

end HoldsLog

end Addons.WalReading
