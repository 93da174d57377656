import Addons.WalSegments
import Addons.WalReading
import Mathlib.Data.List.DropRight

/-!
# Writing a log and reading it in pieces

SQLite's writer: a header, the frames with their cumulative checksums, and a tail of zeros
where the file was extended. A log is read while it grows, every read resumed where the one
before it stopped.
-/

namespace Addons.WalWriting

open ByteOrder WalFormat WalReading WalSegments List

def word (value : UInt32) : List UInt8 :=
  toBeBytes 4 value.toNat

def words (values : List UInt32) : List UInt8 :=
  values.flatMap word

/-- The part of a WAL header that its checksum covers. -/
def headerPrefix (salt : Pair) (pageSize : UInt32) : List UInt8 :=
  words [walMagicBe, walVersion, pageSize, 0, salt.1, salt.2]

def headerSum (salt : Pair) (pageSize : UInt32) : Pair :=
  checksum true (headerPrefix salt pageSize) (0, 0)

def writeHeader (salt : Pair) (pageSize : UInt32) : List UInt8 :=
  words [walMagicBe, walVersion, pageSize, 0, salt.1, salt.2,
    (headerSum salt pageSize).1, (headerSum salt pageSize).2]

def headerOf (salt : Pair) (pageSize : UInt32) : Header where
  salt := salt
  checksum := headerSum salt pageSize
  bigEndian := true
  pageSize := pageSize

def frameSum (cursor : Cursor) (frame : Frame) : Pair :=
  checksum cursor.bigEndian frame.page
    (checksum cursor.bigEndian (words [frame.pgno, frame.commit]) cursor.checksum)

def writeFrame (cursor : Cursor) (frame : Frame) : List UInt8 :=
  words [frame.pgno, frame.commit, cursor.salt.1, cursor.salt.2,
    (frameSum cursor frame).1, (frameSum cursor frame).2] ++ frame.page

def afterFrame (cursor : Cursor) (frame : Frame) : Cursor :=
  { cursor with
    offset := cursor.offset + cursor.frameLen
    checksum := frameSum cursor frame }

def writeFrames : Cursor → List Frame → List UInt8
  | _, [] => []
  | cursor, frame :: frames =>
    writeFrame cursor frame ++ writeFrames (afterFrame cursor frame) frames

def afterFrames : Cursor → List Frame → Cursor
  | cursor, [] => cursor
  | cursor, frame :: frames => afterFrames (afterFrame cursor frame) frames

/-- A WAL file with these frames and `tail` zero bytes after them. -/
def writeLog (salt : Pair) (pageSize : UInt32) (frames : List Frame) (tail : Nat) :
    List UInt8 :=
  writeHeader salt pageSize ++ writeFrames (headerOf salt pageSize).start frames ++
    List.replicate tail 0

/-- A frame as SQLite can write it to a log of this page size. -/
def Writable (pageSize : UInt32) (frame : Frame) : Prop :=
  frame.pgno ≠ 0 ∧ frame.page.length = pageSize.toNat

@[simp]
theorem words_length (values : List UInt32) : (words values).length = 4 * values.length := by
  induction values with
  | nil => rfl
  | cons _ _ ih =>
    simp only [words, flatMap_cons, length_append, length_cons] at ih ⊢
    rw [ih, word, toBeBytes_length]
    omega

theorem be32_words {values : List UInt32} {index : Nat} {value : UInt32}
    (found : values[index]? = some value) (rest : List UInt8) :
    be32 (words values ++ rest) (4 * index) = value := by
  obtain ⟨inside, rfl⟩ := List.getElem?_eq_some_iff.mp found
  have shape : words values ++ rest = words (values.take index) ++
      toBeBytes 4 values[index].toNat ++ (words (values.drop (index + 1)) ++ rest) := by
    have valuesEq : values.take index ++ values[index] :: values.drop (index + 1) = values := by
      rw [← drop_eq_getElem_cons inside, take_append_drop]
    calc words values ++ rest
        = words (values.take index ++ values[index] :: values.drop (index + 1)) ++ rest := by
          rw [valuesEq]
      _ = _ := by
          simp only [words, flatMap_append, flatMap_cons, append_assoc]
          rfl
  rw [shape]
  refine be32_middle ?_
  rw [words_length, length_take, Nat.min_eq_left inside.le]

theorem writeHeader_length (salt : Pair) (pageSize : UInt32) :
    (writeHeader salt pageSize).length = walHeaderLen := by
  simp [writeHeader, walHeaderLen]

variable {salt : Pair} {pageSize : UInt32}

theorem parseHeader_writeHeader (valid : validPageSize pageSize) :
    parseHeader (writeHeader salt pageSize) = some (headerOf salt pageSize) := by
  have read {index : Nat} {value : UInt32} (found : [walMagicBe, walVersion, pageSize, 0,
      salt.1, salt.2, (headerSum salt pageSize).1, (headerSum salt pageSize).2][index]? =
        some value) : be32 (writeHeader salt pageSize) (4 * index) = value := by
    simpa [writeHeader] using be32_words found []
  have magic : be32 (writeHeader salt pageSize) 0 = walMagicBe := @read 0 _ rfl
  have version : be32 (writeHeader salt pageSize) 4 = walVersion := @read 1 _ rfl
  have size : be32 (writeHeader salt pageSize) 8 = pageSize := @read 2 _ rfl
  have salt1 : be32 (writeHeader salt pageSize) 16 = salt.1 := @read 4 _ rfl
  have salt2 : be32 (writeHeader salt pageSize) 20 = salt.2 := @read 5 _ rfl
  have sum1 : be32 (writeHeader salt pageSize) 24 = (headerSum salt pageSize).1 :=
    @read 6 _ rfl
  have sum2 : be32 (writeHeader salt pageSize) 28 = (headerSum salt pageSize).2 :=
    @read 7 _ rfl
  have covered : (writeHeader salt pageSize).take 24 = headerPrefix salt pageSize := by
    have split : writeHeader salt pageSize = headerPrefix salt pageSize ++
        words [(headerSum salt pageSize).1, (headerSum salt pageSize).2] := by
      simp [writeHeader, headerPrefix, words]
    rw [split, take_left' (by simp [headerPrefix])]
  simp only [parseHeader, magic, version, size, salt1, salt2, sum1, sum2, covered, valid]
  simp [magicBigEndian, walMagicBe, walMagicLe, headerOf, headerSum]

variable {cursor : Cursor} {frame : Frame}

theorem writeFrame_length (writable : Writable cursor.pageSize frame) :
    (writeFrame cursor frame).length = cursor.frameLen := by
  simp [writeFrame, Cursor.frameLen, frameHeaderLen, writable.2]

theorem bufferFrame_writeFrame (cursor : Cursor) (frame : Frame) :
    bufferFrame (writeFrame cursor frame) = frame := by
  have pgno : be32 (writeFrame cursor frame) 0 = frame.pgno :=
    @be32_words _ 0 _ rfl frame.page
  have commit : be32 (writeFrame cursor frame) 4 = frame.commit :=
    @be32_words _ 1 _ rfl frame.page
  have page : (writeFrame cursor frame).drop frameHeaderLen = frame.page :=
    drop_left' (by simp [frameHeaderLen])
  rw [bufferFrame, pgno, commit, page]

theorem nextFrame_writeFrame (writable : Writable cursor.pageSize frame) :
    nextFrame (writeFrame cursor frame) cursor = some (afterFrame cursor frame) := by
  have read {index : Nat} {value : UInt32} (found : [frame.pgno, frame.commit, cursor.salt.1,
      cursor.salt.2, (frameSum cursor frame).1, (frameSum cursor frame).2][index]? =
        some value) : be32 (writeFrame cursor frame) (4 * index) = value :=
    be32_words found frame.page
  have pgno : be32 (writeFrame cursor frame) 0 = frame.pgno := @read 0 _ rfl
  have salt1 : be32 (writeFrame cursor frame) 8 = cursor.salt.1 := @read 2 _ rfl
  have salt2 : be32 (writeFrame cursor frame) 12 = cursor.salt.2 := @read 3 _ rfl
  have sum1 : be32 (writeFrame cursor frame) 16 = (frameSum cursor frame).1 := @read 4 _ rfl
  have sum2 : be32 (writeFrame cursor frame) 20 = (frameSum cursor frame).2 := @read 5 _ rfl
  have covered : (writeFrame cursor frame).take 8 = words [frame.pgno, frame.commit] := by
    have split : writeFrame cursor frame = words [frame.pgno, frame.commit] ++
        (words [cursor.salt.1, cursor.salt.2, (frameSum cursor frame).1,
          (frameSum cursor frame).2] ++ frame.page) := by
      simp [writeFrame, words]
    rw [split, take_left' (by simp)]
  have page : (writeFrame cursor frame).drop frameHeaderLen = frame.page :=
    drop_left' (by simp [frameHeaderLen])
  simp only [nextFrame, pgno, salt1, salt2, sum1, sum2, covered, page, writable.1,
    writeFrame_length writable]
  simp [afterFrame, frameSum]

variable {front : List UInt8}

theorem frameAt_writeFrame (writable : Writable cursor.pageSize frame)
    (startEq : front.length = cursor.offset) (rest : List UInt8) :
    frameAt (front ++ writeFrame cursor frame ++ rest) cursor =
      some (frame, afterFrame cursor frame) := by
  have lengthEq := writeFrame_length writable
  have inside : cursor.offset + cursor.frameLen ≤
      (front ++ writeFrame cursor frame ++ rest).length := by
    simp only [length_append]
    omega
  rw [frameAt, if_pos inside, slice_middle startEq lengthEq, nextFrame_writeFrame writable,
    Option.map_some, bufferFrame_writeFrame]

variable {frames : List Frame}

theorem chain_writeFrames (writable : ∀ frame ∈ frames, Writable cursor.pageSize frame)
    (startEq : front.length = cursor.offset) (rest : List UInt8) :
    Chain (front ++ writeFrames cursor frames ++ rest) cursor frames
      (afterFrames cursor frames) := by
  induction frames generalizing cursor front with
  | nil => exact .nil cursor
  | cons frame frames ih =>
    obtain ⟨headWritable, tailWritable⟩ := forall_mem_cons.mp writable
    have shape : front ++ writeFrames cursor (frame :: frames) ++ rest =
        front ++ writeFrame cursor frame ++
          (writeFrames (afterFrame cursor frame) frames ++ rest) := by
      simp [writeFrames]
    have shape' : front ++ writeFrames cursor (frame :: frames) ++ rest =
        (front ++ writeFrame cursor frame) ++
          writeFrames (afterFrame cursor frame) frames ++ rest := by
      simp [writeFrames]
    have head : frameAt (front ++ writeFrames cursor (frame :: frames) ++ rest) cursor =
        some (frame, afterFrame cursor frame) := by
      rw [shape]
      exact frameAt_writeFrame headWritable startEq _
    refine .cons head ?_
    rw [shape']
    refine ih tailWritable ?_
    rw [length_append, writeFrame_length headWritable, startEq]
    rfl

theorem frameAt_zeros (startEq : front.length = cursor.offset) (tail : Nat) :
    frameAt (front ++ List.replicate tail 0) cursor = none := by
  by_cases inside : cursor.offset + cursor.frameLen ≤ (front ++ replicate tail 0).length
  · have zeros : slice (front ++ replicate tail 0) cursor.offset cursor.frameLen =
        replicate cursor.frameLen 0 := by
      simp only [length_append, length_replicate] at inside
      rw [slice_append_right startEq.le, startEq, Nat.sub_self, slice, drop_zero,
        take_replicate, Nat.min_eq_left (by omega)]
    have pageZero : be32 (replicate cursor.frameLen 0) 0 = 0 := by
      have four : (replicate cursor.frameLen (0 : UInt8)).take 4 = [0, 0, 0, 0] := by
        have long : 4 ≤ cursor.frameLen := by
          simp only [Cursor.frameLen, frameHeaderLen]
          omega
        rw [take_replicate, Nat.min_eq_left long]
        rfl
      simp [be32, slice, four, fromBeBytes]
    rw [frameAt, if_pos inside, zeros, nextFrame, if_pos (Or.inr pageZero), Option.map_none]
  · rw [frameAt, if_neg inside]

theorem writeFrames_length (writable : ∀ frame ∈ frames, Writable cursor.pageSize frame) :
    cursor.offset + (writeFrames cursor frames).length = (afterFrames cursor frames).offset := by
  induction frames generalizing cursor with
  | nil => rfl
  | cons frame _ ih =>
    obtain ⟨headWritable, tailWritable⟩ := forall_mem_cons.mp writable
    have step := @ih (afterFrame cursor frame) tailWritable
    rw [writeFrames, length_append, writeFrame_length headWritable, ← Nat.add_assoc]
    exact step

theorem writeLog_holdsLog (valid : validPageSize pageSize)
    (writable : ∀ frame ∈ frames, Writable pageSize frame)
    (ends : EndsOnCommit frames) (tail : Nat) :
    HoldsLog (writeLog salt pageSize frames tail) (headerOf salt pageSize) frames
      (afterFrames (headerOf salt pageSize).start frames) where
  header_eq := by
    have long : walHeaderLen ≤ (writeLog salt pageSize frames tail).length := by
      simp only [writeLog, length_append, writeHeader_length]
      omega
    have head : (writeLog salt pageSize frames tail).take walHeaderLen =
        writeHeader salt pageSize := by
      rw [writeLog, append_assoc, take_left' (writeHeader_length salt pageSize)]
    rw [fileHeader, if_pos long, head, parseHeader_writeHeader valid]
  chain := chain_writeFrames writable (writeHeader_length salt pageSize) _
  ends := ends
  noCommit := by
    intro more last chain
    have stops : frameAt (writeLog salt pageSize frames tail)
        (afterFrames (headerOf salt pageSize).start frames) = none := by
      refine frameAt_zeros ?_ tail
      rw [length_append, writeHeader_length]
      exact @writeFrames_length (headerOf salt pageSize).start frames writable
    cases chain with
    | nil => simp
    | cons head =>
      rw [stops] at head
      cases head

end Addons.WalWriting

namespace Addons.WalReading

open ByteOrder WalFormat List

section Frames

variable (file : List UInt8) (header : Header)

def frameBytes (index : Nat) : List UInt8 :=
  slice file (walHeaderLen + index * header.start.frameLen) header.start.frameLen

/-- The cumulative checksum of the file: of its header up to the checksum there, and of each of its
first frames the page number, the commit mark and the page. -/
def cumulativeSum : Nat → Pair
  | 0 => checksum header.bigEndian (file.take 24) (0, 0)
  | count + 1 =>
    checksum header.bigEndian ((frameBytes file header count).drop frameHeaderLen)
      (checksum header.bigEndian ((frameBytes file header count).take 8) (cumulativeSum count))

/-- The frame is all there, is for a page, has the salts of the header, and carries the cumulative
checksum. -/
def validFrame (index : Nat) : Bool :=
  let bytes := frameBytes file header index
  walHeaderLen + (index + 1) * header.start.frameLen ≤ file.length ∧ be32 bytes 0 ≠ 0 ∧
    (be32 bytes 8, be32 bytes 12) = header.salt ∧
    (be32 bytes 16, be32 bytes 20) = cumulativeSum file header (index + 1)

/-- The valid frames among `count` frames from an index on, up to the first that is not valid. -/
def validFrames (index count : Nat) : List Frame :=
  ((range' index count).takeWhile (validFrame file header)).map fun index =>
    bufferFrame (frameBytes file header index)

/-- The longest front of valid frames that ends in a commit frame. -/
def committedFrames : List Frame :=
  (validFrames file header 0 file.length).rdropWhile fun frame => frame.commit = 0

/-- The cursor before the frame with this index. -/
def cursorAt (index : Nat) : Cursor :=
  { header.start with
    offset := walHeaderLen + index * header.start.frameLen
    checksum := cumulativeSum file header index }

end Frames

/-- Read the contents that a file has one after another, until a read is complete. The end
of each read is the next one's `knownEnd`, unless it is not kept. -/
def readPieces (limit : Nat) (keepEnd : Bool) : List (List UInt8) → Option Cursor →
    Option Cursor → List (List UInt8 × Except Error WalRead)
  | [], _, _ => []
  | file :: files, cursor, known =>
    match readCommitted (some file) cursor limit known with
    | .ok (.frames frames next false stop) =>
      (file, .ok (.frames frames next false stop)) ::
        readPieces limit keepEnd files next (if keepEnd then stop else none)
    | read => [(file, read)]

def pieceFrames : List UInt8 × Except Error WalRead → List Frame
  | (_, .ok (.frames frames _ _ _)) => frames
  | _ => []

def pieceComplete : List UInt8 × Except Error WalRead → Bool
  | (_, .ok (.frames _ _ complete _)) => complete
  | _ => false

def lastContent (file : List UInt8) (reads : List (List UInt8 × Except Error WalRead)) :
    List UInt8 :=
  reads.foldl (fun _ read => read.1) file

variable {file grown : List UInt8} {header : Header} {cursor last : Cursor}
  {frames log taken : List Frame}

theorem cursorAt_zero (found : fileHeader file = some header) :
    cursorAt file header 0 = header.start := by
  simp only [fileHeader] at found
  split at found
  · simp only [parseHeader] at found
    split at found
    · cases found
    · split_ifs at found with _ _ sum
      cases found
      have covered : (file.take walHeaderLen).take 24 = file.take 24 := by
        rw [take_take, Nat.min_eq_left (by decide)]
      rw [not_not, covered] at sum
      simpa [cursorAt, cumulativeSum, Header.start] using sum
  · cases found

theorem nextFrame_cursorAt {index : Nat}
    (inside : walHeaderLen + (index + 1) * header.start.frameLen ≤ file.length) :
    nextFrame (frameBytes file header index) (cursorAt file header index) =
      if validFrame file header index then some (cursorAt file header (index + 1)) else none := by
  have ended : walHeaderLen + index * header.start.frameLen + header.start.frameLen =
      walHeaderLen + (index + 1) * header.start.frameLen := by
    rw [Nat.succ_mul, Nat.add_assoc]
  have length : (frameBytes file header index).length = header.start.frameLen :=
    slice_length (ended ▸ inside)
  by_cases valid : validFrame file header index
  · obtain ⟨-, paged, salts, sums⟩ := of_decide_eq_true valid
    have trusted : ¬ ((be32 (frameBytes file header index) 8,
        be32 (frameBytes file header index) 12) ≠ (cursorAt file header index).salt ∨
          be32 (frameBytes file header index) 0 = 0) := not_or.mpr ⟨not_not.mpr salts, paged⟩
    rw [if_pos valid, nextFrame, if_neg trusted]
    simp only [cursorAt, ended, length]
    exact if_neg (not_not.mpr sums.symm)
  · rw [if_neg valid, nextFrame]
    split
    · rfl
    next trusted =>
      obtain ⟨salts, paged⟩ := not_or.mp trusted
      refine if_pos fun sums => valid (decide_eq_true ⟨inside, paged, not_not.mp salts, sums.symm⟩)

/-- The reader takes a frame where it is valid. -/
theorem frameAt_cursorAt (file : List UInt8) (header : Header) (index : Nat) :
    frameAt file (cursorAt file header index) =
      if validFrame file header index then
        some (bufferFrame (frameBytes file header index), cursorAt file header (index + 1))
      else none := by
  have ended : (cursorAt file header index).offset + (cursorAt file header index).frameLen =
      walHeaderLen + (index + 1) * header.start.frameLen := by
    rw [Nat.succ_mul, ← Nat.add_assoc]
    rfl
  rw [frameAt, ended]
  by_cases inside : walHeaderLen + (index + 1) * header.start.frameLen ≤ file.length
  · rw [if_pos inside]
    change (nextFrame (frameBytes file header index) _).map _ = _
    rw [nextFrame_cursorAt inside]
    split
    · rfl
    · rfl
  · simp [inside, validFrame]

theorem chain_validFrames (file : List UInt8) (header : Header) (index count : Nat) :
    ∃ stop, Chain file (cursorAt file header index) (validFrames file header index count) stop := by
  induction count generalizing index with
  | zero => exact ⟨_, .nil _⟩
  | succ _ ih =>
    have head := frameAt_cursorAt file header index
    simp only [validFrames, range'_succ, takeWhile_cons]
    split_ifs with valid
    · obtain ⟨stop, tail⟩ := ih (index + 1)
      exact ⟨stop, .cons (by rw [head, if_pos valid]) tail⟩
    · exact ⟨_, .nil _⟩

theorem Chain.prefix_validFrames {index count : Nat} (chain : Chain file cursor frames last)
    (starts : cursor = cursorAt file header index) (enough : frames.length ≤ count) :
    frames <+: validFrames file header index count := by
  induction chain generalizing index count with
  | nil => exact nil_prefix
  | cons head _ ih =>
    cases count with
    | zero => simp at enough
    | succ =>
      rw [starts, frameAt_cursorAt] at head
      split_ifs at head with valid
      cases head
      simp only [validFrames, range'_succ, takeWhile_cons, if_pos valid, map_cons]
      exact cons_prefix_cons.mpr ⟨rfl, ih rfl (by simpa using enough)⟩

theorem holdsLog_committedFrames (found : fileHeader file = some header) :
    ∃ last, HoldsLog file header (committedFrames file header) last := by
  obtain ⟨_, chain⟩ := chain_validFrames file header 0 file.length
  have parts : committedFrames file header ++ (validFrames file header 0 file.length).rtakeWhile
      (fun frame => frame.commit = 0) = validFrames file header 0 file.length :=
    rdropWhile_append_rtakeWhile
  rw [← parts, cursorAt_zero found] at chain
  obtain ⟨last, first, _⟩ := chain.split
  refine ⟨last, found, first, ?_, ?_⟩
  · intro frame member
    obtain ⟨nonempty, rfl⟩ := mem_getLast?_eq_getLast member
    have ends := rdropWhile_last_not (fun frame : Frame => decide (frame.commit = 0))
      (validFrames file header 0 file.length) nonempty
    exact fun zero => ends (decide_eq_true zero)
  · intro _ _ later _ member
    have whole := first.append later
    have front := whole.prefix_validFrames (cursorAt_zero found).symm whole.length_le
    rw [← parts, prefix_append_right_inj] at front
    have zero := mem_rtakeWhile_imp (front.subset member)
    exact of_decide_eq_true zero

theorem HoldsLog.prefix_of_chain (holds : HoldsLog file header log last)
    (chain : Chain file header.start frames cursor) (ends : EndsOnCommit frames) :
    frames <+: log := by
  have starts := (cursorAt_zero holds.header_eq).symm
  have first := chain.prefix_validFrames starts chain.length_le
  have second := holds.chain.prefix_validFrames starts holds.chain.length_le
  rcases prefix_or_prefix_of_prefix first second with shorter | ⟨rest, rfl⟩
  · exact shorter
  · rcases eq_nil_or_concat rest with rfl | ⟨_, frame, rfl⟩
    · simp
    · obtain ⟨_, before, after⟩ := chain.split
      rw [before.deterministic holds.chain] at after
      have zero := holds.noCommit _ _ after frame (by simp)
      exact absurd zero (ends frame (by simp))

theorem Chain.grow (chain : Chain file cursor frames last) (inside : last.offset ≤ file.length)
    (grows : file <+: grown) : Chain grown cursor frames last := by
  obtain ⟨_, rfl⟩ := grows
  exact chain.congr (by rw [take_length, take_left]) inside le_rfl (by simp)

structure Resumes (file : List UInt8) (header : Header) (taken : List Frame)
    (cursor known : Option Cursor) : Prop where
  header_eq : fileHeader file = some header
  starts : ∃ start, Chain file header.start taken start ∧
    (cursor = some start ∨ cursor = none ∧ taken = [])
  front : taken <+: committedFrames file header
  boundary : KnownBoundary file header (committedFrames file header) known

variable {next known : Option Cursor} {limit : Nat}

section

variable (resumes : Resumes file header taken next known)
include resumes

theorem Resumes.forget : Resumes file header taken next none :=
  { resumes with boundary := by intro _ member; cases member }

theorem Resumes.grow (grows : file <+: grown) : Resumes grown header taken next known := by
  obtain ⟨_, holds⟩ := holdsLog_committedFrames resumes.header_eq
  have inside {before after : List Frame} {cursor : Cursor}
      (split : committedFrames file header = before ++ after)
      (chain : Chain file header.start before cursor) : Chain grown header.start before cursor :=
    chain.grow ((split ▸ holds).offset_inside chain) grows
  have found : fileHeader grown = some header := by
    rw [← resumes.header_eq]
    obtain ⟨rest, rfl⟩ := grows
    exact (fileHeader_congr (by rw [take_length, take_left])
      (fileHeader_inside resumes.header_eq) le_rfl (by simp)).symm
  obtain ⟨_, holdsGrown⟩ := holdsLog_committedFrames found
  have longer : committedFrames file header <+: committedFrames grown header :=
    holdsGrown.prefix_of_chain (inside (append_nil _).symm holds.chain) holds.ends
  refine ⟨found, ?_, resumes.front.trans longer, ?_⟩
  · obtain ⟨start, chain, stands⟩ := resumes.starts
    obtain ⟨_, restEq⟩ := resumes.front
    exact ⟨start, inside restEq.symm chain, stands⟩
  · intro cursor member salt
    obtain ⟨before, after, split, chain⟩ := resumes.boundary cursor member salt
    obtain ⟨more, moreEq⟩ := longer
    refine ⟨before, after ++ more, ?_, inside split chain⟩
    rw [← moreEq, split, append_assoc]

/-- One read takes the frames that follow, and more than none unless it is complete. -/
theorem Resumes.read (positive : 0 < limit) :
    ∃ front stop complete last,
      readCommitted (some file) next limit known = .ok
    (.frames front (some stop) complete (some last)) ∧
      readCommitted (some file) next limit known = readCommitted (some file) next limit none ∧
      (complete → taken ++ front = committedFrames file header) ∧
      (complete = false → front ≠ []) ∧
      Resumes file header (taken ++ front) (some stop) (some last) := by
  obtain ⟨last, holds⟩ := holdsLog_committedFrames resumes.header_eq
  obtain ⟨_, reached, resumed⟩ := resumes.starts
  obtain ⟨_, afterEq⟩ := resumes.front
  have boundary := resumes.boundary
  rw [← afterEq] at holds boundary
  obtain ⟨front, rest, stop, split, chain, stopped, readEq⟩ :=
    holds.readCommitted_eq reached resumed boundary limit
  refine ⟨front, stop, decide (rest = []), last, readEq, ?_, ?_, ?_, ?_⟩
  · exact holds.readCommitted_known reached resumed boundary limit
  · intro complete
    rw [← afterEq, split, of_decide_eq_true complete, append_nil]
  · rintro incomplete rfl
    have more := of_decide_eq_false incomplete
    rcases stopped with done | stopped
    · exact more done
    · simp at stopped
      omega
  · refine ⟨resumes.header_eq, ⟨stop, chain, .inl rfl⟩, ?_, ?_⟩
    · rw [← afterEq, split, ← append_assoc]
      exact prefix_append _ _
    · intro _ member _
      cases member
      exact ⟨committedFrames file header, [], by simp, afterEq ▸ holds.chain⟩

end

/-- The pieces are a front of the committed frames of the content read last, and all of
them when a read was complete. Otherwise every content was read and gave a frame. -/
theorem readPieces_run (positive : 0 < limit) (keepEnd : Bool) {files : List (List UInt8)}
    (grows : (file :: files).IsChain (· <+: ·)) (resumes : Resumes file header taken next known)
    {reads : List (List UInt8 × Except Error WalRead)}
    (readsEq : readPieces limit keepEnd files next known = reads) :
    readPieces limit false files next none = reads ∧
      fileHeader (lastContent file reads) = some header ∧
      taken ++ reads.flatMap pieceFrames <+: committedFrames (lastContent file reads) header ∧
      (reads.any pieceComplete →
        taken ++ reads.flatMap pieceFrames = committedFrames (lastContent file reads) header) ∧
      (reads.any pieceComplete = false →
        (file :: files).getLast? = some (lastContent file reads) ∧
          files.length ≤ (reads.flatMap pieceFrames).length) := by
  induction files generalizing file taken next known reads with
  | nil =>
    subst readsEq
    simpa [readPieces, lastContent] using ⟨resumes.header_eq, resumes.front⟩
  | cons grown _ ih =>
    obtain ⟨step, later⟩ := isChain_cons_cons.mp grows
    obtain ⟨front, stop, complete, last, readEq, knownEq, whole, more, resumed⟩ :=
      (resumes.grow step).read positive
    rw [readPieces, readEq] at readsEq
    rw [readPieces, ← knownEq, readEq]
    cases complete with
    | true =>
      subst readsEq
      refine ⟨rfl, resumed.header_eq, ?_, ?_, ?_⟩
      · simpa [pieceFrames, lastContent] using resumed.front
      · intro _
        simpa [pieceFrames, lastContent] using whole rfl
      · simp [pieceComplete]
    | false =>
      subst readsEq
      have resumedAt : Resumes grown header (taken ++ front) (some stop)
          (if keepEnd then some last else none) := by
        cases keepEnd with
        | true => exact resumed
        | false => exact resumed.forget
      obtain ⟨sameReads, found, prefixed, finished, unfinished⟩ := ih later resumedAt rfl
      rw [append_assoc] at prefixed finished
      refine ⟨congrArg _ sameReads, found, prefixed, finished, ?_⟩
      intro incomplete
      obtain ⟨atLast, _⟩ := unfinished incomplete
      have positive := length_pos_iff.mpr (more rfl)
      refine ⟨atLast, ?_⟩
      rw [flatMap_cons, length_append, length_cons]
      simp only [pieceFrames]
      omega

theorem readCommitted_unlimited {unlimited : Nat} (found : fileHeader file = some header)
    (large : file.length < unlimited) :
    ∃ stop last, readCommitted (some file) none unlimited none =
      .ok (.frames (committedFrames file header) stop true last) := by
  obtain ⟨_, holds⟩ := holdsLog_committedFrames found
  rw [← nil_append (committedFrames file header)] at holds
  have unknown : KnownBoundary file header ([] ++ committedFrames file header) none := by
    intro _ member
    cases member
  obtain ⟨front, rest, _, split, chain, stopped, readEq⟩ :=
    holds.readCommitted_eq (.nil _) (.inr ⟨rfl, rfl⟩) unknown unlimited
  have short : front.length * header.pageSize.toNat ≤ file.length := by
    rw [split, ← append_assoc] at holds
    have inside := holds.offset_inside chain
    rw [chain.offset, Cursor.frameLen, Nat.mul_add] at inside
    exact le_trans (by simp only [Header.start, nil_append]; omega) inside
  have none : rest = [] := stopped.resolve_right (by omega)
  rw [none, append_nil] at split
  rw [readEq, none, split]
  exact ⟨_, _, rfl⟩

/-- Reading a growing file in pieces, with or without the known end, gives the committed frames of
the content read last, and is complete after as many reads as there are frames. -/
theorem readPieces_committedFrames {later : List (List UInt8)}
    (found : fileHeader file = some header) (positive : 0 < limit)
    (grows : (file :: later).IsChain (· <+: ·)) {reads : List (List UInt8 × Except Error WalRead)}
    (readsEq : readPieces limit true (file :: later) none none = reads) :
    readPieces limit false (file :: later) none none = reads ∧
      reads.flatMap pieceFrames <+: committedFrames (lastContent file reads) header ∧
      (reads.any pieceComplete = true →
        reads.flatMap pieceFrames = committedFrames (lastContent file reads) header) ∧
      (∀ final ∈ (file :: later).getLast?, (committedFrames final header).length ≤ later.length →
        reads.any pieceComplete = true) ∧
      ∀ unlimited, (lastContent file reads).length < unlimited → ∃ stop last,
        readCommitted (some (lastContent file reads)) none unlimited none =
          .ok (.frames (committedFrames (lastContent file reads) header) stop true last) := by
  have resumes : Resumes file header [] none none :=
    ⟨found, ⟨header.start, .nil _, .inr ⟨rfl, rfl⟩⟩, nil_prefix, by intro _ member; cases member⟩
  obtain ⟨sameReads, foundLast, prefixed, finished, unfinished⟩ := readPieces_run positive true
    (isChain_cons_cons.mpr ⟨prefix_refl file, grows⟩) resumes readsEq
  refine ⟨sameReads, prefixed, finished, ?_, ?_⟩
  · intro _ isLast _
    by_contra incomplete
    obtain ⟨atLast, long⟩ := unfinished (Bool.not_eq_true _ ▸ incomplete)
    rw [getLast?_cons_cons, isLast] at atLast
    cases atLast
    have short := prefixed.length_le
    simp only [nil_append, length_cons] at long short
    omega
  · intro _ large
    exact readCommitted_unlimited foundLast large

def onePageLog (pgno : UInt32) : List UInt8 :=
  WalWriting.writeLog (7, 9) 512 [⟨pgno, 1, List.replicate 512 5⟩] 0

/-- Two transactions, of two frames and of one. -/
def threeFrames : List Frame :=
  [⟨1, 0, replicate 512 5⟩, ⟨2, 2, replicate 512 6⟩, ⟨1, 2, replicate 512 7⟩]

/-- The transactions, with a frame of an older log after them. -/
def reusedLog : List UInt8 :=
  WalWriting.writeLog (7, 9) 512 threeFrames 0 ++
    WalWriting.writeFrame (WalWriting.headerOf (3, 4) 512).start ⟨3, 3, replicate 512 8⟩

/-- When the file is first read the third frame is written only in part. -/
def reusedContents : List (List UInt8) :=
  [reusedLog.take 1300, reusedLog, reusedLog, reusedLog]

theorem readPieces_committedFrames_reused :
    (readPieces 1 true reusedContents none none).flatMap pieceFrames = threeFrames ∧
      committedFrames reusedLog (WalWriting.headerOf (7, 9) 512) = threeFrames := by
  have found : fileHeader (reusedLog.take 1300) = some (WalWriting.headerOf (7, 9) 512) := by
    decide +kernel
  have pieces : (readPieces 1 true reusedContents none none).flatMap pieceFrames = threeFrames := by
    decide +kernel
  have done : (readPieces 1 true reusedContents none none).any pieceComplete := by decide +kernel
  have contentEq : lastContent (reusedLog.take 1300)
      (readPieces 1 true reusedContents none none) = reusedLog := by
    decide +kernel
  have grows : reusedContents.IsChain (· <+: ·) := by simp [reusedContents, take_prefix]
  have whole := (readPieces_committedFrames found Nat.one_pos grows
    (Eq.refl (readPieces 1 true reusedContents none none))).2.2.1 done
  rw [contentEq, pieces] at whole
  exact ⟨pieces, whole.symm⟩

/-- A frame for page 0 is not taken, though its salts and its checksum continue the log. -/
theorem page_zero_is_not_read :
    ∃ header, fileHeader (onePageLog 0) = some header ∧
      (be32 (onePageLog 0) 40, be32 (onePageLog 0) 44) = header.salt ∧
      checksum true ((onePageLog 0).drop 56) (checksum true (slice (onePageLog 0) 32 8)
        header.checksum) = (be32 (onePageLog 0) 48, be32 (onePageLog 0) 52) ∧
      be32 (onePageLog 0) 36 = 1 ∧
      (readPieces 1 true [onePageLog 0] none none).flatMap pieceFrames = [] := by
  refine ⟨WalWriting.headerOf (7, 9) 512, ?_⟩
  decide +kernel

end Addons.WalReading
