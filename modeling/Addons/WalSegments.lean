import Addons.WalFormat
import Mathlib.Data.List.Induction
import Mathlib.Tactic.IntervalCases
import Mathlib.Tactic.NormNum

/-!
# The segment format as a whole

Packing and unpacking are inverse to each other on everything the decoder accepts, and the
decoder stays inside its input.
-/

namespace Addons.WalSegments

open ByteOrder WalFormat List

/-- Compression and SHA-256 as the segment format uses them. -/
structure SegmentCodec where
  compress : List UInt8 → Except Error (List UInt8)
  decompress : List UInt8 → Except Error (List UInt8)
  digest : List UInt8 → List UInt8
  digest_length : ∀ bytes, (digest bytes).length = 32
  decompress_compress : ∀ raw packed, compress raw = .ok packed → decompress packed = .ok raw

def storedCodec : SegmentCodec where
  compress := .ok
  decompress := .ok
  digest := fun _ => List.replicate 32 0
  digest_length := by simp
  decompress_compress := by simp

/-- A decoded segment. `firstFrame` is the index of its first frame within its
generation. -/
structure Segment where
  pageSize : UInt32
  firstFrame : UInt64
  frames : List Frame
  deriving DecidableEq, Repr

def segmentMagic : List UInt8 := [0x46, 0x4b, 0x57, 0x41, 0x4c, 0x53, 0x47, 0x31]
def segmentHeaderLen : Nat := 8 + 4 + 8 + 4
def segmentFrameHeaderLen : Nat := 8
def shaLen : Nat := 32

def segmentHeader (pageSize : UInt32) (firstFrame : UInt64) (count : Nat) : List UInt8 :=
  segmentMagic ++ toBeBytes 4 pageSize.toNat ++ toBeBytes 8 firstFrame.toNat ++
    toBeBytes 4 count

def frameBytes (frame : Frame) : List UInt8 :=
  toBeBytes 4 frame.pgno.toNat ++ toBeBytes 4 frame.commit.toNat ++ frame.page

def encodeFrames (pageSize : UInt32) : List Frame → Except Error (List UInt8)
  | [] => .ok []
  | frame :: frames =>
    if frame.page.length ≠ pageSize.toNat then
      .error (.invalid ("frame for page " ++ toString frame.pgno ++ " is " ++
        toString frame.page.length ++ " bytes, want " ++ toString pageSize))
    else (encodeFrames pageSize frames).map (frameBytes frame ++ ·)

/-- Pack frames into a compressed segment whose trailing digest covers
everything before it. -/
def encodeSegment (codec : SegmentCodec) (pageSize : UInt32) (firstFrame : UInt64)
    (frames : List Frame) : Except Error (List UInt8) :=
  if frames = [] then .error (.invalid "segment has no frames")
  else if 2 ^ 32 ≤ frames.length then .error (.invalid "too many frames for one segment")
  else
    match encodeFrames pageSize frames with
    | .error error => .error error
    | .ok packed =>
      let raw := segmentHeader pageSize firstFrame frames.length ++ packed
      codec.compress (raw ++ codec.digest raw)

def decodeFrames (body : List UInt8) (pageSize : UInt32) :
    Nat → Nat → Except Error (List Frame)
  | 0, _ => .ok []
  | count + 1, start =>
    if be32 body start = 0 then .error (.invalid "segment frame for page 0")
    else
      (decodeFrames body pageSize count
        (start + segmentFrameHeaderLen + pageSize.toNat)).map fun frames =>
          { pgno := be32 body start
            commit := be32 body (start + 4)
            page := slice body (start + segmentFrameHeaderLen) pageSize.toNat } :: frames

/-- The segment a body with a matching digest spells. -/
def decodeBody (body : List UInt8) : Except Error Segment :=
  let pageSize := be32 body 8
  let count := (be32 body 20).toNat
  if !validPageSize pageSize then
    .error (.invalid ("segment page size " ++ toString pageSize))
  else if body.length ≠
      segmentHeaderLen + count * (segmentFrameHeaderLen + pageSize.toNat) then
    .error (.invalid "segment length does not match its frame count")
  else
    match decodeFrames body pageSize count segmentHeaderLen with
    | .error error => .error error
    | .ok [] => .error (.invalid "segment has no frames")
    | .ok (frame :: frames) => .ok {
        pageSize := pageSize
        firstFrame := UInt64.ofNat (fromBeBytes (slice body 12 8))
        frames := frame :: frames }

def decodeSegment (codec : SegmentCodec) (bytes : List UInt8) : Except Error Segment :=
  match codec.decompress bytes with
  | .error _ => .error (.invalid "decompress segment")
  | .ok raw =>
    if raw.length < segmentHeaderLen + shaLen ∨ raw.take 8 ≠ segmentMagic then
      .error (.invalid "not a forklift wal segment")
    else
      let body := raw.take (raw.length - shaLen)
      if codec.digest body ≠ raw.drop (raw.length - shaLen) then
        .error (.invalid "segment checksum mismatch")
      else decodeBody body

theorem slice_middle {front word rest : List UInt8} {start count : Nat}
    (startEq : front.length = start) (countEq : word.length = count) :
    slice (front ++ word ++ rest) start count = word := by
  subst startEq countEq
  simp [slice]

theorem be32_middle {front rest : List UInt8} {start : Nat} {value : UInt32}
    (startEq : front.length = start) :
    be32 (front ++ toBeBytes 4 value.toNat ++ rest) start = value := by
  have fits : value.toNat < 256 ^ 4 := value.toNat_lt
  rw [be32, slice_middle startEq (toBeBytes_length 4 _), fromBeBytes_toBeBytes_of_lt fits,
    UInt32.ofNat_toNat]

@[simp]
theorem segmentHeader_length (pageSize : UInt32) (firstFrame : UInt64) (count : Nat) :
    (segmentHeader pageSize firstFrame count).length = segmentHeaderLen := by
  simp [segmentHeader, segmentMagic, segmentHeaderLen]

theorem segmentHeader_pageSize (pageSize : UInt32) (firstFrame : UInt64) (count : Nat)
    (rest : List UInt8) : be32 (segmentHeader pageSize firstFrame count ++ rest) 8 = pageSize := by
  have shape : segmentHeader pageSize firstFrame count ++ rest =
      segmentMagic ++ toBeBytes 4 pageSize.toNat ++
        (toBeBytes 8 firstFrame.toNat ++ toBeBytes 4 count ++ rest) := by
    simp [segmentHeader]
  rw [shape]
  exact be32_middle rfl

theorem segmentHeader_firstFrame (pageSize : UInt32) (firstFrame : UInt64) (count : Nat)
    (rest : List UInt8) :
    UInt64.ofNat (fromBeBytes
      (slice (segmentHeader pageSize firstFrame count ++ rest) 12 8)) = firstFrame := by
  have shape : segmentHeader pageSize firstFrame count ++ rest =
      (segmentMagic ++ toBeBytes 4 pageSize.toNat) ++ toBeBytes 8 firstFrame.toNat ++
        (toBeBytes 4 count ++ rest) := by
    simp [segmentHeader]
  have fits : firstFrame.toNat < 256 ^ 8 := firstFrame.toNat_lt
  rw [shape, slice_middle (by simp [segmentMagic]) (toBeBytes_length 8 _),
    fromBeBytes_toBeBytes_of_lt fits, UInt64.ofNat_toNat]

variable {pageSize : UInt32} {firstFrame : UInt64}

theorem segmentHeader_count {count : Nat} (fits : count < 2 ^ 32) (rest : List UInt8) :
    (be32 (segmentHeader pageSize firstFrame count ++ rest) 20).toNat = count := by
  have word : count = (UInt32.ofNat count).toNat :=
    (UInt32.toNat_ofNat_of_lt' fits).symm
  have shape : segmentHeader pageSize firstFrame count ++ rest =
      (segmentMagic ++ toBeBytes 4 pageSize.toNat ++ toBeBytes 8 firstFrame.toNat) ++
        toBeBytes 4 (UInt32.ofNat count).toNat ++ rest := by
    rw [← word]
    rfl
  rw [shape, be32_middle (by simp [segmentMagic]), ← word]

variable {frames : List Frame} {packed : List UInt8}

theorem encodeFrames_length (encoded : encodeFrames pageSize frames = .ok packed) :
    packed.length = frames.length * (segmentFrameHeaderLen + pageSize.toNat) := by
  induction frames generalizing packed with
  | nil =>
    cases encoded
    simp
  | cons _ frames ih =>
    simp only [encodeFrames] at encoded
    split at encoded
    · cases encoded
    · rename_i sameSize
      cases tailEq : encodeFrames pageSize frames with
      | error => simp [tailEq, Except.map] at encoded
      | ok =>
        simp only [tailEq, Except.map, Except.ok.injEq] at encoded
        subst encoded
        simp only [ne_eq, not_not] at sameSize
        simp only [length_append, frameBytes, toBeBytes_length, ih tailEq,
          length_cons, Nat.succ_mul, sameSize, segmentFrameHeaderLen]
        omega

theorem frameBytes_pgno (frame : Frame) (front rest : List UInt8) :
    be32 (front ++ frameBytes frame ++ rest) front.length = frame.pgno := by
  have shape : front ++ frameBytes frame ++ rest = front ++ toBeBytes 4 frame.pgno.toNat ++
      (toBeBytes 4 frame.commit.toNat ++ frame.page ++ rest) := by
    simp [frameBytes]
  rw [shape]
  exact be32_middle rfl

theorem frameBytes_commit (frame : Frame) (front rest : List UInt8) :
    be32 (front ++ frameBytes frame ++ rest) (front.length + 4) = frame.commit := by
  have shape : front ++ frameBytes frame ++ rest =
      (front ++ toBeBytes 4 frame.pgno.toNat) ++ toBeBytes 4 frame.commit.toNat ++
        (frame.page ++ rest) := by
    simp [frameBytes]
  rw [shape]
  exact be32_middle (by simp)

theorem frameBytes_page {frame : Frame} {size : Nat} (sizeEq : frame.page.length = size)
    (front rest : List UInt8) :
    slice (front ++ frameBytes frame ++ rest) (front.length + segmentFrameHeaderLen) size =
      frame.page := by
  have shape : front ++ frameBytes frame ++ rest =
      (front ++ toBeBytes 4 frame.pgno.toNat ++ toBeBytes 4 frame.commit.toNat) ++
        frame.page ++ rest := by
    simp [frameBytes]
  rw [shape]
  exact slice_middle (by simp [segmentFrameHeaderLen]) sizeEq

theorem decodeFrames_encodeFrames (encoded : encodeFrames pageSize frames = .ok packed)
    (numbered : ∀ frame ∈ frames, frame.pgno ≠ 0) (front : List UInt8) :
    decodeFrames (front ++ packed) pageSize frames.length front.length = .ok frames := by
  induction frames generalizing packed front with
  | nil => rfl
  | cons frame frames ih =>
    obtain ⟨headNumbered, tailNumbered⟩ := forall_mem_cons.mp numbered
    simp only [encodeFrames] at encoded
    split at encoded
    · cases encoded
    · rename_i sameSize
      rw [not_not] at sameSize
      cases tailEq : encodeFrames pageSize frames with
      | error => simp [tailEq, Except.map] at encoded
      | ok =>
        simp only [tailEq, Except.map, Except.ok.injEq] at encoded
        subst encoded
        have tailStart : front.length + segmentFrameHeaderLen + pageSize.toNat =
            (front ++ frameBytes frame).length := by
          simp [frameBytes, sameSize, segmentFrameHeaderLen]
          omega
        rw [← append_assoc, length_cons, decodeFrames, frameBytes_pgno,
          if_neg headNumbered, frameBytes_commit, frameBytes_page sameSize, tailStart,
          ih tailEq tailNumbered]
        rfl

variable {codec : SegmentCodec} {bytes : List UInt8}

theorem encodeSegment_eq_ok (encoded : encodeSegment codec pageSize firstFrame frames = .ok bytes) :
    frames ≠ [] ∧ frames.length < 2 ^ 32 ∧ ∃ packed,
      encodeFrames pageSize frames = .ok packed ∧
      codec.compress (segmentHeader pageSize firstFrame frames.length ++ packed ++
        codec.digest (segmentHeader pageSize firstFrame frames.length ++ packed)) =
          .ok bytes := by
  simp only [encodeSegment] at encoded
  split at encoded
  · cases encoded
  · rename_i nonempty
    split at encoded
    · cases encoded
    · rename_i fits
      cases packedEq : encodeFrames pageSize frames with
      | error => simp [packedEq] at encoded
      | ok packed =>
        simp only [packedEq] at encoded
        exact ⟨nonempty, Nat.not_le.mp fits, packed, rfl, encoded⟩

theorem decodeBody_segmentHeader (pageSizeOk : validPageSize pageSize)
    (numbered : ∀ frame ∈ frames, frame.pgno ≠ 0) (nonempty : frames ≠ [])
    (fits : frames.length < 2 ^ 32) (packedEq : encodeFrames pageSize frames = .ok packed) :
    decodeBody (segmentHeader pageSize firstFrame frames.length ++ packed) =
      .ok ⟨pageSize, firstFrame, frames⟩ := by
  have decoded := decodeFrames_encodeFrames packedEq numbered
    (segmentHeader pageSize firstFrame frames.length)
  rw [segmentHeader_length] at decoded
  have lengthEq : (segmentHeader pageSize firstFrame frames.length ++ packed).length =
      segmentHeaderLen + frames.length * (segmentFrameHeaderLen + pageSize.toNat) := by
    rw [length_append, segmentHeader_length, encodeFrames_length packedEq]
  obtain ⟨frame, others, rfl⟩ := exists_cons_of_ne_nil nonempty
  simp only [decodeBody, segmentHeader_pageSize, pageSizeOk, segmentHeader_count fits, lengthEq,
    decoded, segmentHeader_firstFrame, Bool.not_true, ne_eq, not_true_eq_false,
    Bool.false_eq_true, if_false]

theorem decodeSegment_encodeSegment (pageSizeOk : validPageSize pageSize)
    (numbered : ∀ frame ∈ frames, frame.pgno ≠ 0)
    (encoded : encodeSegment codec pageSize firstFrame frames = .ok bytes) :
    decodeSegment codec bytes = .ok ⟨pageSize, firstFrame, frames⟩ := by
  obtain ⟨nonempty, fits, packed, packedEq, compressed⟩ := encodeSegment_eq_ok encoded
  have bodyDecoded : decodeBody (segmentHeader pageSize firstFrame frames.length ++ packed) =
        .ok ⟨pageSize, firstFrame, frames⟩ :=
    decodeBody_segmentHeader pageSizeOk numbered nonempty fits packedEq
  have bodyLong : segmentHeaderLen ≤
      (segmentHeader pageSize firstFrame frames.length ++ packed).length := by
    rw [length_append, segmentHeader_length]
    omega
  have magic (rest : List UInt8) :
      (segmentHeader pageSize firstFrame frames.length ++ packed ++ rest).take 8 =
        segmentMagic := by
    simp [segmentHeader, segmentMagic]
  generalize segmentHeader pageSize firstFrame frames.length ++ packed = body at *
  have rawLen : (body ++ codec.digest body).length = body.length + shaLen := by
    rw [length_append, codec.digest_length]
    rfl
  have long : ¬((body ++ codec.digest body).length < segmentHeaderLen + shaLen ∨
      (body ++ codec.digest body).take 8 ≠ segmentMagic) := by
    rw [rawLen, magic]
    simp only [ne_eq, not_true_eq_false, or_false]
    omega
  simp only [decodeSegment, codec.decompress_compress _ _ compressed]
  rw [if_neg long, rawLen, Nat.add_sub_cancel, take_left, drop_left,
    if_neg (not_not_intro rfl), bodyDecoded]

open Option Nat

theorem fromBeBytes_append (front : List UInt8) (byte : UInt8) :
    fromBeBytes (front ++ [byte]) = fromBeBytes front * 256 + byte.toNat := by
  simp [fromBeBytes]

theorem fromBeBytes_lt (bytes : List UInt8) : fromBeBytes bytes < 256 ^ bytes.length := by
  induction bytes using List.reverseRecOn with
  | nil => simp [fromBeBytes]
  | append_singleton _ byte =>
    have small := byte.toNat_lt
    rw [fromBeBytes_append, length_append, length_singleton, pow_succ]
    omega

theorem toBeBytes_fromBeBytes (bytes : List UInt8) :
    toBeBytes bytes.length (fromBeBytes bytes) = bytes := by
  induction bytes using List.reverseRecOn with
  | nil => rfl
  | append_singleton front byte ih =>
    have small := byte.toNat_lt
    have high : (fromBeBytes front * 256 + byte.toNat) / 256 = fromBeBytes front := by omega
    have low : UInt8.ofNat (fromBeBytes front * 256 + byte.toNat) = byte := by
      apply UInt8.toNat_inj.mp
      simp only [UInt8.toNat_ofNat']
      omega
    rw [length_append, length_singleton, fromBeBytes_append, toBeBytes, high, ih, low]

variable {body : List UInt8} {start : Nat}

theorem toBeBytes_slice {width : Nat} (inside : start + width ≤ body.length) :
    toBeBytes width (fromBeBytes (slice body start width)) = slice body start width ∧
      fromBeBytes (slice body start width) < 256 ^ width := by
  have lengthEq := slice_length inside
  have bytes := toBeBytes_fromBeBytes (slice body start width)
  have bound := fromBeBytes_lt (slice body start width)
  rw [lengthEq] at bytes bound
  exact ⟨bytes, bound⟩

theorem toBeBytes_be32 (inside : start + 4 ≤ body.length) :
    toBeBytes 4 (be32 body start).toNat = slice body start 4 := by
  obtain ⟨bytes, bound⟩ := toBeBytes_slice inside
  rw [be32, UInt32.toNat_ofNat_of_lt' bound, bytes]

theorem slice_append_drop (body : List UInt8) (start count : Nat) :
    slice body start count ++ body.drop (start + count) = body.drop start := by
  rw [slice, ← drop_drop, take_append_drop]

variable {pageSize : UInt32} {frames : List Frame} {count : Nat}

/-- The frames that are read from the rest of a body pack to that rest. -/
theorem encodeFrames_decodeFrames (decoded : decodeFrames body pageSize count start = .ok frames)
    (lengthEq : body.length = start + count * (segmentFrameHeaderLen + pageSize.toNat)) :
    encodeFrames pageSize frames = .ok (body.drop start) ∧ frames.length = count ∧
      ∀ frame ∈ frames, frame.pgno ≠ 0 := by
  induction count generalizing start frames with
  | zero =>
    cases decoded
    rw [drop_eq_nil_of_le (by omega)]
    exact ⟨rfl, rfl, by simp⟩
  | succ count ih =>
    rw [succ_mul] at lengthEq
    simp only [decodeFrames] at decoded
    split at decoded
    · cases decoded
    · rename_i numbered
      cases restEq : decodeFrames body pageSize count
          (start + segmentFrameHeaderLen + pageSize.toNat) with
      | error => simp [restEq, Except.map] at decoded
      | ok =>
        simp only [restEq, Except.map, Except.ok.injEq] at decoded
        subst decoded
        obtain ⟨packed, lengthRest, numberedRest⟩ := ih restEq (by omega)
        have headerLen : segmentFrameHeaderLen = 4 + 4 := rfl
        have sized : (slice body (start + segmentFrameHeaderLen) pageSize.toNat).length =
            pageSize.toNat := slice_length (by omega)
        refine ⟨?_, by rw [length_cons, lengthRest],
          forall_mem_cons.mpr ⟨numbered, numberedRest⟩⟩
        rw [encodeFrames, if_neg (not_not_intro sized), packed, Except.map, frameBytes,
          toBeBytes_be32 (by omega), toBeBytes_be32 (by omega), append_assoc,
          slice_append_drop, headerLen, ← add_assoc, append_assoc, slice_append_drop,
          slice_append_drop]

variable {segment : Segment}

theorem decodeBody_eq_ok (decoded : decodeBody body = .ok segment)
    (inside : segmentHeaderLen ≤ body.length) (magic : body.take 8 = segmentMagic) :
    ∃ packed, encodeFrames segment.pageSize segment.frames = .ok packed ∧
      segment.frames ≠ [] ∧ segment.frames.length < 2 ^ 32 ∧
      body = segmentHeader segment.pageSize segment.firstFrame segment.frames.length ++ packed := by
  have headerLen : segmentHeaderLen = 8 + 4 + 8 + 4 := rfl
  simp only [decodeBody] at decoded
  split_ifs at decoded with size lengthEq
  rw [not_not] at lengthEq
  split at decoded
  · cases decoded
  · cases decoded
  · rename_i frame frames framesEq
    cases decoded
    obtain ⟨packed, count, -⟩ := encodeFrames_decodeFrames framesEq lengthEq
    have word : 12 + 8 ≤ body.length := by omega
    obtain ⟨bytes, bound⟩ := toBeBytes_slice word
    refine ⟨_, packed, by simp, count ▸ (be32 body 20).toNat_lt, ?_⟩
    rw [segmentHeader, count, toBeBytes_be32 (by omega), toBeBytes_be32 (by omega),
      UInt64.toNat_ofNat_of_lt' bound, bytes, ← magic, headerLen]
    simp only [append_assoc]
    rw [slice_append_drop body 20, slice_append_drop body 12, slice_append_drop, take_append_drop]

variable {codec : SegmentCodec} {bytes : List UInt8}

/-- What the decoder accepts, spelled out. -/
theorem decodeSegment_eq_ok (decoded : decodeSegment codec bytes = .ok segment) :
    ∃ packed, encodeFrames segment.pageSize segment.frames = .ok packed ∧
      segment.frames ≠ [] ∧ segment.frames.length < 2 ^ 32 ∧
      codec.decompress bytes = .ok
        (segmentHeader segment.pageSize segment.firstFrame segment.frames.length ++ packed ++
          codec.digest (segmentHeader segment.pageSize segment.firstFrame
            segment.frames.length ++ packed)) := by
  simp only [decodeSegment] at decoded
  split at decoded
  · cases decoded
  · rename_i raw rawEq
    split_ifs at decoded with short digest
    rw [not_or, not_lt, not_not] at short
    obtain ⟨_, magic⟩ := short
    rw [not_not] at digest
    obtain ⟨body, bodyEq⟩ : ∃ body, raw.take (raw.length - shaLen) = body := ⟨_, rfl⟩
    have inside : segmentHeaderLen ≤ body.length := by
      rw [← bodyEq, length_take]
      omega
    have whole : raw = body ++ codec.digest body := by
      rw [← bodyEq, digest, take_append_drop]
    rw [bodyEq] at decoded
    obtain ⟨packed, packedEq, nonempty, fits, header⟩ := decodeBody_eq_ok decoded inside (by
      rw [← magic, whole, take_append_of_le_length (inside.trans' (by decide))])
    exact ⟨packed, packedEq, nonempty, fits, by rw [← header, ← whole, rawEq]⟩

/-- A number that has to fit a machine word. -/
def usize (value : Nat) : Option Nat := if value < 2 ^ 64 then some value else none

/-- The bytes between two positions, which have to be inside. -/
def readRange (bytes : List UInt8) (start stop : Nat) : Option (List UInt8) :=
  if start ≤ stop ∧ stop ≤ bytes.length then some (slice bytes start (stop - start)) else none

def readWord (bytes : List UInt8) (start : Nat) : Option UInt32 :=
  (readRange bytes start (start + 4)).map fun word => UInt32.ofNat (fromBeBytes word)

def runFrames (body : List UInt8) (per : Nat) : Nat → Nat → Option (Except Error (List Frame))
  | 0, _ => some (.ok [])
  | count + 1, index => do
    let start ← usize (segmentHeaderLen + (← usize (index * per)))
    let pgno ← readWord body start
    if pgno = 0 then some (.error (.invalid "segment frame for page 0"))
    else
      let commit ← readWord body (start + 4)
      let page ← readRange body (start + segmentFrameHeaderLen) (start + per)
      let rest ← runFrames body per count (index + 1)
      some (rest.map (⟨pgno, commit, page⟩ :: ·))

def runBody (body : List UInt8) : Option (Except Error Segment) := do
  let pageSize ← readWord body 8
  if !validPageSize pageSize then
    some (.error (.invalid ("segment page size " ++ toString pageSize)))
  else
    let firstFrame ← readRange body 12 20
    let count ← readWord body 20
    let per ← usize (segmentFrameHeaderLen + pageSize.toNat)
    if body.length ≠ (← usize (segmentHeaderLen + (← usize (count.toNat * per)))) then
      some (.error (.invalid "segment length does not match its frame count"))
    else
      match ← runFrames body per count.toNat 0 with
      | .error error => some (.error error)
      | .ok [] => some (.error (.invalid "segment has no frames"))
      | .ok (frame :: frames) =>
        some (.ok ⟨pageSize, UInt64.ofNat (fromBeBytes firstFrame), frame :: frames⟩)

/-- Decode a segment; `none` is a panic. -/
def runSegment (codec : SegmentCodec) (bytes : List UInt8) : Option (Except Error Segment) :=
  match codec.decompress bytes with
  | .error _ => some (.error (.invalid "decompress segment"))
  | .ok raw =>
    if raw.length < segmentHeaderLen + shaLen then
      some (.error (.invalid "not a forklift wal segment"))
    else do
      if (← readRange raw 0 8) ≠ segmentMagic then
        some (.error (.invalid "not a forklift wal segment"))
      else
        let body ← readRange raw 0 (raw.length - shaLen)
        if codec.digest body ≠ (← readRange raw (raw.length - shaLen) raw.length) then
          some (.error (.invalid "segment checksum mismatch"))
        else runBody body

theorem readRange_eq {stop : Nat} (ordered : start ≤ stop) (inside : stop ≤ bytes.length) :
    readRange bytes start stop = some (slice bytes start (stop - start)) :=
  if_pos ⟨ordered, inside⟩

theorem readWord_eq (inside : start + 4 ≤ bytes.length) :
    readWord bytes start = some (be32 bytes start) := by
  rw [readWord, readRange_eq (by omega) inside, Nat.add_sub_cancel_left]
  rfl

theorem usize_eq {value : Nat} (fits : value < 2 ^ 64) : usize value = some value := if_pos fits

theorem runFrames_eq {per index : Nat} (perEq : per = segmentFrameHeaderLen + pageSize.toNat)
    (lengthEq : body.length = segmentHeaderLen + (index + count) * per)
    (fits : body.length < 2 ^ 64) :
    runFrames body per count index =
      some (decodeFrames body pageSize count (segmentHeaderLen + index * per)) := by
  induction count generalizing index with
  | zero => rfl
  | succ count ih =>
    have product : (index + (count + 1)) * per = index * per + count * per + per := by ring
    have next : segmentHeaderLen + index * per + segmentFrameHeaderLen + pageSize.toNat =
        segmentHeaderLen + (index + 1) * per := by
      rw [perEq]
      ring
    have frameLen : segmentFrameHeaderLen = 8 := rfl
    rw [runFrames, decodeFrames, usize_eq (by omega), bind_eq_bind, bind_some,
      usize_eq (by omega), bind_eq_bind, bind_some, readWord_eq (by omega),
      bind_eq_bind, bind_some]
    split
    · rfl
    · rw [readWord_eq (by omega), readRange_eq (by omega) (by omega), ih (by rw [lengthEq]; ring),
        next]
      have pageLen : segmentHeaderLen + index * per + per -
          (segmentHeaderLen + index * per + segmentFrameHeaderLen) = pageSize.toNat := by omega
      simp only [bind_eq_bind, bind_some, pageLen]

theorem runBody_eq (inside : segmentHeaderLen ≤ body.length) :
    runBody body = some (decodeBody body) := by
  have headerLen : segmentHeaderLen = 24 := rfl
  have frameLen : segmentFrameHeaderLen = 8 := rfl
  have size := (be32 body 8).toNat_lt
  unfold runBody decodeBody
  rw [readWord_eq (by omega)]
  by_cases valid : validPageSize (be32 body 8)
  · have small : (be32 body 8).toNat ≤ 65536 := by
      simp only [validPageSize, Bool.and_eq_true, decide_eq_true_eq] at valid
      exact valid.1.2
    have product := mul_le_mul (be32 body 20).toNat_lt.le
      (Nat.add_le_add_left small segmentFrameHeaderLen)
    simp only [bind_eq_bind, bind_some, valid, Bool.not_true, Bool.false_eq_true,
      if_false, readRange_eq (by decide : 12 ≤ 20) (by omega : 20 ≤ body.length)]
    rw [readWord_eq (by omega), bind_some, usize_eq (by omega), bind_some,
      usize_eq (by omega), bind_some, usize_eq (by omega), bind_some]
    split
    · rfl
    · rename_i lengthEq
      rw [not_not] at lengthEq
      rw [runFrames_eq rfl (by rw [lengthEq, zero_add]) (by omega), bind_some,
        zero_mul, add_zero]
      split <;> simp_all
  · simp [valid]

/-- No input makes the decoder read outside of it or compute a number that does not fit. -/
theorem runSegment_eq (codec : SegmentCodec) (bytes : List UInt8) :
    runSegment codec bytes = some (decodeSegment codec bytes) := by
  unfold runSegment decodeSegment
  cases codec.decompress bytes with
  | error => rfl
  | ok raw =>
    by_cases short : raw.length < segmentHeaderLen + shaLen
    · simp only [short, if_true, true_or]
    · have lengths : segmentHeaderLen + shaLen = 56 ∧ shaLen = 32 := ⟨rfl, rfl⟩
      have front : readRange raw 0 8 = some (raw.take 8) := readRange_eq (by omega) (by omega)
      have bodyEq : readRange raw 0 (raw.length - shaLen) =
          some (raw.take (raw.length - shaLen)) := readRange_eq (by omega) (by omega)
      have sumEq : readRange raw (raw.length - shaLen) raw.length =
          some (raw.drop (raw.length - shaLen)) := by
        rw [readRange_eq (by omega) le_rfl, slice, take_of_length_le (by rw [length_drop])]
      have inside : segmentHeaderLen ≤ (raw.take (raw.length - shaLen)).length := by
        rw [length_take]
        omega
      simp only [short, if_false, false_or, bind_eq_bind, bind_some, front, bodyEq,
        sumEq, runBody_eq inside, apply_ite some]

theorem validPageSize_of_pow {exponent : Nat} (least : 9 ≤ exponent) (most : exponent ≤ 16)
    (power : pageSize.toNat = 2 ^ exponent) : validPageSize pageSize := by
  have word : pageSize = UInt32.ofNat (2 ^ exponent) := by rw [← power, UInt32.ofNat_toNat]
  rw [word]
  clear word power
  interval_cases exponent <;> decide

theorem encodeFrames_ok (sized : ∀ frame ∈ frames, frame.page.length = pageSize.toNat) :
    ∃ packed, encodeFrames pageSize frames = .ok packed := by
  induction frames with
  | nil => exact ⟨[], rfl⟩
  | cons frame _ ih =>
    obtain ⟨headSized, tailSized⟩ := forall_mem_cons.mp sized
    obtain ⟨packed, packedEq⟩ := ih tailSized
    exact ⟨frameBytes frame ++ packed, by
      rw [encodeFrames, if_neg (not_not_intro headSized), packedEq]
      rfl⟩

theorem encodeSegment_ok {firstFrame : UInt64} {packed : List UInt8}
    (compresses : ∀ raw, ∃ packed, codec.compress raw = .ok packed) (nonempty : frames ≠ [])
    (few : frames.length < 2 ^ 32) (packedEq : encodeFrames pageSize frames = .ok packed) :
    ∃ bytes, encodeSegment codec pageSize firstFrame frames = .ok bytes ∧
      codec.decompress bytes = .ok (segmentHeader pageSize firstFrame frames.length ++ packed ++
        codec.digest (segmentHeader pageSize firstFrame frames.length ++ packed)) := by
  obtain ⟨bytes, compressed⟩ := compresses (segmentHeader pageSize firstFrame frames.length ++
    packed ++ codec.digest (segmentHeader pageSize firstFrame frames.length ++ packed))
  refine ⟨bytes, ?_, codec.decompress_compress _ _ compressed⟩
  simpa only [encodeSegment, if_neg nonempty, if_neg (not_le.mpr few), packedEq] using compressed

/-- Segments round-trip in both directions, and the decoder never panics. -/
theorem segments_round_trip {codec : SegmentCodec}
    (compresses : ∀ raw, ∃ packed, codec.compress raw = .ok packed) :
    (∀ (pageSize : UInt32) (firstFrame : UInt64) (frames : List Frame) (exponent : Nat),
      9 ≤ exponent → exponent ≤ 16 → pageSize.toNat = 2 ^ exponent →
      frames ≠ [] → frames.length ≤ 2 ^ 32 - 1 →
      (∀ frame ∈ frames, frame.pgno ≠ 0 ∧ frame.page.length = pageSize.toNat) →
      ∃ bytes, encodeSegment codec pageSize firstFrame frames = .ok bytes ∧
        decodeSegment codec bytes = .ok ⟨pageSize, firstFrame, frames⟩) ∧
    (∀ bytes segment, decodeSegment codec bytes = .ok segment →
      ∃ packed raw, encodeSegment codec segment.pageSize segment.firstFrame segment.frames =
          .ok packed ∧
        codec.decompress packed = .ok raw ∧ codec.decompress bytes = .ok raw) ∧
    ∀ bytes, runSegment codec bytes = some (decodeSegment codec bytes) := by
  refine ⟨?_, ?_, runSegment_eq codec⟩
  · intro _ _ _ _ least most power nonempty few sized
    obtain ⟨packed, packedEq⟩ := encodeFrames_ok fun frame member => (sized frame member).2
    obtain ⟨bytes, encoded, -⟩ := encodeSegment_ok compresses nonempty (by omega) packedEq
    refine ⟨bytes, encoded, ?_⟩
    exact decodeSegment_encodeSegment (validPageSize_of_pow least most power)
      (fun frame member => (sized frame member).1) encoded
  · intro _ _ decoded
    obtain ⟨_, packedEq, nonempty, few, rawEq⟩ := decodeSegment_eq_ok decoded
    obtain ⟨repacked, encoded, unpacked⟩ := encodeSegment_ok compresses nonempty few packedEq
    exact ⟨repacked, _, encoded, unpacked, rawEq⟩

/-- The sum of the bytes as digest. -/
def summedCodec : SegmentCodec where
  compress := .ok
  decompress := .ok
  digest := fun bytes => List.replicate 32 (bytes.foldl UInt8.add 0)
  digest_length := by simp
  decompress_compress := by simp

def smallFrames : List Frame := [⟨2, 0, List.replicate 512 7⟩, ⟨1, 2, List.replicate 512 9⟩]

theorem segments_round_trip_summed :
    ∃ bytes, encodeSegment summedCodec 512 3 smallFrames = .ok bytes ∧
      decodeSegment summedCodec bytes = .ok ⟨512, 3, smallFrames⟩ := by
  apply (segments_round_trip fun raw => ⟨raw, rfl⟩).1 512 3 smallFrames 9
  · decide
  · decide
  · rfl
  · exact cons_ne_nil _ _
  · decide
  · exact forall_mem_cons.mpr ⟨⟨by decide, length_replicate⟩,
      forall_mem_singleton.mpr ⟨by decide, length_replicate⟩⟩

end Addons.WalSegments
