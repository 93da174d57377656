import Addons.WalSegments

/-!
# The leader's WAL shipping state

A leader reads committed frames out of its WAL under the write connection, queues them as
segments of the current generation, uploads the segments in order and publishes the
generation's base.
-/

namespace Addons.WalShipper

open WalFormat WalSegments

def segmentFrameBytes : Nat := 16 * 2 ^ 20
def captureBytes : Nat := 16 * 2 ^ 20
def checkpointWalBytes : Nat := 64 * 2 ^ 20
def maxPendingBytes : Nat := 32 * 2 ^ 20
def rotateMinBytes : Nat := 64 * 2 ^ 20
def maxSegments : Nat := 2000
def maxRounds : Nat := 64

/-- A generation's base: a local copy still to be published, or published. -/
inductive Base where
  | «local» (size raw : Nat) (sha : String)
  | published
  deriving DecidableEq, Repr

structure Generation where
  id : String
  nextSeq : Nat
  nextFrame : UInt64
  base : Base
  baseBytes : Nat
  segmentBytes : Nat
  segments : Nat
  broken : Bool
  deriving DecidableEq, Repr

structure Pending where
  generation : String
  seq : Nat
  bytes : List UInt8
  deriving DecidableEq, Repr

/-- `knownEnd` is the boundary after the last commit the previous read found.
`restartOk` stands for "every committed frame was read and a checkpoint
attempted since". -/
structure Shipper where
  generation : Option Generation := none
  cursor : Option Cursor := none
  knownEnd : Option Cursor := none
  restartOk : Bool := false
  pending : List Pending := []
  pendingBytes : Nat := 0
  deriving DecidableEq, Repr

namespace Shipper

/-- Why a new generation is due now, `none` when the current one serves. -/
def rotationWanted (shipper : Shipper) (finalFlush : Bool) : Option String :=
  match shipper.generation with
  | none => some "no generation in this term"
  | some generation =>
    if generation.broken then some "the generation was abandoned"
    else if finalFlush then none
    else if generation.base ≠ .published then none
    else if maxSegments ≤ generation.segments then some "segment count limit"
    else if max generation.baseBytes rotateMinBytes ≤ generation.segmentBytes then
      some "segments outgrew the base"
    else none

def pendingTotal (pending : List Pending) : Nat :=
  (pending.map fun entry => entry.bytes.length).sum

def dropPendingOf (shipper : Shipper) (id : String) : Shipper :=
  let pending := shipper.pending.filter fun entry => entry.generation ≠ id
  { shipper with pending := pending, pendingBytes := pendingTotal pending }

def dropPendingExcept (shipper : Shipper) (id : String) : Shipper :=
  let pending := shipper.pending.filter fun entry => entry.generation = id
  { shipper with pending := pending, pendingBytes := pendingTotal pending }

/-- Stop the current generation taking segments. -/
def markBroken (shipper : Shipper) : Shipper :=
  { shipper with
    generation := shipper.generation.map fun generation => { generation with broken := true } }

/-- The generation that can take captured frames. -/
def usable (shipper : Shipper) : Option Generation :=
  shipper.generation.filter fun generation => !generation.broken

end Shipper

structure CaptureRead where
  cursor : Option Cursor
  knownEnd : Option Cursor
  restartOk : Bool
  batches : List (UInt32 × List Frame) := []
  taken : Nat := 0
  complete : Bool := false
  reset : Option String := none
  deriving DecidableEq, Repr

/-- One pass of the read loop of `capture`, and whether the loop goes on. -/
def captureRead (wal : Option (List UInt8)) (state : CaptureRead) :
    Except Error (CaptureRead × Bool) :=
  match readCommitted wal state.cursor segmentFrameBytes state.knownEnd with
  | .error error => .error error
  | .ok (.reset why) =>
    if state.restartOk && state.cursor.isSome then
      .ok ({ state with cursor := none, knownEnd := none, restartOk := false }, true)
    else .ok ({ state with reset := some why, cursor := none, knownEnd := none }, false)
  | .ok (.frames frames next complete endCursor) =>
    let state := { state with cursor := next, knownEnd := endCursor }
    let state :=
      match next with
      | some cursor =>
        if frames = [] then state
        else { state with
          restartOk := false
          taken := state.taken + frames.length * cursor.pageSize.toNat
          batches := state.batches ++ [(cursor.pageSize, frames)] }
      | none => state
    if complete then .ok ({ state with complete := true }, false)
    else .ok (state, decide (state.taken < captureBytes))

def captureLoop (wal : Option (List UInt8)) :
    Nat → CaptureRead → Except Error CaptureRead
  | 0, state => .ok state
  | fuel + 1, state =>
    match captureRead wal state with
    | .error error => .error error
    | .ok (state, true) => captureLoop wal fuel state
    | .ok (state, false) => .ok state

/-- The passes the read loop can take: one that finds the WAL restarted, then one
that reads to the end or fills the capture budget. -/
def capturePasses : Nat := 2

/-- What the checkpoint statement of `capture` reported. -/
inductive Checkpoint where
  | truncated
  | busy
  deriving DecidableEq, Repr

/-- What `capture` read and did. -/
structure Captured where
  batches : List (UInt32 × List Frame)
  cursor : Option Cursor
  knownEnd : Option Cursor
  restartOk : Bool
  truncated : Bool
  rotated : Bool
  drained : Bool
  lost : Option String
  deriving DecidableEq, Repr

def walLen (wal : Option (List UInt8)) : Nat :=
  match wal with
  | some file => file.length
  | none => 0

namespace CaptureRead

/-- Every committed frame in the WAL was read. -/
def drained (state : CaptureRead) (read : Bool) : Bool :=
  read && state.complete && state.reset.isNone

def checkpoints (state : CaptureRead) (rotate read : Bool) (length : Nat) : Bool :=
  rotate || (state.drained read && checkpointWalBytes ≤ length)

/-- The result of `capture`, given what its checkpoint reported when it ran one. -/
def finish (state : CaptureRead) (rotate read : Bool) (length : Nat)
    (checkpoint : Option Checkpoint) : Captured :=
  let drained := state.drained read
  let truncated := checkpoint = some .truncated
  { batches := state.batches
    cursor := if truncated then none else state.cursor
    knownEnd := if truncated then none else state.knownEnd
    restartOk :=
      if truncated then false
      else if checkpoint = some .busy ∧ drained then true
      else state.restartOk
    truncated := truncated
    rotated := truncated && rotate
    drained := drained
    lost :=
      match state.reset with
      | some why => some (why ++ " before every frame was read (" ++ toString length ++
          " byte wal)")
      | none =>
        if truncated && !drained then
          some ("the rotation checkpoint folded " ++ toString length ++
            " unread wal bytes into the new base")
        else none }

end CaptureRead

/-- What `ship` hands to `capture`. -/
def Shipper.captureStart (shipper : Shipper) : CaptureRead where
  cursor := shipper.cursor
  knownEnd := shipper.knownEnd
  restartOk := shipper.restartOk

def captureFrames (wal : Option (List UInt8)) (shipper : Shipper) (read : Bool) :
    Except Error CaptureRead :=
  if read then captureLoop wal capturePasses shipper.captureStart
  else .ok shipper.captureStart

namespace Shipper

/-- What `ship` takes over from a capture that returned. -/
def adopt (shipper : Shipper) (captured : Captured) : Shipper :=
  let shipper := { shipper with
    cursor := captured.cursor
    knownEnd := captured.knownEnd
    restartOk := captured.restartOk }
  if captured.lost.isSome then shipper.markBroken else shipper

end Shipper

def encodeBatches (codec : SegmentCodec) :
    UInt64 → List (UInt32 × List Frame) → Except Error (List (List UInt8 × Nat))
  | _, [] => .ok []
  | first, (pageSize, frames) :: batches =>
    match encodeSegment codec pageSize first frames with
    | .error error => .error error
    | .ok bytes =>
      (encodeBatches codec (first + UInt64.ofNat frames.length) batches).map
        ((bytes, frames.length) :: ·)

/-- The queue entries of encoded segments, numbered from `seq`. -/
def numberSegments (id : String) : Nat → List (List UInt8) → List Pending
  | _, [] => []
  | seq, bytes :: encoded => ⟨id, seq, bytes⟩ :: numberSegments id (seq + 1) encoded

theorem generation_of_mem_numberSegments {id : String} {entry : Pending} {seq : Nat}
    {encoded : List (List UInt8)} (member : entry ∈ numberSegments id seq encoded) :
    entry.generation = id := by
  induction encoded generalizing seq with
  | nil => cases member
  | cons _ _ ih =>
    rcases List.mem_cons.mp member with rfl | later
    · rfl
    · exact ih later

namespace Shipper

def pushSegments (shipper : Shipper) (generation : Generation) (encoded : List (List UInt8 × Nat)) :
    Shipper :=
  let entries := numberSegments generation.id generation.nextSeq (encoded.map Prod.fst)
  let frames := (encoded.map Prod.snd).sum
  { shipper with
    generation := some { generation with
      nextFrame := generation.nextFrame + UInt64.ofNat frames
      nextSeq := generation.nextSeq + encoded.length }
    pending := shipper.pending ++ entries
    pendingBytes := shipper.pendingBytes + pendingTotal entries }

/-- Encode captured frames as the next segments of the current generation.
`joined` says whether the encoding task could be joined. -/
def queueSegments (shipper : Shipper) (codec : SegmentCodec) (joined : Bool)
    (batches : List (UInt32 × List Frame)) : Shipper :=
  if batches = [] then shipper
  else
    match shipper.usable with
    | none => shipper
    | some generation =>
      if !joined then shipper.markBroken
      else
        match encodeBatches codec generation.nextFrame batches with
        | .error _ => shipper.markBroken
        | .ok encoded =>
          let shipper := shipper.pushSegments generation encoded
          if maxPendingBytes < shipper.pendingBytes then
            (shipper.dropPendingOf generation.id).markBroken
          else shipper

/-- The generation that a copied database file starts. -/
def startGeneration (shipper : Shipper) (id : String) (size raw : Nat) (sha : String) :
    Shipper :=
  { shipper with
    generation := some {
      id := id
      nextSeq := 0
      nextFrame := 0
      base := .local size raw sha
      baseBytes := size
      segmentBytes := 0
      segments := 0
      broken := false } }

def isCurrent (shipper : Shipper) (id : String) : Bool :=
  shipper.generation.any fun generation => generation.id = id

/-- A published base has superseded the generation of this entry. -/
def superseded (shipper : Shipper) (entry : Pending) : Bool :=
  shipper.generation.any fun generation =>
    generation.id ≠ entry.generation ∧ generation.base = .published

def popFront (shipper : Shipper) (entry : Pending) : Shipper :=
  { shipper with
    pending := shipper.pending.tail
    pendingBytes := shipper.pendingBytes - entry.bytes.length }

/-- The front entry reached the bucket. -/
def shipped (shipper : Shipper) (entry : Pending) : Shipper :=
  let shipper := shipper.popFront entry
  { shipper with
    generation := shipper.generation.map fun generation =>
      if generation.id = entry.generation then
        { generation with
          segmentBytes := generation.segmentBytes + entry.bytes.length
          segments := generation.segments + 1 }
      else generation }

/-- Another writer holds the key of the front entry. -/
def conflict (shipper : Shipper) (entry : Pending) : Shipper :=
  let shipper := if shipper.isCurrent entry.generation then shipper.markBroken else shipper
  shipper.dropPendingOf entry.generation

/-- The base of generation `id` was put at the snapshot key. -/
def published (shipper : Shipper) (id : String) : Shipper :=
  let generation := shipper.generation.map fun current => { current with base := .published }
  { shipper with generation := generation }.dropPendingExcept id

end Shipper

def Captured.endsCycle (captured : Captured) : Bool :=
  captured.drained || captured.truncated ||
    (captured.batches.isEmpty && captured.lost.isNone)

variable {shipper : Shipper} {generation : Generation}

/-- A generation whose base was published and that has no segment yet. -/
def publishedGeneration (id : String) : Generation where
  id := id
  nextSeq := 0
  nextFrame := 0
  base := .published
  baseBytes := 512
  segmentBytes := 0
  segments := 0
  broken := false

def oneFrameSegment (pageSize : UInt32) (first : UInt64) (frame : Frame) : List UInt8 :=
  segmentHeader pageSize first 1 ++ frameBytes frame ++ List.replicate 32 0

variable {pageSize : UInt32} {frame : Frame}

theorem encodeBatches_oneFrame (pageLength : frame.page.length = pageSize.toNat) (first : UInt64) :
    encodeBatches storedCodec first [(pageSize, [frame])] =
      .ok [(oneFrameSegment pageSize first frame, 1)] := by
  have packedEq : encodeFrames pageSize [frame] = .ok (frameBytes frame ++ []) := by
    simp [encodeFrames, pageLength, Except.map]
  have segmentEq : encodeSegment storedCodec pageSize first [frame] =
      .ok (oneFrameSegment pageSize first frame) := by
    simp [encodeSegment, packedEq, storedCodec, oneFrameSegment]
  rw [encodeBatches, segmentEq]
  rfl

theorem oneFrameSegment_length (pageLength : frame.page.length = pageSize.toNat) (first : UInt64) :
    (oneFrameSegment pageSize first frame).length =
      segmentHeaderLen + segmentFrameHeaderLen + pageSize.toNat + shaLen := by
  simp only [oneFrameSegment, List.length_append, segmentHeader_length, frameBytes,
    ByteOrder.toBeBytes_length, pageLength, List.length_replicate, segmentFrameHeaderLen, shaLen]
  omega

theorem queueSegments_oneFrame (usable : shipper.usable = some generation)
    (drained : shipper.pendingBytes = 0) (pageLength : frame.page.length = (512 : UInt32).toNat) :
    shipper.queueSegments storedCodec true [(512, [frame])] =
      shipper.pushSegments generation
        [(oneFrameSegment 512 generation.nextFrame frame, 1)] := by
  have total : (shipper.pushSegments generation
      [(oneFrameSegment 512 generation.nextFrame frame, 1)]).pendingBytes = shipper.pendingBytes +
          ((oneFrameSegment 512 generation.nextFrame frame).length + 0) := rfl
  rw [drained, oneFrameSegment_length pageLength] at total
  simp only [Shipper.queueSegments, if_neg (List.cons_ne_nil _ _), usable,
    encodeBatches_oneFrame pageLength, Bool.not_true, Bool.false_eq_true, if_false, total]
  rfl

end Addons.WalShipper
