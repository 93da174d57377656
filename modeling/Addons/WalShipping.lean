import Addons.TransitionSystem
import Addons.WalSegmentQueue

/-!
# One leader term of WAL shipping

The ship cycle as a transition system: writers commit while the leader captures, queues,
starts generations, uploads and publishes, and every I/O may fail.
-/

namespace Addons.WalShipping

open WalFormat WalReading WalSegments WalShipper WalCapture WalSegmentQueue TransitionSystem

/-- A round of the ship loop after its capture returned. `left` counts the rounds
still allowed, this one included. -/
structure Round where
  finalFlush : Bool
  left : Nat
  captured : Captured

/-- What the leader is about to do. -/
inductive Phase where
  | idle
  | capturing (finalFlush : Bool) (left : Nat)
  | queueing (round : Round)
  | starting (round : Round)
  | uploading (round : Round)
  | publishing (round : Round)

/-- `baseFrames` is how many committed frames the database file copied as the
current generation's base held. `inFlight` are PUTs whose outcome the leader does
not know. -/
structure State where
  shipper : Shipper
  database : Database
  objects : Objects
  inFlight : List Pending
  baseFrames : Nat
  phase : Phase

/-- A term starts without shipping state. -/
def Initial (state : State) : Prop :=
  state.shipper = {} ∧ state.phase = .idle

/-- Where the cycle goes after a round. -/
def Round.after (round : Round) : Phase :=
  if round.captured.endsCycle ∨ round.left ≤ 1 then .idle
  else .capturing round.finalFlush (round.left - 1)

def rotates (shipper : Shipper) (finalFlush : Bool) : Bool :=
  (shipper.rotationWanted finalFlush).isSome

def reads (shipper : Shipper) : Bool :=
  shipper.usable.isSome

/-- The checkpoint of a capture that returned: none, one that truncated the WAL, or
one that readers kept from doing so. -/
inductive CheckpointRan (database : Database) : Option Checkpoint → Database → Prop where
  | none : CheckpointRan database none database
  | truncated {after : Database} (truncates : database.Truncates after) :
      CheckpointRan database (some .truncated) after
  | busy {after : Database} (folds : database.Folds after) :
      CheckpointRan database (some .busy) after

def FreshGeneration (state : State) (id : String) : Prop :=
  (∀ seq, state.objects id seq = none) ∧
    (∀ entry ∈ state.inFlight, entry.generation ≠ id) ∧
    ∀ entry ∈ state.shipper.pending, entry.generation ≠ id

inductive Event where
  | commit (frames : List Frame)
  /-- A capture reports an error although its checkpoint left the database like this. -/
  | failedCheckpoint (after : Database)
  | cycle

inductive Step (codec : SegmentCodec) : State → Event → State → Prop where
  | commit {state : State} {frames : List Frame} {after : Database}
      (writes : state.database.Commits frames after) :
      Step codec state (.commit frames) { state with database := after }
  | land {state : State} {entry : Pending} (sent : entry ∈ state.inFlight)
      (absent : state.objects entry.generation entry.seq = none) :
      Step codec state .cycle { state with objects := state.objects.put entry }
  | begin {state : State} (finalFlush : Bool) (idle : state.phase = .idle) :
      Step codec state .cycle { state with phase := .capturing finalFlush maxRounds }
  | captureFailsEarly {state : State} {finalFlush : Bool} {left : Nat}
      (phase : state.phase = .capturing finalFlush left) :
      Step codec state .cycle { state with phase := .idle }
  | captureFailsLate {state : State} {finalFlush : Bool} {left : Nat} {read : CaptureRead}
      {after : Database} (phase : state.phase = .capturing finalFlush left)
      (readEq : captureFrames state.database.wal state.shipper (reads state.shipper) = .ok read)
      (runs : read.checkpoints (rotates state.shipper finalFlush) (reads state.shipper)
        (walLen state.database.wal) = true)
      (effect : state.database.Folds after ∨ state.database.Truncates after) :
      Step codec state (.failedCheckpoint after)
        { state with database := after, phase := .idle }
  | capture {state : State} {finalFlush : Bool} {left : Nat} {read : CaptureRead}
      {checkpoint : Option Checkpoint} {after : Database}
      (phase : state.phase = .capturing finalFlush left)
      (readEq : captureFrames state.database.wal state.shipper (reads state.shipper) = .ok read)
      (runs : checkpoint.isSome = read.checkpoints (rotates state.shipper finalFlush)
        (reads state.shipper) (walLen state.database.wal))
      (effect : CheckpointRan state.database checkpoint after) :
      Step codec state .cycle
        (let captured := read.finish (rotates state.shipper finalFlush) (reads state.shipper)
          (walLen state.database.wal) checkpoint
        { state with
          database := after
          shipper := state.shipper.adopt captured
          phase := .queueing ⟨finalFlush, left, captured⟩ })
  | queue {state : State} {round : Round} (joined : Bool)
      (phase : state.phase = .queueing round) :
      Step codec state .cycle { state with
        shipper := state.shipper.queueSegments codec joined round.captured.batches
        phase := if round.captured.rotated then .starting round else .uploading round }
  | startFails {state : State} {round : Round} (phase : state.phase = .starting round) :
      Step codec state .cycle { state with phase := .idle }
  | copyFails {state : State} {round : Round} (phase : state.phase = .starting round) :
      Step codec state .cycle
        { state with shipper := state.shipper.markBroken, phase := .idle }
  | start {state : State} {round : Round} {id : String} (size raw : Nat) (sha : String)
      (phase : state.phase = .starting round) (fresh : FreshGeneration state id) :
      Step codec state .cycle { state with
        shipper := state.shipper.startGeneration id size raw sha
        baseFrames := state.database.backfilled
        phase := .uploading round }
  | uploadDone {state : State} {round : Round} (phase : state.phase = .uploading round)
      (empty : state.shipper.pending = []) :
      Step codec state .cycle { state with phase := .publishing round }
  | dropSuperseded {state : State} {round : Round} {entry : Pending} {rest : List Pending}
      (phase : state.phase = .uploading round)
      (front : state.shipper.pending = entry :: rest)
      (superseded : state.shipper.superseded entry = true) :
      Step codec state .cycle { state with shipper := state.shipper.popFront entry }
  | putStored {state : State} {round : Round} {entry : Pending} {rest : List Pending}
      (phase : state.phase = .uploading round)
      (front : state.shipper.pending = entry :: rest)
      (current : state.shipper.superseded entry = false)
      (absent : state.objects entry.generation entry.seq = none) :
      Step codec state .cycle { state with
        objects := state.objects.put entry
        shipper := state.shipper.shipped entry }
  | putRepeated {state : State} {round : Round} {entry : Pending} {rest : List Pending}
      (phase : state.phase = .uploading round)
      (front : state.shipper.pending = entry :: rest)
      (current : state.shipper.superseded entry = false)
      (same : state.objects entry.generation entry.seq = some entry.bytes) :
      Step codec state .cycle { state with shipper := state.shipper.shipped entry }
  | putConflicts {state : State} {round : Round} {entry : Pending} {rest : List Pending}
      (phase : state.phase = .uploading round)
      (front : state.shipper.pending = entry :: rest)
      (current : state.shipper.superseded entry = false)
      (taken : (state.objects entry.generation entry.seq).isSome = true) :
      Step codec state .cycle
        { state with shipper := state.shipper.conflict entry, phase := .idle }
  | putFails {state : State} {round : Round} {entry : Pending} {rest : List Pending}
      (phase : state.phase = .uploading round)
      (front : state.shipper.pending = entry :: rest)
      (current : state.shipper.superseded entry = false) :
      Step codec state .cycle
        { state with inFlight := entry :: state.inFlight, phase := .idle }
  | publishNothing {state : State} {round : Round} (phase : state.phase = .publishing round)
      (none : ∀ generation ∈ state.shipper.generation, generation.base = .published) :
      Step codec state .cycle { state with phase := round.after }
  | publishFails {state : State} {round : Round} (phase : state.phase = .publishing round) :
      Step codec state .cycle { state with phase := .idle }
  | publish {state : State} {round : Round} {generation : Generation} {objects : Objects}
      (phase : state.phase = .publishing round)
      (current : state.shipper.generation = some generation)
      («local» : generation.base ≠ .published)
      (kept : ∀ seq, objects generation.id seq = state.objects generation.id seq)
      (cleaned : ∀ id seq, objects id seq = state.objects id seq ∨ objects id seq = none) :
      Step codec state .cycle { state with
        objects := objects
        shipper := state.shipper.published generation.id
        phase := round.after }

/-- The committed frames that the next capture would find past the cursor, `none`
when it would find the log gone and abandon the generation. -/
def unread (wal : Option (List UInt8)) (cursor : Option Cursor) (restartOk : Bool) :
    Option (List Frame) :=
  match readCommitted wal cursor (walLen wal + 1) none with
  | .ok (.frames frames _ _ _) => some frames
  | .ok (.reset _) =>
    if restartOk && cursor.isSome then
      match readCommitted wal none (walLen wal + 1) none with
      | .ok (.frames frames _ _ _) => some frames
      | _ => none
    else none
  | .error _ => none

def State.unread (state : State) : Option (List Frame) :=
  WalShipping.unread state.database.wal state.shipper.cursor state.shipper.restartOk

/-- Frames captured and not yet queued. -/
def Phase.held : Phase → List (UInt32 × List Frame)
  | .queueing round => round.captured.batches
  | _ => []

/-- A capture that fails after its checkpoint folded every committed frame has read
nothing new, or a restart of the WAL will be noticed, or no generation takes frames. -/
def CheckpointFailsHarmlessly (state : State) : Event → Prop
  | .failedCheckpoint after =>
    after.backfilled = after.committed.length → reads state.shipper = true →
      state.shipper.cursor = none ∨ state.shipper.restartOk = true →
        state.unread = some []
  | _ => True

end Addons.WalShipping
