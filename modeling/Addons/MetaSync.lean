import Addons.ConditionalStore
import Addons.SnapshotMetadata
import Addons.TransitionSystem
import Addons.WalShipper

/-!
# Metadata sync processes on one bucket

Any number of processes write one snapshot key and the segments next to it.
-/

namespace Addons.MetaSync

open ConditionalStore SnapshotMetadata WalShipper WalSegments TransitionSystem

inductive SyncMode where
  | snapshot
  | wal
  deriving DecidableEq, Repr

/-- A PUT of the snapshot key, under the fence its process had loaded. `base` names the
generation and the digest when the body is the base of a generation. -/
structure SnapshotPut where
  number : Nat
  fence : Int64
  base : Option (String × String)
  cleanup : Bool
  deriving DecidableEq

def SnapshotPut.metadata (put : SnapshotPut) : Metadata :=
  putMetadata put.fence put.base

/-- The id of the generation whose base a PUT carries. -/
def SnapshotPut.names (put : SnapshotPut) : Option String :=
  put.base.map Prod.fst

structure InFlight where
  put : SnapshotPut
  condition : Condition
  deriving DecidableEq

structure StoredSegment where
  bytes : List UInt8
  metadata : Metadata

/-- A PUT of a segment, which the bucket refuses when the key exists. -/
structure SegmentPut where
  generation : String
  seq : Nat
  bytes : List UInt8
  fence : Int64
  deriving DecidableEq

def SegmentPut.stored (put : SegmentPut) : StoredSegment where
  bytes := put.bytes
  metadata := putMetadata put.fence none

/-- A DELETE of a segment by a process that holds `fence`. -/
structure Delete where
  fence : Int64
  generation : String
  seq : Nat
  deriving DecidableEq

/-- Where a process is in its cycle. It holds its lock except when `idle`. -/
inductive Stage where
  | idle
  | shipping
  | uploading
  | sendingSegment (entry : Pending)
  | publishing (fence : Int64) (base : Option (String × String)) (cleanup : Bool)
  | awaiting (put : SnapshotPut)
  | listing (keep : Option String)
  | deleting (keys : List (String × Nat))

structure Process where
  mode : SyncMode
  fence : Int64 := 0
  isLeader : Bool := false
  shipper : Shipper := {}
  stage : Stage := .idle

/-- Where a cycle goes once its cleanup is over: a WAL cycle may run another round. -/
def Process.resume (process : Process) : Stage :=
  match process.mode with
  | .wal => .shipping
  | .snapshot => .idle

def Process.putSucceeded (process : Process) (put : SnapshotPut) : Process :=
  match put.base with
  | some (id, _) =>
    { process with shipper := process.shipper.published id, stage := .listing (some id) }
  | none => { process with stage := if put.cleanup then .listing none else .idle }

/-- The shipping state after a capture returned and its frames were queued. -/
def afterCapture (codec : SegmentCodec) (joined : Bool) (captured : Captured) (shipper : Shipper) :
    Shipper :=
  (shipper.adopt captured).queueSegments codec joined captured.batches

/-- Steps that concern one process only: cycles that begin, end or fail, captures,
losing leadership and restarts. -/
inductive Advance (codec : SegmentCodec) : Process → Process → Prop where
  | beginShip {process : Process} (idle : process.stage = .idle) (wal : process.mode = .wal)
      (leader : process.isLeader = true) :
      Advance codec process { process with stage := .shipping }
  | endShip {process : Process} (shipping : process.stage = .shipping) :
      Advance codec process { process with stage := .idle }
  | capture {process : Process} (shipping : process.stage = .shipping) (joined : Bool)
      (captured : Captured) (kept : captured.rotated = false) :
      Advance codec process { process with
        shipper := afterCapture codec joined captured process.shipper
        stage := .uploading }
  | startFailed {process : Process} (shipping : process.stage = .shipping) (joined : Bool)
      (captured : Captured) (rotated : captured.rotated = true) :
      Advance codec process { process with
        shipper := afterCapture codec joined captured process.shipper
        stage := .idle }
  | copyFailed {process : Process} (shipping : process.stage = .shipping) (joined : Bool)
      (captured : Captured) (rotated : captured.rotated = true) :
      Advance codec process { process with
        shipper := (afterCapture codec joined captured process.shipper).markBroken
        stage := .idle }
  | dropSuperseded {process : Process} {entry : Pending} {rest : List Pending}
      (uploading : process.stage = .uploading)
      (front : process.shipper.pending = entry :: rest)
      (superseded : process.shipper.superseded entry = true) :
      Advance codec process { process with shipper := process.shipper.popFront entry }
  | segmentConflict {process : Process} {entry : Pending}
      (sending : process.stage = .sendingSegment entry) :
      Advance codec process
        { process with shipper := process.shipper.conflict entry, stage := .idle }
  | segmentFailed {process : Process} {entry : Pending}
      (sending : process.stage = .sendingSegment entry) :
      Advance codec process { process with stage := .idle }
  | roundDone {process : Process} (uploading : process.stage = .uploading)
      (drained : process.shipper.pending = [])
      (published : ∀ generation ∈ process.shipper.generation, generation.base = .published) :
      Advance codec process { process with stage := .shipping }
  | beginPublish {process : Process} {generation : Generation} {size raw : Nat} {sha : String}
      (uploading : process.stage = .uploading) (drained : process.shipper.pending = [])
      (current : process.shipper.generation = some generation)
      (base : generation.base = .local size raw sha) :
      Advance codec process
        { process with stage := .publishing process.fence (some (generation.id, sha)) true }
  | beginSnapshot {process : Process} (idle : process.stage = .idle)
      (snapshot : process.mode = .snapshot) (leader : process.isLeader = true)
      (cleanup : Bool) :
      Advance codec process { process with stage := .publishing process.fence none cleanup }
  | headFailed {process : Process} {fence : Int64} {base : Option (String × String)}
      {cleanup : Bool} (publishing : process.stage = .publishing fence base cleanup) :
      Advance codec process { process with stage := .idle }
  | putFailed {process : Process} {put : SnapshotPut} (awaiting : process.stage = .awaiting put) :
      Advance codec process { process with stage := .idle }
  | listFailed {process : Process} {keep : Option String}
      (listing : process.stage = .listing keep) :
      Advance codec process { process with stage := process.resume }
  | cleanupDone {process : Process} {keys : List (String × Nat)}
      (deleting : process.stage = .deleting keys) :
      Advance codec process { process with stage := process.resume }
  | abort {process : Process} (snapshot : process.mode = .snapshot) :
      Advance codec process { process with stage := .idle }
  | demote {process : Process} (idle : process.stage = .idle) :
      Advance codec process { process with isLeader := false, shipper := {} }
  | restart {process : Process} (mode : SyncMode) : Advance codec process { mode := mode }

/-- How a promotion ends: with local data because the bucket has no snapshot, with an
error, or with the database taken from the bucket. -/
inductive Promotion where
  | emptyBucket
  | failed
  | swapped
  deriving DecidableEq, Repr

def Process.promoted (process : Process) (fence : Int64) : Promotion → Process
  | .emptyBucket => { process with fence := fence, isLeader := true }
  | .failed => { process with fence := fence }
  | .swapped => { process with fence := fence, isLeader := true, shipper := {} }

variable {Id : Type} [DecidableEq Id]

/-- The bucket, the requests on their way to it and the processes. `history` lists the
PUTs of the snapshot key that took effect, newest first, `uploaded` every segment that
was ever stored, and `minted` the fence under which a generation was started. -/
structure State (Id : Type) where
  snapshot : Cell Metadata
  segments : String → Nat → Option StoredSegment
  puts : List InFlight
  segmentPuts : List SegmentPut
  deletes : List Delete
  process : Id → Process
  nextNumber : Nat
  history : List SnapshotPut
  uploaded : String → Nat → Option StoredSegment
  minted : String → Option Int64

namespace State

def set (state : State Id) (id : Id) (process : Process) : State Id :=
  { state with process := Function.update state.process id process }

def mint (state : State Id) (id : Id) (process : Process) (generation : String) : State Id :=
  { state.set id process with
    minted := Function.update state.minted generation (some process.fence) }

def sendSegment (state : State Id) (id : Id) (process : Process) (put : SegmentPut) :
    State Id :=
  { state.set id process with segmentPuts := put :: state.segmentPuts }

def sendPut (state : State Id) (id : Id) (process : Process) (request : InFlight) : State Id :=
  { state.set id process with
    puts := request :: state.puts
    nextNumber := state.nextNumber + 1 }

def sendDelete (state : State Id) (id : Id) (process : Process) (request : Delete) :
    State Id :=
  { state.set id process with deletes := request :: state.deletes }

/-- A PUT of the snapshot key takes effect. -/
def landPut (state : State Id) (request : InFlight) : State Id :=
  { state with
    snapshot := state.snapshot.write request.put.metadata
    puts := state.puts.erase request
    history := request.put :: state.history }

def refusePut (state : State Id) (request : InFlight) : State Id :=
  { state with puts := state.puts.erase request }

def landSegment (state : State Id) (put : SegmentPut) : State Id :=
  let update := fun (segments : String → Nat → Option StoredSegment) generation seq =>
    if generation = put.generation ∧ seq = put.seq then some put.stored
    else segments generation seq
  { state with
    segments := update state.segments
    uploaded := update state.uploaded
    segmentPuts := state.segmentPuts.erase put }

def refuseSegment (state : State Id) (put : SegmentPut) : State Id :=
  { state with segmentPuts := state.segmentPuts.erase put }

def landDelete (state : State Id) (request : Delete) : State Id :=
  { state with
    segments := fun generation seq =>
      if generation = request.generation ∧ seq = request.seq then none
      else state.segments generation seq
    deletes := state.deletes.erase request }

end State

/-- All processes are new and no request is on its way. -/
structure Initial (state : State Id) : Prop where
  puts : state.puts = []
  segmentPuts : state.segmentPuts = []
  deletes : state.deletes = []
  history : state.history = []
  minted : ∀ id, state.minted id = none
  process : ∀ id, ∃ mode, state.process id = { mode := mode }

inductive Event (Id : Type) where
  | process (id : Id)
  | promote (id : Id) (fence : Int64) (outcome : Promotion)
  | landPut (request : InFlight)
  | landSegment (put : SegmentPut)
  | landDelete (request : Delete)

inductive Step (key : String) (codec : SegmentCodec) :
    State Id → Event Id → State Id → Prop where
  | advance {state : State Id} {id : Id} {after : Process}
      (advances : Advance codec (state.process id) after) :
      Step key codec state (.process id) (state.set id after)
  | startGeneration {state : State Id} {id : Id} {millis : Int} {uuid : String}
      {generation sha : String} {size raw : Nat} {finalFlush : Bool}
      (shipping : (state.process id).stage = .shipping) (joined : Bool) (captured : Captured)
      (wanted : ((state.process id).shipper.rotationWanted finalFlush).isSome)
      (rotated : captured.rotated = true)
      (hexadecimal : '/' ∉ uuid.toList)
      (named : generation = newGenerationId (state.process id).fence millis uuid)
      (fresh : state.minted generation = none) :
      Step key codec state (.process id)
        (state.mint id { state.process id with
          shipper := (afterCapture codec joined captured (state.process id).shipper
            ).startGeneration generation size raw sha
          stage := .uploading } generation)
  | sendSegment {state : State Id} {id : Id} {entry : Pending} {rest : List Pending}
      (uploading : (state.process id).stage = .uploading)
      (front : (state.process id).shipper.pending = entry :: rest)
      (live : (state.process id).shipper.superseded entry = false) :
      Step key codec state (.process id)
        (state.sendSegment id { state.process id with stage := .sendingSegment entry }
          ⟨entry.generation, entry.seq, entry.bytes, (state.process id).fence⟩)
  | segmentShipped {state : State Id} {id : Id} {entry : Pending}
      (sending : (state.process id).stage = .sendingSegment entry)
      (landed : (state.uploaded entry.generation entry.seq).isSome) :
      Step key codec state (.process id)
        (state.set id { state.process id with
          shipper := (state.process id).shipper.shipped entry
          stage := .uploading })
  | headRefuses {state : State Id} {id : Id} {fence : Int64} {base : Option (String × String)}
      {cleanup : Bool} {stored : Metadata} {view : List Entry}
      (publishing : (state.process id).stage = .publishing fence base cleanup)
      (found : state.snapshot.value? = some stored) (lists : stored.Lists view)
      (newer : (state.process id).fence < parseFence view) :
      Step key codec state (.process id) (state.set id { state.process id with stage := .idle })
  | headPasses {state : State Id} {id : Id} {fence : Int64} {base : Option (String × String)}
      {cleanup : Bool}
      (publishing : (state.process id).stage = .publishing fence base cleanup)
      (passes : ∀ stored ∈ state.snapshot.value?, ∃ view, stored.Lists view ∧
        ¬(state.process id).fence < parseFence view) :
      Step key codec state (.process id)
        (state.sendPut id
          { state.process id with
            stage := .awaiting ⟨state.nextNumber, fence, base, cleanup⟩ }
          ⟨⟨state.nextNumber, fence, base, cleanup⟩, state.snapshot.unchanged⟩)
  | putSucceeds {state : State Id} {id : Id} {put : SnapshotPut}
      (awaiting : (state.process id).stage = .awaiting put) (landed : put ∈ state.history) :
      Step key codec state (.process id)
        (state.set id ((state.process id).putSucceeded put))
  | list {state : State Id} {id : Id} {keep : Option String} {keys : List (String × Nat)}
      (listing : (state.process id).stage = .listing keep)
      (found : ∀ entry ∈ keys, (state.segments entry.1 entry.2).isSome ∧
        cleanupKeeps key keep entry.1 entry.2 = false) :
      Step key codec state (.process id)
        (state.set id { state.process id with stage := .deleting keys })
  | delete {state : State Id} {id : Id} {generation : String} {seq : Nat}
      {keys : List (String × Nat)}
      (deleting : (state.process id).stage = .deleting ((generation, seq) :: keys)) :
      Step key codec state (.process id)
        (state.sendDelete id { state.process id with stage := .deleting keys }
          ⟨(state.process id).fence, generation, seq⟩)
  | promote {state : State Id} {id : Id} {fence : Int64} {outcome : Promotion}
      (idle : (state.process id).stage = .idle)
      (empty : outcome = .emptyBucket → state.snapshot.current = none) :
      Step key codec state (.promote id fence outcome)
        (state.set id ((state.process id).promoted fence outcome))
  | landPut {state : State Id} {request : InFlight} (sent : request ∈ state.puts)
      (accepted : state.snapshot.accepts request.condition = true) :
      Step key codec state (.landPut request) (state.landPut request)
  | refusePut {state : State Id} {request : InFlight} (sent : request ∈ state.puts)
      (refused : state.snapshot.accepts request.condition = false) :
      Step key codec state (.landPut request) (state.refusePut request)
  | landSegment {state : State Id} {put : SegmentPut} (sent : put ∈ state.segmentPuts)
      (absent : state.segments put.generation put.seq = none) :
      Step key codec state (.landSegment put) (state.landSegment put)
  | refuseSegment {state : State Id} {put : SegmentPut} (sent : put ∈ state.segmentPuts)
      (present : (state.segments put.generation put.seq).isSome) :
      Step key codec state (.landSegment put) (state.refuseSegment put)
  | landDelete {state : State Id} {request : Delete} (sent : request ∈ state.deletes) :
      Step key codec state (.landDelete request) (state.landDelete request)

end Addons.MetaSync
