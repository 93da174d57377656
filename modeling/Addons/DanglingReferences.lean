import Addons.UploadRegistry

/-!
# Rows point at stored bytes

Every artifact and every cached index points at bytes that are in the blob store, in every
run in which no writer that works without the read guard meets the sweeper on its own
digest. The writers are those that name digests they have just put: the mount of a stored
layer and the confirmation of a retained upload name older ones, and are left out.
-/

namespace Addons.BlobSweeping

open MetaStore Option TransitionSystem List

/-- The tasks that make rows name digests. -/
inductive WriterKind where
  | storeArtifact
  | publish (uploadId : String)
  | serveGroupMetadata
  | lifecycle
  deriving DecidableEq

/-- Whether the task takes the read guard before it puts bytes. -/
def WriterKind.guarded : WriterKind → Bool
  | .storeArtifact => true
  | .publish _ => true
  | .serveGroupMetadata => false
  | .lifecycle => false

def WriterKind.publishes : WriterKind → Bool
  | .publish _ => true
  | _ => false

/-- A task at work, whether it holds the read guard, and the digests whose bytes it put. -/
structure Writer where
  kind : WriterKind
  guarding : Bool := false
  put : List String := []
  deriving DecidableEq

/-- Bytes are put and rows written under the guard, by the tasks that take it. -/
def Writer.ready (writer : Writer) : Bool :=
  writer.guarding || !writer.kind.guarded

/-- Who issues a request. -/
inductive Issuer where
  | writer (kind : WriterKind)
  | receiver
  | sweeper
  | anyone
  deriving DecidableEq

/-- The requests that name digests or retain a plan belong to the tasks that do so. -/
def issuer : Request → Issuer
  | .command (.putArtifact _) => .writer .storeArtifact
  | .command (.applyArtifactBatch _ batch) => .writer (.publish batch.publication.uploadId)
  | .command (.createUploadRequest _) => .receiver
  | .command (.leaseUploadBlob uploadId _ _) => .writer (.publish uploadId)
  | .command (.applyPublicationLifecycle _) => .writer .lifecycle
  | .command (.putGroupMetadataCache _) => .writer .serveGroupMetadata
  | .command (.deleteBlobRecord _ _) => .sweeper
  | .setUploadState uploadId _ .conflict _ _ => .writer (.publish uploadId)
  | _ => .anyone

theorem reclaims_of_issuer {request : Request} (other : issuer request ≠ .sweeper) :
    request.reclaims = false := by
  cases request with
  | command command =>
    cases command with
    | deleteBlobRecord => exact absurd rfl other
    | _ => rfl
  | setUploadState => rfl
  | cancelUploadConflict => rfl

theorem effects_of_anyone {request : Request} (issued : issuer request = .anyone) :
    request.effects = {} := by
  cases request with
  | command command =>
    cases command with
    | putArtifact | applyArtifactBatch | applyPublicationLifecycle | putGroupMetadataCache
    | createUploadRequest | leaseUploadBlob => cases issued
    | _ => rfl
  | setUploadState _ _ next _ _ =>
    cases next with
    | conflict => cases issued
    | _ => rfl
  | cancelUploadConflict => rfl

/-- The digests that the request makes rows name, artifacts, indexes and staged blobs
alike. -/
def digestsOf (request : Request) : List String :=
  request.refers ++ request.leases.map Prod.snd

inductive Sweeper where
  | idle
  | listed (cutoff : Time) (shas : List String)
  /-- The write guard is held for `sha`. -/
  | locked (cutoff : Time) (sha : String) (rest : List String)
  /-- The record of `sha` is gone, its bytes are about to go. -/
  | deleting (cutoff : Time) (sha : String) (rest : List String)
  deriving DecidableEq

namespace Sweeper

/-- The digest for which the write guard is held. -/
def reclaiming : Sweeper → Option String
  | .locked _ sha _ => some sha
  | .deleting _ sha _ => some sha
  | _ => none

/-- The cutoff of the sweep that holds the write guard. -/
def cutoff? : Sweeper → Option Time
  | .locked cutoff _ _ => some cutoff
  | .deleting cutoff _ _ => some cutoff
  | _ => none

/-- The digest whose record is gone. -/
def unrecorded : Sweeper → Option String
  | .deleting _ sha _ => some sha
  | _ => none

def next (cutoff : Time) (rest : List String) : Sweeper :=
  if rest = [] then .idle else .listed cutoff rest

@[simp] theorem reclaiming_next (cutoff : Time) (rest : List String) :
    (next cutoff rest).reclaiming = none := by
  unfold next
  split
  · rfl
  · rfl

@[simp] theorem unrecorded_next (cutoff : Time) (rest : List String) :
    (next cutoff rest).unrecorded = none := by
  unfold next
  split
  · rfl
  · rfl

theorem reclaiming_of_unrecorded {sweeper : Sweeper} {sha : String}
    (gone : sha ∈ sweeper.unrecorded) : sha ∈ sweeper.reclaiming := by
  cases sweeper with
  | deleting => exact gone
  | idle | listed | locked => cases gone

end Sweeper

structure State where
  store : Store
  bytes : List String := []
  writers : List Writer := []
  sweeper : Sweeper := .idle

inductive Event where
  | start (kind : WriterKind)
  | receive (now : Time) (request : ArtifactUploadRequest)
  | guard (writer : Nat)
  | put (writer : Nat) (digest : String)
  | commit (writer : Nat) (now : Time) (request : Request)
  | leave (writer : Nat)
  | request (now : Time) (request : Request)
  | list (now : Time) (grace : Nat) (shas : List String)
  | lock
  | deleteRecord
  | recordFails
  | deleteBytes (removed : Bool)
  | restart

/-- The longest span of time that chrono represents. -/
def maxTimeDelta : Nat := 9223372036854775807000000

/-- The time before which a digest must have been unreferenced. -/
def cutoff (now : Time) (grace : Nat) : Time :=
  now - if grace ≤ maxTimeDelta then grace else 0

namespace State

variable (lib : Libraries) (state : State)

def enter (kind : WriterKind) : State :=
  { state with writers := state.writers ++ [{ kind := kind }] }

def update (index : Nat) (writer : Writer) : State :=
  { state with writers := state.writers.set index writer }

/-- Reserve an upload; its id is new. -/
def receive (now : Time) (request : ArtifactUploadRequest) : Option State :=
  if request.state = some .receiving ∧
      ∀ writer ∈ state.writers, writer.kind ≠ .publish request.uploadId then
    match createUploadRequest lib now request state.store with
    | (.ok _, store) => some ({ state with store := store }.enter (.publish request.uploadId))
    | (.error _, _) => none
  else none

/-- Take the write guard for the next digest. -/
def lock : Option State :=
  match state.sweeper with
  | .listed cutoff (sha :: rest) =>
    if ∀ writer ∈ state.writers, writer.guarding = false then
      some { state with sweeper := .locked cutoff sha rest }
    else none
  | _ => none

def deleteRecord : Option State :=
  match state.sweeper with
  | .locked cutoff sha rest =>
    match deleteBlobRecord lib sha cutoff state.store with
    | (.ok true, store) => some { state with store := store, sweeper := .deleting cutoff sha rest }
    | (_, store) => some { state with store := store, sweeper := .next cutoff rest }
  | _ => none

/-- SQLite fails and the digest is skipped. -/
def skipDigest : Option State :=
  match state.sweeper with
  | .locked cutoff _ rest => some { state with sweeper := .next cutoff rest }
  | _ => none

/-- Delete the bytes, which may be gone also when the deletion reports an error. -/
def deleteBytes (removed : Bool) : Option State :=
  match state.sweeper with
  | .deleting cutoff sha rest =>
    some { state with
      bytes := if removed then state.bytes.filter (· ≠ sha) else state.bytes
      sweeper := .next cutoff rest }
  | _ => none

section Cases

variable {lib state} {after : State}

theorem receive_cases {now : Time} {request : ArtifactUploadRequest}
    (taken : state.receive lib now request = some after) :
    (request.state = some .receiving ∧
        ∀ writer ∈ state.writers, writer.kind ≠ .publish request.uploadId) ∧
      ∃ store, createUploadRequest lib now request state.store = (.ok (), store) ∧
        after = { state with store := store }.enter (.publish request.uploadId) := by
  unfold receive at taken
  split at taken
  next fresh =>
    split at taken
    next store ran => exact ⟨fresh, store, ran, (some.inj taken).symm⟩
    next => cases taken
  next => cases taken

theorem lock_cases (taken : state.lock = some after) :
    ∃ cutoff sha rest, state.sweeper = .listed cutoff (sha :: rest) ∧
      (∀ writer ∈ state.writers, writer.guarding = false) ∧
      after = { state with sweeper := .locked cutoff sha rest } := by
  unfold lock at taken
  split at taken
  next cutoff sha rest sweeperEq =>
    obtain ⟨free, afterEq⟩ := ite_none_right_eq_some.mp taken
    exact ⟨cutoff, sha, rest, sweeperEq, free, (some.inj afterEq).symm⟩
  next => cases taken

theorem deleteRecord_cases (taken : state.deleteRecord lib = some after) :
    ∃ cutoff sha rest answer store, state.sweeper = .locked cutoff sha rest ∧
      deleteBlobRecord lib sha cutoff state.store = (answer, store) ∧
      (answer = .ok true ∧
          after = { state with store := store, sweeper := .deleting cutoff sha rest } ∨
        answer ≠ .ok true ∧
          after = { state with store := store, sweeper := .next cutoff rest }) := by
  unfold deleteRecord at taken
  split at taken
  next cutoff sha rest sweeperEq =>
    split at taken
    next store ran =>
      exact ⟨cutoff, sha, rest, .ok true, store, sweeperEq, ran, .inl ⟨rfl, (some.inj taken).symm⟩⟩
    next answer store other ran =>
      refine ⟨cutoff, sha, rest, answer, store, sweeperEq, ran, .inr ⟨?_, ?_⟩⟩
      · rintro rfl
        exact other rfl
      · exact (some.inj taken).symm
  next => cases taken

theorem skipDigest_cases (taken : state.skipDigest = some after) :
    ∃ cutoff rest, after = { state with sweeper := .next cutoff rest } := by
  unfold skipDigest at taken
  split at taken
  next cutoff _ rest _ => exact ⟨cutoff, rest, (some.inj taken).symm⟩
  next => cases taken

theorem deleteBytes_cases {removed : Bool} (taken : state.deleteBytes removed = some after) :
    ∃ cutoff sha rest, state.sweeper = .deleting cutoff sha rest ∧
      after = { state with
        bytes := if removed then state.bytes.filter (· ≠ sha) else state.bytes
        sweeper := .next cutoff rest } := by
  unfold deleteBytes at taken
  split at taken
  next cutoff sha rest sweeperEq =>
    exact ⟨cutoff, sha, rest, sweeperEq, (some.inj taken).symm⟩
  next => cases taken

theorem mem_bytes_of_ne {bytes : List String} {removed : Bool} {digest sha : String}
    (stored : digest ∈ bytes) (other : digest ≠ sha) :
    digest ∈ if removed then bytes.filter (· ≠ sha) else bytes := by
  split
  · exact mem_filter.mpr ⟨stored, decide_eq_true other⟩
  · exact stored

end Cases

end State

/-- One step of a writer or of the sweeper. A task can end at any time, and so can the
process. -/
def act (lib : Libraries) (state : State) : Event → Option State
  | .start kind => if kind.publishes then none else some (state.enter kind)
  | .receive now request => state.receive lib now request
  | .guard index => do
      let writer ← state.writers[index]?
      if writer.kind.guarded ∧ state.sweeper.reclaiming = none then
        some (state.update index { writer with guarding := true })
      else none
  | .put index digest => do
      let writer ← state.writers[index]?
      -- Bytes that are there already are left as they are.
      if writer.ready then
        some { state.update index { writer with put := digest :: writer.put } with
          bytes := digest :: state.bytes }
      else none
  | .commit index now request => do
      let writer ← state.writers[index]?
      if issuer request = .writer writer.kind ∧ writer.ready = true ∧
          ∀ digest ∈ digestsOf request, digest ∈ writer.put then
        some { state with store := runRequest lib now state.store request }
      else none
  | .leave index => some { state with writers := state.writers.eraseIdx index }
  | .request now request =>
    if issuer request = .anyone then
      some { state with store := runRequest lib now state.store request }
    else none
  | .list now grace shas =>
    if state.sweeper = .idle ∧
        ListsUnreferencedBlobs lib state.store 256 (cutoff now grace) shas then
      some { state with sweeper := .next (cutoff now grace) shas }
    else none
  | .lock => state.lock
  | .deleteRecord => state.deleteRecord lib
  | .recordFails => state.skipDigest
  | .deleteBytes removed => state.deleteBytes removed
  | .restart => some { state with writers := [], sweeper := .idle }

def Initial (state : State) : Prop := state = { store := Store.empty }

def Step (lib : Libraries) (state : State) (event : Event) (after : State) : Prop :=
  act lib state event = some after

/-- No task holds the read guard while the sweeper holds the write guard, and a task that
needs the guard puts nothing without it. -/
structure Exclusive (state : State) : Prop where
  waiting : ∀ writer ∈ state.writers, writer.ready = false → writer.put = []
  excluded : ∀ sha ∈ state.sweeper.reclaiming, ∀ writer ∈ state.writers, writer.guarding = false

theorem exclusive_initial {state : State} (initially : Initial state) : Exclusive state := by
  cases initially
  constructor
  · simp
  · intro _ held
    cases held

namespace Exclusive

variable {state after : State}

section

variable (exclusive : Exclusive state)
include exclusive

theorem put_eq_nil {sha : String}
    (held : sha ∈ state.sweeper.reclaiming) {writer : Writer} (member : writer ∈ state.writers)
    (guarded : writer.kind.guarded) : writer.put = [] := by
  apply exclusive.waiting writer member
  simp [Writer.ready, exclusive.excluded sha held writer member, guarded]

theorem withWriters {writers : List Writer} (each : ∀ writer ∈ writers, writer ∈ state.writers ∨
      writer.put = [] ∧ writer.guarding = false) : Exclusive { state with writers := writers } := by
  constructor
  · intro writer member unready
    rcases each writer member with old | ⟨nothing, -⟩
    · exact exclusive.waiting writer old unready
    · exact nothing
  · intro sha held writer member
    rcases each writer member with old | ⟨-, free⟩
    · exact exclusive.excluded sha held writer old
    · exact free

theorem withSweeper {sweeper : Sweeper}
    (held : ∀ sha ∈ sweeper.reclaiming, ∀ writer ∈ state.writers, writer.guarding = false) :
    Exclusive { state with sweeper := sweeper } :=
  ⟨exclusive.waiting, held⟩

theorem released (cutoff : Time) (rest : List String) :
    Exclusive { state with sweeper := .next cutoff rest } := by
  apply exclusive.withSweeper
  intro _ held
  rw [Sweeper.reclaiming_next] at held
  cases held

theorem enter (kind : WriterKind) : Exclusive (state.enter kind) := by
  apply exclusive.withWriters
  intro _ member
  rcases mem_append.mp member with old | new
  · exact .inl old
  · cases mem_singleton.mp new
    exact .inr ⟨rfl, rfl⟩

theorem update {index : Nat} {writer : Writer} (ready : writer.ready)
    (held : ∀ sha ∈ state.sweeper.reclaiming, writer.guarding = false) :
    Exclusive (state.update index writer) := by
  constructor
  · intro other changed unready
    rcases mem_or_eq_of_mem_set changed with old | rfl
    · exact exclusive.waiting other old unready
    · exact absurd (ready.symm.trans unready) (by simp)
  · intro sha reclaims other changed
    rcases mem_or_eq_of_mem_set changed with old | rfl
    · exact exclusive.excluded sha reclaims other old
    · exact held sha reclaims

theorem step {lib : Libraries} {event : Event}
    (taken : Step lib state event after) : Exclusive after := by
  cases event with
  | start kind =>
    obtain ⟨-, afterEq⟩ := ite_none_left_eq_some.mp taken
    cases afterEq
    exact exclusive.enter kind
  | receive =>
    obtain ⟨-, store, -, rfl⟩ := State.receive_cases taken
    have kept : Exclusive { state with store := store } :=
      ⟨exclusive.waiting, exclusive.excluded⟩
    exact kept.enter _
  | guard =>
    obtain ⟨writer, found, result⟩ := bind_eq_some_iff.mp taken
    obtain ⟨⟨-, free⟩, rfl⟩ := of_guard result
    apply exclusive.update
    · rfl
    · intro sha held
      rw [free] at held
      cases held
  | put index digest =>
    obtain ⟨writer, found, result⟩ := bind_eq_some_iff.mp taken
    obtain ⟨ready, rfl⟩ := of_guard result
    have changed : Exclusive (state.update index { writer with put := digest :: writer.put }) := by
      apply exclusive.update
      · exact ready
      · intro sha held
        exact exclusive.excluded sha held writer (mem_of_getElem? found)
    exact ⟨changed.waiting, changed.excluded⟩
  | commit =>
    obtain ⟨writer, _, result⟩ := bind_eq_some_iff.mp taken
    obtain ⟨-, rfl⟩ := of_guard result
    exact ⟨exclusive.waiting, exclusive.excluded⟩
  | leave =>
    cases taken
    apply exclusive.withWriters
    intro _ member
    exact .inl (mem_of_mem_eraseIdx member)
  | request =>
    obtain ⟨-, rfl⟩ := of_guard taken
    exact ⟨exclusive.waiting, exclusive.excluded⟩
  | list =>
    obtain ⟨-, rfl⟩ := of_guard taken
    exact exclusive.released _ _
  | lock =>
    obtain ⟨cutoff, sha, rest, -, free, rfl⟩ := State.lock_cases taken
    exact exclusive.withSweeper fun _ _ => free
  | deleteRecord =>
    obtain ⟨cutoff, sha, rest, _, _, sweeperEq, -, result⟩ :=
      State.deleteRecord_cases taken
    rcases result with ⟨-, rfl⟩ | ⟨-, rfl⟩
    · refine ⟨exclusive.waiting, fun _ _ => exclusive.excluded sha ?_⟩
      rw [sweeperEq]
      rfl
    · exact ⟨exclusive.waiting, (exclusive.released cutoff rest).excluded⟩
  | recordFails =>
    obtain ⟨cutoff, rest, rfl⟩ := State.skipDigest_cases taken
    exact exclusive.released _ _
  | deleteBytes =>
    obtain ⟨cutoff, _, rest, -, rfl⟩ := State.deleteBytes_cases taken
    exact ⟨exclusive.waiting, (exclusive.released cutoff rest).excluded⟩
  | restart =>
    cases taken
    constructor
    · simp
    · intro _ held
      cases held

end

end Exclusive

open Transaction Sweeper

section Records

variable {lib : Libraries} {sha : String} {before : Time} {store after : Store}

theorem deleteBlobRecordTx_ok {deleted : Bool}
    (ran : deleteBlobRecordTx lib sha before store = .ok (deleted, after)) :
    deleted = decide (0 < store.blobs.count fun blob =>
        blob.sha256 = sha && blob.isReclaimable lib before) ∧
      (deleted → ¬store.Names sha) ∧
      after = { store with
        blobs := store.blobs.deleteWhere fun blob =>
          blob.sha256 = sha && blob.isReclaimable lib before } := by
  change (refuseIf _ _ >>= fun _ => _) store = _ at ran
  unfold refuseIf at ran
  split at ran
  next => cases ran
  next passes =>
    cases ran
    refine ⟨rfl, ?_, rfl⟩
    intro deleted named
    apply passes
    refine ⟨of_decide_eq_true deleted, ?_⟩
    rcases named with ⟨row, member, rfl⟩ | ⟨row, member, rfl⟩
    · apply Nat.add_pos_left
      exact countP_pos_iff.mpr ⟨row, member, decide_eq_true rfl⟩
    · apply Nat.add_pos_right
      exact countP_pos_iff.mpr ⟨row, member, decide_eq_true rfl⟩

theorem names_deleteBlobRecord {answer : Except Error Bool}
    (ran : deleteBlobRecord lib sha before store = (answer, after)) {digest : String}
    (named : after.Names digest) : store.Names digest := by
  cases answer with
  | error => exact eq_of_atomically_error ran ▸ named
  | ok =>
    obtain ⟨-, -, rfl⟩ := deleteBlobRecordTx_ok (eq_ok_of_atomically ran)
    exact named

end Records

/-- While the sweeper works on a digest, no task without the read guard has put it and is
still to name it, and none puts it before its old bytes are gone. -/
def Unraced (state : State) : Event → Prop
  | .deleteRecord => ∀ sha ∈ state.sweeper.reclaiming, ∀ writer ∈ state.writers,
      writer.kind.guarded = false → sha ∉ writer.put
  | .put index digest => ∀ writer ∈ state.writers[index]?,
      writer.kind.guarded = false → digest ∉ state.sweeper.unrecorded
  | _ => True

structure Sound (state : State) : Prop where
  named : ∀ digest, state.store.Names digest → digest ∈ state.bytes
  pending : ∀ writer ∈ state.writers, ∀ digest ∈ writer.put, digest ∈ state.bytes
  unnamed : ∀ sha ∈ state.sweeper.unrecorded, ¬state.store.Names sha
  unput : ∀ sha ∈ state.sweeper.unrecorded, ∀ writer ∈ state.writers, sha ∉ writer.put

theorem sound_initial {state : State} (initially : Initial state) : Sound state := by
  cases initially
  constructor
  · rintro _ (⟨row, member, -⟩ | ⟨_, member, -⟩)
    · cases member
    · cases member
  · simp
  · intro _ gone
    cases gone
  · intro _ gone
    cases gone

namespace Sound

variable {state : State}

theorem withStore (sound : Sound state) {store : Store}
    (names : ∀ digest, store.Names digest → state.store.Names digest ∨
      ∃ writer ∈ state.writers, digest ∈ writer.put) : Sound { state with store := store } := by
  constructor
  · intro digest named
    rcases names digest named with before | ⟨writer, member, put⟩
    · exact sound.named digest before
    · exact sound.pending writer member digest put
  · exact sound.pending
  · intro sha gone named
    rcases names sha named with before | ⟨writer, member, put⟩
    · exact sound.unnamed sha gone before
    · exact sound.unput sha gone writer member put
  · exact sound.unput

theorem withWriters (sound : Sound state) {writers : List Writer}
    (each : ∀ writer ∈ writers, writer.put = [] ∨ ∃ old ∈ state.writers, old.put = writer.put) :
    Sound { state with writers := writers } := by
  constructor
  · exact sound.named
  · intro writer member digest put
    rcases each writer member with nothing | ⟨old, oldMember, same⟩
    · rw [nothing] at put
      cases put
    · exact sound.pending old oldMember digest (same ▸ put)
  · exact sound.unnamed
  · intro sha gone writer member
    rcases each writer member with nothing | ⟨old, oldMember, same⟩
    · rw [nothing]
      exact not_mem_nil
    · exact same ▸ sound.unput sha gone old oldMember

theorem withSweeper (sound : Sound state) {sweeper : Sweeper}
    (recorded : sweeper.unrecorded = none) : Sound { state with sweeper := sweeper } := by
  constructor
  · exact sound.named
  · exact sound.pending
  · intro sha gone
    rw [recorded] at gone
    cases gone
  · intro _ gone
    rw [recorded] at gone
    cases gone

theorem enter (sound : Sound state) (kind : WriterKind) : Sound (state.enter kind) := by
  apply sound.withWriters
  intro writer member
  rcases mem_append.mp member with old | new
  · exact .inr ⟨writer, old, rfl⟩
  · cases mem_singleton.mp new
    exact .inl rfl

variable {lib : Libraries}

section

variable (sound : Sound state)
include sound

variable {now : Time}

theorem run {request : Request} (keepsRecords : request.reclaims = false)
    (given : ∀ digest ∈ request.refers, ∃ writer ∈ state.writers, digest ∈ writer.put) :
    Sound { state with store := runRequest lib now state.store request } := by
  apply sound.withStore
  intro digest named
  have executed := @executes_runRequest lib now request keepsRecords state.store
  exact (executed.names named).imp_right (given digest)

variable {after : State}

theorem receive {request : ArtifactUploadRequest}
    (taken : state.receive lib now request = some after) : Sound after := by
  obtain ⟨-, store, ran, rfl⟩ := State.receive_cases taken
  have created : store = runRequest lib now state.store
      (.command (.createUploadRequest request)) := (congrArg Prod.snd ran).symm
  rw [created]
  exact (sound.run rfl (by simp [Request.refers])).enter _

variable {index : Nat} {writer : Writer}

theorem guard (found : state.writers[index]? = some writer) :
    Sound (state.update index { writer with guarding := true }) := by
  apply sound.withWriters
  intro other changed
  rcases mem_or_eq_of_mem_set changed with old | rfl
  · exact .inr ⟨other, old, rfl⟩
  · exact .inr ⟨writer, mem_of_getElem? found, rfl⟩

theorem put {digest : String}
    (found : state.writers[index]? = some writer) (unraced : digest ∉ state.sweeper.unrecorded) :
    Sound { state.update index { writer with put := digest :: writer.put } with
      bytes := digest :: state.bytes } := by
  have member := mem_of_getElem? found
  constructor
  · intro name named
    exact mem_cons_of_mem _ (sound.named name named)
  · intro other changed name put
    rcases mem_or_eq_of_mem_set changed with old | rfl
    · exact mem_cons_of_mem _ (sound.pending other old name put)
    · rcases mem_cons.mp put with rfl | before
      · exact mem_cons_self
      · exact mem_cons_of_mem _ (sound.pending writer member name before)
  · exact sound.unnamed
  · intro sha gone other changed
    rcases mem_or_eq_of_mem_set changed with old | rfl
    · exact sound.unput sha gone other old
    · rw [mem_cons, not_or]
      refine ⟨?_, sound.unput sha gone writer member⟩
      rintro rfl
      exact unraced gone

theorem deleteRecord (exclusive : Exclusive state)
    (unraced : Unraced state .deleteRecord) (taken : state.deleteRecord lib = some after) :
    Sound after := by
  obtain ⟨cutoff, sha, rest, _, store, sweeperEq, ran, result⟩ :=
    State.deleteRecord_cases taken
  have kept : Sound { state with store := store } :=
    sound.withStore fun _ named => .inl (names_deleteBlobRecord ran named)
  have held : sha ∈ state.sweeper.reclaiming := by
    rw [sweeperEq]
    rfl
  rcases result with ⟨rfl, rfl⟩ | ⟨-, rfl⟩
  · have unnamed := (deleteBlobRecordTx_ok (eq_ok_of_atomically ran)).2.1 rfl
    constructor
    · exact kept.named
    · exact kept.pending
    · rintro _ ⟨⟩ named
      exact unnamed (names_deleteBlobRecord ran named)
    · rintro _ ⟨⟩ writer member
      cases guarded : writer.kind.guarded with
      | false => exact unraced sha held writer member guarded
      | true =>
        -- The write guard has kept this task from putting anything.
        rw [exclusive.put_eq_nil held member guarded]
        exact not_mem_nil
  · exact kept.withSweeper (unrecorded_next cutoff rest)

theorem deleteBytes {removed : Bool}
    (taken : state.deleteBytes removed = some after) : Sound after := by
  obtain ⟨cutoff, sha, rest, sweeperEq, rfl⟩ := State.deleteBytes_cases taken
  have gone : sha ∈ state.sweeper.unrecorded := by
    rw [sweeperEq]
    rfl
  have released := sound.withSweeper (unrecorded_next cutoff rest)
  constructor
  · intro digest named
    apply State.mem_bytes_of_ne (sound.named digest named)
    rintro rfl
    exact sound.unnamed digest gone named
  · intro writer member digest put
    apply State.mem_bytes_of_ne (sound.pending writer member digest put)
    rintro rfl
    exact sound.unput digest gone writer member put
  · exact released.unnamed
  · exact released.unput

theorem step (exclusive : Exclusive state) {event : Event}
    (unraced : Unraced state event) (taken : Step lib state event after) : Sound after := by
  cases event with
  | start kind =>
    obtain ⟨-, afterEq⟩ := ite_none_left_eq_some.mp taken
    cases afterEq
    exact sound.enter kind
  | receive => exact sound.receive taken
  | guard =>
    obtain ⟨writer, found, result⟩ := bind_eq_some_iff.mp taken
    obtain ⟨-, rfl⟩ := of_guard result
    exact sound.guard found
  | put _ digest =>
    obtain ⟨writer, found, result⟩ := bind_eq_some_iff.mp taken
    obtain ⟨ready, rfl⟩ := of_guard result
    apply sound.put found
    intro gone
    have free := exclusive.excluded digest (reclaiming_of_unrecorded gone) writer
      (mem_of_getElem? found)
    simp only [Writer.ready, free, Bool.false_or, Bool.not_eq_true'] at ready
    exact unraced writer found ready gone
  | commit =>
    obtain ⟨writer, found, result⟩ := bind_eq_some_iff.mp taken
    obtain ⟨⟨issued, -, given⟩, rfl⟩ := of_guard result
    apply sound.run (reclaims_of_issuer (by simp [issued]))
    intro digest referred
    exact ⟨writer, mem_of_getElem? found, given digest (mem_append_left _ referred)⟩
  | leave =>
    cases taken
    apply sound.withWriters
    intro writer member
    exact .inr ⟨writer, mem_of_mem_eraseIdx member, rfl⟩
  | request _ request =>
    obtain ⟨issued, rfl⟩ := of_guard taken
    apply sound.run (reclaims_of_issuer (by simp [issued]))
    rw [show request.refers = [] from congrArg Effects.refs (effects_of_anyone issued)]
    intro _ referred
    cases referred
  | list =>
    obtain ⟨-, rfl⟩ := of_guard taken
    exact sound.withSweeper (unrecorded_next _ _)
  | lock =>
    obtain ⟨cutoff, _, rest, -, -, rfl⟩ := State.lock_cases taken
    exact sound.withSweeper rfl
  | deleteRecord => exact sound.deleteRecord exclusive unraced taken
  | recordFails =>
    obtain ⟨_, _, rfl⟩ := State.skipDigest_cases taken
    exact sound.withSweeper (unrecorded_next _ _)
  | deleteBytes => exact sound.deleteBytes taken
  | restart =>
    cases taken
    exact (@withWriters state sound [] (by simp)).withSweeper rfl

end

end Sound

/-- Artifacts and cached indexes point at stored bytes. -/
theorem rows_mem_bytes {lib : Libraries} {state : State}
    (reached : Reachable Initial (Step lib) Unraced state) :
    (∀ row ∈ state.store.artifacts.rows, row.blobSha256 ∈ state.bytes) ∧
      ∀ row ∈ state.store.groupMetadataCache.rows, row.blobSha256 ∈ state.bytes := by
  have sound : Exclusive state ∧ Sound state := by
    apply reached.invariant
    · intro _ initially
      exact ⟨exclusive_initial initially, sound_initial initially⟩
    · intro _ _ _ before unraced taken
      exact ⟨before.1.step taken, before.2.step before.1 unraced taken⟩
  constructor
  · intro row member
    exact sound.2.named _ (.inl ⟨row, member, rfl⟩)
  · intro row member
    exact sound.2.named _ (.inr ⟨row, member, rfl⟩)

/-! ## An index put while its old bytes are deleted -/

def leadingZeros (text : String) : Nat := (text.toList.takeWhile (· = '0')).length

/-- Libraries whose text of a time begins with one zero for each second. -/
def unaryClock : Libraries where
  dateTime seconds := String.ofList (List.replicate seconds.toNat '0')
  parseRfc3339 text := some (leadingZeros text * second)
  julianday text := some (leadingZeros text)
  validJson _ := true
  stringField _ _ := none
  groupMembers _ := some []

def npmGroup : Repository := { name := "npm", format := "npm", type := .group }

def mergedIndex : GroupMetadataCache :=
  { key := ⟨1, "pkg", "npm"⟩, blobSha256 := "index", size := 1 }

/-- A merged index is cached, and a change of the group drops it. -/
def droppedIndex : List Event :=
  [.request 0 (.command (.createRepository npmGroup)), .start .serveGroupMetadata,
    .put 0 "index", .commit 0 0 (.command (.putGroupMetadataCache mergedIndex)), .leave 0,
    .request 0 (.command (.updateRepositoryConfig 1 "" ""))]

/-- The same index is merged again while the sweeper reclaims it. -/
def racedIndex : List Event :=
  droppedIndex ++
    [.start .serveGroupMetadata, .put 0 "index", .list (2 * second) 1000000000 ["index"], .lock,
      .deleteRecord, .deleteBytes true,
      .commit 0 (2 * second) (.command (.putGroupMetadataCache mergedIndex))]

/-- The cached index points at bytes that are gone. -/
theorem row_without_bytes :
    ∃ state, Reachable Initial (Step unaryClock) (fun _ _ => True) state ∧
      ∃ row ∈ state.store.groupMetadataCache.rows, row.blobSha256 ∉ state.bytes := by
  apply Reachable.exists_of_follow (act unaryClock) racedIndex (show Initial _ from rfl)
  · exact fun _ _ _ taken => taken
  · decide +kernel

instance (state : State) : (event : Event) → Decidable (Unraced state event)
  | .deleteRecord => inferInstanceAs (Decidable (∀ _ ∈ _, ∀ _ ∈ _, _))
  | .put _ _ => inferInstanceAs (Decidable (∀ _ ∈ _, _))
  | .start _ | .receive _ _ | .guard _ | .commit _ _ _ | .leave _ | .request _ _ | .list _ _ _
  | .lock | .recordFails | .deleteBytes _ | .restart => isTrue trivial

/-- The same index is merged again after the sweeper reclaimed it. -/
def sweptIndex : List Event :=
  droppedIndex ++
    [.list (2 * second) 1000000000 ["index"], .lock, .deleteRecord, .deleteBytes true,
      .start .serveGroupMetadata, .put 0 "index",
      .commit 0 (2 * second) (.command (.putGroupMetadataCache mergedIndex))]

theorem rows_mem_bytes_swept :
    ∃ state : State, state.store.groupMetadataCache.rows.length = 1 ∧
      (∀ row ∈ state.store.artifacts.rows, row.blobSha256 ∈ state.bytes) ∧
      ∀ row ∈ state.store.groupMetadataCache.rows, row.blobSha256 ∈ state.bytes := by
  have run : ∃ state, Reachable Initial (Step unaryClock) Unraced state ∧
      state.store.groupMetadataCache.rows.length = 1 := by
    apply Reachable.exists_of_follow (act unaryClock) sweptIndex (show Initial _ from rfl)
    · exact fun _ _ _ taken => taken
    · decide +kernel
  obtain ⟨state, reached, cached⟩ := run
  exact ⟨state, cached, rows_mem_bytes reached⟩

end Addons.BlobSweeping
