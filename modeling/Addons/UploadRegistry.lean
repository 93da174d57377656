import Addons.ReferenceOperations

/-!
# The registry of uploads

The requests of uploads and the ids of repositories, as the operations of the store change
them.
-/

namespace Addons.MetaStore

open Transaction List

section Uploads

variable (lib : Libraries) (now : Time)

def scanUploadRequest (row : UploadRequestRow) : ArtifactUploadRequest where
  key := row.key
  uploadId := row.uploadId
  state := some row.state
  planJson := row.planJson
  resultJson := row.resultJson
  createdAt := parseTime lib row.createdAt
  updatedAt := parseTime lib row.updatedAt
  expiresAt := parseTime lib row.expiresAt

def foundUploadRequest : Option UploadRequestRow → Operation ArtifactUploadRequest
  | none => throw .notFound
  | some row => pure (scanUploadRequest lib row)

def getUploadRequest (key : UploadRequestKey) : Operation ArtifactUploadRequest := do
  let store ← get
  foundUploadRequest lib (store.uploadRequests.find? key)

def getUploadRequestById (uploadId : String) : Operation ArtifactUploadRequest := do
  let store ← get
  foundUploadRequest lib (store.uploadRequests.select fun row => row.uploadId = uploadId).head?

variable {lib} in
theorem getUploadRequestById_ok {uploadId : String} {store rest : Store}
    {request : ArtifactUploadRequest}
    (found : getUploadRequestById lib uploadId store = (.ok request, rest)) :
    ∃ row ∈ store.uploadRequests.rows, row.uploadId = uploadId ∧
      request = scanUploadRequest lib row := by
  change foundUploadRequest lib _ store = _ at found
  generalize rowEq : List.head? _ = row? at found
  cases row? with
  | none => cases found
  | some row =>
    cases found
    obtain ⟨member, same⟩ := List.mem_filter.mp (List.mem_of_mem_head? rowEq)
    exact ⟨row, member, of_decide_eq_true same, rfl⟩

/-- Move the upload on from the expected state, and tell how many rows that concerned. -/
def updateUploadState (uploadId : String) (expected next : UploadState) (planJson : String)
    (expiresAt : Time) : Tx Nat := do
  let store ← get
  let condition (row : UploadRequestRow) : Bool := row.uploadId = uploadId && row.state = expected
  modify fun store =>
    { store with
      uploadRequests := store.uploadRequests.updateWhere condition
        (fun row =>
          { row with
            state := next
            planJson := planJson
            updatedAt := formatTime lib now
            expiresAt := formatTime lib expiresAt })
        fun _ => rfl }
  pure (store.uploadRequests.count condition)

/-- Persist a state other than committed. -/
def setUploadState (uploadId : String) (expected next : UploadState) (planJson : String)
    (expiresAt : Time) : Operation Unit :=
  if next = .committed then throw (.other "committed state requires ApplyArtifactBatch")
  else do
    let affected ← atomically (updateUploadState lib now uploadId expected next planJson expiresAt)
    if affected = 1 then pure () else throw .uploadState

/-- Release the staged blobs and end a retained plan. -/
def cancelUploadConflictTx (uploadId : String) : Tx Unit := do
  let store ← get
  let condition (row : UploadRequestRow) : Bool := row.uploadId = uploadId && row.state = .conflict
  modify fun store =>
    { store with
      stagedBlobs := store.stagedBlobs.deleteWhere fun row => row.uploadId = uploadId
      uploadRequests := store.uploadRequests.updateWhere condition
        (fun row =>
          { row with state := .failed, planJson := "", updatedAt := formatTime lib now })
        fun _ => rfl }
  refuseIf (store.uploadRequests.count condition ≠ 1) .uploadState

def cancelUploadConflict (uploadId : String) : Operation Unit :=
  atomically (cancelUploadConflictTx lib now uploadId)

end Uploads

/-- What `list_unreferenced_blobs` can answer: digests whose grace period is over, as many
as there are up to the limit, in no particular order. -/
def ListsUnreferencedBlobs (lib : Libraries) (store : Store) (limit : Nat) (before : Time)
    (shas : List String) : Prop :=
  shas.Nodup ∧
    (∀ sha ∈ shas, (store.blobs.find? sha).any fun blob => blob.isReclaimable lib before) ∧
    shas.length = min limit (store.blobs.count fun blob => blob.isReclaimable lib before)

instance (lib : Libraries) (store : Store) (limit : Nat) (before : Time) (shas : List String) :
    Decidable (ListsUnreferencedBlobs lib store limit before shas) :=
  inferInstanceAs (Decidable (_ ∧ _ ∧ _))

section Requests

/-- An operation of the store with its arguments. -/
inductive Request where
  | command (command : Command)
  | setUploadState (uploadId : String) (expected next : UploadState) (planJson : String)
      (expiresAt : Time)
  | cancelUploadConflict (uploadId : String)

def runRequest (lib : Libraries) (now : Time) (store : Store) : Request → Store
  | .command command => runCommand lib now store command
  | .setUploadState uploadId expected next planJson expiresAt =>
    (setUploadState lib now uploadId expected next planJson expiresAt store).2
  | .cancelUploadConflict uploadId => (cancelUploadConflict lib now uploadId store).2

/-- The digests that the request makes rows name. -/
def Request.refers : Request → List String
  | .command (.putArtifact artifact) => [artifact.blobSha256]
  | .command (.applyArtifactBatch _ batch) => batch.artifacts.map Artifact.blobSha256
  | .command (.applyPublicationLifecycle batch) =>
    batch.mutableCas.map fun cas => cas.artifact.blobSha256
  | .command (.putGroupMetadataCache cache) => [cache.blobSha256]
  | _ => []

/-- The blobs that the request stages, each with its upload. -/
def Request.leases : Request → List (String × String)
  | .command (.leaseUploadBlob uploadId sha256 _) => [(uploadId, sha256)]
  | _ => []

/-- The uploads that the request may leave in conflict. -/
def Request.retained : Request → List String
  | .command (.createUploadRequest request) =>
    if request.state = some .conflict then [request.uploadId] else []
  | .setUploadState uploadId _ .conflict _ _ => [uploadId]
  | _ => []

def Request.effects (request : Request) : Effects :=
  ⟨request.refers, request.leases, request.retained⟩

/-- Only the sweeper removes records of blobs. -/
def Request.reclaims : Request → Bool
  | .command (.deleteBlobRecord _ _) => true
  | _ => false

variable {lib : Libraries} {now : Time} {effects : Effects} {start : Store}

theorem executes_applyArtifactBatch {batch : ArtifactBatch} (key : UploadRequestKey)
    (given : ∀ artifact ∈ batch.artifacts, artifact.blobSha256 ∈ effects.refs) :
    Keeps (Executes lib now effects start) (applyArtifactBatch lib now key batch) := by
  unfold applyArtifactBatch
  dsimp only
  split
  · exact keeps_throw _
  · apply keeps_atomically
    refine executes_steps.toBatchSteps.applyArtifactBatchTx ?_ (executes_steps.invalidate _ _)
      fun uploadId expected _ => executes_settle uploadId expected _ _ (fun _ => rfl) nofun
    intro artifact listed
    split at listed
    · exact given artifact listed
    · exact given artifact listed

/-- A command of the store, the removal of a blob's record apart, is a sequence of
statements that name no digest and stage no blob but its own. -/
theorem executes_runCommand {command : Command}
    (keepsRecords : (Request.command command).reclaims = false) (store : Store) :
    Executes lib now (Request.command command).effects store
      (runCommand lib now store command) := by
  cases command with
  | createRepository repository =>
    exact (keeps_createRepository (executes_createRepositoryTx repository)).kept store .refl
  | putArtifact =>
    exact (keeps_putArtifact (executes_steps.putArtifactTx (mem_singleton_self _)
      (executes_steps.invalidate _ _))).kept store .refl
  | ensureBlob sha256 size =>
    exact (keeps_atomically (executes_steps.insertBlob sha256 size)).kept store .refl
  | deleteArtifact repoId path =>
    exact (keeps_atomically (executes_steps.deleteArtifactTx
      (executes_steps.invalidate repoId path))).kept store .refl
  | forceDeleteArtifact repoId path =>
    exact (keeps_atomically (executes_steps.forceDeleteArtifactTx
      (executes_steps.invalidate repoId path))).kept store .refl
  | purgeArtifacts repoId =>
    exact (keeps_atomically (executes_purgeArtifactsTx repoId)).kept store .refl
  | evictLru repoId =>
    exact (keeps_evictLru fun _ => executes_steps.deleteArtifactTx
      (executes_steps.invalidate repoId _)).kept store .refl
  | createUploadRequest =>
    refine (keeps_atomically (executes_createUploadRequestTx ?_)).kept store .refl
    intro conflict
    simp [Request.effects, Request.retained, conflict]
  | leaseUploadBlob _ _ size =>
    exact (keeps_atomically (executes_leaseUploadBlobTx size (mem_singleton_self _))).kept
      store .refl
  | applyArtifactBatch key =>
    exact (executes_applyArtifactBatch key fun artifact listed =>
      mem_map_of_mem listed).kept store .refl
  | applyPublicationLifecycle =>
    refine (keeps_applyPublicationLifecycle (executes_steps.toBatchSteps.applyPublicationLifecycleTx
      ?_ (executes_steps.invalidate _ _)
      (executes_steps.toBatchSteps.settlePublication _))).kept store .refl
    exact fun cas listed => mem_map.mpr ⟨cas, listed, rfl⟩
  | putGroupMetadataCache =>
    exact (keeps_atomically (executes_steps.putGroupMetadataCacheTx
      (executes_upsertGroupCache (mem_singleton_self _)))).kept store .refl
  | updateRepositoryConfig id =>
    exact (keeps_atomically (executes_updateRepositoryConfigTx id _ _)).kept store .refl
  | setRepositoryDisabled id disabled =>
    exact (keeps_atomically (executes_setRepositoryDisabledTx id disabled)).kept store .refl
  | deleteRepository id =>
    exact (keeps_atomically (executes_deleteRepositoryTx id)).kept store .refl
  | deleteBlobRecord => exact absurd keepsRecords (by simp [Request.reclaims])

theorem executes_setUploadState {uploadId : String} {next : UploadState} (expected : UploadState)
    (planJson : String) (expiresAt : Time)
    (given : next = .conflict → uploadId ∈ effects.retained) :
    Keeps (Executes lib now effects start)
      (setUploadState lib now uploadId expected next planJson expiresAt) := by
  unfold setUploadState
  split
  · exact keeps_throw _
  · apply keeps_bind
    · apply keeps_atomically
      apply preserves_bind preserves_get
      intro _
      refine preserves_bind (executes_modify fun _ => ?_) fun _ => preserves_pure _
      apply Statement.updateUploads
      · exact fun _ => rfl
      · intro row selected conflict
        simp only [Bool.and_eq_true, decide_eq_true_eq] at selected
        rw [selected.1]
        exact given conflict
    · intro _
      split
      · exact keeps_pure _
      · exact keeps_throw _

theorem executes_runRequest {request : Request} (keepsRecords : request.reclaims = false)
    (store : Store) :
    Executes lib now request.effects store (runRequest lib now store request) := by
  cases request with
  | command => exact executes_runCommand keepsRecords store
  | setUploadState _ expected _ planJson expiresAt =>
    refine (executes_setUploadState expected planJson expiresAt ?_).kept store .refl
    rintro rfl
    exact mem_singleton_self _
  | cancelUploadConflict uploadId =>
    refine (keeps_atomically ?_).kept store .refl
    exact executes_settle uploadId .conflict _ _ (fun _ => rfl) nofun

end Requests

/-! ## Views of the store -/

abbrev Shows {View : Type} (view : Store → View) (shown : View) (store : Store) : Prop :=
  view store = shown

/-- The view reads neither the blobs nor the cached indexes. -/
structure IgnoresBlobs {View : Type} (view : Store → View) : Prop where
  blobs : ∀ (store : Store) (blobs : KeyedTable BlobRow.sha256),
    view { store with blobs := blobs } = view store
  caches : ∀ (store : Store) (caches : KeyedTable GroupCacheRow.key),
    view { store with groupMetadataCache := caches } = view store

structure IgnoresArtifacts {View : Type} (view : Store → View) : Prop
    extends IgnoresBlobs view where
  artifacts : ∀ (store : Store) (artifacts : KeyedTable ArtifactRow.key),
    view { store with artifacts := artifacts } = view store
  publications : ∀ (store : Store) (publications : KeyedTable PublicationRow.id),
    view { store with publications := publications } = view store
  tombstones : ∀ (store : Store) (tombstones : KeyedTable TombstoneRow.key),
    view { store with tombstones := tombstones } = view store
  stagedBlobs : ∀ (store : Store) (stagedBlobs : KeyedTable StagedBlobRow.key),
    view { store with stagedBlobs := stagedBlobs } = view store

variable {lib : Libraries} {now : Time} {View : Type} {view : Store → View} {shown : View}

theorem shows_modify {change : Store → Store} (same : ∀ store, view (change store) = view store) :
    Preserves (Shows view shown) (modify change : Tx Unit) :=
  ensures_modify fun store shows => (same store).trans shows

theorem IgnoresBlobs.steps (ignores : IgnoresBlobs view) :
    BlobSteps lib now (Shows view shown) where
  insertBlob _ _ := shows_modify fun store => ignores.blobs store _
  insertCacheBlob _ _ := shows_modify fun store => ignores.blobs store _
  adjustRef _ _ := shows_modify fun store => ignores.blobs store _
  dropGroupCaches _ := shows_modify fun store => ignores.caches store _

theorem IgnoresArtifacts.steps (ignores : IgnoresArtifacts view) :
    ArtifactSteps lib now (fun _ => True) (Shows view shown) where
  toBlobSteps := ignores.toIgnoresBlobs.steps
  upsertArtifact row _ := by
    apply preserves_guard
    intro _
    exact shows_modify fun store => ignores.artifacts store _
  deleteArtifactRow _ _ := shows_modify fun store => ignores.artifacts store _
  deletePublicationRow id := by
    apply shows_modify
    intro store
    have disowned := ignores.artifacts
      { store with publications := store.publications.deleteWhere fun row => row.id = id }
      (disown store.artifacts fun row => row.publicationId = some id)
    exact disowned.trans (ignores.publications store _)
  putPublications _ := shows_modify fun store => ignores.publications store _
  putTombstones _ := shows_modify fun store => ignores.tombstones store _

section Blobs

variable (ignores : IgnoresBlobs view)

include ignores

theorem shows_putGroupMetadataCacheTx (cache : GroupMetadataCache) :
    Preserves (Shows view shown) (putGroupMetadataCacheTx lib now cache) := by
  apply ignores.steps.putGroupMetadataCacheTx
  apply preserves_guard
  intro _
  exact shows_modify fun store => ignores.caches store _

theorem shows_deleteBlobRecordTx (sha : String) (before : Time) :
    Preserves (Shows view shown) (deleteBlobRecordTx lib sha before) := by
  apply preserves_guard
  intro _
  apply preserves_bind (shows_modify fun store => ignores.blobs store _)
  intro _
  exact preserves_pure _

end Blobs

section Artifacts

variable (ignores : IgnoresArtifacts view)

include ignores

theorem shows_purgeArtifactsTx (repoId : Int) :
    Preserves (Shows view shown) (purgeArtifactsTx lib now repoId) := by
  apply preserves_guard
  intro _
  apply preserves_bind (shows_modify fun store => ignores.blobs store _)
  intro _
  apply preserves_bind (shows_modify fun store => ignores.artifacts store _)
  intro _
  exact preserves_pure _

theorem shows_leaseUploadBlobTx (uploadId sha256 : String) (size : Int) :
    Preserves (Shows view shown) (leaseUploadBlobTx lib now uploadId sha256 size) := by
  apply preserves_bind (ignores.steps.insertBlob _ _)
  intro _
  apply preserves_guard
  intro _
  exact shows_modify fun store => ignores.stagedBlobs store _

end Artifacts

open KeyedTable UploadRequestRow ArtifactBatch

structure Registry where
  repositoryIds : List Int
  lastRepositoryId : Int
  uploadRequests : KeyedTable UploadRequestRow.key

def Store.registry (store : Store) : Registry where
  repositoryIds := store.repositories.rows.map Repository.id
  lastRepositoryId := store.lastRepositoryId
  uploadRequests := store.uploadRequests

theorem registry_ignoresArtifacts : IgnoresArtifacts Store.registry where
  blobs _ _ := rfl
  caches _ _ := rfl
  artifacts _ _ := rfl
  publications _ _ := rfl
  tombstones _ _ := rfl
  stagedBlobs _ _ := rfl

theorem registry_steps {lib : Libraries} {now : Time} {shown : Registry} :
    ArtifactSteps lib now (fun _ => True) (Shows Store.registry shown) :=
  registry_ignoresArtifacts.steps

namespace Registry

variable (registry : Registry)

def settle (uploadId : String) (expected : UploadState)
    (change : UploadRequestRow → UploadRequestRow) (keeps : ∀ row, (change row).key = row.key) :
    Registry :=
  { registry with
    uploadRequests := registry.uploadRequests.updateWhere
      (fun row => row.uploadId = uploadId && row.state = expected) change keeps }

def reserve (row : UploadRequestRow) : Registry :=
  { registry with
    uploadRequests := registry.uploadRequests.upsert row id fun _ => rfl }

structure Sound : Prop where
  listed : ∀ id ∈ registry.repositoryIds, id ≤ registry.lastRepositoryId
  held : ∀ row ∈ registry.uploadRequests.rows, row.key.repoId ∈ registry.repositoryIds
  unique : ∀ left ∈ registry.uploadRequests.rows, ∀ right ∈ registry.uploadRequests.rows,
    left.uploadId = right.uploadId → left = right

variable {registry} {after : Registry}

section Settling

variable {uploadId : String} {expected : UploadState} {change : UploadRequestRow → UploadRequestRow}
  {keeps : ∀ row, (change row).key = row.key} {row : UploadRequestRow} {key : UploadRequestKey}

theorem mem_settle
    (member : row ∈ (registry.settle uploadId expected change keeps).uploadRequests.rows) :
    (row ∈ registry.uploadRequests.rows ∧ ¬(row.uploadId = uploadId ∧ row.state = expected)) ∨
      ∃ old ∈ registry.uploadRequests.rows, old.uploadId = uploadId ∧ old.state = expected ∧
        row = change old := by
  obtain ⟨old, oldMember, rfl⟩ := mem_map.mp member
  unfold updated
  split
  next selected =>
    simp only [Bool.and_eq_true, decide_eq_true_eq] at selected
    exact .inr ⟨old, oldMember, selected.1, selected.2, rfl⟩
  next other =>
    simp only [Bool.and_eq_true, decide_eq_true_eq] at other
    exact .inl ⟨oldMember, other⟩

theorem find?_settle_of_not (found : registry.uploadRequests.find? key = some row)
    (other : ¬(row.uploadId = uploadId ∧ row.state = expected)) :
    (registry.settle uploadId expected change keeps).uploadRequests.find? key = some row := by
  unfold settle
  rw [find?_updateWhere, found, Option.map_some, updated, if_neg]
  simpa using other

theorem find?_settle_eq_none :
    (registry.settle uploadId expected change keeps).uploadRequests.find? key = none ↔
      registry.uploadRequests.find? key = none := by
  unfold settle
  rw [find?_updateWhere, Option.map_eq_none_iff]

end Settling

variable {row : UploadRequestRow}

theorem Sound.reserve (sound : registry.Sound)
    (unused : ∀ other ∈ registry.uploadRequests.rows, other.uploadId ≠ row.uploadId)
    (held : row.key.repoId ∈ registry.repositoryIds) : (registry.reserve row).Sound := by
  constructor
  · exact sound.listed
  · intro other member
    rcases mem_putUpload member with old | rfl
    · exact sound.held other old
    · exact held
  · intro left leftMember right rightMember same
    rcases mem_putUpload leftMember with oldLeft | rfl
    · rcases mem_putUpload rightMember with oldRight | rfl
      · exact sound.unique left oldLeft right oldRight same
      · exact absurd same (unused left oldLeft)
    · rcases mem_putUpload rightMember with oldRight | rfl
      · exact absurd same.symm (unused right oldRight)
      · rfl

theorem Sound.settle (sound : registry.Sound) (uploadId : String) (expected : UploadState)
    {change : UploadRequestRow → UploadRequestRow} (keeps : ∀ row, (change row).key = row.key)
    (sameUpload : ∀ row, (change row).uploadId = row.uploadId) :
    (registry.settle uploadId expected change keeps).Sound := by
  constructor
  · exact sound.listed
  · intro row member
    rcases mem_settle member with ⟨kept, -⟩ | ⟨old, oldMember, -, -, rfl⟩
    · exact sound.held row kept
    · rw [keeps]
      exact sound.held old oldMember
  · exact unique_update keeps sameUpload sound.unique

def cancelled (text : String) (row : UploadRequestRow) : UploadRequestRow :=
  { row with state := .failed, planJson := "", updatedAt := text }

/-- What the operations that reserve, commit or retain no upload can do to the registry. -/
inductive OutsideChange (registry : Registry) : Registry → Prop where
  | same : OutsideChange registry registry
  | createRepository (ids : List Int) (listed : ∀ id, id ∈ ids ↔
        id ∈ registry.repositoryIds ∨ id = registry.lastRepositoryId + 1) :
      OutsideChange registry { registry with
        repositoryIds := ids, lastRepositoryId := registry.lastRepositoryId + 1 }
  | deleteRepository (id : Int) :
      OutsideChange registry { registry with
        repositoryIds := registry.repositoryIds.filter (· ≠ id)
        uploadRequests := registry.uploadRequests.deleteWhere fun row => row.key.repoId = id }
  | cancel (uploadId text : String) :
      OutsideChange registry (registry.settle uploadId .conflict (cancelled text) fun _ => rfl)

theorem OutsideChange.mem (changes : OutsideChange registry after)
    (member : row ∈ after.uploadRequests.rows) :
    row ∈ registry.uploadRequests.rows ∨ ∃ old ∈ registry.uploadRequests.rows,
      old.uploadId = row.uploadId ∧ row.state = .failed := by
  cases changes with
  | same | createRepository => exact .inl member
  | deleteRepository => exact .inl (mem_of_mem_deleteWhere member)
  | cancel =>
    rcases mem_settle member with ⟨kept, -⟩ | ⟨old, oldMember, -, -, rfl⟩
    · exact .inl kept
    · exact .inr ⟨old, oldMember, rfl, rfl⟩

theorem Sound.outside (sound : registry.Sound) (changes : OutsideChange registry after) :
    after.Sound := by
  cases changes with
  | same => exact sound
  | createRepository _ listed =>
    constructor
    · intro id member
      change id ≤ registry.lastRepositoryId + 1
      rcases (listed id).mp member with old | rfl
      · have bound := sound.listed id old
        omega
      · exact Int.le_refl _
    · intro row member
      exact (listed _).mpr (.inl (sound.held row member))
    · exact sound.unique
  | deleteRepository =>
    constructor
    · intro other member
      exact sound.listed other (mem_filter.mp member).1
    · intro row member
      obtain ⟨old, kept⟩ := mem_filter.mp member
      apply mem_filter.mpr
      exact ⟨sound.held row old, by simpa using kept⟩
    · intro left leftMember right rightMember
      exact sound.unique left (mem_of_mem_deleteWhere leftMember) right
        (mem_of_mem_deleteWhere rightMember)
  | cancel uploadId text =>
    exact @Sound.settle registry sound uploadId .conflict (cancelled text) (fun _ => rfl)
      fun _ => rfl

end Registry

section Operations

variable {lib : Libraries} {now : Time} {store after : Store}

def uploadRequestRow (lib : Libraries) (now : Time) (request : ArtifactUploadRequest) :
    UploadRequestRow :=
  let createdAt := if isZero request.createdAt then now else request.createdAt
  { key := request.key
    uploadId := request.uploadId
    state := request.state.getD .receiving
    planJson := request.planJson
    resultJson := request.resultJson
    createdAt := formatTime lib createdAt
    updatedAt := stamp lib request.updatedAt createdAt
    expiresAt := formatTime lib request.expiresAt }

theorem ensures_createUploadRequestTx_reserves (request : ArtifactUploadRequest) (start : Store) :
    Ensures (fun store => store = start) (createUploadRequestTx lib now request) fun _ store =>
      start.uploadRequests.find? request.key = none ∧
        (∀ other ∈ start.uploadRequests.rows, other.uploadId ≠ request.uploadId) ∧
        request.key.repoId ∈ start.registry.repositoryIds ∧
        store.registry = start.registry.reserve (uploadRequestRow lib now request) := by
  apply ensures_guard
  intro _
  apply ensures_bind (ensures_refuseIf _)
  intro _
  apply ensures_modify
  rintro _ ⟨held, passes, rfl, rfl⟩
  obtain ⟨free, unused⟩ := not_or.mp passes
  refine ⟨?_, ?_, mem_keys_iff.mpr held, rfl⟩
  · exact Option.not_isSome_iff_eq_none.mp free
  · intro other member same
    exact unused (countP_pos_iff.mpr ⟨other, member, decide_eq_true same⟩)

theorem createUploadRequest_taken {request : ArtifactUploadRequest}
    (taken : (store.uploadRequests.find? request.key).isSome) :
    createUploadRequest lib now request store = (.error .conflict, store) := by
  have refused : createUploadRequestTx lib now request store = .error .conflict := by
    change (refuseIf _ _ >>= fun _ => _) store = _
    rw [refuseIf, if_pos (.inl taken)]
    rfl
  rw [createUploadRequest, atomically, refused]

def UploadRequestRow.commit (lib : Libraries) (now : Time) (resultJson : String)
    (row : UploadRequestRow) : UploadRequestRow :=
  { row with
    state := .committed
    resultJson := resultJson
    planJson := ""
    updatedAt := formatTime lib now }

theorem ensures_applyArtifactBatchTx_settles (key : UploadRequestKey) (batch : ArtifactBatch)
    (start : Store) :
    Ensures (fun store => store = start) (applyArtifactBatchTx lib now key batch) fun _ store =>
      ∃ row, start.uploadRequests.find? key = some row ∧
        row.state = batch.expectedUploadState.getD .receiving ∧
        row.uploadId = batch.publication.uploadId ∧
        store.registry = start.registry.settle row.uploadId
          (batch.expectedUploadState.getD .receiving)
          (commit lib now batch.uploadResultJson) fun _ => rfl := by
  apply ensures_bind ensures_get
  intro found
  apply ensures_bind (ensures_require _)
  intro row
  apply ensures_bind (ensures_refuseIf _)
  intro _
  apply ensures_of_each
  rintro _ ⟨passes, expected, rfl, rfl⟩
  obtain ⟨stateEq, uploadEq⟩ := not_or.mp passes
  refine Ensures.imp ?_ fun _ store (settled : store.registry = _) =>
    ⟨row, expected, not_not.mp stateEq, not_not.mp uploadEq, settled⟩
  refine Ensures.of_imp ?_ fun store (same : store = found) =>
    show Shows Store.registry found.registry store from congrArg Store.registry same
  apply ensures_bind (preserves_refuseIf _ _)
  intro _
  apply ensures_bind (preserves_checkImmutablePreconditions batch)
  intro _
  apply ensures_bind (preserves_checkMutablePreconditions _)
  intro _
  apply ensures_bind (registry_steps.toBatchSteps.ensureBatchBlobs _)
  intro _
  apply ensures_bind (registry_steps.toBatchSteps.upsertPublication _)
  intro _
  apply ensures_bind
    (registry_steps.toBatchSteps.writeBatch (fun _ _ => trivial) (registry_steps.invalidate _ _))
  intro _
  apply ensures_bind preserves_get
  intro _
  apply ensures_bind (preserves_refuseIf _ _)
  intro _
  apply ensures_checked
  apply ensures_modify
  rintro store (same : store.registry = _)
  rw [← same]
  rfl

/-- The batch with the result that it stores for replays. -/
def ArtifactBatch.filled (batch : ArtifactBatch) : ArtifactBatch :=
  if batch.uploadResultJson = "" then { batch with uploadResultJson := "\x7b\x7d" } else batch

theorem ArtifactBatch.filled_eq (batch : ArtifactBatch) :
    batch.filled = { batch with uploadResultJson := batch.filled.uploadResultJson } := by
  unfold filled
  split
  · rfl
  · rfl

variable {batch : ArtifactBatch} {result : Except Error Unit} {key : UploadRequestKey}

theorem applyArtifactBatch_eq (ran : applyArtifactBatch lib now key batch store = (result, after)) :
    (∃ error, result = .error error ∧ after = store) ∨
      result = .ok () ∧ validateArtifactBatch lib key batch.filled = .ok () ∧
        applyArtifactBatchTx lib now key batch.filled store = .ok ((), after) := by
  unfold applyArtifactBatch at ran
  cases validated : validateArtifactBatch lib key batch.filled with
  | error error =>
    unfold filled at validated
    simp only [validated] at ran
    cases ran
    exact .inl ⟨error, rfl, rfl⟩
  | ok value =>
    have ran : atomically (applyArtifactBatchTx lib now key batch.filled) store =
        (result, after) := by
      unfold filled at validated ⊢
      simpa only [validated] using ran
    cases result with
    | error error => exact .inl ⟨error, rfl, eq_of_atomically_error ran⟩
    | ok => exact .inr ⟨rfl, rfl, eq_ok_of_atomically ran⟩

theorem applyArtifactBatch_cases
    (ran : applyArtifactBatch lib now key batch store = (result, after)) :
    (∃ error, result = .error error ∧ after = store) ∨
      result = .ok () ∧ ∃ row, store.uploadRequests.find? key = some row ∧
        row.state = batch.expectedUploadState.getD .receiving ∧
        row.uploadId = batch.publication.uploadId ∧
        after.registry = store.registry.settle row.uploadId
          (batch.expectedUploadState.getD .receiving)
          (commit lib now batch.filled.uploadResultJson) fun _ => rfl := by
  apply (applyArtifactBatch_eq ran).imp_right
  rintro ⟨resultEq, -, committed⟩
  have settled := (ensures_applyArtifactBatchTx_settles key _ store).committed store () after rfl
    committed
  rw [batch.filled_eq] at settled
  exact ⟨resultEq, settled⟩

/-- The columns of a request that moves on without being committed. -/
def UploadRequestRow.move (lib : Libraries) (now : Time) (next : UploadState) (planJson : String)
    (expiresAt : Time) (row : UploadRequestRow) : UploadRequestRow :=
  { row with
    state := next
    planJson := planJson
    updatedAt := formatTime lib now
    expiresAt := formatTime lib expiresAt }

theorem setUploadState_registry (uploadId : String) (expected : UploadState) {next : UploadState}
    (planJson : String) (expiresAt : Time) (uncommitted : next ≠ .committed) :
    (setUploadState lib now uploadId expected next planJson expiresAt store).2.registry =
      store.registry.settle uploadId expected
        (move lib now next planJson expiresAt) fun _ => rfl := by
  unfold setUploadState
  rw [if_neg uncommitted]
  change ((if _ then pure () else throw Error.uploadState : Operation Unit) _).2.registry = _
  split
  · rfl
  · rfl

/-- Whether the request is none that the uploader alone makes. -/
def Request.outside : Request → Bool
  | .command (.createUploadRequest _) => false
  | .command (.applyArtifactBatch _ _) => false
  | .setUploadState _ _ _ _ _ => false
  | _ => true

open Registry

variable {α : Type}

theorem outside_of_shows {operation : Operation α}
    (shows : Keeps (Shows Store.registry store.registry) operation) :
    OutsideChange store.registry (operation store).2.registry := by
  rw [shows.kept store rfl]
  exact .same

variable {transaction : Tx α}

theorem outside_of_tx (shows : Preserves (Shows Store.registry store.registry) transaction) :
    OutsideChange store.registry (atomically transaction store).2.registry :=
  outside_of_shows (keeps_atomically shows)

theorem outside_of_ensures (changes : Ensures (Shows Store.registry store.registry) transaction
      fun _ after => OutsideChange store.registry after.registry) :
    OutsideChange store.registry (atomically transaction store).2.registry := by
  unfold atomically
  cases ran : transaction store with
  | error => exact .same
  | ok reached => exact changes.committed store reached.1 reached.2 rfl ran

theorem outside_createRepositoryTx (repository : Repository) :
    Ensures (Shows Store.registry store.registry) (createRepositoryTx lib now repository)
      fun _ after => OutsideChange store.registry after.registry := by
  apply ensures_guard
  intro _
  apply ensures_bind
  · apply @ensures_modify Store Error _ _ fun _ after => OutsideChange store.registry after.registry
    rintro _ ⟨-, rfl, same⟩
    rw [← same]
    exact .createRepository _ fun _ => mem_keys_upsert _ _ _ _
  · intro _
    exact preserves_pure _

theorem outside_updateRepository (id : Int) (change : Repository → Repository)
    (keeps : ∀ repository, (change repository).id = repository.id) :
    Preserves (Shows Store.registry store.registry) (updateRepository id change keeps) := by
  refine ensures_checked (shows_modify fun current => ?_)
  have sameIds : (current.repositories.updateWhere (fun repository => repository.id = id) change
      keeps).rows.map Repository.id = current.repositories.rows.map Repository.id := by
    simp only [updateWhere, map_map]
    exact congrArg (current.repositories.rows.map ·) (funext (key_updated keeps))
  simp only [Store.registry, sameIds]

theorem outside_deleteRepositoryTx (id : Int) :
    Ensures (Shows Store.registry store.registry) (deleteRepositoryTx lib now id)
      fun _ after => OutsideChange store.registry after.registry := by
  apply ensures_bind (preserves_dropGroupIndexes registry_steps.deleteGroupCacheWhere id)
  intro _
  apply ensures_bind (shows_modify fun store => registry_ignoresArtifacts.blobs store _)
  intro _
  apply ensures_checked
  apply ensures_modify
  intro current same
  have ids : (current.repositories.deleteWhere fun repository => repository.id = id).rows.map
      Repository.id = (current.repositories.rows.map Repository.id).filter (· ≠ id) := by
    rw [filter_map]
    simp [deleteWhere, Function.comp_def]
  rw [← same]
  have changed := @OutsideChange.deleteRepository current.registry id
  simp only [Store.registry] at changed ⊢
  rw [← ids] at changed
  exact changed

theorem outside_createRepository (repository : Repository) :
    OutsideChange store.registry (createRepository lib now repository store).2.registry := by
  have created : OutsideChange store.registry
      (atomically (createRepositoryTx lib now repository) store).2.registry :=
    outside_of_ensures (outside_createRepositoryTx repository)
  change OutsideChange store.registry (ExceptT.bindCont getRepository
    (atomically (createRepositoryTx lib now repository) store).1
    (atomically (createRepositoryTx lib now repository) store).2).2.registry
  cases (atomically (createRepositoryTx lib now repository) store).1 with
  | error => exact created
  | ok id =>
    have read := (@keeps_getRepository (Shows Store.registry _) id).kept
      (atomically (createRepositoryTx lib now repository) store).2 rfl
    exact read ▸ created

theorem outside_runCommand {command : Command} (outside : (Request.command command).outside) :
    OutsideChange store.registry (runCommand lib now store command).registry := by
  cases command with
  | createRepository repository => exact outside_createRepository repository
  | putArtifact =>
    exact outside_of_shows (keeps_putArtifact
      (registry_steps.putArtifactTx trivial (registry_steps.invalidate _ _)))
  | ensureBlob sha256 size => exact outside_of_tx (registry_steps.insertBlob sha256 size)
  | deleteArtifact repoId path =>
    exact outside_of_tx (registry_steps.deleteArtifactTx (registry_steps.invalidate repoId path))
  | forceDeleteArtifact repoId path =>
    exact outside_of_tx
      (registry_steps.forceDeleteArtifactTx (registry_steps.invalidate repoId path))
  | purgeArtifacts repoId =>
    exact outside_of_tx (shows_purgeArtifactsTx registry_ignoresArtifacts repoId)
  | evictLru repoId =>
    exact outside_of_shows (keeps_evictLru fun _ =>
      registry_steps.deleteArtifactTx (registry_steps.invalidate repoId _))
  | createUploadRequest => cases outside
  | leaseUploadBlob uploadId sha256 size =>
    exact outside_of_tx (shows_leaseUploadBlobTx registry_ignoresArtifacts uploadId sha256 size)
  | applyArtifactBatch => cases outside
  | applyPublicationLifecycle =>
    exact outside_of_shows (keeps_applyPublicationLifecycle
      (registry_steps.toBatchSteps.applyPublicationLifecycleTx (fun _ _ => trivial)
        (registry_steps.invalidate _ _) (registry_steps.toBatchSteps.settlePublication _)))
  | putGroupMetadataCache cache =>
    exact outside_of_tx
      (shows_putGroupMetadataCacheTx registry_ignoresArtifacts.toIgnoresBlobs cache)
  | updateRepositoryConfig id =>
    apply outside_of_tx
    apply preserves_bind (preserves_dropGroupIndexes registry_steps.deleteGroupCacheWhere id)
    intro _
    exact outside_updateRepository id _ _
  | setRepositoryDisabled id =>
    apply outside_of_tx
    apply preserves_bind (registry_steps.invalidate id "")
    intro _
    exact outside_updateRepository id _ _
  | deleteRepository id => exact outside_of_ensures (outside_deleteRepositoryTx id)
  | deleteBlobRecord sha before =>
    exact outside_of_tx
      (shows_deleteBlobRecordTx registry_ignoresArtifacts.toIgnoresBlobs sha before)

theorem outside_runRequest {request : Request} (outside : request.outside) :
    OutsideChange store.registry (runRequest lib now store request).registry := by
  cases request with
  | command => exact outside_runCommand outside
  | setUploadState => cases outside
  | cancelUploadConflict uploadId =>
    apply outside_of_ensures
    apply ensures_checked
    apply ensures_modify
    intro _ same
    rw [← same]
    exact .cancel uploadId (formatTime lib now)

end Operations

end Addons.MetaStore
