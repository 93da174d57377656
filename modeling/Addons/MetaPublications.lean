import Addons.MetaArtifacts

/-!
# Publications

A batch commits the ownership, the artifact paths and the blob references of one
publication in one transaction, after it has checked that every path is as the planner saw
it.
-/

namespace Addons.MetaStore

open Transaction

/-! ## Repository operations and blob records -/

variable (lib : Libraries) (now : Time)

/-- Store a new repository under the next id; its name must be free. -/
def createRepositoryTx (repository : Repository) : Tx Int := do
  let store ← get
  refuseIf (0 < store.repositories.count fun other => other.name = repository.name) .conflict
  let id := store.lastRepositoryId + 1
  let row : Repository :=
    { repository with
      id := id
      configJson := if repository.configJson = "" then "\x7b\x7d" else repository.configJson
      createdAt := formatTime lib now
      updatedAt := formatTime lib now
      disabled := false }
  modify fun store =>
    { store with
      repositories := store.repositories.upsert row (fun old => old) fun _ => rfl
      lastRepositoryId := id }
  pure id

def getRepository (id : Int) : Operation Repository := do
  let store ← get
  match store.repositories.find? id with
  | none => throw .notFound
  | some repository => pure repository

def createRepository (repository : Repository) : Operation Repository := do
  let id ← atomically (createRepositoryTx lib now repository)
  getRepository id

/-- Change the columns of one repository, which must exist. -/
def updateRepository (id : Int) (change : Repository → Repository)
    (keeps : ∀ repository, (change repository).id = repository.id) : Tx Unit := do
  let store ← get
  let affected := store.repositories.count fun repository => repository.id = id
  modify fun store =>
    { store with
      repositories := store.repositories.updateWhere (fun repository => repository.id = id)
        change keeps }
  refuseIf (affected = 0) .notFound

/-- Drop the indexes that the repository cached as a group and those built from it. -/
def dropGroupIndexes (id : Int) : Tx Unit := do
  clearGroupMetadataCache lib now id
  invalidateGroupCachesForMember lib now id ""

def updateRepositoryConfigTx (id : Int) (upstreamUrl configJson : String) : Tx Unit := do
  dropGroupIndexes lib now id
  updateRepository id
    (fun repository =>
      { repository with
        upstreamUrl := upstreamUrl
        configJson := configJson
        updatedAt := formatTime lib now })
    fun _ => rfl

def updateRepositoryConfig (id : Int) (upstreamUrl configJson : String) : Operation Unit :=
  atomically (updateRepositoryConfigTx lib now id upstreamUrl configJson)

/-- Change the name of a repository; names are unique. -/
def renameRepositoryTx (id : Int) (name : String) : Tx Unit := do
  let store ← get
  refuseIf (store.repositories.find? id ≠ none ∧
    0 < store.repositories.count fun other => other.name = name && other.id ≠ id) .conflict
  updateRepository id
    (fun repository => { repository with name := name, updatedAt := formatTime lib now })
    fun _ => rfl

def renameRepository (id : Int) (name : String) : Operation Unit :=
  atomically (renameRepositoryTx lib now id name)

def setRepositoryDisabledTx (id : Int) (disabled : Bool) : Tx Unit := do
  invalidateGroupCachesForMember lib now id ""
  updateRepository id
    (fun repository => { repository with disabled := disabled, updatedAt := formatTime lib now })
    fun _ => rfl

def setRepositoryDisabled (id : Int) (disabled : Bool) : Operation Unit :=
  atomically (setRepositoryDisabledTx lib now id disabled)

/-- The rows that go with a repository: those that refer to it, those that refer to them,
and the publication that an artifact kept elsewhere names. -/
def Store.cascade (store : Store) (id : Int) : Store :=
  let publications := (store.publications.select fun row => row.repoId = id).map PublicationRow.id
  let uploads := (store.uploadRequests.select fun row => row.key.repoId = id).map
    UploadRequestRow.uploadId
  { store with
    repositories := store.repositories.deleteWhere fun repository => repository.id = id
    artifacts := disown (store.artifacts.deleteWhere fun row => row.repoId = id)
      fun row => row.publicationId.any fun owner => publications.contains owner
    publications := store.publications.deleteWhere fun row => row.repoId = id
    tombstones := store.tombstones.deleteWhere fun row => row.repoId = id
    uploadRequests := store.uploadRequests.deleteWhere fun row => row.key.repoId = id
    stagedBlobs := store.stagedBlobs.deleteWhere fun row => uploads.contains row.uploadId
    groupMetadataCache := store.groupMetadataCache.deleteWhere fun row =>
      row.key.groupRepoId = id }

def deleteRepositoryRow (id : Int) : Tx Unit := do
  let store ← get
  let affected := store.repositories.count fun repository => repository.id = id
  modify fun store => store.cascade id
  refuseIf (affected = 0) .notFound

def deleteRepositoryTx (id : Int) : Tx Unit := do
  dropGroupIndexes lib now id
  modify fun store => store.releaseBlobs id (fun _ => 1) (formatTime lib now)
  deleteRepositoryRow id

def deleteRepository (id : Int) : Operation Unit :=
  atomically (deleteRepositoryTx lib now id)

/-- Whether the blob became unreferenced, and was recorded, before the cutoff. -/
def BlobRow.isReclaimable (blob : BlobRow) (before : Time) : Bool :=
  let passed (text : String) : Bool :=
    ((lib.julianday text).bind fun day =>
      (lib.julianday (formatTime lib before)).map fun cutoff => decide (day ≤ cutoff)).getD false
  blob.refCount ≤ 0 && blob.unreferencedSince.any passed && passed blob.createdAt

/-- Remove the record of an unreferenced blob, and tell whether there was one to remove. -/
def deleteBlobRecordTx (sha : String) (before : Time) : Tx Bool := do
  let store ← get
  let condition (blob : BlobRow) : Bool := blob.sha256 = sha && blob.isReclaimable lib before
  let affected := store.blobs.count condition
  -- A row that still refers to the blob keeps it.
  refuseIf (0 < affected ∧ 0 < store.artifacts.count (fun row => row.blobSha256 = sha) +
    store.groupMetadataCache.count (fun row => row.blobSha256 = sha)) .conflict
  modify fun store => { store with blobs := store.blobs.deleteWhere condition }
  pure (0 < affected)

def deleteBlobRecord (sha : String) (before : Time) : Operation Bool :=
  atomically (deleteBlobRecordTx lib sha before)

/-- Replaces a shared path only while its digest is the expected one, empty for a path
that is expected to be absent. -/
structure ArtifactCAS where
  artifact : Artifact
  expectedSha256 : String
  deriving DecidableEq

structure ArtifactBatch where
  expectedUploadState : Option UploadState := none
  publication : ArtifactPublication
  create : List Artifact := []
  replace : List Artifact := []
  removePaths : List String := []
  tombstones : List ArtifactPublicationTombstone := []
  mutableCas : List ArtifactCAS := []
  invalidateGroupCache : List GroupMetadataCacheKey := []
  uploadResultJson : String := ""
  deriving DecidableEq

structure PublicationLifecycleBatch where
  publication : ArtifactPublication
  removePaths : List String := []
  tombstones : List ArtifactPublicationTombstone := []
  mutableCas : List ArtifactCAS := []
  mutableRemoveCas : List ArtifactCAS := []
  invalidateGroupCache : List GroupMetadataCacheKey := []
  deletePublication : Bool := false
  setYanked : Option Bool := none
  deriving DecidableEq

/-- Reserve an idempotency key. -/
def createUploadRequestTx (request : ArtifactUploadRequest) : Tx Unit := do
  let createdAt := if isZero request.createdAt then now else request.createdAt
  let row : UploadRequestRow :=
    { key := request.key
      uploadId := request.uploadId
      state := request.state.getD .receiving
      planJson := request.planJson
      resultJson := request.resultJson
      createdAt := formatTime lib createdAt
      updatedAt := stamp lib request.updatedAt createdAt
      expiresAt := formatTime lib request.expiresAt }
  let store ← get
  refuseIf ((store.uploadRequests.find? request.key).isSome ∨
    0 < store.uploadRequests.count (fun other => other.uploadId = request.uploadId)) .conflict
  -- The table's foreign key, which is no unique violation.
  refuseIf (store.repositories.find? request.key.repoId = none) (.sqlite "create upload request")
  modify fun store =>
    { store with uploadRequests := store.uploadRequests.upsert row (fun old => old) fun _ => rfl }

def createUploadRequest (request : ArtifactUploadRequest) : Operation Unit :=
  atomically (createUploadRequestTx lib now request)

def leaseUploadBlobTx (uploadId sha256 : String) (size : Int) : Tx Unit := do
  insertBlob lib now sha256 size
  let store ← get
  refuseIf (size < 0 ∨ store.uploadRequests.count (fun row => row.uploadId = uploadId) = 0)
    .conflict
  modify fun store =>
    { store with
      stagedBlobs := store.stagedBlobs.upsert ⟨uploadId, sha256, size⟩
        (fun old => { old with size := size }) fun _ => rfl }

def leaseUploadBlob (uploadId sha256 : String) (size : Int) : Operation Unit :=
  atomically (leaseUploadBlobTx lib now uploadId sha256 size)

def checkPath (message : String) (valid : Bool) (path : String) (seen : List String) :
    Except Error (List String) :=
  if valid && path ≠ "" && !seen.contains path then .ok (path :: seen)
  else .error (.other message)

def checkOwned (key : UploadRequestKey) (publication : ArtifactPublication) (seen : List String)
    (artifact : Artifact) : Except Error (List String) :=
  checkPath "invalid or duplicate publication artifact"
    (artifact.repoId = key.repoId && artifact.publicationId = publication.id) artifact.path seen

def checkRemoved (seen : List String) (path : String) : Except Error (List String) :=
  checkPath "invalid or duplicate removed artifact" true path seen

def checkMutable (key : UploadRequestKey) (seen : List String) (cas : ArtifactCAS) :
    Except Error (List String) :=
  checkPath "invalid or duplicate mutable artifact"
    (cas.artifact.repoId = key.repoId && cas.artifact.publicationId = "") cas.artifact.path seen

def checkTombstone (key : UploadRequestKey) (tombstone : ArtifactPublicationTombstone) :
    Except Error Unit :=
  if tombstone.repoId ≠ key.repoId || tombstone.format = "" || tombstone.packageName = "" ||
      tombstone.version = "" || tombstone.assetKey = "" then
    .error (.other "invalid tombstone")
  else .ok ()

def validateArtifactBatch (key : UploadRequestKey) (batch : ArtifactBatch) : Except Error Unit := do
  let publication := batch.publication
  if publication.id = "" || publication.uploadId = "" || publication.repoId ≠ key.repoId ||
      publication.format = "" || publication.packageName = "" || publication.version = "" ||
      publication.coordinate = "" || !lib.validJson batch.uploadResultJson then
    throw (.other "invalid artifact batch")
  let seen ← batch.create.foldlM (checkOwned key publication) []
  let seen ← batch.replace.foldlM (checkOwned key publication) seen
  let seen ← batch.removePaths.foldlM checkRemoved seen
  let _ ← batch.mutableCas.foldlM (checkMutable key) seen
  batch.tombstones.forM (checkTombstone key)

def checkCreated (artifact : Artifact) : Tx Unit := do
  let store ← get
  refuseIf ((store.artifacts.find? (artifact.repoId, artifact.path)).isSome) .artifactConflict

def checkReplaced (publicationId : String) (artifact : Artifact) : Tx Unit := do
  let store ← get
  let owner := (store.artifacts.find? (artifact.repoId, artifact.path)).bind
    ArtifactRow.publicationId
  refuseIf (owner ≠ some publicationId) .artifactConflict

def checkImmutablePreconditions (batch : ArtifactBatch) : Tx Unit := do
  batch.create.forM checkCreated
  batch.replace.forM (checkReplaced batch.publication.id)

def checkMutablePreconditions (values : List ArtifactCAS) : Tx Unit :=
  values.forM fun cas => do
    let store ← get
    let digest := (store.artifacts.find? (cas.artifact.repoId, cas.artifact.path)).map
      ArtifactRow.blobSha256
    refuseIf (¬(digest = none ∧ cas.expectedSha256 = "" ∨ digest = some cas.expectedSha256))
      .derivedMetadataChanged

/-- Each blob the batch refers to has a row of the size the caller staged. -/
def ensureBatchBlobs (artifacts : List Artifact) : Tx Unit :=
  artifacts.forM fun artifact => do
    refuseIf (artifact.blobSha256 = "" ∨ artifact.size < 0) (.other "invalid staged blob")
    insertBlob lib now artifact.blobSha256 artifact.size
    let store ← get
    let recorded ← require (store.blobs.find? artifact.blobSha256) .notFound
    refuseIf (recorded.size ≠ artifact.size)
      (.other s!"blob size mismatch for {artifact.blobSha256}")

def publicationRow (publication : ArtifactPublication) : PublicationRow where
  id := publication.id
  repoId := publication.repoId
  format := publication.format
  packageName := publication.packageName
  version := publication.version
  coordinate := publication.coordinate
  uploadId := publication.uploadId
  createdBy := publication.createdBy
  createdBySource := publication.createdBySource
  yanked := publication.yanked
  createdAt := stamp lib publication.createdAt now
  updatedAt := stamp lib publication.updatedAt now

/-- Another publication of the same package version. -/
def PublicationRow.collides (row other : PublicationRow) : Bool :=
  other.id ≠ row.id && other.repoId = row.repoId && other.format = row.format &&
    other.packageName = row.packageName && other.version = row.version

/-- Insert the publication, or refresh the row that has its id. -/
def upsertPublication (publication : ArtifactPublication) : Tx Unit := do
  let row := publicationRow lib now publication
  let store ← get
  let old := store.publications.find? row.id
  refuseIf (old = none ∧ 0 < store.publications.count row.collides) .artifactConflict
  refuseIf (old = none ∧ store.repositories.find? row.repoId = none) .conflict
  modify fun store =>
    { store with
      publications := store.publications.upsert row
        (fun old =>
          { old with
            coordinate := row.coordinate
            uploadId := row.uploadId
            yanked := row.yanked
            updatedAt := row.updatedAt })
        fun _ => rfl }

/-- Move the reference of a path, insisting that the blobs have rows. -/
def moveBatchReference (old : Option String) (new : String) : Tx Unit :=
  match old with
  | none => adjustRefRunner lib now new 1
  | some old =>
    if old ≠ new then do
      adjustRefRunner lib now new 1
      adjustRefRunner lib now old (-1)
    else pure ()

def putBatchArtifact (artifact : Artifact) : Tx Unit := do
  let store ← get
  let old := store.artifacts.find? (artifact.repoId, artifact.path)
  upsertArtifact (artifactRow lib now artifact 0 0)
  moveBatchReference lib now (old.map ArtifactRow.blobSha256) artifact.blobSha256

def deleteArtifactOwnedBy (owned : Option String → Bool) (error : Error) (repoId : Int)
    (path : String) : Tx Unit := do
  let store ← get
  let row ← require ((store.artifacts.find? (repoId, path)).filter fun row =>
    owned row.publicationId) error
  deleteArtifactRow repoId path
  adjustRefRunner lib now row.blobSha256 (-1)

def deleteOwnedArtifact (repoId : Int) (path publicationId : String) : Tx Unit :=
  deleteArtifactOwnedBy lib now (fun owner => owner = some publicationId) .artifactConflict
    repoId path

def deleteAggregateArtifact (repoId : Int) (path : String) : Tx Unit :=
  deleteArtifactOwnedBy lib now (fun owner => owner.all (· = "")) .derivedMetadataChanged
    repoId path

def insertTombstone (tombstone : ArtifactPublicationTombstone) : Tx Unit := do
  let row : TombstoneRow :=
    { repoId := tombstone.repoId
      format := tombstone.format
      packageName := tombstone.packageName
      version := tombstone.version
      assetKey := tombstone.assetKey
      deletedAt := stamp lib tombstone.deletedAt now
      deletedBy := tombstone.deletedBy }
  let store ← get
  refuseIf (store.repositories.find? row.repoId = none) .conflict
  modify fun store =>
    { store with tombstones := store.tombstones.upsert row id fun _ => rfl }

/-- Take the staged blobs and the state of a committed upload along. -/
def commitUpload (uploadId : String) (expected : UploadState) (resultJson : String) : Tx Unit := do
  let store ← get
  let affected := store.uploadRequests.count fun row =>
    row.uploadId = uploadId && row.state = expected
  modify fun store =>
    { store with
      stagedBlobs := store.stagedBlobs.deleteWhere fun row => row.uploadId = uploadId
      uploadRequests := store.uploadRequests.updateWhere
        (fun row => row.uploadId = uploadId && row.state = expected)
        (fun row =>
          { row with
            state := .committed
            resultJson := resultJson
            planJson := ""
            updatedAt := formatTime lib now })
        fun _ => rfl }
  refuseIf (affected ≠ 1) .uploadState

def ArtifactBatch.artifacts (batch : ArtifactBatch) : List Artifact :=
  batch.create ++ batch.replace ++ batch.mutableCas.map ArtifactCAS.artifact

/-- Every row the batch removes, writes and invalidates. -/
def writeBatch (key : UploadRequestKey) (batch : ArtifactBatch) : Tx Unit := do
  batch.removePaths.forM fun path =>
    deleteOwnedArtifact lib now key.repoId path batch.publication.id
  batch.create.forM (putBatchArtifact lib now)
  batch.replace.forM (putBatchArtifact lib now)
  batch.mutableCas.forM fun cas => putBatchArtifact lib now cas.artifact
  batch.tombstones.forM (insertTombstone lib now)
  batch.invalidateGroupCache.forM (deleteGroupCache lib now)
  invalidateGroupCachesForMember lib now key.repoId ""

def applyArtifactBatchTx (key : UploadRequestKey) (batch : ArtifactBatch) : Tx Unit := do
  let expected := batch.expectedUploadState.getD .receiving
  let store ← get
  let request ← require (store.uploadRequests.find? key) .notFound
  refuseIf (request.state ≠ expected ∨ request.uploadId ≠ batch.publication.uploadId) .uploadState
  refuseIf (batch.publication.repoId ≠ key.repoId ∨ batch.publication.id = "")
    (.other "invalid publication identity")
  checkImmutablePreconditions batch
  checkMutablePreconditions batch.mutableCas
  ensureBatchBlobs lib now batch.artifacts
  upsertPublication lib now batch.publication
  writeBatch lib now key batch
  let store ← get
  refuseIf (0 < store.blobs.count fun blob => blob.refCount < 0)
    (.other "negative blob reference count")
  commitUpload lib now request.uploadId expected batch.uploadResultJson

def applyArtifactBatch (key : UploadRequestKey) (batch : ArtifactBatch) : Operation Unit := do
  let batch := if batch.uploadResultJson = "" then
    { batch with uploadResultJson := "\x7b\x7d" } else batch
  match validateArtifactBatch lib key batch with
  | .error error => throw error
  | .ok () => atomically (applyArtifactBatchTx lib now key batch)

/-- Delete the publication, or write its yanked flag. -/
def settlePublication (batch : PublicationLifecycleBatch) : Tx Unit :=
  if batch.deletePublication then deletePublicationRow batch.publication.id
  else modify fun store =>
    { store with
      publications := store.publications.updateWhere (fun row => row.id = batch.publication.id)
        (fun row =>
          { row with
            yanked := batch.setYanked.getD batch.publication.yanked
            updatedAt := formatTime lib now })
        fun _ => rfl }

def applyPublicationLifecycleTx (batch : PublicationLifecycleBatch) : Tx Unit := do
  let store ← get
  let publication ← require (store.publications.find? batch.publication.id) .notFound
  refuseIf (publication.repoId ≠ batch.publication.repoId) .artifactConflict
  checkMutablePreconditions batch.mutableCas
  checkMutablePreconditions batch.mutableRemoveCas
  ensureBatchBlobs lib now (batch.mutableCas.map ArtifactCAS.artifact)
  batch.removePaths.forM fun path =>
    deleteOwnedArtifact lib now publication.repoId path batch.publication.id
  batch.mutableCas.forM fun cas => putBatchArtifact lib now cas.artifact
  batch.mutableRemoveCas.forM fun cas =>
    deleteAggregateArtifact lib now publication.repoId cas.artifact.path
  batch.tombstones.forM (insertTombstone lib now)
  batch.invalidateGroupCache.forM (deleteGroupCache lib now)
  invalidateGroupCachesForMember lib now batch.publication.repoId ""
  settlePublication lib now batch

def applyPublicationLifecycle (batch : PublicationLifecycleBatch) : Operation Unit :=
  if batch.publication.id = "" || batch.publication.repoId = 0 then
    throw (.other "invalid publication lifecycle batch")
  else atomically (applyPublicationLifecycleTx lib now batch)

end Addons.MetaStore
