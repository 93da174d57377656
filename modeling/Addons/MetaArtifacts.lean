import Addons.KeyedTable
import Addons.TextParsing
import Addons.Transaction

/-!
# Artifacts in the metadata store

The statements on blobs, artifact rows and group caches, and the operations on artifacts,
caches and repositories. Each operation is one transaction, except `evictLru`, which deletes
artifacts one transaction at a time.
-/

namespace Addons.MetaStore

open Transaction

/-! ## The metadata store -/

/-- Instants, in nanoseconds since the epoch. -/
abbrev Time := Int

def second : Time := 1000000000

/-- What the linked libraries answer: chrono, serde_json, and SQLite's own date and JSON
functions. -/
structure Libraries where
  /-- Date and time of day at a number of seconds since the epoch, as
  `%Y-%m-%dT%H:%M:%S`. -/
  dateTime : Int → String
  parseRfc3339 : String → Option Time
  /-- SQLite's `julianday`, `NULL` for a text that is no date. -/
  julianday : String → Option Int
  /-- Whether serde_json reads the text. -/
  validJson : String → Bool
  /-- The text that an object's field holds, as serde_json reads it. -/
  stringField : String → String → Option String
  /-- The values of `json_each(config_json, '$.group.members')`, nothing for malformed
  JSON. -/
  groupMembers : String → Option (List String)

section Times

variable (lib : Libraries)

/-- A time's text, its fraction without trailing zeros. -/
def formatTime (time : Time) : String :=
  let nanos := (time % second).toNat
  if nanos = 0 then lib.dateTime (time / second) ++ "Z"
  else
    let fraction := ((DecimalText.zeroPad 9 nanos).toList.reverse.dropWhile (· = '0')).reverse
    lib.dateTime (time / second) ++ "." ++ String.ofList fraction ++ "Z"

def parseTime (text : String) : Time :=
  (lib.parseRfc3339 text).getD 0

def parseTimeOpt : Option String → Option Time
  | none => none
  | some text => if text = "" then none else some (parseTime lib text)

def isZero (time : Time) : Bool :=
  time / second ≤ 0

/-- Now, unless the caller gave a time. -/
def stamp (given now : Time) : String :=
  formatTime lib (if isZero given then now else given)

end Times

inductive Error where
  | notFound
  | conflict
  | managedArtifact
  | uploadState
  | artifactConflict
  | derivedMetadataChanged
  | sqlite (operation : String)
  | other (message : String)
  deriving DecidableEq

inductive RepositoryType where
  | hosted
  | proxy
  | group
  deriving DecidableEq

structure Repository where
  id : Int := 0
  name : String := ""
  format : String := ""
  type : RepositoryType
  upstreamUrl : String := ""
  configJson : String := ""
  description : String := ""
  createdAt : String := ""
  updatedAt : String := ""
  disabled : Bool := false
  deriving DecidableEq

structure BlobRow where
  sha256 : String
  size : Int
  refCount : Int
  createdAt : String
  unreferencedSince : Option String
  deriving DecidableEq

/-- A stored path within a repository, as callers give and receive it. -/
structure Artifact where
  repoId : Int := 0
  path : String := ""
  version : String := ""
  blobSha256 : String := ""
  size : Int := 0
  contentType : String := ""
  metadataJson : String := ""
  publishedAt : Option Time := none
  cachedAt : Time := 0
  lastAccessedAt : Time := 0
  updatedAt : Time := 0
  cachedBy : String := ""
  lastAccessedBy : String := ""
  publicationId : String := ""
  artifactRole : String := ""
  deriving DecidableEq

structure ArtifactRow where
  repoId : Int
  path : String
  version : String
  blobSha256 : String
  size : Int
  contentType : String
  metadataJson : String
  publishedAt : Option String
  cachedAt : String
  lastAccessedAt : String
  updatedAt : String
  cachedBy : String
  lastAccessedBy : String
  publicationId : Option String
  artifactRole : String
  deriving DecidableEq

def ArtifactRow.key (row : ArtifactRow) : Int × String := (row.repoId, row.path)

structure ArtifactPublication where
  id : String := ""
  repoId : Int := 0
  format : String := ""
  packageName : String := ""
  version : String := ""
  coordinate : String := ""
  uploadId : String := ""
  createdBy : String := ""
  createdBySource : String := ""
  yanked : Bool := false
  createdAt : Time := 0
  updatedAt : Time := 0
  deriving DecidableEq

structure PublicationRow where
  id : String
  repoId : Int
  format : String
  packageName : String
  version : String
  coordinate : String
  uploadId : String
  createdBy : String
  createdBySource : String
  yanked : Bool
  createdAt : String
  updatedAt : String
  deriving DecidableEq

structure ArtifactPublicationTombstone where
  repoId : Int := 0
  format : String := ""
  packageName : String := ""
  version : String := ""
  assetKey : String := ""
  deletedAt : Time := 0
  deletedBy : String := ""
  deriving DecidableEq

structure TombstoneRow where
  repoId : Int
  format : String
  packageName : String
  version : String
  assetKey : String
  deletedAt : String
  deletedBy : String
  deriving DecidableEq

def TombstoneRow.key (row : TombstoneRow) : Int × String × String × String × String :=
  (row.repoId, row.format, row.packageName, row.version, row.assetKey)

inductive UploadState where
  | receiving
  | conflict
  | committed
  | failed
  deriving DecidableEq

structure UploadRequestKey where
  repoId : Int
  principalSource : String
  principalName : String
  idempotencyKey : String
  deriving DecidableEq

structure ArtifactUploadRequest where
  key : UploadRequestKey
  uploadId : String
  state : Option UploadState := none
  planJson : String := ""
  resultJson : String := ""
  createdAt : Time := 0
  updatedAt : Time := 0
  expiresAt : Time := 0
  deriving DecidableEq

structure UploadRequestRow where
  key : UploadRequestKey
  uploadId : String
  state : UploadState
  planJson : String
  resultJson : String
  createdAt : String
  updatedAt : String
  expiresAt : String
  deriving DecidableEq

structure StagedBlobRow where
  uploadId : String
  sha256 : String
  size : Int
  deriving DecidableEq

def StagedBlobRow.key (row : StagedBlobRow) : String × String := (row.uploadId, row.sha256)

structure GroupMetadataCacheKey where
  groupRepoId : Int
  path : String
  representation : String
  deriving DecidableEq

structure GroupMetadataCache where
  key : GroupMetadataCacheKey
  blobSha256 : String
  size : Int := 0
  sourcesJson : String := ""
  configRevision : String := ""
  expiresAt : Time := 0
  deriving DecidableEq

structure GroupCacheRow where
  key : GroupMetadataCacheKey
  blobSha256 : String
  size : Int
  sourcesJson : String
  configRevision : String
  expiresAt : String
  updatedAt : String
  deriving DecidableEq

/-- The tables of the database. Keys are unique by construction; `lastRepositoryId` is what
`AUTOINCREMENT` remembers. -/
structure Store where
  repositories : KeyedTable Repository.id
  lastRepositoryId : Int
  blobs : KeyedTable BlobRow.sha256
  artifacts : KeyedTable ArtifactRow.key
  publications : KeyedTable PublicationRow.id
  tombstones : KeyedTable TombstoneRow.key
  uploadRequests : KeyedTable UploadRequestRow.key
  stagedBlobs : KeyedTable StagedBlobRow.key
  groupMetadataCache : KeyedTable GroupCacheRow.key

def Store.empty : Store where
  repositories := .empty
  lastRepositoryId := 0
  blobs := .empty
  artifacts := .empty
  publications := .empty
  tombstones := .empty
  uploadRequests := .empty
  stagedBlobs := .empty
  groupMetadataCache := .empty

abbrev Tx := Transaction Store Error

/-- An operation of the store: its transactions commit one by one, also when a later one is
refused. -/
abbrev Operation := ExceptT Error (StateM Store)

/-- A blob's reference count moves; the time it became unreferenced is kept while it stays
unreferenced and forgotten once it is referenced. -/
def BlobRow.adjust (row : BlobRow) (delta : Int) (now : String) : BlobRow :=
  { row with
    refCount := row.refCount + delta
    unreferencedSince :=
      if row.refCount + delta ≤ 0 then some (row.unreferencedSince.getD now) else none }

/-- A blob loses references in bulk. -/
def BlobRow.release (row : BlobRow) (lost : Int) (now : String) : BlobRow :=
  { row with
    refCount := row.refCount - lost
    unreferencedSince :=
      if row.refCount - lost ≤ 0 then some (row.unreferencedSince.getD now)
      else row.unreferencedSince }

section Blobs

variable (lib : Libraries) (now : Time)

/-- A blob nobody references yet. -/
def unreferencedBlob (sha256 : String) (size : Int) : BlobRow where
  sha256 := sha256
  size := size
  refCount := 0
  createdAt := formatTime lib now
  unreferencedSince := some (formatTime lib now)

def Store.recordBlob (store : Store) (blob : BlobRow) (merge : BlobRow → BlobRow)
    (keeps : ∀ old, (merge old).sha256 = old.sha256) : Store :=
  { store with blobs := store.blobs.upsert blob merge keeps }

def insertBlob (sha256 : String) (size : Int) : Tx Unit :=
  modify fun store => store.recordBlob (unreferencedBlob lib now sha256 size) id fun _ => rfl

def Store.adjustBlob (store : Store) (sha : String) (delta : Int) (now : String) : Store :=
  { store with
    blobs := store.blobs.updateWhere (fun row => row.sha256 = sha)
      (fun row => row.adjust delta now) fun _ => rfl }

def adjustRef (sha : String) (delta : Int) : Tx Unit :=
  modify fun store => store.adjustBlob sha delta (formatTime lib now)

/-- The same, insisting that there was a row to move. -/
def adjustRefRunner (sha : String) (delta : Int) : Tx Unit := do
  let store ← get
  let affected := store.blobs.count fun row => row.sha256 = sha
  adjustRef lib now sha delta
  refuseIf (affected ≠ 1) (.other s!"blob {sha} missing")

end Blobs

section GroupCaches

variable (lib : Libraries) (now : Time)

def Store.dropGroupCaches (store : Store) (condition : GroupCacheRow → Bool) : Store :=
  { store with groupMetadataCache := store.groupMetadataCache.deleteWhere condition }

/-- Drop the selected representations and the references they hold. -/
def deleteGroupCacheWhere (condition : GroupCacheRow → Bool) : Tx Unit := do
  let store ← get
  let digests := (store.groupMetadataCache.select condition).map GroupCacheRow.blobSha256
  modify fun store => store.dropGroupCaches condition
  digests.forM fun digest => adjustRefRunner lib now digest (-1)

def deleteGroupCache (key : GroupMetadataCacheKey) : Tx Unit :=
  if key.representation = "" then
    deleteGroupCacheWhere lib now fun row =>
      row.key.groupRepoId = key.groupRepoId && row.key.path = key.path
  else deleteGroupCacheWhere lib now fun row => row.key = key

def groupsOfMember (store : Store) (memberRepoId : Int) : Option (List Int) :=
  match store.repositories.find? memberRepoId with
  | none => some []
  | some member =>
    let groups := store.repositories.select fun repository => repository.type = .group
    if groups.any fun group => (lib.groupMembers group.configJson).isNone then none
    else
      some <| (groups.filter fun group =>
        ((lib.groupMembers group.configJson).getD []).contains member.name).map Repository.id

/-- Drop the representations that the condition selects, one by one. -/
def deleteGroupCaches (condition : GroupCacheRow → Bool) : Tx Unit := do
  let store ← get
  let keys := (store.groupMetadataCache.select condition).map GroupCacheRow.key
  keys.forM (deleteGroupCache lib now)

def invalidateGroupCachesForMember (memberRepoId : Int) (path : String) : Tx Unit := do
  let store ← get
  let groupIds ← require (groupsOfMember lib store memberRepoId) (.sqlite "resolve member groups")
  groupIds.forM fun groupId =>
    deleteGroupCaches lib now fun row =>
      row.key.groupRepoId = groupId && (path = "" || row.key.path = path)

def clearGroupMetadataCache (groupRepoId : Int) : Tx Unit :=
  deleteGroupCaches lib now fun row => row.key.groupRepoId = groupRepoId

end GroupCaches

section ArtifactRows

variable (lib : Libraries) (now : Time)

def managedByUiUpload : String := "ui_upload"

def managedByUiUploadAggregate : String := "ui_upload_aggregate"

def managedByMetadata (value : String) : String :=
  (lib.stringField value "managed_by").getD ""

def isUiManagedMetadata (value : String) : Bool :=
  managedByMetadata lib value = managedByUiUpload ||
    managedByMetadata lib value = managedByUiUploadAggregate

/-- Whether only the publication planner may write the row. -/
def ArtifactRow.isManaged (row : ArtifactRow) : Bool :=
  row.publicationId.any (· ≠ "") || isUiManagedMetadata lib row.metadataJson

/-- The columns written for an artifact, with the defaults for what the caller left out. -/
def artifactRow (artifact : Artifact) (cachedAt lastAccessedAt : Time) : ArtifactRow where
  repoId := artifact.repoId
  path := artifact.path
  version := artifact.version
  blobSha256 := artifact.blobSha256
  size := artifact.size
  contentType :=
    if artifact.contentType = "" then "application/octet-stream" else artifact.contentType
  metadataJson := if artifact.metadataJson = "" then "\x7b\x7d" else artifact.metadataJson
  publishedAt := artifact.publishedAt.map (formatTime lib)
  cachedAt := stamp lib cachedAt now
  lastAccessedAt := stamp lib lastAccessedAt now
  updatedAt := formatTime lib now
  cachedBy := artifact.cachedBy
  lastAccessedBy := ""
  publicationId := if artifact.publicationId = "" then none else some artifact.publicationId
  artifactRole := if artifact.artifactRole = "" then "primary" else artifact.artifactRole

/-- An upsert overwrites every column but the key and who accessed the row last. -/
def ArtifactRow.overwrite (row old : ArtifactRow) : ArtifactRow :=
  { old with
    version := row.version
    blobSha256 := row.blobSha256
    size := row.size
    contentType := row.contentType
    metadataJson := row.metadataJson
    publishedAt := row.publishedAt
    cachedAt := row.cachedAt
    lastAccessedAt := row.lastAccessedAt
    updatedAt := row.updatedAt
    cachedBy := row.cachedBy
    publicationId := row.publicationId
    artifactRole := row.artifactRole }

def Store.putArtifactRow (store : Store) (row : ArtifactRow) : Store :=
  { store with artifacts := store.artifacts.upsert row row.overwrite fun _ => rfl }

def Store.dropArtifacts (store : Store) (condition : ArtifactRow → Bool) : Store :=
  { store with artifacts := store.artifacts.deleteWhere condition }

/-- The selected rows belong to no publication any more. -/
def disown (artifacts : KeyedTable ArtifactRow.key) (condition : ArtifactRow → Bool) :
    KeyedTable ArtifactRow.key :=
  artifacts.updateWhere condition (fun row => { row with publicationId := none }) fun _ => rfl

def upsertArtifact (row : ArtifactRow) : Tx Unit := do
  let store ← get
  -- The foreign keys of the table.
  refuseIf (store.repositories.find? row.repoId = none ∨ store.blobs.find? row.blobSha256 = none ∨
    row.publicationId.any (fun id => (store.publications.find? id).isNone)) .conflict
  modify fun store => store.putArtifactRow row

def deleteArtifactRow (repoId : Int) (path : String) : Tx Unit :=
  modify fun store => store.dropArtifacts fun row => row.key = (repoId, path)

end ArtifactRows

def likeChar (pattern character : Char) : Bool :=
  pattern = '_' || pattern.toLower = character.toLower

def likeHere : List Char → List Char → Bool
  | [], _ => true
  | _ :: _, [] => false
  | wanted :: pattern, character :: text => likeChar wanted character && likeHere pattern text

def likeContains (pattern text : String) : Bool :=
  text.toList.tails.any (likeHere pattern.toList)

/-! ## Operations -/

variable (lib : Libraries) (now : Time)

/-- Move the reference of a path from the blob it had to the blob it has now. -/
def moveReference (old : Option String) (new : String) : Tx Unit :=
  match old with
  | none => adjustRef lib now new 1
  | some old =>
    if old ≠ new then do
      adjustRef lib now new 1
      adjustRef lib now old (-1)
    else pure ()

def putArtifactTx (artifact : Artifact) : Tx Unit := do
  insertBlob lib now artifact.blobSha256 artifact.size
  let store ← get
  let old := store.artifacts.find? (artifact.repoId, artifact.path)
  refuseIf (artifact.publicationId = "" ∧ old.any (ArtifactRow.isManaged lib)) .managedArtifact
  upsertArtifact (artifactRow lib now artifact artifact.cachedAt artifact.lastAccessedAt)
  moveReference lib now (old.map ArtifactRow.blobSha256) artifact.blobSha256
  invalidateGroupCachesForMember lib now artifact.repoId artifact.path

def scanArtifact (row : ArtifactRow) : Artifact where
  repoId := row.repoId
  path := row.path
  version := row.version
  blobSha256 := row.blobSha256
  size := row.size
  contentType := row.contentType
  metadataJson := row.metadataJson
  publishedAt := parseTimeOpt lib row.publishedAt
  cachedAt := parseTime lib row.cachedAt
  lastAccessedAt := parseTime lib row.lastAccessedAt
  updatedAt := parseTime lib row.updatedAt
  cachedBy := row.cachedBy
  lastAccessedBy := row.lastAccessedBy
  publicationId := row.publicationId.getD ""
  artifactRole := row.artifactRole

def getArtifact (repoId : Int) (path : String) : Operation Artifact := do
  let store ← get
  match store.artifacts.find? (repoId, path) with
  | none => throw .notFound
  | some row => pure (scanArtifact lib row)

/-- Upsert an artifact and read it back. -/
def putArtifact (artifact : Artifact) : Operation Artifact := do
  atomically (putArtifactTx lib now artifact)
  getArtifact lib artifact.repoId artifact.path

def ensureBlob (sha256 : String) (size : Int) : Operation Unit :=
  atomically (insertBlob lib now sha256 size)

def deleteArtifactTx (repoId : Int) (path : String) : Tx Unit := do
  let store ← get
  let row ← require (store.artifacts.find? (repoId, path)) .notFound
  refuseIf (row.isManaged lib = true) .managedArtifact
  deleteArtifactRow repoId path
  adjustRef lib now row.blobSha256 (-1)
  invalidateGroupCachesForMember lib now repoId path

def deleteArtifact (repoId : Int) (path : String) : Operation Unit :=
  atomically (deleteArtifactTx lib now repoId path)

structure ForceDeleteResult where
  blobSha256 : String
  publicationId : String := ""
  coordinate : String := ""
  deriving DecidableEq

/-- Delete a publication; artifact rows that named it name none. -/
def deletePublicationRow (id : String) : Tx Unit :=
  modify fun store =>
    { store with
      publications := store.publications.deleteWhere fun row => row.id = id
      artifacts := disown store.artifacts fun row => row.publicationId = some id }

/-- Remove a publication that has no artifact left. -/
def dropEmptyPublication (blobSha256 publicationId : String) : Tx ForceDeleteResult := do
  let store ← get
  let remaining := store.artifacts.count fun row => row.publicationId = some publicationId
  if remaining = 0 then do
    let coordinate := (store.publications.find? publicationId).map PublicationRow.coordinate
    deletePublicationRow publicationId
    pure { blobSha256, publicationId, coordinate := coordinate.getD "" }
  else pure { blobSha256 }

def releasePublication (blobSha256 : String) (publicationId : Option String) :
    Tx ForceDeleteResult :=
  match publicationId.filter (· ≠ "") with
  | some publicationId => dropEmptyPublication blobSha256 publicationId
  | none => pure { blobSha256 }

def forceDeleteArtifactTx (repoId : Int) (path : String) : Tx ForceDeleteResult := do
  let store ← get
  let row ← require (store.artifacts.find? (repoId, path)) .notFound
  deleteArtifactRow repoId path
  adjustRef lib now row.blobSha256 (-1)
  let result ← releasePublication row.blobSha256 row.publicationId
  invalidateGroupCachesForMember lib now repoId path
  pure result

def forceDeleteArtifact (repoId : Int) (path : String) : Operation ForceDeleteResult :=
  atomically (forceDeleteArtifactTx lib now repoId path)

def managedPattern : String := "\"managed_by\":\"ui_upload"

/-- References that the repository's artifacts hold on the blob. -/
def artifactReferences (store : Store) (repoId : Int) (sha256 : String) : Nat :=
  store.artifacts.count fun row => row.repoId = repoId && row.blobSha256 = sha256

/-- Every blob that the repository's artifacts point at loses references. -/
def Store.releaseBlobs (store : Store) (repoId : Int) (lost : String → Int) (now : String) :
    Store :=
  { store with
    blobs := store.blobs.updateWhere
      (fun blob => (store.artifacts.select fun row => row.repoId = repoId).any
        fun row => row.blobSha256 = blob.sha256)
      (fun blob => blob.release (lost blob.sha256) now) fun _ => rfl }

def purgeArtifactsTx (repoId : Int) : Tx Nat := do
  let store ← get
  let managed := store.artifacts.count fun row =>
    row.repoId = repoId &&
      (row.publicationId.isSome || likeContains managedPattern row.metadataJson)
  refuseIf (0 < managed) .managedArtifact
  -- Several artifacts of the repository can point at one blob.
  modify fun store =>
    store.releaseBlobs repoId (fun sha256 => artifactReferences store repoId sha256)
      (formatTime lib now)
  let deleted := store.artifacts.count fun row => row.repoId = repoId
  modify fun store => store.dropArtifacts fun row => row.repoId = repoId
  pure deleted

def purgeArtifacts (repoId : Int) : Operation Nat :=
  atomically (purgeArtifactsTx lib now repoId)

/-- The paths of the repository's artifacts, least recently accessed first. -/
def lruPaths (store : Store) (repoId limit : Int) : List String :=
  let ordered := (store.artifacts.select fun row => row.repoId = repoId).mergeSort
    fun left right => left.lastAccessedAt ≤ right.lastAccessedAt
  let paths := ordered.map ArtifactRow.path
  if limit < 0 then paths else paths.take limit.toNat

/-- Delete the paths one by one; one that is gone already is no error. -/
def deletePaths (repoId : Int) : List String → Operation Unit
  | [] => pure ()
  | path :: rest => fun store =>
    match deleteArtifact lib now repoId path store with
    | (.ok _, after) => deletePaths repoId rest after
    | (.error .notFound, after) => deletePaths repoId rest after
    | (.error error, after) => (.error error, after)

def evictLru (repoId limit : Int) : Operation Nat := do
  let store ← get
  let paths := lruPaths store repoId limit
  deletePaths lib now repoId paths
  pure paths.length

/-- The row that stores a cached representation. -/
def groupCacheRow (cache : GroupMetadataCache) : GroupCacheRow where
  key := cache.key
  blobSha256 := cache.blobSha256
  size := cache.size
  sourcesJson := cache.sourcesJson
  configRevision := cache.configRevision
  expiresAt := formatTime lib cache.expiresAt
  updatedAt := formatTime lib now

def Store.putGroupCacheRow (store : Store) (row : GroupCacheRow) : Store :=
  { store with
    groupMetadataCache := store.groupMetadataCache.upsert row
      (fun old => { row with key := old.key }) fun _ => rfl }

def upsertGroupCache (row : GroupCacheRow) : Tx Unit := do
  let store ← get
  refuseIf (store.repositories.find? row.key.groupRepoId = none ∨
    store.blobs.find? row.blobSha256 = none ∨ row.size < 0) .conflict
  modify fun store => store.putGroupCacheRow row

/-- Record the blob of a cached representation, with the size it has now. -/
def insertCacheBlob (sha256 : String) (size : Int) : Tx Unit :=
  modify fun store =>
    store.recordBlob (unreferencedBlob lib now sha256 size) (fun old => { old with size := size })
      fun _ => rfl

def moveCacheReference (old : Option String) (new : String) : Tx Unit :=
  if old.getD "" ≠ new then do
    old.toList.forM fun old => adjustRefRunner lib now old (-1)
    adjustRefRunner lib now new 1
  else pure ()

def putGroupMetadataCacheTx (cache : GroupMetadataCache) : Tx Unit := do
  let store ← get
  let old := (store.groupMetadataCache.find? cache.key).map GroupCacheRow.blobSha256
  insertCacheBlob lib now cache.blobSha256 cache.size
  moveCacheReference lib now old cache.blobSha256
  upsertGroupCache (groupCacheRow lib now cache)

def putGroupMetadataCache (cache : GroupMetadataCache) : Operation Unit :=
  atomically (putGroupMetadataCacheTx lib now cache)

end Addons.MetaStore
