import Addons.MetaPublications
import Mathlib.Logic.Relation

/-!
# What the operations of the store keep

The operations are made of a few steps. Whatever the steps keep, the operations keep.
-/

namespace Addons.MetaStore

open Transaction MetaStore List

variable {lib : Libraries} {now : Time} {Invariant Dropped : Store → Prop}

theorem preserves_check {condition : Store → Prop} [∀ store, Decidable (condition store)]
    (error : Error) :
    Preserves Invariant (do
      let store ← get
      refuseIf (condition store) error : Tx Unit) :=
  preserves_bind preserves_get fun _ => preserves_refuseIf _ _

theorem preserves_checkMutablePreconditions (values : List ArtifactCAS) :
    Preserves Invariant (checkMutablePreconditions values) :=
  ensures_forM fun _ _ => preserves_check _

theorem preserves_checkImmutablePreconditions (batch : ArtifactBatch) :
    Preserves Invariant (checkImmutablePreconditions batch) := by
  apply preserves_bind (ensures_forM fun _ _ => preserves_check _)
  intro _
  exact ensures_forM fun _ _ => preserves_check _

theorem preserves_adjustRefRunner {sha : String} {delta : Int}
    (adjusts : Preserves Invariant (adjustRef lib now sha delta)) :
    Preserves Invariant (adjustRefRunner lib now sha delta) :=
  ensures_checked adjusts

section Operations

theorem keeps_getArtifact (repoId : Int) (path : String) :
    Keeps Invariant (getArtifact lib repoId path) := by
  apply keeps_bind keeps_get
  intro _
  split
  · exact keeps_throw _
  · exact keeps_pure _

theorem keeps_getRepository (id : Int) : Keeps Invariant (getRepository id) := by
  apply keeps_bind keeps_get
  intro _
  split
  · exact keeps_throw _
  · exact keeps_pure _

theorem keeps_putArtifact {artifact : Artifact}
    (puts : Preserves Invariant (putArtifactTx lib now artifact)) :
    Keeps Invariant (putArtifact lib now artifact) :=
  keeps_bind (keeps_atomically puts) fun _ => keeps_getArtifact _ _

theorem keeps_createRepository {repository : Repository}
    (creates : Preserves Invariant (createRepositoryTx lib now repository)) :
    Keeps Invariant (createRepository lib now repository) :=
  keeps_bind (keeps_atomically creates) keeps_getRepository

theorem keeps_evictLru {repoId limit : Int}
    (deletes : ∀ path, Preserves Invariant (deleteArtifactTx lib now repoId path)) :
    Keeps Invariant (evictLru lib now repoId limit) := by
  have deletesPaths (paths : List String) : Keeps Invariant (deletePaths lib now repoId paths) := by
    induction paths with
    | nil => exact keeps_pure ()
    | cons path _ ih =>
      constructor
      intro store holds
      have deleted : Invariant (deleteArtifact lib now repoId path store).2 :=
        (keeps_atomically (deletes path)).kept store holds
      unfold deletePaths
      split
      next after ran => exact ih.kept after (by rwa [ran] at deleted)
      next after ran => exact ih.kept after (by rwa [ran] at deleted)
      next _ _ _ ran => rwa [ran] at deleted
  apply keeps_bind keeps_get
  intro _
  apply keeps_bind (deletesPaths _)
  intro _
  exact keeps_pure _

theorem keeps_applyPublicationLifecycle {batch : PublicationLifecycleBatch}
    (applies : Preserves Invariant (applyPublicationLifecycleTx lib now batch)) :
    Keeps Invariant (applyPublicationLifecycle lib now batch) := by
  unfold applyPublicationLifecycle
  split
  · exact keeps_throw _
  · exact keeps_atomically applies

end Operations

section Caches

variable (drops : ∀ condition, Preserves Invariant (deleteGroupCacheWhere lib now condition))

include drops

theorem preserves_deleteGroupCache (key : GroupMetadataCacheKey) :
    Preserves Invariant (deleteGroupCache lib now key) := by
  unfold deleteGroupCache
  split
  · exact drops _
  · exact drops _

theorem preserves_deleteGroupCaches (condition : GroupCacheRow → Bool) :
    Preserves Invariant (deleteGroupCaches lib now condition) := by
  apply preserves_bind preserves_get
  intro _
  exact ensures_forM fun key _ => preserves_deleteGroupCache drops key

theorem preserves_invalidateGroupCachesForMember (memberRepoId : Int) (path : String) :
    Preserves Invariant (invalidateGroupCachesForMember lib now memberRepoId path) := by
  apply preserves_lookup
  intro _ _
  exact ensures_forM fun _ _ => preserves_deleteGroupCaches drops _

theorem preserves_dropGroupIndexes (id : Int) :
    Preserves Invariant (dropGroupIndexes lib now id) := by
  apply preserves_bind (preserves_deleteGroupCaches drops _)
  intro _
  exact preserves_invalidateGroupCachesForMember drops id ""

end Caches

def EveryIndex (condition : GroupCacheRow → Prop) (store : Store) : Prop :=
  ∀ row ∈ store.groupMetadataCache.rows, condition row

theorem EveryIndex.imp {condition weaker : GroupCacheRow → Prop} {store : Store}
    (every : EveryIndex condition store) (implies : ∀ row, condition row → weaker row) :
    EveryIndex weaker store :=
  fun row member => implies row (every row member)

section Indexes

variable {condition : GroupCacheRow → Prop}

theorem everyIndex_modify {change : Store → Store}
    (same : ∀ store, (change store).groupMetadataCache = store.groupMetadataCache) :
    Preserves (EveryIndex condition) (modify change : Tx Unit) := by
  apply ensures_modify
  intro store every row member
  rw [same store] at member
  exact every row member

theorem drops_deleteGroupCacheWhere (dropped : GroupCacheRow → Bool) :
    Ensures (EveryIndex condition) (deleteGroupCacheWhere lib now dropped)
      (fun _ => EveryIndex fun row => condition row ∧ dropped row = false) := by
  apply ensures_bind preserves_get
  intro _
  apply ensures_bind
  · show Ensures (EveryIndex condition) _
      (fun _ => EveryIndex fun row => condition row ∧ dropped row = false)
    apply ensures_modify
    intro _ every row member
    obtain ⟨kept, stays⟩ := mem_filter.mp member
    exact ⟨every row kept, by simpa using stays⟩
  · intro _
    exact ensures_forM fun _ _ => preserves_adjustRefRunner (everyIndex_modify fun _ => rfl)

theorem drops_deleteGroupCache (key : GroupMetadataCacheKey) :
    Ensures (EveryIndex condition) (deleteGroupCache lib now key)
      (fun _ => EveryIndex fun row => condition row ∧ row.key ≠ key) := by
  unfold deleteGroupCache
  split
  · apply (drops_deleteGroupCacheWhere _).imp
    intro _ _ every row member
    obtain ⟨holds, other⟩ := every row member
    refine ⟨holds, ?_⟩
    rintro rfl
    simp at other
  · apply (drops_deleteGroupCacheWhere _).imp
    intro _ _ every row member
    obtain ⟨holds, other⟩ := every row member
    exact ⟨holds, by simpa using other⟩

theorem everyIndex_deleteGroupCacheWhere (dropped : GroupCacheRow → Bool) :
    Preserves (EveryIndex condition) (deleteGroupCacheWhere lib now dropped) :=
  (drops_deleteGroupCacheWhere dropped).imp fun _ _ every => every.imp fun _ holds => holds.1

theorem drops_deleteGroupCaches (dropped : GroupCacheRow → Bool) :
    Ensures (EveryIndex condition) (deleteGroupCaches lib now dropped)
      (fun _ => EveryIndex fun row => condition row ∧ dropped row = false) := by
  apply ensures_bind ensures_get
  intro store
  have present : Ensures (EveryIndex fun row => condition row ∧ row ∈ store.groupMetadataCache.rows)
      (((store.groupMetadataCache.select dropped).map GroupCacheRow.key).forM
        (deleteGroupCache lib now))
      (fun _ after =>
        EveryIndex (fun row => condition row ∧ row ∈ store.groupMetadataCache.rows) after ∧
          ∀ key ∈ (store.groupMetadataCache.select dropped).map GroupCacheRow.key,
            EveryIndex (fun row => row.key ≠ key) after) := by
    apply ensures_forM_each
    · intro key _
      apply (drops_deleteGroupCache key).imp
      intro _ after every
      exact ⟨every.imp fun _ holds => holds.1, every.imp fun _ holds => holds.2⟩
    · exact fun key _ _ => preserves_deleteGroupCache everyIndex_deleteGroupCacheWhere key
  apply (present.imp _).of_imp
  · rintro _ ⟨rfl, every⟩ row member
    exact ⟨every row member, member⟩
  · rintro _ _ ⟨every, gone⟩ row member
    obtain ⟨holds, listed⟩ := every row member
    refine ⟨holds, ?_⟩
    cases droppedEq : dropped row with
    | false => rfl
    | true =>
      have selected : row ∈ store.groupMetadataCache.select dropped :=
        mem_filter.mpr ⟨listed, droppedEq⟩
      exact absurd rfl (gone row.key (mem_map_of_mem selected) row member)

/-- No index of the group is left. -/
theorem clears_dropGroupIndexes (id : Int) :
    Ensures (EveryIndex condition) (dropGroupIndexes lib now id)
      (fun _ => EveryIndex fun row => row.key.groupRepoId ≠ id) := by
  apply ensures_bind (drops_deleteGroupCaches _)
  intro _
  refine (preserves_invalidateGroupCachesForMember everyIndex_deleteGroupCacheWhere id "").of_imp ?_
  intro _ every row member
  simpa using (every row member).2

end Indexes

structure BlobSteps (lib : Libraries) (now : Time) (Invariant : Store → Prop) : Prop where
  insertBlob : ∀ sha256 size, Preserves Invariant (insertBlob lib now sha256 size)
  insertCacheBlob : ∀ sha256 size, Preserves Invariant (insertCacheBlob lib now sha256 size)
  adjustRef : ∀ sha delta, Preserves Invariant (adjustRef lib now sha delta)
  dropGroupCaches : ∀ condition,
    Preserves Invariant (modify fun store => store.dropGroupCaches condition : Tx Unit)

namespace BlobSteps

variable (steps : BlobSteps lib now Invariant)

include steps

theorem adjustRefRunner (sha : String) (delta : Int) :
    Preserves Invariant (adjustRefRunner lib now sha delta) :=
  preserves_adjustRefRunner (steps.adjustRef sha delta)

theorem deleteGroupCacheWhere (condition : GroupCacheRow → Bool) :
    Preserves Invariant (deleteGroupCacheWhere lib now condition) := by
  apply preserves_bind preserves_get
  intro _
  apply preserves_bind (steps.dropGroupCaches condition)
  intro _
  exact ensures_forM fun digest _ => steps.adjustRefRunner digest (-1)

theorem invalidate (memberRepoId : Int) (path : String) :
    Preserves Invariant (invalidateGroupCachesForMember lib now memberRepoId path) :=
  preserves_invalidateGroupCachesForMember steps.deleteGroupCacheWhere memberRepoId path

theorem moveReference (old : Option String) (new : String) :
    Preserves Invariant (moveReference lib now old new) := by
  cases old with
  | none => exact steps.adjustRef new 1
  | some old =>
    simp only [MetaStore.moveReference]
    split
    · exact preserves_bind (steps.adjustRef new 1) fun _ => steps.adjustRef old (-1)
    · exact preserves_pure ()

theorem moveBatchReference (old : Option String) (new : String) :
    Preserves Invariant (moveBatchReference lib now old new) := by
  cases old with
  | none => exact steps.adjustRefRunner new 1
  | some old =>
    simp only [MetaStore.moveBatchReference]
    split
    · exact preserves_bind (steps.adjustRefRunner new 1) fun _ => steps.adjustRefRunner old (-1)
    · exact preserves_pure ()

theorem moveCacheReference (old : Option String) (new : String) :
    Preserves Invariant (moveCacheReference lib now old new) := by
  unfold MetaStore.moveCacheReference
  split
  · exact preserves_bind (ensures_forM fun digest _ => steps.adjustRefRunner digest (-1))
      fun _ => steps.adjustRefRunner new 1
  · exact preserves_pure ()

theorem putGroupMetadataCacheTx {cache : GroupMetadataCache}
    (upsert : Preserves Invariant (upsertGroupCache (groupCacheRow lib now cache))) :
    Preserves Invariant (putGroupMetadataCacheTx lib now cache) := by
  apply preserves_bind preserves_get
  intro _
  apply preserves_bind (steps.insertCacheBlob _ _)
  intro _
  apply preserves_bind (steps.moveCacheReference _ _)
  intro _
  exact upsert

end BlobSteps

/-- The steps of a batch keep the invariant, for digests that it may make rows name. -/
structure BatchSteps (lib : Libraries) (now : Time) (given : String → Prop)
    (Invariant : Store → Prop) : Prop where
  insertBlob : ∀ sha256 size, Preserves Invariant (insertBlob lib now sha256 size)
  deleteGroupCacheWhere : ∀ condition,
    Preserves Invariant (deleteGroupCacheWhere lib now condition)
  putBatchArtifact : ∀ artifact, given artifact.blobSha256 →
    Preserves Invariant (putBatchArtifact lib now artifact)
  deleteArtifactOwnedBy : ∀ owned error repoId path,
    Preserves Invariant (deleteArtifactOwnedBy lib now owned error repoId path)
  insertTombstone : ∀ tombstone, Preserves Invariant (insertTombstone lib now tombstone)
  upsertPublication : ∀ publication, Preserves Invariant (upsertPublication lib now publication)
  settlePublication : ∀ batch, Preserves Invariant (settlePublication lib now batch)

namespace BatchSteps

variable {given : String → Prop} (steps : BatchSteps lib now given Invariant)

include steps

theorem invalidate (memberRepoId : Int) (path : String) :
    Preserves Invariant (invalidateGroupCachesForMember lib now memberRepoId path) :=
  preserves_invalidateGroupCachesForMember steps.deleteGroupCacheWhere memberRepoId path

theorem ensureBatchBlobs (artifacts : List Artifact) :
    Preserves Invariant (ensureBatchBlobs lib now artifacts) := by
  apply ensures_forM
  intro _ _
  apply preserves_bind (preserves_refuseIf _ _)
  intro _
  apply preserves_bind (steps.insertBlob _ _)
  intro _
  apply preserves_lookup
  intro _ _
  exact preserves_refuseIf _ _

section

variable {batch : ArtifactBatch} {key : UploadRequestKey}
  (allowed : ∀ artifact ∈ batch.artifacts, given artifact.blobSha256)
  (drops : Ensures Invariant (invalidateGroupCachesForMember lib now key.repoId "")
    fun _ => Dropped)
include allowed drops

theorem writeBatch : Ensures Invariant (writeBatch lib now key batch) fun _ => Dropped := by
  simp only [ArtifactBatch.artifacts, mem_append, mem_map] at allowed
  apply ensures_bind (ensures_forM fun _ _ => steps.deleteArtifactOwnedBy _ _ _ _)
  intro _
  apply ensures_bind (ensures_forM fun artifact listed =>
    steps.putBatchArtifact artifact (allowed artifact (.inl (.inl listed))))
  intro _
  apply ensures_bind (ensures_forM fun artifact listed =>
    steps.putBatchArtifact artifact (allowed artifact (.inl (.inr listed))))
  intro _
  apply ensures_bind (ensures_forM fun cas listed =>
    steps.putBatchArtifact cas.artifact (allowed cas.artifact (.inr ⟨cas, listed, rfl⟩)))
  intro _
  apply ensures_bind (ensures_forM fun tombstone _ => steps.insertTombstone tombstone)
  intro _
  apply ensures_bind
    (ensures_forM fun key _ => preserves_deleteGroupCache steps.deleteGroupCacheWhere key)
  intro _
  exact drops

/-- Everything of a batch but the last step, which settles the upload. -/
theorem applyArtifactBatchTx {settled : Store → Prop}
    (commits : ∀ uploadId expected resultJson, Ensures Dropped
      (commitUpload lib now uploadId expected resultJson) fun _ => settled) :
    Ensures Invariant (applyArtifactBatchTx lib now key batch) fun _ => settled := by
  apply preserves_lookup
  intro _ _
  apply ensures_bind (preserves_refuseIf _ _)
  intro _
  apply ensures_bind (preserves_refuseIf _ _)
  intro _
  apply ensures_bind (preserves_checkImmutablePreconditions batch)
  intro _
  apply ensures_bind (preserves_checkMutablePreconditions _)
  intro _
  apply ensures_bind (steps.ensureBatchBlobs _)
  intro _
  apply ensures_bind (steps.upsertPublication _)
  intro _
  apply ensures_bind (steps.writeBatch allowed drops)
  intro _
  apply preserves_guard
  intro _
  exact commits _ _ _

end

theorem applyPublicationLifecycleTx {batch : PublicationLifecycleBatch}
    (allowed : ∀ cas ∈ batch.mutableCas, given cas.artifact.blobSha256) (drops : Ensures Invariant
      (invalidateGroupCachesForMember lib now batch.publication.repoId "") fun _ => Dropped)
    (settles : Preserves Dropped (MetaStore.settlePublication lib now batch)) :
    Ensures Invariant (applyPublicationLifecycleTx lib now batch) fun _ => Dropped := by
  apply preserves_lookup
  intro _ _
  apply ensures_bind (preserves_refuseIf _ _)
  intro _
  apply ensures_bind (preserves_checkMutablePreconditions _)
  intro _
  apply ensures_bind (preserves_checkMutablePreconditions _)
  intro _
  apply ensures_bind (steps.ensureBatchBlobs _)
  intro _
  apply ensures_bind (ensures_forM fun _ _ => steps.deleteArtifactOwnedBy _ _ _ _)
  intro _
  apply ensures_bind (ensures_forM fun cas listed =>
    steps.putBatchArtifact cas.artifact (allowed cas listed))
  intro _
  apply ensures_bind (ensures_forM fun _ _ => steps.deleteArtifactOwnedBy _ _ _ _)
  intro _
  apply ensures_bind (ensures_forM fun tombstone _ => steps.insertTombstone tombstone)
  intro _
  apply ensures_bind
    (ensures_forM fun key _ => preserves_deleteGroupCache steps.deleteGroupCacheWhere key)
  intro _
  apply ensures_bind drops
  intro _
  exact settles

end BatchSteps

structure ArtifactSteps (lib : Libraries) (now : Time) (given : String → Prop)
    (Invariant : Store → Prop) : Prop extends BlobSteps lib now Invariant where
  upsertArtifact : ∀ row, given row.blobSha256 → Preserves Invariant (upsertArtifact row)
  deleteArtifactRow : ∀ repoId path, Preserves Invariant (deleteArtifactRow repoId path)
  deletePublicationRow : ∀ id, Preserves Invariant (deletePublicationRow id)
  putPublications : ∀ publications : Store → KeyedTable PublicationRow.id, Preserves Invariant
    (modify fun store => { store with publications := publications store } : Tx Unit)
  putTombstones : ∀ tombstones : Store → KeyedTable TombstoneRow.key, Preserves Invariant
    (modify fun store => { store with tombstones := tombstones store } : Tx Unit)

namespace ArtifactSteps

variable {given : String → Prop} (steps : ArtifactSteps lib now given Invariant)

include steps

theorem putArtifactTx {artifact : Artifact} (allowed : given artifact.blobSha256)
    (drops : Ensures Invariant
      (invalidateGroupCachesForMember lib now artifact.repoId artifact.path) fun _ => Dropped) :
    Ensures Invariant (putArtifactTx lib now artifact) fun _ => Dropped := by
  apply ensures_bind (steps.insertBlob _ _)
  intro _
  apply preserves_guard
  intro _
  apply ensures_bind (steps.upsertArtifact _ allowed)
  intro _
  apply ensures_bind (steps.moveReference _ _)
  intro _
  exact drops

theorem releasePublication (blobSha256 : String) (publicationId : Option String) :
    Preserves Invariant (releasePublication blobSha256 publicationId) := by
  unfold MetaStore.releasePublication
  split
  · apply preserves_bind preserves_get
    intro _
    dsimp only
    split
    · exact preserves_bind (steps.deletePublicationRow _) fun _ => preserves_pure _
    · exact preserves_pure _
  · exact preserves_pure _

section Deletions

variable {repoId : Int} {path : String} (drops : Ensures Invariant
  (invalidateGroupCachesForMember lib now repoId path) fun _ => Dropped)

include drops

theorem deleteArtifactTx :
    Ensures Invariant (deleteArtifactTx lib now repoId path) fun _ => Dropped := by
  apply preserves_lookup
  intro _ _
  apply ensures_bind (preserves_refuseIf _ _)
  intro _
  apply ensures_bind (steps.deleteArtifactRow repoId path)
  intro _
  apply ensures_bind (steps.adjustRef _ _)
  intro _
  exact drops

theorem forceDeleteArtifactTx :
    Ensures Invariant (forceDeleteArtifactTx lib now repoId path) fun _ => Dropped := by
  apply preserves_lookup
  intro _ _
  apply ensures_bind (steps.deleteArtifactRow repoId path)
  intro _
  apply ensures_bind (steps.adjustRef _ _)
  intro _
  apply ensures_bind (steps.releasePublication _ _)
  intro _
  exact ensures_bind drops fun _ => preserves_pure _

end Deletions

theorem toBatchSteps : BatchSteps lib now given Invariant where
  insertBlob := steps.insertBlob
  deleteGroupCacheWhere := steps.deleteGroupCacheWhere
  putBatchArtifact artifact allowed := by
    apply preserves_bind preserves_get
    intro _
    apply preserves_bind (steps.upsertArtifact _ allowed)
    intro _
    exact steps.moveBatchReference _ _
  deleteArtifactOwnedBy owned error repoId path := by
    apply preserves_lookup
    intro _ _
    apply preserves_bind (steps.deleteArtifactRow repoId path)
    intro _
    exact steps.adjustRefRunner _ _
  insertTombstone tombstone := by
    apply preserves_guard
    intro _
    exact steps.putTombstones _
  upsertPublication publication := by
    apply preserves_guard
    intro _
    apply preserves_bind (preserves_refuseIf _ _)
    intro _
    exact steps.putPublications _
  settlePublication batch := by
    unfold settlePublication
    split
    · exact steps.deletePublicationRow _
    · exact steps.putPublications _

end ArtifactSteps

open Relation KeyedTable

/-- What an operation is given leave to do: the digests it may make rows name, the blobs it
may stage, each with its upload, and the uploads it may leave in conflict. -/
structure Effects where
  refs : List String := []
  leases : List (String × String) := []
  retained : List String := []

inductive Statement (lib : Libraries) (now : Time) (effects : Effects) :
    Store → Store → Prop where
  | recordBlob {store : Store} (sha256 : String) (size : Int) (merge : BlobRow → BlobRow)
      (keeps : ∀ old, (merge old).sha256 = old.sha256)
      (sizeOnly : ∀ old, (merge old).refCount = old.refCount ∧
        (merge old).createdAt = old.createdAt ∧
        (merge old).unreferencedSince = old.unreferencedSince) :
      Statement lib now effects store
        (store.recordBlob (unreferencedBlob lib now sha256 size) merge keeps)
  | adjustBlob {store : Store} (sha : String) (delta : Int) :
      Statement lib now effects store (store.adjustBlob sha delta (formatTime lib now))
  | releaseBlobs {store : Store} (repoId : Int) (lost : String → Int)
      (positive : ∀ digest, 0 ≤ lost digest) :
      Statement lib now effects store (store.releaseBlobs repoId lost (formatTime lib now))
  | dropGroupCaches {store : Store} (condition : GroupCacheRow → Bool) :
      Statement lib now effects store (store.dropGroupCaches condition)
  | putGroupCacheRow {store : Store} (row : GroupCacheRow)
      (given : row.blobSha256 ∈ effects.refs) :
      Statement lib now effects store (store.putGroupCacheRow row)
  | putArtifactRow {store : Store} (row : ArtifactRow) (given : row.blobSha256 ∈ effects.refs) :
      Statement lib now effects store (store.putArtifactRow row)
  | dropArtifacts {store : Store} (condition : ArtifactRow → Bool) :
      Statement lib now effects store (store.dropArtifacts condition)
  | disown {store : Store} (condition : ArtifactRow → Bool) :
      Statement lib now effects store
        { store with artifacts := disown store.artifacts condition }
  | stageBlob {store : Store} (row : StagedBlobRow) (given : row.key ∈ effects.leases)
      (reserved : ∃ request ∈ store.uploadRequests.rows, request.uploadId = row.uploadId) :
      Statement lib now effects store
        { store with
          stagedBlobs := store.stagedBlobs.upsert row
            (fun old => { old with size := row.size }) fun _ => rfl }
  | putUpload {store : Store} (row : UploadRequestRow)
      (fresh : ∀ other ∈ store.uploadRequests.rows, other.uploadId ≠ row.uploadId)
      (given : row.state = .conflict → row.uploadId ∈ effects.retained) :
      Statement lib now effects store
        { store with
          uploadRequests := store.uploadRequests.upsert row (fun old => old) fun _ => rfl }
  | updateUploads {store : Store} (condition : UploadRequestRow → Bool)
      (change : UploadRequestRow → UploadRequestRow)
      (keeps : ∀ row, (change row).key = row.key)
      (sameUpload : ∀ row, (change row).uploadId = row.uploadId)
      (given : ∀ row, condition row = true → (change row).state = .conflict →
        row.uploadId ∈ effects.retained) :
      Statement lib now effects store
        { store with uploadRequests := store.uploadRequests.updateWhere condition change keeps }
  | settleUpload {store : Store} (uploadId : String) (expected : UploadState)
      (change : UploadRequestRow → UploadRequestRow)
      (keeps : ∀ row, (change row).key = row.key)
      (sameUpload : ∀ row, (change row).uploadId = row.uploadId)
      (settles : ∀ row, (change row).state ≠ .conflict)
      (present : ∃ request ∈ store.uploadRequests.rows,
        request.uploadId = uploadId ∧ request.state = expected) :
      Statement lib now effects store
        { store with
          stagedBlobs := store.stagedBlobs.deleteWhere fun row => row.uploadId = uploadId
          uploadRequests := store.uploadRequests.updateWhere
            (fun row => row.uploadId = uploadId && row.state = expected) change keeps }
  | dropUploads {store : Store} (condition : UploadRequestRow → Bool) :
      Statement lib now effects store
        { store with
          uploadRequests := store.uploadRequests.deleteWhere condition
          stagedBlobs := store.stagedBlobs.deleteWhere fun row =>
            ((store.uploadRequests.select condition).map UploadRequestRow.uploadId).contains
              row.uploadId }
  | elsewhere {store after : Store}
      (rows : (after.artifacts, after.groupMetadataCache) =
        (store.artifacts, store.groupMetadataCache))
      (blobs : (after.blobs, after.stagedBlobs, after.uploadRequests) =
        (store.blobs, store.stagedBlobs, store.uploadRequests)) :
      Statement lib now effects store after

abbrev Executes (lib : Libraries) (now : Time) (effects : Effects) : Store → Store → Prop :=
  ReflTransGen (Statement lib now effects)

variable {lib : Libraries} {now : Time} {effects : Effects} {start : Store}

/-- Some artifact or some cached index points at the digest. -/
def Store.Names (store : Store) (digest : String) : Prop :=
  (∃ row ∈ store.artifacts.rows, row.blobSha256 = digest) ∨
    ∃ row ∈ store.groupMetadataCache.rows, row.blobSha256 = digest

variable {store after : Store} {digest : String}

theorem Statement.names (ran : Statement lib now effects store after) (named : after.Names digest) :
    store.Names digest ∨ digest ∈ effects.refs := by
  cases ran with
  | recordBlob | adjustBlob | releaseBlobs => exact .inl named
  | dropGroupCaches =>
    apply Or.inl
    apply named.imp_right
    rintro ⟨row, member, rfl⟩
    exact ⟨row, mem_of_mem_deleteWhere member, rfl⟩
  | putGroupCacheRow _ given =>
    rcases named with artifact | ⟨other, member, rfl⟩
    · exact .inl (.inl artifact)
    · rcases mem_upsert _ _ _ _ member with kept | rfl | ⟨old, -, -, rfl⟩
      · exact .inl (.inr ⟨other, kept, rfl⟩)
      · exact .inr given
      · exact .inr given
  | putArtifactRow _ given =>
    rcases named with ⟨other, member, rfl⟩ | cached
    · rcases mem_upsert _ _ _ _ member with kept | rfl | ⟨old, -, -, rfl⟩
      · exact .inl (.inl ⟨other, kept, rfl⟩)
      · exact .inr given
      · exact .inr given
    · exact .inl (.inr cached)
  | dropArtifacts =>
    apply Or.inl
    apply named.imp_left
    rintro ⟨row, member, rfl⟩
    exact ⟨row, mem_of_mem_deleteWhere member, rfl⟩
  | disown =>
    apply Or.inl
    apply named.imp_left
    rintro ⟨_, member, rfl⟩
    obtain ⟨old, oldMember, rfl⟩ := List.mem_map.mp member
    refine ⟨old, oldMember, ?_⟩
    unfold updated
    split
    · rfl
    · rfl
  | stageBlob | putUpload | updateUploads | settleUpload | dropUploads => exact .inl named
  | elsewhere rows =>
    simp only [Prod.mk.injEq] at rows
    rw [Store.Names, rows.1, rows.2] at named
    exact .inl named

theorem Executes.names (ran : Executes lib now effects store after) (named : after.Names digest) :
    store.Names digest ∨ digest ∈ effects.refs := by
  induction ran with
  | refl => exact .inl named
  | tail _ statement ih => exact (statement.names named).elim ih .inr

theorem executes_modify {change : Store → Store}
    (statement : ∀ store, Statement lib now effects store (change store)) :
    Preserves (Executes lib now effects start) (modify change : Tx Unit) :=
  ensures_modify fun store ran => ran.tail (statement store)

/-- The operations on artifacts are made of statements with the given effects. -/
theorem executes_steps :
    ArtifactSteps lib now (· ∈ effects.refs) (Executes lib now effects start) where
  insertBlob sha256 size := executes_modify fun _ =>
    .recordBlob sha256 size id (fun _ => rfl) fun _ => ⟨rfl, rfl, rfl⟩
  insertCacheBlob sha256 size := executes_modify fun _ =>
    .recordBlob sha256 size (fun old => { old with size := size }) (fun _ => rfl)
      fun _ => ⟨rfl, rfl, rfl⟩
  adjustRef sha delta := executes_modify fun _ => .adjustBlob sha delta
  dropGroupCaches condition := executes_modify fun _ => .dropGroupCaches condition
  upsertArtifact row given := by
    apply preserves_guard
    intro _
    exact executes_modify fun _ => .putArtifactRow row given
  deleteArtifactRow repoId path := executes_modify fun _ => .dropArtifacts _
  deletePublicationRow id := by
    apply ensures_modify
    intro _ ran
    exact (ran.tail (.disown fun row => row.publicationId = some id)).tail (.elsewhere rfl rfl)
  putPublications _ := executes_modify fun _ => .elsewhere (by rfl) (by rfl)
  putTombstones _ := executes_modify fun _ => .elsewhere (by rfl) (by rfl)

theorem executes_purgeArtifactsTx (repoId : Int) :
    Preserves (Executes lib now effects start) (purgeArtifactsTx lib now repoId) := by
  apply preserves_guard
  intro _
  refine preserves_bind (executes_modify fun _ => .releaseBlobs repoId _ fun _ => ?_) fun _ => ?_
  · exact Int.natCast_nonneg _
  · exact preserves_bind (executes_modify fun _ => .dropArtifacts _) fun _ => preserves_pure _

theorem executes_upsertGroupCache {row : GroupCacheRow} (given : row.blobSha256 ∈ effects.refs) :
    Preserves (Executes lib now effects start) (upsertGroupCache row) := by
  apply preserves_guard
  intro _
  exact executes_modify fun _ => .putGroupCacheRow row given

theorem executes_createRepositoryTx (repository : Repository) :
    Preserves (Executes lib now effects start) (createRepositoryTx lib now repository) := by
  apply preserves_guard
  intro _
  apply preserves_bind (executes_modify fun _ => .elsewhere (by rfl) (by rfl))
  intro _
  exact preserves_pure _

theorem executes_updateRepository (id : Int) (change : Repository → Repository)
    (keeps : ∀ repository, (change repository).id = repository.id) :
    Preserves (Executes lib now effects start) (updateRepository id change keeps) :=
  ensures_checked (executes_modify fun _ => .elsewhere (by rfl) (by rfl))

theorem executes_updateRepositoryConfigTx (id : Int) (upstreamUrl configJson : String) :
    Preserves (Executes lib now effects start)
      (updateRepositoryConfigTx lib now id upstreamUrl configJson) := by
  apply preserves_bind (preserves_dropGroupIndexes executes_steps.deleteGroupCacheWhere id)
  intro _
  exact executes_updateRepository _ _ _

theorem executes_setRepositoryDisabledTx (id : Int) (disabled : Bool) :
    Preserves (Executes lib now effects start)
      (setRepositoryDisabledTx lib now id disabled) := by
  apply preserves_bind (executes_steps.invalidate id "")
  intro _
  exact executes_updateRepository _ _ _

theorem executes_cascade (store : Store) (id : Int) :
    Executes lib now effects store (store.cascade id) := by
  let owners := (store.publications.select fun row => row.repoId = id).map PublicationRow.id
  have dropped : Executes lib now effects store
      (store.dropArtifacts fun row => row.repoId = id) := .single (.dropArtifacts _)
  have disowned := dropped.tail
    (.disown fun row => row.publicationId.any fun owner => owners.contains owner)
  have uncached := disowned.tail (.dropGroupCaches fun row => row.key.groupRepoId = id)
  have unreserved := uncached.tail (.dropUploads fun row => row.key.repoId = id)
  exact unreserved.tail (.elsewhere rfl rfl)

theorem executes_deleteRepositoryRow (id : Int) :
    Preserves (Executes lib now effects start) (deleteRepositoryRow id) :=
  ensures_checked (ensures_modify fun store ran => ran.trans (executes_cascade store id))

theorem executes_deleteRepositoryTx (id : Int) :
    Preserves (Executes lib now effects start) (deleteRepositoryTx lib now id) := by
  apply preserves_bind (preserves_dropGroupIndexes executes_steps.deleteGroupCacheWhere id)
  intro _
  apply preserves_bind (executes_modify fun _ => .releaseBlobs id _ fun _ => by decide)
  intro _
  exact executes_deleteRepositoryRow id

theorem executes_createUploadRequestTx {request : ArtifactUploadRequest}
    (given : request.state = some .conflict → request.uploadId ∈ effects.retained) :
    Preserves (Executes lib now effects start) (createUploadRequestTx lib now request) := by
  apply ensures_guard
  intro _
  apply ensures_bind (ensures_refuseIf _)
  intro _
  apply ensures_modify
  rintro _ ⟨-, passes, rfl, ran⟩
  have unused := (not_or.mp passes).2
  refine ran.tail (.putUpload _ ?_ ?_)
  · intro other member same
    exact unused (List.countP_pos_iff.mpr ⟨other, member, decide_eq_true same⟩)
  · intro conflict
    apply given
    cases stateEq : request.state with
    | none => simp [stateEq] at conflict
    | some => simpa [stateEq] using conflict

theorem executes_leaseUploadBlobTx {uploadId sha256 : String} (size : Int)
    (given : (uploadId, sha256) ∈ effects.leases) :
    Preserves (Executes lib now effects start)
      (leaseUploadBlobTx lib now uploadId sha256 size) := by
  apply preserves_bind (executes_steps.insertBlob _ _)
  intro _
  apply ensures_guard
  intro _
  apply ensures_modify
  rintro _ ⟨passes, rfl, ran⟩
  refine ran.tail (.stageBlob ⟨uploadId, sha256, size⟩ given ?_)
  have reserved := Nat.pos_of_ne_zero (not_or.mp passes).2
  obtain ⟨request, member, same⟩ := List.countP_pos_iff.mp reserved
  exact ⟨request, member, of_decide_eq_true same⟩

/-- The upload's row and the blobs staged for it are settled together, or not at all. -/
theorem executes_settle (uploadId : String) (expected : UploadState)
    (change : UploadRequestRow → UploadRequestRow) (keeps : ∀ row, (change row).key = row.key)
    (sameUpload : ∀ row, (change row).uploadId = row.uploadId)
    (settles : ∀ row, (change row).state ≠ .conflict) :
    Preserves (Executes lib now effects start) (do
      let store ← get
      let affected := store.uploadRequests.count fun row =>
        row.uploadId = uploadId && row.state = expected
      modify fun store =>
        { store with
          stagedBlobs := store.stagedBlobs.deleteWhere fun row => row.uploadId = uploadId
          uploadRequests := store.uploadRequests.updateWhere
            (fun row => row.uploadId = uploadId && row.state = expected) change keeps }
      refuseIf (affected ≠ 1) .uploadState : Tx Unit) := by
  apply ensures_bind ensures_get
  intro found
  apply ensures_bind
  · apply @ensures_modify Store Error _ _ fun _ state =>
      0 < found.uploadRequests.count (fun row => row.uploadId = uploadId && row.state = expected) →
        Executes lib now effects start state
    rintro _ ⟨rfl, ran⟩ positive
    obtain ⟨request, member, selected⟩ := List.countP_pos_iff.mp positive
    simp only [Bool.and_eq_true, decide_eq_true_eq] at selected
    exact ran.tail (.settleUpload uploadId expected change keeps sameUpload settles
      ⟨request, member, selected⟩)
  · intro _
    apply (ensures_refuseIf _).imp
    rintro _ _ ⟨passes, executes⟩
    apply executes
    rw [not_not.mp passes]
    exact Nat.one_pos

end Addons.MetaStore
