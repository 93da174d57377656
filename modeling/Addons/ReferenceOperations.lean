import Addons.ReferenceCounting
import Addons.TransitionSystem

/-!
# Operations that keep the counts exact

Artifact, cache and publication operations end with exact counts when they start with
them.
-/

namespace Addons.MetaStore

open Transaction Ensures ArtifactRow Option

/-! ## Statements that keep the counts exact -/

variable {lib : Libraries} {now : Time} {amount : String → Int}

theorem ensures_modify_unrelated {change : Store → Store}
    (blobs : ∀ store, (change store).blobs = store.blobs)
    (references : ∀ store digest, (change store).references digest = store.references digest) :
    Ensures (Excess amount) (modify change : Tx Unit) (fun _ => Excess amount) := by
  apply ensures_modify
  intro store excess
  exact excess.unchanged (blobs store) (references store)

theorem ensures_insertBlob (sha256 : String) (size : Int) :
    Ensures (Excess amount) (insertBlob lib now sha256 size)
      (fun _ store => Excess amount store ∧ Recorded sha256 store) := by
  apply ensures_modify
  intro _ excess
  exact excess.recordBlob rfl (stamped_unreferencedBlob lib now sha256 size) (fun _ => rfl)
    fun _ => rfl

theorem recorded_of_count {store : Store} {sha : String}
    (affected : store.blobs.count (fun row => row.sha256 = sha) = 1) : Recorded sha store := by
  have selected := congrArg List.length (store.blobs.select_key sha)
  rw [KeyedTable.select, ← List.countP_eq_length_filter] at selected
  cases found : store.blobs.find? sha with
  | some blob => exact ⟨blob, found⟩
  | none =>
    rw [found] at selected
    exact absurd (affected.symm.trans selected) (by simp)

theorem ensures_adjustRefRunner (sha : String) (delta : Int) :
    Ensures (Excess amount) (adjustRefRunner lib now sha delta)
      (fun _ => Excess (amount + Pi.single sha delta)) := by
  apply ensures_bind ensures_get
  intro before
  have adjusted : Ensures (fun store => before = store ∧ Excess amount store)
      (adjustRef lib now sha delta)
      (fun _ store => Recorded sha before → Excess (amount + Pi.single sha delta) store) := by
    apply ensures_modify
    rintro store ⟨rfl, excess⟩ recorded
    exact excess.adjustBlob recorded delta
  apply ensures_bind adjusted
  intro _
  apply (ensures_refuseIf _).imp
  rintro _ _ ⟨affected, moved⟩
  exact moved (recorded_of_count (not_not.mp affected))

theorem ensures_releaseAll (digests : List String) :
    Ensures (Excess (amount + tally digests))
      (digests.forM fun digest => adjustRefRunner lib now digest (-1))
      (fun _ => Excess amount) := by
  induction digests with
  | nil =>
    apply ensures_pure
    intro store excess
    simpa [show tally [] = 0 from rfl] using excess
  | cons first rest ih =>
    apply ensures_bind (ensures_adjustRefRunner first (-1))
    intro _
    apply ih.of_imp
    intro _ excess
    have moved : amount + tally (first :: rest) + Pi.single first (-1) = amount + tally rest := by
      funext digest
      simp only [tally_cons, Pi.add_apply, Pi.single_apply]
      split <;> omega
    rwa [moved] at excess

theorem ensures_deleteGroupCacheWhere (condition : GroupCacheRow → Bool) :
    Preserves (Excess amount) (deleteGroupCacheWhere lib now condition) := by
  apply ensures_bind ensures_get
  intro before
  have dropped : Ensures (fun store => before = store ∧ Excess amount store)
      (modify fun store => store.dropGroupCaches condition : Tx Unit)
      (fun _ => Excess (amount + tally ((before.groupMetadataCache.select condition).map
        GroupCacheRow.blobSha256))) := by
    apply ensures_modify
    rintro _ ⟨rfl, excess⟩
    exact excess.dropGroupCaches condition
  apply ensures_bind dropped
  intro _
  exact ensures_releaseAll _

theorem ensures_invalidateGroupCachesForMember (memberRepoId : Int) (path : String) :
    Preserves (Excess amount) (invalidateGroupCachesForMember lib now memberRepoId path) :=
  preserves_invalidateGroupCachesForMember ensures_deleteGroupCacheWhere memberRepoId path

def AllCaches (condition : GroupCacheRow → Prop) (store : Store) : Prop :=
  ∀ row ∈ store.groupMetadataCache.rows, condition row

theorem Exact.recorded_of_artifact {store : Store} (exact : Exact store) {key : Int × String}
    {row : ArtifactRow} (found : store.artifacts.find? key = some row) :
    Recorded row.blobSha256 store := by
  apply Excess.recorded_of_reference exact
  have member := (KeyedTable.find?_eq_some_iff.mp found).1
  have counted : 0 < store.artifacts.count (fun other => other.blobSha256 = row.blobSha256) :=
    List.countP_pos_iff.mpr ⟨row, member, by simp⟩
  unfold Store.references
  omega

theorem ensures_upsertArtifact (row : ArtifactRow) (old : Option ArtifactRow) :
    Ensures
      (fun store => Excess amount store ∧ store.artifacts.find? row.key = old ∧
        ∀ other ∈ old, Recorded other.blobSha256 store)
      (upsertArtifact row)
      (fun _ store =>
        Excess (amount + due (old.map ArtifactRow.blobSha256) row.blobSha256) store ∧
          Recorded row.blobSha256 store ∧ ∀ other ∈ old, Recorded other.blobSha256 store) := by
  apply ensures_guard
  intro before
  apply ensures_modify
  rintro _ ⟨foreign, rfl, excess, rfl, recorded⟩
  refine ⟨excess.putArtifactRow row, ?_, recorded⟩
  have blobFound : before.blobs.find? row.blobSha256 ≠ none := fun absent =>
    foreign (.inr (.inl absent))
  exact Option.ne_none_iff_exists'.mp blobFound

theorem ensures_adjustRef (sha : String) (delta : Int) (other : Option String) :
    Ensures
      (fun store => Excess amount store ∧ Recorded sha store ∧
        ∀ digest ∈ other, Recorded digest store)
      (adjustRef lib now sha delta)
      (fun _ store => Excess (amount + Pi.single sha delta) store ∧
        ∀ digest ∈ other, Recorded digest store) := by
  apply ensures_modify
  rintro _ ⟨excess, recorded, others⟩
  exact ⟨excess.adjustBlob recorded delta, fun digest member =>
    (others digest member).adjustBlob delta⟩

theorem ensures_moveReference (old : Option String) (new : String) :
    Ensures
      (fun store => Excess (amount + due old new) store ∧ Recorded new store ∧
        ∀ digest ∈ old, Recorded digest store)
      (moveReference lib now old new) (fun _ => Excess amount) := by
  cases old with
  | none =>
    apply (ensures_adjustRef new 1 none).imp
    rintro _ store ⟨excess, -⟩
    rwa [add_assoc, due_none, add_zero] at excess
  | some old =>
    simp only [moveReference]
    split
    · apply ensures_bind (ensures_adjustRef new 1 (some old))
      intro _
      have released := @ensures_adjustRef lib now (amount + due (some old) new + Pi.single new 1)
        old (-1) none
      refine (released.of_imp ?_).imp ?_
      · rintro store ⟨excess, recorded⟩
        exact ⟨excess, recorded old rfl, by intro _ member; cases member⟩
      · rintro _ store ⟨excess, -⟩
        rwa [add_assoc, add_assoc, ← add_assoc (due _ _), due_some, add_zero] at excess
    · rename_i same
      apply ensures_pure
      rintro _ ⟨excess, -⟩
      rwa [not_not.mp same, due_self, add_zero] at excess

theorem ensures_putArtifactTx (artifact : Artifact) :
    Ensures Exact (putArtifactTx lib now artifact) (fun _ => Exact) := by
  apply ensures_bind (ensures_insertBlob artifact.blobSha256 artifact.size)
  intro _
  apply ensures_guard
  intro before
  let old := before.artifacts.find? (artifact.repoId, artifact.path)
  refine ensures_bind ((@ensures_upsertArtifact 0 _ old).of_imp ?_) fun _ => ?_
  · rintro store ⟨-, rfl, exact, -⟩
    exact ⟨exact, rfl, fun _ found => Exact.recorded_of_artifact exact found⟩
  · refine ensures_bind ((@ensures_moveReference _ _ 0 _ _).of_imp ?_) fun _ => ?_
    · rintro _ ⟨excess, recorded, others⟩
      exact ⟨excess, recorded, by simpa using others⟩
    · exact ensures_invalidateGroupCachesForMember _ _

theorem single_cancel (digest : String) :
    (Pi.single digest 1 + Pi.single digest (-1) : String → Int) = 0 := by
  funext other
  simp only [Pi.add_apply, Pi.single_apply, Pi.zero_apply]
  split <;> rfl

theorem ensures_deleteArtifactRow {repoId : Int} {path : String} {row : ArtifactRow} :
    Ensures (fun store => Exact store ∧ store.artifacts.find? (repoId, path) = some row)
      (deleteArtifactRow repoId path)
      (fun _ store => Excess (0 + Pi.single row.blobSha256 1) store ∧
        Recorded row.blobSha256 store) := by
  apply ensures_modify
  rintro store ⟨exact, found⟩
  refine ⟨?_, Exact.recorded_of_artifact exact found⟩
  have dropped := exact.dropArtifacts fun row => row.key = (repoId, path)
  rw [store.artifacts.select_key, found] at dropped
  simpa [tally_cons, show tally [] = 0 from rfl] using dropped

theorem ensures_giveBack (digest : String) :
    Ensures (fun store => Excess (amount + Pi.single digest 1) store ∧ Recorded digest store)
      (adjustRef lib now digest (-1)) (fun _ => Excess amount) := by
  apply ensures_modify
  rintro _ ⟨excess, recorded⟩
  have moved := @Excess.adjustBlob _ _ (formatTime lib now) _ excess recorded (-1)
  rwa [add_assoc, single_cancel, add_zero] at moved

theorem ensures_deleteArtifactTx (repoId : Int) (path : String) :
    Ensures Exact (deleteArtifactTx lib now repoId path) (fun _ => Exact) := by
  apply ensures_bind ensures_get
  intro _
  apply ensures_bind (ensures_require _)
  intro row
  apply ensures_bind (ensures_refuseIf _)
  intro _
  refine ensures_bind ((@ensures_deleteArtifactRow repoId path row).of_imp ?_) fun _ => ?_
  · rintro _ ⟨-, found, rfl, exact⟩
    exact ⟨exact, found⟩
  · apply ensures_bind (ensures_giveBack row.blobSha256)
    intro _
    exact ensures_invalidateGroupCachesForMember _ _

theorem ensures_deletePublicationRow (id : String) :
    Ensures (Excess amount) (deletePublicationRow id) (fun _ => Excess amount) := by
  refine ensures_modify_unrelated (fun _ => rfl) fun _ _ => ?_
  simp only [Store.references, count_disown]

theorem ensures_dropEmptyPublication (blobSha256 publicationId : String) :
    Ensures Exact (dropEmptyPublication blobSha256 publicationId) (fun _ => Exact) := by
  apply ensures_bind ensures_get
  intro _
  dsimp only
  split
  · apply ensures_bind ((ensures_deletePublicationRow publicationId).of_imp fun _ holds => holds.2)
    intro _
    exact ensures_pure fun _ holds => holds
  · exact ensures_pure fun _ holds => holds.2

theorem ensures_releasePublication (blobSha256 : String) (publicationId : Option String) :
    Ensures Exact (releasePublication blobSha256 publicationId) (fun _ => Exact) := by
  unfold releasePublication
  split
  · exact ensures_dropEmptyPublication _ _
  · exact ensures_pure fun _ holds => holds

theorem ensures_forceDeleteArtifactTx (repoId : Int) (path : String) :
    Ensures Exact (forceDeleteArtifactTx lib now repoId path) (fun _ => Exact) := by
  apply ensures_bind ensures_get
  intro _
  apply ensures_bind (ensures_require _)
  intro row
  refine ensures_bind ((@ensures_deleteArtifactRow repoId path row).of_imp ?_) fun _ => ?_
  · rintro _ ⟨found, rfl, exact⟩
    exact ⟨exact, found⟩
  · apply ensures_bind (ensures_giveBack row.blobSha256)
    intro _
    apply ensures_bind (ensures_releasePublication row.blobSha256 row.publicationId)
    intro _
    apply ensures_bind (ensures_invalidateGroupCachesForMember _ _)
    intro _
    exact preserves_pure _

theorem ensures_purgeArtifactsTx (repoId : Int) :
    Ensures Exact (purgeArtifactsTx lib now repoId) (fun _ => Exact) := by
  apply preserves_guard
  intro _
  have dropped : Ensures (fun store => Excess (-tally ((store.artifacts.select fun row =>
          row.repoId = repoId).map ArtifactRow.blobSha256)) store)
        (modify fun store => store.dropArtifacts fun row => row.repoId = repoId : Tx Unit)
        (fun _ => Exact) := by
    apply ensures_modify
    intro _ excess
    have gone := excess.dropArtifacts (fun row => row.repoId = repoId)
    rwa [neg_add_cancel] at gone
  refine ensures_bind (ensures_modify ?_) fun _ => ensures_bind dropped fun _ => preserves_pure _
  intro _ exact
  exact exact.releaseBlobs (fun _ => Int.natCast_nonneg _) fun _ _ => rfl

/-! ## Publications and cached indexes -/

/-! ## Repository operations and the counts -/

variable {lib : Libraries} {now : Time} {amount : String → Int} {store : Store}

theorem ensures_createRepositoryTx (repository : Repository) :
    Ensures Exact (createRepositoryTx lib now repository) (fun _ => Exact) := by
  apply preserves_guard
  intro _
  refine ensures_bind (ensures_modify_unrelated ?_ ?_) fun _ => preserves_pure _
  · exact fun _ => rfl
  · exact fun _ _ => rfl

theorem ensures_updateRepository (id : Int) {change : Repository → Repository}
    {keeps : ∀ repository, (change repository).id = repository.id} :
    Ensures (Excess amount) (updateRepository id change keeps) (fun _ => Excess amount) := by
  apply ensures_checked
  apply ensures_modify_unrelated
  · exact fun _ => rfl
  · exact fun _ _ => rfl

theorem ensures_dropGroupIndexes (id : Int) : Preserves Exact (dropGroupIndexes lib now id) :=
  preserves_dropGroupIndexes ensures_deleteGroupCacheWhere id

theorem ensures_updateRepositoryConfigTx (id : Int) (upstreamUrl configJson : String) :
    Ensures Exact (updateRepositoryConfigTx lib now id upstreamUrl configJson)
      (fun _ => Exact) := by
  apply ensures_bind (ensures_dropGroupIndexes id)
  intro _
  exact ensures_updateRepository id

theorem ensures_setRepositoryDisabledTx (id : Int) (disabled : Bool) :
    Ensures Exact (setRepositoryDisabledTx lib now id disabled) (fun _ => Exact) := by
  apply ensures_bind (ensures_invalidateGroupCachesForMember _ _)
  intro _
  exact ensures_updateRepository id

/-- No two artifacts of the repository point at one blob. -/
def DistinctBlobs (artifacts : KeyedTable ArtifactRow.key) (repoId : Int) : Prop :=
  ∀ digest, (artifacts.count fun row => row.repoId = repoId && row.blobSha256 = digest) ≤ 1

theorem Excess.cascade (excess : Excess amount store) {id : Int}
    (cleared : AllCaches (fun row => row.key.groupRepoId ≠ id) store) :
    Excess (amount + tally ((store.artifacts.select fun row => row.repoId = id).map
      blobSha256)) (store.cascade id) := by
  refine excess.rows rfl fun digest => ?_
  have artifacts := store.artifacts.count_deleteWhere (fun row => row.repoId = id)
    (fun row => row.blobSha256 = digest)
  have caches := store.groupMetadataCache.count_deleteWhere
    (fun row => row.key.groupRepoId = id) (fun row => row.blobSha256 = digest)
  have none : store.groupMetadataCache.select (fun row => row.key.groupRepoId = id) = [] := by
    rw [KeyedTable.select, List.filter_eq_nil_iff]
    intro row member
    simpa using cleared row member
  rw [none, List.countP_nil] at caches
  simp only [Store.references, Store.cascade, ← countP_eq_tally, count_disown]
  omega

theorem ensures_dropGroupIndexes_rows (id : Int) (rows : KeyedTable key) :
    Ensures (fun store => Exact store ∧ store.artifacts = rows) (dropGroupIndexes lib now id)
      (fun _ store => (Exact store ∧ store.artifacts = rows) ∧
        AllCaches (fun row => row.key.groupRepoId ≠ id) store) := by
  have steps : BlobSteps lib now fun store => store.artifacts = rows := by
    constructor <;> intros <;> exact ensures_modify fun _ same => same
  have shown := preserves_dropGroupIndexes steps.deleteGroupCacheWhere id
  have cleared := @clears_dropGroupIndexes lib now (fun _ => True) id
  exact (((ensures_dropGroupIndexes id).and shown).and cleared).of_imp fun _ holds =>
    ⟨holds, fun _ _ => trivial⟩

theorem ensures_deleteRepositoryRow (id : Int) :
    Ensures (fun store => Excess (-tally ((store.artifacts.select fun row =>
        row.repoId = id).map blobSha256)) store ∧
        AllCaches (fun row => row.key.groupRepoId ≠ id) store)
      (deleteRepositoryRow id) (fun _ => Exact) := by
  apply ensures_checked
  apply ensures_modify
  rintro _ ⟨excess, cleared⟩
  have gone := excess.cascade cleared
  rwa [neg_add_cancel] at gone

theorem ensures_deleteRepositoryTx (id : Int) :
    Ensures (fun store => Exact store ∧ DistinctBlobs store.artifacts id)
      (deleteRepositoryTx lib now id) (fun _ => Exact) := by
  apply ensures_of_each
  rintro start ⟨exact, distinct⟩
  refine ensures_bind ((ensures_dropGroupIndexes_rows id start.artifacts).of_imp ?_) fun _ => ?_
  · rintro store rfl
    exact ⟨exact, rfl⟩
  · apply ensures_bind (ensures_modify _) fun _ => ensures_deleteRepositoryRow id
    rintro _ ⟨⟨reached, artifacts⟩, cleared⟩
    refine ⟨reached.releaseBlobs (fun _ => Int.one_nonneg) fun digest _ => ?_, cleared⟩
    have atMost : artifactReferences _ id digest ≤ 1 := (artifacts ▸ distinct) digest
    omega

/-- Only an unreferenced blob's record can go. -/
theorem ensures_deleteBlobRecordTx (sha : String) (before : Time) :
    Ensures Exact (deleteBlobRecordTx lib sha before) (fun _ => Exact) := by
  apply ensures_guard
  intro _
  refine ensures_bind (ensures_modify ?_) fun _ => ensures_pure fun _ holds => holds
  rintro store ⟨-, -, exact⟩
  let condition (blob : BlobRow) : Bool := blob.sha256 = sha && blob.isReclaimable lib before
  have found (digest : String) := store.blobs.find?_deleteWhere condition digest
  rw [Exact, ← add_zero (0 : String → Int)]
  refine exact.blobs rfl rfl (fun digest => ?_) fun digest blob blobFound => ?_
  · rw [Pi.zero_apply, add_zero, Store.counted, Store.counted, found]
    cases blobFound : store.blobs.find? digest with
    | none => rfl
    | some blob =>
      by_cases reclaimable : condition blob
      · have counted := exact.counted digest
        have unreferenced : blob.refCount ≤ 0 := by
          simp only [condition, BlobRow.isReclaimable, Bool.and_eq_true,
            decide_eq_true_eq] at reclaimable
          exact reclaimable.2.1.1
        simp only [Store.counted, blobFound, elim_some, Pi.zero_apply, add_zero] at counted
        simp only [filter_some, reclaimable, Bool.not_true, Bool.false_eq_true, if_false,
          elim_none, elim_some]
        omega
      · simp [filter_some, reclaimable]
  · rw [show ({ store with blobs := store.blobs.deleteWhere condition } : Store).blobs.find? digest
      = _ from found digest] at blobFound
    exact exact.stamped digest blob (filter_eq_some_iff.mp blobFound).1

variable {lib : Libraries} {now : Time} {amount : String → Int}

theorem ensures_moveBatchReference (old : Option String) (new : String) :
    Ensures (Excess (amount + due old new)) (moveBatchReference lib now old new)
      (fun _ => Excess amount) := by
  cases old with
  | none =>
    apply (ensures_adjustRefRunner new 1).imp
    intro _ store excess
    rwa [add_assoc, due_none, add_zero] at excess
  | some old =>
    simp only [moveBatchReference]
    split
    · apply ensures_bind (ensures_adjustRefRunner new 1)
      intro _
      apply (ensures_adjustRefRunner old (-1)).imp
      intro _ store excess
      rwa [add_assoc, add_assoc, ← add_assoc (due _ _), due_some, add_zero] at excess
    · rename_i same
      apply ensures_pure
      intro _ excess
      rwa [not_not.mp same, due_self, add_zero] at excess

theorem ensures_putBatchArtifact (artifact : Artifact) :
    Ensures Exact (putBatchArtifact lib now artifact) (fun _ => Exact) := by
  apply ensures_bind ensures_get
  intro before
  let old := before.artifacts.find? (artifact.repoId, artifact.path)
  refine ensures_bind ((@ensures_upsertArtifact 0 _ old).of_imp ?_) fun _ => ?_
  · rintro _ ⟨rfl, exact⟩
    exact ⟨exact, rfl, fun _ found => Exact.recorded_of_artifact exact found⟩
  · exact (ensures_moveBatchReference _ _).of_imp fun _ holds => holds.1

theorem ensures_deleteArtifactOwnedBy (owned : Option String → Bool) (error : Error) (repoId : Int)
    (path : String) :
    Ensures Exact (deleteArtifactOwnedBy lib now owned error repoId path) (fun _ => Exact) := by
  apply ensures_bind ensures_get
  intro _
  apply ensures_bind (ensures_require _)
  intro row
  refine ensures_bind ((@ensures_deleteArtifactRow repoId path row).of_imp ?_) fun _ => ?_
  · rintro store ⟨found, rfl, exact⟩
    exact ⟨exact, (Option.filter_eq_some_iff.mp found).1⟩
  · refine ((ensures_adjustRefRunner row.blobSha256 (-1)).of_imp fun _ holds => holds.1).imp ?_
    intro _ _ excess
    rwa [add_assoc, single_cancel, add_zero] at excess

theorem ensures_insertTombstone (tombstone : ArtifactPublicationTombstone) :
    Ensures Exact (insertTombstone lib now tombstone) (fun _ => Exact) := by
  apply preserves_guard
  intro _
  apply ensures_modify_unrelated
  · exact fun _ => rfl
  · exact fun _ _ => rfl

theorem ensures_upsertPublication (publication : ArtifactPublication) :
    Ensures Exact (upsertPublication lib now publication) (fun _ => Exact) := by
  apply preserves_guard
  intro _
  apply ensures_bind (preserves_refuseIf _ _)
  intro _
  apply ensures_modify_unrelated
  · exact fun _ => rfl
  · exact fun _ _ => rfl

theorem ensures_commitUpload (uploadId : String) (expected : UploadState) (resultJson : String) :
    Ensures Exact (commitUpload lib now uploadId expected resultJson) (fun _ => Exact) := by
  apply ensures_checked
  apply ensures_modify_unrelated
  · exact fun _ => rfl
  · exact fun _ _ => rfl

theorem ensures_settlePublication (batch : PublicationLifecycleBatch) :
    Ensures Exact (settlePublication lib now batch) (fun _ => Exact) := by
  unfold settlePublication
  split
  · exact ensures_deletePublicationRow _
  · exact ensures_modify_unrelated (fun _ => rfl) fun _ _ => rfl

theorem exact_steps : BatchSteps lib now (fun _ => True) Exact where
  insertBlob _ _ := (ensures_insertBlob _ _).imp fun _ _ holds => holds.1
  deleteGroupCacheWhere := ensures_deleteGroupCacheWhere
  putBatchArtifact artifact _ := ensures_putBatchArtifact artifact
  deleteArtifactOwnedBy := ensures_deleteArtifactOwnedBy
  insertTombstone := ensures_insertTombstone
  upsertPublication := ensures_upsertPublication
  settlePublication := ensures_settlePublication

theorem ensures_applyArtifactBatchTx (key : UploadRequestKey) (batch : ArtifactBatch) :
    Ensures Exact (applyArtifactBatchTx lib now key batch) (fun _ => Exact) :=
  exact_steps.applyArtifactBatchTx (fun _ _ => trivial) (exact_steps.invalidate _ _)
    ensures_commitUpload

theorem ensures_applyPublicationLifecycleTx (batch : PublicationLifecycleBatch) :
    Ensures Exact (applyPublicationLifecycleTx lib now batch) (fun _ => Exact) :=
  exact_steps.applyPublicationLifecycleTx (fun _ _ => trivial) (exact_steps.invalidate _ _)
    (exact_steps.settlePublication _)

theorem ensures_createUploadRequestTx (request : ArtifactUploadRequest) :
    Ensures Exact (createUploadRequestTx lib now request) (fun _ => Exact) := by
  apply preserves_guard
  intro _
  apply ensures_bind (preserves_refuseIf _ _)
  intro _
  apply ensures_modify_unrelated
  · exact fun _ => rfl
  · exact fun _ _ => rfl

theorem ensures_leaseUploadBlobTx (uploadId sha256 : String) (size : Int) :
    Ensures Exact (leaseUploadBlobTx lib now uploadId sha256 size) (fun _ => Exact) := by
  apply ensures_bind ((ensures_insertBlob sha256 size).imp fun _ _ holds => holds.1)
  intro _
  apply preserves_guard
  intro _
  apply ensures_modify_unrelated
  · exact fun _ => rfl
  · exact fun _ _ => rfl

section GroupMetadata

variable {caches : KeyedTable GroupCacheRow.key}

theorem ensures_insertCacheBlob (sha256 : String) (size : Int) :
    Ensures (fun store => Exact store ∧ store.groupMetadataCache = caches)
      (insertCacheBlob lib now sha256 size)
      (fun _ store => Exact store ∧ store.groupMetadataCache = caches) := by
  apply ensures_modify
  rintro _ ⟨exact, same⟩
  refine ⟨And.left (Excess.recordBlob exact ?_ ?_ ?_ ?_), same⟩
  · rfl
  · exact stamped_unreferencedBlob lib now sha256 size
  · exact fun _ => rfl
  · exact fun _ => rfl

theorem ensures_adjustCacheRef (sha : String) (delta : Int) :
    Ensures (fun store => Excess amount store ∧ store.groupMetadataCache = caches)
      (adjustRefRunner lib now sha delta)
      (fun _ store => Excess (amount + Pi.single sha delta) store ∧
        store.groupMetadataCache = caches) :=
  (ensures_adjustRefRunner sha delta).and
    (preserves_adjustRefRunner (ensures_modify fun _ same => same))

theorem due_eq_zero {old : Option String} {new : String} (same : old.getD "" = new)
    (nonempty : new ≠ "") : due old new = 0 := by
  cases old with
  | none => exact absurd same.symm nonempty
  | some old => rw [show old = new from same, due_self]

theorem ensures_releaseCached (old : Option String) :
    Ensures (fun store => Exact store ∧ store.groupMetadataCache = caches)
      (old.toList.forM fun old => adjustRefRunner lib now old (-1))
      (fun _ store => Excess (-old.elim 0 fun digest => Pi.single digest 1) store ∧
        store.groupMetadataCache = caches) := by
  cases old with
  | none =>
    apply ensures_pure
    intro store _
    rwa [Option.elim_none, neg_zero]
  | some old =>
    apply ensures_bind (ensures_adjustCacheRef old (-1))
    intro _
    apply ensures_pure
    rintro _ ⟨_, same⟩
    refine ⟨?_, same⟩
    rwa [Option.elim_some, neg_eq_of_add_eq_zero_right (single_cancel old),
      ← zero_add (Pi.single _ _)]

theorem ensures_moveCacheReference (old : Option String) {new : String} (nonempty : new ≠ "") :
    Ensures (fun store => Exact store ∧ store.groupMetadataCache = caches)
      (moveCacheReference lib now old new)
      (fun _ store => Excess (-due old new) store ∧ store.groupMetadataCache = caches) := by
  unfold moveCacheReference
  split
  next =>
      apply ensures_bind (ensures_releaseCached old)
      intro _
      apply (ensures_adjustCacheRef new 1).imp
      rintro _ store ⟨_, same⟩
      refine ⟨?_, same⟩
      rwa [due, neg_sub, sub_eq_neg_add]
  next same =>
      apply ensures_pure
      rintro _ ⟨exact, sameCaches⟩
      rw [due_eq_zero (not_not.mp same) nonempty, neg_zero]
      exact ⟨exact, sameCaches⟩

theorem ensures_putGroupMetadataCacheTx (cache : GroupMetadataCache)
    (nonempty : cache.blobSha256 ≠ "") :
    Ensures Exact (putGroupMetadataCacheTx lib now cache) (fun _ => Exact) := by
  apply ensures_bind ensures_get
  intro before
  refine ensures_bind ((@ensures_insertCacheBlob lib now before.groupMetadataCache _ _).of_imp
    ?_) fun _ => ?_
  · rintro store ⟨rfl, exact⟩
    exact ⟨exact, rfl⟩
  apply ensures_bind (ensures_moveCacheReference _ nonempty)
  intro _
  apply ensures_guard
  intro _
  apply ensures_modify
  rintro _ ⟨-, -, excess, same⟩
  have put := excess.putGroupCacheRow (groupCacheRow lib now cache)
  rw [same, show (groupCacheRow lib now cache).key = cache.key from rfl,
    show (groupCacheRow lib now cache).blobSha256 = cache.blobSha256 from rfl,
    neg_add_cancel] at put
  exact put

end GroupMetadata

open TransitionSystem Store

section Operations

variable {lib : Libraries} {now : Time}

theorem keeps_applyArtifactBatch (key : UploadRequestKey) (batch : ArtifactBatch) :
    Keeps Exact (applyArtifactBatch lib now key batch) := by
  unfold applyArtifactBatch
  dsimp only
  split
  · exact keeps_throw _
  · exact keeps_atomically (ensures_applyArtifactBatchTx key _)

end Operations

inductive Command where
  | createRepository (repository : Repository)
  | putArtifact (artifact : Artifact)
  | ensureBlob (sha256 : String) (size : Int)
  | deleteArtifact (repoId : Int) (path : String)
  | forceDeleteArtifact (repoId : Int) (path : String)
  | purgeArtifacts (repoId : Int)
  | evictLru (repoId limit : Int)
  | createUploadRequest (request : ArtifactUploadRequest)
  | leaseUploadBlob (uploadId sha256 : String) (size : Int)
  | applyArtifactBatch (key : UploadRequestKey) (batch : ArtifactBatch)
  | applyPublicationLifecycle (batch : PublicationLifecycleBatch)
  | putGroupMetadataCache (cache : GroupMetadataCache)
  | updateRepositoryConfig (id : Int) (upstreamUrl configJson : String)
  | setRepositoryDisabled (id : Int) (disabled : Bool)
  | deleteRepository (id : Int)
  | deleteBlobRecord (sha : String) (before : Time)

def runCommand (lib : Libraries) (now : Time) (store : Store) : Command → Store
  | .createRepository repository => (createRepository lib now repository store).2
  | .putArtifact artifact => (putArtifact lib now artifact store).2
  | .ensureBlob sha256 size => (ensureBlob lib now sha256 size store).2
  | .deleteArtifact repoId path => (deleteArtifact lib now repoId path store).2
  | .forceDeleteArtifact repoId path => (forceDeleteArtifact lib now repoId path store).2
  | .purgeArtifacts repoId => (purgeArtifacts lib now repoId store).2
  | .evictLru repoId limit => (evictLru lib now repoId limit store).2
  | .createUploadRequest request => (createUploadRequest lib now request store).2
  | .leaseUploadBlob uploadId sha256 size => (leaseUploadBlob lib now uploadId sha256 size store).2
  | .applyArtifactBatch key batch => (applyArtifactBatch lib now key batch store).2
  | .applyPublicationLifecycle batch => (applyPublicationLifecycle lib now batch store).2
  | .putGroupMetadataCache cache => (putGroupMetadataCache lib now cache store).2
  | .updateRepositoryConfig id upstreamUrl configJson =>
    (updateRepositoryConfig lib now id upstreamUrl configJson store).2
  | .setRepositoryDisabled id disabled => (setRepositoryDisabled lib now id disabled store).2
  | .deleteRepository id => (deleteRepository lib now id store).2
  | .deleteBlobRecord sha before => (deleteBlobRecord lib sha before store).2

/-- A command runs, or SQLite fails and nothing changes. -/
inductive Step (lib : Libraries) : Store → Command → Store → Prop where
  | runs {store : Store} (now : Time) (command : Command) :
      Step lib store command (runCommand lib now store command)
  | fails {store : Store} (command : Command) : Step lib store command store

/-- A repository is deleted only when no two of its artifacts point at one blob, and a
cached index has a digest. -/
def Counted (store : Store) : Command → Prop
  | .deleteRepository id => DistinctBlobs store.artifacts id
  | .putGroupMetadataCache cache => cache.blobSha256 ≠ ""
  | _ => True

theorem exact_empty : Exact empty :=
  ⟨fun _ => rfl, nofun⟩

theorem Exact.run {lib : Libraries} {now : Time} {store : Store} (exact : Exact store)
    {command : Command} (counted : Counted store command) :
    Exact (runCommand lib now store command) := by
  cases command with
  | createRepository repository =>
    exact (keeps_createRepository (ensures_createRepositoryTx repository)).kept store exact
  | putArtifact artifact =>
    exact (keeps_putArtifact (ensures_putArtifactTx artifact)).kept store exact
  | ensureBlob sha256 size =>
    exact (keeps_atomically ((ensures_insertBlob sha256 size).imp fun _ _ holds =>
      holds.1)).kept store exact
  | deleteArtifact repoId path =>
    exact (keeps_atomically (ensures_deleteArtifactTx repoId path)).kept store exact
  | forceDeleteArtifact repoId path =>
    exact (keeps_atomically (ensures_forceDeleteArtifactTx repoId path)).kept store exact
  | purgeArtifacts repoId =>
    exact (keeps_atomically (ensures_purgeArtifactsTx repoId)).kept store exact
  | evictLru repoId =>
    exact (keeps_evictLru (ensures_deleteArtifactTx repoId)).kept store exact
  | createUploadRequest request =>
    exact (keeps_atomically (ensures_createUploadRequestTx request)).kept store exact
  | leaseUploadBlob uploadId sha256 size =>
    exact (keeps_atomically (ensures_leaseUploadBlobTx uploadId sha256 size)).kept store exact
  | applyArtifactBatch key batch => exact (keeps_applyArtifactBatch key batch).kept store exact
  | applyPublicationLifecycle batch =>
    exact (keeps_applyPublicationLifecycle (ensures_applyPublicationLifecycleTx batch)).kept
      store exact
  | putGroupMetadataCache cache =>
    exact (keeps_atomically (ensures_putGroupMetadataCacheTx cache counted)).kept store exact
  | updateRepositoryConfig id =>
    exact (keeps_atomically (ensures_updateRepositoryConfigTx id _ _)).kept store exact
  | setRepositoryDisabled id disabled =>
    exact (keeps_atomically (ensures_setRepositoryDisabledTx id disabled)).kept store exact
  | deleteRepository id =>
    change Exact (atomically (deleteRepositoryTx lib now id) store).2
    unfold atomically
    cases ran : deleteRepositoryTx lib now id store with
    | error => exact exact
    | ok reached =>
      exact (ensures_deleteRepositoryTx id).committed store reached.1 reached.2 ⟨exact, counted⟩ ran
  | deleteBlobRecord sha before =>
    exact (keeps_atomically (ensures_deleteBlobRecordTx sha before)).kept store exact

/-- In every run whose commands keep the counts, the reference count of a blob is the number of rows
that name it, and it is stamped as unreferenced exactly when there is none. -/
theorem blobReferences_exact (lib : Libraries) {store : Store}
    (reached : Reachable (· = empty) (Step lib) Counted store) :
    ∀ blob ∈ store.blobs.rows, blob.refCount = store.references blob.sha256 ∧
      (blob.unreferencedSince.isSome = true ↔ store.references blob.sha256 = 0) := by
  have exact : Exact store := by
    apply reached.invariant
    · rintro store rfl
      exact exact_empty
    · intro _ _ _ exact counted taken
      cases taken with
      | runs => exact exact.run counted
      | fails => exact exact
  intro blob member
  have found := KeyedTable.find?_eq_some_iff.mpr ⟨member, rfl⟩
  have counted := exact.counted blob.sha256
  have stamped := exact.stamped _ _ found
  simp only [Store.counted, found, Option.elim_some, Pi.zero_apply, add_zero] at counted
  refine ⟨counted, stamped.trans ?_⟩
  omega

/-- Libraries that find nothing in any text. -/
def plainLibraries : Libraries where
  dateTime _ := ""
  parseRfc3339 _ := none
  julianday _ := none
  validJson _ := true
  stringField _ _ := none
  groupMembers _ := some []

def filesRepository : Repository := { name := "files", format := "raw", type := .hosted }

/-- The file at the path, all files with the same content. -/
def sharedFile (path : String) : Artifact :=
  { repoId := 1, path := path, blobSha256 := "shared", size := 1 }

def oneFile : Store :=
  runCommand plainLibraries 0
    (runCommand plainLibraries 0 Store.empty (.createRepository filesRepository))
    (.putArtifact (sharedFile "a"))

theorem oneFile_reachable : Reachable (· = empty) (Step plainLibraries) Counted oneFile := by
  have created : Reachable (· = empty) (Step plainLibraries) Counted
      (runCommand plainLibraries 0 empty (.createRepository filesRepository)) :=
    .next (.start rfl) (show Counted _ (.createRepository _) from trivial) (.runs 0 _)
  exact created.next (show Counted _ (.putArtifact _) from trivial) (.runs 0 _)

/-- Deleting a repository with two files of the same content leaves a reference that no row
holds. -/
theorem blobReferences_leaked :
    ∃ store, Reachable (· = empty) (Step plainLibraries) (fun _ _ => True) store ∧
      ∃ blob ∈ store.blobs.rows, blob.refCount = 1 ∧ store.references blob.sha256 = 0 ∧
        blob.unreferencedSince = none := by
  have oneFile := oneFile_reachable.mono fun _ _ _ => trivial
  have twoFiles := oneFile.next trivial (.runs 0 (.putArtifact (sharedFile "b")))
  exact ⟨_, twoFiles.next trivial (.runs 0 (.deleteRepository 1)), by decide⟩

theorem oneFile_distinct : DistinctBlobs oneFile.artifacts 1 := by
  intro _
  have single : oneFile.artifacts.rows.length = 1 := by decide
  exact single ▸ List.countP_le_length

theorem blobReferences_exact_deleted :
    (runCommand plainLibraries 0 oneFile (.deleteRepository 1)).blobs.rows.length = 1 ∧
      ∀ blob ∈ (runCommand plainLibraries 0 oneFile (.deleteRepository 1)).blobs.rows,
        blob.refCount = (runCommand plainLibraries 0 oneFile
          (.deleteRepository 1)).references blob.sha256 ∧
        (blob.unreferencedSince.isSome = true ↔ (runCommand plainLibraries 0 oneFile
          (.deleteRepository 1)).references blob.sha256 = 0) := by
  refine ⟨by decide, blobReferences_exact plainLibraries ?_⟩
  exact oneFile_reachable.next (show Counted _ (.deleteRepository 1) from oneFile_distinct)
    (.runs 0 _)

end Addons.MetaStore
