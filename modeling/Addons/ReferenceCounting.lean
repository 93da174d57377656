import Addons.StoreSteps
import Mathlib.Algebra.Group.Pi.Basic
import Mathlib.Algebra.Ring.Int.Defs

/-!
# Counting references to blobs

Inside a transaction the reference counts run ahead of the rows that refer to the blobs,
or behind them.
-/

namespace Addons.MetaStore

open Option KeyedTable ArtifactRow

/-- The rows that point at a blob. -/
def Store.references (store : Store) (digest : String) : Nat :=
  store.artifacts.count (fun row => row.blobSha256 = digest) +
    store.groupMetadataCache.count (fun row => row.blobSha256 = digest)

/-- The recorded count, none for a blob without a row. -/
def Store.counted (store : Store) (digest : String) : Int :=
  (store.blobs.find? digest).elim 0 BlobRow.refCount

/-- The blob has a time it became unreferenced exactly when nothing is counted for it. -/
def BlobRow.Stamped (blob : BlobRow) : Prop :=
  blob.unreferencedSince.isSome = true ↔ blob.refCount ≤ 0

structure Excess (amount : String → Int) (store : Store) : Prop where
  counted : ∀ digest, store.counted digest = store.references digest + amount digest
  stamped : ∀ digest blob, store.blobs.find? digest = some blob → blob.Stamped

abbrev Exact : Store → Prop := Excess 0

def Recorded (digest : String) (store : Store) : Prop :=
  ∃ blob, store.blobs.find? digest = some blob

variable {amount : String → Int} {store : Store} {digest now : String}

theorem stamped_adjust (blob : BlobRow) (delta : Int) (now : String) :
    (blob.adjust delta now).Stamped := by
  unfold BlobRow.Stamped BlobRow.adjust
  by_cases unreferenced : blob.refCount + delta ≤ 0 <;> simp [unreferenced]

variable {blob : BlobRow}

theorem BlobRow.Stamped.release (stamped : blob.Stamped) {lost : Int}
    (positive : 0 ≤ lost) (now : String) : (blob.release lost now).Stamped := by
  unfold BlobRow.Stamped BlobRow.release at *
  by_cases unreferenced : blob.refCount - lost ≤ 0
  · simp [unreferenced]
  · have referenced : ¬blob.refCount ≤ 0 := by omega
    simp only [unreferenced, if_false]
    rw [stamped]
    simp [referenced]

theorem stamped_unreferencedBlob (lib : Libraries) (now : Time) (sha256 : String) (size : Int) :
    (unreferencedBlob lib now sha256 size).Stamped := by
  simp [BlobRow.Stamped, unreferencedBlob]

theorem Excess.recorded_of_reference (exact : Exact store)
    (referenced : 0 < store.references digest) : Recorded digest store := by
  have counted := exact.counted digest
  unfold Recorded
  cases found : store.blobs.find? digest with
  | some blob => exact ⟨blob, rfl⟩
  | none =>
    simp only [Store.counted, found, elim_none, Pi.zero_apply] at counted
    omega

variable {after : Store} {change : String → Int}

theorem find?_adjustBlob (sha : String) (delta : Int) (now digest : String) :
    (store.adjustBlob sha delta now).blobs.find? digest =
      (store.blobs.find? digest).map
        (updated (fun row => row.sha256 = sha) fun row => row.adjust delta now) :=
  find?_updateWhere store.blobs (fun row => row.sha256 = sha)
    (fun row => row.adjust delta now) (fun _ => rfl) digest

variable {sha : String}

theorem Recorded.adjustBlob (recorded : Recorded digest store) (delta : Int) :
    Recorded digest (store.adjustBlob sha delta now) := by
  obtain ⟨_, found⟩ := recorded
  exact ⟨_, by rw [find?_adjustBlob, found, map_some]⟩

section

variable (excess : Excess amount store)
include excess

theorem Excess.blobs (artifacts : after.artifacts = store.artifacts)
    (caches : after.groupMetadataCache = store.groupMetadataCache)
    (counted : ∀ digest, after.counted digest = store.counted digest + change digest)
    (stamped : ∀ digest blob, after.blobs.find? digest = some blob → blob.Stamped) :
    Excess (amount + change) after := by
  refine ⟨fun digest => ?_, stamped⟩
  have references : after.references digest = store.references digest := by
    simp only [Store.references, artifacts, caches]
  rw [counted, excess.counted, references, Pi.add_apply]
  omega

theorem Excess.rows (blobs : after.blobs = store.blobs)
    (references : ∀ digest, after.references digest + change digest = store.references digest) :
    Excess (amount + change) after := by
  refine ⟨fun digest => ?_, blobs ▸ excess.stamped⟩
  have counted := excess.counted digest
  rw [← references digest] at counted
  simp only [Store.counted, blobs, Pi.add_apply] at counted ⊢
  omega

theorem Excess.unchanged (blobs : after.blobs = store.blobs)
    (references : ∀ digest, after.references digest = store.references digest) :
    Excess amount after := by
  rw [← add_zero amount]
  refine excess.rows blobs fun _ => ?_
  rw [references, Pi.zero_apply, add_zero]

/-- A new record of a blob counts nothing. -/
theorem Excess.recordBlob {merge : BlobRow → BlobRow}
    {keeps : ∀ old, (merge old).sha256 = old.sha256}
    (fresh : blob.refCount = 0) (stamped : blob.Stamped)
    (sameCount : ∀ old, (merge old).refCount = old.refCount)
    (sameStamp : ∀ old, (merge old).unreferencedSince = old.unreferencedSince) :
    Excess amount (store.recordBlob blob merge keeps) ∧
      Recorded blob.sha256 (store.recordBlob blob merge keeps) := by
  have found := find?_upsert_self store.blobs blob merge keeps
  have others := @KeyedTable.find?_upsert_of_ne _ _ _ _ store.blobs blob
  refine ⟨?_, _, found⟩
  rw [← add_zero amount]
  refine excess.blobs rfl rfl (fun digest => ?_) fun digest after afterFound => ?_
  · by_cases same : digest = blob.sha256
    · subst same
      simp only [Store.counted, Store.recordBlob, found, elim_some, Pi.zero_apply, add_zero]
      cases store.blobs.find? blob.sha256 with
      | none => exact fresh
      | some old => exact sameCount old
    · simp only [Store.counted, Store.recordBlob, others merge keeps same, Pi.zero_apply, add_zero]
  · by_cases same : digest = blob.sha256
    · subst same
      rw [show (store.recordBlob blob merge keeps).blobs.find? blob.sha256 = _ from found]
        at afterFound
      cases afterFound
      cases foundOld : store.blobs.find? blob.sha256 with
      | none => exact stamped
      | some =>
        have oldStamped := excess.stamped _ _ foundOld
        simpa only [BlobRow.Stamped, elim_some, sameCount, sameStamp] using oldStamped
    · exact excess.stamped digest after ((others merge keeps same).symm.trans afterFound)

/-- An adjustment adds to the excess of its blob. -/
theorem Excess.adjustBlob (recorded : Recorded sha store) (delta : Int) :
    Excess (amount + Pi.single sha delta) (store.adjustBlob sha delta now) := by
  refine excess.blobs rfl rfl (fun digest => ?_) fun digest _ afterFound => ?_
  · simp only [Store.counted, find?_adjustBlob, Pi.single_apply]
    by_cases same : digest = sha
    · subst same
      obtain ⟨blob, blobFound⟩ := recorded
      have blobKey := (find?_eq_some_iff.mp blobFound).2
      simp [blobFound, updated, blobKey, BlobRow.adjust]
    · cases blobFound : store.blobs.find? digest with
      | none => simp [same]
      | some =>
        have blobKey := (find?_eq_some_iff.mp blobFound).2
        simp [updated, blobKey, same]
  · rw [find?_adjustBlob] at afterFound
    obtain ⟨blob, blobFound, rfl⟩ := map_eq_some_iff.mp afterFound
    unfold updated
    split
    · exact stamped_adjust blob delta now
    · exact excess.stamped digest blob blobFound

end

theorem single_one_apply (other digest : String) :
    (Pi.single other 1 : String → Int) digest = (decide (other = digest)).toNat := by
  rw [Pi.single_apply]
  by_cases same : other = digest
  · simp [same]
  · simp [same, Ne.symm same]

/-- What is due after a row went from one blob to another. -/
def due (old : Option String) (new : String) : String → Int :=
  old.elim 0 (fun digest => Pi.single digest 1) - Pi.single new 1

theorem due_apply (old : Option String) (new digest : String) :
    due old new digest = old.elim 0 (fun other => ((decide (other = digest)).toNat : Int)) -
      (decide (new = digest)).toNat := by
  cases old <;> simp only [due, Pi.sub_apply, elim_none, elim_some, Pi.zero_apply,
    single_one_apply]

theorem due_none (new : String) : due none new + Pi.single new 1 = 0 := by
  simp [due]

theorem due_self (digest : String) : due (some digest) digest = 0 := by
  simp [due]

theorem due_some (old new : String) :
    due (some old) new + Pi.single new 1 + Pi.single old (-1) = 0 := by
  funext digest
  simp only [due, elim_some, Pi.add_apply, Pi.sub_apply, Pi.single_apply, Pi.zero_apply]
  split <;> split <;> omega

def tally (digests : List String) (digest : String) : Int :=
  digests.count digest

theorem tally_cons (first : String) (digests : List String) :
    tally (first :: digests) = tally digests + Pi.single first 1 := by
  funext digest
  simp only [tally, List.count_cons, Pi.add_apply, Pi.single_apply, beq_iff_eq, Nat.cast_add]
  by_cases same : first = digest
  · simp [same]
  · simp [same, Ne.symm same]

theorem countP_eq_tally {Row : Type} (rows : List Row) (blob : Row → String) (digest : String) :
    (rows.countP (fun row => blob row = digest) : Int) = tally (rows.map blob) digest := by
  simp only [tally, List.count, List.countP_map, Function.comp_def, Nat.cast_inj]
  exact List.countP_congr fun _ _ => by simp

theorem count_disown (artifacts : KeyedTable key) (condition : ArtifactRow → Bool)
    (digest : String) :
    (disown artifacts condition).count (fun row => row.blobSha256 = digest) =
      artifacts.count (fun row => row.blobSha256 = digest) :=
  count_updateWhere fun _ => rfl

theorem artifactReferences_eq_tally (store : Store) (repoId : Int) (digest : String) :
    (artifactReferences store repoId digest : Int) =
      tally ((store.artifacts.select fun row => row.repoId = repoId).map
        blobSha256) digest := by
  rw [← countP_eq_tally, select, List.countP_filter, artifactReferences, count, Nat.cast_inj]
  exact List.countP_congr fun _ _ => by simp [and_comm]

theorem artifactReferences_le (store : Store) (repoId : Int) (digest : String) :
    artifactReferences store repoId digest ≤ store.references digest := by
  have mono : artifactReferences store repoId digest ≤
      store.artifacts.count (fun row => row.blobSha256 = digest) :=
    List.countP_mono_left fun _ _ _ => by simp_all
  unfold Store.references
  omega

variable {repoId : Int}

/-- Every blob of a repository's artifacts gives up the references they hold. -/
theorem Excess.releaseBlobs (exact : Exact store) {lost : String → Int}
    (positive : ∀ digest, 0 ≤ lost digest)
    (each : ∀ digest, 0 < artifactReferences store repoId digest →
      lost digest = artifactReferences store repoId digest) :
    Excess (-tally ((store.artifacts.select fun row => row.repoId = repoId).map
      blobSha256)) (store.releaseBlobs repoId lost now) := by
  have found (digest : String) := find?_updateWhere store.blobs
    (fun blob => (store.artifacts.select fun row => row.repoId = repoId).any
      fun row => row.blobSha256 = blob.sha256)
    (fun blob => blob.release (lost blob.sha256) now) (fun _ => rfl) digest
  rw [← zero_add (-tally _)]
  refine exact.blobs rfl rfl (fun digest => ?_) fun digest _ afterFound => ?_
  · have bounded := artifactReferences_le store repoId digest
    have counted := exact.counted digest
    rw [Pi.neg_apply, ← artifactReferences_eq_tally]
    simp only [Store.counted, Pi.zero_apply, add_zero] at counted ⊢
    rw [show (store.releaseBlobs repoId lost now).blobs.find? digest = _ from found digest]
    cases blobFound : store.blobs.find? digest with
    | none =>
      simp only [blobFound, elim_none, map_none] at counted ⊢
      omega
    | some =>
      obtain rfl := (find?_eq_some_iff.mp blobFound).2
      have referenced (digest : String) : ((store.artifacts.select fun row =>
          row.repoId = repoId).any fun row => row.blobSha256 = digest) ↔
          0 < artifactReferences store repoId digest := by
        rw [artifactReferences, count, List.countP_pos_iff]
        simp [select]
      simp only [map_some, elim_some, updated, referenced]
      split
      next held => simp only [BlobRow.release, each _ held, Int.sub_eq_add_neg]
      next => omega
  · rw [show (store.releaseBlobs repoId lost now).blobs.find? digest = _ from found digest]
      at afterFound
    obtain ⟨blob, blobFound, rfl⟩ := map_eq_some_iff.mp afterFound
    have stamped := exact.stamped digest blob blobFound
    unfold updated
    split
    · exact stamped.release (positive _) now
    · exact stamped

section

variable (excess : Excess amount store)
include excess

theorem Excess.putArtifactRow (row : ArtifactRow) :
    Excess
      (amount + due ((store.artifacts.find? row.key).map blobSha256) row.blobSha256)
      (store.putArtifactRow row) := by
  refine excess.rows rfl fun digest => ?_
  have counts := count_upsert store.artifacts row row.overwrite (fun _ => rfl)
    (fun row => row.blobSha256 = digest)
  simp only [Store.references, Store.putArtifactRow, due_apply]
  cases found : store.artifacts.find? row.key <;>
    simp only [found, map_none, map_some, elim_none, elim_some, overwrite] at counts ⊢ <;> omega

theorem Excess.putGroupCacheRow (row : GroupCacheRow) :
    Excess
      (amount + due ((store.groupMetadataCache.find? row.key).map GroupCacheRow.blobSha256)
        row.blobSha256)
      (store.putGroupCacheRow row) := by
  refine excess.rows rfl fun digest => ?_
  have counts := count_upsert store.groupMetadataCache row
    (fun old => { row with key := old.key }) (fun _ => rfl) (fun row => row.blobSha256 = digest)
  simp only [Store.references, Store.putGroupCacheRow, due_apply]
  cases found : store.groupMetadataCache.find? row.key <;>
    simp only [found, map_none, map_some, elim_none, elim_some] at counts ⊢ <;> omega

/-- Dropped artifacts leave their references behind as excess. -/
theorem Excess.dropArtifacts (condition : ArtifactRow → Bool) :
    Excess (amount + tally ((store.artifacts.select condition).map blobSha256))
      (store.dropArtifacts condition) := by
  refine excess.rows rfl fun digest => ?_
  have counts := store.artifacts.count_deleteWhere condition (fun row => row.blobSha256 = digest)
  simp only [Store.references, Store.dropArtifacts, ← countP_eq_tally]
  omega

theorem Excess.dropGroupCaches (condition : GroupCacheRow → Bool) :
    Excess
      (amount + tally ((store.groupMetadataCache.select condition).map GroupCacheRow.blobSha256))
      (store.dropGroupCaches condition) := by
  refine excess.rows rfl fun digest => ?_
  have counts := store.groupMetadataCache.count_deleteWhere condition
    (fun row => row.blobSha256 = digest)
  simp only [Store.references, Store.dropGroupCaches, ← countP_eq_tally]
  omega

end

open Relation List

/-- The text's time is not after the cutoff, as SQLite compares them. -/
def Passed (lib : Libraries) (text : String) (before : Time) : Prop :=
  ∃ day cutoff, lib.julianday text = some day ∧
    lib.julianday (formatTime lib before) = some cutoff ∧ day ≤ cutoff

instance (lib : Libraries) (text : String) (before : Time) : Decidable (Passed lib text before) :=
  decidable_of_iff
    (∃ day ∈ lib.julianday text, ∃ cutoff ∈ lib.julianday (formatTime lib before), day ≤ cutoff)
    ⟨fun ⟨day, dayEq, cutoff, cutoffEq, passed⟩ => ⟨day, cutoff, dayEq, cutoffEq, passed⟩,
      fun ⟨day, cutoff, dayEq, cutoffEq, passed⟩ => ⟨day, dayEq, cutoff, cutoffEq, passed⟩⟩

theorem isReclaimable_iff {lib : Libraries} {blob : BlobRow} {before : Time} :
    blob.isReclaimable lib before ↔
      blob.refCount ≤ 0 ∧ (∃ since, blob.unreferencedSince = some since ∧ Passed lib since before) ∧
        Passed lib blob.createdAt before := by
  have passes : ∀ text, (((lib.julianday text).bind fun day =>
      (lib.julianday (formatTime lib before)).map fun cutoff => decide (day ≤ cutoff)).getD false =
        true) ↔ Passed lib text before := by
    intro text
    cases dayEq : lib.julianday text with
    | none => simp [Passed, dayEq]
    | some =>
      cases cutoffEq : lib.julianday (formatTime lib before) with
      | none => simp [Passed, cutoffEq]
      | some => simp [Passed, dayEq, cutoffEq]
  simp only [BlobRow.isReclaimable, Bool.and_eq_true, decide_eq_true_eq, Option.any_eq_true, passes,
    and_assoc]

/-- The row became reclaimable since, if at all, by being left unreferenced at `now`. -/
structure Ages (lib : Libraries) (now : Time) (old new : BlobRow) : Prop where
  reclaimable : ∀ before, new.isReclaimable lib before = true →
    old.isReclaimable lib before = true ∨ Passed lib (formatTime lib now) before

variable {lib : Libraries} {now : Time} {effects : Effects} {store after : Store}

section Rows

variable {old middle new : BlobRow}

theorem Ages.refl (row : BlobRow) : Ages lib now row row :=
  ⟨fun _ reclaimable => .inl reclaimable⟩

theorem Ages.trans (first : Ages lib now old middle) (second : Ages lib now middle new) :
    Ages lib now old new :=
  ⟨fun before reclaimable => (second.reclaimable before reclaimable).elim
    (first.reclaimable before) .inr⟩

theorem ages_of_getD (stamped : old.Stamped) (sameCreation : new.createdAt = old.createdAt)
    (since : ∀ text, new.refCount ≤ 0 → new.unreferencedSince = some text →
      text = old.unreferencedSince.getD (formatTime lib now)) : Ages lib now old new := by
  constructor
  intro _ reclaimable
  obtain ⟨unreferenced, ⟨text, textEq, passed⟩, created⟩ := isReclaimable_iff.mp reclaimable
  have textIs := since text unreferenced textEq
  cases oldSince : old.unreferencedSince with
  | none =>
    rw [oldSince, getD_none] at textIs
    exact .inr (textIs ▸ passed)
  | some oldText =>
    rw [oldSince, getD_some] at textIs
    left
    apply isReclaimable_iff.mpr
    refine ⟨stamped.mp (by rw [oldSince]; rfl), ⟨oldText, oldSince, textIs ▸ passed⟩, ?_⟩
    exact sameCreation ▸ created

theorem ages_adjust (stamped : old.Stamped) (delta : Int) :
    Ages lib now old (old.adjust delta (formatTime lib now)) := by
  apply ages_of_getD stamped
  · rfl
  · intro _ unreferenced textEq
    simp only [BlobRow.adjust] at unreferenced textEq
    rw [if_pos unreferenced] at textEq
    exact (some.inj textEq).symm

theorem ages_release (stamped : old.Stamped) (lost : Int) :
    Ages lib now old (old.release lost (formatTime lib now)) := by
  apply ages_of_getD stamped
  · rfl
  · intro _ unreferenced textEq
    simp only [BlobRow.release] at unreferenced textEq
    rw [if_pos unreferenced] at textEq
    exact (some.inj textEq).symm

end Rows

/-- Every record has a time it became unreferenced exactly when nothing is counted for it. -/
def StampedRecords (store : Store) : Prop :=
  ∀ digest blob, store.blobs.find? digest = some blob → blob.Stamped

structure RecordsAge (lib : Libraries) (now : Time) (store after : Store) : Prop where
  stamped : StampedRecords after
  kept : ∀ digest old, store.blobs.find? digest = some old →
    ∃ new, after.blobs.find? digest = some new ∧ Ages lib now old new

theorem recordsAge_same (stamped : StampedRecords store) (same : after.blobs = store.blobs) :
    RecordsAge lib now store after := by
  constructor
  · intro digest blob found
    exact stamped digest blob (same ▸ found)
  · intro _ old found
    exact ⟨old, same ▸ found, .refl old⟩

theorem recordsAge_update (stamped : StampedRecords store) {condition : BlobRow → Bool}
    {change : BlobRow → BlobRow} {keeps : ∀ row, (change row).sha256 = row.sha256}
    (each : ∀ row, row.Stamped → (change row).Stamped ∧ Ages lib now row (change row)) :
    RecordsAge lib now store
      { store with blobs := store.blobs.updateWhere condition change keeps } := by
  have updated : ∀ row, row.Stamped → (updated condition change row).Stamped ∧
      Ages lib now row (updated condition change row) := by
    intro row rowStamped
    unfold updated
    split
    · exact each row rowStamped
    · exact ⟨rowStamped, .refl row⟩
  constructor
  · intro digest _ found
    rw [find?_updateWhere] at found
    obtain ⟨old, oldFound, rfl⟩ := map_eq_some_iff.mp found
    exact (updated old (stamped digest old oldFound)).1
  · intro digest old found
    refine ⟨_, ?_, (updated old (stamped digest old found)).2⟩
    rw [find?_updateWhere, found, map_some]

theorem recordsAge_record (stamped : StampedRecords store) (sha256 : String) (size : Int)
    {merge : BlobRow → BlobRow} (keeps : ∀ old, (merge old).sha256 = old.sha256)
    (sizeOnly : ∀ old, (merge old).refCount = old.refCount ∧
      (merge old).createdAt = old.createdAt ∧
      (merge old).unreferencedSince = old.unreferencedSince) :
    RecordsAge lib now store
      (store.recordBlob (unreferencedBlob lib now sha256 size) merge keeps) := by
  have recorded := find?_upsert store.blobs (unreferencedBlob lib now sha256 size) merge keeps
  constructor
  · intro digest blob found
    rw [Store.recordBlob, recorded] at found
    split at found
    · cases oldFound : store.blobs.find? digest with
      | none =>
        rw [oldFound] at found
        cases found
        exact stamped_unreferencedBlob lib now sha256 size
      | some old =>
        rw [oldFound] at found
        cases found
        have oldStamped := stamped digest old oldFound
        simpa only [BlobRow.Stamped, elim_some, sizeOnly] using oldStamped
    · exact stamped digest blob found
  · intro _ old found
    rw [Store.recordBlob, recorded, found]
    split
    · refine ⟨merge old, rfl, ⟨fun _ reclaimable => .inl ?_⟩⟩
      simpa only [BlobRow.isReclaimable, sizeOnly] using reclaimable
    · exact ⟨old, rfl, .refl old⟩

section Uploads

/-- The upload's plan waits for a confirmation. -/
def Store.InConflict (store : Store) (uploadId : String) : Prop :=
  ∃ request ∈ store.uploadRequests.rows, request.uploadId = uploadId ∧ request.state = .conflict

instance (store : Store) (uploadId : String) : Decidable (store.InConflict uploadId) :=
  inferInstanceAs (Decidable (∃ _ ∈ _, _))

/-- Every staged blob belongs to an upload. -/
def Store.Reserved (store : Store) : Prop :=
  ∀ staged ∈ store.stagedBlobs.rows,
    ∃ request ∈ store.uploadRequests.rows, request.uploadId = staged.uploadId

variable {table : KeyedTable UploadRequestRow.key}

theorem mem_putUpload {row request : UploadRequestRow}
    (member : request ∈ (table.upsert row (fun old => old) fun _ => rfl).rows) :
    request ∈ table.rows ∨ request = row := by
  rcases mem_upsert _ _ _ _ member with old | new | ⟨old, oldMember, -, rfl⟩
  · exact .inl old
  · exact .inr new
  · exact .inl oldMember

variable {row : StagedBlobRow} {uploadId : String}
  {condition : UploadRequestRow → Bool} {change : UploadRequestRow → UploadRequestRow}

theorem exists_upload_of_update (keeps : ∀ row, (change row).key = row.key)
    (sameUpload : ∀ row, (change row).uploadId = row.uploadId)
    (existing : ∃ request ∈ table.rows, request.uploadId = uploadId) :
    ∃ request ∈ (table.updateWhere condition change keeps).rows, request.uploadId = uploadId := by
  obtain ⟨request, found, same⟩ := existing
  refine ⟨_, mem_map_of_mem found, ?_⟩
  unfold updated
  split
  · exact (sameUpload request).trans same
  · exact same

/-- No two requests belong to one upload. -/
def Store.UniqueUploads (store : Store) : Prop :=
  ∀ left ∈ store.uploadRequests.rows, ∀ right ∈ store.uploadRequests.rows,
    left.uploadId = right.uploadId → left = right

theorem unique_update (keeps : ∀ row, (change row).key = row.key)
    (sameUpload : ∀ row, (change row).uploadId = row.uploadId)
    (unique : ∀ left ∈ table.rows, ∀ right ∈ table.rows, left.uploadId = right.uploadId →
      left = right) :
    ∀ left ∈ (table.updateWhere condition change keeps).rows,
      ∀ right ∈ (table.updateWhere condition change keeps).rows,
        left.uploadId = right.uploadId → left = right := by
  have upload : ∀ row, (updated condition change row).uploadId = row.uploadId := by
    intro row
    unfold updated
    split
    · exact sameUpload row
    · rfl
  intro _ leftMember _ rightMember same
  obtain ⟨oldLeft, oldLeftMember, rfl⟩ := mem_map.mp leftMember
  obtain ⟨oldRight, oldRightMember, rfl⟩ := mem_map.mp rightMember
  rw [upload, upload] at same
  rw [unique oldLeft oldLeftMember oldRight oldRightMember same]

/-- How a stored plan reads, when it reads as one. -/
abbrev PlanReader := String → Option ArtifactBatch

def Store.Stages (store : Store) (uploadId digest : String) : Prop :=
  ∃ staged ∈ store.stagedBlobs.rows, staged.key = (uploadId, digest)

/-- Every blob of a plan that waits for a confirmation is staged. -/
def Store.Planned (store : Store) (plan : PlanReader) : Prop :=
  ∀ request ∈ store.uploadRequests.rows, request.state = .conflict →
    ∀ batch ∈ plan request.planJson, ∀ artifact ∈ batch.artifacts,
      store.Stages request.uploadId artifact.blobSha256

variable {digest : String}

theorem Store.Stages.stageBlob (staged : store.Stages uploadId digest) (row : StagedBlobRow) :
    Store.Stages { store with
      stagedBlobs := store.stagedBlobs.upsert row (fun old => { old with size := row.size })
        fun _ => rfl } uploadId digest := by
  obtain ⟨old, member, keyEq⟩ := staged
  rcases mem_upsert_of_mem store.stagedBlobs row
    (fun old => { old with size := row.size }) (fun _ => rfl) member with kept | changed
  · exact ⟨old, kept, keyEq⟩
  · exact ⟨_, changed, keyEq⟩

theorem Store.Stages.deleteWhere (staged : store.Stages uploadId digest)
    {condition : StagedBlobRow → Bool}
    (kept : ∀ row, row.uploadId = uploadId → condition row = false) :
    ∃ row ∈ (store.stagedBlobs.deleteWhere condition).rows, row.key = (uploadId, digest) := by
  obtain ⟨row, member, keyEq⟩ := staged
  refine ⟨row, mem_filter.mpr ⟨member, ?_⟩, keyEq⟩
  rw [kept row (congrArg Prod.fst keyEq)]
  rfl

variable {plan : PlanReader}

section

variable (ran : Statement lib now effects store after)
include ran

theorem Statement.records (stamped : StampedRecords store) : RecordsAge lib now store after := by
  cases ran with
  | recordBlob sha256 size _ keeps sizeOnly =>
    exact recordsAge_record stamped sha256 size keeps sizeOnly
  | adjustBlob _ delta =>
    apply recordsAge_update stamped
    intro row rowStamped
    exact ⟨stamped_adjust row delta _, ages_adjust rowStamped delta⟩
  | releaseBlobs _ _ positive =>
    apply recordsAge_update stamped
    intro _ rowStamped
    exact ⟨rowStamped.release (positive _) _, ages_release rowStamped _⟩
  | elsewhere _ blobs =>
    simp only [Prod.mk.injEq] at blobs
    exact recordsAge_same stamped blobs.1
  | dropGroupCaches | putGroupCacheRow | putArtifactRow | dropArtifacts | disown | stageBlob
  | putUpload | updateUploads | settleUpload | dropUploads => exact recordsAge_same stamped rfl

theorem Statement.staged (member : row ∈ after.stagedBlobs.rows) :
    (∃ old ∈ store.stagedBlobs.rows, old.key = row.key) ∨ row.key ∈ effects.leases := by
  cases ran with
  | stageBlob _ given =>
    rcases mem_upsert _ _ _ _ member with old | rfl | ⟨old, -, same, rfl⟩
    · exact .inl ⟨row, old, rfl⟩
    · exact .inr given
    · exact .inr (same ▸ given)
  | settleUpload | dropUploads =>
    exact .inl ⟨row, mem_of_mem_deleteWhere member, rfl⟩
  | elsewhere _ blobs =>
    simp only [Prod.mk.injEq] at blobs
    exact .inl ⟨row, blobs.2.1 ▸ member, rfl⟩
  | recordBlob | adjustBlob | releaseBlobs | dropGroupCaches | putGroupCacheRow | putArtifactRow
  | dropArtifacts | disown | putUpload | updateUploads => exact .inl ⟨row, member, rfl⟩

theorem Statement.inConflict (conflict : after.InConflict uploadId) :
    store.InConflict uploadId ∨ uploadId ∈ effects.retained := by
  obtain ⟨request, member, rfl, stateEq⟩ := conflict
  cases ran with
  | putUpload _ _ given =>
    rcases mem_putUpload member with old | rfl
    · exact .inl ⟨request, old, rfl, stateEq⟩
    · exact .inr (given stateEq)
  | updateUploads _ _ _ sameUpload given =>
    obtain ⟨old, oldMember, rfl⟩ := mem_map.mp member
    unfold updated at stateEq ⊢
    split at stateEq
    next selected =>
      rw [if_pos selected, sameUpload]
      exact .inr (given old selected stateEq)
    next unselected =>
      rw [if_neg unselected]
      exact .inl ⟨old, oldMember, rfl, stateEq⟩
  | settleUpload _ _ _ _ _ settles =>
    obtain ⟨old, oldMember, rfl⟩ := mem_map.mp member
    unfold updated at stateEq ⊢
    split at stateEq
    next => exact absurd stateEq (settles old)
    next unselected =>
      rw [if_neg unselected]
      exact .inl ⟨old, oldMember, rfl, stateEq⟩
  | dropUploads =>
    exact .inl ⟨request, mem_of_mem_deleteWhere member, rfl, stateEq⟩
  | elsewhere _ blobs =>
    simp only [Prod.mk.injEq] at blobs
    exact .inl ⟨request, blobs.2.2 ▸ member, rfl, stateEq⟩
  | recordBlob | adjustBlob | releaseBlobs | dropGroupCaches | putGroupCacheRow | putArtifactRow
  | dropArtifacts | disown | stageBlob => exact .inl ⟨request, member, rfl, stateEq⟩

theorem Statement.reserved (reserved : store.Reserved) : after.Reserved := by
  intro staged member
  cases ran with
  | stageBlob _ _ existing =>
    rcases mem_upsert _ _ _ _ member with old | rfl | ⟨old, oldMember, -, rfl⟩
    · exact reserved staged old
    · exact existing
    · exact reserved old oldMember
  | putUpload row =>
    obtain ⟨request, found, same⟩ := reserved staged member
    have kept := mem_upsert_of_mem store.uploadRequests row (fun old => old)
      (fun _ => rfl) found
    exact ⟨request, or_self_iff.mp kept, same⟩
  | updateUploads _ _ keeps sameUpload =>
    exact exists_upload_of_update keeps sameUpload (reserved staged member)
  | settleUpload _ _ _ keeps sameUpload =>
    exact exists_upload_of_update keeps sameUpload
      (reserved staged (mem_of_mem_deleteWhere member))
  | dropUploads =>
    obtain ⟨kept, unselected⟩ := mem_filter.mp member
    obtain ⟨request, found, same⟩ := reserved staged kept
    refine ⟨request, mem_filter.mpr ⟨found, ?_⟩, same⟩
    -- A request that goes takes the blobs staged for it along.
    rw [Bool.not_eq_true', ← Bool.not_eq_true] at unselected ⊢
    intro selected
    apply unselected
    rw [contains_iff_mem, ← same]
    exact mem_map_of_mem (mem_filter.mpr ⟨found, selected⟩)
  | elsewhere _ blobs =>
    simp only [Prod.mk.injEq] at blobs
    rw [blobs.2.1] at member
    rw [blobs.2.2]
    exact reserved staged member
  | recordBlob | adjustBlob | releaseBlobs | dropGroupCaches | putGroupCacheRow | putArtifactRow
  | dropArtifacts | disown => exact reserved staged member

theorem Statement.unique (unique : store.UniqueUploads) : after.UniqueUploads := by
  cases ran with
  | putUpload _ fresh =>
    intro left leftMember right rightMember same
    rcases mem_putUpload leftMember with oldLeft | rfl
    · rcases mem_putUpload rightMember with oldRight | rfl
      · exact unique left oldLeft right oldRight same
      · exact absurd same (fresh left oldLeft)
    · rcases mem_putUpload rightMember with oldRight | rfl
      · exact absurd same.symm (fresh right oldRight)
      · rfl
  | updateUploads _ _ keeps sameUpload | settleUpload _ _ _ keeps sameUpload =>
    exact unique_update keeps sameUpload unique
  | dropUploads =>
    intro left leftMember right rightMember
    exact unique left (mem_of_mem_deleteWhere leftMember) right (mem_of_mem_deleteWhere rightMember)
  | elsewhere _ blobs =>
    simp only [Prod.mk.injEq] at blobs
    rw [Store.UniqueUploads, blobs.2.2]
    exact unique
  | recordBlob | adjustBlob | releaseBlobs | dropGroupCaches | putGroupCacheRow | putArtifactRow
  | dropArtifacts | disown | stageBlob => exact unique

theorem Statement.planned (retains : effects.retained = []) (unique : store.UniqueUploads)
    (planned : store.Planned plan) : after.Planned plan := by
  intro request member conflict batch read artifact listed
  cases ran with
  | stageBlob row =>
    exact (planned request member conflict batch read artifact listed).stageBlob row
  | putUpload _ _ given =>
    rcases mem_putUpload member with old | rfl
    · exact planned request old conflict batch read artifact listed
    · have given := given conflict
      rw [retains] at given
      cases given
  | updateUploads _ _ _ _ given =>
    obtain ⟨old, oldMember, rfl⟩ := mem_map.mp member
    unfold updated at conflict read ⊢
    split at conflict
    next selected =>
      have given := given old selected conflict
      rw [retains] at given
      cases given
    next unselected =>
      rw [if_neg unselected] at read ⊢
      exact planned old oldMember conflict batch read artifact listed
  | settleUpload _ _ _ _ _ settles present =>
    obtain ⟨old, oldMember, rfl⟩ := mem_map.mp member
    unfold updated at conflict read ⊢
    split at conflict
    next => exact absurd conflict (settles old)
    next unselected =>
      rw [if_neg unselected] at read ⊢
      apply (planned old oldMember conflict batch read artifact listed).deleteWhere
      intro row same
      rw [decide_eq_false_iff_not]
      intro settled
      -- The settled upload has one request, which is not in conflict any more.
      obtain ⟨settling, settlingMember, idEq, stateEq⟩ := present
      have oldEq := unique old oldMember settling settlingMember
        (same.symm.trans (settled.trans idEq.symm))
      apply unselected
      rw [oldEq, Bool.and_eq_true]
      exact ⟨decide_eq_true idEq, decide_eq_true stateEq⟩
  | dropUploads =>
    obtain ⟨kept, unselected⟩ := mem_filter.mp member
    apply (planned request kept conflict batch read artifact listed).deleteWhere
    intro _ same
    rw [← Bool.not_eq_true, contains_iff_mem]
    intro dropped
    obtain ⟨other, selected, idEq⟩ := mem_map.mp dropped
    obtain ⟨otherMember, holds⟩ := mem_filter.mp selected
    have otherEq := unique other otherMember request kept (idEq.trans same)
    rw [← otherEq, holds] at unselected
    cases unselected
  | elsewhere _ blobs =>
    simp only [Prod.mk.injEq] at blobs
    rw [blobs.2.2] at member
    unfold Store.Stages
    rw [blobs.2.1]
    exact planned request member conflict batch read artifact listed
  | recordBlob | adjustBlob | releaseBlobs | dropGroupCaches | putGroupCacheRow | putArtifactRow
  | dropArtifacts | disown => exact planned request member conflict batch read artifact listed

end

section

variable (ran : Executes lib now effects store after)
include ran

theorem Executes.records (stamped : StampedRecords store) : RecordsAge lib now store after := by
  induction ran with
  | refl => exact recordsAge_same stamped rfl
  | tail _ statement ih =>
    have next := statement.records ih.stamped
    constructor
    · exact next.stamped
    · intro digest old found
      obtain ⟨middle, middleFound, first⟩ := ih.kept digest old found
      obtain ⟨new, newFound, second⟩ := next.kept digest middle middleFound
      exact ⟨new, newFound, first.trans second⟩

theorem Executes.staged (member : row ∈ after.stagedBlobs.rows) :
    (∃ old ∈ store.stagedBlobs.rows, old.key = row.key) ∨ row.key ∈ effects.leases := by
  induction ran generalizing row with
  | refl => exact .inl ⟨row, member, rfl⟩
  | tail _ statement ih =>
    rcases statement.staged member with ⟨_, middleMember, same⟩ | given
    · rw [← same]
      exact ih middleMember
    · exact .inr given

theorem Executes.inConflict (conflict : after.InConflict uploadId) :
    store.InConflict uploadId ∨ uploadId ∈ effects.retained := by
  induction ran with
  | refl => exact .inl conflict
  | tail _ statement ih => exact (statement.inConflict conflict).elim ih .inr

theorem Executes.reserved (reserved : store.Reserved) : after.Reserved := by
  induction ran with
  | refl => exact reserved
  | tail _ statement ih => exact statement.reserved ih

theorem Executes.unique (unique : store.UniqueUploads) : after.UniqueUploads := by
  induction ran with
  | refl => exact unique
  | tail _ statement ih => exact statement.unique ih

theorem Executes.planned (retains : effects.retained = []) (unique : store.UniqueUploads)
    (planned : store.Planned plan) : after.Planned plan := by
  induction ran with
  | refl => exact planned
  | tail executed statement ih =>
    exact statement.planned retains (Executes.unique executed unique) ih

end

end Uploads

end Addons.MetaStore
