import Addons.UploadRegistry

/-!
# Changes of a member

An operation that changes a repository drops what its groups cached, but for the purge of its
artifacts and its renaming, which leave the caches alone.
-/

namespace Addons.MetaStore

section

open Transaction KeyedTable Store

/-! ## Cached group indexes -/

def ListsName (lib : Libraries) (repositories : KeyedTable Repository.id) (groupId : Int)
    (name : String) : Prop :=
  ∃ group ∈ repositories.rows, group.id = groupId ∧ group.type = .group ∧
    ∃ members, lib.groupMembers group.configJson = some members ∧ name ∈ members

def Unaffected (lib : Libraries) (repositories : KeyedTable Repository.id) (memberRepoId : Int)
    (path : String) (row : GroupCacheRow) : Prop :=
  ∀ member, repositories.find? memberRepoId = some member →
    ListsName lib repositories row.key.groupRepoId member.name → path ≠ "" ∧ row.key.path ≠ path

variable {lib : Libraries} {now : Time} {condition : GroupCacheRow → Prop}

variable {repositories : KeyedTable Repository.id}

theorem drops_invalidateGroupCachesForMember (memberRepoId : Int) (path : String) :
    Ensures (fun store => store.repositories = repositories ∧ EveryIndex condition store)
      (invalidateGroupCachesForMember lib now memberRepoId path)
      (fun _ => EveryIndex fun row =>
        condition row ∧ Unaffected lib repositories memberRepoId path row) := by
  apply ensures_bind ensures_get
  intro _
  apply ensures_bind (ensures_require _)
  intro groupIds
  apply ensures_of_each
  rintro _ ⟨resolved, rfl, rfl, every⟩
  have dropped : Ensures (EveryIndex condition)
      (groupIds.forM fun groupId => deleteGroupCaches lib now fun row =>
        row.key.groupRepoId = groupId && (path = "" || row.key.path = path))
      (fun _ after => EveryIndex condition after ∧ ∀ groupId ∈ groupIds,
        EveryIndex (fun row => (row.key.groupRepoId = groupId &&
          (path = "" || row.key.path = path)) = false) after) := by
    apply ensures_forM_each
    · intro groupId _
      apply (drops_deleteGroupCaches _).imp
      intro _ after kept
      exact ⟨kept.imp fun _ holds => holds.1, kept.imp fun _ holds => holds.2⟩
    · intro _ _ _
      exact preserves_deleteGroupCaches everyIndex_deleteGroupCacheWhere _
  apply (dropped.imp _).of_imp
  · rintro _ rfl
    exact every
  · rintro _ _ ⟨kept, gone⟩ row member
    refine ⟨kept row member, ?_⟩
    intro _ found lists
    obtain ⟨group, inTable, sameId, isGroup, _, membersEq, listed⟩ := lists
    have resolvedGroup : group.id ∈ groupIds := by
      simp only [groupsOfMember, found] at resolved
      split at resolved
      · cases resolved
      · cases resolved
        apply List.mem_map_of_mem
        apply List.mem_filter.mpr
        refine ⟨List.mem_filter.mpr ⟨inTable, by simp [isGroup]⟩, ?_⟩
        simpa [membersEq] using listed
    have listed := gone _ (sameId ▸ resolvedGroup) row member
    simpa using listed

/-- The operation keeps the repositories and drops what the groups of one cached. -/
abbrev Drops {α : Type} (lib : Libraries) (memberRepoId : Int) (path : String) (tx : Tx α) :
    Prop :=
  ∀ repositories, Ensures (Shows Store.repositories repositories) tx (fun _ store =>
    store.repositories = repositories ∧
      EveryIndex (Unaffected lib repositories memberRepoId path) store)

theorem repositories_steps :
    ArtifactSteps lib now (fun _ => True) (Shows Store.repositories repositories) :=
  IgnoresArtifacts.steps
    { blobs := fun _ _ => rfl, caches := fun _ _ => rfl, artifacts := fun _ _ => rfl,
      publications := fun _ _ => rfl, tombstones := fun _ _ => rfl, stagedBlobs := fun _ _ => rfl }

theorem drops_invalidate (memberRepoId : Int) (path : String) :
    Drops lib memberRepoId path (invalidateGroupCachesForMember lib now memberRepoId path) := by
  intro repositories
  have kept : Preserves (Shows Store.repositories repositories)
      (invalidateGroupCachesForMember lib now memberRepoId path) :=
    repositories_steps.invalidate _ _
  have dropped : Ensures
      (fun store => store.repositories = repositories ∧ EveryIndex (fun _ => True) store)
      (invalidateGroupCachesForMember lib now memberRepoId path) _ :=
    drops_invalidateGroupCachesForMember memberRepoId path
  apply ((kept.and dropped).imp _).of_imp
  · rintro state shows
    exact ⟨shows, shows, fun _ _ => trivial⟩
  · rintro _ _ ⟨shows, every⟩
    exact ⟨shows, every.imp fun _ holds => holds.2⟩

/-! ## Operations on artifacts -/

section Operations

variable {α β : Type} {memberRepoId : Int} {path : String} {first : Tx β} {rest : β → Tx α}

/-- A step that leaves the repositories and the caches. -/
def LeavesIndexes (tx : Tx α) : Prop :=
  ∀ repositories condition,
    Preserves (fun store => store.repositories = repositories ∧ EveryIndex condition store) tx

theorem leavesIndexes_modify {change : Store → Store}
    (repositories : ∀ store, (change store).repositories = store.repositories)
    (caches : ∀ store, (change store).groupMetadataCache = store.groupMetadataCache) :
    LeavesIndexes (modify change : Tx Unit) := by
  intro _ _
  apply ensures_modify
  rintro store ⟨rfl, every⟩
  refine ⟨repositories store, ?_⟩
  intro row member
  rw [caches store] at member
  exact every row member

theorem drops_putArtifactTx (artifact : Artifact) :
    Drops lib artifact.repoId artifact.path (putArtifactTx lib now artifact) :=
  fun _ => repositories_steps.putArtifactTx trivial (drops_invalidate _ _ _)

theorem drops_deleteArtifactTx (repoId : Int) (path : String) :
    Drops lib repoId path (deleteArtifactTx lib now repoId path) :=
  fun _ => repositories_steps.deleteArtifactTx (drops_invalidate _ _ _)

theorem drops_forceDeleteArtifactTx (repoId : Int) (path : String) :
    Drops lib repoId path (forceDeleteArtifactTx lib now repoId path) :=
  fun _ => repositories_steps.forceDeleteArtifactTx (drops_invalidate _ _ _)

theorem drops_applyArtifactBatchTx (key : UploadRequestKey) (batch : ArtifactBatch) :
    Drops lib key.repoId "" (applyArtifactBatchTx lib now key batch) := by
  intro repositories
  apply repositories_steps.toBatchSteps.applyArtifactBatchTx (fun _ _ => trivial)
    (drops_invalidate _ _ _)
  intro _ _ _
  apply ensures_checked
  refine leavesIndexes_modify ?_ ?_ _ _ <;> exact fun _ => rfl

theorem drops_applyPublicationLifecycleTx (batch : PublicationLifecycleBatch) :
    Drops lib batch.publication.repoId "" (applyPublicationLifecycleTx lib now batch) := by
  intro repositories
  apply repositories_steps.toBatchSteps.applyPublicationLifecycleTx (fun _ _ => trivial)
    (drops_invalidate _ _ _)
  unfold settlePublication
  split <;> refine leavesIndexes_modify ?_ ?_ _ _ <;> exact fun _ => rfl

end Operations

def Store.nameOf (store : Store) (id : Int) : Option String :=
  (store.repositories.find? id).map (·.name)

def NoIndex (lib : Libraries) (store : Store) (name path : String) : Prop :=
  EveryIndex (fun row =>
    ListsName lib store.repositories row.key.groupRepoId name → row.key.path ≠ path) store

variable {lib : Libraries} {now : Time}

/-! ## The groups of a member -/

section Groups

variable {repositories : KeyedTable Repository.id} {id groupId : Int} {name path changed : String}
  {store after : Store}

theorem find?_of_nameOf (named : store.nameOf id = some name) :
    ∃ member, store.repositories.find? id = some member ∧ member.name = name := by
  obtain ⟨member, found, nameEq⟩ := Option.map_eq_some_iff.mp named
  exact ⟨member, found, nameEq⟩

theorem noIndex_of_unaffected (every : EveryIndex (Unaffected lib store.repositories id path) after)
    (named : store.nameOf id = some name) (covers : path = "" ∨ path = changed)
    (listed : ∀ row ∈ after.groupMetadataCache.rows,
      ListsName lib after.repositories row.key.groupRepoId name →
        ListsName lib store.repositories row.key.groupRepoId name) :
    NoIndex lib after name changed := by
  obtain ⟨member, found, rfl⟩ := find?_of_nameOf named
  intro row inTable lists
  obtain ⟨nonempty, other⟩ := every row inTable member found (listed row inTable lists)
  rcases covers with empty | rfl
  · exact absurd empty nonempty
  · exact other

variable {change : Repository → Repository}
  {keeps : ∀ repository, (change repository).id = repository.id}

theorem listsName_of_updateWhere
    (lists : ListsName lib
      (repositories.updateWhere (fun repository => repository.id = id) change keeps) groupId name)
    (sameType : ∀ repository, (change repository).type = repository.type)
    (same : groupId ≠ id ∨ ∀ repository, (change repository).configJson = repository.configJson) :
    ListsName lib repositories groupId name := by
  obtain ⟨_, inTable, rfl, isGroup, members, membersEq, listed⟩ := lists
  obtain ⟨old, inOld, rfl⟩ := mem_updateWhere inTable
  have idEq : (updated (fun repository : Repository => repository.id = id) change
      old).id = old.id := key_updated keeps old
  rw [idEq] at same ⊢
  by_cases isChanged : old.id = id
  · have configs := same.resolve_left (fun other => other isChanged)
    simp only [updated, isChanged, decide_true, if_true] at isGroup membersEq
    refine ⟨old, inOld, rfl, (sameType old).symm.trans isGroup, members, ?_, listed⟩
    rwa [configs old] at membersEq
  · simp only [updated, isChanged, decide_false, Bool.false_eq_true, if_false] at isGroup membersEq
    exact ⟨old, inOld, rfl, isGroup, members, membersEq, listed⟩

theorem listsName_updateWhere (sameType : ∀ repository, (change repository).type = repository.type)
    (sameConfig : ∀ repository, (change repository).configJson = repository.configJson) :
    ListsName lib
        (repositories.updateWhere (fun repository => repository.id = id) change keeps)
        groupId name ↔
      ListsName lib repositories groupId name := by
  constructor
  · exact fun lists => listsName_of_updateWhere lists sameType (.inr sameConfig)
  · rintro ⟨group, inTable, rfl, isGroup, members, membersEq, listed⟩
    refine ⟨updated (fun repository : Repository => repository.id = id) change group,
      List.mem_map_of_mem inTable, key_updated keeps group, ?_, members, ?_, listed⟩
    · unfold updated
      split
      · rw [sameType, isGroup]
      · exact isGroup
    · unfold updated
      split
      · rw [sameConfig, membersEq]
      · exact membersEq

theorem nameOf_updateWhere
    (updated : after.repositories =
      store.repositories.updateWhere (fun repository => repository.id = id) change keeps)
    (sameName : ∀ repository, (change repository).name = repository.name) :
    after.nameOf groupId = store.nameOf groupId := by
  unfold nameOf
  rw [updated, find?_updateWhere, Option.map_map]
  congr 1
  funext repository
  simp only [Function.comp_apply, KeyedTable.updated]
  split
  · exact sameName repository
  · rfl

end Groups

/-! ## Operations on repositories -/

section Repositories

variable {repositories : KeyedTable Repository.id} {condition : GroupCacheRow → Prop}

theorem updates_updateRepository (id : Int) (change : Repository → Repository)
    (keeps : ∀ repository, (change repository).id = repository.id) :
    Ensures (fun store => store.repositories = repositories ∧ EveryIndex condition store)
      (updateRepository id change keeps)
      (fun _ store => store.repositories =
          repositories.updateWhere (fun repository => repository.id = id) change keeps ∧
        EveryIndex condition store) := by
  apply ensures_checked
  apply ensures_modify
  rintro _ ⟨rfl, every⟩
  exact ⟨rfl, every⟩

theorem drops_dropGroupIndexes (id : Int) :
    Ensures (Shows Store.repositories repositories) (dropGroupIndexes lib now id)
      (fun _ store => store.repositories = repositories ∧ EveryIndex (fun row =>
        row.key.groupRepoId ≠ id ∧ Unaffected lib repositories id "" row) store) := by
  have own := @clears_dropGroupIndexes lib now (fun _ => True) id
  have members : Ensures (Shows Store.repositories repositories) (dropGroupIndexes lib now id) _ :=
    ensures_bind (preserves_deleteGroupCaches repositories_steps.deleteGroupCacheWhere _)
      fun _ => drops_invalidate id "" repositories
  apply ((own.and members).imp _).of_imp
  · exact fun _ shows => ⟨fun _ _ => trivial, shows⟩
  · rintro _ _ ⟨others, same, every⟩
    exact ⟨same, fun row member => ⟨others row member, every row member⟩⟩

theorem drops_deleteRepositoryTx (id : Int) :
    Ensures (Shows Store.repositories repositories) (deleteRepositoryTx lib now id)
      (fun _ store => store.repositories =
          repositories.deleteWhere (fun repository => repository.id = id) ∧
        EveryIndex (Unaffected lib repositories id "") store) := by
  apply ensures_bind (drops_dropGroupIndexes id)
  intro _
  have releases : LeavesIndexes
      (modify fun store => store.releaseBlobs id (fun _ => 1) (formatTime lib now) : Tx Unit) :=
    leavesIndexes_modify (fun _ => rfl) fun _ => rfl
  apply ensures_bind (releases repositories _)
  intro _
  apply ensures_checked
  apply ensures_modify
  rintro _ ⟨rfl, every⟩
  refine ⟨rfl, ?_⟩
  intro row member
  exact (every row (mem_of_mem_deleteWhere member)).2

def Store.indexes (store : Store) : KeyedTable Repository.id × KeyedTable GroupCacheRow.key :=
  (store.repositories, store.groupMetadataCache)

theorem shows_purgeArtifactsTx_indexes (repoId : Int)
    (shown : KeyedTable Repository.id × KeyedTable GroupCacheRow.key) :
    Preserves (Shows indexes shown) (purgeArtifactsTx lib now repoId) := by
  apply preserves_guard
  intro _
  apply preserves_bind
  · exact shows_modify fun _ => rfl
  · intro _
    apply preserves_bind
    · exact shows_modify fun _ => rfl
    · intro _
      exact preserves_pure _

/-- So does a renaming. -/
theorem ensures_renameRepositoryTx (id : Int) (name : String) (start : Store) :
    Ensures (fun store => store = start) (renameRepositoryTx lib now id name)
      (fun _ store => start.repositories.find? id ≠ none ∧
        store.groupMetadataCache = start.groupMetadataCache ∧
        store.repositories = start.repositories.updateWhere (fun repository => repository.id = id)
          (fun repository => { repository with name := name, updatedAt := formatTime lib now })
          fun _ => rfl) := by
  apply ensures_guard
  intro _
  apply ensures_bind ensures_get
  intro read
  apply ensures_bind
  · show Ensures _ _ (fun _ store => read = start ∧
      store.groupMetadataCache = start.groupMetadataCache ∧
      store.repositories = start.repositories.updateWhere (fun repository => repository.id = id)
        (fun repository => { repository with name := name, updatedAt := formatTime lib now })
        fun _ => rfl)
    apply ensures_modify
    rintro store ⟨rfl, -, -, rfl⟩
    exact ⟨rfl, rfl, rfl⟩
  · intro _
    apply (ensures_refuseIf _).imp
    rintro _ _ ⟨present, rfl, caches, repositories⟩
    refine ⟨?_, caches, repositories⟩
    intro absent
    apply present
    apply List.countP_eq_zero.mpr
    intro repository member same
    exact find?_eq_none_iff.mp absent repository member (by simpa using same)

end Repositories

end

open Transaction TransitionSystem Store

/-- An operation that changes the artifacts, the configuration, the name or the state of a
repository. -/
inductive MemberChange where
  | putArtifact (artifact : Artifact)
  | deleteArtifact (repoId : Int) (path : String)
  | forceDeleteArtifact (repoId : Int) (path : String)
  | purgeArtifacts (repoId : Int)
  | applyArtifactBatch (key : UploadRequestKey) (batch : ArtifactBatch)
  | applyPublicationLifecycle (batch : PublicationLifecycleBatch)
  | updateRepositoryConfig (id : Int) (upstreamUrl configJson : String)
  | renameRepository (id : Int) (name : String)
  | setRepositoryDisabled (id : Int) (disabled : Bool)
  | deleteRepository (id : Int)

/-- The operation succeeds and leaves the store `after`. -/
def MemberChange.Commits (lib : Libraries) (now : Time) (change : MemberChange)
    (store after : Store) : Prop :=
  match change with
  | putArtifact artifact =>
    ∃ stored, MetaStore.putArtifact lib now artifact store = (.ok stored, after)
  | deleteArtifact repoId path =>
    MetaStore.deleteArtifact lib now repoId path store = (.ok (), after)
  | forceDeleteArtifact repoId path =>
    ∃ result, MetaStore.forceDeleteArtifact lib now repoId path store = (.ok result, after)
  | purgeArtifacts repoId =>
    ∃ count, MetaStore.purgeArtifacts lib now repoId store = (.ok count, after)
  | applyArtifactBatch key batch =>
    MetaStore.applyArtifactBatch lib now key batch store = (.ok (), after)
  | applyPublicationLifecycle batch =>
    MetaStore.applyPublicationLifecycle lib now batch store = (.ok (), after)
  | updateRepositoryConfig id upstreamUrl configJson =>
    MetaStore.updateRepositoryConfig lib now id upstreamUrl configJson store = (.ok (), after)
  | renameRepository id name => MetaStore.renameRepository lib now id name store = (.ok (), after)
  | setRepositoryDisabled id disabled =>
    MetaStore.setRepositoryDisabled lib now id disabled store = (.ok (), after)
  | deleteRepository id => MetaStore.deleteRepository lib now id store = (.ok (), after)

/-- The repository and the path that the operation changes. The artifacts of a publication and
everything about a repository count as all paths. -/
def MemberChange.Affects (change : MemberChange) (store : Store) (id : Int) (path : String) :
    Prop :=
  match change with
  | putArtifact artifact => id = artifact.repoId ∧ path = artifact.path
  | deleteArtifact repoId changed => id = repoId ∧ path = changed
  | forceDeleteArtifact repoId changed => id = repoId ∧ path = changed
  | purgeArtifacts repoId => id = repoId ∧ ∃ row ∈ store.artifacts.rows, row.repoId = repoId
  | applyArtifactBatch key batch =>
    id = key.repoId ∨ ∃ artifact ∈ batch.artifacts, id = artifact.repoId ∧ path = artifact.path
  | applyPublicationLifecycle batch =>
    id = batch.publication.repoId ∨
      ∃ cas ∈ batch.mutableCas, id = cas.artifact.repoId ∧ path = cas.artifact.path
  | updateRepositoryConfig repoId _ _ => id = repoId
  | renameRepository repoId name => id = repoId ∧ store.nameOf repoId ≠ some name
  | setRepositoryDisabled repoId _ => id = repoId
  | deleteRepository repoId => id = repoId

/-- No index that was merged from the changed repository is left, under the name it had or the
name it has. -/
def MemberChange.Drops (lib : Libraries) (change : MemberChange) (store after : Store) : Prop :=
  ∀ id path name, change.Affects store id path →
    store.nameOf id = some name ∨ after.nameOf id = some name → NoIndex lib after name path

/-- The repositories of a purge and of a renaming have no indexes to drop. -/
def MemberChange.Uncached (lib : Libraries) (change : MemberChange) (store : Store) : Prop :=
  match change with
  | purgeArtifacts repoId => (∃ row ∈ store.artifacts.rows, row.repoId = repoId) →
      ∀ name, store.nameOf repoId = some name → ∀ path, NoIndex lib store name path
  | renameRepository repoId name => store.nameOf repoId ≠ some name →
      ∀ listed, store.nameOf repoId = some listed ∨ listed = name →
        ∀ path, NoIndex lib store listed path
  | _ => True

/-- The indexes that a lifecycle batch rewrites are those of its publication's repository. -/
def MemberChange.OfOneRepository : MemberChange → Prop
  | applyPublicationLifecycle batch =>
    ∀ cas ∈ batch.mutableCas, cas.artifact.repoId = batch.publication.repoId
  | _ => True

variable {lib : Libraries} {now : Time}

/-! ## A batch keeps to its repository -/

theorem foldlM_ok {Seen Item : Type} {check : Seen → Item → Except Error Seen} {items : List Item}
    {seen final : Seen} (passed : items.foldlM check seen = .ok final) :
    ∀ item ∈ items, ∃ before after, check before item = .ok after := by
  induction items generalizing seen with
  | nil =>
    intro item member
    cases member
  | cons _ _ ih =>
    obtain ⟨next, checked, later⟩ := bind_eq_ok (List.foldlM_cons.symm.trans passed)
    intro item member
    rcases List.mem_cons.mp member with rfl | member
    · exact ⟨seen, next, checked⟩
    · exact ih later item member

theorem checkPath_ok {message path : String} {valid : Bool} {seen after : List String}
    (passed : checkPath message valid path seen = .ok after) : valid := by
  unfold checkPath at passed
  split at passed
  next holds =>
    simp only [Bool.and_eq_true] at holds
    exact holds.1.1
  · cases passed

theorem repoId_of_validateArtifactBatch {key : UploadRequestKey} {batch : ArtifactBatch}
    (valid : validateArtifactBatch lib key batch = .ok ()) :
    ∀ artifact ∈ batch.artifacts, artifact.repoId = key.repoId := by
  unfold validateArtifactBatch at valid
  dsimp only at valid
  split at valid
  · cases valid
  · obtain ⟨_, createdOk, rest⟩ := bind_eq_ok valid
    obtain ⟨_, replacedOk, rest⟩ := bind_eq_ok rest
    obtain ⟨_, -, rest⟩ := bind_eq_ok rest
    obtain ⟨_, swappedOk, -⟩ := bind_eq_ok rest
    intro artifact member
    simp only [ArtifactBatch.artifacts, List.mem_append, List.mem_map] at member
    rcases member with (inCreated | inReplaced) | ⟨cas, inSwapped, rfl⟩
    · obtain ⟨_, _, checked⟩ := foldlM_ok createdOk artifact inCreated
      have owned := checkPath_ok checked
      simp only [Bool.and_eq_true, decide_eq_true_eq] at owned
      exact owned.1
    · obtain ⟨_, _, checked⟩ := foldlM_ok replacedOk artifact inReplaced
      have owned := checkPath_ok checked
      simp only [Bool.and_eq_true, decide_eq_true_eq] at owned
      exact owned.1
    · obtain ⟨_, _, checked⟩ := foldlM_ok swappedOk cas inSwapped
      have shared := checkPath_ok checked
      simp only [Bool.and_eq_true, decide_eq_true_eq] at shared
      exact shared.1

/-! ## Commits -/

section Commits

variable {α : Type} {store after : Store} {id : Int} {path changed name : String}

theorem noIndex_of_drops {tx : Tx α} {value : α} (drops : Drops lib id path tx)
    (ran : tx store = .ok (value, after))
    (named : store.nameOf id = some name ∨ after.nameOf id = some name)
    (covers : path = "" ∨ path = changed) : NoIndex lib after name changed := by
  obtain ⟨same, every⟩ := (drops store.repositories).committed store value after rfl ran
  have named : store.nameOf id = some name := by
    rcases named with named | named
    · exact named
    · rwa [nameOf, same] at named
  apply noIndex_of_unaffected every named covers
  intro _ _ lists
  rwa [same] at lists

theorem getArtifact_store (lib : Libraries) (repoId : Int) (path : String) (store : Store) :
    (getArtifact lib repoId path store).2 = store :=
  (@keeps_getArtifact lib (fun current => current = store) repoId path).kept store rfl

theorem noIndex_of_putArtifact {artifact stored : Artifact}
    (ran : putArtifact lib now artifact store = (.ok stored, after))
    (named : store.nameOf artifact.repoId = some name ∨
      after.nameOf artifact.repoId = some name) : NoIndex lib after name artifact.path := by
  obtain ⟨_, reached, put, read⟩ := eq_ok_of_bind ran
  have same := getArtifact_store lib artifact.repoId artifact.path reached
  rw [read] at same
  subst same
  exact noIndex_of_drops (drops_putArtifactTx artifact) (eq_ok_of_atomically put) named (.inr rfl)

theorem noIndex_of_updateRepositoryConfig {upstreamUrl configJson : String}
    (ran : updateRepositoryConfig lib now id upstreamUrl configJson store = (.ok (), after))
    (named : store.nameOf id = some name ∨ after.nameOf id = some name) :
    NoIndex lib after name changed := by
  obtain ⟨updated, every⟩ := (ensures_bind (drops_dropGroupIndexes id) fun _ =>
    updates_updateRepository id _ _).committed store () after rfl (eq_ok_of_atomically ran)
  rw [nameOf_updateWhere updated fun _ => rfl, or_self] at named
  apply noIndex_of_unaffected (every.imp fun _ holds => holds.2) named (.inl rfl)
  intro row member lists
  rw [updated] at lists
  exact listsName_of_updateWhere lists (fun _ => rfl) (.inl (every row member).1)

theorem noIndex_of_setRepositoryDisabled {disabled : Bool}
    (ran : setRepositoryDisabled lib now id disabled store = (.ok (), after))
    (named : store.nameOf id = some name ∨ after.nameOf id = some name) :
    NoIndex lib after name changed := by
  obtain ⟨updated, every⟩ := (ensures_bind (drops_invalidate id "" _) fun _ =>
    updates_updateRepository id _ _).committed store () after rfl (eq_ok_of_atomically ran)
  rw [nameOf_updateWhere updated fun _ => rfl, or_self] at named
  apply noIndex_of_unaffected every named (.inl rfl)
  intro _ _ lists
  rw [updated] at lists
  exact listsName_of_updateWhere lists (fun _ => rfl) (.inr fun _ => rfl)

theorem noIndex_of_deleteRepository (ran : deleteRepository lib now id store = (.ok (), after))
    (named : store.nameOf id = some name ∨ after.nameOf id = some name) :
    NoIndex lib after name changed := by
  obtain ⟨deleted, every⟩ := (drops_deleteRepositoryTx id).committed store () after rfl
    (eq_ok_of_atomically ran)
  have gone : after.nameOf id = none := by
    rw [nameOf, deleted, KeyedTable.find?_deleteWhere]
    cases found : store.repositories.find? id with
    | none => rfl
    | some => simp [(KeyedTable.find?_eq_some_iff.mp found).2]
  have named := named.resolve_right (by simp [gone])
  apply noIndex_of_unaffected every named (.inl rfl)
  rintro _ _ ⟨group, inTable, facts⟩
  rw [deleted] at inTable
  exact ⟨group, KeyedTable.mem_of_mem_deleteWhere inTable, facts⟩

theorem purgeArtifacts_drops_iff {repoId : Int} {count : Nat}
    (ran : purgeArtifacts lib now repoId store = (.ok count, after)) :
    (MemberChange.purgeArtifacts repoId).Drops lib store after ↔
      (MemberChange.purgeArtifacts repoId).Uncached lib store := by
  obtain ⟨repositories, caches⟩ := Prod.mk.inj
    ((shows_purgeArtifactsTx_indexes repoId store.indexes).committed store count after rfl
      (eq_ok_of_atomically ran))
  have sameNames : after.nameOf repoId = store.nameOf repoId := by
    rw [nameOf, repositories]
    rfl
  have sameIndexes : ∀ name path, NoIndex lib after name path ↔ NoIndex lib store name path := by
    intro name path
    simp only [NoIndex, EveryIndex, repositories, caches]
  simp only [MemberChange.Drops, MemberChange.Affects, MemberChange.Uncached, sameIndexes]
  constructor
  · intro drops removed name named path
    exact drops repoId path name ⟨rfl, removed⟩ (.inl named)
  · rintro uncached id path name ⟨rfl, removed⟩ named
    rw [sameNames, or_self] at named
    exact uncached removed name named path

/-- A renaming drops the indexes exactly when there are none, under either name. -/
theorem renameRepository_drops_iff {repoId : Int} {new : String}
    (ran : renameRepository lib now repoId new store = (.ok (), after)) :
    (MemberChange.renameRepository repoId new).Drops lib store after ↔
      (MemberChange.renameRepository repoId new).Uncached lib store := by
  obtain ⟨present, caches, repositories⟩ := (ensures_renameRepositoryTx repoId new store).committed
    store () after rfl (eq_ok_of_atomically ran)
  have renamed : after.nameOf repoId = some new := by
    obtain ⟨_, found⟩ := Option.ne_none_iff_exists'.mp present
    have idEq := (KeyedTable.find?_eq_some_iff.mp found).2
    rw [nameOf, repositories, KeyedTable.find?_updateWhere, found]
    simp [KeyedTable.updated, idEq]
  have sameIndexes : ∀ name path, NoIndex lib after name path ↔ NoIndex lib store name path := by
    intro name path
    have lists : ∀ groupId, ListsName lib after.repositories groupId name ↔
        ListsName lib store.repositories groupId name := by
      intro _
      rw [repositories]
      apply listsName_updateWhere
      · exact fun _ => rfl
      · exact fun _ => rfl
    simp only [NoIndex, EveryIndex, caches, lists]
  simp only [MemberChange.Drops, MemberChange.Affects, MemberChange.Uncached, sameIndexes]
  constructor
  · intro drops differs listed named path
    apply drops repoId path listed ⟨rfl, differs⟩
    rcases named with named | rfl
    · exact .inl named
    · exact .inr renamed
  · rintro uncached id path name ⟨rfl, differs⟩ named
    apply uncached differs name _ path
    rcases named with named | named
    · exact .inl named
    · exact .inr (Option.some.inj (named.symm.trans renamed))

end Commits

/-- After an operation that changes a repository no group that lists it has an index left for
what was changed, exactly when the operation is neither a purge nor a renaming of a repository
with cached indexes. -/
theorem memberChange_drops_iff (lib : Libraries) (now : Time) (change : MemberChange)
    (store after : Store) (commits : change.Commits lib now store after)
    (own : change.OfOneRepository) : change.Drops lib store after ↔ change.Uncached lib store := by
  cases change with
  | purgeArtifacts =>
    obtain ⟨_, ran⟩ := commits
    exact purgeArtifacts_drops_iff ran
  | renameRepository => exact renameRepository_drops_iff commits
  | putArtifact =>
    obtain ⟨_, ran⟩ := commits
    apply iff_of_true _ trivial
    rintro id path name ⟨rfl, rfl⟩ named
    exact noIndex_of_putArtifact ran named
  | deleteArtifact =>
    apply iff_of_true _ trivial
    rintro id path name ⟨rfl, rfl⟩ named
    exact noIndex_of_drops (drops_deleteArtifactTx _ _) (eq_ok_of_atomically commits) named
      (.inr rfl)
  | forceDeleteArtifact =>
    obtain ⟨_, ran⟩ := commits
    apply iff_of_true _ trivial
    rintro id path name ⟨rfl, rfl⟩ named
    exact noIndex_of_drops (drops_forceDeleteArtifactTx _ _) (eq_ok_of_atomically ran) named
      (.inr rfl)
  | applyArtifactBatch key batch =>
    apply iff_of_true _ trivial
    intro id path name affected named
    rcases applyArtifactBatch_eq commits with ⟨_, failed, -⟩ | ⟨-, valid, ran⟩
    · cases failed
    · have idEq : id = key.repoId := by
        rcases affected with rfl | ⟨artifact, member, rfl, -⟩
        · rfl
        · apply repoId_of_validateArtifactBatch valid artifact
          rw [batch.filled_eq]
          exact member
      subst idEq
      exact noIndex_of_drops (drops_applyArtifactBatchTx key batch.filled) ran named (.inl rfl)
  | applyPublicationLifecycle batch =>
    apply iff_of_true _ trivial
    intro id path name affected named
    have idEq : id = batch.publication.repoId := by
      rcases affected with rfl | ⟨cas, member, rfl, -⟩
      · rfl
      · exact own cas member
    subst idEq
    simp only [MemberChange.Commits, applyPublicationLifecycle] at commits
    split at commits
    · cases commits
    · exact noIndex_of_drops (drops_applyPublicationLifecycleTx batch)
        (eq_ok_of_atomically commits) named (.inl rfl)
  | updateRepositoryConfig =>
    apply iff_of_true _ trivial
    rintro _ path name rfl named
    exact noIndex_of_updateRepositoryConfig commits named
  | setRepositoryDisabled =>
    apply iff_of_true _ trivial
    rintro _ path name rfl named
    exact noIndex_of_setRepositoryDisabled commits named
  | deleteRepository =>
    apply iff_of_true _ trivial
    rintro _ _ _ rfl named
    exact noIndex_of_deleteRepository commits named

/-! ## Operations that leave an index -/

/-- Libraries that find two members in the configuration of a group. -/
def groupLibraries : Libraries where
  dateTime _ := ""
  parseRfc3339 _ := none
  julianday _ := none
  validJson _ := true
  stringField _ _ := none
  groupMembers configJson := some (if configJson = "members" then ["files", "renamed"] else [])

/-- A file of the repository, and the group's index of it. -/
def indexedFiles : List Command :=
  [.createRepository { name := "files", format := "npm", type := .hosted },
    .createRepository { name := "all", format := "npm", type := .group, configJson := "members" },
    .putArtifact { repoId := 1, path := "pkg", blobSha256 := "file", size := 1 },
    .putGroupMetadataCache { key := ⟨2, "pkg", "npm"⟩, blobSha256 := "index", size := 1 }]

def indexedStore : Store := indexedFiles.foldl (runCommand groupLibraries 0) Store.empty

theorem indexedStore_reached :
    Reachable (· = empty) (Step groupLibraries) (fun _ _ => True) indexedStore := by
  have runs : ∀ commands store, Reachable (· = empty) (Step groupLibraries)
      (fun _ _ => True) store → Reachable (· = empty) (Step groupLibraries)
        (fun _ _ => True) (List.foldl (runCommand groupLibraries 0) store commands) := by
    intro commands
    induction commands with
    | nil => exact fun _ reached => reached
    | cons _ _ ih => exact fun _ reached => ih _ (reached.next trivial (.runs 0 _))
  exact runs indexedFiles empty (.start rfl)

theorem indexedStore_lists {after : Store}
    (present : ∃ row ∈ after.groupMetadataCache.rows, row.key = ⟨2, "pkg", "npm"⟩)
    (group : ∃ group ∈ after.repositories.rows,
      group.id = 2 ∧ group.type = .group ∧ group.configJson = "members") {name : String}
    (listed : name ∈ ["files", "renamed"]) : ¬ NoIndex groupLibraries after name "pkg" := by
  intro none
  obtain ⟨row, inTable, keyEq⟩ := present
  obtain ⟨group, inGroups, idEq, isGroup, config⟩ := group
  have lists : ListsName groupLibraries after.repositories row.key.groupRepoId name := by
    rw [keyEq]
    exact ⟨group, inGroups, idEq, isGroup, _, rfl, by simpa [config] using listed⟩
  exact none row inTable lists (by rw [keyEq])

/-- A purge and a renaming leave the index that a group merged from the repository. -/
theorem memberChange_leaves_index :
    ∃ store, Reachable (· = empty) (Step groupLibraries) (fun _ _ => True) store ∧
      (∃ after, (MemberChange.purgeArtifacts 1).Commits groupLibraries 0 store after ∧
        ¬ (MemberChange.purgeArtifacts 1).Drops groupLibraries store after) ∧
      ∃ after, (MemberChange.renameRepository 1 "renamed").Commits groupLibraries 0 store after ∧
        ¬ (MemberChange.renameRepository 1 "renamed").Drops groupLibraries store after := by
  refine ⟨indexedStore, indexedStore_reached, ?_, ?_⟩
  · refine ⟨(purgeArtifacts groupLibraries 0 1 indexedStore).2, ⟨1, rfl⟩, ?_⟩
    intro drops
    apply absurd (drops 1 "pkg" "files" ⟨rfl, by decide⟩ (.inl (by decide)))
    apply indexedStore_lists
    · decide
    · decide
    · decide
  · refine ⟨(renameRepository groupLibraries 0 1 "renamed" indexedStore).2, rfl, ?_⟩
    intro drops
    apply absurd (drops 1 "pkg" "renamed" ⟨rfl, by decide⟩ (.inr (by decide)))
    apply indexedStore_lists
    · decide
    · decide
    · decide

theorem memberChange_drops_iff_deleted :
    ∃ after, (MemberChange.deleteArtifact 1 "pkg").Commits groupLibraries 0 indexedStore after ∧
      (MemberChange.deleteArtifact 1 "pkg").Drops groupLibraries indexedStore after := by
  refine ⟨(deleteArtifact groupLibraries 0 1 "pkg" indexedStore).2, rfl, ?_⟩
  exact (memberChange_drops_iff groupLibraries 0 (.deleteArtifact 1 "pkg") indexedStore _ rfl
    trivial).mpr trivial

end Addons.MetaStore
