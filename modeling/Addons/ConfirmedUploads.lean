import Addons.ConflictLeases

/-!
# Uploads in conflict

Under the condition on the cutoffs the blobs staged for an upload in conflict keep their
records and bytes, and a confirmation commits the plan that the upload retained.
-/

namespace Addons.BlobSweeping

open MetaStore Transaction TransitionSystem Option List KeyedTable Sweeper

variable {lib : Libraries} {plan : PlanReader} {history : History} {after : State}
  {sha : String} {cutoff : Time} {store : Store} {result : Store} {answer : Except Error Bool}

theorem deleteBlobRecord_cases (ran : deleteBlobRecord lib sha cutoff store = (answer, result)) :
    result.stagedBlobs = store.stagedBlobs ∧ result.uploadRequests = store.uploadRequests ∧
      (∀ digest record, result.blobs.find? digest = some record →
        store.blobs.find? digest = some record) ∧
      ∀ digest record, store.blobs.find? digest = some record →
        (digest = sha → record.isReclaimable lib cutoff = false) →
        result.blobs.find? digest = some record := by
  cases answer with
  | error =>
    rw [eq_of_atomically_error ran]
    exact ⟨rfl, rfl, fun _ _ found => found, fun _ _ found _ => found⟩
  | ok =>
    obtain ⟨-, -, rfl⟩ := deleteBlobRecordTx_ok (eq_ok_of_atomically ran)
    refine ⟨rfl, rfl, ?_, ?_⟩
    · intro digest record found
      rw [find?_deleteWhere] at found
      exact (filter_eq_some_iff.mp found).1
    · intro digest _ found kept
      rw [find?_deleteWhere, filter_eq_some_iff]
      refine ⟨found, ?_⟩
      have keyEq := (find?_eq_some_iff.mp found).2
      by_cases same : digest = sha
      · simp [kept same]
      · simp [keyEq, same]

variable {record : BlobRow}

theorem reclaimable_of_deleted (ran : deleteBlobRecord lib sha cutoff store = (.ok true, result))
    (found : store.blobs.find? sha = some record) : record.isReclaimable lib cutoff := by
  have deleted := (deleteBlobRecordTx_ok (eq_ok_of_atomically ran)).1
  obtain ⟨_, member, selected⟩ := countP_pos_iff.mp (of_decide_eq_true deleted.symm)
  simp only [Bool.and_eq_true, decide_eq_true_eq] at selected
  have blobFound := find?_eq_some_iff.mpr ⟨member, selected.1⟩
  rw [found, some_inj] at blobFound
  rw [blobFound]
  exact selected.2

section

variable {rest : List String} (kept : Kept lib plan history)
  (shielded : Shielded lib history (.event .deleteRecord))
include kept shielded

section

variable (sweeperEq : history.current.sweeper = .locked cutoff sha rest)
include sweeperEq

/-- The record of a blob that an upload in conflict has leased is out of the sweep's reach. -/
theorem Kept.unreclaimable {staged : StagedBlobRow}
    (member : staged ∈ history.current.store.stagedBlobs.rows)
    (attended : Attended history.current staged.uploadId) (digestEq : staged.sha256 = sha)
    (found : history.current.store.blobs.find? sha = some record) :
    history.current.store.InConflict staged.uploadId ∧
      record.isReclaimable lib cutoff = false := by
  have held : sha ∈ history.current.sweeper.reclaiming := by
    rw [sweeperEq]
    rfl
  have conflict : history.current.store.InConflict staged.uploadId := by
    rcases attended with conflict | ⟨writer, writerMember, -, guarding⟩
    · exact conflict
    · rw [kept.writers.exclusive.excluded sha held writer writerMember] at guarding
      cases guarding
  obtain ⟨-, _, foundEq, lease, leased, uploadEq, leaseDigest, shields⟩ :=
    kept.shielded staged member attended
  rw [digestEq, found, some_inj] at foundEq
  have cutoffMem : cutoff ∈ history.current.sweeper.cutoff? := by
    rw [sweeperEq]
    rfl
  obtain ⟨before, unreclaimable⟩ := shielded cutoff cutoffMem sha held lease leased
    (leaseDigest.trans digestEq) (uploadEq ▸ conflict)
  exact ⟨conflict, foundEq ▸ shields.unreclaimable cutoff before unreclaimable⟩

theorem Kept.withoutRecord
    (ran : deleteBlobRecord lib sha cutoff history.current.store = (answer, store))
    {sweeper : Sweeper}
    (exclusive : Exclusive { history.current with store := store, sweeper := sweeper })
    (unleased : ∀ gone ∈ sweeper.unrecorded, ∀ staged ∈ history.current.store.stagedBlobs.rows,
      staged.sha256 = gone → ¬history.current.store.InConflict staged.uploadId) :
    Kept lib plan ⟨{ history.current with store := store, sweeper := sweeper }, history.clock,
      history.leases⟩ := by
  obtain ⟨sameStaged, sameUploads, found, survives⟩ := deleteBlobRecord_cases ran
  constructor
  · constructor
    · intro digest blob blobFound
      exact kept.store.stamped digest blob (found digest blob blobFound)
    · rw [Store.Reserved, sameStaged, sameUploads]
      exact kept.store.reserved
    · rw [Store.UniqueUploads, sameUploads]
      exact kept.store.unique
    · rw [Store.Planned, sameUploads]
      unfold Store.Stages
      rw [sameStaged]
      exact kept.store.planned
  · constructor
    · exact exclusive
    · exact kept.writers.distinct
    · exact kept.writers.pending
    · rw [sameStaged]
      exact kept.writers.unstaged
  · exact kept.clock
  · exact kept.taken
  · intro staged member attended
    rw [sameStaged] at member
    have before : Attended history.current staged.uploadId := by
      rw [Attended, Store.InConflict, sameUploads] at attended
      exact attended
    obtain ⟨stored, record, recordFound, shielding⟩ := kept.shielded staged member before
    refine ⟨stored, record, survives staged.sha256 record recordFound ?_, shielding⟩
    intro digestEq
    exact (kept.unreclaimable shielded sweeperEq member before digestEq (digestEq ▸ recordFound)).2
  · rw [sameStaged]
    unfold Store.InConflict
    rw [sameUploads]
    exact unleased

end

theorem Kept.deleteRecord (taken : history.current.deleteRecord lib = some after) :
    Kept lib plan ⟨after, history.clock, history.leases⟩ := by
  have exclusive : Exclusive after :=
    kept.writers.exclusive.step (show Step lib history.current .deleteRecord after from taken)
  obtain ⟨_, _, _, _, _, sweeperEq, ran, result⟩ :=
    State.deleteRecord_cases taken
  rcases result with ⟨rfl, rfl⟩ | ⟨-, rfl⟩
  · apply kept.withoutRecord shielded sweeperEq ran exclusive
    rintro _ ⟨⟩ staged member digestEq conflict
    obtain ⟨-, _, found, -⟩ := kept.shielded staged member (.inl conflict)
    rw [digestEq] at found
    have reclaimable := reclaimable_of_deleted ran found
    rw [(kept.unreclaimable shielded sweeperEq member (.inl conflict) digestEq found).2]
      at reclaimable
    cases reclaimable
  · apply kept.withoutRecord shielded sweeperEq ran exclusive
    intro _ gone
    rw [unrecorded_next] at gone
    cases gone

end

theorem Kept.deleteBytes (kept : Kept lib plan history) {removed : Bool}
    (taken : history.current.deleteBytes removed = some after) :
    Kept lib plan ⟨after, history.clock, history.leases⟩ := by
  have exclusive : Exclusive after := kept.writers.exclusive.step
    (show Step lib history.current (.deleteBytes removed) after from taken)
  obtain ⟨_, sha, _, sweeperEq, rfl⟩ := State.deleteBytes_cases taken
  have gone : sha ∈ history.current.sweeper.unrecorded := by
    rw [sweeperEq]
    rfl
  have free := kept.writers.exclusive.excluded sha (reclaiming_of_unrecorded gone)
  constructor
  · exact kept.store
  · constructor
    · exact exclusive
    · exact kept.writers.distinct
    · intro writer member guarding
      rw [free writer member] at guarding
      cases guarding
    · exact kept.writers.unstaged
  · exact kept.clock
  · exact kept.taken
  · intro staged member attended
    obtain ⟨stored, record, found, shielding⟩ := kept.shielded staged member attended
    refine ⟨State.mem_bytes_of_ne stored ?_, record, found, shielding⟩
    intro digestEq
    rcases attended with conflict | ⟨writer, writerMember, -, guarding⟩
    · exact kept.unleased sha gone staged member digestEq conflict
    · rw [free writer writerMember] at guarding
      cases guarding
  · intro _ next
    rw [unrecorded_next] at next
    cases next

section

variable (kept : Kept lib plan history)
include kept

theorem Kept.fewer {clock : Time} (le : history.clock ≤ clock)
    {writers : List Writer} (sublist : writers.Sublist history.current.writers) {sweeper : Sweeper}
    (exclusive : Exclusive { history.current with writers := writers, sweeper := sweeper })
    (unrecorded : ∀ sha ∈ sweeper.unrecorded, sha ∈ history.current.sweeper.unrecorded) :
    Kept lib plan ⟨{ history.current with writers := writers, sweeper := sweeper }, clock,
      history.leases⟩ := by
  refine kept.frame le rfl (kept.writers.sublist sublist exclusive) (fun _ stored => stored) ?_
    unrecorded
  intro _ _ attends
  refine attended_of_writers attends rfl ?_
  intro writer member kindEq guarding
  exact ⟨writer, sublist.subset member, kindEq, guarding⟩

theorem Kept.enter {kind : WriterKind}
    (fresh : kind.publishes → ∀ writer ∈ history.current.writers, writer.kind ≠ kind)
    (unstaged : ∀ staged ∈ history.current.store.stagedBlobs.rows,
      kind ≠ .publish staged.uploadId) :
    Kept lib plan ⟨history.current.enter kind, history.clock, history.leases⟩ := by
  refine kept.frame (Int.le_refl _) rfl (kept.writers.enter fresh unstaged)
    (fun _ stored => stored) ?_ fun _ gone => gone
  intro _ _ attends
  refine attended_of_writers attends rfl ?_
  intro writer member kindEq guarding
  rcases mem_append.mp member with old | new
  · exact ⟨writer, old, kindEq, guarding⟩
  · cases mem_singleton.mp new
    cases guarding

theorem Kept.receive (reads : ReadsTimes lib) {now : Time}
    {request : ArtifactUploadRequest} (timely : history.clock ≤ now ∧ now < endOfTime)
    (taken : history.current.receive lib now request = some after) :
    Kept lib plan ⟨after, now, history.leases⟩ := by
  obtain ⟨⟨receiving, fresh⟩, store, ran, rfl⟩ := State.receive_cases taken
  have created : store = runRequest lib now history.current.store
      (.command (.createUploadRequest request)) := (congrArg Prod.snd ran).symm
  have retained : (Request.command (.createUploadRequest request)).retained = [] := by
    simp [Request.retained, receiving]
  have reserved := kept.run reads rfl rfl retained timely
  rw [← created] at reserved
  apply reserved.enter
  · intro _
    exact fresh
  · intro staged member same
    have executed := @executes_runRequest lib now
      (.command (.createUploadRequest request)) rfl history.current.store
    rw [← created] at executed
    -- A blob staged before belongs to an upload that was reserved before.
    rcases executed.staged member with ⟨old, oldMember, sameKey⟩ | leased
    · obtain ⟨other, otherMember, idEq⟩ := kept.store.reserved old oldMember
      apply fresh_of_createUploadRequest ran other otherMember
      rw [idEq, (Prod.mk.inj sameKey).1, (WriterKind.publish.inj same)]
    · cases leased

theorem Kept.guard {index : Nat} (taken : act lib history.current (.guard index) = some after) :
    Kept lib plan ⟨after, history.clock, history.leases⟩ := by
  have exclusive : Exclusive after := kept.writers.exclusive.step
    (show Step lib history.current (.guard index) after from taken)
  obtain ⟨writer, found, result⟩ := bind_eq_some_iff.mp taken
  obtain ⟨⟨guarded, -⟩, rfl⟩ := of_guard result
  have member := mem_of_getElem? found
  have stored : ∀ digest ∈ writer.put, digest ∈ history.current.bytes := by
    intro digest put
    cases guarding : writer.guarding with
    | true => exact kept.writers.pending writer member guarding digest put
    | false =>
      have unready : writer.ready = false := by simp [Writer.ready, guarding, guarded]
      rw [kept.writers.exclusive.waiting writer member unready] at put
      cases put
  refine kept.frame (Int.le_refl _) rfl ?_ (fun _ stored => stored) ?_ fun _ gone => gone
  · apply kept.writers.update found { writer with guarding := true } rfl history.current.bytes
      (fun _ stored => stored) exclusive (fun _ => stored)
    intro unguarded
    cases unguarded
  · intro staged stagedMember attends
    refine attended_of_writers attends rfl ?_
    intro other changed kindEq guarding
    rcases mem_or_eq_of_mem_set changed with old | rfl
    · exact ⟨other, old, kindEq, guarding⟩
    · cases guards : writer.guarding with
      | true => exact ⟨writer, member, kindEq, guards⟩
      | false =>
        exact absurd kindEq (kept.writers.unstaged writer member guards staged stagedMember)

theorem Kept.put {index : Nat} {digest : String}
    (taken : act lib history.current (.put index digest) = some after) :
    Kept lib plan ⟨after, history.clock, history.leases⟩ := by
  have exclusive : Exclusive after := kept.writers.exclusive.step
    (show Step lib history.current (.put index digest) after from taken)
  obtain ⟨writer, found, result⟩ := bind_eq_some_iff.mp taken
  obtain ⟨-, rfl⟩ := of_guard result
  have member := mem_of_getElem? found
  have grows : ∀ name ∈ history.current.bytes, name ∈ digest :: history.current.bytes :=
    fun _ stored => mem_cons_of_mem _ stored
  refine kept.frame (Int.le_refl _) rfl ?_ grows ?_ fun _ gone => gone
  · apply kept.writers.update found { writer with put := digest :: writer.put } rfl _ grows
      exclusive
    · intro guarding name put
      rcases mem_cons.mp put with rfl | before
      · exact mem_cons_self
      · exact grows name (kept.writers.pending writer member guarding name before)
    · exact fun unguarded => unguarded
  · intro _ _ attends
    refine attended_of_writers attends rfl ?_
    intro other changed kindEq guarding
    rcases mem_or_eq_of_mem_set changed with old | rfl
    · exact ⟨other, old, kindEq, guarding⟩
    · exact ⟨writer, member, kindEq, guarding⟩

theorem Kept.event (reads : ReadsTimes lib) {event : Event}
    (timely : history.Timely (.event event)) (retains : Retains plan history.current event)
    (shielded : Shielded lib history (.event event))
    (taken : act lib history.current event = some after) :
    Kept lib plan (history.next (.event event) after (newLeases after event)) := by
  have exclusive : Exclusive after := kept.writers.exclusive.step
    (show Step lib history.current event after from taken)
  cases event with
  | start =>
    obtain ⟨other, afterEq⟩ := ite_none_left_eq_some.mp taken
    cases afterEq
    apply kept.enter
    · exact fun publishes => absurd publishes other
    · rintro _ _ rfl
      exact other rfl
  | receive now => exact kept.receive reads (timely now rfl) taken
  | guard => exact kept.guard taken
  | put => exact kept.put taken
  | commit _ now =>
    obtain ⟨_, found, result⟩ := bind_eq_some_iff.mp taken
    obtain ⟨⟨issued, ready, given⟩, afterEq⟩ := ite_none_right_eq_some.mp result
    exact kept.commit reads (timely now rfl) found issued ready given retains after
      (some.inj afterEq).symm
  | leave =>
    cases taken
    exact kept.fewer (Int.le_refl _) (eraseIdx_sublist _ _) exclusive fun _ gone => gone
  | request now =>
    obtain ⟨issued, rfl⟩ := of_guard taken
    have effects := effects_of_anyone issued
    exact kept.run reads (reclaims_of_issuer (by simp [issued]))
      (congrArg Effects.leases effects) (congrArg Effects.retained effects) (timely now rfl)
  | list now =>
    obtain ⟨-, rfl⟩ := of_guard taken
    apply kept.fewer (timely now rfl).1 (List.Sublist.refl _) exclusive
    intro _ gone
    rw [unrecorded_next] at gone
    cases gone
  | lock =>
    obtain ⟨cutoff, _, rest, -, -, rfl⟩ := State.lock_cases taken
    exact kept.fewer (Int.le_refl _) (List.Sublist.refl _) exclusive nofun
  | deleteRecord => exact kept.deleteRecord shielded taken
  | recordFails =>
    obtain ⟨_, _, rfl⟩ := State.skipDigest_cases taken
    apply kept.fewer (Int.le_refl _) (List.Sublist.refl _) exclusive
    intro _ gone
    rw [unrecorded_next] at gone
    cases gone
  | deleteBytes => exact kept.deleteBytes taken
  | restart =>
    cases taken
    exact kept.fewer (Int.le_refl _) (nil_sublist _) exclusive nofun

end

/-! ## Confirmations -/

variable {lib : Libraries} {plan : PlanReader} {history : History} {after : State}

section Confirmations

variable {next : History} {now : Time} {repoId : Int}
  {uploadId principalName principalSource : String} {replanned : Option (List ArtifactCAS × String)}

theorem confirm_cases (taken : history.act lib plan
      (.confirm now repoId uploadId principalName principalSource replanned) = some next) :
    ∃ row ∈ history.current.store.uploadRequests.rows, row.uploadId = uploadId ∧
      row.state = .conflict ∧ ∃ batch, plan row.planJson = some batch ∧ ∃ confirmation,
        next = history.next
          (.confirm now repoId uploadId principalName principalSource replanned)
          (history.current.commitConflict lib now replanned confirmation) [] := by
  obtain ⟨-, result⟩ := ite_none_right_eq_some.mp taken
  obtain ⟨confirmation, checked, nextEq⟩ := map_eq_some_iff.mp result
  cases outcome : UploadHandling.confirmRequest plan now repoId principalName principalSource
      (getUploadRequestById lib uploadId history.current.store).1 with
  | error => simp [outcome, Except.toOption] at checked
  | ok =>
    obtain ⟨_, batch, found, conflict, read, -⟩ := UploadHandling.confirmRequest_ok outcome
    obtain ⟨row, member, idEq, rfl⟩ := getUploadRequestById_ok (Prod.ext found rfl)
    exact ⟨row, member, idEq, some.inj conflict, batch, read, confirmation, nextEq.symm⟩

theorem Kept.act (kept : Kept lib plan history) (reads : ReadsTimes lib) {action : Action}
    (shielded : Shielded lib history action)
    (taken : history.act lib plan action = some next) : Kept lib plan next := by
  obtain ⟨timely, result⟩ := ite_none_right_eq_some.mp taken
  cases action with
  | event event =>
    obtain ⟨retains, stepped⟩ := ite_none_right_eq_some.mp result
    obtain ⟨after, acted, rfl⟩ := map_eq_some_iff.mp stepped
    exact kept.event reads timely retains shielded acted
  | confirm now =>
    obtain ⟨_, -, -, -, _, -, _, rfl⟩ := confirm_cases taken
    exact kept.run reads rfl rfl rfl (timely now rfl)

theorem Kept.confirmed (kept : Kept lib plan history)
    (taken : history.act lib plan
      (.confirm now repoId uploadId principalName principalSource replanned) = some next) :
    ∃ row ∈ history.current.store.uploadRequests.rows, row.uploadId = uploadId ∧
      ∃ batch, plan row.planJson = some batch ∧ ∀ artifact ∈ batch.artifacts,
        (next.current.store.blobs.find? artifact.blobSha256).isSome ∧
          artifact.blobSha256 ∈ next.current.bytes := by
  obtain ⟨row, member, idEq, conflict, batch, read, confirmation, rfl⟩ := confirm_cases taken
  refine ⟨row, member, idEq, batch, read, ?_⟩
  intro artifact listed
  obtain ⟨staged, stagedMember, keyEq⟩ :=
    kept.store.planned row member conflict batch read artifact listed
  obtain ⟨uploadEq, digestEq⟩ := Prod.mk.inj keyEq
  have inConflict : history.current.store.InConflict staged.uploadId :=
    ⟨row, member, uploadEq.symm, conflict⟩
  obtain ⟨stored, record, found, -⟩ := kept.shielded staged stagedMember (.inl inConflict)
  let last := replanned.elim confirmation fun planned => confirmation.replan planned.1 planned.2
  have ran := @executes_runRequest lib now (.command (.applyArtifactBatch last.key last.batch)) rfl
    history.current.store
  obtain ⟨_, newFound, -⟩ := (ran.records kept.store.stamped).kept _ record found
  rw [digestEq] at newFound stored
  exact ⟨isSome_of_eq_some newFound, stored⟩

end Confirmations

/-- An empty store, and nothing leased. -/
def InitialHistory (history : History) : Prop := history = { current := { store := Store.empty } }

theorem kept_initial (initially : InitialHistory history) : Kept lib plan history := by
  cases initially
  constructor
  · constructor
    · intro _ _ found
      cases found
    · intro _ member
      cases member
    · intro _ member
      cases member
    · intro _ member
      cases member
  · constructor
    · exact exclusive_initial rfl
    · exact nodup_nil
    · simp
    · simp
  · exact Int.le_refl 0
  · simp
  · intro _ member
    cases member
  · intro _ gone
    cases gone

def Follows (lib : Libraries) (plan : PlanReader) (history : History) (action : Action)
    (next : History) : Prop :=
  history.act lib plan action = some next

/-- The blobs staged for an upload in conflict have their records and bytes, and so have the
artifacts of the plan that a confirmation finds. -/
theorem leasedBlobs_kept (reads : ReadsTimes lib)
    (reached : Reachable InitialHistory (Follows lib plan) (Shielded lib) history) :
    (∀ staged ∈ history.current.store.stagedBlobs.rows,
      history.current.store.InConflict staged.uploadId →
        (history.current.store.blobs.find? staged.sha256).isSome = true ∧
          staged.sha256 ∈ history.current.bytes) ∧
      ∀ now repoId uploadId principalName principalSource replanned next, Follows lib plan history
          (.confirm now repoId uploadId principalName principalSource replanned) next →
        ∃ row ∈ history.current.store.uploadRequests.rows, row.uploadId = uploadId ∧
          ∃ batch, plan row.planJson = some batch ∧ ∀ artifact ∈ batch.artifacts,
            (next.current.store.blobs.find? artifact.blobSha256).isSome = true ∧
              artifact.blobSha256 ∈ next.current.bytes := by
  have kept : Kept lib plan history := by
    apply reached.invariant
    · intro _ initially
      exact kept_initial initially
    · intro _ _ _ before shielded taken
      exact before.act reads shielded taken
  constructor
  · intro staged member conflict
    obtain ⟨stored, _, found, -⟩ := kept.shielded staged member (.inl conflict)
    exact ⟨isSome_of_eq_some found, stored⟩
  · intro _ _ _ _ _ _ _ taken
    exact kept.confirmed taken

def mavenHosted : Repository := { name := "maven", format := "maven", type := .hosted }

def uploadKey (idempotencyKey : String) : UploadRequestKey := ⟨1, "token", "ci", idempotencyKey⟩

def published (uploadId : String) : ArtifactPublication where
  id := "p"
  repoId := 1
  format := "maven"
  packageName := "g:a"
  version := "1"
  coordinate := "g:a:1"
  uploadId := uploadId

def jar (digest : String) : Artifact :=
  { repoId := 1, path := "a.jar", blobSha256 := digest, size := 1, publicationId := "p" }

def publishing : ArtifactBatch :=
  { expectedUploadState := some .receiving, publication := published "u", create := [jar "old"] }

def replacing : ArtifactBatch :=
  { expectedUploadState := some .conflict, publication := published "v", replace := [jar "new"] }

def readReplacing (text : String) : Option ArtifactBatch :=
  if text = "replacing" then some replacing else none

def uploaded : List Event :=
  [.request 0 (.command (.createRepository mavenHosted)),
    .receive 0 { key := uploadKey "u", uploadId := "u", state := some .receiving },
    .guard 0, .put 0 "old", .commit 0 0 (.command (.applyArtifactBatch (uploadKey "u") publishing)),
    .leave 0]

/-- Some content is stored and deleted again. -/
def deleted (digest : String) : List Event :=
  [.start .storeArtifact, .guard 0, .put 0 digest,
    .commit 0 0 (.command (.putArtifact
      { repoId := 1, path := "b.jar", blobSha256 := digest, size := 1 })),
    .leave 0, .request 0 (.command (.deleteArtifact 1 "b.jar"))]

/-- An upload that replaces the publication waits for its confirmation. -/
def conflicting : List Event :=
  [.receive (2 * second) { key := uploadKey "v", uploadId := "v", state := some .receiving },
    .guard 0, .put 0 "new", .commit 0 (2 * second) (.command (.leaseUploadBlob "v" "new" 1)),
    .commit 0 (2 * second) (.setUploadState "v" .receiving .conflict "replacing" (4 * second)),
    .leave 0]

def confirming : Action := .confirm (3 * second) 1 "v" "ci" "token" none

/-- Content that was unreferenced for two seconds is reclaimed. -/
def reclaimed (digest : String) : List Event :=
  [.list (2 * second) 1000000000 [digest], .lock, .deleteRecord, .deleteBytes true]

/-- The waiting upload leased content that was deleted before; the sweeper reclaims it, and
the confirmation commits an artifact whose bytes are gone. -/
theorem leasedBlob_reclaimed :
    ∃ history, Reachable InitialHistory (Follows unaryClock readReplacing) (fun _ _ => True)
        history ∧
      (∃ staged ∈ history.current.store.stagedBlobs.rows,
        history.current.store.InConflict staged.uploadId ∧
          history.current.store.blobs.find? staged.sha256 = none ∧
            staged.sha256 ∉ history.current.bytes) ∧
      ∃ next ∈ history.act unaryClock readReplacing confirming,
        ∃ row ∈ next.current.store.artifacts.rows, row.blobSha256 ∉ next.current.bytes := by
  apply Reachable.exists_of_follow (History.act unaryClock readReplacing)
    ((uploaded ++ deleted "new" ++ conflicting ++ reclaimed "new").map .event)
    (show InitialHistory _ from rfl)
  · exact fun _ _ _ taken => taken
  · decide +kernel

theorem leadingZeros_append {count : Nat} {first : Char} {text : String} (other : first ≠ '0')
    (headEq : text.toList.head? = some first) :
    leadingZeros (String.ofList (List.replicate count '0') ++ text) = count := by
  have zeros : ∀ character ∈ List.replicate count '0', decide (character = '0') := by
    intro _ member
    exact decide_eq_true (eq_of_mem_replicate member)
  obtain ⟨_, textEq⟩ := head?_eq_some_iff.mp headEq
  unfold leadingZeros
  rw [String.toList_append, String.toList_ofList, textEq, takeWhile_append_of_pos zeros,
    takeWhile_cons_of_neg (by simpa using other), append_nil, length_replicate]

theorem leadingZeros_formatTime (time : Time) :
    leadingZeros (formatTime unaryClock time) = (time / second).toNat := by
  unfold formatTime
  dsimp only
  split
  · exact leadingZeros_append (by decide : 'Z' ≠ '0') (by rfl)
  · rw [String.append_assoc, String.append_assoc]
    exact leadingZeros_append (by decide : '.' ≠ '0') (by simp)

theorem readsTimes_unaryClock : ReadsTimes unaryClock := by
  constructor
  intro earlier later _ ordered _
  refine ⟨_, _, rfl, rfl, ?_⟩
  rw [leadingZeros_formatTime, leadingZeros_formatTime]
  have seconds : earlier / second ≤ later / second := Int.ediv_le_ediv (by decide) ordered
  exact Int.ofNat_le.mpr (Int.toNat_le_toNat seconds)

/-- The waiting upload leased new content, and the sweeper reclaims other content. -/
theorem leasedBlobs_kept_swept :
    ∃ history : History,
      (∃ staged ∈ history.current.store.stagedBlobs.rows,
        history.current.store.InConflict staged.uploadId) ∧
      (∃ next ∈ history.act unaryClock readReplacing confirming,
        ∀ artifact ∈ replacing.artifacts, artifact.blobSha256 ∈ next.current.bytes) := by
  have run : ∃ history, Reachable InitialHistory (Follows unaryClock readReplacing)
      (Shielded unaryClock) history ∧
      (∃ staged ∈ history.current.store.stagedBlobs.rows,
        history.current.store.InConflict staged.uploadId) ∧
      (history.act unaryClock readReplacing confirming).isSome = true ∧
      ∀ row ∈ history.current.store.uploadRequests.rows, row.uploadId = "v" →
        readReplacing row.planJson = some replacing := by
    apply Reachable.exists_of_follow (History.act unaryClock readReplacing)
      ((uploaded ++ deleted "other" ++ conflicting ++ reclaimed "other").map .event)
      (show InitialHistory _ from rfl)
    · exact fun _ _ _ taken => taken
    · decide +kernel
  obtain ⟨history, reached, waits, confirmed, reads⟩ := run
  obtain ⟨next, taken⟩ := isSome_iff_exists.mp confirmed
  obtain ⟨row, member, idEq, _, read, stored⟩ :=
    (leasedBlobs_kept readsTimes_unaryClock reached).2 _ _ _ _ _ _ _ taken
  cases (reads row member idEq).symm.trans read
  refine ⟨history, waits, next, taken, ?_⟩
  intro artifact listed
  exact (stored artifact listed).2

end Addons.BlobSweeping
