import Addons.DanglingReferences
import Addons.UploadAttendance

/-!
# Uploads in conflict keep their blobs

Each step of a writer, of the sweeper and of a confirmation keeps the records and the bytes
of the blobs that uploads in conflict have leased.
-/

namespace Addons.BlobSweeping

open MetaStore Transaction TransitionSystem List
open UploadHandling (confirmRequest Confirmation)

structure Lease where
  uploadId : String
  sha256 : String
  record : BlobRow
  takenAt : Time
  deriving DecidableEq

/-- A state with its clock and the leases taken so far. -/
structure History where
  current : State
  clock : Time := 0
  leases : List Lease := []

inductive Action where
  | event (event : Event)
  /-- `replanned` are the mutable files and the result of the last plan, if it was made anew. -/
  | confirm (now : Time) (repoId : Int) (uploadId principalName principalSource : String)
      (replanned : Option (List ArtifactCAS × String))

/-- What the clock reads when the action is taken, for those that read it. -/
def Action.time? : Action → Option Time
  | .event (.receive now _) => some now
  | .event (.commit _ now _) => some now
  | .event (.request now _) => some now
  | .event (.list now _ _) => some now
  | .event _ => none
  | .confirm now _ _ _ _ _ => some now

/-- The year 10000, up to which SQLite reads the times that chrono writes. -/
def endOfTime : Time := 253402300800 * second

/-- SQLite reads the store's own times in their order. -/
structure ReadsTimes (lib : Libraries) : Prop where
  monotone : ∀ earlier later, 0 ≤ earlier → earlier ≤ later → later < endOfTime →
    ∃ day laterDay, lib.julianday (formatTime lib earlier) = some day ∧
      lib.julianday (formatTime lib later) = some laterDay ∧ day ≤ laterDay

def newLeases (after : State) : Event → List Lease
  | .commit _ now (.command (.leaseUploadBlob uploadId sha256 _)) =>
    (after.store.blobs.find? sha256).toList.map fun record => ⟨uploadId, sha256, record, now⟩
  | _ => []

def Retains (plan : PlanReader) (state : State) : Event → Prop
  | .commit _ _ (.setUploadState uploadId _ .conflict planJson _) =>
    ∀ batch ∈ plan planJson, ∀ artifact ∈ batch.artifacts,
      state.store.Stages uploadId artifact.blobSha256
  | _ => True

instance (plan : PlanReader) (state : State) :
    (event : Event) → Decidable (Retains plan state event)
  | .commit _ _ (.setUploadState _ _ .conflict _ _) =>
    inferInstanceAs (Decidable (∀ _ ∈ _, ∀ _ ∈ _, ∃ _ ∈ _, _))
  | .commit _ _ (.setUploadState _ _ .receiving _ _) => isTrue trivial
  | .commit _ _ (.setUploadState _ _ .committed _ _) => isTrue trivial
  | .commit _ _ (.setUploadState _ _ .failed _ _) => isTrue trivial
  | .commit _ _ (.command _) => isTrue trivial
  | .commit _ _ (.cancelUploadConflict _) => isTrue trivial
  | .start _ | .receive _ _ | .guard _ | .put _ _ | .leave _ | .request _ _ | .list _ _ _
  | .lock | .deleteRecord | .recordFails | .deleteBytes _ | .restart => isTrue trivial

/-- The retained plan of an upload in conflict is committed. -/
def State.commitConflict (lib : Libraries) (state : State) (now : Time)
    (replanned : Option (List ArtifactCAS × String)) (confirmation : Confirmation) : State :=
  let last := replanned.elim confirmation fun (mutableCas, resultJson) =>
    confirmation.replan mutableCas resultJson
  { state with
    store := runRequest lib now state.store (.command (.applyArtifactBatch last.key last.batch)) }

namespace History

/-- The clock does not run backwards. -/
def Timely (history : History) (action : Action) : Prop :=
  ∀ now ∈ action.time?, history.clock ≤ now ∧ now < endOfTime

instance (history : History) (action : Action) : Decidable (history.Timely action) :=
  inferInstanceAs (Decidable (∀ _ ∈ _, _ ∧ _))

def next (history : History) (action : Action) (current : State) (taken : List Lease) :
    History where
  current := current
  clock := action.time?.getD history.clock
  leases := taken ++ history.leases

def act (lib : Libraries) (plan : PlanReader) (history : History) (action : Action) :
    Option History :=
  if history.Timely action then
    match action with
    | .event event =>
      if Retains plan history.current event then
        (BlobSweeping.act lib history.current event).map fun after =>
          history.next action after (newLeases after event)
      else none
    | .confirm now repoId uploadId principalName principalSource replanned =>
      let found := (getUploadRequestById lib uploadId history.current.store).1
      (confirmRequest plan now repoId principalName principalSource found).toOption.map
        fun confirmation =>
          history.next action (history.current.commitConflict lib now replanned confirmation) []
  else none

end History

/-- When the record of a leased digest of an upload in conflict comes to be removed, the
cutoff is before the lease, and one at which the record was not reclaimable when the lease
was taken. -/
def Shielded (lib : Libraries) (history : History) : Action → Prop
  | .event .deleteRecord => ∀ cutoff ∈ history.current.sweeper.cutoff?,
      ∀ sha ∈ history.current.sweeper.reclaiming, ∀ lease ∈ history.leases, lease.sha256 = sha →
        history.current.store.InConflict lease.uploadId →
        ¬Passed lib (formatTime lib lease.takenAt) cutoff ∧
          lease.record.isReclaimable lib cutoff = false
  | _ => True

instance (lib : Libraries) (history : History) :
    (action : Action) → Decidable (Shielded lib history action)
  | .event .deleteRecord => inferInstanceAs (Decidable (∀ _ ∈ _, ∀ _ ∈ _, ∀ _ ∈ _, _))
  | .event (.start _) | .event (.receive _ _) | .event (.guard _) | .event (.put _ _)
  | .event (.commit _ _ _) | .event (.leave _) | .event (.request _ _) | .event (.list _ _ _)
  | .event .lock | .event .recordFails | .event (.deleteBytes _) | .event .restart
  | .confirm _ _ _ _ _ _ => isTrue trivial

section Invariant

variable (lib : Libraries) (plan : PlanReader)

/-- What the store owes to staged blobs. -/
structure StoreSound (store : Store) : Prop where
  stamped : StampedRecords store
  reserved : store.Reserved
  unique : store.UniqueUploads
  planned : store.Planned plan

/-- The upload waits for a confirmation, or is being published under the guard. -/
def Attended (state : State) (uploadId : String) : Prop :=
  state.store.InConflict uploadId ∨
    ∃ writer ∈ state.writers, writer.kind = .publish uploadId ∧ writer.guarding = true

/-- A cutoff before the lease that did not reach the record then does not reach it now. -/
structure Shields (lease : Lease) (record : BlobRow) : Prop where
  unreclaimable : ∀ cutoff, ¬Passed lib (formatTime lib lease.takenAt) cutoff →
    lease.record.isReclaimable lib cutoff = false → record.isReclaimable lib cutoff = false

/-- The blob has its bytes, and its record is shielded by a lease. -/
def Protected (history : History) (uploadId digest : String) : Prop :=
  digest ∈ history.current.bytes ∧ ∃ record,
    history.current.store.blobs.find? digest = some record ∧ ∃ lease ∈ history.leases, lease.uploadId = uploadId ∧ lease.sha256 = digest ∧
      Shields lib lease record

/-- Publishing tasks have uploads of their own, and stage blobs only under the guard. -/
structure WritersSound (state : State) : Prop where
  exclusive : Exclusive state
  distinct : ((state.writers.map Writer.kind).filter WriterKind.publishes).Nodup
  pending : ∀ writer ∈ state.writers, writer.guarding = true →
    ∀ digest ∈ writer.put, digest ∈ state.bytes
  unstaged : ∀ writer ∈ state.writers, writer.guarding = false →
    ∀ staged ∈ state.store.stagedBlobs.rows, writer.kind ≠ .publish staged.uploadId

structure Kept (history : History) : Prop where
  store : StoreSound plan history.current.store
  writers : WritersSound history.current
  clock : 0 ≤ history.clock
  taken : ∀ lease ∈ history.leases, 0 ≤ lease.takenAt ∧ lease.takenAt ≤ history.clock
  shielded : ∀ staged ∈ history.current.store.stagedBlobs.rows,
    Attended history.current staged.uploadId → Protected lib history staged.uploadId staged.sha256
  unleased : ∀ sha ∈ history.current.sweeper.unrecorded,
    ∀ staged ∈ history.current.store.stagedBlobs.rows, staged.sha256 = sha →
      ¬history.current.store.InConflict staged.uploadId

end Invariant

variable {lib : Libraries} {plan : PlanReader}

section Ageing

variable {lease : Lease} {old new : BlobRow} {now : Time}

theorem passed_of_le (reads : ReadsTimes lib) {earlier later cutoff : Time} (first : 0 ≤ earlier)
    (le : earlier ≤ later) (bounded : later < endOfTime)
    (passed : Passed lib (formatTime lib later) cutoff) :
    Passed lib (formatTime lib earlier) cutoff := by
  obtain ⟨_, cutoffDay, dayEq, cutoffEq, _⟩ := passed
  obtain ⟨earlierDay, _, earlierEq, laterEq, _⟩ :=
    reads.monotone earlier later first le bounded
  rw [dayEq, Option.some_inj] at laterEq
  exact ⟨earlierDay, cutoffDay, earlierEq, cutoffEq, by omega⟩

theorem Shields.ages (shields : Shields lib lease old) (reads : ReadsTimes lib)
    (ages : Ages lib now old new) (first : 0 ≤ lease.takenAt) (le : lease.takenAt ≤ now)
    (bounded : now < endOfTime) : Shields lib lease new := by
  constructor
  intro cutoff before unreclaimable
  rw [← Bool.not_eq_true]
  intro reclaimable
  rcases ages.reclaimable cutoff reclaimable with oldReclaimable | passed
  · rw [shields.unreclaimable cutoff before unreclaimable] at oldReclaimable
    cases oldReclaimable
  · exact before (passed_of_le reads first le bounded passed)

end Ageing

section Requests

variable {history : History} {effects : Effects} {store : Store} {now : Time}

theorem StoreSound.executes (sound : StoreSound plan history.current.store)
    (ran : Executes lib now effects history.current.store store) (planned : store.Planned plan) :
    StoreSound plan store where
  stamped := (ran.records sound.stamped).stamped
  reserved := ran.reserved sound.reserved
  unique := ran.unique sound.unique
  planned := planned

/-- The blob was staged before, or its publishing task put its bytes under the guard and
leased it now. -/
def StagedBy (history : History) (store : Store) (now : Time) (leases : List Lease)
    (row : StagedBlobRow) : Prop :=
  (∃ old ∈ history.current.store.stagedBlobs.rows, old.key = row.key) ∨
    ∃ writer ∈ history.current.writers, writer.kind = .publish row.uploadId ∧
      writer.guarding = true ∧ row.sha256 ∈ writer.put ∧
      ∃ record, store.blobs.find? row.sha256 = some record ∧
        ⟨row.uploadId, row.sha256, record, now⟩ ∈ leases

variable {uploadId : String}

theorem WritersSound.eq_of_publish {state : State} (sound : WritersSound state)
    {left right : Writer} (leftMember : left ∈ state.writers)
    (rightMember : right ∈ state.writers) (leftKind : left.kind = .publish uploadId)
    (rightKind : right.kind = .publish uploadId) : left = right := by
  have distinct := sound.distinct
  rw [filter_map] at distinct
  apply inj_on_of_nodup_map distinct
  · exact mem_filter.mpr ⟨leftMember, by simp [leftKind, WriterKind.publishes]⟩
  · exact mem_filter.mpr ⟨rightMember, by simp [rightKind, WriterKind.publishes]⟩
  · exact leftKind.trans rightKind.symm

variable {leases : List Lease}

theorem WritersSound.executes (sound : WritersSound history.current)
    (staged : ∀ row ∈ store.stagedBlobs.rows, StagedBy history store now leases row) :
    WritersSound { history.current with store := store } := by
  constructor
  · exact ⟨sound.exclusive.waiting, sound.exclusive.excluded⟩
  · exact sound.distinct
  · exact sound.pending
  · intro writer member unguarded row rowMember kindEq
    rcases staged row rowMember with ⟨old, oldMember, sameKey⟩ | ⟨_, otherMember, otherKind,
      guarding, -⟩
    · apply sound.unstaged writer member unguarded old oldMember
      rw [kindEq, (Prod.mk.inj sameKey).1]
    · rw [← sound.eq_of_publish member otherMember kindEq otherKind, unguarded] at guarding
      cases guarding

theorem Protected.executes {digest : String} (kept : Kept lib plan history)
    (before : Protected lib history uploadId digest)
    (reads : ReadsTimes lib) (ran : Executes lib now effects history.current.store store)
    (timely : history.clock ≤ now ∧ now < endOfTime) :
    Protected lib ⟨{ history.current with store := store }, now, leases ++ history.leases⟩
      uploadId digest := by
  obtain ⟨stored, record, found, lease, member, uploadEq, digestEq, shields⟩ := before
  obtain ⟨new, newFound, ages⟩ := (ran.records kept.store.stamped).kept digest record found
  have taken := kept.taken lease member
  have shielded := shields.ages reads ages taken.1 (Int.le_trans taken.2 timely.1) timely.2
  exact ⟨stored, new, newFound, lease, mem_append_right _ member, uploadEq, digestEq, shielded⟩

/-- A request runs that leaves uploads in conflict, and stages blobs, only for tasks that
hold the guard. -/
theorem Kept.executes (kept : Kept lib plan history) (reads : ReadsTimes lib)
    (ran : Executes lib now effects history.current.store store)
    (timely : history.clock ≤ now ∧ now < endOfTime) (planned : store.Planned plan)
    (dated : ∀ lease ∈ leases, lease.takenAt = now)
    (retains : ∀ uploadId ∈ effects.retained, ∃ writer ∈ history.current.writers,
      writer.kind = .publish uploadId ∧ writer.guarding)
    (staged : ∀ row ∈ store.stagedBlobs.rows, StagedBy history store now leases row) :
    Kept lib plan
      ⟨{ history.current with store := store }, now, leases ++ history.leases⟩ := by
  have attended : ∀ uploadId, store.InConflict uploadId → Attended history.current uploadId := by
    intro uploadId conflict
    exact (ran.inConflict conflict).imp_right (retains uploadId)
  constructor
  · exact kept.store.executes ran planned
  · exact kept.writers.executes staged
  · exact Int.le_trans kept.clock timely.1
  · intro lease member
    rcases mem_append.mp member with new | old
    · rw [dated lease new]
      exact ⟨Int.le_trans kept.clock timely.1, Int.le_refl now⟩
    · obtain ⟨first, last⟩ := kept.taken lease old
      exact ⟨first, Int.le_trans last timely.1⟩
  · intro row member attends
    have before : Attended history.current row.uploadId := attends.elim (attended _) .inr
    rcases staged row member with ⟨old, oldMember, sameKey⟩ | ⟨writer, writerMember, _,
      guarding, put, record, found, leased⟩
    · obtain ⟨uploadEq, digestEq⟩ := Prod.mk.inj sameKey
      rw [← uploadEq] at before
      rw [← uploadEq, ← digestEq]
      exact Protected.executes kept (kept.shielded old oldMember before) reads ran timely
    · refine ⟨kept.writers.pending writer writerMember guarding _ put, record, found, _,
        mem_append_left _ leased, rfl, rfl, ?_⟩
      exact ⟨fun _ _ unreclaimable => unreclaimable⟩
  · intro sha gone row member digestEq conflict
    -- No task holds the guard, so the request has staged and retained nothing.
    have free := kept.writers.exclusive.excluded sha (Sweeper.reclaiming_of_unrecorded gone)
    have unguarded : ∀ writer ∈ history.current.writers, writer.guarding ≠ true := by
      intro writer writerMember
      rw [free writer writerMember]
      simp
    rcases staged row member with ⟨old, oldMember, sameKey⟩ | ⟨writer, writerMember, -, guarding, -⟩
    · obtain ⟨uploadEq, oldDigest⟩ := Prod.mk.inj sameKey
      apply kept.unleased sha gone old oldMember (oldDigest.trans digestEq)
      rcases attended row.uploadId conflict with _ | ⟨writer, writerMember, -, guarding⟩
      · rwa [uploadEq]
      · exact absurd guarding (unguarded writer writerMember)
    · exact absurd guarding (unguarded writer writerMember)

end Requests

variable {lib : Libraries} {plan : PlanReader} {history : History} {after : State}

namespace Kept

theorem frame (kept : Kept lib plan history) {clock : Time} (le : history.clock ≤ clock)
    (sameStore : after.store = history.current.store) (writers : WritersSound after)
    (bytes : ∀ digest ∈ history.current.bytes, digest ∈ after.bytes)
    (attended : ∀ staged ∈ history.current.store.stagedBlobs.rows,
      Attended after staged.uploadId → Attended history.current staged.uploadId)
    (unrecorded : ∀ sha ∈ after.sweeper.unrecorded, sha ∈ history.current.sweeper.unrecorded) :
    Kept lib plan ⟨after, clock, history.leases⟩ := by
  constructor
  · rw [sameStore]
    exact kept.store
  · exact writers
  · exact Int.le_trans kept.clock le
  · intro lease member
    obtain ⟨first, last⟩ := kept.taken lease member
    exact ⟨first, Int.le_trans last le⟩
  · intro staged member attends
    rw [sameStore] at member
    obtain ⟨stored, record, found, shielding⟩ :=
      kept.shielded staged member (attended staged member attends)
    exact ⟨bytes _ stored, record, sameStore ▸ found, shielding⟩
  · intro sha gone
    rw [sameStore]
    exact kept.unleased sha (unrecorded sha gone)

end Kept

variable {uploadId : String}

section Writers

variable {state : State}

theorem attended_of_writers (attends : Attended after uploadId)
    (sameStore : after.store = state.store)
    (guarding : ∀ writer ∈ after.writers, writer.kind = .publish uploadId →
      writer.guarding → ∃ old ∈ state.writers, old.kind = .publish uploadId ∧
        old.guarding) : Attended state uploadId := by
  rcases attends with conflict | ⟨writer, member, kindEq, guards⟩
  · exact .inl (sameStore ▸ conflict)
  · exact .inr (guarding writer member kindEq guards)

theorem map_set_same {α β : Type} {f : α → β} {items : List α} {index : Nat} {old new : α}
    (found : items[index]? = some old) (same : f new = f old) :
    (items.set index new).map f = items.map f := by
  apply ext_getElem?
  intro _
  rw [getElem?_map, getElem?_map, getElem?_set]
  split
  next positionEq =>
    subst positionEq
    rw [found]
    split
    · rw [Option.map_some, Option.map_some, same]
    next _ =>
      rw [getElem?_eq_none (by omega)] at found
      cases found
  next => rfl

theorem WritersSound.update (sound : WritersSound state) {index : Nat} {old : Writer}
    (found : state.writers[index]? = some old) (new : Writer) (sameKind : new.kind = old.kind)
    (bytes : List String) (grows : ∀ digest ∈ state.bytes, digest ∈ bytes)
    (exclusive : Exclusive { state.update index new with bytes := bytes })
    (stored : new.guarding → ∀ digest ∈ new.put, digest ∈ bytes)
    (guards : new.guarding = false → old.guarding = false) :
    WritersSound { state.update index new with bytes := bytes } := by
  constructor
  · exact exclusive
  · simp only [State.update]
    rw [map_set_same found sameKind]
    exact sound.distinct
  · intro writer member guarding digest put
    rcases mem_or_eq_of_mem_set member with before | rfl
    · exact grows digest (sound.pending writer before guarding digest put)
    · exact stored guarding digest put
  · intro writer member unguarded staged stagedMember
    rcases mem_or_eq_of_mem_set member with before | rfl
    · exact sound.unstaged writer before unguarded staged stagedMember
    · rw [sameKind]
      exact sound.unstaged old (mem_of_getElem? found) (guards unguarded) staged stagedMember

theorem WritersSound.sublist (sound : WritersSound state) {writers : List Writer}
    (sublist : writers.Sublist state.writers) {sweeper : Sweeper}
    (exclusive : Exclusive { state with writers := writers, sweeper := sweeper }) :
    WritersSound { state with writers := writers, sweeper := sweeper } := by
  constructor
  · exact exclusive
  · exact ((sublist.map _).filter _).nodup sound.distinct
  · intro writer member
    exact sound.pending writer (sublist.subset member)
  · intro writer member
    exact sound.unstaged writer (sublist.subset member)

theorem WritersSound.enter (sound : WritersSound state) {kind : WriterKind}
    (fresh : kind.publishes → ∀ writer ∈ state.writers, writer.kind ≠ kind)
    (unstaged : ∀ staged ∈ state.store.stagedBlobs.rows, kind ≠ .publish staged.uploadId) :
    WritersSound (state.enter kind) := by
  constructor
  · exact sound.exclusive.enter kind
  · simp only [State.enter, map_append, map_cons, map_nil, filter_append]
    apply nodup_append.mpr
    refine ⟨sound.distinct, ?_, ?_⟩
    · exact filter_sublist.nodup (nodup_singleton _)
    · intro _ leftMember _ rightMember same
      obtain ⟨leftIn, -⟩ := mem_filter.mp leftMember
      obtain ⟨rightIn, publishes⟩ := mem_filter.mp rightMember
      obtain ⟨writer, writerMember, rfl⟩ := mem_map.mp leftIn
      rw [mem_singleton] at rightIn
      subst rightIn
      exact fresh publishes writer writerMember same
  · intro writer member guarding
    rcases mem_append.mp member with old | new
    · exact sound.pending writer old guarding
    · cases mem_singleton.mp new
      cases guarding
  · intro writer member unguarded staged stagedMember
    rcases mem_append.mp member with old | new
    · exact sound.unstaged writer old unguarded staged stagedMember
    · cases mem_singleton.mp new
      exact unstaged staged stagedMember

end Writers

section Requests

variable {now : Time} {store before : Store} {request : Request} {planJson : String}

theorem fresh_of_createUploadRequest {request : ArtifactUploadRequest}
    (ran : createUploadRequest lib now request before = (.ok (), store)) :
    ∀ other ∈ before.uploadRequests.rows, other.uploadId ≠ request.uploadId := by
  have committed := eq_ok_of_atomically ran
  change (refuseIf _ _ >>= fun _ => _) before = _ at committed
  unfold refuseIf at committed
  split at committed
  next => cases committed
  next passes =>
    intro other member same
    have unused := (not_or.mp passes).2
    exact unused (countP_pos_iff.mpr ⟨other, member, decide_eq_true same⟩)

theorem ensures_leaseUploadBlobTx_recorded (uploadId sha256 : String) (size : Int) :
    Ensures (fun _ => True) (leaseUploadBlobTx lib now uploadId sha256 size)
      (fun _ state => ∃ record, state.blobs.find? sha256 = some record) := by
  apply ensures_bind
  · apply @ensures_modify Store Error _ _ fun _ state =>
      ∃ record, state.blobs.find? sha256 = some record
    intro state _
    rw [Store.recordBlob, KeyedTable.find?_upsert]
    exact ⟨_, if_pos rfl⟩
  · intro _
    apply preserves_guard
    intro _
    apply ensures_modify
    intro _ recorded
    exact recorded

theorem leaseUploadBlob_cases (before : Store) (uploadId sha256 : String) (size : Int) :
    (leaseUploadBlob lib now uploadId sha256 size before).2 = before ∨
      ∃ record, (leaseUploadBlob lib now uploadId sha256 size before).2.blobs.find? sha256 =
        some record := by
  cases ran : leaseUploadBlob lib now uploadId sha256 size before with
  | mk answer store =>
    cases answer with
    | error => exact .inl (eq_of_atomically_error ran)
    | ok value =>
      right
      exact (ensures_leaseUploadBlobTx_recorded uploadId sha256 size).committed before value
        store trivial (eq_ok_of_atomically ran)

theorem Kept.run (kept : Kept lib plan history) (reads : ReadsTimes lib)
    (keepsRecords : request.reclaims = false) (leases : request.leases = [])
    (retained : request.retained = []) (timely : history.clock ≤ now ∧ now < endOfTime) :
    Kept lib plan ⟨{ history.current with
      store := runRequest lib now history.current.store request }, now, history.leases⟩ := by
  have ran := @executes_runRequest lib now request keepsRecords history.current.store
  apply @Kept.executes lib plan history request.effects _ now [] kept reads ran timely
  · exact ran.planned retained kept.store.unique kept.store.planned
  · intro _ member
    cases member
  · intro _ member
    rw [show request.effects.retained = [] from retained] at member
    cases member
  · intro _ member
    left
    rcases ran.staged member with old | leased
    · exact old
    · rw [show request.effects.leases = [] from leases] at leased
      cases leased

theorem planned_setUploadState (planned : before.Planned plan)
    (expected : UploadState) (expiresAt : Time)
    (staged : ∀ batch ∈ plan planJson, ∀ artifact ∈ batch.artifacts,
      before.Stages uploadId artifact.blobSha256) :
    (setUploadState lib now uploadId expected .conflict planJson expiresAt before).2.Planned
      plan := by
  unfold setUploadState
  change ((if before.uploadRequests.count _ = 1 then pure () else throw .uploadState :
    Operation Unit) _).2.Planned plan
  -- the row is changed in the same way whether or not the call reports an error
  split
  all_goals
    intro _ member conflict batch read artifact listed
    obtain ⟨old, oldMember, rfl⟩ := mem_map.mp member
    unfold KeyedTable.updated at conflict read ⊢
    split at conflict
    next selected =>
      rw [if_pos selected] at read ⊢
      simp only [Bool.and_eq_true, decide_eq_true_eq] at selected
      rw [selected.1]
      exact staged batch read artifact listed
    next unselected =>
      rw [if_neg unselected] at read ⊢
      exact planned old oldMember conflict batch read artifact listed

variable {index : Nat} {writer : Writer}

theorem guarding_of_ready (kindEq : writer.kind = .publish uploadId) (ready : writer.ready) :
    writer.guarding := by
  simpa [Writer.ready, kindEq, WriterKind.guarded] using ready

theorem Kept.lease (kept : Kept lib plan history) (reads : ReadsTimes lib)
    (timely : history.clock ≤ now ∧ now < endOfTime) {sha256 : String} (size : Int)
    (member : writer ∈ history.current.writers) (kindEq : writer.kind = .publish uploadId)
    (ready : writer.ready) (put : sha256 ∈ writer.put) (after : State)
    (afterEq : after = { history.current with
      store := (leaseUploadBlob lib now uploadId sha256 size history.current.store).2 }) :
    Kept lib plan ⟨after, now, newLeases after (.commit index now
      (.command (.leaseUploadBlob uploadId sha256 size))) ++ history.leases⟩ := by
  subst afterEq
  have ran : Executes lib now (Request.command (.leaseUploadBlob uploadId sha256 size)).effects
      history.current.store
      (leaseUploadBlob lib now uploadId sha256 size history.current.store).2 :=
    executes_runRequest rfl history.current.store
  have guarding := guarding_of_ready kindEq ready
  apply kept.executes reads ran timely
  · exact ran.planned rfl kept.store.unique kept.store.planned
  · intro _ leased
    obtain ⟨record, -, rfl⟩ := mem_map.mp leased
    rfl
  · intro _ retained
    cases retained
  · intro row rowMember
    rcases ran.staged rowMember with old | leased
    · exact .inl old
    · have keyEq : (row.uploadId, row.sha256) = (uploadId, sha256) := mem_singleton.mp leased
      obtain ⟨rowUpload, rowDigest⟩ := Prod.mk.inj keyEq
      rcases leaseUploadBlob_cases history.current.store uploadId sha256 size with
        unchanged | ⟨record, found⟩
      · rw [unchanged] at rowMember
        exact .inl ⟨row, rowMember, rfl⟩
      · right
        refine ⟨writer, member, rowUpload ▸ kindEq, guarding, rowDigest ▸ put, record,
          rowDigest ▸ found, ?_⟩
        apply mem_map.mpr
        refine ⟨record, ?_, by rw [rowUpload, rowDigest]⟩
        rw [Option.mem_toList]
        exact found

theorem Kept.retain (kept : Kept lib plan history) (reads : ReadsTimes lib)
    (timely : history.clock ≤ now ∧ now < endOfTime) (expected : UploadState)
    (expiresAt : Time) (member : writer ∈ history.current.writers)
    (kindEq : writer.kind = .publish uploadId) (ready : writer.ready)
    (staged : ∀ batch ∈ plan planJson, ∀ artifact ∈ batch.artifacts,
      history.current.store.Stages uploadId artifact.blobSha256) :
    Kept lib plan ⟨{ history.current with
      store := (setUploadState lib now uploadId expected .conflict planJson expiresAt
        history.current.store).2 }, now, history.leases⟩ := by
  have ran : Executes lib now
      (Request.setUploadState uploadId expected .conflict planJson expiresAt).effects
      history.current.store
      (setUploadState lib now uploadId expected .conflict planJson expiresAt
        history.current.store).2 :=
    executes_runRequest rfl history.current.store
  apply @Kept.executes lib plan history _ _ now [] kept reads ran timely
  · exact planned_setUploadState kept.store.planned expected expiresAt staged
  · intro _ leased
    cases leased
  · intro _ retained
    cases mem_singleton.mp retained
    exact ⟨writer, member, kindEq, guarding_of_ready kindEq ready⟩
  · intro _ rowMember
    rcases ran.staged rowMember with old | leased
    · exact .inl old
    · cases leased

theorem Kept.commit (kept : Kept lib plan history) (reads : ReadsTimes lib)
    (timely : history.clock ≤ now ∧ now < endOfTime)
    (found : history.current.writers[index]? = some writer)
    (issued : issuer request = .writer writer.kind) (ready : writer.ready)
    (given : ∀ digest ∈ digestsOf request, digest ∈ writer.put)
    (retains : Retains plan history.current (.commit index now request)) (after : State)
    (afterEq : after = { history.current with
      store := runRequest lib now history.current.store request }) :
    Kept lib plan ⟨after, now, newLeases after (.commit index now request) ++ history.leases⟩ := by
  have member := mem_of_getElem? found
  cases request with
  | command command =>
    cases command with
    | leaseUploadBlob _ sha256 size =>
      exact kept.lease reads timely size member (Issuer.writer.inj issued).symm ready
        (given sha256 (by simp [digestsOf, Request.refers, Request.leases])) after afterEq
    | createUploadRequest | deleteBlobRecord => cases issued
    | _ => exact afterEq ▸ kept.run reads rfl rfl rfl timely
  | setUploadState _ expected next _ expiresAt =>
    cases next with
    | conflict =>
      exact afterEq ▸ kept.retain reads timely expected expiresAt member
        (Issuer.writer.inj issued).symm ready retains
    | _ => exact afterEq ▸ kept.run reads rfl rfl rfl timely
  | cancelUploadConflict => exact afterEq ▸ kept.run reads rfl rfl rfl timely

end Requests

end Addons.BlobSweeping
