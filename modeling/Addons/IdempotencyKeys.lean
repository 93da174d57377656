import Addons.DanglingReferences
import Addons.UploadAttendance

/-!
# Idempotency keys

A key commits one batch at most, a replay answers with what was stored, and a request that
is being received has a handler, as long as no handler goes away before its request is
closed.
-/

namespace Addons.UploadHandling

section

open MetaStore Transaction Option Handler List

/-- The retained plan is committed from the conflict it waits in, with its result. -/
def Confirmation.Sensible (codec : Codec) (confirmation : Confirmation) : Prop :=
  confirmation.batch.expectedUploadState = some .conflict ∧
    ∃ result, codec.Writes confirmation.batch.uploadResultJson result

structure Kept (codec : Codec) (state : State) : Prop where
  ledger : Ledger codec state.store.registry state.commits
  attendance : Attendance codec state.store.registry state.handlers state.issued
  confirmations : ∀ confirmation ∈ state.confirmations, confirmation.Sensible codec

theorem filled_of_writes {codec : Codec} {batch : ArtifactBatch} {result : ArtifactUploadResult}
    (writes : codec.Writes batch.uploadResultJson result) : batch.filled = batch := by
  rw [ArtifactBatch.filled, if_neg writes.1]

section Settling

variable {registry : Registry} {uploadId : String} {expected : UploadState}
  {change : UploadRequestRow → UploadRequestRow} {keeps : ∀ row, (change row).key = row.key}

theorem settled_settle (closes : ∀ row, (change row).state ≠ .receiving) :
    Settled (registry.settle uploadId .receiving change keeps) uploadId := by
  intro _ member same receiving
  rcases Registry.mem_settle member with ⟨-, other⟩ | ⟨old, -, -, -, rfl⟩
  · exact other ⟨same, receiving⟩
  · exact closes old receiving

theorem rows_settle (sameUpload : ∀ row, (change row).uploadId = row.uploadId)
    (closes : ∀ row, (change row).state ≠ .receiving) :
    ∀ row ∈ (registry.settle uploadId expected change keeps).uploadRequests.rows,
      ∃ old ∈ registry.uploadRequests.rows,
        old.uploadId = row.uploadId ∧ (row.state = .receiving → old.state = .receiving) := by
  intro row member
  rcases Registry.mem_settle member with ⟨kept, -⟩ | ⟨old, oldMember, -, -, rfl⟩
  · exact ⟨row, kept, rfl, id⟩
  · exact ⟨old, oldMember, (sameUpload old).symm, fun receiving => absurd receiving (closes old)⟩

end Settling

theorem getUploadRequest_store {lib : Libraries} {store : Store} (key : UploadRequestKey) :
    (getUploadRequest lib key store).2 = store := by
  change (foundUploadRequest lib (store.uploadRequests.find? key) store).2 = store
  cases store.uploadRequests.find? key with
  | none => rfl
  | some => rfl

section Calls

variable {uploader : Uploader} {now : Time} {state : State} {index : Nat} {handler : Handler}

namespace Kept

section

variable (kept : Kept uploader.codec state) (found : state.handlers[index]? = some handler)
include kept found

variable {store : Store} {phase : Phase}

theorem advance (same : store.registry = state.store.registry) (started : phase ≠ .reserving)
    (sensible : Handler.Sensible uploader.codec { handler with phase := phase })
    (works : phase.working ∨ Settled state.store.registry handler.uploadId) :
    Kept uploader.codec
      { state.update index (handler.advance phase) with store := store } := by
  constructor
  · rw [same]
    exact kept.ledger
  · rw [same]
    exact kept.attendance.advance found started sensible works
  · exact kept.confirmations

theorem afterError (same : store.registry = state.store.registry) (error : Error)
    (inFlight : handler.phase.inFlight) (closed : ∀ problem, handler.phase = .failing problem →
      Settled state.store.registry handler.uploadId) :
    Kept uploader.codec
      { state.update index (handler.advance (handler.phase.afterError error)) with
        store := store } := by
  have member := mem_of_getElem? found
  cases phaseEq : handler.phase with
  | reserving =>
    have unreserved := (kept.attendance.unreserved handler member phaseEq).2
    have settled : Settled state.store.registry handler.uploadId :=
      fun row rowMember sameUpload _ => unreserved row rowMember sameUpload
    simp only [Phase.afterError]
    split
    · exact kept.advance found same (by simp) trivial (.inr settled)
    · exact kept.advance found same (by simp) trivial (.inr settled)
  | recovering =>
    have settled := kept.attendance.settled member
      (by simp [Handler.Working, phaseEq, Phase.working])
    exact kept.advance found same (by simp [Phase.afterError]) trivial (.inr settled)
  | committing =>
    simp only [Phase.afterError]
    split
    · exact kept.advance found same (by simp) trivial (.inl rfl)
    · exact kept.advance found same (by simp) trivial (.inl rfl)
  | retaining =>
    exact kept.advance found same (by simp [Phase.afterError]) trivial (.inl rfl)
  | failing problem =>
    exact kept.advance found same (by simp [Phase.afterError]) trivial
      (.inr (closed problem phaseEq))
  | publishing | refused | answered | stopped =>
    rw [phaseEq] at inFlight
    cases inFlight

theorem run_reserving (phaseEq : handler.phase = .reserving) :
    Kept uploader.codec (state.answer index handler
      ((createUploadRequest uploader.lib now (handler.request uploader now) >>=
        fun _ => pure (.publishing 0)) state.store)) := by
  cases ran : createUploadRequest uploader.lib now (handler.request uploader now) state.store with
  | mk result store =>
    cases result with
    | error error =>
      rw [bind_pure_error _ ran]
      refine kept.afterError found ?_ error (by simp [phaseEq, Phase.inFlight]) ?_
      · rw [eq_of_atomically_error ran]
      · intro _ failing
        cases phaseEq.symm.trans failing
    | ok value =>
      rw [bind_pure_ok _ ran]
      obtain ⟨free, unused, held, registryEq⟩ :=
        (ensures_createUploadRequestTx_reserves _ state.store).committed state.store value store
          rfl (eq_ok_of_atomically ran)
      have noCommits : handler.commits = [] := by simp [commits, phaseEq]
      simp only [State.answer, noCommits, append_nil]
      constructor
      · rw [registryEq]
        exact kept.ledger.reserve free unused held rfl
      · rw [registryEq]
        exact kept.attendance.reserve found phaseEq rfl
      · exact kept.confirmations

theorem run_committing {attempts : Nat} {batch : ArtifactBatch}
    {result : ArtifactUploadResult} (phaseEq : handler.phase = .committing attempts batch result) :
    Kept uploader.codec (state.answer index handler
      ((applyArtifactBatch uploader.lib now handler.key batch >>=
        fun _ => pure (.answered ⟨result, false, none⟩)) state.store)) := by
  have sensible := kept.attendance.sensible handler (mem_of_getElem? found)
  rw [Handler.Sensible, phaseEq] at sensible
  obtain ⟨expected, sameUpload, writes⟩ := sensible
  cases ran : applyArtifactBatch uploader.lib now handler.key batch state.store with
  | mk =>
    rcases applyArtifactBatch_cases ran with ⟨error, rfl, rfl⟩ | ⟨rfl, _, rowFound, rowState,
      rowUpload, registryEq⟩
    · rw [bind_pure_error _ ran]
      refine kept.afterError found rfl error (by simp [phaseEq, Phase.inFlight]) ?_
      intro _ failing
      cases phaseEq.symm.trans failing
    · rw [bind_pure_ok _ ran]
      rw [expected, getD_some] at rowState registryEq
      rw [filled_of_writes writes] at registryEq
      have committed : handler.commits = [(handler.key, batch.uploadResultJson)] := by
        simp [commits, phaseEq, filled_of_writes writes]
      simp only [State.answer, committed]
      constructor
      · rw [registryEq, ← rowState]
        apply kept.ledger.commit writes rowFound
        simp [rowState]
      · rw [registryEq]
        refine Attendance.advance (kept.attendance.change ?_) found (by simp) trivial (.inr ?_)
        · exact rows_settle (fun _ => rfl) (by simp [UploadRequestRow.commit])
        · rw [← sameUpload, ← rowUpload]
          exact settled_settle (by simp [UploadRequestRow.commit])
      · exact kept.confirmations

theorem run_showing {α : Type} {operation : Operation α}
    {next : α → Phase} (noCommits : handler.commits = []) (inFlight : handler.phase.inFlight)
    (shows : (operation state.store).2.registry = state.store.registry)
    (closed : ∀ problem, handler.phase = .failing problem →
      Settled state.store.registry handler.uploadId) (started : ∀ value, next value ≠ .reserving)
    (sensible : ∀ value, Handler.Sensible uploader.codec { handler with phase := next value })
    (works : ∀ value, (next value).working ∨
      Settled state.store.registry handler.uploadId) :
    Kept uploader.codec
      (state.answer index handler
        ((operation >>= fun value => pure (next value)) state.store)) := by
  cases ran : operation state.store with
  | mk result =>
    rw [ran] at shows
    cases result with
    | error error =>
      rw [bind_pure_error _ ran]
      exact kept.afterError found shows error inFlight closed
    | ok value =>
      rw [bind_pure_ok _ ran]
      simp only [State.answer, noCommits, append_nil]
      exact kept.advance found shows (started value) (sensible value) (works value)

theorem run_moving {next : UploadState} {planJson : String}
    {expiresAt : Time} (noCommits : handler.commits = [])
    (uncommitted : next ≠ .committed) (closes : next ≠ .receiving)
    (plan : next = .conflict → Retained uploader.codec planJson)
    (inFlight : handler.phase.inFlight) (started : phase ≠ .reserving)
    (sensible : Handler.Sensible uploader.codec { handler with phase := phase }) :
    Kept uploader.codec (state.answer index handler
      ((setUploadState uploader.lib now handler.uploadId .receiving next planJson expiresAt >>=
        fun _ => pure phase) state.store)) := by
  have registryEq := @setUploadState_registry uploader.lib now state.store handler.uploadId
    .receiving next planJson expiresAt uncommitted
  -- The handler after the call is one of a state in which the request has moved on already.
  have moved : Kept uploader.codec { state with
      store := (setUploadState uploader.lib now handler.uploadId .receiving next planJson expiresAt
        state.store).2 } := by
    constructor
    · rw [registryEq]
      exact kept.ledger.move handler.uploadId expiresAt uncommitted plan
    · rw [registryEq]
      apply kept.attendance.change
      exact rows_settle (fun _ => rfl) fun _ => closes
    · exact kept.confirmations
  have settled : Settled (setUploadState uploader.lib now handler.uploadId .receiving next planJson
      expiresAt state.store).2.registry handler.uploadId := by
    rw [registryEq]
    exact settled_settle fun _ => closes
  cases ran : setUploadState uploader.lib now handler.uploadId .receiving next planJson expiresAt
      state.store with
  | mk result =>
    rw [ran] at moved settled
    cases result with
    | error error =>
      rw [bind_pure_error _ ran]
      exact moved.afterError found rfl error inFlight fun _ _ => settled
    | ok =>
      rw [bind_pure_ok _ ran]
      simp only [State.answer, noCommits, append_nil]
      exact moved.advance found rfl started sensible (.inr settled)

omit found in
theorem run {after : State}
    (taken : state.run uploader index now = some after) : Kept uploader.codec after := by
  obtain ⟨handler, found, rest⟩ := bind_eq_some_iff.mp taken
  obtain ⟨_, callEq, afterEq⟩ := bind_eq_some_iff.mp rest
  cases afterEq
  have member := mem_of_getElem? found
  cases phaseEq : handler.phase with
  | reserving =>
    simp only [call, phaseEq, some.injEq] at callEq
    exact callEq ▸ kept.run_reserving found phaseEq
  | recovering =>
    simp only [call, phaseEq, some.injEq] at callEq
    have settled := kept.attendance.settled member
      (by simp [Handler.Working, phaseEq, Phase.working])
    subst callEq
    apply kept.run_showing found
    · simp [commits, phaseEq]
    · simp [phaseEq, Phase.inFlight]
    · exact congrArg Store.registry (getUploadRequest_store _)
    · exact fun _ _ => settled
    · simp
    · exact fun _ => trivial
    · exact fun _ => .inr settled
  | committing =>
    simp only [call, phaseEq, some.injEq] at callEq
    exact callEq ▸ kept.run_committing found phaseEq
  | retaining _ _ pending =>
    have sensible := kept.attendance.sensible handler member
    rw [Handler.Sensible, phaseEq] at sensible
    cases pending with
    | nil =>
      simp only [call, phaseEq, some.injEq] at callEq
      subst callEq
      apply kept.run_moving found
      · simp [commits, phaseEq]
      · simp
      · simp
      · exact fun _ => sensible
      · simp [phaseEq, Phase.inFlight]
      · simp
      · trivial
    | cons =>
      simp only [call, phaseEq, some.injEq] at callEq
      subst callEq
      apply kept.run_showing found
      · simp [commits, phaseEq]
      · simp [phaseEq, Phase.inFlight]
      · exact (keeps_atomically (shows_leaseUploadBlobTx registry_ignoresArtifacts _ _ _)).kept
          state.store rfl
      · intro _ failing
        cases phaseEq.symm.trans failing
      · simp
      · exact fun _ => sensible
      · exact fun _ => .inl rfl
  | failing =>
    simp only [call, phaseEq, some.injEq] at callEq
    subst callEq
    apply kept.run_moving found
    · simp [commits, phaseEq]
    · simp
    · simp
    · intro conflict
      cases conflict
    · simp [phaseEq, Phase.inFlight]
    · simp
    · trivial
  | publishing | refused | answered | stopped =>
    simp [call, phaseEq] at callEq

end

end Kept

end Calls

end

open MetaStore Transaction TransitionSystem Option

section

open List

/-! ## Events of the uploader -/

/-- Whether the handler's call is the one that closes a request after a problem. -/
def Phase.closing : Phase → Bool
  | .failing _ => true
  | _ => false

/-- No handler goes away, and no closing call fails, while the handler's request is being
received; and none goes away while it reserves its key. -/
def Attended (state : State) : Event → Prop
  | .drop index => ∀ handler ∈ state.handlers[index]?,
      handler.phase ≠ .reserving ∧ Settled state.store.registry handler.uploadId
  | .fails index => ∀ handler ∈ state.handlers[index]?,
      handler.phase.closing = true → Settled state.store.registry handler.uploadId
  | .restart => ∀ row ∈ state.store.registry.uploadRequests.rows, row.state ≠ .receiving
  | _ => True

instance (state : State) (event : Event) : Decidable (Attended state event) :=
  match event with
  | .drop _ => inferInstanceAs (Decidable (∀ _ ∈ _, _))
  | .fails _ => inferInstanceAs (Decidable (∀ _ ∈ _, _))
  | .restart => inferInstanceAs (Decidable (∀ _ ∈ _, _))
  | .receive _ _ _ _ _ _ | .run _ _ | .commit _ _ _ | .retain _ _ _ _ | .refuse _ _
  | .confirm _ _ _ _ _ | .apply _ _ | .replan _ _ _ _ | .abandon _ | .request _ _ =>
    inferInstanceAs (Decidable True)

section Events

variable {uploader : Uploader} {state after : State} {index : Nat}

theorem publishing?_eq_some {handler : Handler} {attempts : Nat}
    (publishing : handler.publishing? = some attempts) :
    handler.phase = .publishing attempts ∧ handler.dropped = false := by
  unfold Handler.publishing? at publishing
  split at publishing
  next phaseEq =>
    obtain ⟨kept, same⟩ := ite_none_left_eq_some.mp publishing
    cases same
    exact ⟨phaseEq, by simpa using kept⟩
  next => cases publishing

namespace Kept

section

variable (kept : Kept uploader.codec state)
include kept

theorem update {handler : Handler}
    (found : state.handlers[index]? = some handler) (present : handler.dropped = false)
    {phase : Phase} (started : phase ≠ .reserving) (working : phase.working)
    (sensible : Handler.Sensible uploader.codec { handler with phase := phase }) :
    Kept uploader.codec (state.update index { handler with phase := phase }) := by
  refine { kept with attendance := ?_ }
  · exact kept.attendance.update found rfl started sensible (.inl ⟨present, working⟩)

variable {batch : ArtifactBatch} {result : ArtifactUploadResult}

theorem commit (taken : state.commit uploader.codec index batch result = some after) :
    Kept uploader.codec after := by
  obtain ⟨_, found, rest⟩ := bind_eq_some_iff.mp taken
  obtain ⟨_, publishing, rest⟩ := bind_eq_some_iff.mp rest
  obtain ⟨publishes, rfl⟩ := of_guard rest
  exact kept.update found (publishing?_eq_some publishing).2 (by simp) rfl publishes

theorem retain {planJson : String}
    (taken : state.retain uploader.codec index batch result planJson = some after) :
    Kept uploader.codec after := by
  obtain ⟨_, found, rest⟩ := bind_eq_some_iff.mp taken
  obtain ⟨⟨publishing, ⟨-, -, writes⟩, read⟩, rfl⟩ := of_guard rest
  exact kept.update found (publishing?_eq_some publishing).2 (by simp) rfl
    ⟨batch, result, read, writes⟩

theorem refuse {problem : UploadProblem}
    (taken : state.refuse index problem = some after) : Kept uploader.codec after := by
  obtain ⟨handler, found, rest⟩ := bind_eq_some_iff.mp taken
  obtain ⟨possible, rfl⟩ := of_guard rest
  have present : handler.dropped = false := by
    simp only [Handler.canRefuse, Bool.and_eq_true, Bool.not_eq_true'] at possible
    exact possible.1
  exact kept.update found present (by simp) rfl trivial

theorem fails (attended : Attended state (.fails index))
    (taken : state.fails index = some after) : Kept uploader.codec after := by
  obtain ⟨handler, found, rest⟩ := bind_eq_some_iff.mp taken
  obtain ⟨inFlight, rfl⟩ := of_guard rest
  refine kept.afterError found rfl _ inFlight ?_
  intro _ failing
  exact attended handler found (by rw [failing]; rfl)

theorem drop (attended : Attended state (.drop index))
    (taken : state.drop index = some after) : Kept uploader.codec after := by
  obtain ⟨handler, found, afterEq⟩ := bind_eq_some_iff.mp taken
  cases afterEq
  obtain ⟨started, settled⟩ := attended handler found
  refine { kept with attendance := ?_ }
  · exact kept.attendance.update found rfl started
      (kept.attendance.sensible handler (mem_of_getElem? found)) (.inr settled)

theorem receive {key : UploadRequestKey}
    {admitted : Except UploadProblem String} (taken : state.receive key admitted = some after) :
    Kept uploader.codec after := by
  cases admitted with
  | error =>
    cases taken
    exact kept
  | ok =>
    obtain ⟨fresh, afterEq⟩ := ite_none_left_eq_some.mp taken
    cases afterEq
    refine { kept with attendance := ?_ }
    · exact kept.attendance.enter key fresh

theorem restart (attended : Attended state .restart) :
    Kept uploader.codec { state with handlers := [], confirmations := [] } := by
  constructor
  · exact kept.ledger
  · constructor
    · exact kept.attendance.issuedRows
    · simp
    · exact nodup_nil
    · simp
    · intro row member receiving
      exact absurd receiving (attended row member)
    · simp
  · simp

variable {now : Time}

theorem confirm {repoId : Int} {uploadId principalName principalSource : String} :
    Kept uploader.codec (state.confirm (confirmRequest uploader.codec.plans now repoId principalName
      principalSource (getUploadRequestById uploader.lib uploadId state.store).1)) := by
  cases found : getUploadRequestById uploader.lib uploadId state.store with
  | mk outcome =>
    cases checked : confirmRequest uploader.codec.plans now repoId principalName principalSource
        outcome with
    | error => exact kept
    | ok =>
      obtain ⟨_, _, rfl, conflict, planRead, rfl⟩ := confirmRequest_ok checked
      obtain ⟨plan, read, rfl⟩ := map_eq_some_iff.mp planRead
      obtain ⟨row, member, -, rfl⟩ := getUploadRequestById_ok found
      obtain ⟨batch, result, planEq, writes⟩ :=
        kept.ledger.planned row member (some.inj conflict)
      have planIs : plan = conflictPlan batch := some.inj (read.symm.trans planEq)
      refine { kept with confirmations := ?_ }
      · intro other otherMember
        rcases mem_append.mp otherMember with old | new
        · exact kept.confirmations other old
        · cases mem_singleton.mp new
          rw [planIs]
          exact ⟨rfl, result, writes⟩

theorem finish : Kept uploader.codec (state.finish index) := by
  refine { kept with confirmations := ?_ }
  · intro confirmation member
    exact kept.confirmations confirmation (mem_of_mem_eraseIdx member)

theorem apply (taken : state.apply uploader.lib index now = some after) :
    Kept uploader.codec after := by
  obtain ⟨confirmation, found, rest⟩ := bind_eq_some_iff.mp taken
  obtain ⟨-, afterEq⟩ := ite_none_left_eq_some.mp rest
  cases afterEq
  have member := mem_of_getElem? found
  obtain ⟨expected, result, writes⟩ := kept.confirmations confirmation member
  cases ran : applyArtifactBatch uploader.lib now confirmation.key confirmation.batch
      state.store with
  | mk =>
    rcases applyArtifactBatch_cases ran with ⟨_, rfl, rfl⟩ | ⟨rfl, _, rowFound, rowState,
      -, registryEq⟩
    · simp only [State.confirmed]
      split
      · refine { kept with confirmations := ?_ }
        · intro other otherMember
          rcases mem_or_eq_of_mem_set otherMember with old | rfl
          · exact kept.confirmations other old
          · exact ⟨expected, result, writes⟩
      · exact kept.finish
    · rw [expected, getD_some] at rowState registryEq
      rw [filled_of_writes writes] at registryEq
      simp only [State.confirmed, filled_of_writes writes]
      constructor
      · rw [registryEq, ← rowState]
        apply kept.ledger.commit writes rowFound
        simp [rowState]
      · rw [registryEq]
        apply kept.attendance.change
        exact rows_settle (fun _ => rfl) (by simp [UploadRequestRow.commit])
      · exact (@finish _ _ index kept).confirmations

theorem replan {mutableCas : List ArtifactCAS}
    {derived : List UploadedArtifact} {resultJson : String}
    (taken : state.replan uploader.codec index mutableCas derived resultJson = some after) :
    Kept uploader.codec after := by
  obtain ⟨confirmation, found, rest⟩ := bind_eq_some_iff.mp taken
  obtain ⟨⟨-, -, derives⟩, rfl⟩ := of_guard rest
  obtain ⟨expected, result, -, read⟩ :=
    kept.confirmations confirmation (mem_of_getElem? found)
  refine { kept with confirmations := ?_ }
  · intro other otherMember
    rcases mem_or_eq_of_mem_set otherMember with old | rfl
    · exact kept.confirmations other old
    · exact ⟨expected, _, derives.2 result read⟩

theorem request {request : Request} (outside : request.outside) :
    Kept uploader.codec
      { state with store := runRequest uploader.lib now state.store request } := by
  have changes := @outside_runRequest uploader.lib now state.store request outside
  constructor
  · exact kept.ledger.outside changes
  · apply kept.attendance.change
    intro row member
    rcases changes.mem member with old | ⟨old, oldMember, same, failed⟩
    · exact ⟨row, old, rfl, id⟩
    · refine ⟨old, oldMember, same, ?_⟩
      intro receiving
      cases failed.symm.trans receiving
  · exact kept.confirmations

theorem act {event : Event} (attended : Attended state event)
    (taken : state.act uploader event = some after) : Kept uploader.codec after := by
  cases event with
  | receive =>
    exact kept.receive taken
  | run => exact kept.run taken
  | fails => exact kept.fails attended taken
  | commit => exact kept.commit taken
  | retain => exact kept.retain taken
  | refuse => exact kept.refuse taken
  | drop => exact kept.drop attended taken
  | restart =>
    cases taken
    exact kept.restart attended
  | confirm =>
    cases taken
    exact kept.confirm
  | apply => exact kept.apply taken
  | replan => exact kept.replan taken
  | abandon =>
    cases taken
    exact kept.finish
  | request _ request =>
    obtain ⟨outside, rfl⟩ := of_guard taken
    exact kept.request outside

end

theorem initial (initially : Initial state) : Kept uploader.codec state := by
  cases initially
  constructor
  · constructor
    · constructor
      · intro _ member
        cases member
      · intro _ member
        cases member
      · intro _ member
        cases member
    · intro _ member
      cases member
    · intro _ member
      cases member
    · simp
    · simp
    · exact nodup_nil
  · constructor
    · intro _ member
      cases member
    · simp
    · exact nodup_nil
    · simp
    · intro _ member
      cases member
    · simp
  · simp

end Kept

end Events

end

section Replays

variable {uploader : Uploader} {state : State} {index : Nat} {handler : Handler}
  {row : UploadRequestRow} {now : Time}

theorem run_taken (found : state.handlers[index]? = some handler)
    (reserving : handler.phase = .reserving)
    (taken : state.store.uploadRequests.find? handler.key = some row) :
    state.act uploader (.run index now) =
      some (state.update index (handler.advance .recovering)) := by
  have refused : createUploadRequest uploader.lib now (handler.request uploader now) state.store =
      (.error .conflict, state.store) :=
    createUploadRequest_taken (isSome_of_eq_some taken)
  simp only [State.act, State.run, found, Handler.call, reserving, bind_eq_bind,
    bind_some, pure_def]
  rw [bind_pure_error _ refused]
  simp [State.answer, Phase.afterError, reserving, State.update]

/-- The outcome tells that the key is being worked on. -/
def ReceiveOutcome.ReportsProgress (outcome : ReceiveOutcome) : Prop :=
  ∃ problem ∈ outcome.problem, problem.code = "upload_in_progress"

theorem reportsProgress_ofProblem {problem : UploadProblem} :
    (ReceiveOutcome.ofProblem problem).ReportsProgress ↔ problem.code = "upload_in_progress" := by
  simp [ReceiveOutcome.ReportsProgress, ReceiveOutcome.ofProblem]

theorem receiving_of_reportsProgress
    (planned : row.state = .conflict → Retained uploader.codec row.planJson)
    (reports :
      (replayOutcome uploader.codec (scanUploadRequest uploader.lib row)).ReportsProgress) :
    row.state = .receiving := by
  cases stateEq : row.state with
  | receiving => rfl
  | conflict =>
    obtain ⟨batch, _, read, -⟩ := planned stateEq
    have outcome : replayOutcome uploader.codec (scanUploadRequest uploader.lib row) =
        .ofProblem (conflictPlan batch).problem := by
      simp only [replayOutcome, scanUploadRequest, stateEq, storedProblem, read]
      rfl
    rw [outcome, reportsProgress_ofProblem] at reports
    exact absurd reports (by decide : "artifact_conflict" ≠ "upload_in_progress")
  | committed =>
    simp only [replayOutcome, scanUploadRequest, stateEq] at reports
    cases read : uploader.codec.readResult row.resultJson with
    | none =>
      rw [read, elim_none, storedResultInvalid, reportsProgress_ofProblem] at reports
      exact absurd reports (by decide : "stored_result_invalid" ≠ "upload_in_progress")
    | some =>
      rw [read] at reports
      obtain ⟨_, member, -⟩ := reports
      cases member
  | failed =>
    simp only [replayOutcome, scanUploadRequest, stateEq, idempotencyKeyConsumed,
      reportsProgress_ofProblem] at reports
    exact absurd reports (by decide : "idempotency_key_consumed" ≠ "upload_in_progress")

end Replays

def Handler.Done (handler : Handler) : Prop :=
  handler.dropped = true ∨ ∃ outcome, handler.phase = .answered outcome

theorem not_working_of_done {handler : Handler} (done : handler.Done) : ¬handler.Working := by
  rintro ⟨present, working⟩
  rcases done with dropped | ⟨_, answered⟩
  · cases dropped.symm.trans present
  · rw [answered] at working
    cases working

/-- A key commits once at most, a replay of a committed key answers with the stored result
and publishes nothing, the request of a handler that is done is closed, and a key that is
reported as in progress has a handler at work. -/
theorem idempotencyKeys_settle {uploader : Uploader} {state : State}
    (reached : Reachable Initial (Step uploader) Attended state) :
    (∀ key, (state.commits.map Prod.fst).count key ≤ 1) ∧
    (∀ index handler row now, state.handlers[index]? = some handler →
      state.store.uploadRequests.find? handler.key = some row → row.state = .committed →
        (handler.phase = .reserving → state.act uploader (.run index now) =
          some (state.update index (handler.advance .recovering))) ∧
        (handler.phase = .recovering → ∃ result, (handler.key, row.resultJson) ∈ state.commits ∧
          uploader.codec.readResult row.resultJson = some result ∧
          state.act uploader (.run index now) =
            some (state.update index (handler.advance (.answered ⟨result, true, none⟩))))) ∧
    (∀ handler ∈ state.handlers, handler.Done → ∀ row ∈ state.store.uploadRequests.rows,
      row.uploadId = handler.uploadId → row.state ∈ [.committed, .conflict, .failed]) ∧
    ∀ row ∈ state.store.uploadRequests.rows,
      (replayOutcome uploader.codec (scanUploadRequest uploader.lib row)).ReportsProgress →
        ∃ handler ∈ state.handlers, handler.uploadId = row.uploadId ∧ handler.Working := by
  have kept : Kept uploader.codec state := by
    apply reached.invariant
    · intro _ initially
      exact Kept.initial initially
    · intro _ _ _ before attended taken
      exact before.act attended taken
  refine ⟨?_, ?_, ?_, ?_⟩
  · intro key
    exact List.nodup_iff_count_le_one.mp kept.ledger.once key
  · intro _ handler row _ found taken committed
    constructor
    · intro reserving
      exact run_taken found reserving taken
    · intro recovering
      obtain ⟨member, keyEq⟩ := KeyedTable.find?_eq_some_iff.mp taken
      have stored := kept.ledger.stored row member committed
      obtain ⟨result, -, read⟩ := kept.ledger.results _ stored
      refine ⟨result, keyEq ▸ stored, read, ?_⟩
      have recovered : getUploadRequest uploader.lib handler.key state.store =
          (.ok (scanUploadRequest uploader.lib row), state.store) := by
        change foundUploadRequest uploader.lib _ state.store = _
        rw [taken]
        rfl
      simp only [State.act, State.run, found, Handler.call, recovering, bind_eq_bind,
        bind_some, pure_def]
      rw [bind_pure_ok _ recovered]
      simp [State.answer, replayOutcome, scanUploadRequest, committed, read, Handler.commits,
        recovering, State.update]
  · intro _ member done row rowMember same
    have closed := kept.attendance.settled member (not_working_of_done done) row rowMember same
    cases stateEq : row.state with
    | receiving => exact absurd stateEq closed
    | conflict => decide
    | committed => decide
    | failed => decide
  · intro row member reports
    have receiving := receiving_of_reportsProgress (kept.ledger.planned row member) reports
    exact kept.attendance.worked row member receiving

section Runs

open BlobSweeping (unaryClock)

/-- An uploader that writes one result, and retains no plan. -/
def npmUploader : Uploader where
  lib := unaryClock
  codec :=
    { readResult := fun text => if text = "result" then some { uploadId := "u" } else none
      readPlan := fun _ => none }
  idempotencyTtl := 3600 * second

def npmRepository : Repository := { id := 1, name := "npm", format := "npm", type := .hosted }

def ciKey : UploadRequestKey := ⟨1, "token", "ci", "0123456789abcdef"⟩

/-- A request of the same key arrives. -/
def received (uploadId : String) : Event :=
  .receive npmRepository "ci" "token" "0123456789abcdef" true (some uploadId)

def tarball : ArtifactBatch where
  expectedUploadState := some .receiving
  publication :=
    { id := "p", repoId := 1, format := "npm", packageName := "left-pad", version := "1.0.0",
      coordinate := "left-pad@1.0.0", uploadId := "u" }
  create :=
    [{ repoId := 1, path := "left-pad/-/left-pad-1.0.0.tgz", blobSha256 := "tgz", size := 1,
       publicationId := "p" }]
  uploadResultJson := "result"

/-- A handler reserves its key, and its client goes away. The key is reported as in progress
from then on. -/
def abandoned : List Event :=
  [.request 0 (.command (.createRepository npmRepository)), received "u", .run 0 0, .drop 0,
    received "v", .run 1 0, .run 1 0]

theorem abandonedKey_stuck :
    ∃ state, Reachable Initial (Step npmUploader) (fun _ _ => True) state ∧
      (∃ row ∈ state.store.uploadRequests.rows, row.key = ciKey ∧ row.state = .receiving) ∧
      (∀ handler ∈ state.handlers, ¬handler.Working) ∧
      ∃ handler ∈ state.handlers, handler.key = ciKey ∧
        handler.phase = .answered (uploadInProgress "u") := by
  apply Reachable.exists_of_follow (fun state event => state.act npmUploader event) abandoned
    (show Initial _ from rfl)
  · exact fun _ _ _ taken => taken
  · decide +kernel

/-- A handler publishes, and another one finds the key taken. -/
def replayed : List Event :=
  [.request 0 (.command (.createRepository npmRepository)), received "u", .run 0 0,
    .commit 0 tarball { uploadId := "u" }, .run 0 0, received "v", .run 1 0]

theorem idempotencyKeys_settle_replayed :
    ∃ state : State, (state.commits.map Prod.fst).count ciKey = 1 ∧
      ∃ handler, state.handlers[1]? = some handler ∧
        ∃ result, state.act npmUploader (.run 1 0) =
          some (state.update 1 (handler.advance (.answered ⟨result, true, none⟩))) := by
  have run : ∃ state, Reachable Initial (Step npmUploader) Attended state ∧
      ciKey ∈ state.commits.map Prod.fst ∧
      (∃ handler ∈ state.handlers[1]?, handler.phase = .recovering ∧ handler.key = ciKey) ∧
      ∃ row ∈ state.store.uploadRequests.find? ciKey, row.state = .committed := by
    apply Reachable.exists_of_follow (fun state event => state.act npmUploader event) replayed
      (show Initial _ from rfl)
    · exact fun _ _ _ taken => taken
    · decide +kernel
  obtain ⟨state, reached, committed, ⟨handler, found, recovering, keyEq⟩, row, taken,
    isCommitted⟩ :=
    run
  obtain ⟨once, replays, -⟩ := idempotencyKeys_settle reached
  have atMost := once ciKey
  have atLeast := List.count_pos_iff.mpr committed
  refine ⟨state, by omega, handler, found, ?_⟩
  obtain ⟨result, -, -, answered⟩ :=
    (replays 1 handler row 0 found (keyEq ▸ taken) isCommitted).2 recovering
  exact ⟨result, answered⟩

end Runs

end Addons.UploadHandling
