import Addons.UploadRegistry

/-!
# Attendance

A request that is being received has a handler at work, and each handler a request of its
own.
-/

namespace Addons.UploadHandling

open MetaStore Transaction

structure UploadedArtifact where
  path : String
  role : String
  size : Int
  sha256 : String
  deriving DecidableEq

structure UploadWarning where
  code : String
  detail : String
  deriving DecidableEq

structure ArtifactUploadResult where
  uploadId : String := ""
  repository : String := ""
  format : String := ""
  coordinate : String := ""
  created : List UploadedArtifact := []
  replaced : List UploadedArtifact := []
  derived : List UploadedArtifact := []
  scanStatus : String := ""
  durability : String := ""
  warnings : List UploadWarning := []
  deriving DecidableEq

structure UploadProblem where
  type : String
  title : String
  status : Int
  code : String
  detail : String
  uploadId : String := ""
  fieldErrors : List (String × List String) := []
  conflicts : List String := []
  conflictAction : String := ""
  retryable : Bool := false
  deriving DecidableEq

def uploadProblem (status : Int) (code title detail : String) : UploadProblem where
  type := "https://forklift.dev/problems/" ++
    String.ofList (code.toList.map fun character => if character = '_' then '-' else character)
  title := title
  status := status
  code := code
  detail := detail

structure ReceiveOutcome where
  result : ArtifactUploadResult
  replay : Bool
  problem : Option UploadProblem
  deriving DecidableEq

def ReceiveOutcome.ofProblem (problem : UploadProblem) : ReceiveOutcome where
  result := {}
  replay := false
  problem := some problem

/-- A replacement that waits for its confirmation. -/
structure MavenConflictPlan where
  problem : UploadProblem
  batch : ArtifactBatch
  deriving DecidableEq

/-- How serde_json reads the results and plans that a request stores. -/
structure Codec where
  readResult : String → Option ArtifactUploadResult
  readPlan : String → Option MavenConflictPlan

/-- The text is what serde_json writes for the result: it is not empty, and reads back. -/
def Codec.Writes (codec : Codec) (text : String) (result : ArtifactUploadResult) : Prop :=
  text ≠ "" ∧ codec.readResult text = some result

instance (codec : Codec) (text : String) (result : ArtifactUploadResult) :
    Decidable (codec.Writes text result) :=
  inferInstanceAs (Decidable (_ ∧ _))

structure Uploader where
  lib : Libraries
  codec : Codec
  idempotencyTtl : Time

section Replays

variable (codec : Codec)

def storedResultInvalid : ReceiveOutcome :=
  .ofProblem (uploadProblem 503 "stored_result_invalid" "Stored result unavailable"
    "The committed upload result could not be decoded")

def uploadInProgress (uploadId : String) : ReceiveOutcome :=
  .ofProblem { uploadProblem 409 "upload_in_progress" "Upload already in progress"
    "The idempotency key is already active" with uploadId := uploadId }

def idempotencyKeyConsumed (uploadId : String) : ReceiveOutcome :=
  .ofProblem { uploadProblem 409 "idempotency_key_consumed" "Idempotency key already used"
    "Use a new idempotency key for a new attempt" with uploadId := uploadId }

def storedProblem (planJson : String) : Option UploadProblem :=
  ((codec.readPlan planJson).map MavenConflictPlan.problem).filter fun problem => problem.code ≠ ""

/-- The outcome for an idempotency key that is already taken. -/
def replayOutcome (existing : ArtifactUploadRequest) : ReceiveOutcome :=
  match existing.state with
  | some .committed =>
    (codec.readResult existing.resultJson).elim storedResultInvalid fun result =>
      ⟨result, true, none⟩
  | some .conflict =>
    (storedProblem codec existing.planJson).elim (uploadInProgress existing.uploadId)
      ReceiveOutcome.ofProblem
  | some .receiving => uploadInProgress existing.uploadId
  | _ => idempotencyKeyConsumed existing.uploadId

end Replays

def validateIdempotencyKey (key : String) : Option UploadProblem :=
  if key.utf8ByteSize < 16 ∨ 128 < key.utf8ByteSize ∨
      key.toList.any (fun character => character.toNat < 0x21 || 0x7e < character.toNat) then
    some (uploadProblem 400 "idempotency_key_invalid" "Invalid idempotency key"
      "Idempotency-Key must contain 16 to 128 printable ASCII characters")
  else none

/-- What keeps a request from being read at all. -/
def refusal (repository : Repository) (idempotencyKey : String) : Option UploadProblem :=
  if repository.type ≠ .hosted then
    some (uploadProblem 400 "repository_not_hosted" "Hosted repository required"
      "Artifacts can be uploaded only to hosted repositories")
  else if repository.disabled then
    some (uploadProblem 503 "repository_disabled" "Repository disabled"
      "The repository is currently disabled")
  else validateIdempotencyKey idempotencyKey

def uploadBusy : UploadProblem :=
  uploadProblem 429 "upload_busy" "Upload capacity exhausted"
    "Retry after an upload slot becomes available"

/-- Some service the upload needs did not answer. -/
def storageUnavailable (detail : String) : UploadProblem :=
  uploadProblem 503 "storage_unavailable" "Upload unavailable" detail

/-- Where a handler stands. In the phases that name a call of the store, it is in flight. -/
inductive Phase where
  | reserving
  | recovering
  /-- The key is reserved; the body is received and a batch planned. -/
  | publishing (attempts : Nat)
  | committing (attempts : Nat) (batch : ArtifactBatch) (result : ArtifactUploadResult)
  /-- The store refused the batch. -/
  | refused
  | retaining (plan : MavenConflictPlan) (planJson : String) (pending : List (String × Int))
  /-- The request is closed after a problem. -/
  | failing (problem : UploadProblem)
  | answered (outcome : ReceiveOutcome)
  | stopped
  deriving DecidableEq

structure Handler where
  key : UploadRequestKey
  uploadId : String
  phase : Phase
  dropped : Bool := false
  deriving DecidableEq

section Calls

def retainFailed : UploadProblem :=
  storageUnavailable "The Maven replacement plan could not be retained"

/-- Attempts at a commit whose derived metadata changed meanwhile. -/
def maxAttempts : Nat := 3

/-- How a handler goes on when its call fails. -/
def Phase.afterError (error : Error) : Phase → Phase
  | .reserving =>
    if error = .conflict then .recovering
    else .answered (.ofProblem (storageUnavailable "Could not reserve the idempotency key"))
  | .recovering =>
    .answered (.ofProblem (storageUnavailable "Could not recover the idempotent upload"))
  | .committing attempts _ _ =>
    if error = .derivedMetadataChanged ∧ attempts + 1 < maxAttempts then .publishing (attempts + 1)
    else .refused
  | .retaining _ _ _ => .failing retainFailed
  | .failing problem => .answered (.ofProblem problem)
  | phase => phase

variable (uploader : Uploader) (now : Time)

def Handler.request (handler : Handler) : ArtifactUploadRequest where
  key := handler.key
  uploadId := handler.uploadId
  state := some .receiving
  expiresAt := now + uploader.idempotencyTtl

def confirmationMinutes : Int := 30

/-- The call that the handler has in flight, and how it goes on when the call succeeds. -/
def Handler.call (handler : Handler) : Option (Operation Phase) :=
  match handler.phase with
  | .reserving => some do
      createUploadRequest uploader.lib now (handler.request uploader now)
      pure (.publishing 0)
  | .recovering => some do
      let existing ← getUploadRequest uploader.lib handler.key
      pure (.answered (replayOutcome uploader.codec existing))
  | .committing _ batch result => some do
      applyArtifactBatch uploader.lib now handler.key batch
      pure (.answered ⟨result, false, none⟩)
  | .retaining plan planJson ((digest, size) :: pending) => some do
      leaseUploadBlob uploader.lib now handler.uploadId digest size
      pure (.retaining plan planJson pending)
  | .retaining plan planJson [] => some do
      setUploadState uploader.lib now handler.uploadId .receiving .conflict planJson
        (now + confirmationMinutes * 60 * second)
      pure (.failing { plan.problem with uploadId := handler.uploadId })
  | .failing problem => some do
      setUploadState uploader.lib now handler.uploadId .receiving .failed ""
        (now + uploader.idempotencyTtl)
      pure (.answered (.ofProblem problem))
  | _ => none

def Handler.commits (handler : Handler) : List (UploadRequestKey × String) :=
  match handler.phase with
  | .committing _ batch _ => [(handler.key, batch.filled.uploadResultJson)]
  | _ => []

end Calls

/-- The blobs of a plan, each once. -/
def pendingLeases (batch : ArtifactBatch) : List (String × Int) :=
  batch.artifacts.foldl
    (fun pending artifact =>
      if pending.any fun lease => lease.1 = artifact.blobSha256 then pending
      else pending ++ [(artifact.blobSha256, artifact.size)])
    []

/-- The plan that replaces a publication once it is confirmed. -/
def conflictPlan (batch : ArtifactBatch) : MavenConflictPlan where
  problem :=
    { uploadProblem 409 "artifact_conflict" "Maven publication already exists"
        "Confirm replacement to atomically replace the complete publication" with
      conflicts := batch.replace.map Artifact.path
      conflictAction := "replace" }
  batch := { batch with expectedUploadState := some .conflict }

/-- A retained plan that is being committed. -/
structure Confirmation where
  key : UploadRequestKey
  batch : ArtifactBatch
  attempts : Nat := 0
  replanning : Bool := false
  deriving DecidableEq

def uploadNotFound : UploadProblem :=
  uploadProblem 404 "upload_not_found" "Upload not found" "The retained upload was not found"

def conflictPlanInvalid : UploadProblem :=
  uploadProblem 409 "conflict_plan_invalid" "Replacement plan unavailable"
    "The retained replacement plan could not be decoded"

def Codec.plans (codec : Codec) : PlanReader :=
  fun planJson => (codec.readPlan planJson).map MavenConflictPlan.batch

def confirmPlan (key : UploadRequestKey) :
    Option ArtifactBatch → Except UploadProblem Confirmation
  | none => .error conflictPlanInvalid
  | some batch =>
    if batch.publication.format ≠ "maven" then .error conflictPlanInvalid
    else .ok { key, batch }

/-- What `commit_maven_conflict` makes of the request that it finds. -/
def confirmRequest (plan : PlanReader) (now : Time) (repoId : Int)
    (principalName principalSource : String) :
    Except Error ArtifactUploadRequest → Except UploadProblem Confirmation
  | .error _ => .error uploadNotFound
  | .ok request =>
    if request.key.repoId ≠ repoId ∨ request.key.principalName ≠ principalName ∨
        request.key.principalSource ≠ principalSource then .error uploadNotFound
    else if request.state ≠ some .conflict then
      .error (uploadProblem 409 "upload_not_confirmable" "Upload cannot be confirmed"
        "Only a retained Maven conflict can be confirmed")
    else if request.expiresAt ≤ now then
      .error (uploadProblem 409 "conflict_plan_expired" "Replacement plan expired"
        "Upload the files again to create a current replacement plan")
    else confirmPlan request.key (plan request.planJson)

theorem confirmRequest_ok {plan : PlanReader} {now : Time} {repoId : Int}
    {principalName principalSource : String} {found : Except Error ArtifactUploadRequest}
    {confirmation : Confirmation}
    (checked : confirmRequest plan now repoId principalName principalSource found =
      .ok confirmation) :
    ∃ request batch, found = .ok request ∧ request.state = some .conflict ∧
      plan request.planJson = some batch ∧ confirmation = { key := request.key, batch } := by
  cases found with
  | error => cases checked
  | ok request =>
    simp only [confirmRequest] at checked
    split at checked
    · cases checked
    · split at checked
      · cases checked
      next conflict =>
        split at checked
        · cases checked
        · cases read : plan request.planJson with
          | none =>
            rw [read] at checked
            cases checked
          | some batch =>
            rw [read, confirmPlan] at checked
            split at checked
            · cases checked
            · cases checked
              exact ⟨request, batch, rfl, not_not.mp conflict, read, rfl⟩

/-- The plan with the mutable files as they are planned now. -/
def Confirmation.replan (confirmation : Confirmation) (mutableCas : List ArtifactCAS)
    (resultJson : String) : Confirmation :=
  { confirmation with
    batch :=
      { confirmation.batch with mutableCas := mutableCas, uploadResultJson := resultJson }
    replanning := false }

/-- The text is that of the result with new derived files, where the old text can be read. -/
def Confirmation.Derives (codec : Codec) (confirmation : Confirmation)
    (derived : List UploadedArtifact) (resultJson : String) : Prop :=
  (codec.readResult confirmation.batch.uploadResultJson = none →
    resultJson = confirmation.batch.uploadResultJson) ∧
  ∀ result ∈ codec.readResult confirmation.batch.uploadResultJson,
    codec.Writes resultJson { result with derived := derived }

instance (codec : Codec) (confirmation : Confirmation) (derived : List UploadedArtifact)
    (resultJson : String) : Decidable (confirmation.Derives codec derived resultJson) :=
  inferInstanceAs (Decidable (_ ∧ ∀ _ ∈ _, _))

/-- The store, the handlers of upload requests, and confirmations under way. `issued` and
`commits` remember the upload ids that were given out and what was committed under which
key. -/
structure State where
  store : Store
  handlers : List Handler := []
  confirmations : List Confirmation := []
  issued : List String := []
  commits : List (UploadRequestKey × String) := []

inductive Event where
  /-- A request arrives; it may get no slot, or no identifier. -/
  | receive (repository : Repository) (principalName principalSource idempotencyKey : String)
      (slot : Bool) (uploadId : Option String)
  /-- The call that the handler has in flight runs. -/
  | run (index : Nat) (now : Time)
  /-- The call fails without an effect. -/
  | fails (index : Nat)
  | commit (index : Nat) (batch : ArtifactBatch) (result : ArtifactUploadResult)
  | retain (index : Nat) (batch : ArtifactBatch) (result : ArtifactUploadResult) (planJson : String)
  /-- Receiving or publishing ends with a problem. -/
  | refuse (index : Nat) (problem : UploadProblem)
  /-- The time budget is exceeded, or the client is gone. -/
  | drop (index : Nat)
  | restart
  | confirm (now : Time) (repoId : Int) (uploadId principalName principalSource : String)
  | apply (index : Nat) (now : Time)
  | replan (index : Nat) (mutableCas : List ArtifactCAS) (derived : List UploadedArtifact)
      (resultJson : String)
  | abandon (index : Nat)
  /-- Some other request of the store. -/
  | request (now : Time) (request : Request)

/-- The upload identifier that a request goes on with. -/
def admission (repository : Repository) (idempotencyKey : String) (slot : Bool)
    (uploadId : Option String) : Except UploadProblem String :=
  (refusal repository idempotencyKey).elim
    (if slot then
      uploadId.elim (.error (storageUnavailable "Could not allocate an upload identifier")) .ok
    else .error uploadBusy)
    .error

/-- The handler after a call; a dropped one does nothing more. -/
def Handler.advance (handler : Handler) (phase : Phase) : Handler :=
  { handler with phase := if handler.dropped then .stopped else phase }

/-- The attempts at a commit that a handler has made when it is about to publish. -/
def Handler.publishing? (handler : Handler) : Option Nat :=
  match handler.phase with
  | .publishing attempts => if handler.dropped then none else some attempts
  | _ => none

def Handler.canRefuse (handler : Handler) : Bool :=
  !handler.dropped && (handler.phase = .refused || handler.publishing?.isSome)

def Phase.inFlight : Phase → Bool
  | .reserving | .recovering | .committing _ _ _ | .retaining _ _ _ | .failing _ => true
  | _ => false

namespace State

variable (state : State)

def enter (key : UploadRequestKey) (uploadId : String) : State :=
  { state with
    issued := uploadId :: state.issued
    handlers := state.handlers ++ [{ key := key, uploadId := uploadId, phase := .reserving }] }

/-- A request that is let in reserves its key, under an identifier that was never given out
before. -/
def receive (key : UploadRequestKey) : Except UploadProblem String → Option State
  | .error _ => some state
  | .ok uploadId => if uploadId ∈ state.issued then none else some (state.enter key uploadId)

def update (index : Nat) (handler : Handler) : State :=
  { state with handlers := state.handlers.set index handler }

/-- The store has run the handler's call. -/
def answer (index : Nat) (handler : Handler) : Except Error Phase × Store → State
  | (.ok phase, store) =>
    { state.update index (handler.advance phase) with
      store := store, commits := state.commits ++ handler.commits }
  | (.error error, store) =>
    { state.update index (handler.advance (handler.phase.afterError error)) with store := store }

def run (uploader : Uploader) (index : Nat) (now : Time) : Option State := do
  let handler ← state.handlers[index]?
  let call ← handler.call uploader now
  pure (state.answer index handler (call state.store))

def fails (index : Nat) : Option State := do
  let handler ← state.handlers[index]?
  if handler.phase.inFlight then
    pure (state.update index (handler.advance (handler.phase.afterError (.sqlite ""))))
  else none

def Publishes (codec : Codec) (handler : Handler) (batch : ArtifactBatch)
    (result : ArtifactUploadResult) : Prop :=
  batch.expectedUploadState = some .receiving ∧ batch.publication.uploadId = handler.uploadId ∧
    codec.Writes batch.uploadResultJson result

instance (codec : Codec) (handler : Handler) (batch : ArtifactBatch)
    (result : ArtifactUploadResult) : Decidable (Publishes codec handler batch result) :=
  inferInstanceAs (Decidable (_ ∧ _ ∧ _))

def commit (codec : Codec) (index : Nat) (batch : ArtifactBatch) (result : ArtifactUploadResult) :
    Option State := do
  let handler ← state.handlers[index]?
  let attempts ← handler.publishing?
  if Publishes codec handler batch result then
    pure (state.update index { handler with phase := .committing attempts batch result })
  else none

def retain (codec : Codec) (index : Nat) (batch : ArtifactBatch) (result : ArtifactUploadResult)
    (planJson : String) : Option State := do
  let handler ← state.handlers[index]?
  if handler.publishing? = some 0 ∧ Publishes codec handler batch result ∧
      codec.readPlan planJson = some (conflictPlan batch) then
    pure (state.update index
      { handler with
        phase := .retaining (conflictPlan batch) planJson (pendingLeases batch) })
  else none

def refuse (index : Nat) (problem : UploadProblem) : Option State := do
  let handler ← state.handlers[index]?
  if handler.canRefuse then
    pure (state.update index
      { handler with phase := .failing { problem with uploadId := handler.uploadId } })
  else none

def drop (index : Nat) : Option State := do
  let handler ← state.handlers[index]?
  pure (state.update index { handler with dropped := true })

def confirm : Except UploadProblem Confirmation → State
  | .error _ => state
  | .ok confirmation => { state with confirmations := state.confirmations ++ [confirmation] }

def finish (index : Nat) : State :=
  { state with confirmations := state.confirmations.eraseIdx index }

/-- The store has run the confirmation's batch. -/
def confirmed (index : Nat) (confirmation : Confirmation) : Except Error Unit × Store → State
  | (.ok _, store) =>
    { state.finish index with
      store := store
      commits := state.commits ++
        [(confirmation.key, confirmation.batch.filled.uploadResultJson)] }
  | (.error error, store) =>
    if error = .derivedMetadataChanged ∧ confirmation.attempts + 1 < maxAttempts then
      { state with
        store := store
        confirmations := state.confirmations.set index
          { confirmation with attempts := confirmation.attempts + 1, replanning := true } }
    else { state.finish index with store := store }

def apply (lib : Libraries) (index : Nat) (now : Time) : Option State := do
  let confirmation ← state.confirmations[index]?
  if confirmation.replanning then none
  else
    pure (state.confirmed index confirmation
      (applyArtifactBatch lib now confirmation.key confirmation.batch state.store))

/-- A package's name splits into its group and its artifact. -/
def replan (codec : Codec) (index : Nat) (mutableCas : List ArtifactCAS)
    (derived : List UploadedArtifact) (resultJson : String) : Option State := do
  let confirmation ← state.confirmations[index]?
  if confirmation.replanning ∧
      (confirmation.batch.publication.packageName.splitOn ":").length = 2 ∧
      confirmation.Derives codec derived resultJson then
    pure { state with
      confirmations := state.confirmations.set index
        (confirmation.replan mutableCas resultJson) }
  else none

def act (uploader : Uploader) : Event → Option State
  | .receive repository principalName principalSource idempotencyKey slot uploadId =>
    state.receive ⟨repository.id, principalSource, principalName, idempotencyKey⟩
      (admission repository idempotencyKey slot uploadId)
  | .run index now => state.run uploader index now
  | .fails index => state.fails index
  | .commit index batch result => state.commit uploader.codec index batch result
  | .retain index batch result planJson => state.retain uploader.codec index batch result planJson
  | .refuse index problem => state.refuse index problem
  | .drop index => state.drop index
  | .restart => some { state with handlers := [], confirmations := [] }
  | .confirm now repoId uploadId principalName principalSource =>
    some (state.confirm (confirmRequest uploader.codec.plans now repoId principalName
      principalSource (getUploadRequestById uploader.lib uploadId state.store).1))
  | .apply index now => state.apply uploader.lib index now
  | .replan index mutableCas derived resultJson =>
    state.replan uploader.codec index mutableCas derived resultJson
  | .abandon index => some (state.finish index)
  | .request now request =>
    if request.outside then
      some { state with store := runRequest uploader.lib now state.store request }
    else none

end State

def Initial (state : State) : Prop := state = { store := Store.empty }

def Step (uploader : Uploader) (state : State) (event : Event) (after : State) : Prop :=
  state.act uploader event = some after

open List Handler

section

open KeyedTable Registry UploadRequestRow

/-! ## The ledger of commits -/

/-- The key cannot be reserved or committed any more. -/
def Consumed (registry : Registry) (key : UploadRequestKey) : Prop :=
  (∃ row, registry.uploadRequests.find? key = some row ∧ row.state = .committed) ∨
    registry.uploadRequests.find? key = none ∧ key.repoId ≤ registry.lastRepositoryId ∧
      key.repoId ∉ registry.repositoryIds

/-- The text is that of a plan which was made for a result. -/
def Retained (codec : Codec) (planJson : String) : Prop :=
  ∃ batch result, codec.readPlan planJson = some (conflictPlan batch) ∧
    codec.Writes batch.uploadResultJson result

structure Ledger (codec : Codec) (registry : Registry)
    (commits : List (UploadRequestKey × String)) :
    Prop where
  sound : registry.Sound
  planned : ∀ row ∈ registry.uploadRequests.rows, row.state = .conflict →
    Retained codec row.planJson
  stored : ∀ row ∈ registry.uploadRequests.rows, row.state = .committed →
    (row.key, row.resultJson) ∈ commits
  results : ∀ entry ∈ commits, ∃ result, codec.Writes entry.2 result
  consumed : ∀ entry ∈ commits, Consumed registry entry.1
  once : (commits.map Prod.fst).Nodup

variable {codec : Codec} {registry after : Registry} {commits : List (UploadRequestKey × String)}
  {row : UploadRequestRow}

section Consumed

variable {key : UploadRequestKey}

theorem Consumed.outside (consumed : Consumed registry key) (sound : registry.Sound)
    (changes : registry.OutsideChange after) : Consumed after key := by
  cases changes with
  | same => exact consumed
  | createRepository _ listed =>
    rcases consumed with committed | ⟨free, given, gone⟩
    · exact .inl committed
    · refine .inr ⟨free, Int.le_trans given (Int.le_add_one (Int.le_refl _)), ?_⟩
      intro member
      rcases (listed _).mp member with old | new
      · exact gone old
      · omega
  | deleteRepository id =>
    unfold Consumed
    rw [find?_deleteWhere]
    rcases consumed with ⟨row, found, committed⟩ | ⟨free, given, gone⟩
    · obtain ⟨member, rfl⟩ := find?_eq_some_iff.mp found
      rw [found]
      by_cases same : row.key.repoId = id
      · have held := sound.held row member
        refine .inr ⟨by simp [same], sound.listed _ held, ?_⟩
        simp [same]
      · exact .inl ⟨row, by simp [same], committed⟩
    · rw [free]
      exact .inr ⟨rfl, given, fun member => gone (mem_filter.mp member).1⟩
  | cancel =>
    rcases consumed with ⟨row, found, committed⟩ | ⟨free, given, gone⟩
    · refine .inl ⟨row, find?_settle_of_not found ?_, committed⟩
      rintro ⟨-, conflict⟩
      cases committed.symm.trans conflict
    · exact .inr ⟨find?_settle_eq_none.mpr free, given, gone⟩

theorem Consumed.reserve (consumed : Consumed registry key)
    (free : registry.uploadRequests.find? row.key = none)
    (held : row.key.repoId ∈ registry.repositoryIds) : Consumed (registry.reserve row) key := by
  have other : key ≠ row.key := by
    rintro rfl
    rcases consumed with ⟨taken, found, -⟩ | ⟨-, -, gone⟩
    · cases free.symm.trans found
    · exact gone held
  unfold Consumed Registry.reserve
  rw [find?_upsert_of_ne _ _ _ _ other]
  exact consumed

theorem Consumed.settle (consumed : Consumed registry key) {uploadId : String}
    {expected : UploadState} {change : UploadRequestRow → UploadRequestRow}
    {keeps : ∀ row, (change row).key = row.key} (uncommitted : expected ≠ .committed) :
    Consumed (registry.settle uploadId expected change keeps) key := by
  rcases consumed with ⟨row, found, committed⟩ | ⟨free, given, gone⟩
  · refine .inl ⟨row, find?_settle_of_not found ?_, committed⟩
    rintro ⟨-, same⟩
    exact uncommitted (same.symm.trans committed)
  · exact .inr ⟨find?_settle_eq_none.mpr free, given, gone⟩

end Consumed

namespace Ledger

section

variable (ledger : Ledger codec registry commits)
include ledger

theorem change (sound : after.Sound)
    (rows : ∀ row ∈ after.uploadRequests.rows, row ∈ registry.uploadRequests.rows ∨
      row.state ≠ .committed ∧ (row.state = .conflict → Retained codec row.planJson))
    (consumed : ∀ key, Consumed registry key → Consumed after key) :
    Ledger codec after commits where
  sound := sound
  planned := by
    intro row member conflict
    rcases rows row member with old | ⟨-, retained⟩
    · exact ledger.planned row old conflict
    · exact retained conflict
  stored := by
    intro row member committed
    rcases rows row member with old | ⟨uncommitted, -⟩
    · exact ledger.stored row old committed
    · exact absurd committed uncommitted
  results := ledger.results
  consumed := fun entry member => consumed entry.1 (ledger.consumed entry member)
  once := ledger.once

theorem outside (changes : registry.OutsideChange after) : Ledger codec after commits := by
  refine ledger.change (ledger.sound.outside changes) ?_ fun _ consumed =>
    consumed.outside ledger.sound changes
  intro row member
  rcases changes.mem member with old | ⟨-, -, -, failed⟩
  · exact .inl old
  · simp [failed]

theorem reserve (free : registry.uploadRequests.find? row.key = none)
    (unused : ∀ other ∈ registry.uploadRequests.rows, other.uploadId ≠ row.uploadId)
    (held : row.key.repoId ∈ registry.repositoryIds) (receiving : row.state = .receiving) :
    Ledger codec (registry.reserve row) commits := by
  refine ledger.change (ledger.sound.reserve unused held) ?_ fun _ consumed =>
    consumed.reserve free held
  intro other member
  rcases mem_putUpload member with old | rfl
  · exact .inl old
  · simp [receiving]

variable {lib : Libraries} {now : Time}

theorem move {next : UploadState} {planJson : String} (uploadId : String) (expiresAt : Time)
    (uncommitted : next ≠ .committed) (plan : next = .conflict → Retained codec planJson) :
    Ledger codec (registry.settle uploadId .receiving
      (move lib now next planJson expiresAt) fun _ => rfl) commits := by
  refine ledger.change (@Registry.Sound.settle _ ledger.sound uploadId .receiving
    (UploadRequestRow.move lib now next planJson expiresAt) (fun _ => rfl) fun _ => rfl) ?_
    fun _ consumed => consumed.settle (by simp)
  intro row member
  rcases mem_settle member with ⟨old, -⟩ | ⟨old, -, -, -, rfl⟩
  · exact .inl old
  · exact .inr ⟨uncommitted, plan⟩

theorem commit {key : UploadRequestKey} {json : String} {result : ArtifactUploadResult}
    (writes : codec.Writes json result) (found : registry.uploadRequests.find? key = some row)
    (uncommitted : row.state ≠ .committed) :
    Ledger codec (registry.settle row.uploadId row.state
      (commit lib now json) fun _ => rfl)
      (commits ++ [(key, json)]) := by
  obtain ⟨member, rfl⟩ := find?_eq_some_iff.mp found
  constructor
  · exact @Registry.Sound.settle _ ledger.sound row.uploadId row.state
      (UploadRequestRow.commit lib now json) (fun _ => rfl) fun _ => rfl
  · intro other otherMember conflict
    rcases mem_settle otherMember with ⟨old, -⟩ | ⟨old, -, -, -, rfl⟩
    · exact ledger.planned other old conflict
    · cases conflict
  · intro other otherMember isCommitted
    rcases mem_settle otherMember with ⟨old, -⟩ | ⟨old, oldMember, same, -, rfl⟩
    · exact mem_append_left _ (ledger.stored other old isCommitted)
    · cases ledger.sound.unique old oldMember row member same
      exact mem_append_right _ (mem_singleton_self _)
  · intro entry entryMember
    rcases mem_append.mp entryMember with old | new
    · exact ledger.results entry old
    · cases mem_singleton.mp new
      exact ⟨result, writes⟩
  · intro entry entryMember
    rcases mem_append.mp entryMember with old | new
    · exact (ledger.consumed entry old).settle uncommitted
    · cases mem_singleton.mp new
      refine .inl ⟨UploadRequestRow.commit lib now json row, ?_, rfl⟩
      apply (find?_updateWhere registry.uploadRequests _ (UploadRequestRow.commit lib now json)
        (fun _ => rfl) row.key).trans
      rw [found, Option.map_some, updated, if_pos (by simp)]
  · rw [map_append, map_singleton]
    apply nodup_append.mpr
    refine ⟨ledger.once, nodup_singleton _, ?_⟩
    rintro used usedMember _ (keyMember : _ ∈ [row.key]) rfl
    cases mem_singleton.mp keyMember
    obtain ⟨entry, entryMember, same⟩ := mem_map.mp usedMember
    -- The key is used up, so its request would be committed or gone.
    rcases ledger.consumed entry entryMember with ⟨other, otherFound, isCommitted⟩ | ⟨free, -⟩
    · rw [same, found] at otherFound
      cases otherFound
      exact uncommitted isCommitted
    · rw [same, found] at free
      cases free

end

end Ledger

end

/-- Whether the handler has its key reserved and is not done. -/
def Phase.working : Phase → Bool
  | .publishing _ | .committing _ _ _ | .refused | .retaining _ _ _ | .failing _ => true
  | _ => false

def Handler.Working (handler : Handler) : Prop :=
  handler.dropped = false ∧ handler.phase.working = true

instance (handler : Handler) : Decidable handler.Working :=
  inferInstanceAs (Decidable (_ ∧ _))

/-- What the handler commits or retains is a batch of its own upload. -/
def Handler.Sensible (codec : Codec) (handler : Handler) : Prop :=
  match handler.phase with
  | .committing _ batch result => State.Publishes codec handler batch result
  | .retaining _ planJson _ => Retained codec planJson
  | _ => True

/-- The upload's request is not being received. -/
def Settled (registry : Registry) (uploadId : String) : Prop :=
  ∀ row ∈ registry.uploadRequests.rows, row.uploadId = uploadId → row.state ≠ .receiving

instance (registry : Registry) (uploadId : String) : Decidable (Settled registry uploadId) :=
  inferInstanceAs (Decidable (∀ _ ∈ _, _))

structure Attendance (codec : Codec) (registry : Registry) (handlers : List Handler)
    (issued : List String) : Prop where
  issuedRows : ∀ row ∈ registry.uploadRequests.rows, row.uploadId ∈ issued
  issuedHandlers : ∀ handler ∈ handlers, handler.uploadId ∈ issued
  distinct : (handlers.map Handler.uploadId).Nodup
  unreserved : ∀ handler ∈ handlers, handler.phase = .reserving →
    handler.dropped = false ∧ ∀ row ∈ registry.uploadRequests.rows, row.uploadId ≠ handler.uploadId
  worked : ∀ row ∈ registry.uploadRequests.rows, row.state = .receiving →
    ∃ handler ∈ handlers, handler.uploadId = row.uploadId ∧ handler.Working
  sensible : ∀ handler ∈ handlers, handler.Sensible codec

namespace Attendance

variable {codec : Codec} {registry after : Registry} {handlers : List Handler}
  {issued : List String}

section

variable (attendance : Attendance codec registry handlers issued)
include attendance

theorem eq_of_uploadId {left right : Handler} (leftMember : left ∈ handlers)
    (rightMember : right ∈ handlers) (same : left.uploadId = right.uploadId) : left = right :=
  inj_on_of_nodup_map attendance.distinct leftMember rightMember same

variable {handler : Handler}

theorem settled (member : handler ∈ handlers) (idle : ¬handler.Working) :
    Settled registry handler.uploadId := by
  intro row rowMember same receiving
  obtain ⟨other, otherMember, otherSame, working⟩ :=
    attendance.worked row rowMember receiving
  have sameHandler := attendance.eq_of_uploadId otherMember member (otherSame.trans same)
  exact idle (sameHandler ▸ working)

theorem change (rows : ∀ row ∈ after.uploadRequests.rows, ∃ old ∈ registry.uploadRequests.rows,
      old.uploadId = row.uploadId ∧ (row.state = .receiving → old.state = .receiving)) :
    Attendance codec after handlers issued := by
  refine { attendance with issuedRows := ?_, unreserved := ?_, worked := ?_ }
  · intro row member
    obtain ⟨old, oldMember, same, -⟩ := rows row member
    exact same ▸ attendance.issuedRows old oldMember
  · intro handler member reserving
    obtain ⟨kept, unreserved⟩ := attendance.unreserved handler member reserving
    refine ⟨kept, ?_⟩
    intro row rowMember same
    obtain ⟨old, oldMember, oldSame, -⟩ := rows row rowMember
    exact unreserved old oldMember (oldSame.trans same)
  · intro row member receiving
    obtain ⟨old, oldMember, same, still⟩ := rows row member
    rw [← same]
    exact attendance.worked old oldMember (still receiving)

variable {index : Nat}

theorem update {old new : Handler} (found : handlers[index]? = some old)
    (same : new.uploadId = old.uploadId)
    (started : new.phase ≠ .reserving) (sensible : new.Sensible codec)
    (works : new.Working ∨ Settled registry old.uploadId) :
    Attendance codec registry (handlers.set index new) issued := by
  have oldMember := mem_of_getElem? found
  constructor
  · exact attendance.issuedRows
  · intro handler member
    rcases mem_or_eq_of_mem_set member with before | rfl
    · exact attendance.issuedHandlers handler before
    · exact same ▸ attendance.issuedHandlers old oldMember
  · obtain ⟨inside, rfl⟩ := List.getElem?_eq_some_iff.mp found
    have unchanged : (handlers.set index new).map uploadId = handlers.map uploadId := by
      rw [map_set, same, ← getElem_map uploadId, set_getElem_self]
      simpa using inside
    rw [unchanged]
    exact attendance.distinct
  · intro handler member reserving
    rcases mem_or_eq_of_mem_set member with before | rfl
    · exact attendance.unreserved handler before reserving
    · exact absurd reserving started
  · intro row member receiving
    obtain ⟨handler, handlerMember, handlerSame, working⟩ :=
      attendance.worked row member receiving
    by_cases isOld : handler = old
    · subst isOld
      rcases works with newWorks | settles
      · refine ⟨new, ?_, same.trans handlerSame, newWorks⟩
        have inside := (List.getElem?_eq_some_iff.mp found).1
        exact mem_set inside new
      · exact absurd receiving (settles row member handlerSame.symm)
    · refine ⟨handler, ?_, handlerSame, working⟩
      obtain ⟨position, positionEq⟩ := mem_iff_getElem?.mp handlerMember
      apply mem_iff_getElem?.mpr
      refine ⟨position, ?_⟩
      rw [getElem?_set_ne, positionEq]
      rintro rfl
      exact isOld (Option.some.inj (positionEq.symm.trans found))
  · intro handler member
    rcases mem_or_eq_of_mem_set member with before | rfl
    · exact attendance.sensible handler before
    · exact sensible

theorem advance (found : handlers[index]? = some handler) {phase : Phase}
    (started : phase ≠ .reserving)
    (sensible : Handler.Sensible codec { handler with phase := phase })
    (works : phase.working ∨ Settled registry handler.uploadId) :
    Attendance codec registry (handlers.set index (handler.advance phase)) issued := by
  unfold Handler.advance
  by_cases dropped : handler.dropped
  · rw [if_pos dropped]
    refine attendance.update found (by rfl) ?_ trivial (.inr ?_)
    · intro reserving
      cases reserving
    · apply attendance.settled (mem_of_getElem? found)
      rintro ⟨kept, -⟩
      cases dropped.symm.trans kept
  · rw [if_neg dropped]
    refine attendance.update found (by rfl) started sensible ?_
    apply works.imp_left
    intro working
    exact ⟨by simpa using dropped, working⟩

/-- A new handler, under an identifier that was never given out. -/
theorem enter (key : UploadRequestKey) {uploadId : String} (fresh : uploadId ∉ issued) :
    Attendance codec registry
      (handlers ++ [{ key := key, uploadId := uploadId, phase := .reserving }])
      (uploadId :: issued) := by
  constructor
  · intro row member
    exact mem_cons_of_mem _ (attendance.issuedRows row member)
  · intro handler member
    rcases mem_append.mp member with old | new
    · exact mem_cons_of_mem _ (attendance.issuedHandlers handler old)
    · cases mem_singleton.mp new
      exact mem_cons_self
  · rw [map_append, map_singleton]
    apply nodup_append.mpr
    refine ⟨attendance.distinct, nodup_singleton _, ?_⟩
    rintro used usedMember _ newMember rfl
    cases mem_singleton.mp newMember
    obtain ⟨handler, member, same⟩ := mem_map.mp usedMember
    have given := attendance.issuedHandlers handler member
    rw [same] at given
    exact fresh given
  · intro handler member reserving
    rcases mem_append.mp member with old | new
    · exact attendance.unreserved handler old reserving
    · cases mem_singleton.mp new
      refine ⟨rfl, ?_⟩
      rintro row rowMember rfl
      exact fresh (attendance.issuedRows row rowMember)
  · intro row member receiving
    obtain ⟨handler, handlerMember, same, working⟩ := attendance.worked row member receiving
    exact ⟨handler, mem_append_left _ handlerMember, same, working⟩
  · intro handler member
    rcases mem_append.mp member with old | new
    · exact attendance.sensible handler old
    · cases mem_singleton.mp new
      trivial

theorem reserve (found : handlers[index]? = some handler)
    (reserving : handler.phase = .reserving) {row : UploadRequestRow}
    (same : row.uploadId = handler.uploadId) :
    Attendance codec (registry.reserve row) (handlers.set index (handler.advance (.publishing 0)))
      issued := by
  have member := mem_of_getElem? found
  have kept := (attendance.unreserved handler member reserving).1
  have works : (handler.advance (.publishing 0)).Working := by
    simp [Handler.advance, Handler.Working, kept, Phase.working]
  have advanced : Attendance codec registry
      (handlers.set index (handler.advance (.publishing 0))) issued := by
    refine attendance.advance found ?_ trivial (.inl rfl)
    intro reserving
    cases reserving
  refine { advanced with issuedRows := ?_, unreserved := ?_, worked := ?_ }
  · intro other otherMember
    rcases mem_putUpload otherMember with old | rfl
    · exact attendance.issuedRows other old
    · exact same ▸ attendance.issuedHandlers handler member
  · intro other otherMember otherReserving
    obtain ⟨otherKept, unreserved⟩ := advanced.unreserved other otherMember otherReserving
    refine ⟨otherKept, ?_⟩
    intro stored storedMember storedSame
    rcases mem_putUpload storedMember with old | rfl
    · exact unreserved stored old storedSame
    · -- Only this handler has the upload, and it is publishing now.
      have inside := (List.getElem?_eq_some_iff.mp found).1
      have isThis := advanced.eq_of_uploadId otherMember (mem_set inside _)
        (storedSame.symm.trans same)
      rw [isThis, Handler.advance, kept] at otherReserving
      cases otherReserving
  · intro other otherMember receiving
    rcases mem_putUpload otherMember with old | rfl
    · exact advanced.worked other old receiving
    · have inside := (List.getElem?_eq_some_iff.mp found).1
      exact ⟨_, mem_set inside _, same.symm, works⟩

end

end Attendance

end Addons.UploadHandling
