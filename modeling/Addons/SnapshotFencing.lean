import Addons.MetaSync

/-!
# The fence at the snapshot key

The fence recorded at the snapshot key never decreases.
-/

namespace Addons.SnapshotFencing

open ConditionalStore SnapshotMetadata WalSegments MetaSync TransitionSystem SnapshotPut List

variable {Id : Type} {key : String} {codec : SegmentCodec}

def recordedFence (state : State Id) : Option Int64 :=
  state.snapshot.value?.map fun metadata => parseFence metadata.entries

/-- What a PUT with this fence may replace: no object, or one of an equal or older term. -/
def NotNewer (fence : Int64) (value : Option Metadata) : Prop :=
  ∀ metadata ∈ value, parseFence metadata.entries ≤ fence

/-- A process inside `put_fenced` uses the fence it holds. -/
def StageFence (process : Process) : Prop :=
  match process.stage with
  | .publishing fence _ _ => fence = process.fence
  | .awaiting put => put.fence = process.fence
  | _ => True

/-- Every PUT on its way is guarded by the comparison made for it, and the PUTs that
took effect did so in the order of their fences. -/
structure Fenced (state : State Id) : Prop where
  guarded : ∀ request ∈ state.puts,
    state.snapshot.Guarded request.condition (NotNewer request.put.fence)
  ordered : state.history.Pairwise fun newer older => older.fence ≤ newer.fence
  newest : ∀ put ∈ state.history.head?, state.snapshot.value? = some put.metadata
  stage : ∀ id, StageFence (state.process id)

theorem stageFence_of_advance {process after : Process} (advances : Advance codec process after) :
    StageFence after := by
  cases advances with
  | dropSuperseded uploading => simp [StageFence, uploading]
  | demote idle => simp [StageFence, idle]
  | listFailed | cleanupDone =>
    cases modeEq : process.mode <;> simp [StageFence, Process.resume, modeEq]
  | _ => simp [StageFence]

variable {fence : Int64}

theorem stageFence_promoted {process : Process} {outcome : Promotion}
    (idle : process.stage = .idle) : StageFence (process.promoted fence outcome) := by
  cases outcome <;> simp [Process.promoted, StageFence, idle]

theorem stageFence_putSucceeded (process : Process) (put : SnapshotPut) :
    StageFence (process.putSucceeded put) := by
  unfold Process.putSucceeded
  cases put.base with
  | none => cases put.cleanup <;> simp [StageFence]
  | some => simp [StageFence]

variable {state : State Id}

theorem Fenced.initially (initial : Initial state) : Fenced state where
  guarded := by simp [initial.puts]
  ordered := by simp [initial.history]
  newest := by simp [initial.history]
  stage := by
    intro id
    obtain ⟨_, processEq⟩ := initial.process id
    simp [processEq, StageFence]

theorem Fenced.frame {after : State Id} (fenced : Fenced state)
    (snapshotEq : after.snapshot = state.snapshot)
    (sent : ∀ request ∈ after.puts, request ∈ state.puts)
    (historyEq : after.history = state.history) (stage : ∀ id, StageFence (after.process id)) :
    Fenced after where
  guarded := by
    intro request member
    rw [snapshotEq]
    exact fenced.guarded request (sent request member)
  ordered := historyEq ▸ fenced.ordered
  newest := by
    rw [historyEq, snapshotEq]
    exact fenced.newest
  stage := stage

theorem Fenced.history_le (fenced : Fenced state)
    (notNewer : NotNewer fence state.snapshot.value?) :
    ∀ put ∈ state.history, put.fence ≤ fence := by
  intro put member
  cases historyEq : state.history with
  | nil => simp [historyEq] at member
  | cons last =>
    have lastLe : last.fence ≤ fence := by
      have recorded := notNewer last.metadata (fenced.newest last (by simp [historyEq]))
      simpa [metadata, putMetadata] using recorded
    have ordered := fenced.ordered
    rw [historyEq] at member ordered
    rcases mem_cons.mp member with rfl | member
    · exact lastLe
    · exact Int64.le_trans ((pairwise_cons.mp ordered).1 put member) lastLe

theorem Fenced.landPut (fenced : Fenced state) {request : InFlight} (sent : request ∈ state.puts)
    (accepted : state.snapshot.accepts request.condition) : Fenced (state.landPut request) where
  guarded := by
    intro other member
    exact Cell.guarded_write (fenced.guarded other (mem_of_mem_erase member)) _
  ordered := by
    refine pairwise_cons.mpr ⟨?_, fenced.ordered⟩
    exact fenced.history_le ((fenced.guarded request sent).2 accepted)
  newest := by simp [State.landPut]
  stage := fenced.stage

structure Advanced (earlier later : State Id) : Prop where
  history : ∀ put ∈ earlier.history, put ∈ later.history
  recorded : ∀ fence ∈ recordedFence earlier, ∃ newer ∈ recordedFence later, fence ≤ newer

theorem Advanced.trans {first second third : State Id} (before : Advanced first second)
    (after : Advanced second third) : Advanced first third where
  history := fun put member => after.history put (before.history put member)
  recorded := by
    intro fence recorded
    obtain ⟨middle, middleRecorded, middleLe⟩ := before.recorded fence recorded
    obtain ⟨last, lastRecorded, lastLe⟩ := after.recorded middle middleRecorded
    exact ⟨last, lastRecorded, Int64.le_trans middleLe lastLe⟩

variable [DecidableEq Id]

theorem Fenced.stage_set (fenced : Fenced state) (id : Id) {after : Process}
    (held : StageFence after) (other : Id) : StageFence ((state.set id after).process other) := by
  by_cases same : other = id
  · subst same
    simpa [State.set] using held
  · simpa [State.set, same] using fenced.stage other

theorem Fenced.headPasses (fenced : Fenced state) {id : Id}
    {base : Option (String × String)} {cleanup : Bool}
    (publishing : (state.process id).stage = .publishing fence base cleanup)
    (passes : ∀ stored ∈ state.snapshot.value?, ∃ view, stored.Lists view ∧
      ¬(state.process id).fence < parseFence view) :
    Fenced (state.sendPut id
      { state.process id with stage := .awaiting ⟨state.nextNumber, fence, base, cleanup⟩ }
      ⟨⟨state.nextNumber, fence, base, cleanup⟩, state.snapshot.unchanged⟩) := by
  have loaded : fence = (state.process id).fence := by
    have held := fenced.stage id
    rw [StageFence, publishing] at held
    exact held
  constructor
  case guarded =>
    intro request member
    rcases mem_cons.mp member with rfl | member
    · rw [loaded]
      apply Cell.guarded_unchanged
      intro stored found
      obtain ⟨_, lists, notOlder⟩ := passes stored found
      rw [lists.parseFence_eq] at notOlder
      exact Int64.not_lt.mp notOlder
    · exact fenced.guarded request member
  case ordered => exact fenced.ordered
  case newest => exact fenced.newest
  case stage =>
    apply fenced.stage_set id
    exact loaded

variable {after : State Id} {event : Event Id}

theorem Fenced.step (fenced : Fenced state)
    (taken : Step key codec state event after) : Fenced after := by
  have keepsStage : ∀ id {after : Process}, StageFence after →
      ∀ other, StageFence ((state.set id after).process other) := fun id _ held =>
    fenced.stage_set id held
  cases taken with
  | advance advances =>
    exact fenced.frame rfl (fun _ sent => sent) rfl (keepsStage _ (stageFence_of_advance advances))
  | startGeneration | sendSegment | segmentShipped | headRefuses | list | delete =>
    exact fenced.frame rfl (fun _ sent => sent) rfl (keepsStage _ trivial)
  | headPasses publishing passes => exact fenced.headPasses publishing passes
  | putSucceeds =>
    exact fenced.frame rfl (fun _ sent => sent) rfl (keepsStage _ (stageFence_putSucceeded _ _))
  | promote idle =>
    exact fenced.frame rfl (fun _ sent => sent) rfl (keepsStage _ (stageFence_promoted idle))
  | landPut sent accepted => exact fenced.landPut sent accepted
  | refusePut => exact fenced.frame rfl (fun _ sent => mem_of_mem_erase sent) rfl fenced.stage
  | landSegment | refuseSegment | landDelete =>
    exact fenced.frame rfl (fun _ sent => sent) rfl fenced.stage

theorem fenced_of_reachable (reached : Reachable Initial (Step key codec) (fun _ _ => True) state) :
    Fenced state :=
  reached.invariant (fun _ initial => Fenced.initially initial)
    fun _ _ _ fenced _ taken => fenced.step taken

theorem Fenced.advanced (fenced : Fenced state)
    (taken : Step key codec state event after) : Advanced state after := by
  cases taken with
  | @landPut request sent accepted =>
    constructor
    · intro _ member
      exact mem_cons_of_mem _ member
    · intro _ recorded
      obtain ⟨stored, storedEq, rfl⟩ := Option.map_eq_some_iff.mp recorded
      have replaced := (fenced.guarded request sent).2 accepted stored storedEq
      refine ⟨request.put.fence, ?_, replaced⟩
      simp [recordedFence, State.landPut, metadata, putMetadata]
  | _ =>
    exact ⟨fun _ member => member, fun fence recorded => ⟨fence, recorded, Int64.le_refl fence⟩⟩

theorem advanced_of_reachable {earlier later : State Id}
    (reached : Reachable Initial (Step key codec) (fun _ _ => True) earlier)
    (continued : Reachable (· = earlier) (Step key codec) (fun _ _ => True) later) :
    Fenced later ∧ Advanced earlier later := by
  induction continued with
  | start begins =>
    subst begins
    exact ⟨fenced_of_reachable reached, fun _ member => member,
      fun fence recorded => ⟨fence, recorded, Int64.le_refl fence⟩⟩
  | next _ _ taken ih => exact ⟨ih.1.step taken, ih.2.trans (ih.1.advanced taken)⟩

/-- Fencing is monotone: from any moment of any run on, the recorded fence does not
decrease, and once a PUT took effect, none of a lower fence is accepted. The fence of a
PUT is the one its process holds. -/
theorem snapshotFence_monotone {earlier later : State Id}
    (reached : Reachable Initial (Step key codec) (fun _ _ => True) earlier)
    (continued : Reachable (· = earlier) (Step key codec) (fun _ _ => True) later) :
    (∀ fence ∈ recordedFence earlier, ∃ newer ∈ recordedFence later, fence ≤ newer) ∧
      (∀ put ∈ earlier.history, ∀ request ∈ later.puts,
        later.snapshot.accepts request.condition = true → put.fence ≤ request.put.fence) ∧
      ∀ id put, (later.process id).stage = .awaiting put →
        put.fence = (later.process id).fence := by
  obtain ⟨fenced, advanced⟩ := advanced_of_reachable reached continued
  refine ⟨advanced.recorded, ?_, ?_⟩
  · intro put landed request sent accepted
    have notNewer := (fenced.guarded request sent).2 accepted
    exact fenced.history_le notNewer put (advanced.history put landed)
  · intro id _ awaiting
    have held := fenced.stage id
    rw [StageFence, awaiting] at held
    exact held

def emptyBucket : State Bool where
  snapshot := .empty
  segments := fun _ _ => none
  puts := []
  segmentPuts := []
  deletes := []
  process := fun _ => { mode := .snapshot }
  nextNumber := 0
  history := []
  uploaded := fun _ _ => none
  minted := fun _ => none

def leader (fence : Int64) (stage : Stage) : Process where
  mode := .snapshot
  fence := fence
  isLeader := true
  stage := stage

def upload (number : Nat) (fence : Int64) : SnapshotPut := ⟨number, fence, none, true⟩

/-- The first process leads under fence 1 and its snapshot is in the bucket, but the
response was not. -/
def firstWritten : State Bool :=
  ((((emptyBucket.set false (leader 1 .idle)).set false
    (leader 1 (.publishing 1 none true))).sendPut false
    (leader 1 (.awaiting (upload 0 1))) ⟨upload 0 1, .ifNoneMatch⟩).landPut
    ⟨upload 0 1, .ifNoneMatch⟩)

/-- The second process leads under fence 2 and its snapshot is on the way. -/
def secondSent : State Bool :=
  ((firstWritten.set true (leader 2 .idle)).set true
    (leader 2 (.publishing 2 none true))).sendPut true
    (leader 2 (.awaiting (upload 1 2))) ⟨upload 1 2, .ifMatch 0⟩

theorem firstWritten_reachable :
    Reachable Initial (Step "meta.db" storedCodec) (fun _ _ => True) firstWritten := by
  have begun : Reachable Initial (Step "meta.db" storedCodec) (fun _ _ => True) emptyBucket :=
    .start ⟨rfl, rfl, rfl, rfl, fun _ => rfl, fun _ => ⟨.snapshot, rfl⟩⟩
  have promoted := begun.next trivial
    (@Step.promote _ _ _ _ emptyBucket false 1 .emptyBucket rfl (fun _ => rfl))
  have publishing := promoted.next trivial
    (@Step.advance _ _ _ _ _ false _ (.beginSnapshot rfl rfl rfl true))
  have sent := publishing.next trivial
    (@Step.headPasses _ _ _ _ _ false 1 none true rfl (by rintro _ ⟨⟩))
  exact sent.next trivial (.landPut mem_cons_self rfl)

theorem secondSent_reachable :
    Reachable (· = firstWritten) (Step "meta.db" storedCodec) (fun _ _ => True) secondSent := by
  have promoted : Reachable (· = firstWritten) (Step "meta.db" storedCodec) (fun _ _ => True)
      (firstWritten.set true (leader 2 .idle)) :=
    .next (.start rfl) trivial
      (@Step.promote _ _ _ _ firstWritten true 2 .swapped rfl Promotion.noConfusion)
  have publishing := promoted.next trivial
    (@Step.advance _ _ _ _ _ true _ (.beginSnapshot rfl rfl rfl true))
  refine publishing.next trivial (@Step.headPasses _ _ _ _ _ true 2 none true rfl ?_)
  rintro _ ⟨⟩
  exact ⟨_, List.Perm.refl _, by simp [metadata, putMetadata]; decide⟩

theorem snapshotFence_monotone_takeover :
    recordedFence firstWritten = some 1 ∧ firstWritten.history = [upload 0 1] ∧
      secondSent.puts = [⟨upload 1 2, .ifMatch 0⟩] ∧
      ((∀ fence ∈ recordedFence firstWritten,
          ∃ newer ∈ recordedFence secondSent, fence ≤ newer) ∧
        (∀ put ∈ firstWritten.history, ∀ request ∈ secondSent.puts,
          secondSent.snapshot.accepts request.condition = true →
            put.fence ≤ request.put.fence) ∧
        ∀ id put, (secondSent.process id).stage = .awaiting put →
          put.fence = (secondSent.process id).fence) := by
  refine ⟨?_, rfl, rfl, snapshotFence_monotone firstWritten_reachable secondSent_reachable⟩
  simp [recordedFence, firstWritten, State.landPut, metadata, putMetadata, upload]

end Addons.SnapshotFencing
