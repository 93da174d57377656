import Addons.SupersededGenerations

/-!
# Generations in the bucket

What each step of a process keeps of the generations; the bucket changes only by stored
segments and by deletes.
-/

namespace Addons.GenerationRetention

open ConditionalStore SnapshotMetadata WalShipper WalSegments MetaSync SnapshotFencing
  SegmentOrder SupersededGenerations TransitionSystem

variable {Id : Type} {owner : Int64 → Id} {state after : State Id}

/-- All generations started under `fence` but `keep` are dead. -/
def Retired (state : State Id) (fence : Int64) (keep : Option String) : Prop :=
  ∀ id, state.minted id = some fence → keep ≠ some id → Dead state id

/-- A cleanup under `fence` may delete the segments of `id` if they are not newer. -/
def Condemned (state : State Id) (fence : Int64) (id : String) : Prop :=
  ∃ started, state.minted id = some started ∧ (started ≤ fence → Dead state id)

def StageSound (state : State Id) (process : Process) : Prop :=
  match process.stage with
  | .publishing _ base _ => currentId process.shipper = base.map Prod.fst
  | .awaiting put => currentId process.shipper = put.names ∧
      (put ∈ state.history → Retired state process.fence put.names)
  | .shipping | .uploading => process.mode = .wal
  | .sendingSegment entry => process.mode = .wal ∧
      ∃ rest, process.shipper.pending = entry :: rest
  | .listing keep => currentId process.shipper = keep ∧
      (∃ put ∈ state.history, put.fence = process.fence) ∧ Retired state process.fence keep
  | .deleting keys => ∀ entry ∈ keys, Condemned state process.fence entry.1
  | _ => True

structure ProcessSound (owner : Int64 → Id) (state : State Id) (id : Id) (process : Process) :
    Prop where
  owns : process.isLeader = true ∨ process.stage ≠ .idle ∨ currentId process.shipper ≠ none →
    owner process.fence = id
  queued : Queued (fun generation => state.minted generation = some process.fence)
    (fun generation seq => (state.uploaded generation seq).isSome) process.shipper
  snapshotMode : process.mode = .snapshot → currentId process.shipper = none
  stage : StageSound state process

structure Retains (owner : Int64 → Id) (state : State Id) : Prop where
  fenced : Fenced state
  process : ∀ id, ProcessSound owner state id (state.process id)
  numbered : ∀ put ∈ state.history, put.number < state.nextNumber
  sentNumbered : ∀ request ∈ state.puts, request.put.number < state.nextNumber
  named : ∀ request ∈ state.puts, ∀ id, request.put.names = some id →
    state.minted id = some request.put.fence
  current : ∀ stored ∈ state.snapshot.value?, ∀ id, generationOf stored.entries = some id →
    state.minted id = some (parseFence stored.entries)
  slashFree : ∀ id, (state.minted id).isSome → '/' ∉ id.toList
  segmentPuts : ∀ put ∈ state.segmentPuts, state.minted put.generation = some put.fence ∧
    ∀ seq < put.seq, (state.uploaded put.generation seq).isSome
  uploaded : ∀ id seq stored, state.uploaded id seq = some stored →
    state.minted id = some (parseFence stored.metadata.entries) ∧
      ∀ earlier < seq, (state.uploaded id earlier).isSome
  present : ∀ id seq, state.segments id seq = none ∨
    state.segments id seq = state.uploaded id seq
  kept : ∀ id, (state.minted id).isSome → Dead state id ∨
    ∀ seq, state.segments id seq = state.uploaded id seq
  deletes : ∀ request ∈ state.deletes, Condemned state request.fence request.generation

/-- What no step takes back. -/
structure Grows (state after : State Id) : Prop where
  minted : ∀ id fence, state.minted id = some fence → after.minted id = some fence
  uploaded : ∀ id seq, (state.uploaded id seq).isSome → (after.uploaded id seq).isSome
  history : ∀ put ∈ state.history, put ∈ after.history
  dead : ∀ id, (state.minted id).isSome → Dead state id → Dead after id

theorem Condemned.grows {fence : Int64} {id : String} (condemned : Condemned state fence id)
    (grows : Grows state after) : Condemned after fence id := by
  obtain ⟨started, mintedEq, dead⟩ := condemned
  refine ⟨started, grows.minted id started mintedEq, fun older => ?_⟩
  exact grows.dead id (by simp [mintedEq]) (dead older)

theorem Retired.grows {fence : Int64} {keep : Option String} (retired : Retired state fence keep)
    (grows : Grows state after)
    (back : ∀ id, after.minted id = some fence → state.minted id = some fence) :
    Retired after fence keep := by
  intro id mintedEq different
  have before := back id mintedEq
  exact grows.dead id (by simp [before]) (retired id before different)

theorem ProcessSound.grows {id : Id} {process : Process}
    (sound : ProcessSound owner state id process) (grows : Grows state after)
    (mintedBack : process.stage ≠ .idle → ∀ generation,
      after.minted generation = some process.fence → state.minted generation = some process.fence)
    (historyBack : ∀ put, process.stage = .awaiting put → put ∈ after.history →
      put ∈ state.history) : ProcessSound owner after id process where
  owns := sound.owns
  queued := sound.queued.mono (fun generation => grows.minted generation process.fence)
    grows.uploaded
  snapshotMode := sound.snapshotMode
  stage := by
    have stage := sound.stage
    unfold StageSound at stage ⊢
    cases stageEq : process.stage with
    | awaiting put =>
      rw [stageEq] at stage
      refine ⟨stage.1, fun landed => ?_⟩
      exact (stage.2 (historyBack put stageEq landed)).grows grows (mintedBack (by simp [stageEq]))
    | listing =>
      rw [stageEq] at stage
      obtain ⟨holds, ⟨put, landed, fenceEq⟩, retired⟩ := stage
      exact ⟨holds, ⟨put, grows.history put landed, fenceEq⟩,
        retired.grows grows (mintedBack (by simp [stageEq]))⟩
    | deleting =>
      rw [stageEq] at stage
      intro entry member
      exact (stage entry member).grows grows
    | _ =>
      rw [stageEq] at stage
      exact stage

section Processes

variable {id : Id} {process : Process}

section

variable (sound : ProcessSound owner state id process)
include sound

theorem ProcessSound.owned (busy : process.stage ≠ .idle) : owner process.fence = id :=
  sound.owns (.inr (.inl busy))

variable {stage : Stage}

theorem ProcessSound.stageAt (stageEq : process.stage = stage) : StageSound state
    { process with stage := stage } := by
  have held := sound.stage
  unfold StageSound at held ⊢
  rw [stageEq] at held
  exact held

theorem ProcessSound.moves (owned : stage ≠ .idle → owner process.fence = id)
    (held : StageSound state { process with stage := stage }) :
    ProcessSound owner state id { process with stage := stage } :=
  { sound with
    owns := by
      rintro (leads | busy | holds)
      · exact sound.owns (.inl leads)
      · exact owned busy
      · exact sound.owns (.inr (.inr holds))
    stage := held }

theorem ProcessSound.stops : ProcessSound owner state id { process with stage := .idle } :=
  sound.moves nofun trivial

theorem ProcessSound.ships {shipper : Shipper} (busy : process.stage ≠ .idle)
    (queued : Queued (fun generation => state.minted generation = some process.fence)
      (fun generation seq => (state.uploaded generation seq).isSome) shipper)
    (same : currentId shipper = currentId process.shipper)
    (held : StageSound state { process with shipper := shipper, stage := stage }) :
    ProcessSound owner state id { process with shipper := shipper, stage := stage } where
  owns := fun _ => sound.owned busy
  queued := queued
  snapshotMode := fun mode => same.trans (sound.snapshotMode mode)
  stage := held

end

theorem stageSound_resume : StageSound state { process with stage := process.resume } := by
  cases modeEq : process.mode <;> simp [StageSound, Process.resume, modeEq]

theorem ProcessSound.resumes (sound : ProcessSound owner state id process)
    (busy : process.stage ≠ .idle) :
    ProcessSound owner state id { process with stage := process.resume } :=
  sound.moves (fun _ => sound.owned busy) stageSound_resume

theorem ProcessSound.advance {codec : SegmentCodec} {after : Process}
    (sound : ProcessSound owner state id process) (advances : Advance codec process after) :
    ProcessSound owner state id after := by
  cases advances with
  | beginShip _ wal leader => exact sound.moves (fun _ => sound.owns (.inl leader)) wal
  | endShip | segmentFailed | headFailed | putFailed | abort => exact sound.stops
  | capture shipping joined captured =>
    have queued := (sound.queued.adopt captured).queueSegments codec joined captured.batches
    exact sound.ships (by simp [shipping]) queued (by simp) (sound.stageAt shipping)
  | startFailed shipping joined captured =>
    have queued := (sound.queued.adopt captured).queueSegments codec joined captured.batches
    exact sound.ships (by simp [shipping]) queued (by simp) trivial
  | copyFailed shipping joined captured =>
    have queued := (sound.queued.adopt captured).queueSegments codec joined captured.batches
    exact sound.ships (by simp [shipping]) (queued.shrinks (shrinks_markBroken _)) (by simp)
      trivial
  | dropSuperseded _ front superseded =>
    rw [sound.queued.not_superseded (front ▸ List.mem_cons_self)] at superseded
    cases superseded
  | segmentConflict sending =>
    exact sound.ships (by simp [sending]) (sound.queued.conflict _) (by simp) trivial
  | roundDone uploading =>
    have wal : process.mode = .wal := sound.stageAt uploading
    exact sound.moves (fun _ => sound.owned (by simp [uploading])) wal
  | beginPublish uploading _ current =>
    exact sound.moves (fun _ => sound.owned (by simp [uploading]))
      (by simp [StageSound, currentId, current])
  | beginSnapshot _ snapshot leader =>
    exact sound.moves (fun _ => sound.owns (.inl leader)) (sound.snapshotMode snapshot)
  | listFailed listing => exact sound.resumes (by simp [listing])
  | cleanupDone deleting => exact sound.resumes (by simp [deleting])
  | demote idle =>
    exact ⟨by simp [idle], queued_empty, fun _ => rfl, by simp [StageSound, idle]⟩
  | restart => exact ⟨by simp, queued_empty, fun _ => rfl, trivial⟩

end Processes

open Option List

variable {Id : Type} {owner : Int64 → Id} {state after : State Id} {key : String}

theorem Retains.dead_of_fence_lt (retains : Retains owner state) {id : String} {started : Int64}
    {stored : Metadata} (mintedEq : state.minted id = some started)
    (storedEq : state.snapshot.value? = some stored) (older : started < parseFence stored.entries) :
    Dead state id where
  replaced := by
    refine ⟨stored, storedEq, fun named => ?_⟩
    have fenceEq := mintedEq.symm.trans (retains.current stored storedEq id named)
    rw [some.inj fenceEq] at older
    exact Int64.lt_irrefl older
  requests := by
    intro request sent named
    obtain ⟨known, notNewer⟩ := retains.fenced.guarded request sent
    have fenceEq := mintedEq.symm.trans (retains.named request sent id named)
    refine ⟨known, ?_, ?_⟩
    · intro absent
      simp [Cell.value?, absent] at storedEq
    · by_contra accepted
      have notOlder := notNewer (by simpa using accepted) stored storedEq
      rw [some.inj fenceEq] at older
      exact Int64.not_le.mpr older notOlder
  holders := by
    intro holder holds
    obtain ⟨generation, generationEq, rfl⟩ := map_eq_some_iff.mp holds
    have held := (retains.process holder).queued.generation generation generationEq
    refine ⟨stored, storedEq, ?_⟩
    rw [← some.inj (mintedEq.symm.trans held)]
    exact older

theorem Retains.recorded_ge (retains : Retains owner state) {put : SnapshotPut}
    (landed : put ∈ state.history) :
    ∃ stored, state.snapshot.value? = some stored ∧ put.fence ≤ parseFence stored.entries := by
  cases historyEq : state.history with
  | nil => simp [historyEq] at landed
  | cons last =>
    have storedEq := retains.fenced.newest last (by simp [historyEq])
    refine ⟨last.metadata, storedEq, ?_⟩
    have notNewer : NotNewer last.fence state.snapshot.value? := by
      rw [storedEq]
      rintro _ ⟨⟩
      simp
    rw [parseFence_metadata]
    exact retains.fenced.history_le notNewer put landed

/-- Everything a cleanup lists is dead, unless a newer term uploaded it. -/
theorem Retains.condemned (retains : Retains owner state) {id : Id} {keep : Option String}
    (listing : (state.process id).stage = .listing keep) {generation : String} {seq : Nat}
    (found : (state.segments generation seq).isSome)
    (passed : cleanupKeeps key keep generation seq = false) :
    Condemned state (state.process id).fence generation := by
  have sound := retains.process id
  obtain ⟨holds, ⟨put, landed, fenceEq⟩, retired⟩ :
      currentId (state.process id).shipper = keep ∧ _ ∧ Retired state _ keep :=
    sound.stageAt listing
  have stored : (state.uploaded generation seq).isSome := by
    rcases retains.present generation seq with absent | same
    · simp [absent] at found
    · rwa [← same]
  obtain ⟨segment, segmentEq⟩ := isSome_iff_exists.mp stored
  have mintedEq := (retains.uploaded generation seq segment segmentEq).1
  refine ⟨_, mintedEq, fun notNewer => ?_⟩
  have different : keep ≠ some generation := by
    intro same
    have keepFree : ∀ other ∈ keep, '/' ∉ other.toList := by
      rw [same]
      rintro _ ⟨⟩
      exact retains.slashFree generation (by simp [mintedEq])
    rw [(cleanupKeeps_iff keepFree (retains.slashFree generation (by simp [mintedEq]))).mpr
      same] at passed
    cases passed
  rcases Int64.lt_or_eq_of_le notNewer with older | same
  · obtain ⟨_, storedEq, recorded⟩ := retains.recorded_ge landed
    exact retains.dead_of_fence_lt mintedEq storedEq
      (Int64.lt_of_lt_of_le older (fenceEq ▸ recorded))
  · exact retired generation (same ▸ mintedEq) different

/-- Requests sent in a step: PUTs only of bases whose generation lives, segments whose
predecessors were stored, deletes only of condemned segments. -/
structure Sends (state after : State Id) : Prop where
  number : state.nextNumber ≤ after.nextNumber
  puts : ∀ request ∈ after.puts, request ∈ state.puts ∨
    request.put.number < after.nextNumber ∧ ∀ id, request.put.names = some id →
      state.minted id = some request.put.fence ∧ ¬Dead state id
  segmentPuts : ∀ put ∈ after.segmentPuts, put ∈ state.segmentPuts ∨
    state.minted put.generation = some put.fence ∧
      ∀ seq < put.seq, (state.uploaded put.generation seq).isSome
  deletes : ∀ request ∈ after.deletes, request ∈ state.deletes ∨
    Condemned state request.fence request.generation

theorem sends_fewer (number : after.nextNumber = state.nextNumber)
    (puts : ∀ request ∈ after.puts, request ∈ state.puts)
    (segmentPuts : ∀ put ∈ after.segmentPuts, put ∈ state.segmentPuts)
    (deletes : ∀ request ∈ after.deletes, request ∈ state.deletes) : Sends state after where
  number := number.ge
  puts := fun request sent => .inl (puts request sent)
  segmentPuts := fun put sent => .inl (segmentPuts put sent)
  deletes := fun request sent => .inl (deletes request sent)

structure SameBucket (state after : State Id) : Prop where
  snapshot : after.snapshot = state.snapshot
  segments : after.segments = state.segments
  history : after.history = state.history
  uploaded : after.uploaded = state.uploaded
  minted : after.minted = state.minted

theorem sameBucket_grows (same : SameBucket state after) (sends : Sends state after)
    (continues : ∀ id, Continues (state.process id) (after.process id)) : Grows state after where
  minted := by simp [same.minted]
  uploaded := by simp [same.uploaded]
  history := by simp [same.history]
  dead := by
    intro id _ dead
    apply dead.frame same.snapshot
    · intro request sent named
      rcases sends.puts request sent with before | ⟨_, lives⟩
      · exact before
      · exact absurd dead (lives id named).2
    · intro holder _
      exact continues holder

section

variable (retains : Retains owner state)
include retains

/-- Steps that leave the bucket alone. -/
theorem Retains.sameBucket (fenced : Fenced after)
    (same : SameBucket state after) (sends : Sends state after)
    (process : ∀ id, ProcessSound owner state id (after.process id))
    (continues : ∀ id, Continues (state.process id) (after.process id)) : Retains owner after := by
  have grows := sameBucket_grows same sends continues
  constructor
  case fenced => exact fenced
  case process =>
    intro id
    apply (process id).grows grows
    · intro _ _ minted
      rwa [same.minted] at minted
    · intro put _ landed
      rwa [same.history] at landed
  case numbered =>
    intro put landed
    rw [same.history] at landed
    exact Nat.lt_of_lt_of_le (retains.numbered put landed) sends.number
  case sentNumbered =>
    intro request sent
    rcases sends.puts request sent with before | ⟨numbered, _⟩
    · exact Nat.lt_of_lt_of_le (retains.sentNumbered request before) sends.number
    · exact numbered
  case named =>
    intro request sent id named
    rw [same.minted]
    rcases sends.puts request sent with before | ⟨_, lives⟩
    · exact retains.named request before id named
    · exact (lives id named).1
  case current =>
    rw [same.snapshot, same.minted]
    exact retains.current
  case slashFree =>
    rw [same.minted]
    exact retains.slashFree
  case segmentPuts =>
    intro put sent
    rw [same.minted, same.uploaded]
    rcases sends.segmentPuts put sent with before | fresh
    · exact retains.segmentPuts put before
    · exact fresh
  case uploaded =>
    rw [same.uploaded, same.minted]
    exact retains.uploaded
  case present =>
    rw [same.segments, same.uploaded]
    exact retains.present
  case kept =>
    intro id mintedId
    rw [same.minted] at mintedId
    rw [same.segments, same.uploaded]
    rcases retains.kept id mintedId with dead | kept
    · exact .inl (grows.dead id mintedId dead)
    · exact .inr kept
  case deletes =>
    intro request sent
    rcases sends.deletes request sent with before | condemned
    · exact (retains.deletes request before).grows grows
    · exact condemned.grows grows

variable {request : InFlight}

theorem Retains.retired {id : Id} (awaiting : (state.process id).stage = .awaiting request.put) :
    Retired (state.landPut request) (state.process id).fence request.put.names := by
  have sound := retains.process id
  have holds : currentId (state.process id).shipper = request.put.names :=
    (sound.stageAt awaiting).1
  intro generation mintedEq different
  constructor
  case replaced =>
    refine ⟨request.put.metadata, rfl, fun named => different (generationOf_metadata named)⟩
  case requests =>
    intro other member _
    exact Cell.stale_write (retains.fenced.guarded other (mem_of_mem_erase member)).1 _
  case holders =>
    intro holder (held : currentId (state.process holder).shipper = some generation)
    obtain ⟨current, currentEq, rfl⟩ := map_eq_some_iff.mp held
    have holderSound := retains.process holder
    have fenceEq : (state.process holder).fence = (state.process id).fence :=
      some.inj ((holderSound.queued.generation current currentEq).symm.trans mintedEq)
    have same : holder = id := by
      rw [← holderSound.owns (.inr (.inr (by simp [held]))), fenceEq]
      exact sound.owned (by simp [awaiting])
    subst same
    exact absurd (holds.symm.trans held) different

theorem landPut_grows (sent : request ∈ state.puts)
    (accepted : state.snapshot.accepts request.condition) :
    Grows state (state.landPut request) where
  minted := fun _ _ mintedEq => mintedEq
  uploaded := fun _ _ stored => stored
  history := fun _ landed => mem_cons_of_mem _ landed
  dead := fun _ _ dead => dead.landPut retains.fenced sent accepted

theorem Retains.landPut (sent : request ∈ state.puts)
    (accepted : state.snapshot.accepts request.condition) :
    Retains owner (state.landPut request) := by
  have grows := landPut_grows retains sent accepted
  constructor
  case fenced => exact retains.fenced.landPut sent accepted
  case process =>
    intro id
    have sound := retains.process id
    by_cases own : (state.process id).stage = .awaiting request.put
    · refine ⟨sound.owns, sound.queued, sound.snapshotMode, ?_⟩
      have stage : StageSound (state.landPut request)
          { state.process id with stage := .awaiting request.put } :=
        ⟨(sound.stageAt own).1, fun _ => retains.retired own⟩
      rwa [← own] at stage
    · apply sound.grows grows
      · intro _ _ minted
        exact minted
      · intro put awaiting landed
        rcases mem_cons.mp landed with rfl | landed
        · exact absurd awaiting own
        · exact landed
  case numbered =>
    intro put landed
    rcases mem_cons.mp landed with rfl | landed
    · exact retains.sentNumbered request sent
    · exact retains.numbered put landed
  case sentNumbered =>
    intro other member
    exact retains.sentNumbered other (mem_of_mem_erase member)
  case named =>
    intro other member
    exact retains.named other (mem_of_mem_erase member)
  case current =>
    rintro _ ⟨⟩ id named
    rw [parseFence_metadata]
    exact retains.named request sent id (generationOf_metadata named)
  case slashFree => exact retains.slashFree
  case segmentPuts => exact retains.segmentPuts
  case uploaded => exact retains.uploaded
  case present => exact retains.present
  case kept =>
    intro id mintedId
    rcases retains.kept id mintedId with dead | kept
    · exact .inl (grows.dead id mintedId dead)
    · exact .inr kept
  case deletes =>
    intro other member
    exact (retains.deletes other member).grows grows

/-- A stored segment is the next one of its generation. -/
theorem Retains.landSegment {put : SegmentPut}
    (sent : put ∈ state.segmentPuts) : Retains owner (state.landSegment put) := by
  have uploadedEq : ∀ id seq, (state.landSegment put).uploaded id seq =
      if id = put.generation ∧ seq = put.seq then some put.stored else state.uploaded id seq :=
    fun _ _ => rfl
  have segmentsEq : ∀ id seq, (state.landSegment put).segments id seq =
      if id = put.generation ∧ seq = put.seq then some put.stored else state.segments id seq :=
    fun _ _ => rfl
  have grows : Grows state (state.landSegment put) := by
    refine ⟨fun _ _ mintedEq => mintedEq, ?_, fun _ landed => landed, ?_⟩
    · intro id seq stored
      rw [uploadedEq]
      split
      · rfl
      · exact stored
    · intro id _ dead
      exact dead.frame rfl (fun _ member _ => member) (fun _ _ => .inr ⟨rfl, rfl⟩)
  constructor
  case fenced =>
    exact retains.fenced.frame rfl (fun _ member => member) rfl retains.fenced.stage
  case process =>
    intro id
    exact (retains.process id).grows grows (fun _ _ minted => minted) (fun _ _ landed => landed)
  case numbered => exact retains.numbered
  case sentNumbered => exact retains.sentNumbered
  case named => exact retains.named
  case current => exact retains.current
  case slashFree => exact retains.slashFree
  case segmentPuts =>
    intro other member
    obtain ⟨mintedEq, earlier⟩ := retains.segmentPuts other (mem_of_mem_erase member)
    exact ⟨mintedEq, fun seq less => grows.uploaded _ _ (earlier seq less)⟩
  case uploaded =>
    intro id seq stored storedEq
    rw [uploadedEq] at storedEq
    split at storedEq
    · rename_i same
      obtain ⟨rfl, rfl⟩ := same
      obtain ⟨mintedEq, earlier⟩ := retains.segmentPuts put sent
      cases storedEq
      refine ⟨?_, fun seq less => grows.uploaded _ _ (earlier seq less)⟩
      rw [SegmentPut.stored, putMetadata, parseFence_putEntries]
      exact mintedEq
    · obtain ⟨mintedEq, earlier⟩ := retains.uploaded id seq stored storedEq
      exact ⟨mintedEq, fun seq less => grows.uploaded _ _ (earlier seq less)⟩
  case present =>
    intro id seq
    rw [segmentsEq, uploadedEq]
    split
    · exact .inr rfl
    · exact retains.present id seq
  case kept =>
    intro id mintedId
    rcases retains.kept id mintedId with dead | kept
    · exact .inl (grows.dead id mintedId dead)
    · right
      intro _
      rw [segmentsEq, uploadedEq, kept]
  case deletes =>
    intro request member
    exact (retains.deletes request member).grows grows

theorem Retains.landDelete {request : Delete} (sent : request ∈ state.deletes)
    (notNewer : ∀ segment ∈ state.segments request.generation request.seq,
      parseFence segment.metadata.entries ≤ request.fence) :
    Retains owner (state.landDelete request) := by
  have segmentsEq : ∀ id seq, (state.landDelete request).segments id seq =
      if id = request.generation ∧ seq = request.seq then none else state.segments id seq :=
    fun _ _ => rfl
  have keepsDead : ∀ id, Dead state id → Dead (state.landDelete request) id := by
    intro id dead
    exact dead.frame rfl (fun _ member _ => member) (fun _ _ => .inr ⟨rfl, rfl⟩)
  have grows : Grows state (state.landDelete request) :=
    ⟨fun _ _ mintedEq => mintedEq, fun _ _ stored => stored, fun _ landed => landed,
      fun id _ dead => keepsDead id dead⟩
  refine { retains with
      fenced := ?fenced, process := ?process, present := ?present, kept := ?kept,
      deletes := ?deletes }
  case fenced =>
    exact retains.fenced.frame rfl (fun _ member => member) rfl retains.fenced.stage
  case process =>
    intro id
    exact (retains.process id).grows grows (fun _ _ minted => minted) (fun _ _ landed => landed)
  case present =>
    intro id seq
    rw [segmentsEq]
    split
    · exact .inl rfl
    · exact retains.present id seq
  case kept =>
    intro id mintedId
    rcases retains.kept id mintedId with dead | kept
    · exact .inl (keepsDead id dead)
    · cases found : state.segments request.generation request.seq with
      | none =>
        right
        intro seq
        rw [segmentsEq]
        split
        · rename_i same
          obtain ⟨rfl, rfl⟩ := same
          exact found.symm.trans (kept _)
        · exact kept seq
      | some segment =>
        by_cases same : id = request.generation
        · subst same
          obtain ⟨_, mintedEq, dead⟩ := retains.deletes request sent
          have uploaded := (kept request.seq).symm.trans found
          have fenceEq := (retains.uploaded _ _ _ uploaded).1.symm.trans mintedEq
          left
          apply keepsDead
          apply dead
          rw [← some.inj fenceEq]
          exact notNewer segment found
        · right
          intro seq
          rw [segmentsEq, if_neg (fun both => same both.1)]
          exact kept seq
  case deletes =>
    intro other member
    exact (retains.deletes other (mem_of_mem_erase member)).grows grows

end

variable [DecidableEq Id] {id : Id} {process : Process}

section

variable (retains : Retains owner state)
include retains

/-- A new generation belongs to the process that started it, and to no other term. -/
theorem Retains.mint {generation : String} (fenced : Fenced (state.mint id process generation))
    (fresh : state.minted generation = none) (free : '/' ∉ generation.toList)
    (busy : (state.process id).stage ≠ .idle) (fenceEq : process.fence = (state.process id).fence)
    (names : currentId process.shipper = some generation)
    (sound : ProcessSound owner (state.mint id process generation) id process) :
    Retains owner (state.mint id process generation) := by
  have mintedEq : ∀ other, (state.mint id process generation).minted other =
      if other = generation then some process.fence else state.minted other := by
    intro other
    by_cases same : other = generation <;> simp [State.mint, same]
  have other : ∀ other ≠ id,
      (state.mint id process generation).process other = state.process other := by
    intro other different
    simp [State.mint, State.set, different]
  have older : ∀ named fence, state.minted named = some fence →
      (state.mint id process generation).minted named = some fence := by
    intro named _ minted
    rw [mintedEq, if_neg]
    · exact minted
    · rintro rfl
      simp [fresh] at minted
  have self : (state.mint id process generation).process id = process := by
    simp [State.mint, State.set]
  have grows : Grows state (state.mint id process generation) := by
    refine ⟨older, fun _ _ stored => stored, fun _ landed => landed, ?_⟩
    intro named minted dead
    refine dead.frame rfl (fun _ member _ => member) ?_
    intro holder holds
    by_cases same : holder = id
    · subst same
      rw [self, names] at holds
      cases holds
      simp [fresh] at minted
    · rw [other holder same]
      exact .inr ⟨rfl, rfl⟩
  constructor
  case fenced => exact fenced
  case process =>
    intro holder
    by_cases same : holder = id
    · subst same
      rw [self]
      exact sound
    · rw [other holder same]
      apply (retains.process holder).grows grows
      · intro holderBusy named minted
        rw [mintedEq] at minted
        split at minted
        · have fences : (state.process holder).fence = (state.process id).fence :=
            (some.inj minted).symm.trans fenceEq
          rw [← (retains.process holder).owned holderBusy, fences,
            (retains.process id).owned busy] at same
          exact absurd rfl same
        · exact minted
      · intro put _ landed
        exact landed
  case numbered => exact retains.numbered
  case sentNumbered => exact retains.sentNumbered
  case named =>
    intro request sent named namedEq
    exact older named _ (retains.named request sent named namedEq)
  case current =>
    intro stored storedEq named namedEq
    exact older named _ (retains.current stored storedEq named namedEq)
  case slashFree =>
    intro named minted
    rw [mintedEq] at minted
    split at minted
    · rename_i same
      exact same ▸ free
    · exact retains.slashFree named minted
  case segmentPuts =>
    intro put sent
    obtain ⟨minted, earlier⟩ := retains.segmentPuts put sent
    exact ⟨older _ _ minted, earlier⟩
  case uploaded =>
    intro named seq stored storedEq
    obtain ⟨minted, earlier⟩ := retains.uploaded named seq stored storedEq
    exact ⟨older _ _ minted, earlier⟩
  case present => exact retains.present
  case kept =>
    intro named minted
    rw [mintedEq] at minted
    split at minted
    · rename_i same
      subst same
      right
      intro seq
      have unused : state.uploaded named seq = none := by
        cases storedEq : state.uploaded named seq with
        | none => rfl
        | some stored =>
          rw [(retains.uploaded named seq stored storedEq).1] at fresh
          cases fresh
      rcases retains.present named seq with absent | same
      · exact absent.trans unused.symm
      · exact same
    · rcases retains.kept named minted with dead | kept
      · exact .inl (grows.dead named minted dead)
      · exact .inr kept
  case deletes =>
    intro request sent
    exact (retains.deletes request sent).grows grows

theorem Retains.acts (fenced : Fenced after)
    (same : SameBucket state after) (sends : Sends state after)
    (processEq : after.process = Function.update state.process id process)
    (sound : ProcessSound owner state id process)
    (continues : Continues (state.process id) process) : Retains owner after := by
  apply retains.sameBucket fenced same sends
  · intro other
    rw [processEq]
    by_cases same : other = id
    · subst same
      simpa using sound
    · simpa [same] using retains.process other
  · intro other
    rw [processEq]
    by_cases same : other = id
    · subst same
      simpa using continues
    · simpa [same] using .inr ⟨rfl, rfl⟩

theorem Retains.set (fenced : Fenced (state.set id process))
    (sound : ProcessSound owner state id process)
    (continues : Continues (state.process id) process) : Retains owner (state.set id process) :=
  retains.acts fenced ⟨rfl, rfl, rfl, rfl, rfl⟩
    (sends_fewer rfl (fun _ sent => sent) (fun _ sent => sent) (fun _ sent => sent)) rfl sound
    continues

end

end Addons.GenerationRetention
