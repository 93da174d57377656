import Addons.GenerationRetention

/-!
# The published generation keeps its segments

Whenever the snapshot key names a generation, every segment that was ever stored for it is
still in the bucket and their numbers have no gap, provided that no cleanup deletes a
segment of a newer term and that no process takes up a term with the shipping state of
another.
-/

namespace Addons.PublishedSegments

open ConditionalStore SnapshotMetadata WalShipper WalSegments MetaSync SnapshotFencing List Option
  SegmentOrder SupersededGenerations GenerationRetention TransitionSystem

variable {Id : Type} {owner : Int64 → Id} {key : String} {codec : SegmentCodec}

/-- No segment was shipped to the bucket yet; a self-contained snapshot may be there. -/
structure Unshipped (state : State Id) : Prop where
  initial : Initial state
  segments : ∀ id seq, state.segments id seq = none
  uploaded : ∀ id seq, state.uploaded id seq = none
  plain : ∀ stored ∈ state.snapshot.value?, generationOf stored.entries = none

/-- Fences belong to one process each, a promotion that keeps the local database finds
no shipping state, and a cleanup's delete meets no segment of a newer term. -/
def Orderly (owner : Int64 → Id) (state : State Id) : Event Id → Prop
  | .promote id fence outcome => owner fence = id ∧
      (outcome = .swapped ∨ (state.process id).shipper.generation = none ∧
        (state.process id).shipper.pending = [])
  | .landDelete request => ∀ segment ∈ state.segments request.generation request.seq,
      parseFence segment.metadata.entries ≤ request.fence
  | _ => True

theorem retains_of_unshipped {state : State Id} (unshipped : Unshipped state) :
    Retains owner state where
  fenced := Fenced.initially unshipped.initial
  process := by
    intro id
    obtain ⟨_, processEq⟩ := unshipped.initial.process id
    rw [processEq]
    exact ⟨by simp, queued_empty, fun _ => rfl, trivial⟩
  numbered := by simp [unshipped.initial.history]
  sentNumbered := by simp [unshipped.initial.puts]
  named := by simp [unshipped.initial.puts]
  current := by
    intro stored storedEq id named
    rw [unshipped.plain stored storedEq] at named
    cases named
  slashFree := by simp [unshipped.initial.minted]
  segmentPuts := by simp [unshipped.initial.segmentPuts]
  uploaded := by simp [unshipped.uploaded]
  present := fun id seq => .inl (unshipped.segments id seq)
  kept := by simp [unshipped.initial.minted]
  deletes := by simp [unshipped.initial.deletes]

/-- Taking up a term: the shipping state is empty, or reset by the promotion. -/
theorem sound_promoted {state : State Id} {id : Id} {process : Process} {fence : Int64}
    {outcome : Promotion} (idle : process.stage = .idle) (owned : owner fence = id)
    (reset : outcome = .swapped ∨ process.shipper.generation = none ∧
      process.shipper.pending = []) :
    ProcessSound owner state id (process.promoted fence outcome) ∧
      currentId (process.promoted fence outcome).shipper = none := by
  have emptyQueue : ∀ shipper : Shipper, shipper.generation = none → shipper.pending = [] →
      Queued (fun generation => state.minted generation = some fence)
        (fun generation seq => (state.uploaded generation seq).isSome) shipper := by
    intro shipper noGeneration noPending
    exact ⟨by simp [noGeneration], by simp [noPending], by simp [noGeneration],
      fun _ => ⟨0, 0, by simp [seqs, noPending], by simp, by simp [noGeneration]⟩⟩
  have none_of : ∀ shipper : Shipper, shipper.generation = none → currentId shipper = none := by
    intro _ noGeneration
    simp [currentId, noGeneration]
  cases outcome with
  | swapped =>
    exact ⟨⟨fun _ => owned, queued_empty, fun _ => rfl,
      by simp [StageSound, Process.promoted, idle]⟩, rfl⟩
  | emptyBucket | failed =>
    obtain ⟨noGeneration, noPending⟩ := reset.resolve_left Promotion.noConfusion
    exact ⟨⟨fun _ => owned, emptyQueue _ noGeneration noPending,
      fun _ => none_of _ noGeneration, by simp [StageSound, Process.promoted, idle]⟩,
      none_of _ noGeneration⟩

section Steps

variable {state : State Id} {id : Id} (retains : Retains owner state)

include retains

theorem sound_putSucceeded {put : SnapshotPut} (awaiting : (state.process id).stage = .awaiting put)
    (landed : put ∈ state.history) :
    ProcessSound owner state id ((state.process id).putSucceeded put) ∧
      Continues (state.process id) ((state.process id).putSucceeded put) := by
  have sound := retains.process id
  have owned := sound.owned (by simp [awaiting])
  have fenceEq : put.fence = (state.process id).fence := by
    have held := retains.fenced.stage id
    rw [StageFence, awaiting] at held
    exact held
  obtain ⟨holds, retires⟩ : currentId (state.process id).shipper = put.names ∧
      (put ∈ state.history → Retired state (state.process id).fence put.names) :=
    sound.stageAt awaiting
  unfold Process.putSucceeded
  cases baseEq : put.base with
  | none =>
    have unnamed : put.names = none := by simp [SnapshotPut.names, baseEq]
    refine ⟨sound.moves (fun _ => owned) ?_, .inr ⟨rfl, rfl⟩⟩
    cases put.cleanup with
    | false => trivial
    | true =>
      exact ⟨holds.trans unnamed, ⟨put, landed, fenceEq⟩, unnamed ▸ retires landed⟩
  | some base =>
    have named : put.names = some base.1 := by simp [SnapshotPut.names, baseEq]
    obtain ⟨_, current, idEq⟩ :=
      map_eq_some_iff.mp (holds.trans named)
    have queued := sound.queued.published current
    rw [idEq] at queued
    refine ⟨sound.ships (by simp [awaiting]) queued (by simp) ?_, .inr ⟨by simp, rfl⟩⟩
    refine ⟨(currentId_published _ _).trans (holds.trans named), ⟨put, landed, fenceEq⟩, ?_⟩
    exact named ▸ retires landed

variable {generation : String} {fence : Int64}

theorem sound_startGeneration [DecidableEq Id]
    (shipping : (state.process id).stage = .shipping) (joined : Bool) (captured : Captured)
    (fresh : state.minted generation = none) (size raw : Nat) (sha : String) {started : Process}
    (startedEq : started = { state.process id with
      shipper := (afterCapture codec joined captured (state.process id).shipper
        ).startGeneration generation size raw sha
      stage := .uploading }) :
    ProcessSound owner (state.mint id started generation) id started := by
  have sound := retains.process id
  have wal : (state.process id).mode = .wal := sound.stageAt shipping
  have owned := sound.owned (by simp [shipping])
  have captureQueued :=
    (sound.queued.adopt captured).queueSegments codec joined captured.batches
  have unused : ¬state.minted generation = some (state.process id).fence := by simp [fresh]
  have queued := captureQueued.startGeneration unused size raw sha
  subst startedEq
  refine ⟨fun _ => owned, ?_, by simp [wal], wal⟩
  apply queued.mono
  · rintro other (minted | rfl)
    · have different : other ≠ generation := by
        rintro rfl
        simp [fresh] at minted
      simpa [State.mint, different] using minted
    · simp [State.mint]
  · intro _ _ stored
    exact stored

variable {base : Option (String × String)} {cleanup : Bool}

/-- The PUT that follows a passed comparison is of a generation that lives. -/
theorem sends_headPasses [DecidableEq Id]
    (publishing : (state.process id).stage = .publishing fence base cleanup)
    (passes : ∀ stored ∈ state.snapshot.value?, ∃ view, stored.Lists view ∧
      ¬(state.process id).fence < parseFence view) (process : Process) (condition : Condition) :
    Sends state (state.sendPut id process
      ⟨⟨state.nextNumber, fence, base, cleanup⟩, condition⟩) := by
  have sound := retains.process id
  have fenceEq : fence = (state.process id).fence := by
    have held := retains.fenced.stage id
    rw [StageFence, publishing] at held
    exact held
  have holds : currentId (state.process id).shipper = base.map Prod.fst :=
    sound.stageAt publishing
  refine ⟨Nat.le_succ _, ?_, fun _ sent => .inl sent, fun _ sent => .inl sent⟩
  intro _ sent
  rcases mem_cons.mp sent with rfl | sent
  · right
    refine ⟨Nat.lt_succ_self _, fun named namedEq => ?_⟩
    have held : currentId (state.process id).shipper = some named := holds.trans namedEq
    constructor
    · obtain ⟨generation, current, rfl⟩ := map_eq_some_iff.mp held
      rw [fenceEq]
      exact sound.queued.generation generation current
    · intro dead
      obtain ⟨stored, storedEq, older⟩ := dead.holders id held
      obtain ⟨_, lists, notOlder⟩ := passes stored storedEq
      rw [lists.parseFence_eq] at notOlder
      exact notOlder older
  · exact .inl sent

theorem sound_headPasses (publishing : (state.process id).stage = .publishing fence base cleanup) :
    ProcessSound owner state id { state.process id with
      stage := .awaiting ⟨state.nextNumber, fence, base, cleanup⟩ } := by
  have sound := retains.process id
  have holds : currentId (state.process id).shipper = base.map Prod.fst :=
    sound.stageAt publishing
  apply sound.moves
  · intro _
    exact sound.owned (by simp [publishing])
  · refine ⟨holds, fun landed => ?_⟩
    exact absurd (retains.numbered _ landed) (Nat.lt_irrefl _)

theorem sends_sendSegment [DecidableEq Id] {entry : Pending} {rest : List Pending}
    (uploading : (state.process id).stage = .uploading)
    (front : (state.process id).shipper.pending = entry :: rest) :
    let sending := { state.process id with stage := .sendingSegment entry }
    Sends state (state.sendSegment id sending
        ⟨entry.generation, entry.seq, entry.bytes, (state.process id).fence⟩) ∧
      ProcessSound owner state id sending := by
  have sound := retains.process id
  have wal : (state.process id).mode = .wal := sound.stageAt uploading
  constructor
  · refine ⟨Nat.le_refl _, fun _ sent => .inl sent, ?_, fun _ sent => .inl sent⟩
    intro _ sent
    rcases mem_cons.mp sent with rfl | sent
    · right
      exact ⟨sound.queued.pending entry (front ▸ mem_cons_self), (sound.queued.front front).1⟩
    · exact .inl sent
  · apply sound.moves
    · intro _
      exact sound.owned (by simp [uploading])
    · exact ⟨wal, rest, front⟩

theorem sends_delete [DecidableEq Id] {seq : Nat} {keys : List (String × Nat)}
    (deleting : (state.process id).stage = .deleting ((generation, seq) :: keys)) :
    let rest := { state.process id with stage := .deleting keys }
    Sends state (state.sendDelete id rest ⟨(state.process id).fence, generation, seq⟩) ∧
      ProcessSound owner state id rest := by
  have sound := retains.process id
  have condemned : ∀ entry ∈ (generation, seq) :: keys,
      Condemned state (state.process id).fence entry.1 := sound.stageAt deleting
  constructor
  · refine ⟨Nat.le_refl _, fun _ sent => .inl sent, fun _ sent => .inl sent, ?_⟩
    intro _ sent
    rcases mem_cons.mp sent with rfl | sent
    · exact .inr (condemned _ mem_cons_self)
    · exact .inl sent
  · apply sound.moves
    · intro _
      exact sound.owned (by simp [deleting])
    · intro entry member
      exact condemned entry (mem_cons_of_mem _ member)

end Steps

theorem retains_step [DecidableEq Id] {state after : State Id} {event : Event Id}
    (retains : Retains owner state) (orderly : Orderly owner state event)
    (taken : Step key codec state event after) : Retains owner after := by
  have fenced := retains.fenced.step taken
  cases taken with
  | advance advances =>
    exact retains.set fenced ((retains.process _).advance advances) (continues_of_advance advances)
  | startGeneration shipping joined captured _ _ hexadecimal named fresh =>
    exact retains.mint fenced fresh (named ▸ not_mem_newGenerationId hexadecimal)
      (by simp [shipping]) rfl rfl
      (sound_startGeneration retains shipping joined captured fresh _ _ _ rfl)
  | sendSegment uploading front =>
    obtain ⟨sends, sound⟩ := sends_sendSegment retains uploading front
    exact retains.acts fenced ⟨rfl, rfl, rfl, rfl, rfl⟩ sends rfl sound (.inr ⟨rfl, rfl⟩)
  | @segmentShipped id _ sending landed =>
    have sound := retains.process id
    obtain ⟨wal, _, front⟩ := sound.stageAt sending
    exact retains.set fenced
      (sound.ships (by simp [sending]) (sound.queued.shipped front landed) (by simp) wal)
      (.inr ⟨by simp, rfl⟩)
  | headRefuses => exact retains.set fenced (retains.process _).stops (.inr ⟨rfl, rfl⟩)
  | headPasses publishing passes =>
    exact retains.acts fenced ⟨rfl, rfl, rfl, rfl, rfl⟩
      (sends_headPasses retains publishing passes _ _) rfl
      (sound_headPasses retains publishing) (.inr ⟨rfl, rfl⟩)
  | putSucceeds awaiting landed =>
    obtain ⟨sound, continues⟩ := sound_putSucceeded retains awaiting landed
    exact retains.set fenced sound continues
  | @list id _ _ listing found =>
    have sound := retains.process id
    apply retains.set fenced _ (.inr ⟨rfl, rfl⟩)
    apply sound.moves
    · intro _
      exact sound.owned (by simp [listing])
    · intro entry member
      exact retains.condemned listing (found entry member).1 (found entry member).2
  | delete deleting =>
    obtain ⟨sends, sound⟩ := sends_delete retains deleting
    exact retains.acts fenced ⟨rfl, rfl, rfl, rfl, rfl⟩ sends rfl sound (.inr ⟨rfl, rfl⟩)
  | promote idle =>
    obtain ⟨owned, reset⟩ := orderly
    obtain ⟨sound, dropped⟩ := sound_promoted idle owned reset
    exact retains.set fenced sound (.inl dropped)
  | landPut sent accepted => exact retains.landPut sent accepted
  | refusePut =>
    exact retains.sameBucket fenced ⟨rfl, rfl, rfl, rfl, rfl⟩
      (sends_fewer rfl (fun _ sent => mem_of_mem_erase sent) (fun _ sent => sent)
        (fun _ sent => sent)) retains.process (fun _ => .inr ⟨rfl, rfl⟩)
  | landSegment sent => exact retains.landSegment sent
  | refuseSegment =>
    exact retains.sameBucket fenced ⟨rfl, rfl, rfl, rfl, rfl⟩
      (sends_fewer rfl (fun _ sent => sent) (fun _ sent => mem_of_mem_erase sent)
        (fun _ sent => sent)) retains.process (fun _ => .inr ⟨rfl, rfl⟩)
  | landDelete sent => exact retains.landDelete sent orderly

/-- In an orderly run, whenever the snapshot key names a generation, the bucket holds
every segment that was ever stored for it, and these are numbered without a gap. -/
theorem publishedSegments_kept [DecidableEq Id] {state : State Id}
    (reached : Reachable Unshipped (Step key codec) (Orderly owner) state) {stored : Metadata}
    {view : List Entry} {id : String} (storedEq : state.snapshot.value? = some stored)
    (lists : stored.Lists view) (named : generationOf view = some id) :
    (∀ seq, state.segments id seq = state.uploaded id seq) ∧
      ∀ seq, (state.uploaded id seq).isSome →
        ∀ earlier < seq, (state.segments id earlier).isSome := by
  have retains : Retains owner state :=
    reached.invariant (fun _ => retains_of_unshipped)
      fun _ _ _ retains orderly taken => retains_step retains orderly taken
  rw [lists.generationOf_eq] at named
  have mintedEq := retains.current stored storedEq id named
  have kept : ∀ seq, state.segments id seq = state.uploaded id seq := by
    rcases retains.kept id (by simp [mintedEq]) with dead | kept
    · obtain ⟨_, otherEq, different⟩ := dead.replaced
      rw [mem_def, storedEq, some.injEq] at otherEq
      exact absurd (otherEq ▸ named) different
    · exact kept
  refine ⟨kept, ?_⟩
  intro seq uploaded earlier less
  obtain ⟨segment, segmentEq⟩ := isSome_iff_exists.mp uploaded
  rw [kept]
  exact (retains.uploaded id seq segment segmentEq).2 earlier less

/-- In an orderly run the segments of a generation come from one term, and so does the base that
names it. -/
theorem generations_of_one_term [DecidableEq Id] {state : State Id}
    (reached : Reachable Unshipped (Step key codec) (Orderly owner) state) {id : String}
    (seq : Nat) {segment : StoredSegment} (found : state.segments id seq = some segment) :
    (∀ otherSeq other, state.segments id otherSeq = some other →
      parseFence other.metadata.entries = parseFence segment.metadata.entries) ∧
    ∀ stored ∈ state.snapshot.value?, generationOf stored.entries = some id →
      parseFence stored.entries = parseFence segment.metadata.entries := by
  have retains : Retains owner state :=
    reached.invariant (fun _ => retains_of_unshipped)
      fun _ _ _ retains orderly taken => retains_step retains orderly taken
  have mintedBy {seq segment} (found : state.segments id seq = some segment) :
      state.minted id = some (parseFence segment.metadata.entries) := by
    rcases retains.present id seq with absent | same
    · cases found.symm.trans absent
    · exact (retains.uploaded id seq segment (same.symm.trans found)).1
  have started := mintedBy found
  constructor
  · exact fun _ _ otherFound => some.inj ((mintedBy otherFound).symm.trans started)
  · exact fun stored storedEq named =>
      some.inj ((retains.current stored storedEq id named).symm.trans started)

/-- Two processes in WAL mode and an empty bucket. -/
def freshCluster : State Bool where
  snapshot := .empty
  segments := fun _ _ => none
  puts := []
  segmentPuts := []
  deletes := []
  process := fun _ => { mode := .wal }
  nextNumber := 0
  history := []
  uploaded := fun _ _ => none
  minted := fun _ => none

/-- The first process leads under fence 1, the second under fence 2. -/
def secondLeads (fence : Int64) : Bool := fence = 2

def walLeader (fence : Int64) (shipper : Shipper) (stage : Stage) : Process where
  mode := .wal
  fence := fence
  isLeader := true
  shipper := shipper
  stage := stage

def rotation : Captured where
  batches := []
  cursor := none
  knownEnd := none
  restartOk := false
  truncated := true
  rotated := true
  drained := false
  lost := none

def startedShipper (generation : String) : Shipper :=
  ({} : Shipper).startGeneration generation 512 512 "00"

section Publishing

variable (state : State Bool) (id : Bool) (fence : Int64) (generation : String)

/-- A process that leads under `fence` starts a generation, -/
def startedBy : State Bool :=
  (state.set id (walLeader fence {} .shipping)).mint id
    (walLeader fence (startedShipper generation) .uploading) generation

def baseRequest : InFlight :=
  ⟨⟨state.nextNumber, fence, some (generation, "00"), true⟩, state.snapshot.unchanged⟩

/-- sends its base, -/
def sentBy : State Bool :=
  ((startedBy state id fence generation).set id (walLeader fence (startedShipper generation)
    (.publishing fence (some (generation, "00")) true))).sendPut id
    (walLeader fence (startedShipper generation)
      (.awaiting (baseRequest state fence generation).put))
    (baseRequest state fence generation)

/-- and learns that it is in the bucket. -/
def publishedBy : State Bool :=
  ((sentBy state id fence generation).landPut (baseRequest state fence generation)).set id
    (walLeader fence ((startedShipper generation).published generation)
      (.listing (some generation)))

end Publishing

abbrev OrderlyRun : State Bool → Prop :=
  Reachable Unshipped (Step "meta.db" storedCodec) (Orderly secondLeads)

theorem OrderlyRun.acts {state after : State Bool} {id : Bool} (reached : OrderlyRun state)
    (taken : Step "meta.db" storedCodec state (.process id) after) : OrderlyRun after :=
  .next reached (show Orderly secondLeads state (.process id) from trivial) taken

section Self

variable (state : State Bool) (id : Bool) (process : Process)

theorem set_self : (state.set id process).process id = process := by
  simp [State.set]

theorem mint_self (generation : String) :
    (state.mint id process generation).process id = process := by
  simp [State.mint, State.set]

theorem sendPut_self (request : InFlight) :
    (state.sendPut id process request).process id = process := by
  simp [State.sendPut, State.set]

end Self

section Publishing

variable {state : State Bool} {id : Bool} {fence : Int64} {millis : Int}
  {uuid generation : String}

theorem startedBy_reachable (reached : OrderlyRun state)
    (idle : state.process id = walLeader fence {} .idle) (hexadecimal : '/' ∉ uuid.toList)
    (named : generation = newGenerationId fence millis uuid)
    (fresh : state.minted generation = none) :
    OrderlyRun (startedBy state id fence generation) := by
  have shipping : OrderlyRun (state.set id (walLeader fence {} .shipping)) := by
    have begun := OrderlyRun.acts reached
      (.advance (.beginShip (by rw [idle]; rfl) (by rw [idle]; rfl) (by rw [idle]; rfl)))
    rwa [idle] at begun
  have taken := OrderlyRun.acts shipping (@Step.startGeneration _ _ _ _ _ id millis uuid
    generation "00" 512 512 false (by rw [set_self]; rfl) true rotation
    (by rw [set_self]; rfl) rfl hexadecimal (by rw [set_self]; exact named) fresh)
  rwa [set_self] at taken

theorem sentBy_reachable (started : OrderlyRun (startedBy state id fence generation))
    (notNewer : ∀ stored ∈ state.snapshot.value?, ¬fence < parseFence stored.entries) :
    OrderlyRun (sentBy state id fence generation) := by
  have current : (startedBy state id fence generation).process id = _ := mint_self _ _ _ _
  have publishing := OrderlyRun.acts started (.advance (.beginPublish (by rw [current]; rfl)
    (by rw [current]; rfl) (by rw [current]; rfl) rfl))
  rw [current] at publishing
  have passes : ∀ stored ∈ state.snapshot.value?, ∃ view, stored.Lists view ∧
      ¬fence < parseFence view := by
    intro stored storedEq
    exact ⟨stored.entries, List.Perm.refl _, notNewer stored storedEq⟩
  have sent := OrderlyRun.acts publishing (@Step.headPasses _ _ _ _ _ id fence
    (some (generation, "00")) true (by rw [set_self]; rfl) (by rw [set_self]; exact passes))
  rwa [set_self] at sent

theorem publishedBy_reachable (sent : OrderlyRun (sentBy state id fence generation)) :
    OrderlyRun (publishedBy state id fence generation) := by
  have landed : OrderlyRun
      ((sentBy state id fence generation).landPut (baseRequest state fence generation)) :=
    .next sent (show Orderly secondLeads _ (.landPut (baseRequest state fence generation)) from
      trivial) (.landPut mem_cons_self (Cell.accepts_unchanged _))
  have current : ((sentBy state id fence generation).landPut
      (baseRequest state fence generation)).process id = _ :=
    sendPut_self _ _ _ (baseRequest state fence generation)
  have succeeded := OrderlyRun.acts landed (.putSucceeds (by rw [current]; rfl) mem_cons_self)
  rwa [current] at succeeded

end Publishing

def firstUuid : String := "0123456789abcdef0123456789abcdef"
def secondUuid : String := "fedcba9876543210fedcba9876543210"
def firstId : String := newGenerationId 1 1700000000000 firstUuid
def secondId : String := newGenerationId 2 1700000060000 secondUuid

/-- The first leader has published its base and is about to clean up. -/
def firstPublished : State Bool :=
  publishedBy (freshCluster.set false (walLeader 1 {} .idle)) false 1 firstId

/-- The second leader has taken over and published a base of its own. -/
def secondPublished : State Bool :=
  publishedBy (firstPublished.set true (walLeader 2 {} .idle)) true 2 secondId

theorem firstPublished_reachable : OrderlyRun firstPublished := by
  have begun : OrderlyRun freshCluster :=
    .start ⟨⟨rfl, rfl, rfl, rfl, fun _ => rfl, fun _ => ⟨.wal, rfl⟩⟩, fun _ _ => rfl,
      fun _ _ => rfl, by rintro stored ⟨⟩⟩
  have leads : OrderlyRun (freshCluster.set false (walLeader 1 {} .idle)) :=
    .next begun (show Orderly secondLeads _ (.promote false 1 .emptyBucket) from
      ⟨by decide, .inr ⟨rfl, rfl⟩⟩)
      (@Step.promote _ _ _ _ freshCluster false 1 .emptyBucket rfl (fun _ => rfl))
  have started : OrderlyRun (startedBy _ false 1 firstId) :=
    startedBy_reachable leads rfl (by decide : '/' ∉ firstUuid.toList) rfl rfl
  exact publishedBy_reachable (sentBy_reachable started (by rintro _ ⟨⟩))

theorem secondPublished_reachable : OrderlyRun secondPublished := by
  have leads : OrderlyRun (firstPublished.set true (walLeader 2 {} .idle)) :=
    .next firstPublished_reachable
      (show Orderly secondLeads _ (.promote true 2 .swapped) from ⟨by decide, .inl rfl⟩)
      (@Step.promote _ _ _ _ firstPublished true 2 .swapped rfl Promotion.noConfusion)
  have started : OrderlyRun (startedBy _ true 2 secondId) :=
    startedBy_reachable leads rfl (by decide : '/' ∉ secondUuid.toList) rfl (by decide)
  refine publishedBy_reachable (sentBy_reachable started ?_)
  rintro _ ⟨⟩
  simp [baseRequest]

/-- A page the second leader commits, and the capture that reads it. -/
def page : WalFormat.Frame := ⟨1, 1, List.replicate 512 0⟩

def commit : Captured where
  batches := [(512, [page])]
  cursor := none
  knownEnd := none
  restartOk := false
  truncated := false
  rotated := false
  drained := true
  lost := none

def publishedShipper : Shipper := (startedShipper secondId).published secondId

def segmentEntry : Pending := ⟨secondId, 0, oneFrameSegment 512 0 page⟩

def segmentPut : SegmentPut := ⟨secondId, 0, oneFrameSegment 512 0 page, 2⟩

def queuedShipper : Shipper :=
  (publishedShipper.adopt commit).pushSegments (publishedGeneration secondId)
    [(oneFrameSegment 512 0 page, 1)]

/-- The second leader's first segment is in the bucket. -/
def segmentStored : State Bool :=
  (((secondPublished.set true (walLeader 2 publishedShipper .shipping)).set true
    (walLeader 2 queuedShipper .uploading)).sendSegment true
    (walLeader 2 queuedShipper (.sendingSegment segmentEntry)) segmentPut).landSegment segmentPut

theorem page_length : page.page.length = (512 : UInt32).toNat := by
  rw [page, length_replicate]
  rfl

theorem afterCapture_commit :
    afterCapture storedCodec true commit publishedShipper = queuedShipper :=
  queueSegments_oneFrame rfl rfl page_length

theorem segmentStored_reachable : OrderlyRun segmentStored := by
  have shipping : OrderlyRun (secondPublished.set true (walLeader 2 publishedShipper .shipping)) :=
    OrderlyRun.acts secondPublished_reachable
      (@Step.advance _ _ _ _ secondPublished true _ (.listFailed rfl))
  have queued : OrderlyRun
      ((secondPublished.set true (walLeader 2 publishedShipper .shipping)).set true
        (walLeader 2 queuedShipper .uploading)) := by
    rw [← afterCapture_commit]
    exact OrderlyRun.acts shipping (@Step.advance _ _ _ _ _ true _ (.capture rfl true commit rfl))
  have sent := OrderlyRun.acts queued (@Step.sendSegment _ _ _ _ _ true segmentEntry [] rfl rfl rfl)
  exact .next sent (show Orderly secondLeads _ (.landSegment segmentPut) from trivial)
    (.landSegment mem_cons_self rfl)

/-- The first leader, which has not learnt that it was replaced, lists the segments and
deletes what is not of its own generation. -/
def segmentLost : State Bool :=
  (((segmentStored.set false (walLeader 1 ((startedShipper firstId).published firstId)
    (.deleting [(secondId, 0)]))).sendDelete false
    (walLeader 1 ((startedShipper firstId).published firstId) (.deleting [])) ⟨1, secondId, 0⟩
    ).landDelete ⟨1, secondId, 0⟩)

/-- Everything an orderly run demands but of the cleanup. -/
def DistinctFences (owner : Int64 → Id) (state : State Id) : Event Id → Prop
  | .landDelete _ => True
  | event => Orderly owner state event

theorem segmentLost_reachable :
    Reachable Unshipped (Step "meta.db" storedCodec) (DistinctFences secondLeads)
      segmentLost := by
  have stored : Reachable Unshipped (Step "meta.db" storedCodec) (DistinctFences secondLeads)
      segmentStored := by
    apply segmentStored_reachable.mono
    rintro _ (_ | _ | _ | _ | _) orderly
    all_goals first | exact orderly | trivial
  have found : ∀ entry ∈ [(secondId, 0)], (segmentStored.segments entry.1 entry.2).isSome ∧
      cleanupKeeps "meta.db" (some firstId) entry.1 entry.2 = false := by
    intro _ member
    rw [mem_singleton.mp member]
    exact ⟨rfl, by decide⟩
  have listed : Reachable Unshipped (Step "meta.db" storedCodec) (DistinctFences secondLeads)
      (segmentStored.set false (walLeader 1 ((startedShipper firstId).published firstId)
        (.deleting [(secondId, 0)]))) :=
    .next stored (show DistinctFences secondLeads _ (.process false) from trivial)
      (@Step.list _ _ _ _ segmentStored false (some firstId) _ rfl found)
  have sent := Reachable.next listed
    (show DistinctFences secondLeads _ (.process false) from trivial)
    (@Step.delete _ _ _ _ _ false secondId 0 [] rfl)
  exact .next sent (show DistinctFences secondLeads _ (.landDelete ⟨1, secondId, 0⟩) from trivial)
    (.landDelete mem_cons_self)

/-- A former leader's cleanup deletes a segment of the generation that the snapshot key
names: readers of that generation silently fall back to its base. -/
theorem publishedSegments_lost :
    Reachable Unshipped (Step "meta.db" storedCodec) (DistinctFences secondLeads)
        segmentLost ∧
      (∃ stored, segmentLost.snapshot.value? = some stored ∧
        generationOf stored.entries = some secondId) ∧
      (segmentLost.uploaded secondId 0).isSome ∧ segmentLost.segments secondId 0 = none := by
  refine ⟨segmentLost_reachable, ⟨_, rfl, ?_⟩, rfl, rfl⟩
  decide

theorem publishedSegments_kept_takeover :
    (segmentStored.uploaded secondId 0).isSome ∧
      (∀ seq, segmentStored.segments secondId seq = segmentStored.uploaded secondId seq) ∧
      ∀ seq, (segmentStored.uploaded secondId seq).isSome →
        ∀ earlier < seq, (segmentStored.segments secondId earlier).isSome := by
  refine ⟨rfl, publishedSegments_kept segmentStored_reachable rfl (List.Perm.refl _) ?_⟩
  decide

theorem generations_of_one_term_takeover :
    segmentStored.segments secondId 0 = some segmentPut.stored ∧
      ∀ stored ∈ segmentStored.snapshot.value?, generationOf stored.entries = some secondId →
        parseFence stored.entries = parseFence segmentPut.stored.metadata.entries :=
  ⟨rfl, (generations_of_one_term segmentStored_reachable 0 rfl).2⟩

end Addons.PublishedSegments
