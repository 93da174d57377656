import Addons.ReplicaAgreement

/-!
# Incremental following agrees with a fresh rebuild

Whenever a poll succeeds the copy is the file that a replay of the bucket's contiguous
segments gives, and both hold whole transactions only.
-/

namespace Addons.WalFollowing

open WalFormat WalSegments TransitionSystem SnapshotMetadata List Transaction Standby

/-! ## Polls of a generation -/

variable {codec : SegmentCodec} {base : Base} {bucket : Bucket} {env : Surroundings}
  {standby after : Standby} {replica : Replica} {bytes : List (List UInt8)} {key : String}
  {keys : List String} {keyPrefix : String}

theorem fetchSegment_error {error : SyncError}
    (failed : fetchSegment bucket env key = .error error) :
    ∃ message, error = .objectStore message := by
  unfold fetchSegment at failed
  split at failed
  next message _ =>
    cases failed
    exact ⟨message, rfl⟩
  next =>
    cases found : bucket.getObject key with
    | none =>
      rw [found] at failed
      cases failed
      exact ⟨_, rfl⟩
    | some =>
      rw [found] at failed
      cases failed

theorem takeSegment_cases {result : Except SyncError Unit}
    (ran : standby.takeSegment codec bucket env replica key = (result, after)) :
    (result = .ok () ∧ ∃ next, after.replica = some next ∧ next.nextSeq = replica.nextSeq + 1) ∨
      (∃ message, result = .error (.objectStore message)) ∧ after = standby ∨
      (∃ cause, result = .error (.segment key cause)) ∧ after = standby ∨
      (∃ cause, result = .error (.applySegment key cause)) ∧ after.replica = none ∨
      ∃ op, result = .error (.io op) := by
  unfold takeSegment at ran
  split at ran
  next _ fetched =>
    obtain ⟨message, rfl⟩ := fetchSegment_error fetched
    cases ran
    exact .inr (.inl ⟨⟨message, rfl⟩, rfl⟩)
  next _ _ =>
    split at ran
    next cause _ =>
      cases ran
      exact .inr (.inr (.inl ⟨⟨cause, rfl⟩, rfl⟩))
    next _ _ =>
      split at ran
      next =>
        unfold applyLast at ran
        split at ran
        next =>
          cases ran
          exact .inl ⟨rfl, _, rfl, rfl⟩
        next cause _ =>
          cases ran
          exact .inr (.inr (.inr (.inl ⟨⟨cause, rfl⟩, rfl⟩)))
      next =>
        unfold spoolSegment at ran
        dsimp only at ran
        split at ran
        next =>
          cases ran
          exact .inr (.inr (.inr (.inr ⟨_, rfl⟩)))
        next =>
          cases ran
          exact .inl ⟨rfl, _, rfl, rfl⟩

theorem nextSeq_of_taken
    (taken : standby.takeSegment codec bucket env replica key = (.ok (), after)) :
    ∃ next, after.replica = some next ∧ next.nextSeq = replica.nextSeq + 1 := by
  rcases takeSegment_cases taken with ⟨-, found⟩ | ⟨⟨_, other⟩, -⟩ | ⟨⟨_, other⟩, -⟩ |
    ⟨⟨_, other⟩, -⟩ | ⟨_, other⟩
  · exact found
  all_goals cases other

section

variable (current : standby.replica = some replica)
include current

theorem applyKeys_rejected {cause : Error}
    (ran : standby.applyKeys codec bucket env keyPrefix keys =
      (.error (.segment key cause), after)) :
    (∃ front rest, keys = front ++ key :: rest ∧
        standby.applyKeys codec bucket env keyPrefix front = (.ok false, after)) ∧
      ∃ seq, segmentSeq key keyPrefix = some seq ∧ replica.nextSeq ≤ seq ∧
        (seq = replica.nextSeq → after = standby) := by
  induction keys generalizing standby replica with
  | nil => cases ran
  | cons first keys ih =>
    rcases applyKeys_cons current ran with ⟨below, rest⟩ | ⟨_, -, -, failed, -⟩ |
      ⟨numbered, ⟨reached, taken, rest⟩ | ⟨error, taken, failed⟩⟩
    · obtain ⟨⟨front, others, split, before⟩, last⟩ := ih current rest
      refine ⟨⟨first :: front, others, by rw [split]; rfl, ?_⟩, last⟩
      rw [applyKeys, current]
      cases numbered : segmentSeq first keyPrefix with
      | none => exact before
      | some seq => exact (if_pos (below seq numbered)).trans before
    · cases failed
    · obtain ⟨_, nextEq, _⟩ := nextSeq_of_taken taken
      obtain ⟨⟨front, others, split, before⟩, seq, seqEq, _, -⟩ := ih nextEq rest
      refine ⟨⟨first :: front, others, by rw [split]; rfl, ?_⟩, seq, seqEq, ?_, ?_⟩
      · rw [applyKeys, current, numbered]
        dsimp only
        rw [if_neg (Nat.lt_irrefl _), if_neg (Nat.lt_irrefl _), taken]
        exact before
      · omega
      · intro same
        omega
    · cases failed
      rcases takeSegment_cases taken with ⟨other, -⟩ | ⟨⟨_, other⟩, -⟩ | ⟨⟨_, same⟩, rfl⟩ |
        ⟨⟨_, other⟩, -⟩ | ⟨_, other⟩
      case inr.inr.inl =>
        cases same
        exact ⟨⟨[], keys, rfl, rfl⟩, _, numbered, Nat.le_refl _, fun _ => rfl⟩
      all_goals cases other

theorem applyKeys_discarded {cause : Error}
    (ran : standby.applyKeys codec bucket env keyPrefix keys =
      (.error (.applySegment key cause), after)) : after.replica = none := by
  induction keys generalizing standby replica with
  | nil => cases ran
  | cons _ _ ih =>
    rcases applyKeys_cons current ran with ⟨-, rest⟩ | ⟨_, -, -, failed, -⟩ |
      ⟨-, ⟨reached, taken, rest⟩ | ⟨error, taken, failed⟩⟩
    · exact ih current rest
    · cases failed
    · obtain ⟨_, nextEq, -⟩ := nextSeq_of_taken taken
      exact ih nextEq rest
    · cases failed
      rcases takeSegment_cases taken with ⟨other, -⟩ | ⟨⟨_, other⟩, -⟩ | ⟨⟨_, other⟩, -⟩ |
        ⟨-, gone⟩ | ⟨_, other⟩
      case inr.inr.inr.inl => exact gone
      all_goals cases other

end

theorem inStep_listKeys (tracks : Tracks codec base bucket standby replica bytes) :
    InStep base.segments bucket bytes [] (bucket.listKeys base.segments) := by
  constructor
  · exact Bucket.numbered_listKeys base.segments
  · intro _ _ seq _
    exact Nat.zero_le seq
  · rfl
  · exact Nat.zero_le _
  · intro seq object _ found
    obtain ⟨key, member, numbered⟩ := tracks.stored seq object found
    exact ⟨key, Bucket.mem_listKeys_of_segment member numbered, member, numbered⟩

theorem applySegments_cases (current : standby.replica = some replica)
    {result : Except SyncError Bool}
    (ran : standby.applySegments codec bucket env base = (result, after)) :
    (∃ message, result = .error (.objectStore message)) ∧ after = standby ∨
      standby.applyKeys codec bucket env
        (generationPrefix base.key replica.generation)
        (bucket.listKeys (generationPrefix base.key replica.generation)) =
          (result, after) := by
  unfold applySegments at ran
  rw [current] at ran
  dsimp only at ran
  split at ran
  next message _ =>
    cases ran
    exact .inl ⟨⟨message, rfl⟩, rfl⟩
  next => exact .inr ran

section

variable (tracks : Tracks codec base bucket standby replica bytes)
include tracks

theorem Tracks.segments_eq : generationPrefix base.key replica.generation = base.segments := by
  rw [tracks.generation]
  rfl

theorem Tracks.applySegments (current : standby.replica = some replica)
    {result : Except SyncError Bool}
    (ran : standby.applySegments codec bucket env base = (result, after)) :
    ∀ next, after.replica = some next → ∃ bytes, Tracks codec base bucket after next bytes := by
  rcases applySegments_cases current ran with ⟨-, rfl⟩ | looped
  · intro _ nextEq
    cases current.symm.trans nextEq
    exact ⟨bytes, tracks⟩
  · rw [tracks.segments_eq] at looped
    exact tracks.applyKeys current looped

theorem Tracks.applySegments_ok (current : standby.replica = some replica) {gap : Bool}
    (ran : standby.applySegments codec bucket env base = (.ok gap, after)) :
    ∃ next bytes, after.replica = some next ∧ Tracks codec base bucket after next bytes ∧
      (contiguousSegments (bucket.listKeys base.segments) base.segments).map bucket.getObject =
        bytes.map some := by
  rcases applySegments_cases current ran with ⟨⟨_, failed⟩, -⟩ | looped
  · cases failed
  · rw [tracks.segments_eq] at looped
    exact tracks.contiguous current (inStep_listKeys tracks) looped

end

theorem tracks_freshCopy (ran : standby.freshCopy env base = (.ok (), after)) :
    ∃ replica, after.replica = some replica ∧ Tracks codec base bucket after replica [] := by
  unfold freshCopy at ran
  split at ran
  next => cases ran
  next => cases ran
  next _ _ =>
    split at ran
    next => cases ran
    next =>
      cases ran
      refine ⟨_, rfl, rfl, rfl, ?_, ?_⟩
      · intro _ _ found
        cases found
      · exact ⟨{ db := base.plain }, rfl, rfl, rfl, spooled_nil⟩

theorem replica_dropReplica : (standby.dropReplica env).replica = none := by
  unfold dropReplica
  split
  next current => exact current
  next => rfl

theorem freshCopy_error {error : SyncError}
    (ran : standby.freshCopy env base = (.error error, after)) : after.replica = none := by
  unfold freshCopy at ran
  split at ran
  next =>
    cases ran
    exact replica_dropReplica
  next =>
    cases ran
    exact replica_dropReplica
  next =>
    split at ran
    next =>
      cases ran
      exact replica_dropReplica
    next => cases ran

/-- A poll stops without a copy, or applies segments to a copy that amounts to some. -/
theorem followGeneration_cases {verify : Bool} {result : Except SyncError Unit}
    (sound : Sound codec base ⟨bucket, standby⟩)
    (ran : standby.followGeneration codec bucket env base verify = (result, after)) :
    (∃ error, result = .error error) ∧ after.replica = none ∨
      ∃ ready replica bytes applied, ready.replica = some replica ∧
        Tracks codec base bucket ready replica bytes ∧
        ready.applySegments codec bucket env base = (applied, after) ∧
        result = after.conclude env base verify applied := by
  unfold followGeneration at ran
  split at ran
  next error _ prepared =>
    cases ran
    split at prepared
    next => cases prepared
    next => exact .inl ⟨⟨error, rfl⟩, freshCopy_error prepared⟩
  next ready prepared =>
    cases applied : ready.applySegments codec bucket env base with
    | mk outcome =>
      rw [applied] at ran
      cases ran
      split at prepared
      next reused =>
        cases prepared
        obtain ⟨replica, current, -⟩ := (Option.any_eq_true _ _).mp reused
        obtain ⟨bytes, tracks⟩ := sound replica current
        exact .inr ⟨standby, replica, bytes, outcome, current, tracks, applied, rfl⟩
      next =>
        obtain ⟨replica, current, tracks⟩ := @tracks_freshCopy codec _ bucket _ _ _ prepared
        exact .inr ⟨ready, replica, [], outcome, current, tracks, applied, rfl⟩

theorem conclude_ok {verify : Bool} {applied : Except SyncError Bool}
    (concluded : standby.conclude env base verify applied = .ok ()) : ∃ gap, applied = .ok gap := by
  obtain ⟨-, -, concluded⟩ := bind_eq_ok concluded
  obtain ⟨-, -, concluded⟩ := bind_eq_ok concluded
  obtain ⟨-, -, concluded⟩ := bind_eq_ok concluded
  obtain ⟨gap, appliedEq, -⟩ := bind_eq_ok concluded
  exact ⟨gap, appliedEq⟩

theorem Sound.step {world next : World} {event : Event} (sound : Sound codec base world)
    (taken : Step codec base world event next) : Sound codec base next := by
  cases taken with
  | grow grows =>
    intro replica current
    obtain ⟨bytes, tracks⟩ := sound replica current
    refine ⟨bytes, tracks.generation, tracks.count, ?_, tracks.copied⟩
    intro seq object found
    obtain ⟨key, member, numbered⟩ := tracks.stored seq object found
    exact ⟨key, grows _ member, numbered⟩
  | poll =>
    intro replica current
    rcases followGeneration_cases sound rfl with ⟨-, gone⟩ |
      ⟨ready, old, bytes, applied, oldEq, tracks, ran, -⟩
    · cases gone.symm.trans current
    · exact tracks.applySegments oldEq ran replica current
  | handOver =>
    intro _ current
    cases replica_dropReplica.symm.trans current

theorem sound_of_reachable {world : World}
    (reached : Reachable Initial (Step codec base) (fun _ _ => True) world) :
    Sound codec base world := by
  apply reached.invariant
  · intro world initially _ current
    cases initially.symm.trans current
  · intro _ _ _ sound _ taken
    exact sound.step taken

variable {codec : SegmentCodec} {base : Base} {bucket : Bucket} {bytes : List (List UInt8)}
  {key keyPrefix : String} {keys : List String}

def Decodes (codec : SegmentCodec) (bucket : Bucket) (keys : List String)
    (segments : List Segment) : Prop :=
  List.Forall₂ (fun key segment => ∃ object, bucket.getObject key = some object ∧
    decodeSegment codec object = .ok segment) keys segments

theorem decodes_of_stored {segments : List Segment}
    (stored : keys.map bucket.getObject = bytes.map some)
    (decoded : List.Forall₂ (fun object segment => decodeSegment codec object = .ok segment)
      bytes segments) : Decodes codec bucket keys segments := by
  induction decoded generalizing keys with
  | nil =>
    cases map_eq_nil_iff.mp stored
    exact .nil
  | cons first _ ih =>
    obtain ⟨_, _, rfl, keyEq, restEq⟩ := map_eq_cons_iff.mp stored
    exact .cons ⟨_, keyEq, first⟩ (ih restEq)

theorem mem_contiguousFrom {out : List String} (member : key ∈ contiguousFrom keyPrefix out keys) :
    key ∈ out ∨ key ∈ keys := by
  induction keys generalizing out with
  | nil => exact .inl member
  | cons _ _ ih =>
    unfold contiguousFrom at member
    split at member
    next =>
      split at member
      next =>
        rcases ih member with old | later
        · rcases mem_append.mp old with older | new
          · exact .inl older
          · exact .inr (mem_singleton.mp new ▸ mem_cons_self)
        · exact .inr (mem_cons_of_mem _ later)
      next => exact .inl member
    next =>
      rcases ih member with old | later
      · exact .inl old
      · exact .inr (mem_cons_of_mem _ later)

theorem exists_stored (listed : ∀ key ∈ keys, ∃ object, (key, object) ∈ bucket.objects) :
    ∃ bytes, keys.map bucket.getObject = List.map some bytes := by
  induction keys with
  | nil => exact ⟨[], rfl⟩
  | cons key _ ih =>
    obtain ⟨object, member⟩ := listed key mem_cons_self
    obtain ⟨bytes, stored⟩ := ih fun other later => listed other (mem_cons_of_mem _ later)
    refine ⟨object :: bytes, ?_⟩
    rw [map_cons, map_cons, stored, Bucket.getObject_eq_some_iff.mpr member]

/-- The segments of the base's generation that a reader of the bucket can apply. -/
def Base.contiguous (base : Base) (bucket : Bucket) : List String :=
  contiguousSegments (bucket.listKeys base.segments) base.segments

theorem replayKeys_settled {replay : Replay}
    (replayed : replayKeys codec bucket (base.contiguous bucket) base.plain = .ok replay) :
    ∃ segments, Decodes codec bucket (base.contiguous bucket) segments ∧
      replay.db = writeSegments base.plain (settled segments) := by
  have listed : ∀ key ∈ base.contiguous bucket, ∃ object, (key, object) ∈ bucket.objects := by
    intro _ member
    rcases mem_contiguousFrom member with none | listed
    · cases none
    · exact Bucket.exists_of_mem_listKeys listed
  obtain ⟨_, stored⟩ := exists_stored listed
  rcases @replayKeys_agrees codec _ base.plain _ _ stored with
    ⟨rebuilt, same, built, sameEq, agrees⟩ | ⟨_, _, -, failed⟩
  · cases replayed.symm.trans sameEq
    obtain ⟨segments, decoded, -, dbEq⟩ := rebuild_ok built
    exact ⟨segments, decodes_of_stored stored decoded, agrees.db.trans dbEq⟩
  · cases replayed.symm.trans failed

/-- Polls agree with a replay of the same bucket, and both end on a commit; a rejected segment
leaves what the segments before it left, and a failed replay discards the copy. -/
theorem followGeneration_agrees {world : World}
    (reached : Reachable Initial (Step codec base) (fun _ _ => True) world) :
    (∀ env verify after,
      world.standby.followGeneration codec world.bucket env base verify = (.ok (), after) →
        ∃ replica segments replay, after.replica = some replica ∧
          replica.nextSeq = (base.contiguous world.bucket).length ∧
          Decodes codec world.bucket (base.contiguous world.bucket) segments ∧
          after.file = some (writeSegments base.plain (settled segments)) ∧
          (∀ last ∈ (settled segments).getLast?, endsOnCommit last = true) ∧
          replayKeys codec world.bucket (base.contiguous world.bucket) base.plain = .ok replay ∧
          after.file = some replay.db) ∧
      (∀ replay,
        replayKeys codec world.bucket (base.contiguous world.bucket) base.plain = .ok replay →
          ∃ segments, Decodes codec world.bucket (base.contiguous world.bucket) segments ∧
            replay.db = writeSegments base.plain (settled segments)) ∧
      (∀ standby env key cause after,
        Standby.applySegments codec world.bucket env base standby =
            (.error (.segment key cause), after) →
          ∃ replica seq front rest, standby.replica = some replica ∧
            world.bucket.listKeys (generationPrefix base.key replica.generation) =
              front ++ key :: rest ∧
            standby.applyKeys codec world.bucket env
              (generationPrefix base.key replica.generation) front = (.ok false, after) ∧
            segmentSeq key (generationPrefix base.key replica.generation) = some seq ∧
            (seq = replica.nextSeq → after = standby)) ∧
      ∀ standby env key cause after,
        Standby.applySegments codec world.bucket env base standby =
            (.error (.applySegment key cause), after) → after.replica = none := by
  refine ⟨?_, ?_, ?_, ?_⟩
  · intro env _ after ran
    rcases followGeneration_cases (sound_of_reachable reached) ran with ⟨⟨_, failed⟩, -⟩ |
      ⟨ready, old, bytes, applied, oldEq, tracks, applying, concluded⟩
    · cases failed
    · obtain ⟨_, rfl⟩ := conclude_ok concluded.symm
      obtain ⟨replica, _, current, following, stored⟩ :=
        tracks.applySegments_ok oldEq applying
      obtain ⟨_, built, fileEq, -, -⟩ := following.copied
      obtain ⟨segments, decoded, -, dbEq⟩ := rebuild_ok built
      rcases @replayKeys_agrees codec _ base.plain _ _ stored with
        ⟨same, replay, sameEq, replayed, agrees⟩ | ⟨_, _, failed, -⟩
      · cases built.symm.trans sameEq
        have lengths := congrArg List.length stored
        rw [length_map, length_map] at lengths
        refine ⟨replica, segments, replay, current, following.count.trans lengths.symm,
          decodes_of_stored stored decoded, ?_, getLast_settled segments, replayed, ?_⟩
        · rw [fileEq, dbEq]
        · rw [fileEq, agrees.db]
      · cases built.symm.trans failed
  · intro _ replayed
    exact replayKeys_settled replayed
  · intro standby env key cause after ran
    cases current : standby.replica with
    | none => simp [Standby.applySegments, current] at ran
    | some replica =>
      rcases applySegments_cases current ran with ⟨⟨_, other⟩, -⟩ | looped
      · cases other
      · obtain ⟨⟨front, rest, split, before⟩, seq, numbered, -, same⟩ :=
          applyKeys_rejected current looped
        exact ⟨replica, seq, front, rest, rfl, split, before, numbered, same⟩
  · intro standby _ _ _ _ ran
    cases current : standby.replica with
    | none => simp [Standby.applySegments, current] at ran
    | some =>
      rcases applySegments_cases current ran with ⟨⟨_, other⟩, -⟩ | looped
      · cases other
      · exact applyKeys_discarded current looped

/-- A page that begins with the header of a database of 512-byte pages. -/
def headerPage (fill : UInt8) : List UInt8 :=
  sqliteMagic ++ [2, 0] ++ List.replicate 493 0 ++ [fill]

def emptyBase : Base := ⟨"forklift.db", "g", headerPage 0, some "etag"⟩

def packed (firstFrame : UInt64) (frames : List Frame) : List UInt8 :=
  (encodeSegment storedCodec 512 firstFrame frames).toOption.getD []

def committed : List UInt8 := packed 0 [⟨1, 1, headerPage 1⟩]

/-- The same transaction with the first page of another one. -/
def unfinished : List UInt8 := packed 0 [⟨1, 1, headerPage 1⟩, ⟨1, 0, headerPage 2⟩]

def emptyBucket : Bucket := ⟨[], .nil⟩

def withSegments (first second : List UInt8) : Bucket where
  objects := [(segmentKey "forklift.db" "g" 0, first), (segmentKey "forklift.db" "g" 1, second)]
  sorted := show [segmentKey "forklift.db" "g" 0, segmentKey "forklift.db" "g" 1].Pairwise (· < ·)
    by decide +kernel

def withSegment (first : List UInt8) : Bucket where
  objects := [(segmentKey "forklift.db" "g" 0, first)]
  sorted := List.pairwise_singleton _ _

def calm : Surroundings := { download := .ok (some (some "etag")), recheck := .ok (some "etag") }

/-- A standby that downloaded the base before the bucket had segments. -/
def firstPoll : World where
  bucket := emptyBucket
  standby := (Standby.followGeneration storedCodec emptyBucket calm emptyBase false {}).2

def polled (bucket : Bucket) : World := { firstPoll with bucket := bucket }

theorem polled_reachable (bucket : Bucket) :
    Reachable Initial (Step storedCodec emptyBase) (fun _ _ => True) (polled bucket) := by
  have start : Reachable Initial (Step storedCodec emptyBase) (fun _ _ => True) ⟨emptyBucket, {}⟩ :=
    .start rfl
  have first : Step storedCodec emptyBase ⟨emptyBucket, {}⟩ (.poll calm false) firstPoll :=
    Step.poll calm false
  have grown : Step storedCodec emptyBase firstPoll (.grow bucket) (polled bucket) := by
    apply Step.grow
    intro _ member
    cases member
  exact (start.next trivial first).next trivial grown

theorem eq_mk_of_fst {α β : Type} {pair : α × β} {first : α} (same : pair.1 = first) :
    pair = (first, pair.2) := by
  rw [← same]

/-- The frames of a segment that ends inside a transaction. -/
def unfinishedSegment : Segment := ⟨512, 0, [⟨1, 1, headerPage 1⟩, ⟨1, 0, headerPage 2⟩]⟩

/-- A poll that rejects the second segment has applied the first; and a segment that ends
inside a transaction is spooled with the transaction that it finishes. -/
theorem followGeneration_progress :
    (∃ world key cause after,
      Reachable Initial (Step storedCodec emptyBase) (fun _ _ => True) world ∧
      world.standby.applySegments storedCodec world.bucket calm emptyBase =
        (.error (.segment key cause), after) ∧
      after.replica ≠ world.standby.replica ∧ after.file ≠ world.standby.file) ∧
      ∃ world after segments,
        Reachable Initial (Step storedCodec emptyBase) (fun _ _ => True) world ∧
        world.standby.followGeneration storedCodec world.bucket calm emptyBase false =
          (.ok (), after) ∧
        Decodes storedCodec world.bucket (emptyBase.contiguous world.bucket) segments ∧
        after.file ≠ some (((segments.flatMap Segment.frames).rdropWhile fun frame =>
          frame.commit = 0).foldl (writeFrame 512) emptyBase.plain) := by
  constructor
  · refine ⟨polled (withSegments committed []), segmentKey "forklift.db" "g" 1,
      .invalid "not a forklift wal segment", _, polled_reachable _, eq_mk_of_fst ?_, ?_, ?_⟩
    all_goals decide +kernel
  · have keys : emptyBase.contiguous (withSegment unfinished) =
        [segmentKey "forklift.db" "g" 0] := by
      decide +kernel
    refine ⟨polled (withSegment unfinished), _, [unfinishedSegment], polled_reachable _,
      eq_mk_of_fst ?_, ?_, ?_⟩
    · decide +kernel
    · change Decodes _ (withSegment unfinished) (emptyBase.contiguous (withSegment unfinished)) _
      rw [keys]
      refine .cons ⟨unfinished, ?_, ?_⟩ .nil
      all_goals decide +kernel
    · decide +kernel

/-- A standby catches up with a segment that came after its first poll. -/
theorem followGeneration_agrees_polled :
    ∃ after replay,
      (polled (withSegment committed)).standby.followGeneration storedCodec (withSegment committed)
        calm emptyBase true = (.ok (), after) ∧
      replayKeys storedCodec (withSegment committed) (emptyBase.contiguous (withSegment committed))
        emptyBase.plain = .ok replay ∧
      after.file = some replay.db := by
  have succeeds : ((polled (withSegment committed)).standby.followGeneration storedCodec
      (withSegment committed) calm emptyBase true).1 = .ok () := by
    decide +kernel
  have ran := eq_mk_of_fst succeeds
  obtain ⟨-, -, replay, -, -, -, -, -, replayed, same⟩ :=
    (followGeneration_agrees (polled_reachable (withSegment committed))).1 calm true _ ran
  exact ⟨_, replay, ran, replayed, same⟩

end Addons.WalFollowing
