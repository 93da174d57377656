import Addons.TransitionSystem
import Addons.WalReplay

/-!
# Following a generation agrees with a fresh replay

The copy that a poll leaves is the base with the frames of the contiguous segments up to
the last one that ends on a commit, and a replay of the same segments gives the same file.
Blocking tasks neither panic nor are cancelled, so that joining them does not fail.
-/

namespace Addons.WalFollowing

open WalFormat WalSegments DecimalText SnapshotMetadata

structure Base where
  key : String
  generation : String
  plain : List UInt8
  etag : Option String

def Base.segments (base : Base) : String := generationPrefix base.key base.generation

structure Replica where
  generation : String
  baseEtag : Option String
  nextSeq : Nat := 0
  nextFrame : UInt64 := 0
  spool : List String := []
  deriving DecidableEq

/-- Move on to the next segment, whose frames are now part of the copy or spooled. -/
def Replica.advance (replica : Replica) (segment : Segment) (spool : List String) : Replica :=
  { replica with
    nextSeq := replica.nextSeq + 1
    nextFrame := replica.nextFrame + UInt64.ofNat segment.frames.length
    spool := spool }

/-- The standby's copy with the file at its path and the spooled files. -/
structure Standby where
  replica : Option Replica := none
  file : Option (List UInt8) := none
  files : Files := fun _ => none

/-- How everything outside answers during one poll. A failed download or replay leaves
`leftover` at the path of the copy; a failed write of a spooled segment leaves what
`spoolFails` tells; `stays` are the files that could not be removed. -/
structure Surroundings where
  statFails : Bool := false
  download : Except SyncError (Option (Option String)) := .ok (some none)
  listFails : Option String := none
  getFails : String → Option String := fun _ => none
  spoolFails : String → Option (Option (List UInt8)) := fun _ => none
  applyFails : String → Option Error := fun _ => none
  leftover : Option (List UInt8) := none
  stays : String → Bool := fun _ => false
  recheck : Except SyncError (Option String) := .ok none

def spoolFilePrefix : String := "spool-"

def spoolName (seq : Nat) : String := spoolFilePrefix ++ zeroPad 20 seq ++ ".seg"

def Files.remove (files : Files) (env : Surroundings) (condition : String → Bool) : Files :=
  fun name => if condition name && !env.stays name then none else files name

def Files.removeSpool (files : Files) (env : Surroundings) : Files :=
  files.remove env fun name => spoolFilePrefix.toList.isPrefixOf name.toList

namespace Standby

variable (codec : SegmentCodec) (bucket : Bucket) (env : Surroundings)

/-- Give the copy up; its spooled files go with it. -/
def dropReplica (standby : Standby) : Standby :=
  match standby.replica with
  | none => standby
  | some replica =>
    { standby with
      replica := none
      files := standby.files.remove env replica.spool.contains }

/-- Write a segment that ends a transaction onto the copy, after those spooled before it. -/
def applyCopy (standby : Standby) (replica : Replica) (key : String) (segment : Segment) :
    Except Error (List UInt8) :=
  match env.applyFails key with
  | some error => .error error
  | none =>
    match standby.file with
    | none => .error (.io "open database")
    | some db => applyRun codec standby.files db replica.spool segment

def fetchSegment (key : String) : Except SyncError (List UInt8) :=
  match env.getFails key with
  | some message => .error (.objectStore message)
  | none => (bucket.getObject key).elim (.error (.objectStore "download wal segment")) .ok

def applyLast (standby : Standby) (replica : Replica) (key : String) (segment : Segment) :
    Except SyncError Unit × Standby :=
  match standby.applyCopy codec env replica key segment with
  | .ok db =>
    (.ok (),
      { replica := some (replica.advance segment [])
        file := some db
        files := standby.files.remove env replica.spool.contains })
  | .error error =>
    -- The copy is then neither the old state nor the new.
    (.error (.applySegment key error),
      { replica := none, file := env.leftover, files := standby.files.removeSpool env })

/-- Spool a segment that ends inside a transaction. -/
def spoolSegment (standby : Standby) (replica : Replica) (segment : Segment) (bytes : List UInt8) :
    Except SyncError Unit × Standby :=
  let name := spoolName replica.nextSeq
  match env.spoolFails name with
  | some leftover =>
    (.error (.io "spool wal segment"),
      { standby with
        files := fun other => if other = name then leftover else standby.files other })
  | none =>
    (.ok (),
      { standby with
        replica := some (replica.advance segment (replica.spool ++ [name]))
        files := standby.files.write name bytes })

def takeSegment (standby : Standby) (replica : Replica) (key : String) :
    Except SyncError Unit × Standby :=
  match fetchSegment bucket env key with
  | .error error => (.error error, standby)
  | .ok bytes =>
    match decodeAt codec replica.nextFrame bytes with
    | .error error => (.error (.segment key error), standby)
    | .ok segment =>
      if endsOnCommit segment then standby.applyLast codec env replica key segment
      else standby.spoolSegment env replica segment bytes

/-- The loop of `applySegments`; it tells whether a gap stopped it. -/
def applyKeys (generationPrefix : String) (standby : Standby) :
    List String → Except SyncError Bool × Standby
  | [] => (.ok false, standby)
  | key :: keys =>
    match standby.replica, segmentSeq key generationPrefix with
    | some replica, some seq =>
      if seq < replica.nextSeq then applyKeys generationPrefix standby keys
      else if replica.nextSeq < seq then (.ok true, standby)
      else
        match standby.takeSegment codec bucket env replica key with
        | (.ok (), after) => applyKeys generationPrefix after keys
        | (.error error, after) => (.error error, after)
    | _, _ => applyKeys generationPrefix standby keys

/-- Apply the contiguous segments that are not applied yet. -/
def applySegments (base : Base) (standby : Standby) : Except SyncError Bool × Standby :=
  match standby.replica with
  | none => (.ok false, standby)
  | some replica =>
    match env.listFails with
    | some message => (.error (.objectStore message), standby)
    | none =>
      let generationPrefix := generationPrefix base.key replica.generation
      standby.applyKeys codec bucket env generationPrefix (bucket.listKeys generationPrefix)

def reuses (base : Base) (standby : Standby) : Bool :=
  standby.replica.any fun replica =>
    replica.generation = base.generation && replica.baseEtag.isSome &&
      replica.baseEtag = base.etag && !env.statFails && standby.file.isSome

def freshCopy (base : Base) (standby : Standby) : Except SyncError Unit × Standby :=
  let dropped := standby.dropReplica env
  match env.download with
  | .error error => (.error error, { dropped with file := env.leftover })
  | .ok none => (.error (.unavailable "snapshot vanished during download"), dropped)
  | .ok (some etag) =>
    match checkDbFile base.plain with
    | .error error =>
      (.error (.failedCheck "wal base failed its check" error),
        { dropped with file := some base.plain })
    | .ok () =>
      (.ok (),
        { replica := some { generation := base.generation, baseEtag := etag }
          file := some base.plain
          files := dropped.files.removeSpool env })

def refuseGap (base : Base) (verify : Bool) : Except SyncError Bool → Except SyncError Unit
  | .ok true =>
    if verify then
      .error (.unavailable
        s!"wal generation {base.generation} is missing a segment; refusing a partial restore")
    else .ok ()
  | _ => .ok ()

def recheckBase (base : Base) (verify : Bool) : Except SyncError Unit :=
  if verify then
    match env.recheck with
    | .error error => .error error
    | .ok etag =>
      if etag ≠ base.etag then
        .error (.unavailable "snapshot replaced while catching up; retrying")
      else .ok ()
  else .ok ()

def requireCopy (standby : Standby) : Except SyncError Unit :=
  if standby.replica.isNone then
    .error (.objectStore "standby copy discarded after a failed replay")
  else .ok ()

def checkCopy (verify : Bool) (standby : Standby) : Except SyncError Unit :=
  if verify then
    (checkDbFile (standby.file.getD [])).mapError
      (.failedCheck "replayed database failed its check")
  else .ok ()

/-- What a poll answers once the segments were applied. -/
def conclude (base : Base) (verify : Bool) (standby : Standby) (applied : Except SyncError Bool) :
    Except SyncError Unit := do
  refuseGap base verify applied
  recheckBase env base verify
  standby.requireCopy
  let _ ← applied
  standby.checkCopy verify

/-- Bring the copy up to date. -/
def followGeneration (base : Base) (verify : Bool) (standby : Standby) :
    Except SyncError Unit × Standby :=
  match if standby.reuses env base then (.ok (), standby) else standby.freshCopy env base with
  | (.error error, after) => (.error error, after)
  | (.ok (), ready) =>
    let (applied, after) := ready.applySegments codec bucket env base
    (after.conclude env base verify applied, after)

end Standby

structure World where
  bucket : Bucket
  standby : Standby

inductive Event where
  | grow (bucket : Bucket)
  | poll (env : Surroundings) (verify : Bool)
  /-- The copy is handed over or given up. -/
  | handOver (env : Surroundings) (left : Option (List UInt8))

inductive Step (codec : SegmentCodec) (base : Base) : World → Event → World → Prop where
  | grow {world : World} {bucket : Bucket} (grows : world.bucket.Extends bucket) :
      Step codec base world (.grow bucket) { world with bucket := bucket }
  | poll {world : World} (env : Surroundings) (verify : Bool) :
      Step codec base world (.poll env verify)
        { world with
          standby := (world.standby.followGeneration codec world.bucket env base verify).2 }
  | handOver {world : World} (env : Surroundings) (left : Option (List UInt8)) :
      Step codec base world (.handOver env left)
        { world with standby := { world.standby.dropReplica env with file := left } }

/-- Nothing is followed yet. -/
def Initial (world : World) : Prop := world.standby.replica = none

open Transaction TransitionSystem List Standby Nat

theorem spoolName_injective : Function.Injective spoolName := by
  intro first second same
  have padded : spoolFilePrefix ++ zeroPad 20 first = spoolFilePrefix ++ zeroPad 20 second :=
    String.append_left_inj _ |>.mp same
  exact zeroPad_injective 20 (String.append_right_inj _ |>.mp padded)

/-- The copy amounts to the given segments, all of which are in the bucket. -/
structure Tracks (codec : SegmentCodec) (base : Base) (bucket : Bucket) (standby : Standby)
    (replica : Replica) (bytes : List (List UInt8)) : Prop where
  generation : replica.generation = base.generation
  count : replica.nextSeq = bytes.length
  stored : ∀ seq object, bytes[seq]? = some object →
    ∃ key, (key, object) ∈ bucket.objects ∧ segmentSeq key base.segments = some seq
  copied : ∃ rebuilt, rebuild codec base.plain bytes = .ok rebuilt ∧
    standby.file = some rebuilt.db ∧ replica.nextFrame = rebuilt.nextFrame ∧
    Spooled codec spoolName bytes.length standby.files replica.spool rebuilt.pending

/-- Whatever copy there is amounts to some segments of the bucket. -/
def Sound (codec : SegmentCodec) (base : Base) (world : World) : Prop :=
  ∀ replica, world.standby.replica = some replica →
    ∃ bytes, Tracks codec base world.bucket world.standby replica bytes

variable {codec : SegmentCodec} {base : Base} {bucket : Bucket} {env : Surroundings}
  {standby after : Standby} {replica : Replica} {bytes : List (List UInt8)} {key : String}
  {object : List UInt8}

section Segments

theorem fetchSegment_ok (fetched : fetchSegment bucket env key = .ok object) :
    (key, object) ∈ bucket.objects := by
  unfold fetchSegment at fetched
  split at fetched
  next => cases fetched
  next =>
    cases found : bucket.getObject key with
    | none =>
      rw [found] at fetched
      cases fetched
    | some =>
      rw [found] at fetched
      cases fetched
      exact Bucket.getObject_eq_some_iff.mp found

theorem getElem?_concat {front : List (List UInt8)} {last : List UInt8} {seq : Nat}
    (found : (front ++ [last])[seq]? = some object) :
    front[seq]? = some object ∨ seq = front.length ∧ object = last := by
  rw [getElem?_append] at found
  split at found
  next => exact .inl found
  next _ =>
    rw [getElem?_singleton] at found
    obtain ⟨_, same⟩ := Option.ite_none_right_eq_some.mp found
    exact .inr ⟨by omega, (Option.some.inj same).symm⟩

theorem Tracks.extend (tracks : Tracks codec base bucket standby replica bytes) {segment : Segment}
    {spool : List String} {rebuilt : Rebuilt} (member : (key, object) ∈ bucket.objects)
    (numbered : segmentSeq key base.segments = some replica.nextSeq)
    (built : rebuild codec base.plain (bytes ++ [object]) = .ok rebuilt)
    (fileEq : after.file = some rebuilt.db)
    (nextFrame : replica.nextFrame + UInt64.ofNat segment.frames.length = rebuilt.nextFrame)
    (spooled : Spooled codec spoolName (bytes.length + 1) after.files spool rebuilt.pending) :
    Tracks codec base bucket after (replica.advance segment spool) (bytes ++ [object]) := by
  constructor
  · exact tracks.generation
  · rw [length_append]
    exact congrArg (· + 1) tracks.count
  · intro seq stored found
    rcases getElem?_concat found with old | ⟨rfl, rfl⟩
    · exact tracks.stored seq stored old
    · exact ⟨key, member, tracks.count ▸ numbered⟩
  · refine ⟨rebuilt, built, fileEq, nextFrame, ?_⟩
    rw [length_append]
    exact spooled

variable {result : Except SyncError Unit}

section

variable (tracks : Tracks codec base bucket standby replica bytes)
include tracks

theorem Tracks.applyLast {segment : Segment} (member : (key, object) ∈ bucket.objects)
    (numbered : segmentSeq key base.segments = some replica.nextSeq)
    (decoded : decodeAt codec replica.nextFrame object = .ok segment) (ends : endsOnCommit segment)
    (ran : standby.applyLast codec env replica key segment = (result, after)) :
    (result = .ok () ∧ ∃ next, after.replica = some next ∧
        Tracks codec base bucket after next (bytes ++ [object])) ∨
      (∃ error, result = .error (.applySegment key error)) ∧ after.replica = none := by
  obtain ⟨rebuilt, built, fileEq, frameEq, spooled⟩ := tracks.copied
  unfold Standby.applyLast at ran
  split at ran
  next db applied =>
    cases ran
    unfold applyCopy at applied
    split at applied
    next => cases applied
    next =>
      rw [fileEq] at applied
      have run : (rebuilt.pending ++ [segment]).foldlM applySegment rebuilt.db = .ok db :=
        (spooled.applyRun rebuilt.db segment).symm.trans applied
      have taken : rebuilt.take codec object =
          .ok ⟨db, rebuilt.nextFrame + UInt64.ofNat segment.frames.length, []⟩ := by
        rw [frameEq] at decoded
        unfold Rebuilt.take
        rw [decoded]
        simp only [bind, Except.bind, ends, if_true, run]
        rfl
      refine .inl ⟨rfl, _, rfl, ?_⟩
      apply tracks.extend member numbered (rebuild_concat built taken) rfl
      · rw [frameEq]
      · exact spooled_nil
  next error _ =>
    cases ran
    exact .inr ⟨⟨error, rfl⟩, rfl⟩

theorem Tracks.spoolSegment (current : standby.replica = some replica) {segment : Segment}
    (member : (key, object) ∈ bucket.objects)
    (numbered : segmentSeq key base.segments = some replica.nextSeq)
    (decoded : decodeAt codec replica.nextFrame object = .ok segment)
    (unfinished : endsOnCommit segment ≠ true)
    (ran : standby.spoolSegment env replica segment object = (result, after)) :
    (result = .ok () ∧ ∃ next, after.replica = some next ∧
        Tracks codec base bucket after next (bytes ++ [object])) ∨
      (∃ op, result = .error (.io op)) ∧ after.replica = some replica ∧
        Tracks codec base bucket after replica bytes := by
  obtain ⟨rebuilt, built, fileEq, frameEq, spooled⟩ := tracks.copied
  unfold Standby.spoolSegment at ran
  dsimp only at ran
  split at ran
  next _ _ =>
    cases ran
    refine .inr ⟨⟨_, rfl⟩, current, tracks.generation, tracks.count, tracks.stored, ?_⟩
    refine ⟨rebuilt, built, fileEq, frameEq, ?_⟩
    apply spooled.congr
    intro name member
    rw [tracks.count]
    exact if_neg (spooled.fresh spoolName_injective name member)
  next =>
    cases ran
    have taken : rebuilt.take codec object =
        .ok ⟨rebuilt.db, rebuilt.nextFrame + UInt64.ofNat segment.frames.length,
          rebuilt.pending ++ [segment]⟩ := by
      rw [frameEq] at decoded
      unfold Rebuilt.take
      rw [decoded]
      simp only [bind, Except.bind, unfinished]
      rfl
    refine .inl ⟨rfl, _, rfl, ?_⟩
    apply tracks.extend member numbered (rebuild_concat built taken) (by exact fileEq)
    · rw [frameEq]
    · rw [tracks.count]
      exact spooled.push spoolName_injective (decodeAt_ok decoded).1

/-- What taking a segment can do. -/
theorem Tracks.takeSegment (current : standby.replica = some replica)
    (numbered : segmentSeq key base.segments = some replica.nextSeq)
    (ran : standby.takeSegment codec bucket env replica key = (result, after)) :
    (result = .ok () ∧ ∃ next object, after.replica = some next ∧ (key, object) ∈ bucket.objects ∧
        Tracks codec base bucket after next (bytes ++ [object])) ∨
      (∃ error, result = .error error) ∧
        (after.replica = none ∨
          after.replica = some replica ∧ Tracks codec base bucket after replica bytes) := by
  unfold Standby.takeSegment at ran
  split at ran
  next error _ =>
    cases ran
    exact .inr ⟨⟨error, rfl⟩, .inr ⟨current, tracks⟩⟩
  next object fetched =>
    have member := fetchSegment_ok fetched
    split at ran
    next error _ =>
      cases ran
      exact .inr ⟨⟨_, rfl⟩, .inr ⟨current, tracks⟩⟩
    next _ decoded =>
      split at ran
      next ends =>
        rcases tracks.applyLast member numbered decoded ends ran with
          ⟨resultEq, next, nextEq, extended⟩ | ⟨⟨error, resultEq⟩, gone⟩
        · exact .inl ⟨resultEq, next, object, nextEq, member, extended⟩
        · exact .inr ⟨⟨_, resultEq⟩, .inl gone⟩
      next unfinished =>
        rcases tracks.spoolSegment current member numbered decoded unfinished ran with
          ⟨resultEq, next, nextEq, extended⟩ | ⟨⟨op, resultEq⟩, kept⟩
        · exact .inl ⟨resultEq, next, object, nextEq, member, extended⟩
        · exact .inr ⟨⟨_, resultEq⟩, .inr kept⟩

end

end Segments

section Keys

variable {keys out : List String} {generationPrefix : String} {result : Except SyncError Bool}

/-- What the loop does with a key: it skips it, stops before it or takes it. -/
theorem applyKeys_cons (current : standby.replica = some replica)
    (ran : standby.applyKeys codec bucket env generationPrefix (key :: keys) = (result, after)) :
    ((∀ seq, segmentSeq key generationPrefix = some seq → seq < replica.nextSeq) ∧
        standby.applyKeys codec bucket env generationPrefix keys = (result, after)) ∨
      (∃ seq, segmentSeq key generationPrefix = some seq ∧ replica.nextSeq < seq ∧
        result = .ok true ∧ after = standby) ∨
      segmentSeq key generationPrefix = some replica.nextSeq ∧
        ((∃ reached, standby.takeSegment codec bucket env replica key = (.ok (), reached) ∧
            reached.applyKeys codec bucket env generationPrefix keys = (result, after)) ∨
          ∃ error, standby.takeSegment codec bucket env replica key = (.error error, after) ∧
            result = .error error) := by
  unfold applyKeys at ran
  rw [current] at ran
  cases numbered : segmentSeq key generationPrefix with
  | none =>
    rw [numbered] at ran
    refine .inl ⟨?_, ran⟩
    intro seq found
    cases found
  | some seq =>
    rw [numbered] at ran
    dsimp only at ran
    split at ran
    next below =>
      refine .inl ⟨?_, ran⟩
      intro _ found
      cases found
      exact below
    next _ =>
      split at ran
      next above =>
        cases ran
        exact .inr (.inl ⟨seq, rfl, above, rfl, rfl⟩)
      next _ =>
        have seqEq : seq = replica.nextSeq := by omega
        refine .inr (.inr ⟨congrArg some seqEq, ?_⟩)
        split at ran
        next reached taken => exact .inl ⟨reached, taken, ran⟩
        next error _ taken =>
          cases ran
          exact .inr ⟨error, taken, rfl⟩

theorem Tracks.applyKeys (tracks : Tracks codec base bucket standby replica bytes)
    (current : standby.replica = some replica)
    (ran : standby.applyKeys codec bucket env base.segments keys = (result, after)) :
    ∀ next, after.replica = some next → ∃ bytes, Tracks codec base bucket after next bytes := by
  induction keys generalizing standby replica bytes with
  | nil =>
    cases ran
    intro next nextEq
    cases current.symm.trans nextEq
    exact ⟨bytes, tracks⟩
  | cons _ _ ih =>
    rcases applyKeys_cons current ran with ⟨-, rest⟩ | ⟨_, -, -, -, rfl⟩ |
      ⟨numbered, ⟨reached, taken, rest⟩ | ⟨error, taken, -⟩⟩
    · exact ih tracks current rest
    · intro next nextEq
      cases current.symm.trans nextEq
      exact ⟨bytes, tracks⟩
    · rcases tracks.takeSegment current numbered taken with
        ⟨-, next, object, nextEq, -, extended⟩ | ⟨⟨error, failed⟩, -⟩
      · exact ih extended nextEq rest
      · cases failed
    · rcases tracks.takeSegment current numbered taken with
        ⟨succeeded, -⟩ | ⟨-, gone | ⟨kept, same⟩⟩
      · cases succeeded
      · intro next nextEq
        cases gone.symm.trans nextEq
      · intro _ nextEq
        cases kept.symm.trans nextEq
        exact ⟨bytes, same⟩

/-- The listing of contiguous segments collected `out` and goes on with `keys`: those it
collected are the first of the segments `bytes`, and the others of these are yet to come. -/
structure InStep (generationPrefix : String) (bucket : Bucket) (bytes : List (List UInt8))
    (out keys : List String) : Prop where
  ordered : Bucket.Numbered generationPrefix keys
  low : ∀ key ∈ keys, ∀ seq, segmentSeq key generationPrefix = some seq → out.length ≤ seq
  done : out.map bucket.getObject = (bytes.take out.length).map some
  short : out.length ≤ bytes.length
  ahead : ∀ seq object, out.length ≤ seq → bytes[seq]? = some object →
    ∃ key ∈ keys, (key, object) ∈ bucket.objects ∧ segmentSeq key generationPrefix = some seq

namespace InStep

theorem length_eq (inStep : InStep generationPrefix bucket bytes out keys)
    (missing : ∀ key ∈ keys, segmentSeq key generationPrefix ≠ some out.length) :
    out.length = bytes.length := by
  by_contra different
  have below : out.length < bytes.length := lt_of_le_of_ne inStep.short different
  obtain ⟨key, member, -, numbered⟩ :=
    inStep.ahead out.length _ (le_refl _) (getElem?_eq_getElem below)
  exact missing key member numbered

theorem done_eq (inStep : InStep generationPrefix bucket bytes out keys)
    (caughtUp : out.length = bytes.length) : out.map bucket.getObject = bytes.map some := by
  rw [inStep.done, caughtUp, take_length]

section

variable (inStep : InStep generationPrefix bucket bytes out (key :: keys))
include inStep

theorem skip (other : segmentSeq key generationPrefix = none) :
    InStep generationPrefix bucket bytes out keys := by
  constructor
  · exact inStep.ordered.tail
  · intro later member
    exact inStep.low later (mem_cons_of_mem _ member)
  · exact inStep.done
  · exact inStep.short
  · intro seq object above found
    obtain ⟨later, member, stored, numbered⟩ := inStep.ahead seq object above found
    rcases mem_cons.mp member with rfl | member
    · cases other.symm.trans numbered
    · exact ⟨later, member, stored, numbered⟩

theorem extend (caughtUp : out.length = bytes.length)
    (numbered : segmentSeq key generationPrefix = some out.length)
    (stored : (key, object) ∈ bucket.objects) :
    InStep generationPrefix bucket (bytes ++ [object]) (out ++ [key]) keys := by
  constructor
  · exact inStep.ordered.tail
  · intro later member seq laterSeq
    have above := (pairwise_cons.mp inStep.ordered).1 later member _ _ numbered laterSeq
    rw [length_append]
    exact above
  · rw [map_append, inStep.done_eq caughtUp, length_append, caughtUp, take_of_length_le]
    · simp [Bucket.getObject_eq_some_iff.mpr stored]
    · simp
  · simp [caughtUp]
  · intro seq _ above found
    have bound : seq < (bytes ++ [object]).length := (List.getElem?_eq_some_iff.mp found).1
    simp only [length_append, length_singleton] at above bound
    omega

variable {seq : Nat} (numbered : segmentSeq key generationPrefix = some seq)
include numbered

theorem eq_of_le {later : Nat} {other : String} (member : other ∈ key :: keys)
    (otherSeq : segmentSeq other generationPrefix = some later) (notAbove : later ≤ seq) :
    other = key := by
  rcases mem_cons.mp member with rfl | member
  · rfl
  · have above := (pairwise_cons.mp inStep.ordered).1 other member seq later numbered otherSeq
    omega

theorem length_eq_of_le (above : bytes.length ≤ seq) : out.length = bytes.length := by
  by_contra different
  have below : out.length < bytes.length := lt_of_le_of_ne inStep.short different
  apply different
  apply inStep.length_eq
  intro _ member otherSeq
  cases inStep.eq_of_le numbered member otherSeq (by omega)
  cases numbered.symm.trans otherSeq
  omega

/-- The next of the segments is collected. -/
theorem pass (below : seq < bytes.length) :
    seq = out.length ∧ InStep generationPrefix bucket bytes (out ++ [key]) keys := by
  have least := inStep.low key mem_cons_self seq numbered
  obtain ⟨_, firstMember, -, firstSeq⟩ := inStep.ahead out.length _ (le_refl _)
    (getElem?_eq_getElem (lt_of_le_of_lt least below))
  cases inStep.eq_of_le numbered firstMember firstSeq least
  obtain rfl : seq = out.length := Option.some.inj (numbered.symm.trans firstSeq)
  have found : bytes[out.length]? = some bytes[out.length] := getElem?_eq_getElem below
  obtain ⟨_, member, stored, otherSeq⟩ := inStep.ahead _ _ (le_refl _) found
  cases inStep.eq_of_le numbered member otherSeq (le_refl _)
  refine ⟨rfl, inStep.ordered.tail, ?_, ?_, ?_, ?_⟩
  · intro later laterMember seq laterSeq
    have above := (pairwise_cons.mp inStep.ordered).1 later laterMember _ _ numbered laterSeq
    rw [length_append]
    exact above
  · rw [map_append, inStep.done, length_append, length_singleton, take_add_one, found, map_append]
    simp [Bucket.getObject_eq_some_iff.mpr stored]
  · rw [length_append]
    exact below
  · intro seq object above objectEq
    rw [length_append, length_singleton] at above
    obtain ⟨later, laterMember, laterStored, laterSeq⟩ :=
      inStep.ahead seq object (by omega) objectEq
    rcases mem_cons.mp laterMember with rfl | laterMember
    · cases numbered.symm.trans laterSeq
      omega
    · exact ⟨later, laterMember, laterStored, laterSeq⟩

end

end InStep

/-- A poll that succeeds has applied the contiguous segments of the listing. -/
theorem Tracks.contiguous (tracks : Tracks codec base bucket standby replica bytes)
    (current : standby.replica = some replica) (inStep : InStep base.segments bucket bytes out keys)
    {gap : Bool} (ran : standby.applyKeys codec bucket env base.segments keys = (.ok gap, after)) :
    ∃ next bytes, after.replica = some next ∧ Tracks codec base bucket after next bytes ∧
      (contiguousFrom base.segments out keys).map bucket.getObject = bytes.map some := by
  induction keys generalizing standby replica bytes out with
  | nil =>
    cases ran
    have caughtUp : out.length = bytes.length := by
      apply inStep.length_eq
      intro key member
      cases member
    exact ⟨replica, bytes, current, tracks, inStep.done_eq caughtUp⟩
  | cons key _ ih =>
    unfold contiguousFrom
    rcases applyKeys_cons current ran with ⟨below, rest⟩ | ⟨seq, numbered, above, -, rfl⟩ |
      ⟨numbered, ⟨reached, taken, rest⟩ | ⟨error, -, failed⟩⟩
    · cases numbered : segmentSeq key base.segments with
      | none => exact ih tracks current (inStep.skip numbered) rest
      | some seq =>
        obtain ⟨rfl, passed⟩ := inStep.pass numbered (tracks.count ▸ below seq numbered)
        dsimp only
        rw [if_pos rfl]
        exact ih tracks current passed rest
    · have caughtUp := inStep.length_eq_of_le numbered (tracks.count ▸ le_of_lt above)
      rw [numbered]
      dsimp only
      rw [if_neg (by rw [caughtUp, ← tracks.count]; omega)]
      exact ⟨replica, bytes, current, tracks, inStep.done_eq caughtUp⟩
    · have caughtUp := inStep.length_eq_of_le numbered (tracks.count ▸ le_refl _)
      have nextEq : replica.nextSeq = out.length := tracks.count.trans caughtUp.symm
      rcases tracks.takeSegment current numbered taken with
        ⟨-, next, object, nextReplica, stored, extended⟩ | ⟨⟨error, failed⟩, -⟩
      · rw [numbered]
        dsimp only
        rw [if_pos nextEq]
        exact ih extended nextReplica (inStep.extend caughtUp (nextEq ▸ numbered) stored) rest
      · cases failed
    · cases failed

end Keys

end Addons.WalFollowing
