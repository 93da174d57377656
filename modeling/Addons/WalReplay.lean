import Addons.WalSegments
import Addons.SnapshotMetadata
import Addons.Transaction
import Mathlib.Data.List.DropRight
import Mathlib.Data.List.Nodup

/-!
# Replaying segments onto a database file

The frames of a segment are written onto the file in order, and the file is resized at
every commit.
-/

namespace Addons.WalFollowing

open ByteOrder WalFormat WalSegments DecimalText Transaction List

section

open SnapshotMetadata Option

/-! ## Listed segments -/

def segmentSeq (key generationPrefix : String) : Option Nat := do
  let rest ← key.toList.dropPrefix? generationPrefix.toList
  let digits ← rest.dropSuffix? ".seg".toList
  -- Twenty digits may exceed an unsigned 64-bit number, which the parser refuses.
  if digits.length = 20 ∧ digits.all Char.isDigit ∧ Nat.ofDigitChars 10 digits 0 < UInt64.size then
    some (Nat.ofDigitChars 10 digits 0)
  else none

variable {generationPrefix : String}

theorem segmentSeq_eq_some {key : String} {seq : Nat}
    (found : segmentSeq key generationPrefix = some seq) :
    ∃ digits : List Char, key.toList = generationPrefix.toList ++ (digits ++ ".seg".toList) ∧
      digits.length = 20 ∧ (∀ digit ∈ digits, digit.isDigit) ∧
      seq = Nat.ofDigitChars 10 digits 0 := by
  obtain ⟨_, restEq, found⟩ := bind_eq_some_iff.mp found
  obtain ⟨digits, digitsEq, found⟩ := bind_eq_some_iff.mp found
  obtain ⟨⟨length, allDigits, -⟩, seqEq⟩ := ite_none_right_eq_some.mp found
  obtain ⟨_, keyEq, same⟩ := dropPrefix?_eq_some_iff.mp restEq
  obtain ⟨_, restEq, sameSuffix⟩ := dropSuffix?_eq_some_iff.mp digitsEq
  rw [beq_iff_eq] at same sameSuffix
  refine ⟨digits, ?_, length, all_eq_true.mp allDigits, (some.inj seqEq).symm⟩
  rw [keyEq, same, restEq, sameSuffix]

theorem segmentSeq_lt {first second : String} {low high : Nat} (ordered : first < second)
    (firstSeq : segmentSeq first generationPrefix = some low)
    (secondSeq : segmentSeq second generationPrefix = some high) : low < high := by
  obtain ⟨_, firstEq, smallLength, smallDigits, rfl⟩ := segmentSeq_eq_some firstSeq
  obtain ⟨_, secondEq, largeLength, -, rfl⟩ := segmentSeq_eq_some secondSeq
  have texts : first.toList < second.toList := ordered
  rw [firstEq, secondEq] at texts
  exact ofDigitChars_lt_of_append_lt (smallLength.trans largeLength.symm) smallDigits
    (lt_of_append_lt texts) 0

/-- The loop of `contiguousSegments`, with what it collected so far. -/
def contiguousFrom (generationPrefix : String) (out : List String) : List String → List String
  | [] => out
  | key :: keys =>
    match segmentSeq key generationPrefix with
    | some seq =>
      if seq = out.length then contiguousFrom generationPrefix (out ++ [key]) keys else out
    | none => contiguousFrom generationPrefix out keys

def contiguousSegments (keys : List String) (generationPrefix : String) : List String :=
  contiguousFrom generationPrefix [] keys

structure Bucket where
  objects : List (String × List UInt8)
  sorted : (objects.map Prod.fst).Pairwise (· < ·)

namespace Bucket

variable (bucket : Bucket)

def listKeys (keyPrefix : String) : List String :=
  (bucket.objects.map Prod.fst).filter fun key => keyPrefix.toList.isPrefixOf key.toList

def getObject (key : String) : Option (List UInt8) :=
  (bucket.objects.find? fun object => object.1 = key).map Prod.snd

/-- Objects were added and none was changed. -/
def Extends (after : Bucket) : Prop :=
  ∀ object ∈ bucket.objects, object ∈ after.objects

variable {bucket} {key : String} {bytes : List UInt8}

theorem getObject_eq_some_iff :
    bucket.getObject key = some bytes ↔ (key, bytes) ∈ bucket.objects := by
  unfold getObject
  rw [map_eq_some_iff]
  constructor
  · rintro ⟨object, found, rfl⟩
    have keyEq : object.1 = key := by simpa using find?_some found
    exact keyEq ▸ mem_of_find?_eq_some found
  · intro member
    have distinct : (bucket.objects.map Prod.fst).Nodup := by
      apply bucket.sorted.imp
      rintro _ _ ordered rfl
      exact String.lt_irrefl _ ordered
    cases found : bucket.objects.find? fun object => object.1 = key with
    | none => simpa using find?_eq_none.mp found _ member
    | some object =>
      have keyEq : object.1 = key := by simpa using find?_some found
      have same : object = (key, bytes) := inj_on_of_nodup_map distinct
        (mem_of_find?_eq_some found) member keyEq
      exact ⟨object, rfl, by rw [same]⟩

theorem exists_of_mem_listKeys {keyPrefix : String} (listed : key ∈ bucket.listKeys keyPrefix) :
    ∃ bytes, (key, bytes) ∈ bucket.objects := by
  obtain ⟨⟨_, bytes⟩, member, rfl⟩ := mem_map.mp (mem_of_mem_filter listed)
  exact ⟨bytes, member⟩

theorem mem_listKeys_of_segment {seq : Nat} (member : (key, bytes) ∈ bucket.objects)
    (numbered : segmentSeq key generationPrefix = some seq) :
    key ∈ bucket.listKeys generationPrefix := by
  obtain ⟨_, keyEq, -⟩ := segmentSeq_eq_some numbered
  apply mem_filter.mpr
  refine ⟨mem_map_of_mem member, ?_⟩
  rw [keyEq]
  exact isPrefixOf_iff_prefix.mpr (prefix_append _ _)

def Numbered (generationPrefix : String) (keys : List String) : Prop :=
  keys.Pairwise fun first second => ∀ low high, segmentSeq first generationPrefix = some low →
    segmentSeq second generationPrefix = some high → low < high

theorem numbered_listKeys (generationPrefix : String) :
    Numbered generationPrefix (bucket.listKeys generationPrefix) := by
  apply (bucket.sorted.filter _).imp
  intro _ _ ordered _ _ firstSeq secondSeq
  exact segmentSeq_lt ordered firstSeq secondSeq

end Bucket

end

/-- The text that a database file begins with. -/
def sqliteMagic : List UInt8 :=
  [0x53, 0x51, 0x4c, 0x69, 0x74, 0x65, 0x20, 0x66, 0x6f, 0x72, 0x6d, 0x61, 0x74, 0x20, 0x33, 0]

def headerPageSize (db : List UInt8) : UInt32 :=
  let raw := fromBeBytes (slice db 16 2)
  if raw = 1 then 65536 else UInt32.ofNat raw

/-- The page size that a database file declares, if it is long enough to have a header. -/
def dbPageSize (db : List UInt8) : Except Error (Option UInt32) :=
  if db.length < 100 then .ok none
  else if db.take 16 ≠ sqliteMagic then .error (.invalid "not a SQLite database")
  else .ok (some (headerPageSize db))

/-- Whether the file is structurally whole, as far as its header tells. -/
def checkDbFile (db : List UInt8) : Except Error Unit :=
  let page := headerPageSize db
  let pages := be32 db 28
  if db.length < 100 then
    .error (.invalid s!"database is {db.length} bytes, too short for a header")
  else if db.take 16 ≠ sqliteMagic then .error (.invalid "not a SQLite database")
  else if !validPageSize page ∨ db.length % page.toNat ≠ 0 then
    .error (.invalid s!"database is {db.length} bytes, not whole {page}-byte pages")
  else if pages ≠ 0 ∧ be32 db 92 = be32 db 24 ∧ pages.toNat * page.toNat ≠ db.length then
    .error (.invalid
      s!"database header records {pages} pages, the file holds {db.length / page.toNat}")
  else .ok ()

/-- Write bytes at a position; a gap before it reads as zeros. -/
def writeAt (file : List UInt8) (offset : Nat) (bytes : List UInt8) : List UInt8 :=
  (file ++ List.replicate (offset - file.length) 0).take offset ++ bytes ++
    file.drop (offset + bytes.length)

def setLen (file : List UInt8) (length : Nat) : List UInt8 :=
  (file ++ List.replicate (length - file.length) 0).take length

def writeFrame (pageSize : UInt32) (db : List UInt8) (frame : Frame) : List UInt8 :=
  let written := writeAt db ((frame.pgno.toNat - 1) * pageSize.toNat) frame.page
  if frame.commit ≠ 0 then setLen written (frame.commit.toNat * pageSize.toNat) else written

/-- The size in pages after the commit that ends the segment, if one does. -/
def finalPages (segment : Segment) : Option UInt32 :=
  (segment.frames.getLast?.map Frame.commit).filter (· ≠ 0)

def endsOnCommit (segment : Segment) : Bool :=
  (finalPages segment).isSome

def writeSegment (db : List UInt8) (segment : Segment) : List UInt8 :=
  segment.frames.foldl (writeFrame segment.pageSize) db

def checkPageSize (segment : Segment) : Option UInt32 → Except Error Unit
  | some size =>
    if size ≠ segment.pageSize then
      .error (.invalid
        s!"segment page size {segment.pageSize} does not match the database's {size}")
    else .ok ()
  | none => .ok ()

def checkLength (segment : Segment) (written : List UInt8) : Except Error Unit :=
  match finalPages segment with
  | some pages =>
    let want := pages.toNat * segment.pageSize.toNat
    if written.length ≠ want then
      .error (.invalid s!"database is {written.length} bytes after replay, want {want}")
    else .ok ()
  | none => .ok ()

/-- The file after the frames of a segment were written onto it. -/
def applySegment (db : List UInt8) (segment : Segment) : Except Error (List UInt8) := do
  checkPageSize segment (← dbPageSize db)
  let written := writeSegment db segment
  checkLength segment written
  pure written

variable {db written : List UInt8}

theorem applySegment_ok {segment : Segment}
    (applied : applySegment db segment = .ok written) : written = writeSegment db segment := by
  obtain ⟨_, -, applied⟩ := bind_eq_ok applied
  obtain ⟨-, -, applied⟩ := bind_eq_ok applied
  obtain ⟨-, -, applied⟩ := bind_eq_ok applied
  exact (Except.ok.inj applied).symm

/-- The file after the frames of all segments were written in order. -/
def writeSegments (db : List UInt8) (segments : List Segment) : List UInt8 :=
  segments.foldl writeSegment db

theorem applySegments_ok {segments : List Segment}
    (applied : segments.foldlM applySegment db = .ok written) :
    written = writeSegments db segments := by
  induction segments generalizing db with
  | nil => exact (Except.ok.inj applied).symm
  | cons _ _ ih =>
    obtain ⟨_, first, rest⟩ := bind_eq_ok applied
    rw [ih rest, applySegment_ok first]
    rfl

variable {bytes : List UInt8}

section Spool

/-- The files of a directory by their names. -/
abbrev Files := String → Option (List UInt8)

def Files.write (files : Files) (name : String) (bytes : List UInt8) : Files :=
  fun other => if other = name then some bytes else files other

def applySpooled (codec : SegmentCodec) (files : Files) (db : List UInt8) (name : String) :
    Except Error (List UInt8) := do
  let bytes ← (files name).elim (.error (.io "read spooled segment")) .ok
  applySegment db (← decodeSegment codec bytes)

def applyRun (codec : SegmentCodec) (files : Files) (db : List UInt8) (spool : List String)
    (last : Segment) : Except Error (List UInt8) := do
  applySegment (← spool.foldlM (applySpooled codec files) db) last

structure Spooled (codec : SegmentCodec) (spoolName : Nat → String) (count : Nat) (files : Files)
    (spool : List String) (pending : List Segment) : Prop where
  holds : List.Forall₂ (fun name segment => ∃ bytes, files name = some bytes ∧
    decodeSegment codec bytes = .ok segment) spool pending
  named : ∀ name ∈ spool, ∃ seq < count, name = spoolName seq

variable {codec : SegmentCodec} {spoolName : Nat → String} {count : Nat} {files : Files}
  {spool : List String} {pending : List Segment}

theorem spooled_nil : Spooled codec spoolName count files [] [] := by
  constructor
  · exact .nil
  · intro _ member
    cases member

section

variable (spooled : Spooled codec spoolName count files spool pending)
include spooled

theorem Spooled.applyRun (db : List UInt8) (last : Segment) :
    applyRun codec files db spool last = (pending ++ [last]).foldlM applySegment db := by
  have runs : spool.foldlM (applySpooled codec files) db = pending.foldlM applySegment db := by
    have holds := spooled.holds
    clear spooled
    induction holds generalizing db with
    | nil => rfl
    | @cons name segment _ _ found _ ih =>
      obtain ⟨_, stored, decoded⟩ := found
      have first : applySpooled codec files db name = applySegment db segment := by
        simp only [applySpooled, stored, decoded, Option.elim, bind, Except.bind]
      rw [foldlM_cons, foldlM_cons, first]
      exact bind_congr ih
  rw [WalFollowing.applyRun, runs, foldlM_append]
  apply bind_congr
  intro _
  simp only [foldlM_cons, foldlM_nil, bind_pure]

theorem Spooled.congr {others : Files} (same : ∀ name ∈ spool, others name = files name) :
    Spooled codec spoolName count others spool pending := by
  refine ⟨?_, spooled.named⟩
  have holds := spooled.holds
  clear spooled
  induction holds with
  | nil => exact .nil
  | cons found _ ih =>
    obtain ⟨bytes, stored, decoded⟩ := found
    apply List.Forall₂.cons
    · exact ⟨bytes, (same _ mem_cons_self).trans stored, decoded⟩
    · exact ih fun name member => same name (mem_cons_of_mem _ member)

theorem Spooled.fresh (distinct : Function.Injective spoolName) :
    ∀ name ∈ spool, name ≠ spoolName count := by
  rintro _ member rfl
  obtain ⟨_, _, same⟩ := spooled.named _ member
  have seqEq := distinct same
  omega

theorem Spooled.push (distinct : Function.Injective spoolName) {segment : Segment}
    (decoded : decodeSegment codec bytes = .ok segment) :
    Spooled codec spoolName (count + 1) (files.write (spoolName count) bytes)
      (spool ++ [spoolName count]) (pending ++ [segment]) := by
  have kept : Spooled codec spoolName count (files.write (spoolName count) bytes) spool pending :=
    spooled.congr fun name member => if_neg (spooled.fresh distinct name member)
  constructor
  · apply rel_append kept.holds
    exact .cons ⟨bytes, if_pos rfl, decoded⟩ .nil
  · intro name member
    rcases mem_append.mp member with old | new
    · obtain ⟨seq, _, nameEq⟩ := spooled.named name old
      exact ⟨seq, by omega, nameEq⟩
    · exact ⟨count, by omega, mem_singleton.mp new⟩

end

end Spool

section Rebuild

def decodeAt (codec : SegmentCodec) (want : UInt64) (bytes : List UInt8) :
    Except Error Segment := do
  let segment ← decodeSegment codec bytes
  if segment.firstFrame ≠ want then
    .error (.invalid s!"segment starts at frame {segment.firstFrame}, want {want}")
  else pure segment

/-- What segments amount to: the file of the transactions they finish, the frame that comes
next and the segments of an unfinished transaction. -/
structure Rebuilt where
  db : List UInt8
  nextFrame : UInt64 := 0
  pending : List Segment := []

def Rebuilt.take (codec : SegmentCodec) (rebuilt : Rebuilt) (bytes : List UInt8) :
    Except Error Rebuilt := do
  let segment ← decodeAt codec rebuilt.nextFrame bytes
  let nextFrame := rebuilt.nextFrame + UInt64.ofNat segment.frames.length
  if endsOnCommit segment then
    let db ← (rebuilt.pending ++ [segment]).foldlM applySegment rebuilt.db
    pure ⟨db, nextFrame, []⟩
  else pure ⟨rebuilt.db, nextFrame, rebuilt.pending ++ [segment]⟩

def rebuild (codec : SegmentCodec) (base : List UInt8) (segments : List (List UInt8)) :
    Except Error Rebuilt :=
  segments.foldlM (Rebuilt.take codec) { db := base }

/-- The segments up to the last one that ends on a commit. -/
def settled (segments : List Segment) : List Segment :=
  segments.rdropWhile fun segment => !endsOnCommit segment

theorem getLast_settled (segments : List Segment) :
    ∀ segment ∈ (settled segments).getLast?, endsOnCommit segment := by
  intro _ last
  obtain ⟨nonempty, lastEq⟩ := mem_getLast?_eq_getLast last
  have ends : ¬(!endsOnCommit ((settled segments).getLast nonempty)) :=
    rdropWhile_last_not _ segments nonempty
  rw [lastEq]
  simpa using ends

variable {codec : SegmentCodec} {base : List UInt8}

theorem decodeAt_ok {want : UInt64} {segment : Segment}
    (decoded : decodeAt codec want bytes = .ok segment) :
    decodeSegment codec bytes = .ok segment ∧ segment.firstFrame = want := by
  obtain ⟨_, foundEq, checked⟩ := bind_eq_ok decoded
  split at checked
  next => cases checked
  next same =>
    cases checked
    exact ⟨foundEq, not_not.mp same⟩

variable {segments : List (List UInt8)} {rebuilt : Rebuilt}

theorem rebuild_append (built : rebuild codec base (segments ++ [bytes]) = .ok rebuilt) :
    ∃ before, rebuild codec base segments = .ok before ∧ before.take codec bytes = .ok rebuilt := by
  rw [rebuild, foldlM_append] at built
  obtain ⟨before, beforeEq, last⟩ := bind_eq_ok built
  simp only [foldlM_cons, foldlM_nil, bind_pure] at last
  exact ⟨before, beforeEq, last⟩

theorem rebuild_concat {before : Rebuilt} (built : rebuild codec base segments = .ok before)
    (taken : before.take codec bytes = .ok rebuilt) :
    rebuild codec base (segments ++ [bytes]) = .ok rebuilt := by
  rw [rebuild, foldlM_append, show segments.foldlM _ _ = Except.ok before from built]
  simp only [foldlM_cons, foldlM_nil, bind_pure]
  exact taken

/-- The file holds the frames of the settled segments, and the others wait. -/
theorem rebuild_ok {bytes : List (List UInt8)} (built : rebuild codec base bytes = .ok rebuilt) :
    ∃ segments, List.Forall₂ (fun bytes segment => decodeSegment codec bytes = .ok segment)
        bytes segments ∧
      settled segments ++ rebuilt.pending = segments ∧
      rebuilt.db = writeSegments base (settled segments) := by
  induction bytes using List.reverseRecOn generalizing rebuilt with
  | nil =>
    cases built
    exact ⟨[], .nil, rfl, rfl⟩
  | append_singleton _ _ ih =>
    obtain ⟨_, beforeEq, taken⟩ := rebuild_append built
    obtain ⟨segments, decoded, split, dbEq⟩ := ih beforeEq
    obtain ⟨segment, segmentEq, taken⟩ := bind_eq_ok taken
    refine ⟨segments ++ [segment], rel_append decoded (.cons (decodeAt_ok segmentEq).1 .nil), ?_⟩
    by_cases ends : endsOnCommit segment
    · have whole : settled (segments ++ [segment]) = segments ++ [segment] :=
        rdropWhile_concat_neg _ _ _ (by simp [ends])
      rw [if_pos ends] at taken
      obtain ⟨db, applied, taken⟩ := bind_eq_ok taken
      cases taken
      rw [whole]
      refine ⟨append_nil _, ?_⟩
      rw [applySegments_ok applied, dbEq, writeSegments, writeSegments, ← foldl_append,
        ← append_assoc, split]
      rfl
    · have same : settled (segments ++ [segment]) = settled segments :=
        rdropWhile_concat_pos _ _ _ (by simp [ends])
      rw [if_neg ends] at taken
      cases taken
      rw [same]
      refine ⟨?_, dbEq⟩
      rw [← append_assoc, split]

end Rebuild

section Replay

inductive SyncError where
  | objectStore (message : String)
  | unavailable (message : String)
  | io (op : String)
  | segment (key : String) (error : Error)
  | applySegment (key : String) (error : Error)
  | failedCheck (context : String) (error : Error)
  deriving DecidableEq

structure Replay where
  db : List UInt8
  nextFrame : UInt64 := 0
  spool : List String := []
  files : Files := fun _ => none

def replaySpoolName (seq : Nat) : String := zeroPad 20 seq ++ ".seg"

def replaySegment (codec : SegmentCodec) (replay : Replay) (seq : Nat) (bytes : List UInt8) :
    Except Error Replay := do
  let segment ← decodeAt codec replay.nextFrame bytes
  let nextFrame := replay.nextFrame + UInt64.ofNat segment.frames.length
  if endsOnCommit segment then
    let db ← applyRun codec replay.files replay.db replay.spool segment
    pure { replay with db := db, nextFrame := nextFrame, spool := [] }
  else
    pure { replay with
      nextFrame := nextFrame
      spool := replay.spool ++ [replaySpoolName seq]
      files := replay.files.write (replaySpoolName seq) bytes }

def replayKey (codec : SegmentCodec) (bucket : Bucket) (replay : Replay) (item : String × Nat) :
    Except SyncError Replay :=
  match bucket.getObject item.1 with
  | none => .error (.objectStore "no such key")
  | some bytes => (replaySegment codec replay item.2 bytes).mapError (.segment item.1)

def replayKeys (codec : SegmentCodec) (bucket : Bucket) (keys : List String) (db : List UInt8) :
    Except SyncError Replay :=
  keys.zipIdx.foldlM (replayKey codec bucket) { db := db }

structure Replay.Matches (codec : SegmentCodec) (count : Nat) (replay : Replay)
    (rebuilt : Rebuilt) : Prop where
  db : replay.db = rebuilt.db
  nextFrame : replay.nextFrame = rebuilt.nextFrame
  spooled : Spooled codec replaySpoolName count replay.files replay.spool rebuilt.pending

variable {codec : SegmentCodec} {bucket : Bucket} {base : List UInt8}

theorem replaySpoolName_injective : Function.Injective replaySpoolName := by
  intro _ _ same
  exact zeroPad_injective 20 (String.append_left_inj _ |>.mp same)

theorem Replay.Matches.take {count : Nat} {replay : Replay} {before : Rebuilt}
    (agrees : replay.Matches codec count before) (bytes : List UInt8) :
    (∃ after next, before.take codec bytes = .ok after ∧
        replaySegment codec replay count bytes = .ok next ∧ next.Matches codec (count + 1) after) ∨
      ∃ error, before.take codec bytes = .error error ∧
        replaySegment codec replay count bytes = .error error := by
  unfold Rebuilt.take replaySegment
  rw [agrees.nextFrame, agrees.db]
  cases decoded : decodeAt codec before.nextFrame bytes with
  | error error => exact .inr ⟨error, rfl, rfl⟩
  | ok segment =>
    by_cases ends : endsOnCommit segment
    · have run := agrees.spooled.applyRun before.db segment
      simp only [bind, Except.bind, ends, if_true, run]
      cases (before.pending ++ [segment]).foldlM applySegment before.db with
      | error error => exact .inr ⟨error, rfl, rfl⟩
      | ok => exact .inl ⟨_, _, rfl, rfl, rfl, rfl, spooled_nil⟩
    · simp only [bind, Except.bind, ends]
      refine .inl ⟨_, _, rfl, rfl, rfl, rfl, ?_⟩
      exact agrees.spooled.push replaySpoolName_injective (decodeAt_ok decoded).1

/-- A replay of stored segments amounts to what the segments do. -/
theorem replayKeys_agrees {keys : List String} {bytes : List (List UInt8)}
    (stored : keys.map bucket.getObject = bytes.map some) :
    (∃ rebuilt replay, rebuild codec base bytes = .ok rebuilt ∧
        replayKeys codec bucket keys base = .ok replay ∧
          replay.Matches codec keys.length rebuilt) ∨
      ∃ error failure, rebuild codec base bytes = .error error ∧
        replayKeys codec bucket keys base = .error failure := by
  induction keys using List.reverseRecOn generalizing bytes with
  | nil =>
    cases map_eq_nil_iff.mp stored.symm
    exact .inl ⟨{ db := base }, { db := base }, rfl, rfl, rfl, rfl, spooled_nil⟩
  | append_singleton keys key ih =>
    rw [map_append] at stored
    obtain ⟨front, _, rfl, frontEq, lastEq⟩ := map_eq_append_iff.mp stored.symm
    obtain ⟨object, rfl, objectEq⟩ := map_eq_singleton_iff.mp lastEq
    have steps : replayKeys codec bucket (keys ++ [key]) base =
        replayKeys codec bucket keys base >>= fun replay =>
          replayKey codec bucket replay (key, keys.length) := by
      simp [replayKeys, zipIdx_append, foldlM_append]
    have built : rebuild codec base (front ++ [object]) =
        rebuild codec base front >>= fun rebuilt => rebuilt.take codec object := by
      simp [rebuild, foldlM_append]
    rw [steps, built]
    rcases ih frontEq.symm with ⟨_, _, builtEq, replayEq, agrees⟩ |
      ⟨error, failure, builtEq, replayEq⟩
    · rw [builtEq, replayEq, length_append]
      simp only [bind, Except.bind, replayKey, ← objectEq]
      rcases agrees.take object with ⟨after, next, taken, replayed, agree⟩ |
        ⟨error, taken, replayed⟩
      · exact .inl ⟨after, next, taken, by rw [replayed]; rfl, agree⟩
      · exact .inr ⟨error, .segment key error, taken, by rw [replayed]; rfl⟩
    · rw [builtEq, replayEq]
      exact .inr ⟨error, failure, rfl, rfl⟩

end Replay

open Option Nat

/-- Page `number` of a file, counted from 1. Bytes after the end of the file are zeros. -/
def pageAt (file : List UInt8) (size number : Nat) : List UInt8 :=
  (List.range size).map fun index => file.getD ((number - 1) * size + index) 0

/-- The frame ends a transaction after which the database has fewer pages. -/
def Cuts (number : Nat) (frame : Frame) : Prop :=
  frame.commit ≠ 0 ∧ frame.commit.toNat < number

instance (number : Nat) (frame : Frame) : Decidable (Cuts number frame) :=
  inferInstanceAs (Decidable (_ ∧ _))

def LastAt (holds : Frame → Prop) (frames : List Frame) (index : Nat) : Prop :=
  (∃ frame, frames[index]? = some frame ∧ holds frame) ∧
    ∀ later frame, index < later → frames[later]? = some frame → ¬holds frame

structure PageAfter (db : List UInt8) (size : Nat) (frames : List Frame) (number : Nat)
    (page : List UInt8) : Prop where
  written : ∀ writer frame, LastAt (fun frame => frame.pgno.toNat = number) frames writer →
    frames[writer]? = some frame → (∀ cut, LastAt (Cuts number) frames cut → cut < writer) →
    page = frame.page
  zeroed : ∀ cut, LastAt (Cuts number) frames cut →
    (∀ writer, LastAt (fun frame => frame.pgno.toNat = number) frames writer → writer ≤ cut) →
    page = List.replicate size 0
  kept : (∀ index, ¬LastAt (fun frame => frame.pgno.toNat = number) frames index) →
    (∀ index, ¬LastAt (Cuts number) frames index) → page = pageAt db size number

section Pages

variable {db file : List UInt8} {pageSize : UInt32} {number : Nat} {frame : Frame}
  {frames : List Frame}

theorem setLen_length (file : List UInt8) (length : Nat) :
    (setLen file length).length = length := by
  simp only [setLen, length_take, length_append, length_replicate]
  omega

theorem getD_setLen (file : List UInt8) (length index : Nat) :
    (setLen file length).getD index 0 = if index < length then file.getD index 0 else 0 := by
  simp only [setLen, getD_eq_getElem?_getD, getElem?_take]
  split
  · rw [getElem?_append]
    split
    · rfl
    · rename_i beyond
      rw [getElem?_eq_none (not_lt.mp beyond), getElem?_replicate]
      split <;> rfl
  · rfl

theorem getD_writeAt (file : List UInt8) (offset : Nat) (bytes : List UInt8) (index : Nat) :
    (writeAt file offset bytes).getD index 0 =
      if offset ≤ index ∧ index < offset + bytes.length then bytes.getD (index - offset) 0
      else file.getD index 0 := by
  have front : (file ++ replicate (offset - file.length) 0).take offset =
      setLen file offset := rfl
  simp only [writeAt, front, getD_eq_getElem?_getD, getElem?_append, length_append, setLen_length]
  by_cases before : index < offset
  · have small := getD_setLen file offset index
    simp only [getD_eq_getElem?_getD, if_pos before] at small
    rw [if_pos (by omega), if_pos before, small, if_neg (by omega)]
  · by_cases inside : index < offset + bytes.length
    · rw [if_pos inside, if_neg before, if_pos (by omega)]
    · rw [if_neg inside, if_neg (by omega), getElem?_drop]
      congr 2
      omega

theorem pageAt_congr {other : List UInt8} {size : Nat}
    (same : ∀ index < size, file.getD ((number - 1) * size + index) 0 =
      other.getD ((number - 1) * size + index) 0) :
    pageAt file size number = pageAt other size number :=
  map_congr_left fun index member => same index (mem_range.mp member)

/-- The positions of two different pages do not meet. -/
theorem page_position {size first second index : Nat} (inside : index < size)
    (firstPos : 0 < first) (secondPos : 0 < second)
    (meets : (first - 1) * size ≤ (second - 1) * size + index ∧
      (second - 1) * size + index < (first - 1) * size + size) : first = second := by
  rcases lt_trichotomy first second with _ | same | _
  · have apart := mul_le_mul_right size (show first - 1 + 1 ≤ second - 1 by omega)
    rw [succ_mul] at apart
    omega
  · exact same
  · have apart := mul_le_mul_right size (show second - 1 + 1 ≤ first - 1 by omega)
    rw [succ_mul] at apart
    omega

theorem pageAt_setLen {size length : Nat} (numberPos : 0 < number) :
    pageAt (setLen file (length * size)) size number =
      if length < number then List.replicate size 0 else pageAt file size number := by
  split
  · have below := mul_le_mul_right size (show length ≤ number - 1 by omega)
    apply ext_getElem (by simp [pageAt])
    intro index _ _
    simp only [pageAt, getElem_map, getElem_range, getElem_replicate, getD_setLen]
    exact if_neg (by omega)
  · apply pageAt_congr
    intro _ _
    have below := mul_le_mul_right size (show number - 1 + 1 ≤ length by omega)
    rw [succ_mul] at below
    rw [getD_setLen, if_pos (by omega)]

theorem pageAt_writeAt {size target : Nat} {bytes : List UInt8} (sized : bytes.length = size)
    (targetPos : 0 < target) (numberPos : 0 < number) :
    pageAt (writeAt file ((target - 1) * size) bytes) size number =
      if target = number then bytes else pageAt file size number := by
  split
  · rename_i same
    subst same
    apply ext_getElem (by simp [pageAt, sized])
    intro index _ right
    simp only [pageAt, getElem_map, getElem_range, getD_writeAt]
    rw [if_pos (by omega), Nat.add_sub_cancel_left]
    rw [getD_eq_getElem?_getD, getElem?_eq_getElem right, getD_some]
  · rename_i other
    apply pageAt_congr
    intro _ inside
    rw [getD_writeAt, if_neg]
    intro meets
    exact other (page_position inside targetPos numberPos (sized ▸ meets))

theorem pageAt_writeFrame (numbered : frame.pgno ≠ 0) (sized : frame.page.length = pageSize.toNat)
    (numberPos : 0 < number) :
    pageAt (writeFrame pageSize db frame) pageSize.toNat number =
      if Cuts number frame then List.replicate pageSize.toNat 0
      else if frame.pgno.toNat = number then frame.page else pageAt db pageSize.toNat number := by
  have positive : 0 < frame.pgno.toNat := by
    apply pos_of_ne_zero
    intro zero
    exact numbered (UInt32.toNat_inj.mp zero)
  have written := @pageAt_writeAt db number _ _ _ sized positive numberPos
  unfold writeFrame
  by_cases commits : frame.commit ≠ 0
  · simp only [commits, if_true, Cuts, ne_eq, not_false_eq_true, true_and,
      pageAt_setLen numberPos, written]
  · simp only [commits, written, Cuts, false_and, if_false]

variable {holds : Frame → Prop} {index : Nat}

theorem lastAt_concat (meets : holds frame) :
    LastAt holds (frames ++ [frame]) index ↔ index = frames.length := by
  constructor
  · rintro ⟨⟨found, foundEq, -⟩, later⟩
    have inside := (List.getElem?_eq_some_iff.mp foundEq).1
    rw [length_append, length_singleton] at inside
    by_contra other
    exact later frames.length frame (by omega) getElem?_concat_length meets
  · rintro rfl
    refine ⟨⟨frame, getElem?_concat_length, meets⟩, ?_⟩
    intro _ _ _ found
    have inside := (List.getElem?_eq_some_iff.mp found).1
    rw [length_append, length_singleton] at inside
    omega

theorem lastAt_concat_of_not (misses : ¬holds frame) :
    LastAt holds (frames ++ [frame]) index ↔ LastAt holds frames index := by
  have same {position : Nat} {other : Frame} (meets : holds other) :
      (frames ++ [frame])[position]? = some other ↔ frames[position]? = some other := by
    rcases lt_trichotomy position frames.length with less | rfl | greater
    · rw [getElem?_append_left less]
    · rw [getElem?_concat_length, getElem?_eq_none le_rfl]
      constructor
      · intro found
        cases found
        exact absurd meets misses
      · intro found
        cases found
    · rw [getElem?_eq_none (by simp; omega), getElem?_eq_none greater.le]
  constructor
  · rintro ⟨⟨found, foundEq, meets⟩, later⟩
    refine ⟨⟨found, (same meets).mp foundEq, meets⟩, ?_⟩
    intro position other after otherEq otherMeets
    exact later position other after ((same otherMeets).mpr otherEq) otherMeets
  · rintro ⟨⟨found, foundEq, meets⟩, later⟩
    refine ⟨⟨found, (same meets).mpr foundEq, meets⟩, ?_⟩
    intro position other after otherEq otherMeets
    exact later position other after ((same otherMeets).mp otherEq) otherMeets

/-- The frames leave a page as its last writer and its last cut say. -/
theorem pageAfter_frames (numberPos : 0 < number)
    (sound : ∀ frame ∈ frames, frame.pgno ≠ 0 ∧ frame.page.length = pageSize.toNat) :
    PageAfter db pageSize.toNat frames number
      (pageAt (frames.foldl (writeFrame pageSize) db) pageSize.toNat number) := by
  induction frames using reverseRecOn with
  | nil =>
    constructor
    · rintro writer frame ⟨⟨found, foundEq, -⟩, -⟩
      cases foundEq
    · rintro cut ⟨⟨found, foundEq, -⟩, -⟩
      cases foundEq
    · intro _ _
      rfl
  | append_singleton frames last ih =>
    obtain ⟨before, lastSound⟩ := forall_mem_append.mp sound
    obtain ⟨numbered, sized⟩ := lastSound last (mem_singleton_self last)
    rw [foldl_append, foldl_cons, foldl_nil, pageAt_writeFrame numbered sized numberPos]
    by_cases cuts : Cuts number last
    · rw [if_pos cuts]
      constructor
      · intro writer frame _ found first
        have inside := (List.getElem?_eq_some_iff.mp found).1
        have later := first frames.length ((lastAt_concat cuts).mpr rfl)
        rw [length_append, length_singleton] at inside
        omega
      · intro _ _ _
        rfl
      · intro _ none
        exact absurd ((lastAt_concat cuts).mpr rfl) (none frames.length)
    · rw [if_neg cuts]
      by_cases writes : last.pgno.toNat = number
      · rw [if_pos writes]
        have lastWriter {index : Nat} :
            LastAt (fun frame => frame.pgno.toNat = number) (frames ++ [last]) index ↔
              index = frames.length := lastAt_concat writes
        constructor
        · intro writer frame isLast found _
          rw [lastWriter.mp isLast, getElem?_concat_length] at found
          cases found
          rfl
        · rintro _ isCut first
          obtain ⟨⟨found, foundEq, -⟩, -⟩ := (lastAt_concat_of_not cuts).mp isCut
          have inside := (List.getElem?_eq_some_iff.mp foundEq).1
          have later := first frames.length (lastWriter.mpr rfl)
          omega
        · intro none _
          exact absurd (lastWriter.mpr rfl) (none frames.length)
      · rw [if_neg writes]
        have sameWriter {index : Nat} :
            LastAt (fun frame => frame.pgno.toNat = number) (frames ++ [last]) index ↔
              LastAt (fun frame => frame.pgno.toNat = number) frames index :=
          lastAt_concat_of_not writes
        have sameCut {index : Nat} :
            LastAt (Cuts number) (frames ++ [last]) index ↔ LastAt (Cuts number) frames index :=
          lastAt_concat_of_not cuts
        obtain ⟨written, zeroed, kept⟩ := ih before
        simp only [← sameWriter, ← sameCut] at written zeroed kept
        refine ⟨?_, zeroed, kept⟩
        intro writer frame isLast found first
        refine written writer frame isLast ?_ first
        obtain ⟨⟨_, otherEq, -⟩, -⟩ := sameWriter.mp isLast
        have inside := (List.getElem?_eq_some_iff.mp otherEq).1
        rwa [getElem?_append_left inside] at found

theorem pageAt_inside {size : Nat} (inside : number * size ≤ file.length) (numberPos : 0 < number) :
    pageAt file size number = slice file ((number - 1) * size) size := by
  have bound : (number - 1) * size + size ≤ file.length := by
    rwa [← succ_mul, succ_eq_add_one, Nat.sub_add_cancel numberPos]
  apply ext_getElem (by rw [slice_length bound]; simp [pageAt])
  intro _ left _
  simp only [pageAt, length_map, length_range] at left
  simp only [pageAt, slice, getElem_map, getElem_range, getElem_take, getElem_drop]
  rw [getD_eq_getElem?_getD, getElem?_eq_getElem (by omega), getD_some]

theorem length_frames {last : Frame} (isLast : frames.getLast? = some last)
    (commits : last.commit ≠ 0) :
    (frames.foldl (writeFrame pageSize) db).length = last.commit.toNat * pageSize.toNat := by
  obtain ⟨_, rfl⟩ := getLast?_eq_some_iff.mp isLast
  simp only [foldl_append, foldl_cons, foldl_nil, writeFrame]
  rw [if_pos commits, setLen_length]

end Pages

/-- Every segment finds a file that declares its page size or none. -/
def PageSizesPass : List Segment → List UInt8 → Prop
  | [], _ => True
  | segment :: segments, db =>
    (dbPageSize db >>= checkPageSize segment) = .ok () ∧
      PageSizesPass segments (writeSegment db segment)

theorem checkLength_writeSegment (segment : Segment) (db : List UInt8) :
    checkLength segment (writeSegment db segment) = .ok () := by
  cases pagesEq : finalPages segment with
  | none => simp only [checkLength, pagesEq]
  | some =>
    obtain ⟨commitEq, commits⟩ := filter_eq_some_iff.mp pagesEq
    obtain ⟨_, isLast, rfl⟩ := map_eq_some_iff.mp commitEq
    have lengthEq : (writeSegment db segment).length = _ :=
      length_frames isLast (of_decide_eq_true commits)
    simp only [checkLength, pagesEq, lengthEq, ne_eq, not_true_eq_false, if_false]

theorem applySegments_eq {pageSize : UInt32} {segments : List Segment} {db : List UInt8}
    (sized : ∀ segment ∈ segments, segment.pageSize = pageSize)
    (passes : PageSizesPass segments db) :
    segments.foldlM applySegment db =
      .ok ((segments.flatMap Segment.frames).foldl (writeFrame pageSize) db) := by
  induction segments generalizing db with
  | nil => rfl
  | cons segment _ ih =>
    obtain ⟨check, later⟩ := passes
    obtain ⟨headSized, tailSized⟩ := forall_mem_cons.mp sized
    have first : applySegment db segment = .ok (writeSegment db segment) := by
      obtain ⟨_, declaredEq, checked⟩ := bind_eq_ok check
      simp only [applySegment, declaredEq, bind, Except.bind, checked, checkLength_writeSegment]
      rfl
    have rest := ih tailSized later
    rw [foldlM_cons, first, flatMap_cons, foldl_append]
    simpa only [bind, Except.bind, writeSegment, headSized] using rest

/-- Segments that end on a commit are applied frame by frame: the file has the size that the commit
names, and each page is the last one written for its number, or the old one. -/
theorem replayed_pages {pageSize : UInt32} {db : List UInt8} {frames : List Frame} {last : Frame}
    {segments : List Segment}
    (sound : ∀ frame ∈ frames, frame.pgno ≠ 0 ∧ frame.page.length = pageSize.toNat)
    (isLast : frames.getLast? = some last) (commits : last.commit ≠ 0)
    (sized : ∀ segment ∈ segments, segment.pageSize = pageSize)
    (whole : segments.flatMap Segment.frames = frames) (passes : PageSizesPass segments db) :
    ∃ written, segments.foldlM applySegment db = .ok written ∧
      written = frames.foldl (writeFrame pageSize) db ∧
      written.length = last.commit.toNat * pageSize.toNat ∧
      ∀ number, 1 ≤ number → number ≤ last.commit.toNat →
        PageAfter db pageSize.toNat frames number
          (slice written ((number - 1) * pageSize.toNat) pageSize.toNat) := by
  have lengthEq := @length_frames db pageSize frames last isLast commits
  refine ⟨_, whole ▸ applySegments_eq sized passes, rfl, lengthEq, ?_⟩
  intro _ positive inside
  rw [← pageAt_inside (lengthEq ▸ mul_le_mul_right _ inside) positive]
  exact pageAfter_frames positive sound

/-- Three pages of two bytes in two segments, of which the commit keeps the first. -/
theorem replayed_pages_sample :
    ∃ written, [⟨2, 0, [⟨1, 0, [1, 2]⟩]⟩, ⟨2, 1, [⟨3, 1, [5, 6]⟩]⟩].foldlM applySegment [9] =
        .ok written ∧
      written = [⟨1, 0, [1, 2]⟩, ⟨3, 1, [5, 6]⟩].foldl (writeFrame 2) [9] ∧
      written.length = 1 * 2 ∧
      ∀ number, 1 ≤ number → number ≤ 1 →
        PageAfter [9] 2 [⟨1, 0, [1, 2]⟩, ⟨3, 1, [5, 6]⟩] number
          (slice written ((number - 1) * 2) 2) := by
  apply @replayed_pages 2 [9] _ ⟨3, 1, [5, 6]⟩
  · decide
  · rfl
  · decide
  · decide
  · rfl
  · exact ⟨rfl, rfl, trivial⟩

end Addons.WalFollowing
