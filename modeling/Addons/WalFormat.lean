import Addons.ByteOrder

/-!
# SQLite WAL frames and shipped segments

The reader of a live `-wal` file and the segment format.
-/

namespace Addons.WalFormat

open ByteOrder

def walHeaderLen : Nat := 32
def frameHeaderLen : Nat := 24
def walMagicLe : UInt32 := 0x377f0682
def walMagicBe : UInt32 := 0x377f0683
def walVersion : UInt32 := 3007000

/-- Errors from reading, decoding or replaying frames. -/
inductive Error where
  | io (op : String)
  | invalid (message : String)
  deriving DecidableEq, Repr

/-- One committed page image. `commit` is the database size in pages after the
commit this frame ends, or 0 for a frame inside a transaction. -/
structure Frame where
  pgno : UInt32
  commit : UInt32
  page : List UInt8
  deriving DecidableEq, Repr

abbrev Pair := UInt32 × UInt32

/-- Where the next unread frame of a WAL file starts, with the state needed to
validate it. -/
structure Cursor where
  offset : Nat
  salt : Pair
  checksum : Pair
  bigEndian : Bool
  pageSize : UInt32
  deriving DecidableEq, Repr

inductive WalRead where
  | frames (frames : List Frame) (cursor : Option Cursor) (complete : Bool)
      (endCursor : Option Cursor)
  | reset (why : String)
  deriving DecidableEq, Repr

structure Header where
  salt : Pair
  checksum : Pair
  bigEndian : Bool
  pageSize : UInt32
  deriving DecidableEq, Repr

def be32 (bytes : List UInt8) (start : Nat) : UInt32 :=
  UInt32.ofNat (fromBeBytes (slice bytes start 4))

def isPowerOfTwo (value : UInt32) : Bool :=
  value != 0 && value &&& (value - 1) == 0

def validPageSize (pageSize : UInt32) : Bool :=
  512 ≤ pageSize.toNat && pageSize.toNat ≤ 65536 && isPowerOfTwo pageSize

def checksumWord (bigEndian : Bool) (bytes : List UInt8) : UInt32 :=
  UInt32.ofNat (fromBeBytes (if bigEndian then bytes else bytes.reverse))

/-- SQLite's WAL checksum: pairs of 32-bit words in the byte order the magic
number selects, accumulated with wrapping addition. -/
def checksum (bigEndian : Bool) : List UInt8 → Pair → Pair
  | b0 :: b1 :: b2 :: b3 :: b4 :: b5 :: b6 :: b7 :: rest, (s0, s1) =>
    let s0 := s0 + checksumWord bigEndian [b0, b1, b2, b3] + s1
    let s1 := s1 + checksumWord bigEndian [b4, b5, b6, b7] + s0
    checksum bigEndian rest (s0, s1)
  | _, seed => seed

def magicBigEndian (magic : UInt32) : Option Bool :=
  if magic = walMagicLe then some false
  else if magic = walMagicBe then some true
  else none

def parseHeader (bytes : List UInt8) : Option Header :=
  match magicBigEndian (be32 bytes 0) with
  | none => none
  | some bigEndian =>
    if be32 bytes 4 ≠ walVersion then none
    else if !validPageSize (be32 bytes 8) then none
    else
      let stored := (be32 bytes 24, be32 bytes 28)
      if checksum bigEndian (bytes.take 24) (0, 0) ≠ stored then none
      else some {
        salt := (be32 bytes 16, be32 bytes 20)
        checksum := stored
        bigEndian := bigEndian
        pageSize := be32 bytes 8 }

/-- The cursor at the first frame of a file with this header. -/
def Header.start (header : Header) : Cursor where
  offset := walHeaderLen
  salt := header.salt
  checksum := header.checksum
  bigEndian := header.bigEndian
  pageSize := header.pageSize

def Cursor.frameLen (cursor : Cursor) : Nat :=
  frameHeaderLen + cursor.pageSize.toNat

/-- Validate the frame in `buffer` against the state at `cursor`, giving the
state after it. -/
def nextFrame (buffer : List UInt8) (cursor : Cursor) : Option Cursor :=
  if (be32 buffer 8, be32 buffer 12) ≠ cursor.salt ∨ be32 buffer 0 = 0 then none
  else
    let sum := checksum cursor.bigEndian (buffer.take 8) cursor.checksum
    let sum := checksum cursor.bigEndian (buffer.drop frameHeaderLen) sum
    if sum ≠ (be32 buffer 16, be32 buffer 20) then none
    else some { cursor with offset := cursor.offset + buffer.length, checksum := sum }

def bufferFrame (buffer : List UInt8) : Frame where
  pgno := be32 buffer 0
  commit := be32 buffer 4
  page := buffer.drop frameHeaderLen

/-- The first pass of `readCommitted`: the boundary after the last commit among
the valid frames from `cursor`. -/
def scanEnd (file : List UInt8) : Nat → Cursor → Cursor → Cursor
  | 0, _, endCursor => endCursor
  | fuel + 1, cursor, endCursor =>
    if cursor.offset + cursor.frameLen ≤ file.length then
      let buffer := slice file cursor.offset cursor.frameLen
      match nextFrame buffer cursor with
      | none => endCursor
      | some next => scanEnd file fuel next (if be32 buffer 4 ≠ 0 then next else endCursor)
    else endCursor

/-- The second pass of `readCommitted`: the frames before `endCursor`, until `limit`
page bytes were taken. -/
def readFrames (file : List UInt8) (limit : Nat) (endCursor : Cursor) :
    Nat → Cursor → List Frame → Except Error (List Frame × Cursor)
  | 0, cursor, frames => .ok (frames, cursor)
  | fuel + 1, cursor, frames =>
    if cursor.offset < endCursor.offset ∧ frames.length * cursor.pageSize.toNat < limit then
      if cursor.offset + cursor.frameLen ≤ file.length then
        let buffer := slice file cursor.offset cursor.frameLen
        match nextFrame buffer cursor with
        | none => .error (.invalid "a committed wal frame changed while it was read")
        | some next => readFrames file limit endCursor fuel next (frames ++ [bufferFrame buffer])
      else .error (.io "read wal frame")
    else .ok (frames, cursor)

def fileHeader (file : List UInt8) : Option Header :=
  if walHeaderLen ≤ file.length then parseHeader (file.take walHeaderLen) else none

/-- Where the scan for the last commit starts. -/
def scanFrom (start : Cursor) (length : Nat) : Option Cursor → Cursor
  | some known =>
    if known.salt = start.salt ∧ start.offset ≤ known.offset ∧ known.offset ≤ length then
      known
    else start
  | none => start

def noFrames : WalRead :=
  .frames [] none true none

/-- The cursor at which a read of a file with this header resumes, or the reason
for which the file does not continue the given cursor. -/
def resumeAt (header : Header) (length : Nat) : Option Cursor → Except String Cursor
  | none => .ok header.start
  | some cursor =>
    if cursor.salt ≠ header.salt ∨ cursor.pageSize ≠ header.pageSize ∨
        cursor.bigEndian ≠ header.bigEndian then
      .error "the wal restarted with new salts"
    else if length < cursor.offset then .error "the wal file shrank below the cursor"
    else .ok cursor

def readCommitted (wal : Option (List UInt8)) (cursor : Option Cursor) (limit : Nat)
    (knownEnd : Option Cursor) : Except Error WalRead :=
  match wal with
  | none => .ok (if cursor.isSome then .reset "the wal file was removed" else noFrames)
  | some file =>
    match fileHeader file with
    | none => .ok (if cursor.isSome then .reset "the wal file was truncated" else noFrames)
    | some header =>
      match resumeAt header file.length cursor with
      | .error why => .ok (.reset why)
      | .ok start =>
        let endCursor := scanEnd file file.length (scanFrom start file.length knownEnd)
          (scanFrom start file.length knownEnd)
        match readFrames file limit endCursor file.length start [] with
        | .error error => .error error
        | .ok (frames, last) =>
          .ok (.frames frames (some last) (last.offset = endCursor.offset) (some endCursor))

end Addons.WalFormat
