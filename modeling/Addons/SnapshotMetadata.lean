import Addons.TextParsing
import Mathlib.Data.List.Pairwise
import Mathlib.Data.List.Perm.Basic

/-!
# Metadata of the snapshot object and keys of its segments

The object at the snapshot key carries the fence of the term that wrote it and, when it is
the base of a WAL generation, that generation's id.
-/

namespace Addons.SnapshotMetadata

open DecimalText List

abbrev Entry := String × String

def eqIgnoreAsciiCase (left right : String) : Bool :=
  left.toList.map Char.toLower = right.toList.map Char.toLower

def Distinct (entries : List Entry) : Prop :=
  entries.Pairwise fun left right => eqIgnoreAsciiCase left.1 right.1 = false

/-- User metadata. The keys are HTTP header names, so no two agree up to case. -/
structure Metadata where
  entries : List Entry
  distinct : Distinct entries

/-- A response listing exactly these entries, in the order a hash map yields them. -/
def Metadata.Lists (metadata : Metadata) (view : List Entry) : Prop :=
  view.Perm metadata.entries

def metaValue (entries : List Entry) (key : String) : Option String :=
  (entries.find? fun entry => eqIgnoreAsciiCase entry.1 key).map Prod.snd

/-- The fencing token in user metadata: 0 when missing or malformed. -/
def parseFence (entries : List Entry) : Int64 :=
  (entries.findSome? fun entry =>
    if eqIgnoreAsciiCase entry.1 "fence" then parseI64 entry.2 else none).getD 0

def validGeneration (id : String) : Bool :=
  id ≠ "" && id.utf8ByteSize ≤ 64 &&
    id.toList.all fun character => character.isAlphanum || character = '-'

/-- The generation a base belongs to, `none` for a self-contained snapshot. -/
def generationOf (entries : List Entry) : Option String :=
  (metaValue entries "generation").filter validGeneration

def insertEntry (key value : String) (entries : List Entry) : List Entry :=
  (key, value) :: entries.filter fun entry => entry.1 ≠ key

/-- What `put_fenced` writes beside the body: the caller's entries, which are empty
for a plain snapshot, and the fence. -/
def putEntries (fence : Int64) (base : Option (String × String)) : List Entry :=
  insertEntry "fence" (formatI64 fence) <|
    match base with
    | none => []
    | some (id, sha) => [("generation", id), ("sha256", sha)]

theorem distinct_putEntries (fence : Int64) (base : Option (String × String)) :
    Distinct (putEntries fence base) := by
  cases base with
  | none => exact pairwise_singleton _ _
  | some =>
    have keys : eqIgnoreAsciiCase "fence" "generation" = false ∧
        eqIgnoreAsciiCase "fence" "sha256" = false ∧
        eqIgnoreAsciiCase "generation" "sha256" = false := by decide
    simpa [Distinct, putEntries, insertEntry, filter_cons] using ⟨⟨keys.1, keys.2.1⟩, keys.2.2⟩

def putMetadata (fence : Int64) (base : Option (String × String)) : Metadata where
  entries := putEntries fence base
  distinct := distinct_putEntries fence base

theorem eqIgnoreAsciiCase_trans {left middle right : String} (first : eqIgnoreAsciiCase left middle)
    (second : eqIgnoreAsciiCase right middle) : eqIgnoreAsciiCase left right := by
  simp only [eqIgnoreAsciiCase, decide_eq_true_eq] at first second ⊢
  rw [first, second]

variable {entries : List Entry} {key : String}

theorem Distinct.eq_of_key (distinct : Distinct entries) {left right : Entry}
    (leftMem : left ∈ entries) (rightMem : right ∈ entries) (leftKey : eqIgnoreAsciiCase left.1 key)
    (rightKey : eqIgnoreAsciiCase right.1 key) : left = right := by
  have symmetric : Std.Symm fun first second : Entry =>
      eqIgnoreAsciiCase first.1 second.1 = false := by
    constructor
    intro _ _ unequal
    rw [← unequal]
    simp only [eqIgnoreAsciiCase, eq_comm]
  by_contra different
  have apart := List.Pairwise.forall distinct leftMem rightMem different
  rw [eqIgnoreAsciiCase_trans leftKey rightKey] at apart
  cases apart

/-- A lookup finds the one entry whose key differs by case only. -/
theorem metaValue_eq_some_iff (distinct : Distinct entries) {value : String} :
    metaValue entries key = some value ↔
      ∃ name, (name, value) ∈ entries ∧ eqIgnoreAsciiCase name key := by
  unfold metaValue
  constructor
  · intro found
    obtain ⟨⟨name, _⟩, foundEq, rfl⟩ := Option.map_eq_some_iff.mp found
    exact ⟨name, mem_of_find?_eq_some foundEq, by simpa using find?_some foundEq⟩
  · rintro ⟨name, member, named⟩
    cases foundEq : entries.find? fun entry => eqIgnoreAsciiCase entry.1 key with
    | none => simpa [named] using find?_eq_none.mp foundEq _ member
    | some entry =>
      have same : entry = (name, value) :=
        distinct.eq_of_key (mem_of_find?_eq_some foundEq) member
          (by simpa using find?_some foundEq) named
      simp [same]

variable {metadata : Metadata} {view : List Entry}

theorem parseFence_eq_metaValue {entries : List Entry} (distinct : Distinct entries) :
    parseFence entries = ((metaValue entries "fence").bind parseI64).getD 0 := by
  induction entries with
  | nil => rfl
  | cons entry entries ih =>
    obtain ⟨apart, distinct⟩ := pairwise_cons.mp distinct
    by_cases named : eqIgnoreAsciiCase entry.1 "fence"
    · have restNone : (entries.findSome? fun entry =>
          if eqIgnoreAsciiCase entry.1 "fence" then parseI64 entry.2 else none) = none := by
        rw [findSome?_eq_none_iff]
        intro other member
        have otherName : eqIgnoreAsciiCase other.1 "fence" = false := by
          by_contra same
          have both := eqIgnoreAsciiCase_trans named (by simpa using same)
          rw [apart other member] at both
          cases both
        simp [otherName]
      cases parsed : parseI64 entry.2 <;>
        simp [parseFence, metaValue, named, restNone, parsed]
    · have skipped : parseFence (entry :: entries) = parseFence entries := by
        simp [parseFence, named]
      rw [skipped, ih distinct]
      simp [metaValue, named]

section

variable (lists : metadata.Lists view)
include lists

theorem Metadata.Lists.distinct : Distinct view := by
  apply (List.Perm.pairwise_iff _ lists).mpr metadata.distinct
  intro _ _ unequal
  rw [← unequal]
  simp only [eqIgnoreAsciiCase, eq_comm]

theorem Metadata.Lists.metaValue_eq (key : String) :
    metaValue view key = metaValue metadata.entries key := by
  ext value
  rw [metaValue_eq_some_iff lists.distinct, metaValue_eq_some_iff metadata.distinct]
  simp only [List.Perm.mem_iff lists]

theorem Metadata.Lists.parseFence_eq : parseFence view = parseFence metadata.entries := by
  rw [parseFence_eq_metaValue lists.distinct, parseFence_eq_metaValue metadata.distinct,
    lists.metaValue_eq]

theorem Metadata.Lists.generationOf_eq : generationOf view = generationOf metadata.entries := by
  rw [generationOf, generationOf, lists.metaValue_eq]

end

@[simp]
theorem parseFence_putEntries (fence : Int64) (base : Option (String × String)) :
    parseFence (putEntries fence base) = fence := by
  have named : eqIgnoreAsciiCase "fence" "fence" := by decide
  simp [parseFence, putEntries, insertEntry, named, parseI64_formatI64]

theorem generationOf_putEntries (fence : Int64) (base : Option (String × String)) :
    generationOf (putEntries fence base) = (base.map Prod.fst).filter validGeneration := by
  have apart : eqIgnoreAsciiCase "fence" "generation" = false := by decide
  have named : eqIgnoreAsciiCase "generation" "generation" := by decide
  cases base <;> simp [generationOf, metaValue, putEntries, insertEntry, apart, named]

/-- Generation ids sort by term, then time. `uuid` is the text of a random UUID. -/
def newGenerationId (fence : Int64) (millis : Int) (uuid : String) : String :=
  zeroPad 12 fence.toInt.toNat ++ "-" ++ zeroPad 13 millis.toNat ++ "-" ++
    String.ofList (uuid.toList.take 8)

/-- Where segments lie, given the snapshot key. -/
def walPrefixFor (key : String) : String :=
  match key.toList.reverse.dropWhile (· ≠ '/') with
  | [] => "wal/"
  | _ :: directory => String.ofList directory.reverse ++ "/wal/"

def generationPrefix (key generation : String) : String :=
  walPrefixFor key ++ generation ++ "/"

def segmentKey (key generation : String) (seq : Nat) : String :=
  generationPrefix key generation ++ zeroPad 20 seq ++ ".seg"

def cleanupKeeps (key : String) (keep : Option String) (generation : String) (seq : Nat) :
    Bool :=
  keep.any fun id =>
    (generationPrefix key id).toList.isPrefixOf (segmentKey key generation seq).toList

theorem not_mem_newGenerationId {fence : Int64} {millis : Int} {uuid : String}
    (hexadecimal : '/' ∉ uuid.toList) : '/' ∉ (newGenerationId fence millis uuid).toList := by
  have noSlash : ∀ width number, '/' ∉ (zeroPad width number).toList := by
    intro _ _ member
    simpa using isDigit_of_mem_zeroPad member
  have noSlashUuid : '/' ∉ uuid.toList.take 8 := fun member =>
    hexadecimal (mem_of_mem_take member)
  simp [newGenerationId, noSlash, noSlashUuid]

theorem append_separator_isPrefix_iff {separator : Char} {left right rest : List Char}
    (leftFree : separator ∉ left) (rightFree : separator ∉ right) :
    left ++ [separator] <+: right ++ separator :: rest ↔ left = right := by
  constructor
  · intro isPrefix
    induction left generalizing right with
    | nil =>
      cases right with
      | nil => rfl
      | cons =>
        simp only [nil_append, cons_append, cons_prefix_cons] at isPrefix
        exact absurd (isPrefix.1 ▸ mem_cons_self) rightFree
    | cons _ left ih =>
      cases right with
      | nil =>
        simp only [nil_append, cons_append, cons_prefix_cons] at isPrefix
        exact absurd (isPrefix.1 ▸ mem_cons_self) leftFree
      | cons _ right =>
        simp only [cons_append, cons_prefix_cons] at isPrefix
        have tails : left = right := ih (fun member => leftFree (mem_cons_of_mem _ member))
          (fun member => rightFree (mem_cons_of_mem _ member)) isPrefix.2
        rw [isPrefix.1, tails]
  · rintro rfl
    exact ⟨rest, by simp⟩

/-- The cleanup keeps the segments of one generation. -/
theorem cleanupKeeps_iff {key generation : String} {keep : Option String} {seq : Nat}
    (keepFree : ∀ id ∈ keep, '/' ∉ id.toList) (generationFree : '/' ∉ generation.toList) :
    cleanupKeeps key keep generation seq ↔ keep = some generation := by
  cases keep with
  | none => simp [cleanupKeeps]
  | some id =>
    have separated : id.toList ++ ['/'] <+:
        generation.toList ++ '/' :: ((zeroPad 20 seq).toList ++ ".seg".toList) ↔
          id = generation := by
      rw [append_separator_isPrefix_iff (keepFree id rfl) generationFree, String.toList_inj]
    simpa [cleanupKeeps, generationPrefix, segmentKey, isPrefixOf_iff_prefix,
      prefix_append_right_inj] using separated

end Addons.SnapshotMetadata
