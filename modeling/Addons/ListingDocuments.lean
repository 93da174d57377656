import Addons.MetaArtifacts
import Mathlib.Data.List.Infix
import Mathlib.Data.List.Sort

/-!
# Documents derived from a listing

The index of a PyPI project, the referrers of an OCI manifest and the latest version of a Go
module, as they are computed from the artifacts whose paths match a pattern.
-/

namespace Addons.ListingDocuments

open List MetaStore

/-- SQLite's `LIKE`. -/
def likeMatches : List Char → List Char → Bool
  | [], text => text.isEmpty
  | '%' :: pattern, text => text.tails.any (likeMatches pattern)
  | '_' :: pattern, text => !text.isEmpty && likeMatches pattern text.tail
  | character :: pattern, text =>
    text.head?.map Char.toLower = some character.toLower && likeMatches pattern text.tail

def listed (repoId : Int) (start : String) (row : ArtifactRow) : Bool :=
  row.repoId = repoId && likeMatches (start.toList ++ ['%']) row.path.toList

def listArtifacts (lib : Libraries) (rows : List ArtifactRow) (repoId : Int) (start : String) :
    List Artifact :=
  ((rows.filter (listed repoId start)).insertionSort fun first second =>
    first.path ≤ second.path).map (scanArtifact lib)

/-! ## The index of a hosted PyPI project -/

def pathBase (path : String) : String :=
  let parts := path.toList.reverse.dropWhile (· = '/')
  if path = "" then "." else if parts = [] then "/"
  else String.ofList (parts.takeWhile (· ≠ '/')).reverse

structure PypiFile where
  filename : String
  url : String
  sha256 : String
  size : Int
  requiresPython : Option String
  uploadTime : Option Time
deriving DecidableEq

structure SimpleIndex where
  name : String
  files : List PypiFile
  versions : List String
deriving DecidableEq

/-- `none` is the answer that there is no such project. -/
def pypiLocalSimple (encode : String → String) (requiresPython : String → Option String)
    (base project : String) (artifacts : List Artifact) : Option SimpleIndex :=
  if artifacts.isEmpty then none
  else some
    { name := project
      files := artifacts.map fun artifact =>
        { filename := pathBase artifact.path
          url := base ++ "/packages/" ++ project ++ "/" ++ encode (pathBase artifact.path)
          sha256 := artifact.blobSha256
          size := artifact.size
          requiresPython := requiresPython artifact.metadataJson
          uploadTime := artifact.publishedAt }
      versions := (((artifacts.map Artifact.version).filter (· ≠ "")).eraseDups).insertionSort
        (· ≤ ·) }

/-! ## The referrers of an OCI manifest -/

structure OciManifest where
  subject : Option String
  artifactType : String
  configMediaType : Option String
  annotations : List (String × String)

structure OciDescriptor where
  digest : String
  mediaType : String
  size : Int
  artifactType : String
  annotations : List (String × String)

/-- What follows the last occurrence of the pattern. -/
def afterLast (pattern text : String) : Option String :=
  (text.toList.tails.filter pattern.toList.isPrefixOf).getLast?.map fun tail =>
    String.ofList (tail.drop pattern.length)

/-- What a listed manifest adds to the referrers. -/
def ociDescriptor (isDigest : String → Bool) (readManifest : Artifact → Option OciManifest)
    (reference filter : String) (artifact : Artifact) : Option OciDescriptor := do
  let digest ← (afterLast "/manifests/" artifact.path).filter isDigest
  let manifest ← readManifest artifact
  let subject ← manifest.subject
  let artifactType :=
    if manifest.artifactType = "" then manifest.configMediaType.getD "" else manifest.artifactType
  if subject ≠ reference ∨ (filter ≠ "" ∧ artifactType ≠ filter) then none
  else some ⟨digest, artifact.contentType, artifact.size, artifactType, manifest.annotations⟩

def ociReferrers (isDigest : String → Bool) (readManifest : Artifact → Option OciManifest)
    (reference filter : String) (artifacts : List Artifact) : List OciDescriptor :=
  artifacts.filterMap (ociDescriptor isDigest readManifest reference filter)

/-! ## The latest version of a Go module -/

/-- The rules of Go versions, and the version of an `.info` document. -/
structure GoRules where
  unescapeVersion : String → Option String
  canonical : String → String
  infoVersion : String → Option String
  /-- Rank and version put the first no later than the second. -/
  latestFirst : String → String → Bool

def addGoInfo (rules : GoRules) (readBlob : String → Except String String) (current : String)
    (paths : List String) (infos : Std.TreeMap String String) (artifact : Artifact) :
    Except String (Std.TreeMap String String) := do
  if artifact.path.endsWith ".info" = false then return infos
  let base := (artifact.path.dropEnd 5).toString
  let some version := rules.unescapeVersion ((pathBase artifact.path).dropEnd 5).toString
    | throw "A legacy .info path has invalid escaping"
  if version = current then return infos
  if (base ++ ".mod") ∉ paths ∨ (base ++ ".zip") ∉ paths then
    throw "Every legacy .info requires matching .mod and .zip artifacts"
  let value ← readBlob artifact.blobSha256
  if rules.infoVersion value ≠ some version ∨ rules.canonical version ≠ version then
    throw "A legacy .info file is malformed"
  return infos.insert version value

def selectGoLatest (rules : GoRules) (readBlob : String → Except String String)
    (current currentInfo : String) (artifacts : List Artifact) : Except String String := do
  let infos ← artifacts.foldlM
    (addGoInfo rules readBlob current (artifacts.map Artifact.path)) {(current, currentInfo)}
  let best := ((infos.keys.mergeSort rules.latestFirst).head?).getD ""
  return infos.getD best ""

/-! ## What a listing depends on -/

section Sorting

variable {α β : Type} {r : α → α → Prop} [DecidableRel r] [Std.Total r] [IsTrans α r]

theorem insertionSort_sublist (front : List α) (item : α) (back : List α) :
    (front ++ back).insertionSort r <+ (front ++ item :: back).insertionSort r := by
  induction front with
  | nil => exact sublist_orderedInsert item _
  | cons first _ ih => exact ih.orderedInsert_sublist first (pairwise_insertionSort r _)

/-- A sorted list is chosen from as without an item exactly when the item is not chosen. -/
theorem filterMap_insertionSort_iff {f : α → Option β} {front back : List α} {item : α} :
    ((front ++ item :: back).insertionSort r).filterMap f =
      ((front ++ back).insertionSort r).filterMap f ↔ f item = none := by
  have sorted (items : List α) : ((items.insertionSort r).filterMap f).length =
      (items.filterMap f).length := ((perm_insertionSort r items).filterMap f).length_eq
  constructor
  · intro same
    have lengths := congrArg length same
    rw [sorted, sorted] at lengths
    cases chosen : f item with
    | none => rfl
    | some => simp [chosen] at lengths
  · intro unchosen
    refine (((insertionSort_sublist front item back).filterMap f).eq_of_length ?_).symm
    simp [sorted, unchosen]

end Sorting

variable {lib : Libraries} {front back : List ArtifactRow} {row : ArtifactRow} {repoId : Int}
  {start : String}

theorem length_listArtifacts_of_listed (present : listed repoId start row) :
    (listArtifacts lib (front ++ row :: back) repoId start).length =
      (listArtifacts lib (front ++ back) repoId start).length + 1 := by
  simp only [listArtifacts, length_map, length_insertionSort, filter_append,
    filter_cons, present, if_true, length_append, length_cons]
  omega

/-- An artifact of the repository leaves the three documents alone if the pattern does not match
its path; the PyPI index only then, and the OCI referrers also when it has no descriptor. -/
theorem listing_documents_iff (lib : Libraries) (front back : List ArtifactRow) (row : ArtifactRow)
    (encode : String → String) (requiresPython : String → Option String) (base project : String)
    (isDigest : String → Bool) (readManifest : Artifact → Option OciManifest)
    (image reference filter : String) (rules : GoRules)
    (readBlob : String → Except String String) (modulePath current currentInfo : String) :
    let index rows := pypiLocalSimple encode requiresPython base project
      (listArtifacts lib rows row.repoId ("packages/" ++ project ++ "/"))
    let referrers rows := ociReferrers isDigest readManifest reference filter
      (listArtifacts lib rows row.repoId (image ++ "/manifests/"))
    let latest rows := selectGoLatest rules readBlob current currentInfo
      (listArtifacts lib rows row.repoId (modulePath ++ "/@v/"))
    (index (front ++ row :: back) = index (front ++ back) ↔
      listed row.repoId ("packages/" ++ project ++ "/") row = false) ∧
    (referrers (front ++ row :: back) = referrers (front ++ back) ↔
      listed row.repoId (image ++ "/manifests/") row = false ∨
        ociDescriptor isDigest readManifest reference filter (scanArtifact lib row) = none) ∧
    (listed row.repoId (modulePath ++ "/@v/") row = false →
      latest (front ++ row :: back) = latest (front ++ back)) := by
  refine ⟨⟨fun same => ?_, fun absent => ?_⟩, ?_, fun absent => ?_⟩
  · by_contra present
    rw [Bool.not_eq_false] at present
    let count (index : Option SimpleIndex) := (index.map fun index => index.files.length).getD 0
    have counted (artifacts : List Artifact) :
        count (pypiLocalSimple encode requiresPython base project artifacts) =
          artifacts.length := by
      unfold pypiLocalSimple
      cases artifacts <;> simp [count]
    have lengths := congrArg count same
    simp only [counted, length_listArtifacts_of_listed present] at lengths
    omega
  · simp [listArtifacts, filter_append, absent]
  · cases present : listed row.repoId (image ++ "/manifests/") row with
    | false => simp [listArtifacts, filter_append, present]
    | true =>
      simp only [ociReferrers, listArtifacts, filterMap_map, filter_append,
        filter_cons_of_pos present, filterMap_insertionSort_iff]
      simp
  · simp [listArtifacts, filter_append, absent]

/-- The index of a project called by a percent sign has the files of all projects. -/
theorem index_of_foreign_files :
    let row : ArtifactRow := ⟨1, "packages/other/other-1.whl", "1", "sha", 1, "", "", none, "", "",
      "", "", "", none, ""⟩
    let lib : Libraries := ⟨fun _ => "", fun _ => none, fun _ => none, fun _ => true,
      fun _ _ => none, fun _ => none⟩
    ("packages/%/".isPrefixOf row.path) = false ∧
    pypiLocalSimple id (fun _ => none) "" "%" (listArtifacts lib [row] 1 "packages/%/") ≠
      pypiLocalSimple id (fun _ => none) "" "%" (listArtifacts lib [] 1 "packages/%/") := by
  decide +kernel

end Addons.ListingDocuments
