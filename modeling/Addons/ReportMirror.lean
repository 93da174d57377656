import Addons.KeyedTable
import Addons.TransitionSystem
import Addons.WatchStreams
import Mathlib.Tactic.Common

/-!
# The database as a mirror of a watch stream

One watch loop for each cluster and report kind: every report of a watched namespace that the
stream tells of is stored, and every report that it tells the deletion of is removed.
-/

namespace Addons.TrivyCollector

open Option Function

/-! ## Columns extracted from a report -/

/-- A JSON value; an integer that does not fit the range of the number type is a float. -/
inductive Json where
  | null
  | bool (value : Bool)
  | int (value : Int)
  | float (text : String)
  | str (value : String)
  | array (items : List Json)
  | object (members : List (String × Json))

namespace Json

def get? (name : String) : Json → Option Json
  | object members => members.lookup name
  | _ => none

def asStr : Json → Option String
  | str value => some value
  | _ => none

def asI64 : Json → Option Int
  | int value =>
    if -9223372036854775808 ≤ value ∧ value ≤ 9223372036854775807 then some value else none
  | _ => none

end Json

def extractMetadataFromValue (data : Json) : String × String × String :=
  let app := do
    let labels ← data.get? "metadata" >>= Json.get? "labels"
    let label ← (labels.get? "trivy-operator.resource.name").or
      ((labels.get? "app.kubernetes.io/name").or (labels.get? "app"))
    label.asStr
  let image := (data.get? "report" >>= Json.get? "artifact").map fun artifact =>
    let repo := (artifact.get? "repository" >>= Json.asStr).getD ""
    let tag := (artifact.get? "tag" >>= Json.asStr).getD ""
    if tag = "" then repo else repo ++ ":" ++ tag
  let registry := data.get? "report" >>= Json.get? "registry" >>= Json.get? "server" >>= Json.asStr
  (app.getD "", image.getD "", registry.getD "")

def summaryCount (data : Json) (name : String) : Int :=
  (data.get? "report" >>= Json.get? "summary" >>= Json.get? name >>= Json.asI64).getD 0

structure ReportContent where
  app : String
  image : String
  registry : String
  critical : Int
  high : Int
  medium : Int
  low : Int
  unknown : Int
  componentsCount : Int
  data : String
deriving DecidableEq

/-- The columns of a report's text; those of a text that does not parse are empty. -/
def extractContent (parseJson : String → Option Json) (dataJson : String) : ReportContent :=
  match parseJson dataJson with
  | none => ⟨"", "", "", 0, 0, 0, 0, 0, 0, dataJson⟩
  | some data =>
    let (app, image, registry) := extractMetadataFromValue data
    { app, image, registry
      critical := summaryCount data "criticalCount"
      high := summaryCount data "highCount"
      medium := summaryCount data "mediumCount"
      low := summaryCount data "lowCount"
      unknown := summaryCount data "unknownCount"
      componentsCount := summaryCount data "componentsCount"
      data := dataJson }

/-! ## Rows -/

/-- The columns under which a report is unique. -/
structure ReportKey where
  cluster : String
  namespaceName : String
  name : String
  reportType : String
deriving DecidableEq

structure ReportRow where
  key : ReportKey
  content : ReportContent
  receivedAt : Int
  updatedAt : Int
deriving DecidableEq

abbrev Database := KeyedTable ReportRow.key

structure ReportPayload where
  key : ReportKey
  dataJson : String
  receivedAt : Int
deriving DecidableEq

namespace Database

/-- Insert a report, or replace all of its row but the time it was first received. -/
def upsertReport (db : Database) (parseJson : String → Option Json) (payload : ReportPayload)
    (now : Int) : Database :=
  let content := extractContent parseJson payload.dataJson
  db.upsert ⟨payload.key, content, payload.receivedAt, now⟩
    (fun old => { old with content, updatedAt := now }) fun _ => rfl

def deleteReport (db : Database) (key : ReportKey) : Database :=
  db.deleteWhere fun row => row.key = key

def getReport (db : Database) (key : ReportKey) : Option ReportRow :=
  db.find? key

def content? (db : Database) (key : ReportKey) : Option ReportContent :=
  (db.find? key).map ReportRow.content

theorem find?_deleteReport (db : Database) (deleted key : ReportKey) :
    (db.deleteReport deleted).find? key = if key = deleted then none else db.find? key := by
  unfold deleteReport
  rw [KeyedTable.find?_deleteWhere]
  cases found : db.find? key with
  | none => simp
  | some row =>
    obtain ⟨_, rfl⟩ := KeyedTable.find?_eq_some_iff.1 found
    by_cases same : row.key = deleted <;> simp [Option.filter, same]

end Database

open WatchStream (Event View)

/-! ## Hydration -/

inductive ReportKind where
  | vulnerability
  | sbom
deriving DecidableEq

def ReportKind.asReportType : ReportKind → String
  | .vulnerability => "vulnerabilityreport"
  | .sbom => "sbomreport"

structure ClusterSync where
  vulnWatcherRunning : Bool
  sbomWatcherRunning : Bool
  vulnInitialSyncDone : Bool
  sbomInitialSyncDone : Bool
deriving DecidableEq

def ClusterSync.none : ClusterSync := ⟨false, false, false, false⟩

def ClusterSync.isHydrated (sync : ClusterSync) : Bool :=
  sync.vulnInitialSyncDone && sync.sbomInitialSyncDone

structure WatcherStatus where
  clusters : Std.TreeMap String ClusterSync
  expectsClusters : Bool

namespace WatcherStatus

def registerCluster (status : WatcherStatus) (cluster : String) : WatcherStatus :=
  { status with clusters := status.clusters.insertIfNew cluster .none }

def unregisterCluster (status : WatcherStatus) (cluster : String) : WatcherStatus :=
  { status with clusters := status.clusters.erase cluster }

def setSyncDone (status : WatcherStatus) (cluster : String) (kind : ReportKind) (done : Bool) :
    WatcherStatus :=
  let entry := status.clusters.getD cluster .none
  let entry :=
    match kind with
    | .vulnerability => { entry with vulnInitialSyncDone := done }
    | .sbom => { entry with sbomInitialSyncDone := done }
  { status with clusters := status.clusters.insert cluster entry }

def isHydrated (status : WatcherStatus) : Bool :=
  if !status.expectsClusters then true
  else !status.clusters.isEmpty && status.clusters.values.all ClusterSync.isHydrated

end WatcherStatus

/-! ## Reports -/

structure ObjectMeta where
  namespaceName : Option String
  name : Option String
deriving DecidableEq

structure Report (Body : Type) where
  metadata : ObjectMeta
  body : Body
deriving DecidableEq

structure WatchContext where
  clusterName : String
  namespaces : List String
  /-- An evaluator of alerts is attached. -/
  alerts : Bool
deriving DecidableEq

/-- No list of namespaces means every namespace. -/
def WatchContext.watches (context : WatchContext) (namespaceName : String) : Bool :=
  context.namespaces.isEmpty || context.namespaces.contains namespaceName

/-- Namespace and name of a report, for the watched namespaces. -/
def WatchContext.identity (context : WatchContext) (metadata : ObjectMeta) :
    Option (String × String) :=
  let namespaceName := metadata.namespaceName.getD "default"
  if context.watches namespaceName then some (namespaceName, metadata.name.getD "unknown") else none

def WatchContext.key (context : WatchContext) (kind : ReportKind) (identity : String × String) :
    ReportKey :=
  ⟨context.clusterName, identity.1, identity.2, kind.asReportType⟩

/-! ## Events -/

/-- What a watch loop works on: the database and the status, which it shares with other loops,
the number of reports since the start of the last list, and the alert evaluations that it has
spawned, with the text stored before. -/
structure WatchState where
  db : Database
  status : WatcherStatus
  count : Nat
  evaluations : List (ReportPayload × Option String)

section Handling

variable {Body : Type} (toJson : Report Body → String) (parseJson : String → Option Json)

/-- A report is stored; it is evaluated for alerts once the whole fleet is hydrated. -/
def storeReport (context : WatchContext) (kind : ReportKind) (now : Int) (report : Report Body)
    (identity : String × String) (state : WatchState) : WatchState :=
  let payload : ReportPayload := ⟨context.key kind identity, toJson report, now⟩
  let previous :=
    if context.alerts then
      (state.db.getReport payload.key).map fun row : ReportRow => row.content.data
    else none
  let evaluations :=
    if context.alerts && state.status.isHydrated then state.evaluations ++ [(payload, previous)]
    else state.evaluations
  { state with
    db := state.db.upsertReport parseJson payload now
    count := state.count + 1
    evaluations }

def handleEvent (context : WatchContext) (kind : ReportKind) (now : Int)
    (event : Event (Report Body)) (state : WatchState) : WatchState :=
  match event with
  | .apply report | .initApply report =>
    match context.identity report.metadata with
    | none => state
    | some identity => storeReport toJson parseJson context kind now report identity state
  | .delete report =>
    match context.identity report.metadata with
    | none => state
    | some identity => { state with db := state.db.deleteReport (context.key kind identity) }
  | .init => { state with count := 0 }
  | .initDone =>
    { state with status := state.status.setSyncDone context.clusterName kind true }

end Handling

open TransitionSystem (Reachable)

variable {Body : Type} {toJson : Report Body → String} {parseJson : String → Option Json}
  {context : WatchContext} {kind : ReportKind}

/-! ## What one event does to the rows -/

theorem key_injective {first second : String × String}
    (same : context.key kind first = context.key kind second) : first = second := by
  rw [ReportKey.mk.injEq] at same
  exact Prod.ext same.2.1 same.2.2.1

/-- The object has a namespace and a name, as every stored object of its kind. -/
def Named (report : Report Body) (identity : String × String) : Prop :=
  report.metadata = ⟨some identity.1, some identity.2⟩

variable {report : Report Body}

theorem identity_of_named {identity : String × String} (named : Named report identity) :
    context.identity report.metadata =
      if context.watches identity.1 then some identity else none := by
  rw [named]
  rfl

variable {named : String × String}

theorem content?_apply (isNamed : Named report named) (now : Int) (state : WatchState)
    (identity : String × String) :
    (handleEvent toJson parseJson context kind now (.apply report) state).db.content?
        (context.key kind identity) =
      if context.watches named.1 ∧ identity = named then
        some (extractContent parseJson (toJson report))
      else state.db.content? (context.key kind identity) := by
  simp only [handleEvent, identity_of_named isNamed]
  by_cases watched : context.watches named.1
  · simp only [watched, if_true, storeReport, Database.content?, Database.upsertReport,
      KeyedTable.find?_upsert, true_and]
    by_cases same : identity = named
    · cases state.db.find? (context.key kind identity) <;> simp [same]
    · rw [if_neg same, if_neg fun equal => same (key_injective equal)]
  · simp [watched]

theorem content?_delete (isNamed : Named report named) (now : Int) (state : WatchState)
    (identity : String × String) :
    (handleEvent toJson parseJson context kind now (.delete report) state).db.content?
        (context.key kind identity) =
      if context.watches named.1 ∧ identity = named then none
      else state.db.content? (context.key kind identity) := by
  simp only [handleEvent, identity_of_named isNamed]
  by_cases watched : context.watches named.1
  · simp only [watched, if_true, Database.content?, Database.find?_deleteReport, true_and]
    by_cases same : identity = named
    · simp [same]
    · rw [if_neg same, if_neg fun equal => same (key_injective equal)]
  · simp [watched]

theorem find?_handleEvent (now : Int) (event : Event (Report Body)) (state : WatchState)
    {key : ReportKey}
    (foreign : ¬(key.cluster = context.clusterName ∧ key.reportType = kind.asReportType)) :
    (handleEvent toJson parseJson context kind now event state).db.find? key =
      state.db.find? key := by
  have other (identity : String × String) : key ≠ context.key kind identity := by
    rintro rfl
    exact foreign ⟨rfl, rfl⟩
  cases event with
  | init => rfl
  | initDone => rfl
  | apply | initApply =>
    unfold handleEvent
    dsimp only
    split
    · rfl
    · exact KeyedTable.find?_upsert_of_ne state.db _ _ _ (other _)
  | delete =>
    unfold handleEvent
    dsimp only
    split
    · rfl
    · rw [Database.find?_deleteReport, if_neg (other _)]

/-! ## Runs of one watcher -/

/-- A watcher, with what its stream has told. -/
structure Watching (Body : Type) where
  watch : WatchState
  view : View (Option String × Option String) (Report Body)

def reportRef (report : Report Body) : Option String × Option String :=
  (report.metadata.namespaceName, report.metadata.name)

/-- Every object of an event has a namespace and a name. -/
def NamedEvent : Event (Report Body) → Bool
  | .apply report | .initApply report | .delete report =>
    report.metadata.namespaceName.isSome && report.metadata.name.isSome
  | .init | .initDone => true

theorem exists_named
    (named : (report.metadata.namespaceName.isSome && report.metadata.name.isSome)) :
    ∃ identity, Named report identity := by
  obtain ⟨⟨namespaceName, name⟩, _⟩ := report
  simp only [Bool.and_eq_true] at named
  obtain ⟨namespaceName, rfl⟩ := isSome_iff_exists.1 named.1
  obtain ⟨name, rfl⟩ := isSome_iff_exists.1 named.2
  exact ⟨(namespaceName, name), rfl⟩

/-- The stream gives an event, and the watcher handles it at some time. -/
structure WatchStep (toJson : Report Body → String) (parseJson : String → Option Json)
    (context : WatchContext) (kind : ReportKind) (state : Watching Body)
    (event : Event (Report Body) × Int) (after : Watching Body) : Prop where
  named : NamedEvent event.1 = true
  told : state.view.next reportRef event.1 = some after.view
  handled : after.watch = handleEvent toJson parseJson context kind event.2 event.1 state.watch

/-- What the rows of a watcher should say of a report. -/
def expectedContent (toJson : Report Body → String) (parseJson : String → Option Json)
    (context : WatchContext) (reports : Option String × Option String → Option (Report Body))
    (identity : String × String) : Option ReportContent :=
  if context.watches identity.1 then
    (reports (some identity.1, some identity.2)).map fun report =>
      extractContent parseJson (toJson report)
  else none

/-- A list that completes has every report that the stream has told of and not removed; the first
one has also the reports of the rows that the watcher found. -/
def ListsKnown (context : WatchContext) (kind : ReportKind) (found : Database)
    (state : Watching Body) : Event (Report Body) × Int → Prop
  | (.initDone, _) => ∀ identity : String × String,
      (context.watches identity.1 = true ∧
          (state.view.latest (some identity.1, some identity.2)).isSome = true ∨
        state.view.complete = false ∧
          (found.content? (context.key kind identity)).isSome = true) →
      context.watches identity.1 = true ∧
        (state.view.listing.bind fun listed =>
          listed (some identity.1, some identity.2)).isSome = true
  | _ => True

/-- The rows are those of the reports told of and, until a list has been completed, those that the
watcher found. -/
structure Mirrored (toJson : Report Body → String) (parseJson : String → Option Json)
    (context : WatchContext) (kind : ReportKind) (found db : Database)
    (view : View (Option String × Option String) (Report Body)) : Prop where
  sound : view.Sound
  rows : ∀ identity, db.content? (context.key kind identity) =
    (expectedContent toJson parseJson context view.latest identity).or
      (if view.complete then none else found.content? (context.key kind identity))

theorem ref_eq_iff {identity : String × String} (isNamed : Named report named) :
    (some identity.1, some identity.2) = reportRef report ↔ identity = named := by
  unfold reportRef
  rw [isNamed]
  simp [Prod.ext_iff]

section Steps

variable {found db after : Database}
  {view next : View (Option String × Option String) (Report Body)}

theorem expectedContent_isSome_iff
    {reports : Option String × Option String → Option (Report Body)} {identity : String × String} :
    (expectedContent toJson parseJson context reports identity).isSome = true ↔
      context.watches identity.1 = true ∧
        (reports (some identity.1, some identity.2)).isSome = true := by
  unfold expectedContent
  split <;> simp [*]

/-- The row of one report changes as the stream tells. -/
theorem Mirrored.change (mirrored : Mirrored toJson parseJson context kind found db view)
    (sound : next.Sound) {report : Report Body} {named : String × String}
    (isNamed : Named report named) (told : Option (Report Body))
    (removes : told = none → view.complete = true)
    (latest : next.latest = Function.update view.latest (reportRef report) told)
    (complete : next.complete = view.complete)
    (rows : ∀ identity, after.content? (context.key kind identity) =
      if context.watches named.1 ∧ identity = named then
        told.map fun report => extractContent parseJson (toJson report)
      else db.content? (context.key kind identity)) :
    Mirrored toJson parseJson context kind found after next where
  sound := sound
  rows identity := by
    rw [rows, complete]
    unfold expectedContent
    rw [latest]
    by_cases same : identity = named
    · subst same
      rw [(ref_eq_iff isNamed).2 rfl, update_self]
      by_cases watched : context.watches identity.1
      · rw [if_pos ⟨watched, rfl⟩, if_pos watched]
        cases told with
        | none => simp [removes rfl]
        | some => rfl
      · rw [if_neg fun both => watched both.1, mirrored.rows identity]
        simp [expectedContent, watched]
    · rw [update_of_ne fun equal => same ((ref_eq_iff isNamed).1 equal),
        if_neg fun both => same both.2, mirrored.rows identity]
      rfl

theorem Mirrored.finish (mirrored : Mirrored toJson parseJson context kind found db view)
    (sound : next.Sound) {listed : Option String × Option String → Option (Report Body)}
    (known : view.listing = some listed) (latest : next.latest = listed)
    (complete : next.complete = true)
    (lists : ∀ identity, (db.content? (context.key kind identity)).isSome = true →
      (expectedContent toJson parseJson context listed identity).isSome = true) :
    Mirrored toJson parseJson context kind found db next where
  sound := sound
  rows identity := by
    rw [latest, complete, if_pos rfl, or_none]
    cases expected : expectedContent toJson parseJson context listed identity with
    | none =>
      have missing := mt (lists identity)
      simpa [expected] using missing
    | some content =>
      obtain ⟨watched, inList⟩ := expectedContent_isSome_iff.1 (isSome_of_eq_some expected)
      obtain ⟨report, isListed⟩ := isSome_iff_exists.1 inList
      have told := mirrored.sound.listed listed known _ report isListed
      have same : expectedContent toJson parseJson context view.latest identity = some content := by
        rw [← expected]
        simp [expectedContent, told, isListed]
      rw [mirrored.rows, same, some_or]

end Steps

variable {state : Watching Body} {event : Event (Report Body) × Int}

theorem mirrored_step {found : Database} {after : Watching Body}
    (mirrored : Mirrored toJson parseJson context kind found state.watch.db state.view)
    (allowed : ListsKnown context kind found state event)
    (taken : WatchStep toJson parseJson context kind state event after) :
    Mirrored toJson parseJson context kind found after.watch.db after.view := by
  obtain ⟨event, now⟩ := event
  obtain ⟨named, told, handled⟩ := taken
  have sound := mirrored.sound.next told
  rw [handled]
  cases event with
  | init =>
    have viewed := some.inj told
    rw [← viewed] at sound ⊢
    exact ⟨sound, mirrored.rows⟩
  | initApply report =>
    obtain ⟨identity, isNamed⟩ := exists_named named
    obtain ⟨listed, _, viewed⟩ := map_eq_some_iff.1 told
    refine mirrored.change sound isNamed (some report) nofun ?_ ?_ (content?_apply isNamed now _)
    all_goals rw [← viewed]
  | initDone =>
    obtain ⟨_, known, viewed⟩ := map_eq_some_iff.1 told
    refine mirrored.finish sound known (by rw [← viewed]) (by rw [← viewed]) fun identity kept => ?_
    rw [mirrored.rows, isSome_or, Bool.or_eq_true, expectedContent_isSome_iff] at kept
    have inList := allowed identity (kept.imp id fun old => by
      cases complete : state.view.complete <;> simp_all)
    rw [known] at inList
    exact expectedContent_isSome_iff.2 inList
  | apply report =>
    obtain ⟨identity, isNamed⟩ := exists_named named
    obtain ⟨_, viewed⟩ := ite_none_right_eq_some.1 told
    rw [some.injEq] at viewed
    refine mirrored.change sound isNamed (some report) nofun ?_ ?_ (content?_apply isNamed now _)
    all_goals rw [← viewed]
  | delete =>
    obtain ⟨_, isNamed⟩ := exists_named named
    obtain ⟨ready, viewed⟩ := ite_none_right_eq_some.1 told
    rw [some.injEq] at viewed
    refine mirrored.change sound isNamed none (fun _ => ready.1) ?_ ?_
      (content?_delete isNamed now _)
    all_goals rw [← viewed]

/-- In every run in which no list that completes lacks a known report, the rows of the watcher's
cluster and kind are those of the stream's reports in watched namespaces once a list has been
completed, and no other row changes. -/
theorem rows_mirror_stream (toJson : Report Body → String) (parseJson : String → Option Json)
    (context : WatchContext) (kind : ReportKind) (db : Database) {state : Watching Body}
    (reached : Reachable (fun state => state.watch.db = db ∧ state.view = .start)
      (WatchStep toJson parseJson context kind) (ListsKnown context kind db) state) :
    (state.view.complete = true →
      (state.view.listing = none → ∀ identity,
        state.watch.db.content? (context.key kind identity) =
          expectedContent toJson parseJson context state.view.current identity) ∧
      ∀ identity, state.watch.db.content? (context.key kind identity) =
        expectedContent toJson parseJson context state.view.latest identity) ∧
    ∀ key, ¬(key.cluster = context.clusterName ∧ key.reportType = kind.asReportType) →
      state.watch.db.find? key = db.find? key := by
  constructor
  · intro complete
    have mirrored : Mirrored toJson parseJson context kind db state.watch.db state.view := by
      refine reached.invariant ?_ fun _ _ _ mirrored allowed taken =>
        mirrored_step mirrored allowed taken
      rintro _ ⟨rfl, viewed⟩
      rw [viewed]
      exact ⟨View.sound_start, fun _ => by simp [expectedContent, View.start]⟩
    have exact (identity : String × String) := mirrored.rows identity
    simp only [complete, if_pos, or_none] at exact
    refine ⟨fun idle identity => ?_, exact⟩
    rw [← mirrored.sound.settled complete idle]
    exact exact identity
  · intro _ foreign
    induction reached with
    | start begins => rw [begins.1]
    | next _ _ taken same => rw [taken.handled, find?_handleEvent _ _ _ foreign, same]

/-! ## Runs on given events -/

/-- The step of a watcher as a function. -/
def watchAct (toJson : Report Body → String) (parseJson : String → Option Json)
    (context : WatchContext) (kind : ReportKind) (state : Watching Body)
    (event : Event (Report Body) × Int) : Option (Watching Body) :=
  if NamedEvent event.1 then
    (state.view.next reportRef event.1).map fun view =>
      ⟨handleEvent toJson parseJson context kind event.2 event.1 state.watch, view⟩
  else none

theorem watchStep_of_act {after : Watching Body}
    (acted : watchAct toJson parseJson context kind state event = some after) :
    WatchStep toJson parseJson context kind state event after := by
  obtain ⟨named, moved⟩ := ite_none_right_eq_some.1 acted
  obtain ⟨_, told, rfl⟩ := map_eq_some_iff.1 moved
  exact ⟨named, told, rfl⟩

/-- A watcher that has not started yet, with an empty database. -/
def idle : Watching Body := ⟨⟨.empty, ⟨∅, true⟩, 0, []⟩, .start⟩

theorem idle_begins : (fun state : Watching Body => state.watch.db = .empty ∧ state.view = .start)
    idle :=
  ⟨rfl, rfl⟩

/-- A report that is deleted while the stream is disconnected, and so is missing from the next
list, keeps its row. -/
theorem deleted_report_keeps_row :
    let context : WatchContext := ⟨"prod", [], false⟩
    let report : Report Unit := ⟨⟨some "default", some "web"⟩, ()⟩
    let toJson := fun _ : Report Unit => "\x7b\x7d"
    let parseJson := fun _ => none
    ∃ state : Watching Unit,
      Reachable (fun state => state.watch.db = .empty ∧ state.view = .start)
        (WatchStep toJson parseJson context .sbom) (fun _ _ => True) state ∧
      state.view.complete = true ∧ state.view.listing.isNone = true ∧
      state.view.current (some "default", some "web") = none ∧
      state.watch.db.content? (context.key .sbom ("default", "web")) =
        some (extractContent parseJson (toJson report)) := by
  intro context report toJson parseJson
  apply Reachable.exists_of_follow (watchAct toJson parseJson context .sbom)
    [(.init, 0), (.initApply report, 0), (.initDone, 0), (.init, 1), (.initDone, 1)] idle_begins
  · intro _ _ _
    exact watchStep_of_act
  · decide +kernel

def webReport (version : String) : Report String := ⟨⟨some "default", some "web"⟩, version⟩

def webContext : WatchContext := ⟨"prod", ["default"], false⟩

abbrev WebRun : Watching String → Prop :=
  Reachable (fun state => state.watch.db = .empty ∧ state.view = .start)
    (WatchStep (·.body) (fun _ => none) webContext .sbom) (ListsKnown webContext .sbom .empty)

/-- A watcher after events, with what its stream has told by then. -/
def Watching.handle (state : Watching String) (events : List (Event (Report String)))
    (view : View (Option String × Option String) (Report String)) : Watching String :=
  ⟨events.foldl (fun watch event =>
    handleEvent (·.body) (fun _ => none) webContext .sbom 0 event watch) state.watch, view⟩

/-- A list of the one report that may be known. -/
theorem webRun_listed {state : Watching String} (run : WebRun state)
    (only : ∀ ref ≠ (some "default", some "web"), state.view.latest ref = none)
    (version : String) :
    let reports := Function.update (fun _ => none) (some "default", some "web")
      (some (webReport version))
    WebRun (state.handle [.init, .initApply (webReport version), .initDone]
      ⟨reports, none, reports, true⟩) := by
  intro reports
  have begun : WebRun (state.handle [.init] { state.view with listing := some fun _ => none }) :=
    run.next (show ListsKnown _ _ _ _ (.init, 0) from trivial) ⟨rfl, rfl, rfl⟩
  have told : WebRun (state.handle [.init, .initApply (webReport version)]
      { state.view with
        listing := some reports
        latest := Function.update state.view.latest (some "default", some "web")
          (some (webReport version)) }) :=
    begun.next (show ListsKnown _ _ _ _ (.initApply (webReport version), 0) from trivial)
      ⟨rfl, rfl, rfl⟩
  refine told.next (show ListsKnown _ _ _ _ ((.initDone, 0) : Event (Report String) × Int) from ?_)
    ⟨rfl, rfl, rfl⟩
  rintro identity (⟨watched, isKnown⟩ | ⟨-, ⟨⟩⟩)
  refine ⟨watched, ?_⟩
  by_cases here : (some identity.1, some identity.2) = (some "default", some "web")
  · simp [here, Watching.handle, reports]
  · simp [Watching.handle, here, only _ here] at isKnown

/-- A report that is changed while the stream is disconnected. -/
theorem rows_mirror_stream_web :
    ∃ state : Watching String, WebRun state ∧
      state.view.current (some "default", some "web") = some (webReport "2") ∧
      state.watch.db.content? (webContext.key .sbom ("default", "web")) =
        some (extractContent (fun _ => none) "2") := by
  have first := webRun_listed (.start idle_begins) (fun _ _ => rfl) "1"
  have second := webRun_listed first
    (fun _ differs => by simp [Watching.handle, differs]) "2"
  obtain ⟨mirrored, _⟩ := rows_mirror_stream (·.body) (fun _ => none) webContext .sbom .empty second
  refine ⟨_, second, by simp [Watching.handle], ?_⟩
  rw [(mirrored rfl).1 rfl ("default", "web")]
  simp [expectedContent, Watching.handle, webContext, WatchContext.watches, webReport]

end Addons.TrivyCollector
