import Addons.ReportMirror
import Addons.TextParsing

/-!
# The clusters that are watched

Runs of the hub: the watchers it keeps against the registration Secrets that exist.
-/

namespace Addons.TrivyCollector

open Option Function
open WatchStream (Event View)
open TransitionSystem (Reachable)

/-! ## Registration Secrets -/

structure Secret where
  name : Option String
  resourceVersion : Option String
  labels : List (String × String)
  stringData : List (String × String)
  data : List (String × List UInt8)
deriving DecidableEq

structure ClusterSecret (Credentials : Type) where
  name : String
  server : String
  credentials : Credentials
  namespaces : List String
deriving DecidableEq

structure SecretCodec (Credentials : Type) where
  fromUtf8 : List UInt8 → Option String
  credentials : String → Option Credentials
  namespaces : String → Option (List String)

section Parsing

variable {Credentials : Type} (codec : SecretCodec Credentials)

/-- The text of a field: plain texts come first, and bytes that are no text are skipped. -/
def readSecretMap (secret : Secret) (field : String) : Option String :=
  (secret.stringData.lookup field).or ((secret.data.lookup field).bind codec.fromUtf8)

def parseClusterSecret (secret : Secret) : Except String (ClusterSecret Credentials) :=
  match (readSecretMap codec secret "name").or secret.name with
  | none => .error "cluster Secret missing 'name' field"
  | some name =>
    match readSecretMap codec secret "server" with
    | none => .error s!"cluster Secret '{name}' missing 'server' field"
    | some server =>
      match readSecretMap codec secret "config" with
      | none => .error s!"cluster Secret '{name}' missing 'config' field"
      | some config =>
        match codec.credentials config with
        | none => .error s!"invalid 'config' JSON in cluster Secret '{name}'"
        | some credentials =>
          let written := (readSecretMap codec secret "namespaces").filter fun text =>
            TextParsing.trim text ≠ ""
          match written with
          | none => .ok ⟨name, server, credentials, []⟩
          | some text =>
            match codec.namespaces text with
            | none => .error s!"invalid 'namespaces' JSON in cluster Secret '{name}'"
            | some namespaces => .ok ⟨name, server, credentials, namespaces⟩

def clusterNameFromSecret (secret : Secret) : Option String :=
  match secret.stringData.lookup "name" with
  | some name => some name
  | none =>
    match (secret.data.lookup "name").bind codec.fromUtf8 with
    | some name => some name
    | none => secret.name

end Parsing

def inClusterLabel : String := "trivy-collector.io/in-cluster"

def legacySelfSecretName : String := "cluster-in-cluster-kubernetes.default.svc"

def isInCluster (secret : Secret) : Bool :=
  secret.labels.lookup inClusterLabel = some "true"

def selfSecretName (clusterName : String) : Option String :=
  let trimmed := TextParsing.trim clusterName
  if trimmed = "" then none else some ("cluster-" ++ trimmed ++ "-kubernetes.default.svc")

def isManagedSelfSecretName (name clusterName : String) : Bool :=
  name = legacySelfSecretName ∨ selfSecretName clusterName = some name

/-! ## Watchers -/

/-- A running watcher: the version of the Secret it was started for, and what it read there. -/
structure ClusterHandle (Credentials : Type) where
  resourceVersion : Option String
  secret : ClusterSecret Credentials
deriving DecidableEq

structure ClusterManager (Credentials : Type) where
  clusters : Std.TreeMap String (ClusterHandle Credentials)
  status : WatcherStatus
  /-- How often the Secret of the hub's own cluster was recreated. -/
  recreated : Nat

namespace ClusterManager

variable {Credentials : Type}

/-- Start a watcher, in place of one for another version of the Secret; `built` says whether the
client for the cluster could be built. -/
def upsert (manager : ClusterManager Credentials) (built : Bool)
    (secret : ClusterSecret Credentials) (resourceVersion : Option String) :
    ClusterManager Credentials :=
  let unchanged := manager.clusters[secret.name]?.any (·.resourceVersion = resourceVersion)
  if unchanged then manager
  else
    let stopped := manager.clusters.erase secret.name
    if built then
      { manager with clusters := stopped.insert secret.name ⟨resourceVersion, secret⟩ }
    else { manager with clusters := stopped }

def remove (manager : ClusterManager Credentials) (clusterName : String) :
    ClusterManager Credentials :=
  match manager.clusters[clusterName]? with
  | some _ =>
    { manager with
      clusters := manager.clusters.erase clusterName
      status := manager.status.unregisterCluster clusterName }
  | none => manager

end ClusterManager

section Handling

variable {Credentials : Type} (codec : SecretCodec Credentials) (hubCluster : String)

def handleUpsert (built : Bool) (secret : Secret) (manager : ClusterManager Credentials) :
    ClusterManager Credentials :=
  if isInCluster secret then manager
  else
    match parseClusterSecret codec secret with
    | .ok parsed => manager.upsert built parsed secret.resourceVersion
    | .error _ => manager

/-- A deleted Secret of the hub's own cluster, by its label or by its name. -/
def isSelfSecret (secret : Secret) : Bool :=
  isInCluster secret || isManagedSelfSecretName (secret.name.getD "") hubCluster

def handleSecretEvent (built : Bool) (event : Event Secret) (manager : ClusterManager Credentials) :
    ClusterManager Credentials :=
  match event with
  | .apply secret | .initApply secret => handleUpsert codec built secret manager
  | .delete secret =>
    if isSelfSecret hubCluster secret then
      { manager with recreated := manager.recreated + 1 }
    else
      match clusterNameFromSecret codec secret with
      | some name => manager.remove name
      | none => manager
  | .init | .initDone => manager

end Handling

variable {Credentials : Type} {codec : SecretCodec Credentials} {hubCluster : String}
  {manager : ClusterManager Credentials}

/-- The watcher that a Secret asks for. -/
def registration (codec : SecretCodec Credentials) (secret : Secret) :
    Option (ClusterHandle Credentials) :=
  if isInCluster secret then none
  else
    match parseClusterSecret codec secret with
    | .ok parsed => some ⟨secret.resourceVersion, parsed⟩
    | .error _ => none

variable {handle : ClusterHandle Credentials} {secret : Secret} {name : String}

theorem registration_eq_some_iff :
    registration codec secret = some handle ↔
      isInCluster secret = false ∧ parseClusterSecret codec secret = .ok handle.secret ∧
        secret.resourceVersion = handle.resourceVersion := by
  obtain ⟨_, _⟩ := handle
  unfold registration
  cases isInCluster secret with
  | true => simp
  | false =>
    cases parseClusterSecret codec secret with
    | error => simp
    | ok => simp [and_comm]

/-! ## What one event does to the watchers -/

theorem getElem?_upsert (secret : ClusterSecret Credentials) (version : Option String)
    (name : String) :
    (manager.upsert true secret version).clusters[name]? =
      if name = secret.name ∧
          ¬manager.clusters[secret.name]?.any (·.resourceVersion = version) = true then
        some ⟨version, secret⟩
      else manager.clusters[name]? := by
  unfold ClusterManager.upsert
  dsimp only
  split
  · rename_i unchanged
    rw [if_neg fun both => both.2 unchanged]
  · rename_i changed
    rw [if_pos rfl, Std.TreeMap.getElem?_insert, Std.TreeMap.getElem?_erase]
    by_cases same : name = secret.name
    · subst same
      simp [changed]
    · have differs : ¬compare secret.name name = .eq := fun equal =>
        same (Std.LawfulEqCmp.compare_eq_iff_eq.1 equal).symm
      simp [differs, same]

theorem getElem?_remove (removed name : String) :
    (manager.remove removed).clusters[name]? =
      if name = removed then none else manager.clusters[name]? := by
  unfold ClusterManager.remove
  split
  · rw [Std.TreeMap.getElem?_erase]
    by_cases same : name = removed
    · simp [same]
    · have differs : ¬compare removed name = .eq := fun equal =>
        same (Std.LawfulEqCmp.compare_eq_iff_eq.1 equal).symm
      simp [differs, same]
  · rename_i absent
    split
    · rename_i same
      rw [same, absent]
    · rfl

theorem handleUpsert_of_none (unregistered : registration codec secret = none)
    (built : Bool) : handleUpsert codec built secret manager = manager := by
  unfold registration at unregistered
  unfold handleUpsert
  split
  · rfl
  · rename_i outside
    rw [if_neg outside] at unregistered
    cases parsed : parseClusterSecret codec secret with
    | error => rfl
    | ok => simp [parsed] at unregistered

/-! ## The invariant -/

/-- The Secrets of a set register clusters of different names. -/
def UniqueNames (codec : SecretCodec Credentials) (secrets : Option String → Option Secret) :
    Prop :=
  ∀ first second one other oneHandle otherHandle,
    secrets first = some one → secrets second = some other →
    registration codec one = some oneHandle → registration codec other = some otherHandle →
    oneHandle.secret.name = otherHandle.secret.name → first = second

def AsksFor (codec : SecretCodec Credentials) (secrets : Option String → Option Secret)
    (name : String) (handle : ClusterHandle Credentials) : Prop :=
  ∃ key secret, secrets key = some secret ∧ registration codec secret = some handle ∧
    handle.secret.name = name

def OthersAskFor (codec : SecretCodec Credentials) (secrets : Option String → Option Secret)
    (changed : Option String) (name : String) (handle : ClusterHandle Credentials) : Prop :=
  ∃ key secret, key ≠ changed ∧ secrets key = some secret ∧
    registration codec secret = some handle ∧ handle.secret.name = name

/-- A watcher runs for each Secret of the set that registers a cluster, and for no other. -/
def Running (codec : SecretCodec Credentials)
    (clusters : Std.TreeMap String (ClusterHandle Credentials))
    (secrets : Option String → Option Secret) : Prop :=
  ∀ name handle, clusters[name]? = some handle ↔ AsksFor codec secrets name handle

theorem asksFor_update {secrets : Option String → Option Secret} {changed : Option String}
    {told : Option Secret} :
    AsksFor codec (Function.update secrets changed told) name handle ↔
      (∃ secret, told = some secret ∧ registration codec secret = some handle ∧
        handle.secret.name = name) ∨ OthersAskFor codec secrets changed name handle := by
  constructor
  · rintro ⟨key, secret, known, registered, named⟩
    by_cases here : key = changed
    · subst here
      rw [update_self] at known
      exact .inl ⟨secret, known, registered, named⟩
    · rw [update_of_ne here] at known
      exact .inr ⟨key, secret, here, known, registered, named⟩
  · rintro (⟨secret, rfl, registered, named⟩ | ⟨key, secret, here, known, registered, named⟩)
    · exact ⟨changed, secret, update_self .., registered, named⟩
    · refine ⟨key, secret, ?_, registered, named⟩
      rw [update_of_ne here, known]

theorem asksFor_iff (secrets : Option String → Option Secret) (changed : Option String) :
    AsksFor codec secrets name handle ↔
      (∃ secret, secrets changed = some secret ∧ registration codec secret = some handle ∧
        handle.secret.name = name) ∨ OthersAskFor codec secrets changed name handle := by
  rw [← asksFor_update, update_eq_self]

structure AppliesOrderly (codec : SecretCodec Credentials)
    (secrets : Option String → Option Secret) (secret : Secret) : Prop where
  alone : ∀ key other handle otherHandle, key ≠ secret.name → secrets key = some other →
    registration codec secret = some handle → registration codec other = some otherHandle →
    handle.secret.name ≠ otherHandle.secret.name
  steady : ∀ old oldHandle, secrets secret.name = some old →
    registration codec old = some oldHandle →
    ∃ handle, registration codec secret = some handle ∧
      handle.secret.name = oldHandle.secret.name

structure DeletesOrderly (codec : SecretCodec Credentials) (hubCluster : String)
    (secrets : Option String → Option Secret) (secret : Secret) : Prop where
  own : ∀ old handle, secrets secret.name = some old → registration codec old = some handle →
    isSelfSecret hubCluster secret = false ∧
      clusterNameFromSecret codec secret = some handle.secret.name
  alone : ∀ name key other handle, isSelfSecret hubCluster secret = false →
    clusterNameFromSecret codec secret = some name → key ≠ secret.name →
    secrets key = some other → registration codec other = some handle →
    handle.secret.name ≠ name

section Steps

variable {secrets : Option String → Option Secret} {secret : Secret}

theorem UniqueNames.update (unique : UniqueNames codec secrets)
    (orderly : AppliesOrderly codec secrets secret) :
    UniqueNames codec (Function.update secrets secret.name (some secret)) := by
  intro first second one other _ _ firstKnown secondKnown oneRuns otherRuns same
  by_cases firstHere : first = secret.name
  · by_cases secondHere : second = secret.name
    · rw [firstHere, secondHere]
    · subst firstHere
      rw [update_self, some.injEq] at firstKnown
      rw [update_of_ne secondHere] at secondKnown
      subst firstKnown
      exact absurd same (orderly.alone second other _ _ secondHere secondKnown oneRuns otherRuns)
  · rw [update_of_ne firstHere] at firstKnown
    by_cases secondHere : second = secret.name
    · subst secondHere
      rw [update_self, some.injEq] at secondKnown
      subst secondKnown
      exact absurd same.symm (orderly.alone first one _ _ firstHere firstKnown otherRuns oneRuns)
    · rw [update_of_ne secondHere] at secondKnown
      exact unique first second one other _ _ firstKnown secondKnown oneRuns otherRuns same

theorem UniqueNames.mono {fewer : Option String → Option Secret}
    (unique : UniqueNames codec secrets)
    (among : ∀ key secret, fewer key = some secret → secrets key = some secret) :
    UniqueNames codec fewer := by
  intro first second one other _ _ firstKnown secondKnown
  exact unique first second one other _ _ (among _ _ firstKnown) (among _ _ secondKnown)

section

variable (running : Running codec manager.clusters secrets)
include running

section

variable (orderly : AppliesOrderly codec secrets secret)
include orderly

theorem getElem?_handleUpsert (versions : ∀ old, secrets secret.name = some old →
      old.resourceVersion = secret.resourceVersion → old = secret)
    (registered : registration codec secret = some handle) (name : String) :
    (handleUpsert codec true secret manager).clusters[name]? =
      if name = handle.secret.name then some handle else manager.clusters[name]? := by
  obtain ⟨outside, parsed, version⟩ := registration_eq_some_iff.1 registered
  have handled : handleUpsert codec true secret manager =
      manager.upsert true handle.secret handle.resourceVersion := by
    simp [handleUpsert, outside, parsed, version]
  rw [handled, getElem?_upsert]
  by_cases same : name = handle.secret.name
  · split
    · rfl
    · rename_i kept
      -- The watcher of this version is left alone, so it has to be the one of this very Secret.
      have unchanged : manager.clusters[handle.secret.name]?.any
          (·.resourceVersion = handle.resourceVersion) := by
        by_contra changed
        exact kept ⟨same, changed⟩
      obtain ⟨_, runs, sameVersion⟩ := (any_eq_true _ _).1 unchanged
      obtain ⟨key, old, known, oldRuns, sameName⟩ := (running _ _).1 runs
      have here : key = secret.name := by
        by_contra elsewhere
        exact orderly.alone key old _ _ elsewhere known registered oldRuns sameName.symm
      have again : old = secret := by
        apply versions old (here ▸ known)
        rw [(registration_eq_some_iff.1 oldRuns).2.2, of_decide_eq_true sameVersion,
          (registration_eq_some_iff.1 registered).2.2]
      rw [again, registered] at oldRuns
      rw [same, runs, oldRuns]
  · rw [if_neg same, if_neg fun both => same both.1]

theorem Running.update (versions : ∀ old, secrets secret.name = some old →
      old.resourceVersion = secret.resourceVersion → old = secret) :
    Running codec (handleUpsert codec true secret manager).clusters
      (Function.update secrets secret.name (some secret)) := by
  intro name wanted
  rw [asksFor_update]
  simp only [some.injEq, exists_eq_left']
  cases registered : registration codec secret with
  | none =>
    rw [handleUpsert_of_none registered, running name wanted, asksFor_iff secrets secret.name]
    apply or_congr_left
    constructor
    · rintro ⟨old, known, oldRuns, _⟩
      obtain ⟨handle, again, _⟩ := orderly.steady old wanted known oldRuns
      rw [registered] at again
      cases again
    · rintro ⟨runs, _⟩
      cases runs
  | some handle =>
    rw [getElem?_handleUpsert running orderly versions registered]
    by_cases same : name = handle.secret.name
    · rw [if_pos same, some.injEq]
      constructor
      · rintro rfl
        exact .inl ⟨rfl, same.symm⟩
      · rintro (⟨again, _⟩ | ⟨key, other, here, known, otherRuns, named⟩)
        · exact again
        · exact absurd (same.symm.trans named.symm)
            (orderly.alone key other _ _ here known registered otherRuns)
    · rw [if_neg same, running name wanted, asksFor_iff secrets secret.name]
      apply or_congr_left
      constructor
      · rintro ⟨old, known, oldRuns, named⟩
        obtain ⟨again, renamed, keeps⟩ := orderly.steady old wanted known oldRuns
        rw [registered, some.injEq] at renamed
        subst renamed
        exact absurd (named.symm.trans keeps.symm) same
      · rintro ⟨again, named⟩
        rw [some.injEq] at again
        subst again
        exact absurd named.symm same

end

theorem Running.delete (orderly : DeletesOrderly codec hubCluster secrets secret) :
    Running codec (handleSecretEvent codec hubCluster true (.delete secret) manager).clusters
      (Function.update secrets secret.name none) := by
  have unregistered (kept : ∀ name, isSelfSecret hubCluster secret = false →
      clusterNameFromSecret codec secret ≠ some name) (name : String)
      (wanted : ClusterHandle Credentials) :
      manager.clusters[name]? = some wanted ↔
        OthersAskFor codec secrets secret.name name wanted := by
    rw [running name wanted, asksFor_iff secrets secret.name]
    apply or_iff_right
    rintro ⟨old, known, oldRuns, _⟩
    obtain ⟨foreign, named⟩ := orderly.own old wanted known oldRuns
    exact kept _ foreign named
  intro name wanted
  rw [asksFor_update]
  simp only [reduceCtorEq, false_and, exists_false, false_or]
  unfold handleSecretEvent
  dsimp only
  split
  · rename_i own
    exact unregistered (fun _ foreign => by simp [own] at foreign) name wanted
  · rename_i foreign
    rw [Bool.not_eq_true] at foreign
    rcases named : clusterNameFromSecret codec secret with _ | removed
    · exact unregistered (fun _ _ => by simp [named]) name wanted
    rw [getElem?_remove]
    by_cases same : name = removed
    · rw [if_pos same]
      constructor
      · intro absent
        cases absent
      · rintro ⟨key, other, here, known, otherRuns, called⟩
        exact absurd (called.trans same)
          (orderly.alone removed key other wanted foreign named here known otherRuns)
    · rw [if_neg same, running name wanted, asksFor_iff secrets secret.name]
      apply or_iff_right
      rintro ⟨old, known, oldRuns, called⟩
      have registered := (orderly.own old wanted known oldRuns).2
      rw [named, some.injEq] at registered
      exact same (called.symm.trans registered.symm)

theorem Running.mono {fewer : Option String → Option Secret}
    (among : ∀ key secret, fewer key = some secret → secrets key = some secret)
    (kept : ∀ key secret handle, secrets key = some secret →
      registration codec secret = some handle → fewer key = some secret) :
    Running codec manager.clusters fewer := by
  intro name wanted
  rw [running name wanted]
  constructor
  · rintro ⟨key, other, known, registered, named⟩
    exact ⟨key, other, kept key other wanted known registered, registered, named⟩
  · rintro ⟨key, other, known, registered, named⟩
    exact ⟨key, other, among key other known, registered, named⟩

end

end Steps

variable {Credentials : Type} {codec : SecretCodec Credentials} {hubCluster : String}

/-! ## Runs of the hub -/

/-- The hub's watchers, with what the stream of Secrets has told. -/
structure Hub (Credentials : Type) where
  manager : ClusterManager Credentials
  view : View (Option String) Secret

def SameVersions (view : View (Option String) Secret) : Event Secret → Prop
  | .apply secret | .initApply secret => ∀ old, view.latest secret.name = some old →
      old.resourceVersion = secret.resourceVersion → old = secret
  | .delete _ | .init | .initDone => True

/-- The stream gives an event, and the hub handles it; every client can be built. -/
structure HubStep (codec : SecretCodec Credentials) (hubCluster : String) (hub : Hub Credentials)
    (event : Event Secret) (after : Hub Credentials) : Prop where
  told : hub.view.next Secret.name event = some after.view
  versions : SameVersions hub.view event
  handled : after.manager = handleSecretEvent codec hubCluster true event hub.manager

/-- Secrets register different clusters, keep the cluster they register until they are deleted,
and are missing from no list that completes. -/
def Orderly (codec : SecretCodec Credentials) (hubCluster : String) (hub : Hub Credentials) :
    Event Secret → Prop
  | .apply secret | .initApply secret => AppliesOrderly codec hub.view.latest secret
  | .delete secret => DeletesOrderly codec hubCluster hub.view.latest secret
  | .initDone => ∀ key secret handle, hub.view.latest key = some secret →
      registration codec secret = some handle →
      (hub.view.listing.bind fun listed => listed key).isSome = true
  | .init => True

/-- The watchers are those of the Secrets told of. -/
structure Tracks (codec : SecretCodec Credentials) (hub : Hub Credentials) : Prop where
  sound : hub.view.Sound
  unique : UniqueNames codec hub.view.latest
  running : Running codec hub.manager.clusters hub.view.latest

variable {hub after : Hub Credentials} {event : Event Secret}

theorem tracks_step (tracks : Tracks codec hub) (orderly : Orderly codec hubCluster hub event)
    (taken : HubStep codec hubCluster hub event after) : Tracks codec after := by
  obtain ⟨told, versions, handled⟩ := taken
  obtain ⟨_, _⟩ := after
  subst handled
  have sound := tracks.sound.next told
  cases event with
  | init =>
    cases told
    exact ⟨sound, tracks.unique, tracks.running⟩
  | initApply =>
    obtain ⟨listed, _, rfl⟩ := map_eq_some_iff.1 told
    exact ⟨sound, tracks.unique.update orderly, tracks.running.update orderly versions⟩
  | initDone =>
    obtain ⟨listed, known, rfl⟩ := map_eq_some_iff.1 told
    have among := tracks.sound.listed listed known
    refine ⟨sound, tracks.unique.mono among, tracks.running.mono among ?_⟩
    intro key secret handle found registered
    have inList := orderly key secret handle found registered
    rw [known] at inList
    obtain ⟨other, otherListed⟩ := isSome_iff_exists.1 inList
    have same := among key other otherListed
    rw [found, some.injEq] at same
    exact same ▸ otherListed
  | apply =>
    obtain ⟨_, viewed⟩ := ite_none_right_eq_some.1 told
    cases viewed
    exact ⟨sound, tracks.unique.update orderly, tracks.running.update orderly versions⟩
  | delete secret =>
    obtain ⟨_, viewed⟩ := ite_none_right_eq_some.1 told
    cases viewed
    refine ⟨sound, tracks.unique.mono fun key _ known => ?_, tracks.running.delete orderly⟩
    dsimp only at known
    by_cases here : key = secret.name
    · subst here
      rw [Function.update_self] at known
      cases known
    · rwa [Function.update_of_ne here] at known

/-- The clusters with a watcher are those that the Secrets name, and each watcher has read a
Secret of the set that names its cluster. -/
structure WatchesRegistered (codec : SecretCodec Credentials)
    (clusters : Std.TreeMap String (ClusterHandle Credentials))
    (secrets : Option String → Option Secret) : Prop where
  names : ∀ name, name ∈ clusters ↔ ∃ key secret parsed, secrets key = some secret ∧
    isInCluster secret = false ∧ parseClusterSecret codec secret = .ok parsed ∧ parsed.name = name
  credentials : ∀ (name : String) (handle : ClusterHandle Credentials),
    clusters[name]? = some handle →
    ∃ key secret, secrets key = some secret ∧ isInCluster secret = false ∧
      parseClusterSecret codec secret = .ok handle.secret ∧ handle.secret.name = name ∧
      secret.resourceVersion = handle.resourceVersion

theorem Running.watchesRegistered {clusters : Std.TreeMap String (ClusterHandle Credentials)}
    {secrets : Option String → Option Secret} (running : Running codec clusters secrets) :
    WatchesRegistered codec clusters secrets where
  names name := by
    rw [Std.TreeMap.mem_iff_isSome_getElem?, isSome_iff_exists]
    constructor
    · rintro ⟨handle, runs⟩
      obtain ⟨key, secret, known, registered, named⟩ := (running name handle).1 runs
      obtain ⟨outside, parsed, _⟩ := registration_eq_some_iff.1 registered
      exact ⟨key, secret, handle.secret, known, outside, parsed, named⟩
    · rintro ⟨key, secret, found, known, outside, parsed, named⟩
      refine ⟨⟨secret.resourceVersion, found⟩, (running name _).2 ⟨key, secret, known, ?_, named⟩⟩
      exact registration_eq_some_iff.2 ⟨outside, parsed, rfl⟩
  credentials name handle runs := by
    obtain ⟨key, secret, known, registered, named⟩ := (running name handle).1 runs
    obtain ⟨outside, parsed, version⟩ := registration_eq_some_iff.1 registered
    exact ⟨key, secret, known, outside, parsed, named, version⟩

/-- While the Secrets are orderly, the watchers are those of the Secrets that the stream has told
of, and of the Secrets that exist whenever a list is complete. -/
theorem watchers_are_registered_clusters (codec : SecretCodec Credentials) (hubCluster : String)
    {hub : Hub Credentials}
    (reached : Reachable (fun hub => hub.manager.clusters = ∅ ∧ hub.view = .start)
      (HubStep codec hubCluster) (Orderly codec hubCluster) hub) :
    WatchesRegistered codec hub.manager.clusters hub.view.latest ∧
      (hub.view.complete = true → hub.view.listing = none →
        WatchesRegistered codec hub.manager.clusters hub.view.current) := by
  have tracks : Tracks codec hub := by
    refine reached.invariant ?_ fun _ _ _ tracks orderly taken =>
      tracks_step tracks orderly taken
    rintro ⟨_, _⟩ ⟨empty, viewed⟩
    subst viewed
    refine ⟨View.sound_start, ?_, ?_⟩
    · intro _ _ _ _ _ _ known
      cases known
    · intro _ _
      rw [empty]
      constructor
      · intro found
        simp at found
      · rintro ⟨_, _, known, _⟩
        cases known
  refine ⟨tracks.running.watchesRegistered, fun complete idle => ?_⟩
  rw [← tracks.sound.settled complete idle]
  exact tracks.running.watchesRegistered

/-! ## Runs on given events -/

def hubAct (codec : SecretCodec Credentials) (hubCluster : String) (hub : Hub Credentials)
    (event : Event Secret) : Option (Hub Credentials) :=
  let versioned : Bool :=
    match event with
    | .apply secret | .initApply secret =>
      (hub.view.latest secret.name).all fun old =>
        old.resourceVersion ≠ secret.resourceVersion ∨ old = secret
    | .delete _ | .init | .initDone => true
  if versioned then
    (hub.view.next Secret.name event).map fun view =>
      ⟨handleSecretEvent codec hubCluster true event hub.manager, view⟩
  else none

theorem hubStep_of_act (acted : hubAct codec hubCluster hub event = some after) :
    HubStep codec hubCluster hub event after := by
  obtain ⟨versioned, moved⟩ := ite_none_right_eq_some.1 acted
  obtain ⟨_, told, rfl⟩ := map_eq_some_iff.1 moved
  refine ⟨told, ?_, rfl⟩
  cases event with
  | init => trivial
  | initDone => trivial
  | delete => trivial
  | apply | initApply =>
    intro _ known same
    simpa [known, same] using versioned

/-- A hub that watches nothing yet. -/
def idleHub : Hub Credentials := ⟨⟨∅, ⟨∅, true⟩, 0⟩, .start⟩

theorem idleHub_begins :
    (fun hub : Hub Credentials => hub.manager.clusters = ∅ ∧ hub.view = .start) idleHub :=
  ⟨rfl, rfl⟩

/-- Credentials are plain texts, and there are no lists of namespaces. -/
def plainCodec : SecretCodec String := ⟨fun _ => none, some, fun _ => none⟩

def sampleSecret (name version cluster : String) : Secret :=
  ⟨some name, some version, [],
    [("name", cluster), ("server", "https://edge"), ("config", "token")], []⟩

/-- A Secret that was deleted while the stream was disconnected keeps its watcher; so does the
former cluster of a Secret that is edited to name another one; and of two Secrets that name one
cluster, the deletion of either stops its watcher. -/
theorem watchers_differ_from_registered_clusters :
    let prod := sampleSecret "a" "1" "prod"
    let edited := sampleSecret "a" "2" "stage"
    let reachable := Reachable (fun hub : Hub String => hub.manager.clusters = ∅ ∧
      hub.view = .start) (HubStep plainCodec "hub") (fun _ _ => True)
    (∃ hub, reachable hub ∧ hub.view.complete = true ∧ hub.view.listing.isNone = true ∧
      hub.view.current (some "a") = none ∧ "prod" ∈ hub.manager.clusters) ∧
    (∃ hub, reachable hub ∧ hub.view.complete = true ∧ hub.view.listing.isNone = true ∧
      hub.view.current (some "a") = some edited ∧ "prod" ∈ hub.manager.clusters) ∧
    (∃ hub, reachable hub ∧ hub.view.complete = true ∧ hub.view.listing.isNone = true ∧
      hub.view.current (some "a") = some prod ∧ "prod" ∉ hub.manager.clusters) := by
  intro prod edited _
  refine ⟨?_, ?_, ?_⟩
  · apply Reachable.exists_of_follow (hubAct plainCodec "hub")
      [.init, .initApply prod, .initDone, .init, .initDone] idleHub_begins
    · intro hub event after
      exact hubStep_of_act
    · decide +kernel
  · apply Reachable.exists_of_follow (hubAct plainCodec "hub")
      [.init, .initApply prod, .initDone, .apply edited] idleHub_begins
    · intro hub event after
      exact hubStep_of_act
    · decide +kernel
  · apply Reachable.exists_of_follow (hubAct plainCodec "hub")
      [.init, .initApply prod, .initApply (sampleSecret "b" "3" "prod"), .initDone,
        .delete (sampleSecret "b" "3" "prod")] idleHub_begins
    · intro _ _ _
      exact hubStep_of_act
    · decide +kernel

abbrev OrderlyRun : Hub String → Prop :=
  Reachable (fun hub => hub.manager.clusters = ∅ ∧ hub.view = .start)
    (HubStep plainCodec "hub") (Orderly plainCodec "hub")

/-- The hub after a list of one Secret. -/
def listedHub (secret : Secret) (hub : Hub String) : Hub String :=
  let secrets := Function.update (fun _ => none) secret.name (some secret)
  ⟨handleUpsert plainCodec true secret hub.manager, ⟨secrets, none, secrets, true⟩⟩

theorem listedHub_reachable {hub : Hub String} (run : OrderlyRun hub)
    (unknown : hub.view.latest = fun _ => none) (secret : Secret) :
    OrderlyRun (listedHub secret hub) := by
  have begun := run.next (show Orderly plainCodec "hub" hub .init from trivial)
    (show HubStep plainCodec "hub" hub .init
      ⟨hub.manager, { hub.view with listing := some fun _ => none }⟩ from ⟨rfl, trivial, rfl⟩)
  have told := begun.next
    (show Orderly plainCodec "hub" _ (.initApply secret) by constructor <;> simp [unknown])
    (show HubStep plainCodec "hub" _ (.initApply secret)
      ⟨(listedHub secret hub).manager, { hub.view with
        listing := some (listedHub secret hub).view.current
        latest := (listedHub secret hub).view.current }⟩ from
      ⟨by simp [View.next, listedHub, unknown], by simp [SameVersions, unknown], rfl⟩)
  exact told.next (show Orderly plainCodec "hub" _ .initDone from fun _ secret _ known _ =>
    isSome_iff_exists.2 ⟨secret, known⟩) ⟨rfl, trivial, rfl⟩

/-- The hub after its only Secret was deleted. -/
def emptiedHub (secret : Secret) (hub : Hub String) : Hub String :=
  ⟨handleSecretEvent plainCodec "hub" true (.delete secret) hub.manager,
    ⟨fun _ => none, none, fun _ => none, true⟩⟩

/-- A Secret is listed and deleted, and the next list has one that names another cluster. -/
theorem watchers_are_registered_clusters_relisted :
    ∃ hub, OrderlyRun hub ∧ WatchesRegistered plainCodec hub.manager.clusters hub.view.current ∧
      "prod" ∉ hub.manager.clusters ∧ "stage" ∈ hub.manager.clusters := by
  let prod := sampleSecret "a" "1" "prod"
  have listed := listedHub_reachable (.start idleHub_begins) rfl prod
  have orderly : Orderly plainCodec "hub" (listedHub prod idleHub) (.delete prod) := by
    constructor
    · rintro _ _ ⟨⟩ ⟨⟩
      decide
    · intro _ key _ _ _ _ differs known
      simp [listedHub, differs] at known
  have deleted : OrderlyRun (emptiedHub prod (listedHub prod idleHub)) :=
    listed.next orderly ⟨by simp [View.next, listedHub, emptiedHub], trivial, rfl⟩
  have relisted := listedHub_reachable deleted rfl (sampleSecret "a" "2" "stage")
  refine ⟨_, relisted, (watchers_are_registered_clusters plainCodec "hub" relisted).2 rfl rfl, ?_⟩
  decide +kernel

end Addons.TrivyCollector
