import Addons.RequestedSizes
import Addons.TransitionSystem

/-!
# The protective cordon among other actors

The Nodes of a cluster, the flows of the resizer that are under way, and everyone else who
cordons, uncordons or removes the mark.
-/

namespace Addons.VolumeAutoscaler

open TransitionSystem List

/-! ## The Node patches of one instance -/

/-- The Node is taken for one that someone else has cordoned. -/
def CordonNode.Foreign (node : CordonNode) : Prop :=
  node.unschedulable = true ∧ node.protective = false

instance (node : CordonNode) : Decidable node.Foreign :=
  inferInstanceAs (Decidable (_ ∧ _))

def NodeCall.OnlyCondition (call : NodeCall) : Prop :=
  ∃ status reason message, call = .setCondition status reason message

/-- A call that the flow for a Node may send: it patches no other Node, and a foreign one only
in its condition. -/
def CordonNode.Permits (listed : CordonNode) : Call → Prop
  | .node name call _ => name = listed.name ∧ (listed.Foreign → call.OnlyCondition)
  | .modifyVolume _ _ _ => True

def CordonNode.Tracks (listed node : CordonNode) : Prop :=
  node.name = listed.name ∧ (listed.Foreign → node.Foreign)

theorem CordonNode.Tracks.refl (listed : CordonNode) : listed.Tracks listed :=
  ⟨rfl, id⟩

/-- The calls are permitted and the Node is still tracked. -/
def Proper (listed : CordonNode) (changed : CordonNode × List Call) : Prop :=
  listed.Tracks changed.1 ∧ ∀ call ∈ changed.2, listed.Permits call

section Patches

variable {answers : InstanceAnswers} {effective : InstanceEffective} {listed node : CordonNode}

theorem proper_cordonNode (tracks : listed.Tracks node) :
    Proper listed (cordonNode answers node) := by
  unfold cordonNode
  split
  · exact ⟨tracks, by simp⟩
  next free =>
    have own : ¬ listed.Foreign := by
      intro foreign
      simp [(tracks.2 foreign).1] at free
    refine ⟨⟨?_, fun foreign => absurd foreign own⟩, ?_⟩
    · split <;> exact tracks.1
    · simpa [CordonNode.Permits, own] using tracks.1

theorem proper_uncordonNode (tracks : listed.Tracks node) :
    Proper listed (uncordonNode answers node) := by
  unfold uncordonNode
  split
  · exact ⟨tracks, by simp⟩
  next marked =>
    have own : ¬ listed.Foreign := by
      intro foreign
      simp [(tracks.2 foreign).2] at marked
    split
    · refine ⟨⟨?_, fun foreign => absurd foreign own⟩, ?_⟩
      · split <;> exact tracks.1
      · simpa [CordonNode.Permits, own] using tracks.1
    · refine ⟨⟨?_, fun foreign => absurd foreign own⟩, ?_⟩
      · split <;> exact tracks.1
      · simpa [CordonNode.Permits, own] using tracks.1

theorem proper_syncProtectiveCondition {dryRun : Bool} {answer : Except String Unit} {usage : Int}
    (tracks : listed.Tracks node) :
    Proper listed (syncProtectiveCondition dryRun answer effective usage node) := by
  unfold syncProtectiveCondition
  dsimp only
  split
  · exact ⟨tracks, by simp⟩
  · constructor
    · split
      · exact ⟨tracks.1, fun foreign => tracks.2 foreign⟩
      · exact tracks
    · intro _ member
      cases mem_singleton.mp member
      exact ⟨tracks.1, fun _ => ⟨_, _, _, rfl⟩⟩

theorem proper_append {changed synced : CordonNode × List Call} (first : Proper listed changed)
    (second : Proper listed synced) : Proper listed (synced.1, changed.2 ++ synced.2) := by
  refine ⟨second.1, ?_⟩
  intro call member
  rcases mem_append.mp member with early | late
  · exact first.2 call early
  · exact second.2 call late

def ProperFlow (listed : CordonNode) (flow : Option CordonNode × List Call) : Prop :=
  ∃ node, flow.1 = some node ∧ Proper listed (node, flow.2)

theorem proper_applyProtectiveCordon {usage : Int} (tracks : listed.Tracks node) :
    ProperFlow listed (applyProtectiveCordon answers effective usage (some node)) := by
  have cordoned := @proper_cordonNode answers _ _ tracks
  have synced := @proper_syncProtectiveCondition effective _ _ answers.dryRun
    answers.conditionApplied usage cordoned.1
  exact ⟨_, rfl, proper_append cordoned synced⟩

theorem proper_releaseProtectiveCordon {usage : Int} (tracks : listed.Tracks node) :
    ProperFlow listed (releaseProtectiveCordon answers effective usage (some node)) := by
  have lifted := @proper_uncordonNode answers _ _ tracks
  have synced := @proper_syncProtectiveCondition effective _ _ answers.dryRun
    answers.conditionReleased usage lifted.1
  exact ⟨_, rfl, proper_append lifted synced⟩

end Patches

section Flow

variable {answers : InstanceAnswers} {target : Instance} {effective : InstanceEffective}
  {listed node : CordonNode} {usage desired : Int} {observation : Observation} {call : Call}

theorem permits_modifyVolume {volume : String}
    (member : call ∈ (modifyVolume answers volume desired).2) : listed.Permits call := by
  unfold modifyVolume at member
  split at member
  · cases mem_singleton.mp member
    trivial
  · split at member
    · cases mem_singleton.mp member
      trivial
    · rcases mem_cons.mp member with rfl | later
      · trivial
      · cases mem_singleton.mp later
        trivial

theorem permits_growVolume (tracks : listed.Tracks node)
    (member : call ∈ (growVolume answers target effective (some node) usage desired
      observation).calls) : listed.Permits call := by
  rcases @calls_growVolume answers target effective (some node) usage desired observation with
    modifies | ⟨after, modifies⟩
  · rw [modifies] at member
    exact permits_modifyVolume member
  · rw [modifies] at member
    obtain ⟨_, -, -, released⟩ := @proper_releaseProtectiveCordon answers effective _ _ after tracks
    rcases mem_append.mp member with early | late
    · exact permits_modifyVolume early
    · exact released call late

theorem permits_reconcileCrossed (tracks : listed.Tracks node)
    (member : call ∈ (reconcileCrossed answers target effective (some node) usage
      observation).calls) : listed.Permits call := by
  by_cases grown : targetSize target.rootVolumeSizeGib effective ≤ effective.maxVolumeSizeGib ∧
      Free answers effective
  · rw [calls_reconcileCrossed_of_free grown.1 grown.2] at member
    exact permits_growVolume tracks member
  · rw [calls_reconcileCrossed_of_not_free grown] at member
    cases member

theorem permits_reconcileInstance
    (member : call ∈ (reconcileInstance answers target effective (some listed)).calls) :
    listed.Permits call := by
  by_cases crosses : ∃ usage, Crosses answers target effective usage
  · obtain ⟨usage, crosses⟩ := crosses
    obtain ⟨_, calls⟩ := @calls_reconcileInstance_of_crosses answers target effective
      (some listed) usage crosses
    obtain ⟨_, known, tracks, applied⟩ :=
      @proper_applyProtectiveCordon answers effective _ _ usage (.refl listed)
    rw [calls, known] at member
    rcases mem_append.mp member with early | late
    · exact applied call early
    · exact permits_reconcileCrossed tracks late
  · rcases @calls_reconcileInstance_of_not_crosses answers target effective (some listed)
      (not_exists.mp crosses) with none | ⟨usage, calls⟩
    · rw [none] at member
      cases member
    · obtain ⟨_, -, -, released⟩ :=
        @proper_releaseProtectiveCordon answers effective _ _ usage (.refl listed)
      rw [calls] at member
      exact released call member

end Flow

inductive Actor where
  | addon
  | other
deriving DecidableEq

structure ClusterNode where
  unschedulable : Bool := false
  /-- The Node carries the mark of the protective cordon. -/
  marked : Bool := false
  condition : Option Bool := none
  /-- Who made the last change to unschedulable. -/
  cordonedBy : Option Actor := none
deriving DecidableEq

/-- A flow that is under way: the Node as it was listed, and the requests still to come. -/
structure Flow where
  listed : CordonNode
  calls : List Call

structure Cluster where
  nodes : String → ClusterNode
  flows : List Flow := []
  /-- The Nodes that patches of the resizer made schedulable, each with who had made it
  unschedulable. -/
  lifted : List (String × Option Actor) := []

/-- The Node as a flow sees it. -/
def ClusterNode.listed (node : ClusterNode) (name : String) : CordonNode :=
  { name
    unschedulable := node.unschedulable
    protective := node.marked
    condition := node.condition }

def ClusterNode.patch (node : ClusterNode) : NodeCall → ClusterNode
  | .cordon =>
    { node with
      unschedulable := true
      marked := true
      cordonedBy := if node.unschedulable then node.cordonedBy else some .addon }
  | .uncordon => { node with unschedulable := false, marked := false }
  | .forget => { node with marked := false }
  | .setCondition status _ _ => { node with condition := some status }

def Cluster.setNode (cluster : Cluster) (name : String) (node : ClusterNode) : Cluster :=
  { cluster with nodes := Function.update cluster.nodes name node }

def Cluster.patch (cluster : Cluster) (name : String) (call : NodeCall) : Cluster :=
  let node := cluster.nodes name
  let lifts : Bool := node.unschedulable && !(node.patch call).unschedulable
  { cluster.setNode name (node.patch call) with
    lifted := (if lifts then [(name, node.cordonedBy)] else []) ++ cluster.lifted }

/-- A request reaches the server; one that fails may have been carried out all the same. -/
def Cluster.receive (cluster : Cluster) (carriedOut : Bool) : Call → Cluster
  | .node name call accepted =>
    if accepted || carriedOut then cluster.patch name call else cluster
  | .modifyVolume _ _ _ => cluster

inductive ClusterEvent where
  | list (node : String) (answers : InstanceAnswers) (target : Instance)
      (effective : InstanceEffective)
  /-- The next request of a flow reaches the server. -/
  | request (flow : Nat) (carriedOut : Bool)
  /-- A flow ends, or is given up where it is. -/
  | stop (flow : Nat)
  /-- Someone else sets or clears `spec.unschedulable`. -/
  | setUnschedulable (node : String) (value : Bool)
  /-- Someone else removes the mark. -/
  | removeMark (node : String)

def Cluster.act (cluster : Cluster) : ClusterEvent → Option Cluster
  | .list name answers target effective =>
    let listed := (cluster.nodes name).listed name
    let calls := (reconcileInstance answers target effective (some listed)).calls
    some { cluster with flows := cluster.flows ++ [{ listed, calls }] }
  | .request index carriedOut =>
    match cluster.flows[index]? with
    | some ⟨listed, call :: calls⟩ =>
      some
        { cluster.receive carriedOut call with
          flows := cluster.flows.set index { listed, calls } }
    | _ => none
  | .stop index => some { cluster with flows := cluster.flows.eraseIdx index }
  | .setUnschedulable name value =>
    let node := cluster.nodes name
    let cordonedBy := if value && !node.unschedulable then some .other else node.cordonedBy
    some (cluster.setNode name { node with unschedulable := value, cordonedBy })
  | .removeMark name =>
    some (cluster.setNode name { cluster.nodes name with marked := false })

def Cluster.Step (cluster : Cluster) (event : ClusterEvent) (after : Cluster) : Prop :=
  cluster.act event = some after

/-- At the start no Node carries the mark. -/
def Cluster.Initial (cluster : Cluster) : Prop :=
  cluster.flows = [] ∧ cluster.lifted = [] ∧ ∀ name, (cluster.nodes name).marked = false

def Cluster.LiftsOwn (cluster : Cluster) : Prop :=
  ∀ lift ∈ cluster.lifted, lift.2 = some .addon

/-- The condition of a run: when someone else makes a schedulable Node unschedulable, it
carries no mark, and no flow is under way that listed it other than foreign. -/
def Cluster.Undisputed (cluster : Cluster) : ClusterEvent → Prop
  | .setUnschedulable name true =>
    (cluster.nodes name).unschedulable = false →
      (cluster.nodes name).marked = false ∧
        ∀ flow ∈ cluster.flows, flow.listed.name = name → flow.listed.Foreign
  | _ => True

/-! ## The invariant -/

/-- A Node that someone else has cordoned carries no mark, and no flow takes it for its own. -/
def Cluster.Respects (cluster : Cluster) (name : String) : Prop :=
  (cluster.nodes name).unschedulable = true → (cluster.nodes name).cordonedBy ≠ some .addon →
    (cluster.nodes name).marked = false ∧
      ∀ flow ∈ cluster.flows, flow.listed.name = name → flow.listed.Foreign

structure Cluster.Sound (cluster : Cluster) : Prop where
  respects : ∀ name, cluster.Respects name
  permits : ∀ flow ∈ cluster.flows, ∀ call ∈ flow.calls, flow.listed.Permits call
  lifts : cluster.LiftsOwn

section Steps

variable {cluster after : Cluster}

theorem Cluster.Sound.initial (begins : cluster.Initial) : cluster.Sound where
  respects name _ _ := by
    refine ⟨begins.2.2 name, ?_⟩
    simp [begins.1]
  permits := by simp [begins.1]
  lifts := by simp [Cluster.LiftsOwn, begins.2.1]

theorem Cluster.Sound.flows {flows : List Flow} (sound : cluster.Sound)
    (fewer : ∀ flow ∈ flows, ∃ before ∈ cluster.flows, before.listed = flow.listed ∧
      ∀ call ∈ flow.calls, call ∈ before.calls) : ({ cluster with flows } : Cluster).Sound where
  respects name unschedulable foreign := by
    obtain ⟨unmarked, listed⟩ := sound.respects name unschedulable foreign
    refine ⟨unmarked, ?_⟩
    intro flow member named
    obtain ⟨before, among, same, -⟩ := fewer flow member
    rw [← same] at named ⊢
    exact listed before among named
  permits flow member call sent := by
    obtain ⟨before, among, same, calls⟩ := fewer flow member
    rw [← same]
    exact sound.permits before among call (calls call sent)
  lifts := sound.lifts

variable {name : String}

theorem Cluster.Sound.list (sound : cluster.Sound) {answers : InstanceAnswers}
    {target : Instance} {effective : InstanceEffective}
    (taken : cluster.Step (.list name answers target effective) after) : after.Sound := by
  cases taken
  constructor
  · intro other unschedulable foreign
    obtain ⟨unmarked, listed⟩ := sound.respects other unschedulable foreign
    refine ⟨unmarked, ?_⟩
    intro flow member named
    rcases mem_append.mp member with old | new
    · exact listed flow old named
    · cases mem_singleton.mp new
      cases named
      exact ⟨unschedulable, unmarked⟩
  · intro flow member call sent
    rcases mem_append.mp member with old | new
    · exact sound.permits flow old call sent
    · cases mem_singleton.mp new
      exact permits_reconcileInstance sent
  · exact sound.lifts

theorem Cluster.Sound.setNode (sound : cluster.Sound) {node : ClusterNode}
    (respected : node.unschedulable → node.cordonedBy ≠ some .addon →
      node.marked = false ∧
        ∀ flow ∈ cluster.flows, flow.listed.name = name → flow.listed.Foreign) :
    (cluster.setNode name node).Sound where
  respects other := by
    by_cases same : other = name
    · subst same
      intro unschedulable foreign
      simp only [Cluster.setNode, Function.update_self] at unschedulable foreign ⊢
      exact respected unschedulable foreign
    · intro unschedulable foreign
      simp only [Cluster.setNode, Function.update_of_ne same] at unschedulable foreign ⊢
      exact sound.respects other unschedulable foreign
  permits := sound.permits
  lifts := sound.lifts

variable {flow : Flow} {call : NodeCall}

theorem Cluster.Sound.patch (sound : cluster.Sound) (under : flow ∈ cluster.flows)
    (permitted : flow.listed.Foreign → call.OnlyCondition) :
    (cluster.patch flow.listed.name call).Sound := by
  have own : ¬ call.OnlyCondition → (cluster.nodes flow.listed.name).unschedulable →
        (cluster.nodes flow.listed.name).cordonedBy = some .addon := by
    intro changes unschedulable
    by_contra foreign
    have listed := (sound.respects flow.listed.name unschedulable foreign).2 flow under rfl
    exact changes (permitted listed)
  have moved : (cluster.setNode flow.listed.name
      ((cluster.nodes flow.listed.name).patch call)).Sound := by
    apply sound.setNode
    intro unschedulable foreign
    cases call with
    | cordon =>
      by_cases before : (cluster.nodes flow.listed.name).unschedulable
      · simp only [ClusterNode.patch, before, if_true] at foreign
        exact absurd (own (by simp [NodeCall.OnlyCondition]) before) foreign
      · simp [ClusterNode.patch, before] at foreign
    | uncordon => simp [ClusterNode.patch] at unschedulable
    | forget =>
      exact absurd (own (by simp [NodeCall.OnlyCondition]) unschedulable) foreign
    | setCondition =>
      exact sound.respects flow.listed.name unschedulable foreign
  refine ⟨moved.respects, moved.permits, ?_⟩
  intro lift member
  rcases mem_append.mp member with new | old
  · split at new
    next lifts =>
      cases mem_singleton.mp new
      simp only [Bool.and_eq_true, Bool.not_eq_true'] at lifts
      apply own _ lifts.1
      rintro ⟨_, _, _, rfl⟩
      simp [ClusterNode.patch, lifts.1] at lifts
    · cases new
  · exact sound.lifts lift old

theorem Cluster.flows_receive (cluster : Cluster) (carriedOut : Bool) (call : Call) :
    (cluster.receive carriedOut call).flows = cluster.flows := by
  cases call with
  | node =>
    dsimp only [Cluster.receive]
    split <;> rfl
  | modifyVolume => rfl

theorem Cluster.Sound.receive (sound : cluster.Sound) (under : flow ∈ cluster.flows)
    {call : Call} (permitted : flow.listed.Permits call) (carriedOut : Bool) :
    (cluster.receive carriedOut call).Sound := by
  cases call with
  | node =>
    obtain ⟨rfl, permitted⟩ := permitted
    dsimp only [Cluster.receive]
    split
    · exact sound.patch under permitted
    · exact sound
  | modifyVolume => exact sound

theorem Cluster.Sound.request (sound : cluster.Sound) {index : Nat} {carriedOut : Bool}
    (taken : cluster.Step (.request index carriedOut) after) : after.Sound := by
  unfold Cluster.Step Cluster.act at taken
  dsimp only at taken
  split at taken
  next _ call _ found =>
    cases taken
    have under := mem_of_getElem? found
    have permitted := sound.permits _ under call mem_cons_self
    apply (sound.receive under permitted carriedOut).flows
    intro flow member
    rw [Cluster.flows_receive]
    rcases mem_or_eq_of_mem_set member with old | rfl
    · exact ⟨flow, old, rfl, fun _ => id⟩
    · exact ⟨_, under, rfl, fun _ => mem_cons_of_mem _⟩
  · cases taken

theorem Cluster.Sound.setUnschedulable (sound : cluster.Sound) {value : Bool}
    (undisputed : cluster.Undisputed (.setUnschedulable name value))
    (taken : cluster.Step (.setUnschedulable name value) after) : after.Sound := by
  cases taken
  apply sound.setNode
  intro unschedulable foreign
  subst unschedulable
  by_cases before : (cluster.nodes name).unschedulable
  · simp only [before, Bool.not_true, Bool.and_false, Bool.false_eq_true, if_false] at foreign
    exact sound.respects name before foreign
  · exact undisputed (Bool.eq_false_of_not_eq_true before)

theorem Cluster.Sound.step {event : ClusterEvent} (sound : cluster.Sound)
    (undisputed : cluster.Undisputed event) (taken : cluster.Step event after) : after.Sound := by
  cases event with
  | list => exact sound.list taken
  | request => exact sound.request taken
  | stop =>
    cases taken
    apply sound.flows
    intro flow member
    exact ⟨flow, mem_of_mem_eraseIdx member, rfl, fun _ => id⟩
  | setUnschedulable => exact sound.setUnschedulable undisputed taken
  | removeMark name =>
    cases taken
    apply sound.setNode
    intro unschedulable foreign
    exact ⟨rfl, (sound.respects name unschedulable foreign).2⟩

end Steps

/-- In a run in which no one else cordons a Node that carries the mark or that a flow takes for
its own, every cordon that the resizer lifts is its own. -/
theorem lifts_own_cordons {cluster : Cluster}
    (reached : Reachable Cluster.Initial Cluster.Step Cluster.Undisputed cluster) :
    cluster.LiftsOwn := by
  have sound : cluster.Sound := reached.invariant (fun _ begins => .initial begins)
    fun _ _ _ sound undisputed taken => sound.step undisputed taken
  exact sound.lifts

instance (cluster : Cluster) : Decidable cluster.LiftsOwn :=
  inferInstanceAs (Decidable (∀ lift ∈ _, _))

instance (cluster : Cluster) (event : ClusterEvent) : Decidable (cluster.Undisputed event) :=
  match event with
  | .setUnschedulable _ true => inferInstanceAs (Decidable (_ → _ ∧ ∀ flow ∈ _, _))
  | .setUnschedulable _ false => inferInstanceAs (Decidable True)
  | .list _ _ _ _ => inferInstanceAs (Decidable True)
  | .request _ _ => inferInstanceAs (Decidable True)
  | .stop _ => inferInstanceAs (Decidable True)
  | .removeMark _ => inferInstanceAs (Decidable True)

/-- The Node of the instance is listed in a pass that measures the given usage; the volume is
at its limit, so it is not modified. -/
def listRoot (measured : String) : ClusterEvent :=
  .list "node-1" { now := 0, measured := .ok measured } rootInstance (rootEffective 85)

/-- The Node is cordoned at 90 percent and released at 50. -/
theorem lifts_own_cordons_root :
    ∃ cluster : Cluster, cluster.lifted = [("node-1", some .addon)] ∧ cluster.LiftsOwn := by
  have follows : ∃ cluster, Reachable Cluster.Initial Cluster.Step Cluster.Undisputed cluster ∧
      cluster.lifted = [("node-1", some .addon)] := by
    apply Reachable.exists_of_follow Cluster.act
      [listRoot "90%", .request 0 false, .stop 0, listRoot "50%", .request 0 false]
      (show Cluster.Initial { nodes := fun _ => {} } from ⟨rfl, rfl, fun _ => rfl⟩)
    · intro cluster _ _ taken
      exact taken
    · decide +kernel
  obtain ⟨cluster, reached, lifted⟩ := follows
  exact ⟨cluster, lifted, lifts_own_cordons reached⟩

/-- Whether the resizer, after the events, has lifted a cordon that is not its own. -/
def liftsForeign (events : List ClusterEvent) : Bool :=
  (events.foldlM Cluster.act { nodes := fun _ => {} }).any fun cluster => ¬ cluster.LiftsOwn

/-- Someone else cordons the Node after it was listed and before the patch lands. -/
example : liftsForeign
    [listRoot "90%", .setUnschedulable "node-1" true, .request 0 false, .stop 0,
      listRoot "50%", .request 0 false] = true := by
  decide +kernel

/-- The Node is cordoned, someone else uncordons it and later cordons it again for their own
reasons; the mark is still there, and the next pass under the threshold makes the Node
schedulable. -/
theorem lifts_foreign_cordon :
    ∃ cluster, Reachable Cluster.Initial Cluster.Step (fun _ _ => True) cluster ∧
      cluster.lifted = [("node-1", some .other)] ∧ ¬ cluster.LiftsOwn := by
  apply Reachable.exists_of_follow Cluster.act
    [listRoot "90%", .request 0 false, .stop 0, .setUnschedulable "node-1" false,
      .setUnschedulable "node-1" true, listRoot "50%", .request 0 false]
    (show Cluster.Initial { nodes := fun _ => {} } from ⟨rfl, rfl, fun _ => rfl⟩)
  · intro _ _ _ taken
    exact taken
  · decide +kernel

end Addons.VolumeAutoscaler
