import Addons.KeyedTable
import Mathlib.Data.List.Induction

/-!
# Approval alarms

Alarms about quarantined packages are buffered for each receiver until the batch window
elapses.
-/

namespace Addons.ApprovalAlarms

open List

structure Target where
  name : String
  url : String

structure ApprovalEvt where
  repo : String
  repoId : Int64
  repoFormat : String
  pkg : String
  version : String
  requestedBy : String

structure TargetBatch where
  name : String
  evts : List ApprovalEvt

abbrev Batch := @KeyedTable (String × TargetBatch) String Prod.fst

/-- `posts` are the deliveries that were spawned, each with the events of its message. -/
structure State where
  batch : Option Batch := none
  flushTimer : Bool := false
  posts : List (Target × List ApprovalEvt) := []

def Batch.push (evt : ApprovalEvt) (batch : Batch) (target : Target) : Batch :=
  if target.url = "" then batch
  else batch.upsert (target.url, ⟨target.name, [evt]⟩)
    (fun row => (row.1, { row.2 with evts := row.2.evts ++ [evt] })) fun _ => rfl

def enqueue (state : State) (targets : List Target) (evt : ApprovalEvt) : State :=
  { state with
    batch := some (targets.foldl (Batch.push evt) (state.batch.getD .empty))
    flushTimer := true }

def flush (state : State) : State where
  posts := state.posts ++ state.batch.elim [] fun batch =>
    (batch.rows.filter (!·.2.evts.isEmpty)).map fun row => (⟨row.2.name, row.1⟩, row.2.evts)

def notifyApprovalRequest (batchWindow : Nat) (state : State) (targets : List Target)
    (evt : ApprovalEvt) : State :=
  if targets.isEmpty then state
  else if batchWindow ≠ 0 then enqueue state targets evt
  else { state with
    posts := state.posts ++ (targets.filter (·.url ≠ "")).map fun target => (target, [evt]) }

inductive Event where
  | request (targets : List Target) (evt : ApprovalEvt)
  | windowElapsed

def step (batchWindow : Nat) (state : State) : Event → State
  | .request targets evt => notifyApprovalRequest batchWindow state targets evt
  | .windowElapsed => if state.flushTimer then flush state else state

def run (batchWindow : Nat) (events : List Event) : State :=
  events.foldl (step batchWindow) {}

section

variable (url : String)

/-- The events of the messages to a receiver. -/
def State.posted (state : State) : List ApprovalEvt :=
  state.posts.flatMap fun post => if post.1.url = url then post.2 else []

def Batch.evts (batch : Batch) : List ApprovalEvt :=
  (batch.find? url).elim [] (·.2.evts)

def State.waiting (state : State) : List ApprovalEvt :=
  state.batch.elim [] (·.evts url)

/-- The events that a receiver is to hear of. -/
def requested : Event → List ApprovalEvt
  | .request targets evt =>
    targets.flatMap fun target => if target.url ≠ "" ∧ target.url = url then [evt] else []
  | .windowElapsed => []

end

variable {url : String}

theorem evts_push (evt : ApprovalEvt) (batch : Batch) (target : Target) :
    (batch.push evt target).evts url =
      batch.evts url ++ if target.url ≠ "" ∧ target.url = url then [evt] else [] := by
  by_cases noUrl : target.url = ""
  · simp [Batch.push, noUrl]
  · rw [Batch.push, if_neg noUrl, Batch.evts, KeyedTable.find?_upsert]
    by_cases same : target.url = url
    · subst same
      cases found : batch.find? target.url <;> simp [Batch.evts, found, noUrl]
    · simp [Batch.evts, same, Ne.symm same]

theorem waiting_enqueue (state : State) (targets : List Target) (evt : ApprovalEvt) :
    (enqueue state targets evt).waiting url =
      state.waiting url ++ requested url (.request targets evt) := by
  have pushed (batch : Batch) : (targets.foldl (Batch.push evt) batch).evts url =
      batch.evts url ++ requested url (.request targets evt) := by
    induction targets generalizing batch with
    | nil => exact (append_nil _).symm
    | cons _ _ ih =>
      rw [foldl_cons, ih, evts_push, append_assoc]
      rfl
  refine (pushed _).trans ?_
  cases batchEq : state.batch <;> simp [State.waiting, batchEq, Batch.evts, KeyedTable.empty,
    KeyedTable.find?]

theorem posted_flush (state : State) :
    (flush state).posted url = state.posted url ++ state.waiting url := by
  rw [State.posted, flush, flatMap_append, State.waiting]
  congr 1
  cases state.batch with
  | none => rfl
  | some batch =>
    have chosen : batch.evts url = (batch.select fun row => row.1 = url).flatMap (·.2.evts) := by
      rw [batch.select_key, Batch.evts]
      cases batch.find? url <;> simp
    rw [Option.elim_some, Option.elim_some, chosen, KeyedTable.select]
    induction batch.rows with
    | nil => rfl
    | cons row _ ih => cases evtsEq : row.2.evts <;> by_cases same : row.1 = url <;> simp_all

theorem posted_at_once (targets : List Target) (evt : ApprovalEvt) :
    ((targets.filter (·.url ≠ "")).map fun target => (target, [evt])).flatMap
        (fun post => if post.1.url = url then post.2 else []) =
      requested url (.request targets evt) := by
  induction targets with
  | nil => rfl
  | cons target _ ih => by_cases noUrl : target.url = "" <;> simp_all [requested]

/-- Every event is posted once and in order to each of its receivers. Those that wait for it
have a timer that is armed, and none waits without a batch window. -/
theorem alarms_posted (batchWindow : Nat) (events : List Event) (url : String) :
    (run batchWindow events).posted url ++ (run batchWindow events).waiting url =
        events.flatMap (requested url) ∧
      ((run batchWindow events).waiting url ≠ [] →
        (run batchWindow events).flushTimer ∧ batchWindow ≠ 0) := by
  induction events using List.reverseRecOn with
  | nil => simp [run, State.waiting, State.posted]
  | append_singleton events event ih =>
    obtain ⟨account, armed⟩ := ih
    rw [run, foldl_append, ← run, flatMap_append, ← account]
    generalize run batchWindow events = state at armed
    simp only [foldl_cons, foldl_nil, flatMap_singleton]
    cases event with
    | request targets evt =>
      simp only [step, notifyApprovalRequest]
      split_ifs with empty batched
      · simpa [requested, isEmpty_iff.mp empty] using armed
      · exact ⟨by rw [waiting_enqueue, append_assoc]; rfl, fun _ => ⟨rfl, batched⟩⟩
      · have none : state.waiting url = [] := by
          by_contra waits
          exact batched (armed waits).2
        refine ⟨?_, armed⟩
        rw [← posted_at_once, none, append_nil, State.posted, State.posted, ← flatMap_append]
        exact (congrArg _ none).trans (append_nil _)
    | windowElapsed =>
      simp only [step]
      split_ifs with timer
      · exact ⟨congrArg (· ++ _) (posted_flush state), fun waits => absurd rfl waits⟩
      · simpa [requested] using armed

end Addons.ApprovalAlarms
