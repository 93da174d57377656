import Addons.TransitionSystem
import Mathlib.Order.Lattice

/-!
# The adaptive limit of requests in flight

Permits are handed out by a semaphore. A lower limit is recorded as debt, which the requests that
finish pay by not giving their permit back.
-/

namespace Addons.AdaptiveLimits

open TransitionSystem

def initialLimit : Int := 2

def maxLimit : Int := 32

def minLimit : Int := 1

structure Limiter where
  tokens : Nat := initialLimit.toNat
  limit : Int := initialLimit
  debt : Int := 0
  peakLimit : Int := initialLimit
  running : Nat := 0
  /-- Requests whose permit is to be added to the tokens, after the lock. -/
  returning : Nat := 0

def Limiter.inFlight (limiter : Limiter) : Nat :=
  limiter.running + limiter.returning

def Limiter.setLimit (limiter : Limiter) (next : Int) : Limiter :=
  let next := max minLimit (min maxLimit next)
  let limiter :=
    if limiter.limit < next then
      { limiter with tokens := limiter.tokens + (next - limiter.limit).toNat }
    else if next < limiter.limit then
      { limiter with debt := limiter.debt + (limiter.limit - next) }
    else limiter
  { limiter with limit := next, peakLimit := max limiter.peakLimit next }

inductive RequestOutcome where
  | ok
  | backPressure
  | ignored

inductive Event where
  | acquire
  /-- The request was `slow` for its average; `lower` is what a decrease of the limit leads to. -/
  | release (outcome : RequestOutcome) (slow saturated : Bool) (lower : Int)
  | addPermit

def Limiter.adapt (limiter : Limiter) (outcome : RequestOutcome) (slow saturated : Bool)
    (lower : Int) : Limiter :=
  match outcome with
  | .backPressure => limiter.setLimit lower
  | .ok =>
    if slow then limiter.setLimit lower
    else if saturated then limiter.setLimit (limiter.limit + 1)
    else limiter
  | .ignored => limiter

/-- The end of `release`: the permit pays the debt or is given back. -/
def Limiter.settle (limiter : Limiter) : Limiter :=
  if 0 < limiter.debt then
    { limiter with debt := limiter.debt - 1, running := limiter.running - 1 }
  else
    { limiter with running := limiter.running - 1, returning := limiter.returning + 1 }

def act (limiter : Limiter) : Event → Option Limiter
  | .acquire =>
    if 0 < limiter.tokens then
      some { limiter with tokens := limiter.tokens - 1, running := limiter.running + 1 }
    else none
  | .release outcome slow saturated lower =>
    if 0 < limiter.running ∧ lower < limiter.limit then
      some (limiter.adapt outcome slow saturated lower).settle
    else none
  | .addPermit =>
    if 0 < limiter.returning then
      some { limiter with tokens := limiter.tokens + 1, returning := limiter.returning - 1 }
    else none

def Step (limiter : Limiter) (event : Event) (after : Limiter) : Prop :=
  act limiter event = some after

def Initial (limiter : Limiter) : Prop :=
  limiter = {}

structure Balanced (limiter : Limiter) : Prop where
  permits : limiter.tokens + limiter.inFlight = limiter.limit + limiter.debt
  debt : 0 ≤ limiter.debt
  lower : minLimit ≤ limiter.limit
  upper : limiter.limit ≤ maxLimit

variable {limiter after : Limiter}

/-- What a change of the limit does: new permits are free at once, lost ones are debt. -/
structure Adapts (limiter adapted : Limiter) : Prop where
  running : adapted.running = limiter.running
  returning : adapted.returning = limiter.returning
  lower : minLimit ≤ adapted.limit
  upper : adapted.limit ≤ maxLimit
  change : limiter.limit < adapted.limit ∧ adapted.debt = limiter.debt ∧
      (adapted.tokens : Int) = limiter.tokens + (adapted.limit - limiter.limit) ∨
    adapted.limit ≤ limiter.limit ∧ adapted.debt = limiter.debt + (limiter.limit - adapted.limit) ∧
      adapted.tokens = limiter.tokens

theorem adapts_setLimit (limiter : Limiter) (next : Int) :
    Adapts limiter (limiter.setLimit next) := by
  have least : minLimit ≤ max minLimit (min maxLimit next) := le_max_left _ _
  have most : max minLimit (min maxLimit next) ≤ maxLimit := by
    unfold minLimit maxLimit
    omega
  unfold Limiter.setLimit
  generalize max minLimit (min maxLimit next) = next at least most ⊢
  dsimp only
  split
  · exact ⟨rfl, rfl, least, most, .inl ⟨by assumption, rfl, by simp only; omega⟩⟩
  · split
    · exact ⟨rfl, rfl, least, most, .inr ⟨by simp only; omega, rfl, rfl⟩⟩
    · exact ⟨rfl, rfl, least, most, .inr ⟨by simp only; omega, by simp only; omega, rfl⟩⟩

/-- While there is debt no permit is idle or on its way back. -/
structure Spent (limiter : Limiter) : Prop extends Balanced limiter where
  idle : 0 < limiter.debt → limiter.tokens = 0 ∧ limiter.returning = 0

/-- The changes of the limit that no idle permit outlives: the limit falls by more than the permit
that is handed in only while no other is idle, and rises only where that permit pays the last
debt. -/
def Calm (limiter : Limiter) : Event → Prop
  | .release outcome slow saturated lower =>
    let next := (limiter.adapt outcome slow saturated lower).limit
    (next + 1 < limiter.limit → limiter.tokens = 0 ∧ limiter.returning = 0) ∧
      (limiter.limit < next → limiter.debt ≤ 1)
  | .acquire | .addPermit => True

instance (limiter : Limiter) (event : Event) : Decidable (Calm limiter event) := by
  unfold Calm
  split <;> infer_instance

section

variable (balanced : Balanced limiter)
include balanced

theorem Balanced.adapts (outcome : RequestOutcome) (slow saturated : Bool) (lower : Int) :
    Adapts limiter (limiter.adapt outcome slow saturated lower) := by
  have unchanged : Adapts limiter limiter :=
    ⟨rfl, rfl, balanced.lower, balanced.upper, .inr (by omega)⟩
  unfold Limiter.adapt
  split
  · exact adapts_setLimit limiter lower
  · split
    · exact adapts_setLimit limiter lower
    · split
      · exact adapts_setLimit limiter _
      · exact unchanged
  · exact unchanged

theorem Balanced.step {event : Event} (taken : Step limiter event after) : Balanced after := by
  have permits := balanced.permits
  cases event with
  | acquire | addPermit =>
    obtain ⟨_, rfl⟩ := of_guard taken
    exact { balanced with permits := by simp only [Limiter.inFlight] at *; omega }
  | release outcome slow saturated lower =>
    obtain ⟨⟨runs, -⟩, rfl⟩ := of_guard taken
    obtain ⟨running, returning, lower, upper, change⟩ :=
      balanced.adapts outcome slow saturated lower
    have debt := balanced.debt
    unfold Limiter.inFlight at permits
    unfold Limiter.settle
    split
    · exact ⟨by simp only [Limiter.inFlight]; omega, by simp only; omega, lower, upper⟩
    · exact ⟨by simp only [Limiter.inFlight]; omega, by simp only; omega, lower, upper⟩

end

theorem balanced_of_reachable {allowed : Limiter → Event → Prop}
    (reached : Reachable Initial Step allowed limiter) : Balanced limiter := by
  refine reached.invariant ?_ fun _ _ _ balanced _ taken => balanced.step taken
  rintro _ rfl
  exact ⟨rfl, by decide, by decide, by decide⟩

theorem Spent.step (spent : Spent limiter) {event : Event} (calm : Calm limiter event)
    (taken : Step limiter event after) : Spent after := by
  refine ⟨spent.toBalanced.step taken, ?_⟩
  have idle := spent.idle
  cases event with
  | acquire | addPermit =>
    obtain ⟨_, rfl⟩ := of_guard taken
    intro owed
    have idle := idle owed
    omega
  | release outcome slow saturated lower =>
    obtain ⟨-, rfl⟩ := of_guard taken
    obtain ⟨-, returning, -, -, change⟩ := spent.adapts outcome slow saturated lower
    have debt := spent.debt
    obtain ⟨falls, rises⟩ := calm
    unfold Limiter.settle
    split
    · simp only
      omega
    · intro owed
      contradiction

theorem spent_of_reachable (reached : Reachable Initial Step Calm limiter) : Spent limiter := by
  refine reached.invariant ?_ fun _ _ _ spent calm taken => spent.step calm taken
  rintro _ rfl
  exact ⟨@balanced_of_reachable _ Calm (.start rfl), fun owed => by cases owed⟩

/-- The permits always balance, and a request is admitted within the limit when more permits are
free than there is debt. After calm changes of the limit that is every request. -/
theorem admitted_within_limit_iff
    (reached : Reachable Initial Step (fun _ _ => True) limiter) :
    Balanced limiter ∧ ∀ after, Step limiter .acquire after →
      ((after.inFlight : Int) ≤ after.limit ↔ limiter.debt < limiter.tokens) ∧
      (Reachable Initial Step Calm limiter → (after.inFlight : Int) ≤ after.limit) := by
  have balanced := balanced_of_reachable reached
  refine ⟨balanced, ?_⟩
  intro _ taken
  obtain ⟨_, rfl⟩ := of_guard taken
  have permits := balanced.permits
  have debt := balanced.debt
  refine ⟨by simp only [Limiter.inFlight] at *; omega, ?_⟩
  intro calm
  have idle := (spent_of_reachable calm).idle
  simp only [Limiter.inFlight] at *
  omega

/-- The limit is raised to eleven and falls to nine, with ten of the permits idle. -/
def fallWhileIdle : List Event :=
  .acquire :: (List.replicate 9 [.release .ok false true 0, .addPermit, .acquire]).flatten ++
    [.release .backPressure false false 9]

/-- The limit is raised to three and falls to one, with three requests running. -/
def fallWhileBusy : List Event :=
  [.acquire, .release .ok false true 0, .addPermit, .acquire, .acquire, .acquire,
    .release .backPressure false false 1, .release .ignored false false 0,
    .release .ignored false false 0, .addPermit]

theorem admitted_within_limit_iff_fallen :
    (∃ limiter after, Reachable Initial Step (fun _ _ => True) limiter ∧ limiter.debt = 1 ∧
      limiter.tokens = 10 ∧ Step limiter .acquire after ∧ (after.inFlight : Int) ≤ after.limit) ∧
    ∃ limiter after, Reachable Initial Step Calm limiter ∧ limiter.limit = 1 ∧
      Step limiter .acquire after ∧ (after.inFlight : Int) ≤ after.limit := by
  obtain ⟨idle, reached, debt, tokens⟩ :
      ∃ limiter, Reachable Initial Step (fun _ _ => True) limiter ∧ limiter.debt = 1 ∧
        limiter.tokens = 10 :=
    Reachable.exists_of_follow act fallWhileIdle (show Initial {} from rfl)
      (fun _ _ _ taken => taken) (by decide)
  obtain ⟨busy, calm, limit, free⟩ :
      ∃ limiter, Reachable Initial Step Calm limiter ∧ limiter.limit = 1 ∧ limiter.tokens = 1 :=
    Reachable.exists_of_follow act fallWhileBusy (show Initial {} from rfl)
      (fun _ _ _ taken => taken) (by decide)
  refine ⟨⟨idle, _, reached, debt, tokens, if_pos (by omega), ?_⟩,
    ⟨busy, _, calm, limit, if_pos (by omega), ?_⟩⟩
  · exact ((admitted_within_limit_iff reached).2 _ (if_pos (by omega))).1.mpr (by omega)
  · exact ((admitted_within_limit_iff (calm.mono fun _ _ _ => trivial)).2 _
      (if_pos (by omega))).2 calm

/-- The ten idle permits are handed out above the limit of nine. -/
theorem idle_permits_exceed_limit :
    ∃ limiter, Reachable Initial Step (fun _ _ => True) limiter ∧ limiter.inFlight = 10 ∧
      limiter.limit = 9 :=
  Reachable.exists_of_follow act (fallWhileIdle ++ List.replicate 10 .acquire)
    (show Initial {} from rfl) (fun _ _ _ taken => taken) (by decide)

end Addons.AdaptiveLimits
