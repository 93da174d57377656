import Addons.TransitionSystem
import Mathlib.Data.Int.Basic
import Mathlib.Logic.Function.Basic

/-!
# Upload slots per user

A slot needs a permit of the gate and a place in the count that is kept for its user. The count is
read and written under a lock, by the grant, by the refusal and by the drop of a slot.
-/

namespace Addons.UploadSlots

open TransitionSystem Option Function

structure Uploader where
  gate : Nat
  users : String → Option Int
  /-- Calls of `acquire` that hold a permit and wait for the lock. -/
  admitted : String → Nat
  /-- The live slots of each user. -/
  live : String → Nat

inductive Event where
  | enter (user : String)
  | acquire (user : String)
  | drop (user : String)

-- `max_concurrent_user` of the configuration.
variable (maxUser : Nat)

def acquire (uploader : Uploader) (user : String) : Uploader :=
  let count := (uploader.users user).getD 0
  if (maxUser : Int) ≤ count then
    { uploader with
      gate := uploader.gate + 1
      users := Function.update uploader.users user none }
  else
    { uploader with
      users := Function.update uploader.users user (some (count + 1))
      live := Function.update uploader.live user (uploader.live user + 1) }

def drop (uploader : Uploader) (user : String) : Uploader :=
  { uploader with
    gate := uploader.gate + 1
    users :=
      match uploader.users user with
      | none => uploader.users
      | some count =>
        Function.update uploader.users user (if count - 1 ≤ 0 then none else some (count - 1))
    live := Function.update uploader.live user (uploader.live user - 1) }

def act (uploader : Uploader) : Event → Option Uploader
  | .enter user =>
    if 0 < uploader.gate then
      some { uploader with
        gate := uploader.gate - 1
        admitted := Function.update uploader.admitted user (uploader.admitted user + 1) }
    else none
  | .acquire user =>
    if 0 < uploader.admitted user then
      some (acquire maxUser
        { uploader with
          admitted := Function.update uploader.admitted user (uploader.admitted user - 1) } user)
    else none
  | .drop user => if 0 < uploader.live user then some (drop uploader user) else none

def Step (uploader : Uploader) (event : Event) (after : Uploader) : Prop :=
  act maxUser uploader event = some after

def Initial (uploader : Uploader) : Prop :=
  uploader.users = (fun _ => none) ∧ uploader.admitted = (fun _ => 0) ∧
    uploader.live = fun _ => 0

/-- A call of `acquire` comes to the lock while its user has a slot to spare. -/
def Spare (uploader : Uploader) : Event → Prop
  | .acquire user => uploader.live user < maxUser
  | _ => True

/-- Every user's count is the number of live slots, within the limit. -/
def Exact (uploader : Uploader) : Prop :=
  ∀ user, (uploader.users user).getD 0 = uploader.live user ∧
    uploader.live user ≤ maxUser

variable {maxUser : Nat} {uploader after : Uploader}

theorem Exact.acquire (exact : Exact maxUser uploader) {user : String}
    (spare : uploader.live user < maxUser) : Exact maxUser (acquire maxUser uploader user) := by
  have count := (exact user).1
  unfold UploadSlots.acquire
  rw [if_neg (by omega)]
  intro each
  by_cases same : each = user
  · subst each
    simp only [update_self, getD_some]
    omega
  · simpa [update_of_ne same] using exact each

theorem Exact.drop (exact : Exact maxUser uploader) {user : String}
    (live : 0 < uploader.live user) : Exact maxUser (drop uploader user) := by
  obtain ⟨count, bound⟩ := exact user
  intro each
  unfold UploadSlots.drop
  cases entry : uploader.users user with
  | none =>
    -- A user with a live slot has an entry.
    simp only [entry, getD_none] at count
    omega
  | some number =>
    simp only [entry, getD_some] at count
    by_cases same : each = user
    · subst each
      simp only [update_self]
      split <;> simp only [getD_none, getD_some] <;> omega
    · simpa [update_of_ne same] using exact each

theorem Exact.step (exact : Exact maxUser uploader) {event : Event}
    (permitted : Spare maxUser uploader event)
    (taken : Step maxUser uploader event after) : Exact maxUser after := by
  cases event with
  | enter user =>
    obtain ⟨_, rfl⟩ := of_guard taken
    exact exact
  | acquire user =>
    obtain ⟨_, rfl⟩ := of_guard taken
    apply Exact.acquire
    · exact exact
    · exact permitted
  | drop user =>
    obtain ⟨live, rfl⟩ := of_guard taken
    exact exact.drop live

/-- As long as nobody is refused, the count of each user is exact and within the limit. -/
theorem slots_exact (reached : Reachable Initial (Step maxUser)
      (Spare maxUser) uploader) (user : String) :
    (uploader.users user).getD 0 = uploader.live user ∧
      uploader.live user ≤ maxUser := by
  have exact : Exact maxUser uploader := by
    refine reached.invariant ?_ fun _ _ _ exact permitted taken => exact.step permitted taken
    rintro start ⟨users, -, live⟩ each
    simp [users, live]
  exact exact user

def idle : Uploader where
  gate := 4
  users _ := none
  admitted _ := 0
  live _ := 0

instance (uploader : Uploader) : DecidablePred (Spare maxUser uploader)
  | .enter _ => .isTrue trivial
  | .acquire user => inferInstanceAs (Decidable (uploader.live user < maxUser))
  | .drop _ => .isTrue trivial

theorem slots_exact_ann :
    ∃ uploader : Uploader, uploader.live "ann" = 1 ∧
      (uploader.users "ann").getD 0 = uploader.live "ann" ∧ uploader.live "ann" ≤ 2 := by
  have follows : ∃ uploader, Reachable Initial (Step 2) (Spare 2) uploader ∧
      uploader.live "ann" = 1 := by
    apply Reachable.exists_of_follow (act 2)
      [.enter "ann", .acquire "ann", .enter "ann", .acquire "ann", .drop "ann"]
      (show Initial idle from ⟨rfl, rfl, rfl⟩)
    · exact fun _ _ _ taken => taken
    · decide
  obtain ⟨uploader, reached, one⟩ := follows
  exact ⟨uploader, one, slots_exact reached "ann"⟩

/-- After a refusal the count starts anew, and a user of two slots gets a third. -/
theorem refusal_forgets_slots :
    ∃ uploader, Reachable Initial (Step 2) (fun _ _ => True) uploader ∧
      uploader.live "ann" = 3 ∧ uploader.users "ann" = some 1 := by
  apply Reachable.exists_of_follow (act 2)
    [.enter "ann", .acquire "ann", .enter "ann", .acquire "ann", .enter "ann", .acquire "ann",
      .enter "ann", .acquire "ann"] (show Initial idle from ⟨rfl, rfl, rfl⟩)
  · exact fun _ _ _ taken => taken
  · decide

end Addons.UploadSlots
