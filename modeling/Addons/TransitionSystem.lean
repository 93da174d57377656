import Mathlib.Logic.Relation

/-!
# Labelled transition systems

Reachability by steps that all meet a condition, and the induction rule for
invariants.
-/

namespace Addons.TransitionSystem

variable {State Event : Type*}

inductive Reachable (initial : State → Prop) (step : State → Event → State → Prop)
    (allowed : State → Event → Prop) : State → Prop where
  | start {state : State} (begins : initial state) : Reachable initial step allowed state
  | next {state after : State} {event : Event}
      (reached : Reachable initial step allowed state)
      (permitted : allowed state event) (taken : step state event after) :
      Reachable initial step allowed after

variable {initial : State → Prop} {step : State → Event → State → Prop}
  {allowed : State → Event → Prop} {Invariant : State → Prop}

namespace Reachable

section

variable {state : State} (reached : Reachable initial step allowed state)
include reached

theorem invariant (begins : ∀ state, initial state → Invariant state)
    (keeps : ∀ state event after, Invariant state → allowed state event →
      step state event after → Invariant after) : Invariant state := by
  induction reached with
  | start initially => exact begins _ initially
  | next _ permitted taken ih => exact keeps _ _ _ ih permitted taken

theorem mono {permitted : State → Event → Prop}
    (weaker : ∀ state event, allowed state event → permitted state event) :
    Reachable initial step permitted state := by
  induction reached with
  | start begins => exact .start begins
  | next _ allowed taken ih => exact ih.next (weaker _ _ allowed) taken

theorem project {Small : Type*} {begin : Small → Prop}
    {move : Small → Event → Small → Prop} {permitted : Small → Event → Prop}
    (view : State → Small) (begins : ∀ state, initial state → begin (view state))
    (steps : ∀ state event after, allowed state event → step state event after →
      permitted (view state) event ∧ move (view state) event (view after)) :
    Reachable begin move permitted (view state) := by
  induction reached with
  | start initially => exact .start (begins _ initially)
  | next _ allowed taken ih =>
    obtain ⟨fits, moves⟩ := steps _ _ _ allowed taken
    exact ih.next fits moves

theorem foldlM {next : State → Event → Option State}
    (sound : ∀ state event after, next state event = some after →
      allowed state event ∧ step state event after) {events : List Event} {after : State}
    (run : events.foldlM next state = some after) : Reachable initial step allowed after := by
  induction events generalizing state with
  | nil => exact Option.some.inj run ▸ reached
  | cons event _ ih =>
    obtain ⟨middle, first, rest⟩ := Option.bind_eq_some_iff.mp (List.foldlM_cons.symm.trans run)
    obtain ⟨permitted, taken⟩ := sound state event middle first
    exact ih (reached.next permitted taken) rest

end

end Reachable

/-- A guarded action that is taken meets its guard. -/
theorem of_guard {condition : Prop} [Decidable condition] {next after : State}
    (taken : (if condition then some next else none) = some after) : condition ∧ next = after := by
  simpa using taken

section Runs

variable (allowed) [∀ state event, Decidable (allowed state event)]

/-- Follow the events, as long as each is allowed and possible. -/
def follow (act : State → Event → Option State) (events : List Event) (state : State) :
    Option State :=
  events.foldlM (fun state event => if allowed state event then act state event else none) state

variable {allowed}

theorem Reachable.of_follow {act : State → Event → Option State} {start state : State}
    (begins : initial start)
    (sound : ∀ state event after, act state event = some after → step state event after)
    (events : List Event) (run : follow allowed act events start = some state) :
    Reachable initial step allowed state := by
  apply (Reachable.start begins).foldlM _ run
  intro current event after taken
  obtain ⟨permitted, acted⟩ := Option.ite_none_right_eq_some.mp taken
  exact ⟨permitted, sound current event after acted⟩

theorem Reachable.exists_of_follow (act : State → Event → Option State) (events : List Event)
    {start : State} (begins : initial start) {Facts : State → Prop} [DecidablePred Facts]
    (sound : ∀ state event after, act state event = some after → step state event after)
    (run : ((follow allowed act events start).any fun state => decide (Facts state))) :
    ∃ state, Reachable initial step allowed state ∧ Facts state := by
  obtain ⟨state, followed, facts⟩ := (Option.any_eq_true _ _).mp run
  exact ⟨state, .of_follow begins sound events followed, of_decide_eq_true facts⟩

end Runs

end Addons.TransitionSystem
