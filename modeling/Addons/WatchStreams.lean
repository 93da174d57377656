import Mathlib.Logic.Function.Basic

/-!
# Watch streams

A watch stream tells of a set of objects by lists and by changes.
-/

namespace Addons.WatchStream

open Option

inductive Event (Object : Type) where
  | init
  | initApply (object : Object)
  | initDone
  | apply (object : Object)
  | delete (object : Object)
deriving DecidableEq

/-- What a stream has told so far. -/
structure View (Key Object : Type) where
  /-- The objects of the last completed list, with the later changes. -/
  current : Key → Option Object
  listing : Option (Key → Option Object)
  /-- The last state told of each object that no change and no completed list has removed. -/
  latest : Key → Option Object
  complete : Bool

namespace View

variable {Key Object : Type} [DecidableEq Key] {key : Object → Key} {view after : View Key Object}

/-- Nothing has been told. -/
def start : View Key Object := ⟨fun _ => none, none, fun _ => none, false⟩

def next (key : Object → Key) (view : View Key Object) : Event Object → Option (View Key Object)
  | .init => some { view with listing := some fun _ => none }
  | .initApply object =>
    view.listing.map fun listed =>
      { view with
        listing := some (Function.update listed (key object) (some object))
        latest := Function.update view.latest (key object) (some object) }
  | .initDone =>
    view.listing.map fun listed =>
      { current := listed, listing := none, latest := listed, complete := true }
  | .apply object =>
    if view.complete = true ∧ view.listing.isNone then
      some { view with
        current := Function.update view.current (key object) (some object)
        latest := Function.update view.latest (key object) (some object) }
    else none
  | .delete object =>
    if view.complete = true ∧ view.listing.isNone then
      some { view with
        current := Function.update view.current (key object) none
        latest := Function.update view.latest (key object) none }
    else none

structure Sound (view : View Key Object) : Prop where
  listed : ∀ listed, view.listing = some listed →
    ∀ key object, listed key = some object → view.latest key = some object
  settled : view.complete = true → view.listing = none → view.latest = view.current

omit [DecidableEq Key] in
theorem sound_start : (start : View Key Object).Sound where
  listed _ known := by cases known
  settled known := by cases known

theorem Sound.next (sound : view.Sound) {event : Event Object}
    (told : view.next key event = some after) : after.Sound := by
  cases event with
  | init =>
    cases told
    constructor
    · intro listed known key object found
      cases known
      cases found
    · intro _ idle
      cases idle
  | initApply object =>
    obtain ⟨listed, known, rfl⟩ := map_eq_some_iff.1 told
    constructor
    · intro extended same wanted other found
      cases same
      by_cases here : wanted = key object
      · subst here
        simpa using found
      · rw [Function.update_of_ne here] at found
        dsimp only
        rw [Function.update_of_ne here]
        exact sound.listed listed known wanted other found
    · intro _ idle
      cases idle
  | initDone =>
    obtain ⟨listed, _, rfl⟩ := map_eq_some_iff.1 told
    constructor
    · intro _ known
      cases known
    · intro _ _
      rfl
  | apply | delete =>
    obtain ⟨⟨complete, idle⟩, rfl⟩ := ite_none_right_eq_some.1 told |>.imp_right some.inj
    have none := isNone_iff_eq_none.1 idle
    constructor
    · intro listed known
      simp [none] at known
    · intro _ _
      rw [sound.settled complete none]

end View

end Addons.WatchStream
