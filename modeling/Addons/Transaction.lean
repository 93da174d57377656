import Mathlib.Init

/-!
# Transactions

A transaction runs on a state and either commits a result or is refused; a refused one
leaves the state as it was.
-/

namespace Addons

open List

/-- A computation on a state that commits a result or is refused. -/
abbrev Transaction (State Error : Type) := StateT State (Except Error)

namespace Transaction

variable {State Error α β : Type} {first : Except Error α} {next : α → Except Error β} {result : β}
  {transaction : Transaction State Error α} {state final : State} {value : α}

theorem bind_eq_ok_iff :
    first >>= next = .ok result ↔ ∃ value, first = .ok value ∧ next value = .ok result := by
  cases first <;> simp [bind, Except.bind]

theorem bind_eq_ok (ran : first >>= next = .ok result) :
    ∃ value, first = .ok value ∧ next value = .ok result :=
  bind_eq_ok_iff.mp ran

theorem map_eq_ok {change : α → β} (ran : first.map change = .ok result) :
    ∃ value, first = .ok value ∧ change value = result := by
  cases first with
  | error => cases ran
  | ok value => exact ⟨value, rfl, Except.ok.inj ran⟩

theorem mapError_eq_ok {Error' : Type} {change : Error → Error'} {result : α}
    (ran : first.mapError change = .ok result) : first = .ok result := by
  cases first with
  | error => cases ran
  | ok => rw [Except.ok.inj ran]

def refuse (error : Error) : Transaction State Error α :=
  fun _ => .error error

def refuseIf (condition : Prop) [Decidable condition] (error : Error) :
    Transaction State Error Unit :=
  if condition then refuse error else pure ()

/-- Go on with the value that is expected to be there. -/
def require (value : Option α) (error : Error) : Transaction State Error α :=
  value.elim (refuse error) pure

def atomically (transaction : Transaction State Error α) : ExceptT Error (StateM State) α :=
  fun state =>
    match transaction state with
    | .ok (value, after) => (.ok value, after)
    | .error error => (.error error, state)

theorem eq_ok_of_atomically (ran : atomically transaction state = (.ok value, final)) :
    transaction state = .ok (value, final) := by
  unfold atomically at ran
  cases result : transaction state with
  | error =>
    rw [result] at ran
    cases ran
  | ok =>
    rw [result] at ran
    cases ran
    rfl

/-- A failed transaction changes nothing. -/
theorem eq_of_atomically_error
    {error : Error} (ran : atomically transaction state = (.error error, final)) :
    final = state := by
  unfold atomically at ran
  cases result : transaction state with
  | error =>
    rw [result] at ran
    cases ran
    rfl
  | ok =>
    rw [result] at ran
    cases ran

structure Ensures (before : State → Prop) (transaction : Transaction State Error α)
    (after : α → State → Prop) : Prop where
  committed : ∀ state value final, before state → transaction state = .ok (value, final) →
    after value final

variable {before : State → Prop} {after : α → State → Prop}
  {transaction : Transaction State Error α}

theorem Ensures.imp {weaker : α → State → Prop} (ensures : Ensures before transaction after)
    (implies : ∀ value state, after value state → weaker value state) :
    Ensures before transaction weaker where
  committed state value final holds ran :=
    implies value final (ensures.committed state value final holds ran)

theorem Ensures.of_imp {stronger : State → Prop} (ensures : Ensures before transaction after)
    (implies : ∀ state, stronger state → before state) : Ensures stronger transaction after where
  committed state value final holds ran :=
    ensures.committed state value final (implies state holds) ran

theorem Ensures.and {otherBefore : State → Prop} {otherAfter : α → State → Prop}
    (left : Ensures before transaction after) (right : Ensures otherBefore transaction otherAfter) :
    Ensures (fun state => before state ∧ otherBefore state) transaction
      (fun value state => after value state ∧ otherAfter value state) where
  committed state value final holds ran :=
    ⟨left.committed state value final holds.1 ran, right.committed state value final holds.2 ran⟩

theorem ensures_of_each
    (each : ∀ start, before start → Ensures (fun state => state = start) transaction after) :
    Ensures before transaction after where
  committed state value final holds ran :=
    (each state holds).committed state value final rfl ran

theorem ensures_pure (holds : ∀ state, before state → after value state) :
    Ensures before (pure value : Transaction State Error α) after := by
  constructor
  intro state _ _ begins ran
  cases ran
  exact holds state begins

theorem ensures_refuse (error : Error) :
    Ensures before (refuse error : Transaction State Error α) after := by
  constructor
  intro _ _ _ _ ran
  cases ran

theorem ensures_bind {between : β → State → Prop} {first : Transaction State Error β}
    {rest : β → Transaction State Error α} (begins : Ensures before first between)
    (continues : ∀ value, Ensures (between value) (rest value) after) :
    Ensures before (first >>= rest) after := by
  constructor
  intro state value final holds ran
  change (first state >>= fun reached => rest reached.1 reached.2) = .ok (value, final) at ran
  cases middle : first state with
  | error =>
    rw [middle] at ran
    cases ran
  | ok reached =>
    rw [middle] at ran
    have reaches := begins.committed state reached.1 reached.2 holds middle
    exact (continues reached.1).committed reached.2 value final reaches ran

theorem ensures_get :
    Ensures before (get : Transaction State Error State)
      (fun value state => value = state ∧ before state) := by
  constructor
  intro _ _ _ holds ran
  cases ran
  exact ⟨rfl, holds⟩

theorem ensures_modify {change : State → State} {after : Unit → State → Prop}
    (holds : ∀ state, before state → after () (change state)) :
    Ensures before (modify change : Transaction State Error Unit) after := by
  constructor
  intro state _ _ begins ran
  cases ran
  exact holds state begins

theorem ensures_refuseIf {condition : Prop} [Decidable condition] (error : Error) :
    Ensures before (refuseIf condition error) (fun _ state => ¬condition ∧ before state) := by
  unfold refuseIf
  split
  next => exact ensures_refuse error
  next passes => exact ensures_pure fun _ holds => ⟨passes, holds⟩

theorem ensures_require {value : Option α} (error : Error) :
    Ensures before (require value error)
      (fun found state => value = some found ∧ before state) := by
  cases value with
  | none => exact ensures_refuse error
  | some => exact ensures_pure fun _ holds => ⟨rfl, holds⟩

section Guards

variable {condition : State → Prop} [DecidablePred condition] {error : State → Error}
  {rest : State → Transaction State Error α}

theorem ensures_guard (continues : ∀ state,
      Ensures (fun now => ¬condition state ∧ state = now ∧ before now) (rest state) after) :
    Ensures before (do
      let state ← get
      refuseIf (condition state) (error state)
      rest state) after :=
  ensures_bind ensures_get fun state =>
    ensures_bind (ensures_refuseIf (error state)) fun _ => continues state

theorem preserves_guard (continues : ∀ state, Ensures before (rest state) after) :
    Ensures before (do
      let state ← get
      refuseIf (condition state) (error state)
      rest state) after :=
  ensures_guard fun state => (continues state).of_imp fun _ holds => holds.2.2

/-- A change that is refused after all, by what the state was before it. -/
theorem ensures_checked {change : Transaction State Error Unit} {changed : State → Prop}
    (changes : Ensures before change fun _ => changed) :
    Ensures before (do
      let state ← get
      change
      refuseIf (condition state) (error state)) fun _ => changed :=
  ensures_bind (ensures_get.imp fun _ _ holds => holds.2) fun state =>
    ensures_bind changes fun _ => (ensures_refuseIf (error state)).imp fun _ _ holds => holds.2

theorem preserves_lookup {value : State → Option β} {rest : State → β → Transaction State Error α}
    (continues : ∀ state found, Ensures before (rest state found) after) :
    Ensures before (do
      let state ← get
      let found ← require (value state) (error state)
      rest state found) after :=
  ensures_bind ensures_get fun state => ensures_bind (ensures_require (error state)) fun found =>
    (continues state found).of_imp fun _ holds => holds.2.2

end Guards

variable {items : List β} {action : β → Transaction State Error Unit}

theorem ensures_forM (keeps : ∀ item ∈ items, Ensures before (action item) (fun _ => before)) :
    Ensures before (items.forM action) (fun _ => before) := by
  induction items with
  | nil => exact ensures_pure fun _ holds => holds
  | cons first _ ih =>
    apply ensures_bind (keeps first mem_cons_self)
    intro _
    exact ih fun item member => keeps item (mem_cons_of_mem first member)

/-- A loop whose turns keep what the other turns do does all of it. -/
theorem ensures_forM_each {Done : β → State → Prop}
    (does : ∀ item ∈ items,
      Ensures before (action item) (fun _ state => before state ∧ Done item state))
    (keeps : ∀ item ∈ items, ∀ other, Ensures (Done other) (action item) (fun _ => Done other)) :
    Ensures before (items.forM action)
      (fun _ state => before state ∧ ∀ item ∈ items, Done item state) := by
  induction items with
  | nil => exact ensures_pure fun state holds => ⟨holds, fun item member => by cases member⟩
  | cons first rest ih =>
    apply ensures_bind (does first mem_cons_self)
    intro _
    have later := ih (fun item member => does item (mem_cons_of_mem first member))
      (fun item member => keeps item (mem_cons_of_mem first member))
    have kept : Ensures (Done first) (rest.forM action) (fun _ => Done first) :=
      ensures_forM fun item member => keeps item (mem_cons_of_mem first member) first
    apply (later.and kept).imp
    rintro _ _ ⟨⟨holds, done⟩, firstDone⟩
    refine ⟨holds, ?_⟩
    intro item member
    rcases mem_cons.mp member with rfl | member
    · exact firstDone
    · exact done item member

abbrev Preserves (Invariant : State → Prop) (transaction : Transaction State Error α) : Prop :=
  Ensures Invariant transaction fun _ => Invariant

section Preserves

variable {Invariant : State → Prop}

theorem preserves_bind {first : Transaction State Error β} {rest : β → Transaction State Error α}
    (begins : Preserves Invariant first) (continues : ∀ value, Preserves Invariant (rest value)) :
    Preserves Invariant (first >>= rest) :=
  ensures_bind begins continues

theorem preserves_pure (value : α) : Preserves Invariant (pure value : Transaction State Error α) :=
  ensures_pure fun _ holds => holds

theorem preserves_get : Preserves Invariant (get : Transaction State Error State) :=
  ensures_get.imp fun _ _ holds => holds.2

theorem preserves_refuseIf (condition : Prop) [Decidable condition] (error : Error) :
    Preserves Invariant (refuseIf condition error) :=
  (ensures_refuseIf error).imp fun _ _ holds => holds.2

end Preserves

/-- An operation leaves the invariant intact, whether it succeeds or not. -/
structure Keeps (Invariant : State → Prop) (operation : ExceptT Error (StateM State) α) :
    Prop where
  kept : ∀ state, Invariant state → Invariant (operation state).2

variable {Invariant : State → Prop}

/-- An invariant of the commits is kept, also by transactions that fail. -/
theorem keeps_atomically (ensures : Ensures Invariant transaction (fun _ => Invariant)) :
    Keeps Invariant (atomically transaction) := by
  constructor
  intro state holds
  unfold atomically
  cases ran : transaction state with
  | error => exact holds
  | ok reached => exact ensures.committed state reached.1 reached.2 holds ran

variable {rest : β → ExceptT Error (StateM State) α} {first : ExceptT Error (StateM State) β}

theorem keeps_bind (begins : Keeps Invariant first)
    (continues : ∀ value, Keeps Invariant (rest value)) : Keeps Invariant (first >>= rest) := by
  constructor
  intro state holds
  have reached := begins.kept state holds
  change Invariant (ExceptT.bindCont rest (first state).1 (first state).2).2
  cases (first state).1 with
  | ok value => exact (continues value).kept _ reached
  | error => exact reached

theorem eq_ok_of_bind {state final : State} {value : α}
    (ran : (first >>= rest) state = (.ok value, final)) :
    ∃ middle reached, first state = (.ok middle, reached) ∧
      rest middle reached = (.ok value, final) := by
  change ExceptT.bindCont rest (first state).1 (first state).2 = _ at ran
  rcases began : first state with ⟨result, reached⟩
  rw [began] at ran
  cases result with
  | error => cases ran
  | ok middle => exact ⟨middle, reached, rfl, ran⟩

section Continuations

variable {operation : ExceptT Error (StateM State) α} {state final : State} (next : α → β)

theorem bind_pure_ok {value : α} (ran : operation state = (.ok value, final)) :
    (operation >>= fun value => pure (next value)) state = (.ok (next value), final) := by
  change ExceptT.bindCont (fun value => pure (next value) : α → ExceptT Error (StateM State) β)
    (operation state).1 (operation state).2 = _
  rw [ran]
  rfl

theorem bind_pure_error {error : Error} (ran : operation state = (.error error, final)) :
    (operation >>= fun value => pure (next value)) state = (.error error, final) := by
  change ExceptT.bindCont (fun value => pure (next value) : α → ExceptT Error (StateM State) β)
    (operation state).1 (operation state).2 = _
  rw [ran]
  rfl

end Continuations

theorem keeps_get : Keeps Invariant (get : ExceptT Error (StateM State) State) :=
  ⟨fun _ holds => holds⟩

theorem keeps_pure (value : α) : Keeps Invariant (pure value : ExceptT Error (StateM State) α) :=
  ⟨fun _ holds => holds⟩

theorem keeps_throw (error : Error) :
    Keeps Invariant (throw error : ExceptT Error (StateM State) α) :=
  ⟨fun _ holds => holds⟩

end Transaction

end Addons
