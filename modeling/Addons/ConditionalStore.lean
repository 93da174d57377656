import Mathlib.Data.Option.Basic

/-!
# A cell with conditional writes

One key of an object store.
-/

namespace Addons.ConditionalStore

variable {Value : Type*}

/-- The content of a key with its tag. Tags below `nextTag` have been used. -/
structure Cell (Value : Type*) where
  current : Option (Nat × Value)
  nextTag : Nat
  tag_lt : ∀ content ∈ current, content.1 < nextTag

inductive Condition where
  | ifMatch (tag : Nat)
  | ifNoneMatch
  deriving DecidableEq, Repr

namespace Cell

def empty : Cell Value where
  current := none
  nextTag := 0
  tag_lt := by simp

/-- Whether a write under this condition takes effect. -/
def accepts (cell : Cell Value) : Condition → Bool
  | .ifMatch tag => cell.current.any fun content => content.1 = tag
  | .ifNoneMatch => cell.current.isNone

def value? (cell : Cell Value) : Option Value :=
  cell.current.map Prod.snd

def write (cell : Cell Value) (value : Value) : Cell Value where
  current := some (cell.nextTag, value)
  nextTag := cell.nextTag + 1
  tag_lt := by simp

/-- The condition under which a write replaces exactly what a read finds now. -/
def unchanged (cell : Cell Value) : Condition :=
  match cell.current with
  | some content => .ifMatch content.1
  | none => .ifNoneMatch

/-- A condition that some earlier content of the cell gave. -/
def Known (cell : Cell Value) : Condition → Prop
  | .ifMatch tag => tag < cell.nextTag
  | .ifNoneMatch => True

/-- A write under the condition is refused, now and after any further writes. -/
def Stale (cell : Cell Value) (condition : Condition) : Prop :=
  cell.Known condition ∧ cell.current ≠ none ∧ cell.accepts condition = false

/-- Whenever a write under the condition takes effect, it replaces a value that
satisfies `holds`. -/
def Guarded (cell : Cell Value) (condition : Condition) (holds : Option Value → Prop) :
    Prop :=
  cell.Known condition ∧ (cell.accepts condition = true → holds cell.value?)

@[simp]
theorem value?_write (cell : Cell Value) (value : Value) :
    (cell.write value).value? = some value := rfl

theorem known_unchanged (cell : Cell Value) : cell.Known cell.unchanged := by
  cases contentEq : cell.current with
  | none => simp [unchanged, contentEq, Known]
  | some content =>
    simpa [unchanged, contentEq, Known] using cell.tag_lt content contentEq

theorem accepts_unchanged (cell : Cell Value) : cell.accepts cell.unchanged := by
  cases contentEq : cell.current <;> simp [unchanged, accepts, contentEq]

variable {cell : Cell Value} {holds : Option Value → Prop}

theorem guarded_unchanged (satisfied : holds cell.value?) : cell.Guarded cell.unchanged holds :=
  ⟨cell.known_unchanged, fun _ => satisfied⟩

variable {condition : Condition}

theorem known_write (known : cell.Known condition) (value : Value) :
    (cell.write value).Known condition := by
  cases condition with
  | ifMatch => exact Nat.lt_succ_of_lt known
  | ifNoneMatch => trivial

/-- A write makes every condition known before it stale. -/
theorem stale_write (known : cell.Known condition) (value : Value) :
    (cell.write value).Stale condition := by
  refine ⟨known_write known value, by simp [write], ?_⟩
  cases condition with
  | ifMatch tag =>
    have newer : cell.nextTag ≠ tag := Nat.ne_of_gt known
    simpa [accepts, write] using newer
  | ifNoneMatch => rfl

/-- A guard outlives every write. -/
theorem guarded_write (guarded : cell.Guarded condition holds) (value : Value) :
    (cell.write value).Guarded condition holds := by
  refine ⟨known_write guarded.1 value, fun accepted => ?_⟩
  rw [(stale_write guarded.1 value).2.2] at accepted
  cases accepted

theorem guarded_written (cell : Cell Value) (value : Value) :
    (cell.write value).Guarded (.ifMatch cell.nextTag) (· = some value) :=
  ⟨Nat.lt_succ_self _, fun _ => rfl⟩

theorem guarded_read {content : Nat × Value} (found : cell.current = some content) :
    cell.Guarded (.ifMatch content.1) (· = some content.2) :=
  ⟨cell.tag_lt content found, fun _ => by simp [value?, found]⟩

theorem Guarded.imp {follows : Option Value → Prop} (guarded : cell.Guarded condition holds)
    (implies : ∀ value, holds value → follows value) : cell.Guarded condition follows :=
  ⟨guarded.1, fun accepted => implies _ (guarded.2 accepted)⟩

theorem Stale.not_accepts (stale : cell.Stale condition) : ¬cell.accepts condition := by
  simp [stale.2.2]

end Cell

end Addons.ConditionalStore
