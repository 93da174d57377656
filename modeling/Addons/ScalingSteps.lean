import Addons.TextParsing
import Addons.Transaction
import Mathlib.Algebra.Order.Field.Basic
import Mathlib.Data.List.Sort
import Mathlib.Data.Rat.Floor
import Mathlib.Tactic.Linarith

/-!
# Quantities, cooldowns and scaling steps

What the two autoscalers of the volume autoscaler share: Kubernetes quantities read as
exact numbers of bytes, cooldowns, and the step that a list of policies takes from a size.
-/

namespace Addons.VolumeAutoscaler

open List Option DecimalText

/-- Nanoseconds since the epoch. -/
abbrev Instant := Int

/-- Milliseconds since the epoch, as the times of a status hold them. -/
abbrev Time := Int

/-- The first and the last instant that a `DateTime` can hold. -/
def earliestInstant : Instant := -8334601228800000000000
def latestInstant : Instant := 8210266876799999999999

/-- The first and the last millisecond that a `Timestamp` can hold. -/
def earliestTime : Time := -377705023201000
def latestTime : Time := 253402207200999

/-- A clock reading as a time of a status: cut to milliseconds, the epoch when it is out of
range. -/
def k8sTime (instant : Instant) : Time :=
  let millis := instant / 1000000
  if earliestTime ≤ millis ∧ millis ≤ latestTime then millis else 0

def fromK8sTime (time : Time) : Option Instant :=
  let instant := time * 1000000
  if earliestInstant ≤ instant ∧ instant ≤ latestInstant then some instant else none

/-- A duration of whole seconds as a `TimeDelta`, which holds at most `i64::MAX`
milliseconds; a longer one becomes zero. -/
def timeDelta (seconds : Nat) : Int :=
  if seconds ≤ 9223372036854775 then seconds * 1000000000 else 0

/-- The sum of an instant and a `TimeDelta`; the addition panics when it overflows. -/
def addDelta (instant : Instant) (delta : Int) : Option Instant :=
  if instant + delta ≤ latestInstant then some (instant + delta) else none

/-! ## Quantities -/

def gib : ℚ := 1073741824

def maxI32 : Int := 2147483647

def minI32 : Int := -2147483648

def parseI32 (digits : List Char) : Option Int := do
  let (negative, digits) := splitSign digits
  let magnitude ← parseDigits digits
  let value : Int := if negative then -magnitude else magnitude
  if minI32 ≤ value ∧ value ≤ maxI32 then some value else none

/-- The number that digits with at most one point stand for. -/
def parseDecimal (characters : List Char) : Option ℚ :=
  match characters.dropWhile (· != '.') with
  | [] => (parseDigits characters).map fun number : Nat => (number : ℚ)
  | _ :: fraction =>
    let whole := characters.takeWhile (· != '.')
    (parseDigits (whole ++ fraction)).map fun number : Nat => mkRat number (10 ^ fraction.length)

def powerOfTen (exponent : Int) : ℚ :=
  if 0 ≤ exponent then ((10 ^ exponent.toNat : Nat) : ℚ) else mkRat 1 (10 ^ exponent.natAbs)

def quantityMultiplier (raw suffix : String) : Except String ℚ :=
  match suffix with
  | "" => pure 1
  | "Ki" => pure 1024
  | "Mi" => pure 1048576
  | "Gi" => pure gib
  | "Ti" => pure 1099511627776
  | "Pi" => pure 1125899906842624
  | "Ei" => pure 1152921504606846976
  | "n" => pure (powerOfTen (-9))
  | "u" => pure (powerOfTen (-6))
  | "m" => pure (powerOfTen (-3))
  | "k" => pure (powerOfTen 3)
  | "M" => pure (powerOfTen 6)
  | "G" => pure (powerOfTen 9)
  | "T" => pure (powerOfTen 12)
  | "P" => pure (powerOfTen 15)
  | "E" => pure (powerOfTen 18)
  | other =>
    match other.toList with
    | marker :: digit :: digits =>
      if marker = 'e' ∨ marker = 'E' then
        match parseI32 (digit :: digits) with
        | some exponent => pure (powerOfTen exponent)
        | none => .error s!"invalid quantity exponent in {debugText raw}"
      else .error s!"unsupported quantity suffix {debugText other} in {debugText raw}"
    | _ => .error s!"unsupported quantity suffix {debugText other} in {debugText raw}"

/-- The number and the multiplier of a quantity. -/
def quantityParts (quantity : String) : Except String (ℚ × ℚ) := do
  let trimmed := TextParsing.trimChars quantity.toList
  let raw := String.ofList trimmed
  let isNumeral (character : Char) : Bool := character.isDigit || character == '.'
  match parseDecimal (trimmed.takeWhile isNumeral) with
  | none => .error s!"invalid quantity {debugText raw}"
  | some value =>
    let multiplier ← quantityMultiplier raw (String.ofList (trimmed.dropWhile isNumeral))
    pure (value, multiplier)

/-- The exact product; the source multiplies as `f64`. -/
def quantityBytes (quantity : String) : Except String ℚ :=
  (quantityParts quantity).map fun parts => parts.1 * parts.2

def gibQuantity (size : Int) : String := s!"{size}Gi"

/-- Bytes as a quantity, cut to a whole `u64`. -/
def bytesQuantity (bytes : ℚ) : String :=
  toString (min (max bytes 0).floor 18446744073709551615)

def ceilGib (bytes : ℚ) : Int := min (bytes / gib).ceil maxI32

/-- The nearest whole number, the even one of two. -/
def roundHalfEven (value : ℚ) : Int :=
  let below := value.floor
  let rest := value - below
  if rest < 1 / 2 then below
  else if 1 / 2 < rest then below + 1
  else if below % 2 = 0 then below else below + 1

/-- A size in GiB with one digit after the point. -/
def bytesGib (bytes : ℚ) : String :=
  let tenths := roundHalfEven (bytes / gib * 10)
  let sign := if tenths < 0 then "-" else ""
  s!"{sign}{tenths.natAbs / 10}.{tenths.natAbs % 10}Gi"

/-! ## Cooldowns -/

def saturateU64 (value : Nat) : Nat := min value 18446744073709551615

def parseU64 (digits : List Char) : Option Nat :=
  (parseDigits digits).filter fun value => value ≤ 18446744073709551615

def cooldownUnit : Char → Option Nat
  | 'h' => some 3600
  | 'm' => some 60
  | 's' => some 1
  | _ => none

/-- The loop of `parseCooldown`, with the seconds so far and the digits since the last
unit. -/
def addCooldown (total : Nat) (digits : List Char) : List Char → Option Nat
  | [] => if digits = [] then some total else none
  | character :: rest =>
    if character.isDigit then addCooldown total (digits ++ [character]) rest
    else
      match cooldownUnit character, parseU64 digits with
      | some unit, some count =>
        addCooldown (saturateU64 (total + saturateU64 (count * unit))) [] rest
      | _, _ => none

/-- The seconds of a cooldown in hours, minutes and seconds, such as `6h30m`. -/
def parseCooldown (raw : String) : Except String Nat :=
  match if raw = "" then none else addCooldown 0 [] raw.toList with
  | some seconds => pure seconds
  | none => .error s!"invalid duration {debugText raw}: use h, m, and s such as 6h30m"

/-- A cooldown with only its units that are not zero. -/
def formatCooldown (seconds : Nat) : String :=
  let part (count : Nat) (unit : String) : String := if 0 < count then s!"{count}{unit}" else ""
  let text := part (seconds / 3600) "h" ++ part (seconds % 3600 / 60) "m" ++ part (seconds % 60) "s"
  if text = "" then "0s" else text

/-! ## Steps -/

inductive SelectPolicy where
  | max
  | min
  | disabled
deriving DecidableEq

inductive ScalingPolicyType where
  | percent
  | gib
deriving DecidableEq

structure ScalingPolicy where
  type : ScalingPolicyType
  value : Int
deriving DecidableEq

/-- One step policy, normalized. -/
inductive Step where
  | percent (value : Int)
  | gib (value : Int)
deriving DecidableEq

def defaultStepPercent : Int := 10

def defaultStepGib : Int := 1

def compileStep (policy : ScalingPolicy) : Except String Step :=
  if policy.value ≤ 0 then .error s!"scaleUp policy value must be positive, got {policy.value}"
  else
    match policy.type with
    | .percent => pure (.percent policy.value)
    | .gib => pure (.gib policy.value)

/-- The normalized step policies; none given means 10 percent and 1 GiB. -/
def compileSteps (policies : List ScalingPolicy) : Except String (List Step) :=
  if policies = [] then pure [.percent defaultStepPercent, .gib defaultStepGib]
  else policies.mapM compileStep

def Step.size (current : Int) : Step → Int
  | percent value => (current * value + 99).tdiv 100
  | gib value => value

/-- The capacity in GiB after one step. -/
def stepUp (current : Int) (steps : List Step) (selectMin : Bool) : Int :=
  let sizes := steps.map (Step.size current)
  let step := (if selectMin then sizes.min? else sizes.max?).getD 0
  let next := max (current + step) (current + 1)
  if minI32 ≤ next ∧ next ≤ maxI32 then next else maxI32

/-! ## The step of a list of policies -/

def ScalingPolicy.step (policy : ScalingPolicy) : Step :=
  match policy.type with
  | .percent => .percent policy.value
  | .gib => .gib policy.value

/-- The steps that policies stand for; none given means 10 percent and 1 GiB. -/
def policySteps (policies : List ScalingPolicy) : List Step :=
  if policies = [] then [.percent 10, .gib 1] else policies.map ScalingPolicy.step

/-- The size of one step in GiB, a percentage rounded up. -/
def Step.exact (current : Int) : Step → Int
  | percent value => ((current * value : ℚ) / 100).ceil
  | gib value => value

/-- The step that the policies take from a size: the smallest or the largest of their steps,
and at least one GiB. -/
def Selected (steps : List Step) (selectMin : Bool) (current step : Int) : Prop :=
  ∃ chosen ∈ steps.map (Step.exact current),
    (∀ other ∈ steps.map (Step.exact current),
      if selectMin then chosen ≤ other else other ≤ chosen) ∧
    step = max chosen 1

theorem compileStep_eq {policy : ScalingPolicy} {step : Step}
    (compiled : compileStep policy = .ok step) : step = policy.step ∧ 0 < policy.value := by
  unfold compileStep at compiled
  split at compiled
  · cases compiled
  next positive =>
    refine ⟨?_, Int.not_le.mp positive⟩
    unfold ScalingPolicy.step
    cases kind : policy.type with
    | percent | gib =>
      rw [kind] at compiled
      exact (Except.ok.inj compiled).symm

variable {policies : List ScalingPolicy} {steps : List Step}

theorem mapM_compileStep (compiled : policies.mapM compileStep = .ok steps) :
    steps = policies.map ScalingPolicy.step ∧ ∀ policy ∈ policies, 0 < policy.value := by
  induction policies generalizing steps with
  | nil =>
    cases Except.ok.inj (compiled.symm.trans mapM_nil)
    simp
  | cons _ _ ih =>
    rw [mapM_cons] at compiled
    obtain ⟨_, first, compiled⟩ := Transaction.bind_eq_ok compiled
    obtain ⟨_, later, compiled⟩ := Transaction.bind_eq_ok compiled
    obtain ⟨rfl, positive⟩ := compileStep_eq first
    obtain ⟨rfl, others⟩ := ih later
    cases Except.ok.inj compiled
    exact ⟨rfl, forall_mem_cons.mpr ⟨positive, others⟩⟩

theorem compileSteps_eq (compiled : compileSteps policies = .ok steps) :
    steps = policySteps policies := by
  unfold compileSteps at compiled
  unfold policySteps
  split at compiled
  next none =>
    rw [if_pos none]
    exact (Except.ok.inj compiled).symm
  next some =>
    rw [if_neg some]
    exact (mapM_compileStep compiled).1

theorem policySteps_ne_nil (policies : List ScalingPolicy) : policySteps policies ≠ [] := by
  unfold policySteps
  split
  · simp
  next some => simpa using some

theorem ceil_div_hundred (value : Int) : ((value : ℚ) / 100).ceil = (value + 99) / 100 := by
  apply le_antisymm
  · rw [Rat.ceil_le_iff, div_le_iff₀ (by norm_num)]
    have bound : value ≤ (value + 99) / 100 * 100 := by omega
    exact_mod_cast bound
  · have below : (value : ℚ) / 100 ≤ ((value : ℚ) / 100).ceil := Rat.le_ceil
    rw [div_le_iff₀ (by norm_num)] at below
    have bound : value ≤ ((value : ℚ) / 100).ceil * 100 := by exact_mod_cast below
    omega

variable {current : Int}

theorem size_eq_exact (step : Step) (fits : ∀ value, step = .percent value →
    0 ≤ current * value) : step.size current = step.exact current := by
  cases step with
  | percent value =>
    have truncated : (current * value + 99).tdiv 100 = (current * value + 99) / 100 :=
      Int.tdiv_eq_ediv_of_nonneg (by have := fits value rfl; omega)
    have rounded := ceil_div_hundred (current * value)
    rw [Int.cast_mul] at rounded
    exact truncated.trans rounded.symm
  | gib => rfl

section

variable (fits : ∀ value, .percent value ∈ steps → 0 ≤ current * value)
include fits

theorem sizes_eq_exact : steps.map (Step.size current) = steps.map (Step.exact current) := by
  apply map_congr_left
  rintro _ member
  apply size_eq_exact
  rintro value rfl
  exact fits value member

theorem exists_selected (selectMin : Bool) (some : steps ≠ []) :
    ∃ chosen, Selected steps selectMin current (max chosen 1) ∧
      (if selectMin then (steps.map (Step.size current)).min?
        else (steps.map (Step.size current)).max?) = .some chosen := by
  have filled : steps.map (Step.exact current) ≠ [] := by simpa using some
  rw [sizes_eq_exact fits]
  cases selectMin with
  | true =>
    obtain ⟨chosen, found⟩ := isSome_iff_exists.mp (isSome_min?_of_ne_nil filled)
    obtain ⟨member, least⟩ := min?_eq_some_iff.mp found
    exact ⟨chosen, ⟨chosen, member, least, rfl⟩, found⟩
  | false =>
    obtain ⟨chosen, found⟩ := isSome_iff_exists.mp (isSome_max?_of_ne_nil filled)
    obtain ⟨member, greatest⟩ := max?_eq_some_iff.mp found
    exact ⟨chosen, ⟨chosen, member, greatest, rfl⟩, found⟩

theorem stepUp_eq (selectMin : Bool) (start : 0 ≤ current) (some : steps ≠ []) :
    ∃ step, Selected steps selectMin current step ∧
      stepUp current steps selectMin = min (current + step) maxI32 := by
  obtain ⟨chosen, selected, found⟩ := exists_selected fits selectMin some
  refine ⟨max chosen 1, selected, ?_⟩
  unfold stepUp
  dsimp only
  rw [found]
  have next : max (current + (Option.some chosen).getD 0) (current + 1) =
      current + max chosen 1 := by
    simp only [getD_some]
    omega
  unfold minI32 maxI32
  split <;> omega

end

theorem one_le_of_selected {selectMin : Bool} {step : Int}
    (selected : Selected steps selectMin current step) : 1 ≤ step := by
  obtain ⟨_, -, -, rfl⟩ := selected
  omega

theorem percent_pos {value : Int} (compiled : compileSteps policies = .ok steps)
    (member : .percent value ∈ steps) : 0 < value := by
  unfold compileSteps at compiled
  split at compiled
  · cases Except.ok.inj compiled
    simp [defaultStepPercent] at member
    omega
  · obtain ⟨rfl, positive⟩ := mapM_compileStep compiled
    obtain ⟨policy, found, isPercent⟩ := mem_map.mp member
    have valued : policy.value = value := by
      unfold ScalingPolicy.step at isPercent
      split at isPercent
      · exact Step.percent.inj isPercent
      · cases isPercent
    exact valued ▸ positive policy found

theorem stepUp_of_compiled (selectMin : Bool) (compiled : compileSteps policies = .ok steps)
    (start : 0 ≤ current) :
    ∃ step, Selected (policySteps policies) selectMin current step ∧
      stepUp current steps selectMin = min (current + step) maxI32 := by
  have same := compileSteps_eq compiled
  have fits : ∀ value, .percent value ∈ steps → 0 ≤ current * value := by
    intro _ member
    exact Int.mul_nonneg start (percent_pos compiled member).le
  rw [← same]
  exact stepUp_eq fits selectMin start (same ▸ policySteps_ne_nil policies)

/-! ## Whole GiB -/

theorem gib_pos : 0 < gib := by
  unfold gib
  norm_num

theorem powerOfTen_nonneg (exponent : Int) : 0 ≤ powerOfTen exponent := by
  unfold powerOfTen
  split
  · exact (Nat.cast_nonneg (10 ^ exponent.toNat) : (0 : ℚ) ≤ _)
  · apply Rat.mkRat_nonneg
    norm_num

theorem parseDecimal_nonneg {characters : List Char} {value : ℚ}
    (parsed : parseDecimal characters = some value) : 0 ≤ value := by
  unfold parseDecimal at parsed
  split at parsed
  · obtain ⟨number, -, rfl⟩ := map_eq_some_iff.mp parsed
    exact (Nat.cast_nonneg number : (0 : ℚ) ≤ _)
  · obtain ⟨_, -, rfl⟩ := map_eq_some_iff.mp parsed
    exact Rat.mkRat_nonneg (Int.natCast_nonneg _) _

theorem quantityMultiplier_nonneg {raw suffix : String} {multiplier : ℚ}
    (found : quantityMultiplier raw suffix = .ok multiplier) : 0 ≤ multiplier := by
  unfold quantityMultiplier at found
  split at found
  case h_17 =>
    split at found
    · split at found
      · split at found
        · rw [← Except.ok.inj found]
          exact powerOfTen_nonneg _
        · cases found
      · cases found
    · cases found
  all_goals
    rw [← Except.ok.inj found]
    first
    | exact powerOfTen_nonneg _
    | norm_num [gib]

variable {bytes : ℚ}

theorem quantityBytes_nonneg {quantity : String} (parsed : quantityBytes quantity = .ok bytes) :
    0 ≤ bytes := by
  unfold quantityBytes quantityParts at parsed
  dsimp only at parsed
  split at parsed
  · cases parsed
  next _ found =>
    cases scaled : quantityMultiplier _ _ with
    | error =>
      rw [scaled] at parsed
      cases parsed
    | ok =>
      rw [scaled] at parsed
      cases Except.ok.inj parsed
      exact mul_nonneg (parseDecimal_nonneg found) (quantityMultiplier_nonneg scaled)

theorem ceilGib_nonneg (nonneg : 0 ≤ bytes) : 0 ≤ ceilGib bytes := by
  have lower : (0 : ℚ) ≤ (bytes / gib).ceil := (div_nonneg nonneg gib_pos.le).trans Rat.le_ceil
  have rounded : 0 ≤ (bytes / gib).ceil := by exact_mod_cast lower
  unfold ceilGib maxI32
  omega

variable {size : Int}

theorem lt_of_ceilGib_lt (below : ceilGib bytes < size)
    (fits : size ≤ maxI32) : bytes < size * gib := by
  have rounded : (bytes / gib).ceil < size := by
    unfold ceilGib maxI32 at below
    unfold maxI32 at fits
    omega
  rw [← div_lt_iff₀ gib_pos]
  calc
    bytes / gib ≤ (bytes / gib).ceil := Rat.le_ceil
    _ < size := by exact_mod_cast rounded

theorem le_of_le_floor (within : size ≤ (bytes / gib).floor) : size * gib ≤ bytes := by
  rw [← le_div_iff₀ gib_pos]
  exact Rat.le_floor_iff.mp within

end Addons.VolumeAutoscaler
