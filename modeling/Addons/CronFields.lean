import Addons.TextParsing
import Addons.Transaction
import Mathlib.Algebra.Ring.Divisibility.Basic
import Mathlib.Algebra.Ring.Int.Defs
import Mathlib.Data.List.Forall2

/-!
# Fields of a cron expression

A field is a list of terms, and each term sets the bits of its values in a loop over a 64-bit
number.
-/

namespace Addons.CronFields

open Transaction

/-- Every value of the field is a bit of a 64-bit word. -/
structure CronField where
  name : String
  min : Int
  max : Int
  bits : 0 ≤ min ∧ max < 64

def cronFields : List CronField :=
  [⟨"minute", 0, 59, by decide⟩, ⟨"hour", 0, 23, by decide⟩, ⟨"day of month", 1, 31, by decide⟩,
    ⟨"month", 1, 12, by decide⟩, ⟨"day of week", 0, 6, by decide⟩]

inductive Failure where
  | invalid (message : String)
  /-- The addition of the step leaves the range of `i64`. -/
  | overflow

@[ext]
structure Term where
  lo : Int
  hi : Int
  step : Int

def number (text : List Char) : Option Int :=
  (DecimalText.parseI64 (String.ofList text)).map Int64.toInt

def splitOnce (mark : Char) (text : List Char) : Option (List Char × List Char) :=
  if mark ∈ text then some (text.takeWhile (· ≠ mark), (text.dropWhile (· ≠ mark)).tail) else none

section Parsing

variable (field : CronField) (term : List Char)

def orError (message : String) : Option Int → Except String Int
  | none => .error message
  | some value => .ok value

def parseStep : Option (List Char) → Except String Int
  | none => .ok 1
  | some text =>
    orError s!"invalid step {debugText (String.ofList text)} in {field.name} field"
      ((number text).filter (0 < ·))

def parseBound (text : List Char) : Except String Int :=
  orError s!"invalid {field.name} field {debugText (String.ofList term)}" (number text)

def parseRange (hasStep : Bool) (range : List Char) : Except String (Int × Int) :=
  if range = ['*'] then .ok (field.min, field.max)
  else
    match splitOnce '-' range with
    | some (first, last) => do
      let lo ← parseBound field term first
      let hi ← parseBound field term last
      .ok (lo, hi)
    | none => do
      let value ← parseBound field term range
      .ok (value, if hasStep then field.max else value)

def checkBounds (bounds : Term) : Except String Term :=
  if bounds.lo < field.min ∨ field.max < bounds.hi ∨ bounds.hi < bounds.lo then
    .error (s!"{field.name} field {debugText (String.ofList term)} is out of range " ++
      s!"{field.min}-{field.max}")
  else .ok bounds

def parseTerm : Except String Term := do
  let (range, stepText) := (splitOnce '/' term).elim (term, none) fun (range, step) =>
    (range, some step)
  let step ← parseStep field stepText
  let (lo, hi) ← parseRange field term stepText.isSome range
  checkBounds field term ⟨lo, hi, step⟩

end Parsing

/-- The loop of a term, which ends when the fuel is one more than the values that are left. -/
def fill (term : Term) : Nat → Int → Nat → Except Failure Nat
  | 0, _, set => .ok set
  | fuel + 1, value, set =>
    if value ≤ term.hi then
      if Int64.maxValue.toInt < value + term.step then .error .overflow
      else fill term fuel (value + term.step) (set ||| 1 <<< value.toNat)
    else .ok set

def fillTerms (field : CronField) : List (List Char) → Nat → Except Failure Nat
  | [], set => .ok set
  | text :: rest, set => do
    let term ← (parseTerm field text).mapError .invalid
    let set ← fill term (term.hi - term.lo + 2).toNat term.lo set
    fillTerms field rest set

def parseCronField (spec : String) (field : CronField) : Except Failure Nat :=
  if spec = "" then .error (.invalid s!"empty {field.name} field")
  else fillTerms field (spec.toList.splitOn ',') 0

/-! ## What a field should mean -/

def IsRange (field : CronField) (hasStep : Bool) (range : List Char) (lo hi : Int) : Prop :=
  if range = ['*'] then lo = field.min ∧ hi = field.max
  else
    match splitOnce '-' range with
    | some (first, last) => number first = some lo ∧ number last = some hi
    | none => number range = some lo ∧ hi = if hasStep then field.max else lo

/-- A range within the bounds of the field, with an optional step. -/
def Accepts (field : CronField) (text : List Char) (term : Term) : Prop :=
  (field.min ≤ term.lo ∧ term.lo ≤ term.hi ∧ term.hi ≤ field.max) ∧
    match splitOnce '/' text with
    | some (range, step) =>
      (number step = some term.step ∧ 0 < term.step) ∧ IsRange field true range term.lo term.hi
    | none => term.step = 1 ∧ IsRange field false text term.lo term.hi

def Term.Covers (term : Term) (value : Nat) : Prop :=
  term.lo ≤ value ∧ value ≤ term.hi ∧ term.step ∣ value - term.lo

/-- The result of the terms, from the bits that are set already. -/
def Exact (field : CronField) (texts : List (List Char)) (set : Nat) : Except Failure Nat → Prop
  | .ok result => ∃ terms, List.Forall₂ (Accepts field) texts terms ∧
      ∀ value, result.testBit value = true ↔
        set.testBit value = true ∨ ∃ term ∈ terms, term.Covers value
  | .error (.invalid _) => ¬∃ terms, List.Forall₂ (Accepts field) texts terms
  | .error .overflow => False

/-- Up to the first invalid term, the step of each can be added to its first value. -/
def Safe (field : CronField) : List (List Char) → Prop
  | [] => True
  | text :: rest => ∀ term, Accepts field text term →
      term.lo + term.step ≤ Int64.maxValue.toInt ∧ Safe field rest

variable {field : CronField} {text range : List Char} {term : Term} {lo hi : Int}

/-! ## Terms -/

theorem orError_eq_ok_iff {message : String} {found : Option Int} {value : Int} :
    orError message found = .ok value ↔ found = some value := by
  cases found <;> simp [orError]

theorem parseBound_eq_ok_iff {bound : List Char} :
    parseBound field text bound = .ok lo ↔ number bound = some lo :=
  orError_eq_ok_iff

theorem parseStep_eq_ok_iff {stepText : List Char} {step : Int} :
    parseStep field (some stepText) = .ok step ↔ number stepText = some step ∧ 0 < step := by
  rw [parseStep, orError_eq_ok_iff, Option.filter_eq_some_iff, decide_eq_true_eq]

theorem parseRange_eq_ok_iff {hasStep : Bool} :
    parseRange field text hasStep range = .ok (lo, hi) ↔ IsRange field hasStep range lo hi := by
  unfold parseRange IsRange
  split
  · simp [eq_comm]
  · split
    · simp [bind_eq_ok_iff, parseBound_eq_ok_iff]
    · simp [bind_eq_ok_iff, parseBound_eq_ok_iff, @eq_comm _ hi]

theorem checkBounds_eq_ok_iff {bounds : Term} :
    checkBounds field text bounds = .ok term ↔
      (field.min ≤ term.lo ∧ term.lo ≤ term.hi ∧ term.hi ≤ field.max) ∧ bounds = term := by
  unfold checkBounds
  split
  · simp only [reduceCtorEq, false_iff]
    rintro ⟨within, rfl⟩
    omega
  · simp only [Except.ok.injEq, iff_and_self]
    rintro rfl
    omega

theorem parseTerm_eq_ok_iff : parseTerm field text = .ok term ↔ Accepts field text term := by
  unfold parseTerm Accepts
  simp only [bind_eq_ok_iff, Prod.exists, parseRange_eq_ok_iff, checkBounds_eq_ok_iff]
  cases splitOnce '/' text with
  | none =>
    constructor
    · rintro ⟨_, step, _, _, range, within, rfl⟩
      exact ⟨within, (Except.ok.inj step).symm, range⟩
    · rintro ⟨within, step, range⟩
      exact ⟨_, rfl, _, _, range, within, Term.ext rfl rfl step.symm⟩
  | some =>
    constructor
    · rintro ⟨_, step, _, _, range, within, rfl⟩
      exact ⟨within, parseStep_eq_ok_iff.mp step, range⟩
    · rintro ⟨within, step, range⟩
      exact ⟨_, parseStep_eq_ok_iff.mpr step, _, _, range, within, rfl⟩

/-! ## The loop -/

theorem covers_add_iff {value bit last step : Int} (positive : 0 < step) (below : value ≤ last) :
    bit = value ∨ value + step ≤ bit ∧ bit ≤ last ∧ step ∣ bit - (value + step) ↔
      value ≤ bit ∧ bit ≤ last ∧ step ∣ bit - value := by
  rw [← Int.sub_sub, dvd_sub_self_right]
  constructor
  · rintro (rfl | ⟨above, most, divides⟩)
    · simpa using below
    · exact ⟨by omega, most, divides⟩
  · rintro ⟨least, most, divides⟩
    by_cases same : bit = value
    · exact .inl same
    · have far := Int.le_of_dvd (by omega) divides
      exact .inr ⟨by omega, most, divides⟩

theorem fill_ok {fuel set : Nat} {value : Int} (positive : 0 < term.step) (within : term.hi < 64)
    (start : 0 ≤ value) (fits : value ≤ term.hi → value + term.step ≤ Int64.maxValue.toInt)
    (enough : (term.hi - value + 1).toNat < fuel) :
    ∃ result, fill term fuel value set = .ok result ∧ ∀ bit, result.testBit bit ↔
      set.testBit bit ∨
        value ≤ bit ∧ bit ≤ term.hi ∧ term.step ∣ bit - value := by
  induction fuel generalizing value set with
  | zero => omega
  | succ fuel ih =>
    unfold fill
    split
    · rename_i below
      have limit : Int64.maxValue.toInt = 9223372036854775807 := rfl
      rw [if_neg (by omega)]
      obtain ⟨result, filled, bits⟩ := @ih (set ||| 1 <<< value.toNat) (value + term.step)
        (by omega) (by omega) (by omega)
      refine ⟨result, filled, ?_⟩
      intro bit
      have own : value.toNat = bit ↔ (bit : Int) = value := by omega
      rw [bits, Nat.testBit_or, Nat.one_shiftLeft, Nat.testBit_two_pow, Bool.or_eq_true,
        decide_eq_true_eq, own, or_assoc]
      exact or_congr_right (covers_add_iff positive below)
    · refine ⟨set, rfl, fun bit => (or_iff_left ?_).symm⟩
      omega

theorem Accepts.positive (accepted : Accepts field text term) : 0 < term.step := by
  have steps := accepted.2
  split at steps
  · exact steps.1.2
  · omega

/-- The bits of one more term are set before the others. -/
theorem exact_cons {rest : List (List Char)} {set filled : Nat} {result : Except Failure Nat}
    (accepted : Accepts field text term) (unique : ∀ other, Accepts field text other → other = term)
    (bits : ∀ value, filled.testBit value ↔ set.testBit value ∨ term.Covers value) :
    Exact field (text :: rest) set result ↔ Exact field rest filled result := by
  match result with
  | .ok result =>
    constructor
    · rintro ⟨_, both, covers⟩
      obtain ⟨first, terms, others, remain, rfl⟩ := List.forall₂_cons_left_iff.mp both
      obtain rfl := unique first others
      refine ⟨terms, remain, fun value => ?_⟩
      simp [covers, bits, or_assoc]
    · rintro ⟨terms, remain, covers⟩
      refine ⟨term :: terms, .cons accepted remain, fun value => ?_⟩
      simp [covers, bits, or_assoc]
  | .error (.invalid _) =>
    apply not_congr
    constructor
    · rintro ⟨_, both⟩
      obtain ⟨_, terms, -, remain, -⟩ := List.forall₂_cons_left_iff.mp both
      exact ⟨terms, remain⟩
    · rintro ⟨terms, remain⟩
      exact ⟨term :: terms, .cons accepted remain⟩
  | .error .overflow => exact Iff.rfl

theorem exact_fillTerms_iff (texts : List (List Char)) (set : Nat) :
    Exact field texts set (fillTerms field texts set) ↔ Safe field texts := by
  induction texts generalizing set with
  | nil => simp [fillTerms, Exact, Safe]
  | cons text rest ih =>
    unfold fillTerms
    cases parsed : parseTerm field text with
    | error message =>
      have rejected : ∀ term, ¬Accepts field text term := by
        intro term accepted
        rw [← parseTerm_eq_ok_iff, parsed] at accepted
        cases accepted
      refine iff_of_true ?_ fun term accepted => absurd accepted (rejected term)
      rintro ⟨_, both⟩
      obtain ⟨first, _, accepted, -⟩ := List.forall₂_cons_left_iff.mp both
      exact rejected first accepted
    | ok term =>
      have accepted := parseTerm_eq_ok_iff.mp parsed
      have unique : ∀ other, Accepts field text other → other = term := by
        intro other accepts
        rw [← parseTerm_eq_ok_iff, parsed] at accepts
        exact (Except.ok.inj accepts).symm
      have bounds := field.bits
      obtain ⟨least, order, most⟩ := accepted.1
      have fuel : (term.hi - term.lo + 2).toNat = (term.hi - term.lo + 1).toNat + 1 := by omega
      by_cases fits : term.lo + term.step ≤ Int64.maxValue.toInt
      · obtain ⟨filled, ran, bits⟩ := @fill_ok term (term.hi - term.lo + 2).toNat set term.lo
          accepted.positive (by omega) (by omega) (fun _ => fits) (by omega)
        have safe : Safe field (text :: rest) ↔ Safe field rest :=
          ⟨fun safe => (safe term accepted).2, fun safe other accepts =>
            ⟨unique other accepts ▸ fits, safe⟩⟩
        rw [safe, ← ih filled, ← exact_cons accepted unique bits]
        simp [Except.mapError, bind, Except.bind, ran]
      · refine iff_of_false ?_ fun safe => fits (safe term accepted).1
        simp [Except.mapError, bind, Except.bind, fuel, fill, order, Int.not_le.mp fits, Exact]

/-- A field is read exactly when no step that is added leaves the range of `i64`. -/
theorem cronField_exact_iff (spec : String) (field : CronField) :
    Exact field (spec.toList.splitOn ',') 0 (parseCronField spec field) ↔
      Safe field (spec.toList.splitOn ',') := by
  unfold parseCronField
  split
  · rename_i empty
    subst empty
    rw [← exact_fillTerms_iff _ 0]
    exact Iff.rfl
  · exact exact_fillTerms_iff _ 0

/-- The step is added to the minute before the minute is compared with the end of the range. -/
theorem long_step_not_exact :
    ∃ field ∈ cronFields, ¬Exact field ("1/9223372036854775807".toList.splitOn ',') 0
      (parseCronField "1/9223372036854775807" field) := by
  refine ⟨⟨"minute", 0, 59, by decide⟩, .head _, ?_⟩
  have overflows : parseCronField "1/9223372036854775807" ⟨"minute", 0, 59, by decide⟩ =
      .error .overflow := by rfl
  rw [overflows]
  exact id

end Addons.CronFields
