import Mathlib.Data.List.Basic

/-!
# Case escaping of Go module paths and versions

An upper-case letter is written as an exclamation mark and its lower-case form.
-/

namespace Addons.GoEscapes

open List Option

def isAscii (character : Char) : Bool :=
  character.toNat < 128

def escapeChar (character : Char) : List Char :=
  if character.isUpper then ['!', character.toLower] else [character]

def escapeString (text : List Char) : Option (List Char) :=
  if text.any fun character => character = '!' || !isAscii character then none
  else if !text.any Char.isUpper then some text
  else some (text.flatMap escapeChar)

/-- The loop of `unescape_string`; `bang` says that the last character was an exclamation mark. -/
def unescapeFrom : Bool → List Char → Option (List Char)
  | bang, [] => if bang then none else some []
  | bang, character :: rest =>
    if !isAscii character then none
    else if bang then
      if !character.isLower then none
      else (unescapeFrom false rest).map (character.toUpper :: ·)
    else if character = '!' then unescapeFrom true rest
    else if character.isUpper then none
    else (unescapeFrom false rest).map (character :: ·)

def unescapeString (escaped : List Char) : Option (List Char) :=
  unescapeFrom false escaped

section Checks

-- Nothing below depends on what the two checks accept.
variable (checkPath checkPathElement : List Char → Bool)

def escapePath (path : List Char) : Option (List Char) :=
  if checkPath path then escapeString path else none

def escapeVersion (version : List Char) : Option (List Char) :=
  if !checkPathElement version || version.contains '!' then none else escapeString version

def unescapeVersion (escaped : List Char) : Option (List Char) :=
  (unescapeString escaped).filter checkPathElement

end Checks

/-! ## Letters -/

def Lowered (upper lower : Char) : Prop :=
  (upper.toLower = lower ∧ lower.toUpper = upper) ∧ upper.isUpper = true ∧ lower.isLower = true ∧
    isAscii upper = true ∧ isAscii lower = true ∧ upper ≠ '!' ∧ lower.toLower = lower

instance (upper lower : Char) : Decidable (Lowered upper lower) :=
  inferInstanceAs (Decidable (_ ∧ _))

theorem lowered_letter :
    ∀ letter < 26, Lowered (Char.ofNat (65 + letter)) (Char.ofNat (97 + letter)) := by
  decide

variable {character : Char} {escaped text : List Char}

theorem lowered_of_isUpper (upper : character.isUpper) : Lowered character character.toLower := by
  have bounds : 65 ≤ character.toNat ∧ character.toNat ≤ 90 := of_decide_eq_true upper
  have lowered := lowered_letter (character.toNat - 65) (by omega)
  rw [Nat.add_sub_cancel' bounds.1, Char.ofNat_toNat] at lowered
  rwa [lowered.1.1]

theorem lowered_of_isLower (lower : character.isLower) : Lowered character.toUpper character := by
  obtain ⟨least, most⟩ := Bool.and_eq_true_iff.mp lower
  have bounds : 97 ≤ character.toNat ∧ character.toNat ≤ 122 :=
    ⟨of_decide_eq_true least, of_decide_eq_true most⟩
  have lowered := lowered_letter (character.toNat - 97) (by omega)
  rw [Nat.add_sub_cancel' bounds.1, Char.ofNat_toNat] at lowered
  rwa [lowered.1.2]

/-! ## The two loops -/

def Plain (text : List Char) : Prop :=
  ∀ character ∈ text, character ≠ '!' ∧ isAscii character = true

theorem flatMap_escapeChar (lower : text.any Char.isUpper = false) :
    text.flatMap escapeChar = text := by
  induction text with
  | nil => rfl
  | cons first rest ih =>
    simp only [any_cons, Bool.or_eq_false_iff] at lower
    simp [escapeChar, lower.1, ih lower.2]

theorem escapeString_eq_some_iff {text escaped : List Char} :
    escapeString text = some escaped ↔ Plain text ∧ text.flatMap escapeChar = escaped := by
  have copies : escapeString text =
      if text.any fun character => character = '!' || !isAscii character then none
      else some (text.flatMap escapeChar) := by
    unfold escapeString
    cases upper : text.any Char.isUpper with
    | true => simp
    | false => simp [flatMap_escapeChar upper]
  simp [copies, Plain]

theorem unescapeFrom_escaped (plain : Plain text) :
    unescapeFrom false (text.flatMap escapeChar) = some text := by
  induction text with
  | nil => rfl
  | cons first rest ih =>
    obtain ⟨other, ascii⟩ := plain first mem_cons_self
    have remains := ih fun character member => plain character (mem_cons_of_mem _ member)
    rw [flatMap_cons, escapeChar]
    by_cases upper : first.isUpper
    · obtain ⟨⟨-, toUpper⟩, -, lower, -, lowerAscii, -⟩ := lowered_of_isUpper upper
      simp [unescapeFrom, upper, lower, lowerAscii, remains, toUpper,
        show isAscii '!' = true from rfl]
    · simp [unescapeFrom, upper, other, ascii, remains]

theorem escaped_of_unescapeFrom {bang : Bool} (unescaped : unescapeFrom bang escaped = some text) :
    Plain text ∧ text.flatMap escapeChar = if bang then '!' :: escaped else escaped := by
  induction escaped generalizing bang text with
  | nil =>
    cases bang with
    | true => simp [unescapeFrom] at unescaped
    | false => simp_all [unescapeFrom, Plain]
  | cons first rest ih =>
    unfold unescapeFrom at unescaped
    split at unescaped
    · cases unescaped
    · rename_i ascii
      cases bang with
      | true =>
        simp only [if_true, ite_none_left_eq_some, map_eq_some_iff] at unescaped
        obtain ⟨lower, remaining, found, rfl⟩ := unescaped
        obtain ⟨plain, same⟩ := ih found
        obtain ⟨⟨toLower, -⟩, upper, -, upperAscii, -, other, -⟩ :=
          lowered_of_isLower (by simpa using lower)
        refine ⟨forall_mem_cons.mpr ⟨⟨other, upperAscii⟩, plain⟩, ?_⟩
        simp [escapeChar, upper, toLower, same]
      | false =>
        simp only [Bool.false_eq_true, if_false] at unescaped
        split at unescaped
        · rename_i mark
          simpa [mark] using ih unescaped
        · rename_i other
          simp only [ite_none_left_eq_some, map_eq_some_iff] at unescaped
          obtain ⟨upper, _, found, rfl⟩ := unescaped
          obtain ⟨plain, same⟩ := ih found
          refine ⟨forall_mem_cons.mpr ⟨⟨other, by simpa using ascii⟩, plain⟩, ?_⟩
          simp [escapeChar, upper, same]

theorem unescapeString_iff :
    unescapeString escaped = some text ↔ escapeString text = some escaped := by
  rw [escapeString_eq_some_iff]
  constructor
  · exact escaped_of_unescapeFrom
  · rintro ⟨plain, rfl⟩
    exact unescapeFrom_escaped plain

/-- No escaped text has an upper-case letter left. -/
theorem map_toLower_escaped (text : List Char) :
    (text.flatMap escapeChar).map Char.toLower = text.flatMap escapeChar := by
  induction text with
  | nil => rfl
  | cons first rest ih =>
    rw [flatMap_cons, map_append, ih, escapeChar]
    by_cases upper : first.isUpper
    · simp [upper, (lowered_of_isUpper upper).2.2.2.2.2.2, show Char.toLower '!' = '!' from rfl]
    · have same : first.toLower = first := dif_neg fun bounds => upper (decide_eq_true bounds)
      simp [upper, same]

theorem eq_of_folded {first second firstEscaped secondEscaped : List Char}
    (one : escapeString first = some firstEscaped)
    (other : escapeString second = some secondEscaped)
    (same : firstEscaped.map Char.toLower = secondEscaped.map Char.toLower) : first = second := by
  obtain ⟨-, rfl⟩ := escapeString_eq_some_iff.mp one
  obtain ⟨-, rfl⟩ := escapeString_eq_some_iff.mp other
  rw [map_toLower_escaped, map_toLower_escaped] at same
  rw [← same] at other
  exact some.inj ((unescapeString_iff.mpr one).symm.trans (unescapeString_iff.mpr other))

/-- Escaping and unescaping are inverse to each other, and no two originals have escaped forms that
fold to the same text. -/
theorem escapes_bijective (checkPath checkPathElement : List Char → Bool) :
    (∀ path escaped, escapePath checkPath path = some escaped ↔
      checkPath path = true ∧ unescapeString escaped = some path) ∧
    (∀ escaped text, unescapeString escaped = some text → escapeString text = some escaped) ∧
    (∀ version escaped, escapeVersion checkPathElement version = some escaped ↔
      unescapeVersion checkPathElement escaped = some version) ∧
    (∀ first second firstEscaped secondEscaped,
      (escapePath checkPath first = some firstEscaped ∧
          escapePath checkPath second = some secondEscaped ∨
        escapeVersion checkPathElement first = some firstEscaped ∧
          escapeVersion checkPathElement second = some secondEscaped) →
      first ≠ second → firstEscaped.map Char.toLower ≠ secondEscaped.map Char.toLower) := by
  have ofPath : ∀ {path escaped}, escapePath checkPath path = some escaped ↔
      checkPath path = true ∧ escapeString path = some escaped := ite_none_right_eq_some
  have ofVersion : ∀ {version escaped}, escapeVersion checkPathElement version = some escaped →
      escapeString version = some escaped := fun accepted =>
    (ite_none_left_eq_some.mp accepted).2
  refine ⟨fun _ _ => by rw [ofPath, unescapeString_iff], fun _ _ => unescapeString_iff.mp, ?_, ?_⟩
  · intro _ _
    unfold escapeVersion unescapeVersion
    rw [ite_none_left_eq_some, filter_eq_some_iff, unescapeString_iff]
    simp only [Bool.or_eq_true, Bool.not_eq_true', not_or, Bool.not_eq_false]
    constructor
    · rintro ⟨⟨checked, -⟩, escapes⟩
      exact ⟨escapes, checked⟩
    · rintro ⟨escapes, checked⟩
      obtain ⟨plain, -⟩ := escapeString_eq_some_iff.mp escapes
      exact ⟨⟨checked, fun marked => (plain '!' (by simpa using marked)).1 rfl⟩, escapes⟩
  · rintro _ _ _ _ (⟨one, other⟩ | ⟨one, other⟩) differs same
    · exact differs (eq_of_folded (ofPath.mp one).2 (ofPath.mp other).2 same)
    · exact differs (eq_of_folded (ofVersion one) (ofVersion other) same)

theorem escapes_bijective_beta :
    unescapeVersion (fun _ => true) "!beta".toList = some "Beta".toList :=
  ((escapes_bijective (fun _ => true) fun _ => true).2.2.1 _ _).mp rfl

end Addons.GoEscapes
