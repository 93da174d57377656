import Mathlib.Data.Int.Basic
import Mathlib.Data.List.TakeWhile

/-!
# Parts of texts and decimal numbers

Trimming of texts, as the standard library of Rust does it, texts in messages, and signed
64-bit numbers as decimal text: writing a number and reading it back, with the reader's
error cases: no digits, a character that is not a digit, and a value out of range.
-/

namespace Addons

/-- A text as `Debug` writes it. Above the control characters nothing is escaped here. -/
def debugText (raw : String) : String :=
  let escaped (character : Char) : List Char :=
    if character = '"' then ['\\', '"']
    else if character = '\\' then ['\\', '\\']
    else if character = '\n' then ['\\', 'n']
    else if character = '\r' then ['\\', 'r']
    else if character = '\t' then ['\\', 't']
    else if character = '\x00' then ['\\', '0']
    else if character.toNat < 32 ∨ (127 ≤ character.toNat ∧ character.toNat < 160) then
      ("\\u\x7b" ++ String.ofList (Nat.toDigits 16 character.toNat) ++ "\x7d").toList
    else [character]
  "\"" ++ String.ofList (raw.toList.flatMap escaped) ++ "\""

namespace TextParsing

/-- The characters with the property `White_Space`. -/
def isWhitespace (character : Char) : Bool :=
  let code := character.toNat
  (9 ≤ code ∧ code ≤ 13) ∨ code = 32 ∨ code = 133 ∨ code = 160 ∨ code = 5760 ∨
    (8192 ≤ code ∧ code ≤ 8202) ∨ code = 8232 ∨ code = 8233 ∨ code = 8239 ∨ code = 8287 ∨
    code = 12288

/-- The characters without the white space around them. -/
def trimChars (text : List Char) : List Char :=
  ((text.dropWhile isWhitespace).reverse.dropWhile isWhitespace).reverse

def trim (text : String) : String := String.ofList (trimChars text.toList)

def startsWith (start text : String) : Bool := start.toList.isPrefixOf text.toList

end TextParsing

end Addons

namespace Addons.DecimalText

open Nat

/-- The sign and the digits of a number's text. -/
def splitSign : List Char → Bool × List Char
  | '-' :: digits => (true, digits)
  | '+' :: digits => (false, digits)
  | digits => (false, digits)

def parseDigits (digits : List Char) : Option Nat :=
  if digits = [] then none
  else if digits.all Char.isDigit then some (Nat.ofDigitChars 10 digits 0)
  else none

def parseI64 (text : String) : Option Int64 := do
  let (negative, digits) := splitSign text.toList
  let magnitude ← parseDigits digits
  let value : Int := if negative then -magnitude else magnitude
  if Int64.minValue.toInt ≤ value ∧ value ≤ Int64.maxValue.toInt then
    some (Int64.ofInt value)
  else none

def formatI64 (number : Int64) : String :=
  toString number.toInt

/-- The text of a number, filled up with zeros on the left. -/
def zeroPad (width number : Nat) : String :=
  String.ofList (List.leftpad width '0' (Nat.toDigits 10 number))

variable {number : Nat} {character : Char}

theorem isDigit_of_mem_decimal (member : character ∈ Nat.toDigits 10 number) : character.isDigit :=
  isDigit_of_mem_toDigits (by omega) (by omega) member

theorem notMem_decimal (other : character.isDigit = false) :
    character ∉ Nat.toDigits 10 number := by
  intro member
  simp [isDigit_of_mem_decimal member] at other

theorem parseDigits_decimal (number : Nat) :
    parseDigits (Nat.toDigits 10 number) = some number := by
  have allDigits : (Nat.toDigits 10 number).all Char.isDigit := by
    rw [List.all_eq_true]
    intro _ member
    exact isDigit_of_mem_decimal member
  unfold parseDigits
  rw [if_neg toDigits_ne_nil, if_pos allDigits, ofDigitChars_ten_toDigits]

theorem splitSign_decimal (number : Nat) :
    splitSign (Nat.toDigits 10 number) = (false, Nat.toDigits 10 number) := by
  have notMinus : '-' ∉ Nat.toDigits 10 number := notMem_decimal rfl
  have notPlus : '+' ∉ Nat.toDigits 10 number := notMem_decimal rfl
  cases digitsEq : Nat.toDigits 10 number with
  | nil => rfl
  | cons first =>
    unfold splitSign
    split
    · simp_all
    · simp_all
    · rfl

theorem parseI64_of_digits {text : String} {negative : Bool} {digits : List Char} {magnitude : Nat}
    {number : Int64} (signEq : splitSign text.toList = (negative, digits))
    (digitsEq : parseDigits digits = some magnitude)
    (valueEq : number.toInt = if negative then -(magnitude : Int) else magnitude) :
    parseI64 text = some number := by
  unfold parseI64
  simp only [signEq, digitsEq, Option.bind_eq_bind, Option.bind_some, ← valueEq]
  rw [if_pos ⟨number.minValue_le_toInt, number.toInt_le⟩, Int64.ofInt_toInt]

theorem parseI64_formatI64 (number : Int64) : parseI64 (formatI64 number) = some number := by
  cases valueEq : number.toInt with
  | ofNat magnitude =>
    have text : (formatI64 number).toList = Nat.toDigits 10 magnitude := by
      rw [formatI64, valueEq, ← toList_repr]
      rfl
    have signEq : splitSign (formatI64 number).toList = (false, Nat.toDigits 10 magnitude) := by
      rw [text, splitSign_decimal]
    apply parseI64_of_digits signEq (parseDigits_decimal magnitude)
    rw [valueEq]
    rfl
  | negSucc magnitude =>
    have text : (formatI64 number).toList = '-' :: Nat.toDigits 10 (magnitude + 1) := by
      rw [formatI64, valueEq, ← toList_repr]
      change ("-" ++ (magnitude + 1).repr).toList = _
      simp
    have signEq : splitSign (formatI64 number).toList =
        (true, Nat.toDigits 10 (magnitude + 1)) := by
      rw [text]
      rfl
    apply parseI64_of_digits signEq (parseDigits_decimal (magnitude + 1))
    rw [valueEq]
    rfl

theorem isDigit_of_mem_zeroPad {width : Nat} (member : character ∈ (zeroPad width number).toList) :
    character.isDigit := by
  simp only [zeroPad, String.toList_ofList, List.leftpad, List.mem_append,
    List.mem_replicate] at member
  rcases member with ⟨_, rfl⟩ | member
  · rfl
  · exact isDigit_of_mem_decimal member

theorem ofDigitChars_zeroPad (width number : Nat) :
    Nat.ofDigitChars 10 (zeroPad width number).toList 0 = number := by
  have zeros : ∀ count, Nat.ofDigitChars 10 (List.replicate count '0') 0 = 0 := by
    intro count
    induction count with
    | zero => rfl
    | succ _ ih => rw [List.replicate_succ, ofDigitChars_cons]; exact ih
  rw [zeroPad, String.toList_ofList, List.leftpad, ofDigitChars_append, zeros,
    ofDigitChars_ten_toDigits]

theorem zeroPad_injective (width : Nat) : Function.Injective (zeroPad width) := by
  intro first _ same
  rw [← ofDigitChars_zeroPad width first, same, ofDigitChars_zeroPad]

theorem digit_bounds (digit : character.isDigit) :
    '0'.toNat ≤ character.toNat ∧ character.toNat ≤ '0'.toNat + 9 := by
  have bounds : 48 ≤ character.val.toNat ∧ character.val.toNat ≤ 57 := by
    simpa [Char.isDigit, UInt32.le_iff_toNat_le] using digit
  exact bounds

variable {small large : List Char}

theorem ofDigitChars_lt_of_lt (sameLength : small.length = large.length)
    (digits : ∀ character ∈ small, character.isDigit) {low high : Nat} (below : low < high) :
    Nat.ofDigitChars 10 small low < Nat.ofDigitChars 10 large high := by
  induction small generalizing large low high with
  | nil =>
    rw [List.eq_nil_of_length_eq_zero sameLength.symm]
    exact below
  | cons first _ ih =>
    obtain ⟨_, _, rfl⟩ := List.exists_cons_of_length_eq_add_one sameLength.symm
    rw [ofDigitChars_cons, ofDigitChars_cons]
    have bounds := digit_bounds (digits first List.mem_cons_self)
    apply ih (succ.inj sameLength)
    · intro character member
      exact digits character (List.mem_cons_of_mem _ member)
    · omega

theorem ofDigitChars_lt_of_append_lt {rest : List Char} (sameLength : small.length = large.length)
    (digits : ∀ character ∈ small, character.isDigit)
    (ordered : small ++ rest < large ++ rest) (front : Nat) :
    Nat.ofDigitChars 10 small front < Nat.ofDigitChars 10 large front := by
  induction small generalizing large front with
  | nil =>
    rw [List.eq_nil_of_length_eq_zero sameLength.symm] at ordered
    exact absurd ordered (List.lt_irrefl _)
  | cons first small ih =>
    obtain ⟨second, _, rfl⟩ := List.exists_cons_of_length_eq_add_one sameLength.symm
    have others : ∀ character ∈ small, character.isDigit := by
      intro character member
      exact digits character (List.mem_cons_of_mem _ member)
    rw [ofDigitChars_cons, ofDigitChars_cons]
    rcases List.cons_lt_cons_iff.mp ordered with less | ⟨rfl, less⟩
    · have bounds := digit_bounds (digits first List.mem_cons_self)
      have smaller : first.toNat < second.toNat := less
      exact ofDigitChars_lt_of_lt (succ.inj sameLength) others (by omega)
    · exact ih (succ.inj sameLength) others less _

theorem lt_of_append_lt {common first second : List Char}
    (ordered : common ++ first < common ++ second) : first < second := by
  induction common with
  | nil => exact ordered
  | cons character _ ih =>
    rcases List.cons_lt_cons_iff.mp ordered with less | ⟨-, rest⟩
    · exact absurd less (Char.lt_irrefl character)
    · exact ih rest

end Addons.DecimalText
