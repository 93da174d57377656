import Mathlib.Data.Nat.Basic
import Mathlib.Tactic.Ring

/-!
# Byte slices and fixed-width big-endian words

Positional reading and writing of natural numbers as byte lists.
-/

namespace Addons.ByteOrder

open List

def slice (bytes : List UInt8) (start count : Nat) : List UInt8 :=
  (bytes.drop start).take count

def fromBeBytes (bytes : List UInt8) : Nat :=
  bytes.foldl (fun value byte => value * 256 + byte.toNat) 0

def toBeBytes : Nat → Nat → List UInt8
  | 0, _ => []
  | width + 1, value => toBeBytes width (value / 256) ++ [UInt8.ofNat value]

@[simp]
theorem toBeBytes_length (width value : Nat) : (toBeBytes width value).length = width := by
  induction width generalizing value with
  | zero => rfl
  | succ _ ih => simp [toBeBytes, ih]

theorem fromBeBytes_toBeBytes (width value : Nat) :
    fromBeBytes (toBeBytes width value) = value % 256 ^ width := by
  induction width generalizing value with
  | zero => simp [toBeBytes, fromBeBytes, Nat.mod_one]
  | succ width ih =>
    have split : fromBeBytes (toBeBytes (width + 1) value) =
        fromBeBytes (toBeBytes width (value / 256)) * 256 + value % 256 := by
      simp [toBeBytes, fromBeBytes]
    rw [split, ih, pow_succ', Nat.mod_mul, mul_comm, add_comm]

theorem fromBeBytes_toBeBytes_of_lt {width value : Nat} (fits : value < 256 ^ width) :
    fromBeBytes (toBeBytes width value) = value := by
  rw [fromBeBytes_toBeBytes, Nat.mod_eq_of_lt fits]

variable {start count : Nat}

theorem slice_append_right {first rest : List UInt8} (beyond : first.length ≤ start) :
    slice (first ++ rest) start count = slice rest (start - first.length) count := by
  simp only [slice, drop_append, drop_eq_nil_of_le beyond, nil_append]

variable {bytes : List UInt8}

theorem slice_length (inside : start + count ≤ bytes.length) :
    (slice bytes start count).length = count := by
  simp only [slice, length_take, length_drop]
  omega

theorem slice_take {limit : Nat} (inside : start + count ≤ limit) :
    slice (bytes.take limit) start count = slice bytes start count := by
  simp only [slice, drop_take, take_take]
  congr 1
  omega

end Addons.ByteOrder
