import Mathlib.Data.List.Basic
import Mathlib.Tactic.Ring

/-!
# Big-endian numbers

A number as so many bytes, the most significant first, and back.
-/

namespace BigEndian

/-- The number the bytes stand for. -/
def ofBytes (bytes : List UInt8) : Nat := bytes.foldl (fun n b => 256 * n + b.toNat) 0

/-- The last `k` bytes of `n`. -/
def toBytes : Nat → Nat → List UInt8
  | 0, _ => []
  | k + 1, n => toBytes k (n / 256) ++ [UInt8.ofNat n]

@[simp] theorem length_toBytes (k n : Nat) : (toBytes k n).length = k := by
  induction k generalizing n with
  | zero => rfl
  | succ k ih => rw [toBytes, List.length_append, ih, List.length_singleton]

@[simp] theorem ofBytes_nil : ofBytes [] = 0 := rfl

theorem ofBytes_concat (bytes : List UInt8) (b : UInt8) :
    ofBytes (bytes ++ [b]) = 256 * ofBytes bytes + b.toNat := by
  rw [ofBytes, List.foldl_concat]
  rfl

theorem ofBytes_toBytes {k n : Nat} (h : n < 256 ^ k) : ofBytes (toBytes k n) = n := by
  induction k generalizing n with
  | zero =>
    rw [Nat.pow_zero] at h
    exact (Nat.lt_one_iff.1 h).symm
  | succ k ih =>
    have hdiv : n / 256 < 256 ^ k := by
      rw [Nat.div_lt_iff_lt_mul (by decide)]
      rwa [Nat.pow_succ] at h
    rw [toBytes, ofBytes_concat, ih hdiv, UInt8.toNat_ofNat']
    exact Nat.div_add_mod n 256

end BigEndian
