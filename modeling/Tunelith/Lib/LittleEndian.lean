import Tunelith.Lib.BigEndian

/-!
# Little-endian numbers

A number as so many bytes, the least significant first, and back.
-/

namespace LittleEndian

/-- The number the bytes stand for. -/
def ofBytes (bytes : List UInt8) : Nat := BigEndian.ofBytes bytes.reverse

/-- The last `k` bytes of `n`. -/
def toBytes (k n : Nat) : List UInt8 := (BigEndian.toBytes k n).reverse

@[simp] theorem length_toBytes (k n : Nat) : (toBytes k n).length = k := by
  rw [toBytes, List.length_reverse, BigEndian.length_toBytes]

theorem ofBytes_toBytes {k n : Nat} (h : n < 256 ^ k) : ofBytes (toBytes k n) = n := by
  rw [ofBytes, toBytes, List.reverse_reverse, BigEndian.ofBytes_toBytes h]

theorem ofBytes_cons (b : UInt8) (bytes : List UInt8) :
    ofBytes (b :: bytes) = 256 * ofBytes bytes + b.toNat := by
  rw [ofBytes, List.reverse_cons, BigEndian.ofBytes_concat]
  rfl

theorem ofBytes_lt (bytes : List UInt8) : ofBytes bytes < 256 ^ bytes.length := by
  induction bytes with
  | nil => exact Nat.one_pos
  | cons b bytes ih =>
    have hb := b.toNat_lt
    rw [ofBytes_cons, List.length_cons, Nat.pow_succ]
    omega

end LittleEndian
