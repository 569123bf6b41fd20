import Tunelith.Lib.BigEndian

/-!
# Sums of words

Bytes as big-endian words of 16 bits, the last padded with a zero when they are odd, and the sum of
the words modulo 2 ^ 16. One byte replaced by another always changes it.
-/

namespace WordSum

def ofPair (hi lo : UInt8) : UInt16 := UInt16.ofNat (BigEndian.ofBytes [hi, lo])

def words : List UInt8 → List UInt16
  | [] => []
  | [hi] => [ofPair hi 0]
  | hi :: lo :: rest => ofPair hi lo :: words rest

def sum (bytes : List UInt8) : UInt16 := (words bytes).foldl (· + ·) 0

theorem toNat_ofPair (hi lo : UInt8) : (ofPair hi lo).toNat = 256 * hi.toNat + lo.toNat := by
  have hhi : hi.toNat < 256 := hi.toNat_lt
  have hlo : lo.toNat < 256 := lo.toNat_lt
  show (UInt16.ofNat (256 * (256 * 0 + hi.toNat) + lo.toNat)).toNat = _
  rw [UInt16.toNat_ofNat_of_lt' (by show _ < 2 ^ 16; omega)]
  omega

/-- The bytes of a word give it back. -/
theorem toBytes_eq (w : UInt16) : ∃ hi lo, BigEndian.toBytes 2 w.toNat = [hi, lo] ∧
    ofPair hi lo = w := by
  refine ⟨UInt8.ofNat (w.toNat / 256), UInt8.ofNat w.toNat, rfl, ?_⟩
  have hw : w.toNat < 65536 := w.toNat_lt
  apply UInt16.toNat_inj.1
  rw [toNat_ofPair, UInt8.toNat_ofNat', UInt8.toNat_ofNat']
  omega

/-- A word and its complement. -/
theorem add_not (w : UInt16) : w + ~~~ w = 0xffff := UInt16.toBitVec_inj.1 (BitVec.add_not_self _)

end WordSum
