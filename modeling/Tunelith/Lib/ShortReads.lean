import Mathlib.Data.List.Basic

/-!
# Reading bytes that come in short reads

A reader has bytes to give, and gives as many of them at a time as it likes, one at least while
there is one. What is read exactly does not depend on how many came at a time.
-/

/-- The bytes a reader is still to give, and one less than how many it gives at most in each of the
reads to come. -/
structure Reader where
  rest : List UInt8
  sizes : Nat → Nat

namespace Reader

/-- Reads `n` bytes at most. -/
def read (r : Reader) (n : Nat) : List UInt8 × Reader :=
  let k := min n (r.sizes 0 + 1)
  (r.rest.take k, ⟨r.rest.drop k, fun i => r.sizes (i + 1)⟩)

/-- A read takes what comes next, and is short of nothing only at the end. -/
theorem read_eq (r : Reader) (n : Nat) : ∃ k, k ≤ n ∧ k ≤ r.rest.length ∧
    (k = 0 → n = 0 ∨ r.rest = []) ∧
    (r.read n).1 = r.rest.take k ∧ (r.read n).2.rest = r.rest.drop k := by
  have hmin : min (min n (r.sizes 0 + 1)) r.rest.length ≤ r.rest.length := Nat.min_le_right _ _
  refine ⟨min (min n (r.sizes 0 + 1)) r.rest.length, by omega, hmin, fun h => ?_, ?_, ?_⟩
  · rw [← List.length_eq_zero_iff]
    omega
  · exact List.take_eq_take_min
  · exact List.drop_eq_drop_min

/-- Reads `n` bytes, or finds the end before. -/
def readExact (r : Reader) (n : Nat) : Option (List UInt8) × Reader :=
  if _hn : n = 0 then (some [], r)
  else
    let s := r.read n
    if _hs : s.1 = [] then (none, s.2)
    else
      let t := readExact s.2 (n - s.1.length)
      (t.1.map (s.1 ++ ·), t.2)
termination_by n
decreasing_by
  have : 0 < (r.read n).1.length := List.length_pos_iff.2 _hs
  omega

/-- However many bytes come at a time, the next `n` are read if there are as many. -/
theorem readExact_eq (r : Reader) (n : Nat) :
    (r.readExact n).1 = (if n ≤ r.rest.length then some (r.rest.take n) else none) ∧
      (r.readExact n).2.rest = r.rest.drop n := by
  fun_induction readExact r n with
  | case1 r => simp
  | case2 r n hn s hs =>
    obtain ⟨k, hkn, hk, hzero, htake, hdrop⟩ := read_eq r n
    have hnil : r.rest = [] := by
      have hs' : r.rest.take k = [] := htake.symm.trans hs
      rcases List.take_eq_nil_iff.1 hs' with h | h
      · exact (hzero h).resolve_left hn
      · exact h
    refine ⟨?_, hdrop.trans ?_⟩
    · rw [hnil, if_neg]
      simpa using hn
    · rw [hnil, List.drop_nil, List.drop_nil]
  | case3 r n hn s hs t ih =>
    obtain ⟨k, hkn, hk, hzero, htake, hdrop⟩ := read_eq r n
    have hs₁ : s.1 = r.rest.take k := htake
    have hs₂ : s.2.rest = r.rest.drop k := hdrop
    have hlen : s.1.length = k := by rw [hs₁, List.length_take_of_le hk]
    obtain ⟨ih₁, ih₂⟩ := ih
    change t.1 = _ at ih₁
    change t.2.rest = _ at ih₂
    rw [hs₂, hlen, List.length_drop] at ih₁
    rw [hs₂, hlen, List.drop_drop, Nat.add_sub_cancel' hkn] at ih₂
    refine ⟨?_, ih₂⟩
    change t.1.map (s.1 ++ ·) = _
    rw [ih₁, hs₁]
    by_cases hn' : n ≤ r.rest.length
    · rw [if_pos (by omega), if_pos hn', Option.map_some, ← List.take_add, Nat.add_sub_cancel' hkn]
    · rw [if_neg (by omega), if_neg hn', Option.map_none]

end Reader
