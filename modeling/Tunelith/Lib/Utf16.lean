import Mathlib.Data.List.Basic

/-!
# UTF-16

Characters as units of 16 bits, a pair of surrogates for those that do not fit one, and text that
ends at the first unit that is 0.

* `decode_encode` — what is encoded is read back.
* `read_encode` — terminated, a text is read up to the first NUL of it.
-/

namespace Utf16

def highSurrogate (code : Nat) : UInt16 := .ofNat (0xd800 + code / 0x400)

def lowSurrogate (code : Nat) : UInt16 := .ofNat (0xdc00 + code % 0x400)

def encodeChar (c : Char) : List UInt16 :=
  if c.toNat < 0x10000 then [.ofNat c.toNat]
  else [highSurrogate (c.toNat - 0x10000), lowSurrogate (c.toNat - 0x10000)]

def encode (s : List Char) : List UInt16 := s.flatMap encodeChar

def isHigh (u : UInt16) : Bool := 0xd800 ≤ u.toNat && u.toNat < 0xdc00

def isLow (u : UInt16) : Bool := 0xdc00 ≤ u.toNat && u.toNat < 0xe000

/-- The text of the units, if no surrogate goes without its other. -/
def decode : List UInt16 → Option (List Char)
  | [] => some []
  | [u] => if isHigh u || isLow u then none else some [Char.ofNat u.toNat]
  | u :: v :: rest =>
    if isHigh u then
      if isLow v then
        let code := 0x10000 + (u.toNat - 0xd800) * 0x400 + (v.toNat - 0xdc00)
        (decode rest).map (Char.ofNat code :: ·)
      else none
    else if isLow u then none
    else (decode (v :: rest)).map (Char.ofNat u.toNat :: ·)

/-- What is read of units from the first one on, if their end is found. -/
def terminated (units : List UInt16) : Option (List UInt16) :=
  if 0 ∈ units then some (units.takeWhile (· ≠ 0)) else none

def read (units : List UInt16) : Option (List Char) := (terminated units).bind decode

/-! ## Reading back -/

theorem decode_unit {u : UInt16} (hhigh : isHigh u = false) (hlow : isLow u = false)
    (rest : List UInt16) : decode (u :: rest) = (decode rest).map (Char.ofNat u.toNat :: ·) := by
  cases rest with
  | nil => simp [decode, hhigh, hlow]
  | cons v rest => rw [decode, if_neg (by simp [hhigh]), if_neg (by simp [hlow])]

theorem decode_pair {u v : UInt16} (hhigh : isHigh u = true) (hlow : isLow v = true)
    (rest : List UInt16) : decode (u :: v :: rest) = (decode rest).map
      (Char.ofNat (0x10000 + (u.toNat - 0xd800) * 0x400 + (v.toNat - 0xdc00)) :: ·) := by
  rw [decode, if_pos hhigh, if_pos hlow]

/-- A character is no surrogate, and at most 0x10ffff. -/
theorem toNat_bounds (c : Char) : c.toNat < 0xd800 ∨ 0xdfff < c.toNat ∧ c.toNat < 0x110000 :=
  c.valid

theorem toNat_highSurrogate {code : Nat} (h : code < 0x100000) :
    (highSurrogate code).toNat = 0xd800 + code / 0x400 :=
  UInt16.toNat_ofNat_of_lt' (by change _ < 0x10000; omega)

theorem toNat_lowSurrogate (code : Nat) : (lowSurrogate code).toNat = 0xdc00 + code % 0x400 :=
  UInt16.toNat_ofNat_of_lt' (by change _ < 0x10000; omega)

theorem isHigh_highSurrogate {code : Nat} (h : code < 0x100000) :
    isHigh (highSurrogate code) = true := by
  simp only [isHigh, toNat_highSurrogate h, Bool.and_eq_true, decide_eq_true_eq]
  omega

theorem isLow_lowSurrogate (code : Nat) : isLow (lowSurrogate code) = true := by
  simp only [isLow, toNat_lowSurrogate, Bool.and_eq_true, decide_eq_true_eq]
  omega

theorem decode_encodeChar (c : Char) (rest : List UInt16) :
    decode (encodeChar c ++ rest) = (decode rest).map (c :: ·) := by
  have hc := toNat_bounds c
  unfold encodeChar
  split
  case isTrue hlt =>
    have hu : (UInt16.ofNat c.toNat).toNat = c.toNat := UInt16.toNat_ofNat_of_lt' hlt
    have hhigh : isHigh (UInt16.ofNat c.toNat) = false := by
      simp only [isHigh, hu, Bool.and_eq_false_imp, decide_eq_true_eq, decide_eq_false_iff_not]
      omega
    have hlow : isLow (UInt16.ofNat c.toNat) = false := by
      simp only [isLow, hu, Bool.and_eq_false_imp, decide_eq_true_eq, decide_eq_false_iff_not]
      omega
    rw [List.singleton_append, decode_unit hhigh hlow, hu, Char.ofNat_toNat]
  case isFalse hge =>
    let code := c.toNat - 0x10000
    have hlt : code < 0x100000 := by omega
    have hcode : 0x10000 + (0xd800 + code / 0x400 - 0xd800) * 0x400 +
        (0xdc00 + code % 0x400 - 0xdc00) = c.toNat := by omega
    refine (decode_pair (isHigh_highSurrogate hlt) (isLow_lowSurrogate code) rest).trans ?_
    rw [toNat_highSurrogate hlt, toNat_lowSurrogate, hcode, Char.ofNat_toNat]

theorem decode_encode (s : List Char) : decode (encode s) = some s := by
  induction s with
  | nil => rfl
  | cons c s ih =>
    rw [encode, List.flatMap_cons, decode_encodeChar]
    exact congrArg (Option.map (c :: ·)) ih

/-! ## The end -/

/-- A unit of a character is 0 for NUL alone. -/
theorem eq_nul_of_zero_mem {c : Char} (h : 0 ∈ encodeChar c) : c = '\x00' := by
  have hc := toNat_bounds c
  unfold encodeChar at h
  split at h
  case isTrue hlt =>
    have h0 := congrArg UInt16.toNat (List.mem_singleton.1 h)
    rw [UInt16.toNat_ofNat_of_lt' hlt] at h0
    exact Char.toNat_inj.1 h0.symm
  case isFalse hge =>
    rcases List.mem_pair.1 h with h | h
    · have h0 := congrArg UInt16.toNat h
      rw [toNat_highSurrogate (by omega)] at h0
      exact absurd h0 (by change 0 ≠ _; omega)
    · have h0 := congrArg UInt16.toNat h
      rw [toNat_lowSurrogate] at h0
      exact absurd h0 (by change 0 ≠ _; omega)

theorem takeWhile_encode (s : List Char) (rest : List UInt16) :
    (encode s ++ 0 :: rest).takeWhile (· ≠ 0) = encode (s.takeWhile (· ≠ '\x00')) := by
  induction s with
  | nil => rfl
  | cons c s ih =>
    by_cases hc : c = '\x00'
    · subst hc
      rfl
    · have hunits : ∀ u ∈ encodeChar c, decide (u ≠ 0) = true := by
        intro u hu
        refine decide_eq_true fun h0 => hc ?_
        exact eq_nul_of_zero_mem (h0 ▸ hu)
      have htake : (c :: s).takeWhile (· ≠ '\x00') = c :: s.takeWhile (· ≠ '\x00') :=
        List.takeWhile_cons_of_pos (decide_eq_true hc)
      rw [htake, encode, List.flatMap_cons, List.append_assoc, List.takeWhile_append_of_pos hunits]
      exact congrArg (encodeChar c ++ ·) ih

theorem read_encode (s : List Char) :
    read (encode s ++ [0]) = some (s.takeWhile (· ≠ '\x00')) := by
  rw [read, terminated, if_pos (List.mem_append_right _ (List.mem_singleton.2 rfl)),
    takeWhile_encode]
  exact decode_encode _

end Utf16
