import Tunelith.Core.Types
import Mathlib.Data.List.Infix
import Mathlib.Data.List.Induction
import Mathlib.Tactic.SplitIfs

/-!
# Whole packets out of a BDA device

The frames of a BDA device are no packets: the `Aligner` gives out the stream in whole ones, and
carries what is left of a frame to the next.

* `cuts` — which windows of the stream it gives out, by position.
* `cuts_of_isPrefix` — the windows of a part of the stream are the first ones of the whole.
* `aligner_ts` — frames fed one after the other are fed as one, and what comes out are windows of
  188 bytes, one at each packet boundary or at the next three sync bytes in a row.
-/

namespace Tunelith.Bda

def TS_PACKET : Nat := 188

def SYNC : UInt8 := 0x47

/-- As many packets of `data` in a row as asked for, from `i` on. -/
def inARow (format : StreamFormat) (data : List UInt8) : Nat → Nat → Bool
  | 0, _ => true
  | n + 1, i =>
    match data[i]? with
    | none => false
    | some head =>
      match format with
      | .ts => if head = SYNC then inARow format data n (i + 188) else false
      | .tlv =>
        if head = 0x7f then
          match data[i + 2]?, data[i + 3]? with
          | some hi, some lo => inARow format data n (i + (4 + (hi.toNat * 256 + lo.toNat)))
          | _, _ => false
        else false

/-- Where the first of three packets in a row starts. -/
def packetStart (format : StreamFormat) (data : List UInt8) : Option Nat :=
  (List.range data.length).find? fun start => inARow format data 3 start

/-- Three sync bytes stand 188 bytes apart at `i`. -/
def Triple (w : List UInt8) (i : Nat) : Prop :=
  w[i]? = some SYNC ∧ w[i + 188]? = some SYNC ∧ w[i + 376]? = some SYNC

/-- The first position from `b` on at which three sync bytes stand 188 bytes apart. -/
structure First (w : List UInt8) (b p : Nat) : Prop where
  le : b ≤ p
  triple : Triple w p
  none_before : ∀ q, b ≤ q → q < p → ¬Triple w q

variable {u w : List UInt8} {b p : Nat}

theorem inARow_iff : inARow .ts w 3 p = true ↔ Triple w p := by
  simp only [inARow, Triple]
  cases h₁ : w[p]? with
  | none => simp
  | some x =>
    cases h₂ : w[p + 188]? with
    | none => simp
    | some y =>
      cases w[p + 376]? with
      | none => simp
      | some z => simp

theorem Triple.lt (h : Triple w p) : p + 376 < w.length := by
  obtain ⟨-, -, h⟩ := h
  exact (List.getElem?_eq_some_iff.1 h).1

theorem triple_drop : Triple (w.drop b) p ↔ Triple w (b + p) := by
  unfold Triple
  rw [List.getElem?_drop, List.getElem?_drop, List.getElem?_drop, Nat.add_assoc, Nat.add_assoc]

theorem triple_of_isPrefix (h : u <+: w) (hp : p + 376 < u.length) : Triple u p ↔ Triple w p := by
  obtain ⟨r, rfl⟩ := h
  unfold Triple
  rw [List.getElem?_append_left (by omega), List.getElem?_append_left (by omega),
    List.getElem?_append_left (by omega)]

theorem packetStart_eq_some (p : Nat) :
    packetStart .ts (w.drop b) = some p ↔ First w b (b + p) := by
  unfold packetStart
  rw [List.find?_range_eq_some]
  constructor
  · intro ⟨ht, _, hnone⟩
    refine ⟨Nat.le_add_right b p, triple_drop.1 (inARow_iff.1 ht), fun q hq hlt hq' => ?_⟩
    have := hnone (q - b) (by omega)
    rw [Bool.not_eq_true', ← Bool.not_eq_true, inARow_iff, triple_drop,
      Nat.add_sub_cancel' hq] at this
    exact this hq'
  · intro h
    have ht := triple_drop.2 h.triple
    have hlt := ht.lt
    refine ⟨inARow_iff.2 ht, List.mem_range.2 (by omega), fun q hq => ?_⟩
    rw [Bool.not_eq_true', ← Bool.not_eq_true, inARow_iff, triple_drop]
    exact h.none_before (b + q) (Nat.le_add_right b q) (by omega)

theorem packetStart_eq_none :
    packetStart .ts (w.drop b) = none ↔ ∀ q, b ≤ q → ¬Triple w q := by
  unfold packetStart
  rw [List.find?_range_eq_none]
  constructor
  · intro hnone q hq hq'
    have hlt := hq'.lt
    have := hnone (q - b) (by rw [List.length_drop]; omega)
    rw [Bool.not_eq_true', ← Bool.not_eq_true, inARow_iff, triple_drop,
      Nat.add_sub_cancel' hq] at this
    exact this hq'
  · intro h q _
    rw [Bool.not_eq_true', ← Bool.not_eq_true, inARow_iff, triple_drop]
    exact h (b + q) (Nat.le_add_right b q)

theorem First.of_isPrefix (h : First u b p) (hu : u <+: w) : First w b p := by
  have hlt := h.triple.lt
  refine ⟨h.le, (triple_of_isPrefix hu hlt).1 h.triple, fun q hq hqp hq' => ?_⟩
  exact h.none_before q hq hqp ((triple_of_isPrefix hu (by omega)).2 hq')

/-- Where a packet starts is a sync byte. -/
theorem sync_of_packetStart {start : Nat} (h : packetStart .ts (w.drop b) = some start) :
    w.getD (b + start) 0 = SYNC := by
  obtain ⟨-, ht, -⟩ := (packetStart_eq_some start).1 h
  rw [List.getD_eq_getElem?_getD, ht.1, Option.getD_some]

/-! ## The aligner -/

structure Aligner where
  format : StreamFormat
  frames : Nat := 0
  aligned : Bool := false
  /-- The bytes of a TS packet yet to be completed. -/
  carry : List UInt8 := []
deriving DecidableEq, Repr

namespace Aligner

/-- What is left to look at: a byte that is no sync byte is looked at again once the alignment is
lost, and not where it is found. -/
def todo (buf : List UInt8) (aligned : Bool) (i : Nat) : Nat :=
  3 * (buf.length - i) + if aligned then (if buf.getD i 0 = SYNC then 0 else 2) else 1

theorem todo_lost {buf : List UInt8} {i : Nat} (h : buf.getD i 0 ≠ SYNC) :
    todo buf false i < todo buf true i := by
  unfold todo
  rw [if_neg h, if_neg Bool.false_ne_true, if_pos rfl]
  omega

theorem todo_found {buf : List UInt8} {i start : Nat}
    (h : packetStart .ts (buf.drop i) = some start) :
    todo buf true (i + start) < todo buf false i := by
  unfold todo
  rw [sync_of_packetStart h, if_neg Bool.false_ne_true, if_pos rfl, if_pos rfl]
  omega

theorem le_todo (buf : List UInt8) (aligned : Bool) (i : Nat) :
    3 * (buf.length - i) ≤ todo buf aligned i := Nat.le_add_right ..

theorem todo_le (buf : List UInt8) (aligned : Bool) (i : Nat) :
    todo buf aligned i ≤ 3 * (buf.length - i) + 2 := by
  refine Nat.add_le_add_left ?_ _
  split
  · split
    · exact Nat.zero_le 2
    · exact Nat.le_refl 2
  · exact Nat.le_succ 1

theorem todo_packet {buf : List UInt8} {i : Nat} (h : TS_PACKET ≤ buf.length - i) :
    todo buf true (i + TS_PACKET) < todo buf true i := by
  have h₁ := todo_le buf true (i + TS_PACKET)
  have h₂ := le_todo buf true i
  simp only [TS_PACKET] at *
  omega

/-- The loop of `feedTs`. -/
def feedLoop (buf : List UInt8) (aligned : Bool) (i : Nat) (out : List UInt8) :
    Bool × Nat × List UInt8 :=
  if TS_PACKET ≤ buf.length - i then
    if aligned = false then
      if buf.length - i < TS_PACKET * 3 then (aligned, i, out)
      else
        match _h : packetStart .ts (buf.drop i) with
        | some start => feedLoop buf true (i + start) out
        | none => (aligned, buf.length - (TS_PACKET * 3 - 1), out)
    else if buf.getD i 0 ≠ SYNC then feedLoop buf false i out
    else feedLoop buf true (i + TS_PACKET) (out ++ (buf.drop i).take TS_PACKET)
  else (aligned, i, out)
termination_by todo buf aligned i
decreasing_by
  · rename_i hal _
    rw [hal]
    exact todo_found _h
  · rename_i hal hs
    rw [Bool.not_eq_false] at hal
    rw [hal]
    exact todo_lost hs
  · rename_i hlen hal _
    rw [Bool.not_eq_false] at hal
    rw [hal]
    exact todo_packet hlen

def feedTs (s : Aligner) (data : List UInt8) : Aligner × List UInt8 :=
  let buf := s.carry ++ data
  let (aligned, i, out) := feedLoop buf s.aligned 0 []
  ({ s with aligned := aligned, carry := buf.drop i }, out)

def feedTlv (s : Aligner) (data : List UInt8) : Aligner × List UInt8 :=
  if s.aligned then (s, data)
  else
    match packetStart .tlv data with
    | some start => ({ s with aligned := true }, data.drop start)
    | none => (s, [])

/-- What is given out for one frame of the device; for the first one nothing is. -/
def feed (s : Aligner) (data : List UInt8) : Aligner × List UInt8 :=
  let s := { s with frames := s.frames + 1 }
  if s.frames = 1 then (s, [])
  else
    match s.format with
    | .ts => s.feedTs data
    | .tlv => s.feedTlv data

/-! ## By position -/

/-- Where the windows are that the loop gives out of `buf`, and how and where it stops. -/
def cuts (buf : List UInt8) (aligned : Bool) (i : Nat) : List Nat × Bool × Nat :=
  if TS_PACKET ≤ buf.length - i then
    if aligned = false then
      if buf.length - i < TS_PACKET * 3 then ([], aligned, i)
      else
        match _h : packetStart .ts (buf.drop i) with
        | some start => cuts buf true (i + start)
        | none => ([], aligned, buf.length - (TS_PACKET * 3 - 1))
    else if buf.getD i 0 ≠ SYNC then cuts buf false i
    else
      let r := cuts buf true (i + TS_PACKET)
      (i :: r.1, r.2)
  else ([], aligned, i)
termination_by todo buf aligned i
decreasing_by
  · rename_i hal _
    rw [hal]
    exact todo_found _h
  · rename_i hal hs
    rw [Bool.not_eq_false] at hal
    rw [hal]
    exact todo_lost hs
  · rename_i hlen hal _
    rw [Bool.not_eq_false] at hal
    rw [hal]
    exact todo_packet hlen

/-- The 188 bytes of `w` from `p` on. -/
def window (w : List UInt8) (p : Nat) : List UInt8 := (w.drop p).take TS_PACKET

section Equations

variable {aligned : Bool} {i start : Nat}

theorem cuts_of_short (h : ¬TS_PACKET ≤ u.length - i) : cuts u aligned i = ([], aligned, i) := by
  rw [cuts, if_neg h]

theorem cuts_of_wait (h : TS_PACKET ≤ u.length - i) (hlt : u.length - i < TS_PACKET * 3) :
    cuts u false i = ([], false, i) := by
  rw [cuts, if_pos h, if_pos rfl, if_pos hlt]

theorem cuts_of_found (h : ¬u.length - i < TS_PACKET * 3)
    (hstart : packetStart .ts (u.drop i) = some start) :
    cuts u false i = cuts u true (i + start) := by
  rw [cuts, if_pos (by simp only [TS_PACKET] at *; omega), if_pos rfl, if_neg h]
  split
  · rename_i hsome
    rw [hstart] at hsome
    cases hsome
    rfl
  · rename_i hnone
    rw [hstart] at hnone
    cases hnone

theorem cuts_of_none (h : ¬u.length - i < TS_PACKET * 3)
    (hstart : packetStart .ts (u.drop i) = none) :
    cuts u false i = ([], false, u.length - (TS_PACKET * 3 - 1)) := by
  rw [cuts, if_pos (by simp only [TS_PACKET] at *; omega), if_pos rfl, if_neg h]
  split
  · rename_i hsome
    rw [hstart] at hsome
    cases hsome
  · rfl

theorem cuts_of_lost (h : TS_PACKET ≤ u.length - i) (hs : u.getD i 0 ≠ SYNC) :
    cuts u true i = cuts u false i := by
  rw [cuts, if_pos h, if_neg Bool.noConfusion, if_pos hs]

theorem cuts_of_sync (h : TS_PACKET ≤ u.length - i) (hs : u.getD i 0 = SYNC) :
    cuts u true i = (i :: (cuts u true (i + TS_PACKET)).1, (cuts u true (i + TS_PACKET)).2) := by
  rw [cuts, if_pos h, if_neg Bool.noConfusion, if_neg (not_not_intro hs)]

end Equations

theorem feedLoop_eq (buf : List UInt8) (aligned : Bool) (i : Nat) (out : List UInt8) :
    feedLoop buf aligned i out = ((cuts buf aligned i).2.1, (cuts buf aligned i).2.2,
      out ++ (cuts buf aligned i).1.flatMap (window buf)) := by
  fun_induction feedLoop buf aligned i out with
  | case1 i out hlen hshort =>
    rw [cuts_of_wait hlen hshort, List.flatMap_nil, List.append_nil]
  | case2 i out hlen hshort start hstart ih => rw [cuts_of_found hshort hstart, ih]
  | case3 i out hlen hshort hstart =>
    rw [cuts_of_none hshort hstart, List.flatMap_nil, List.append_nil]
  | case4 aligned i out hlen hal hs ih =>
    rw [Bool.not_eq_false] at hal
    rw [hal, cuts_of_lost hlen hs, ih]
  | case5 aligned i out hlen hal hs ih =>
    rw [Bool.not_eq_false] at hal
    rw [hal, cuts_of_sync hlen (not_not.1 hs), ih, List.append_assoc]
    rfl
  | case6 aligned i out hlen => rw [cuts_of_short hlen, List.flatMap_nil, List.append_nil]

theorem getD_of_isPrefix (h : u <+: w) {i : Nat} (hi : i < u.length) : u.getD i 0 = w.getD i 0 := by
  obtain ⟨r, rfl⟩ := h
  simp [List.getD_eq_getElem?_getD, List.getElem?_append_left hi]

/-- The windows are whole, from where the loop starts on; what is left is no whole packet, or too
short to look for one. -/
structure Within (u : List UInt8) (i : Nat) (r : List Nat × Bool × Nat) : Prop where
  mem : ∀ p ∈ r.1, i ≤ p ∧ p + TS_PACKET ≤ u.length
  le : i ≤ r.2.2
  le_length : r.2.2 ≤ u.length
  short : u.length < r.2.2 + TS_PACKET * 3

theorem cuts_within {aligned : Bool} {i : Nat} (hi : i ≤ u.length) :
    Within u i (cuts u aligned i) := by
  fun_induction cuts u aligned i with
  | case1 i hlen hshort =>
    exact ⟨fun _ h => absurd h List.not_mem_nil, Nat.le_refl i, hi, by dsimp only; omega⟩
  | case2 i hlen hshort start hstart ih =>
    have hlt := ((packetStart_eq_some start).1 hstart).triple.lt
    obtain ⟨hmem, hle, hlast, hend⟩ := ih (by omega)
    exact ⟨fun p hp => ⟨Nat.le_of_add_right_le (hmem p hp).1, (hmem p hp).2⟩,
      Nat.le_of_add_right_le hle, hlast, hend⟩
  | case3 i hlen hshort hstart =>
    exact ⟨fun _ h => absurd h List.not_mem_nil, by simp only [TS_PACKET] at *; omega,
      Nat.sub_le _ _, by simp only [TS_PACKET] at *; omega⟩
  | case4 aligned i hlen hal hs ih => exact ih hi
  | case5 aligned i hlen hal hs r ih =>
    have hnext : i + TS_PACKET ≤ u.length := by
      simp only [TS_PACKET] at *
      omega
    obtain ⟨hmem, hle, hlast, hend⟩ := ih hnext
    refine ⟨fun p hp => ?_, Nat.le_of_add_right_le hle, hlast, hend⟩
    rcases List.mem_cons.1 hp with rfl | hp
    · exact ⟨Nat.le_refl _, hnext⟩
    · exact ⟨Nat.le_of_add_right_le (hmem p hp).1, (hmem p hp).2⟩
  | case6 aligned i hlen =>
    exact ⟨fun _ h => absurd h List.not_mem_nil, Nat.le_refl i, hi, by
      simp only [TS_PACKET] at *
      omega⟩

/-- Where no packet was found to start before, none is to be looked for again. -/
theorem cuts_skip {i n : Nat} (h : ¬w.length - n < TS_PACKET * 3) (hn : i ≤ n)
    (hnone : ∀ q, i ≤ q → q < n → ¬Triple w q) : cuts w false i = cuts w false n := by
  have hi : ¬w.length - i < TS_PACKET * 3 := by omega
  cases hstart : packetStart .ts (w.drop i) with
  | none =>
    have hstart' : packetStart .ts (w.drop n) = none :=
      packetStart_eq_none.2 fun q hq => packetStart_eq_none.1 hstart q (Nat.le_trans hn hq)
    rw [cuts_of_none hi hstart, cuts_of_none h hstart']
  | some start =>
    have hfirst := (packetStart_eq_some start).1 hstart
    have hle : n ≤ i + start := by
      by_contra hlt
      exact hnone (i + start) hfirst.le (by omega) hfirst.triple
    have hadd : n + (i + start - n) = i + start := by omega
    have hstart' : packetStart .ts (w.drop n) = some (i + start - n) := by
      refine (packetStart_eq_some _).2 ?_
      rw [hadd]
      exact ⟨hle, hfirst.triple, fun q hq => hfirst.none_before q (Nat.le_trans hn hq)⟩
    rw [cuts_of_found hi hstart, cuts_of_found h hstart', hadd]

/-- **The windows of a part of the stream are the first ones of the whole.** Where the loop stopped
in the part, it goes on in the whole. -/
theorem cuts_of_isPrefix (hu : u <+: w) {aligned : Bool} {i : Nat} (hi : i ≤ u.length) :
    cuts w aligned i =
      ((cuts u aligned i).1 ++ (cuts w (cuts u aligned i).2.1 (cuts u aligned i).2.2).1,
        (cuts w (cuts u aligned i).2.1 (cuts u aligned i).2.2).2) := by
  have hle := hu.length_le
  fun_induction cuts u aligned i with
  | case1 i hlen hshort => rfl
  | case2 i hlen hshort start hstart ih =>
    have hfirst := (packetStart_eq_some start).1 hstart
    have hlt := hfirst.triple.lt
    have hstart' := (packetStart_eq_some start).2 (hfirst.of_isPrefix hu)
    rw [cuts_of_found (by omega) hstart', ih (by omega)]
  | case3 i hlen hshort hstart =>
    -- What was looked through in vain is left out, but for the bytes that may yet start a packet.
    rcases Nat.eq_or_lt_of_le hle with heq | hlt
    · rw [← hu.eq_of_length heq, cuts_of_none hshort hstart]
      rw [cuts_of_wait (by simp only [TS_PACKET] at *; omega)
        (by simp only [TS_PACKET] at *; omega)]
      rfl
    · have hnone := packetStart_eq_none.1 hstart
      rw [cuts_skip (n := u.length - (TS_PACKET * 3 - 1))]
      · rfl
      · simp only [TS_PACKET] at *
        omega
      · simp only [TS_PACKET] at *
        omega
      · intro q hq hqn hq'
        refine hnone q hq ((triple_of_isPrefix hu ?_).2 hq')
        simp only [TS_PACKET] at *
        omega
  | case4 aligned i hlen hal hs ih =>
    rw [Bool.not_eq_false] at hal
    rw [getD_of_isPrefix hu (by simp only [TS_PACKET] at *; omega)] at hs
    rw [hal, cuts_of_lost (by omega) hs, ih hi]
  | case5 aligned i hlen hal hs r ih =>
    rw [Bool.not_eq_false] at hal
    rw [getD_of_isPrefix hu (by simp only [TS_PACKET] at *; omega)] at hs
    rw [hal, cuts_of_sync (by omega) (not_not.1 hs), ih (by simp only [TS_PACKET] at *; omega)]
    rfl
  | case6 aligned i hlen => rfl

/-- Only what is left counts. -/
theorem cuts_drop (w : List UInt8) (b : Nat) (aligned : Bool) (i : Nat) :
    cuts w aligned (b + i) = ((cuts (w.drop b) aligned i).1.map (b + ·),
      (cuts (w.drop b) aligned i).2.1, b + (cuts (w.drop b) aligned i).2.2) := by
  have hlength : ∀ i, (w.drop b).length - i = w.length - (b + i) := by
    intro i
    rw [List.length_drop]
    omega
  have hget : ∀ i, (w.drop b).getD i 0 = w.getD (b + i) 0 := by
    intro i
    simp [List.getD_eq_getElem?_getD]
  fun_induction cuts (w.drop b) aligned i with
  | case1 i hlen hshort =>
    rw [hlength] at hlen hshort
    rw [cuts_of_wait hlen hshort]
    rfl
  | case2 i hlen hshort start hstart ih =>
    rw [hlength] at hshort
    rw [List.drop_drop] at hstart
    rw [cuts_of_found hshort hstart, Nat.add_assoc, ih]
  | case3 i hlen hshort hstart =>
    rw [List.drop_drop] at hstart
    rw [cuts_of_none (by rw [← hlength]; exact hshort) hstart, List.length_drop]
    rw [List.length_drop] at hshort
    refine Prod.ext rfl (Prod.ext rfl ?_)
    simp only [TS_PACKET] at *
    omega
  | case4 aligned i hlen hal hs ih =>
    rw [Bool.not_eq_false] at hal
    rw [hlength] at hlen
    rw [hget] at hs
    rw [hal, cuts_of_lost hlen hs, ih]
  | case5 aligned i hlen hal hs r ih =>
    rw [Bool.not_eq_false] at hal
    rw [hlength] at hlen
    rw [hget] at hs
    rw [hal, cuts_of_sync hlen (not_not.1 hs), Nat.add_assoc, ih]
    rfl
  | case6 aligned i hlen =>
    rw [hlength] at hlen
    rw [cuts_of_short hlen]
    rfl

/-! ## Frame by frame -/

theorem window_drop (w : List UInt8) (b p : Nat) : window (w.drop b) p = window w (b + p) := by
  unfold window
  rw [List.drop_drop]

theorem window_of_isPrefix (h : u <+: w) (hp : p + TS_PACKET ≤ u.length) :
    window u p = window w p := by
  obtain ⟨r, rfl⟩ := h
  unfold window
  rw [List.drop_append_of_le_length (by omega), List.take_append_of_le_length (by
    rw [List.length_drop]
    omega)]

theorem feedTs_eq (s : Aligner) (data : List UInt8) :
    s.feedTs data = ({ s with
      aligned := (cuts (s.carry ++ data) s.aligned 0).2.1
      carry := (s.carry ++ data).drop (cuts (s.carry ++ data) s.aligned 0).2.2 },
      (cuts (s.carry ++ data) s.aligned 0).1.flatMap (window (s.carry ++ data))) := by
  unfold feedTs
  dsimp only
  rw [feedLoop_eq, List.nil_append]

/-- Two frames of a TS are one. -/
theorem feedTs_append (s : Aligner) (a b : List UInt8) :
    s.feedTs (a ++ b) = (((s.feedTs a).1.feedTs b).1,
      (s.feedTs a).2 ++ ((s.feedTs a).1.feedTs b).2) := by
  rw [feedTs_eq s a]
  generalize hr : cuts (s.carry ++ a) s.aligned 0 = r
  have hw : Within (s.carry ++ a) 0 r := hr ▸ cuts_within (Nat.zero_le _)
  have hbuf : s.carry ++ (a ++ b) = s.carry ++ a ++ b := (List.append_assoc ..).symm
  have hcarry : (s.carry ++ a).drop r.2.2 ++ b = (s.carry ++ a ++ b).drop r.2.2 :=
    (List.drop_append_of_le_length hw.le_length).symm
  have hcuts := @cuts_of_isPrefix _ _ (List.prefix_append (s.carry ++ a) b) s.aligned 0
    (Nat.zero_le _)
  rw [hr, ← Nat.add_zero r.2.2, cuts_drop] at hcuts
  rw [feedTs_eq s, feedTs_eq, hbuf, hcuts]
  dsimp only
  rw [hcarry]
  refine Prod.ext ?_ ?_
  · dsimp only
    rw [List.drop_drop]
  · dsimp only
    rw [List.flatMap_append, List.flatMap_map]
    refine congrArg₂ _ ?_ ?_
    · exact List.flatMap_congr fun p hp =>
        (window_of_isPrefix (List.prefix_append _ _) (hw.mem p hp).2).symm
    · exact List.flatMap_congr fun p _ => (window_drop ..).symm

/-- The aligner and all it gave out, after some frames. -/
def feedAll (s : Aligner) (frames : List (List UInt8)) : Aligner × List UInt8 :=
  frames.foldl (fun st data => ((st.1.feed data).1, st.2 ++ (st.1.feed data).2)) (s, [])

theorem feed_eq_feedTs {s : Aligner} (hf : s.format = .ts) (hs : 0 < s.frames) (data : List UInt8) :
    s.feed data = ({ s with frames := s.frames + 1 } : Aligner).feedTs data := by
  unfold feed
  dsimp only
  rw [if_neg (by omega), hf]

theorem feedTs_frames (s : Aligner) (n : Nat) (data : List UInt8) :
    ({ s with frames := n } : Aligner).feedTs data =
      ({ (s.feedTs data).1 with frames := n }, (s.feedTs data).2) := rfl

/-- Two frames of a TS after the first frame of all are one. -/
theorem feed_append {s : Aligner} (hf : s.format = .ts) (hs : 0 < s.frames) (a b : List UInt8) :
    (s.feed (a ++ b)).2 = (s.feed a).2 ++ ((s.feed a).1.feed b).2 ∧
      (s.feed (a ++ b)).1.aligned = ((s.feed a).1.feed b).1.aligned ∧
      (s.feed (a ++ b)).1.carry = ((s.feed a).1.feed b).1.carry := by
  have ha : s.feed a = ({ (s.feedTs a).1 with frames := s.frames + 1 }, (s.feedTs a).2) :=
    (feed_eq_feedTs hf hs a).trans (feedTs_frames ..)
  have hab : s.feed (a ++ b) =
      ({ (s.feedTs (a ++ b)).1 with frames := s.frames + 1 }, (s.feedTs (a ++ b)).2) :=
    (feed_eq_feedTs hf hs _).trans (feedTs_frames ..)
  have hb : (s.feed a).1.feed b =
      ({ ((s.feedTs a).1.feedTs b).1 with frames := s.frames + 2 },
        ((s.feedTs a).1.feedTs b).2) := by
    rw [ha, feed_eq_feedTs (by rw [feedTs_eq]; exact hf) (Nat.succ_pos _)]
    rfl
  rw [hb, hab, ha, feedTs_append]
  exact ⟨rfl, rfl, rfl⟩

/-- However many frames follow the first, they are fed as one. -/
theorem feedAll_eq (first : List UInt8) (frames : List (List UInt8)) :
    (feedAll { format := .ts } (first :: frames)).1 =
        { (({ format := .ts } : Aligner).feedTs frames.flatten).1 with
          frames := frames.length + 1 } ∧
      (feedAll { format := .ts } (first :: frames)).2 =
        (({ format := .ts } : Aligner).feedTs frames.flatten).2 := by
  induction frames using List.reverseRec with
  | nil =>
    rw [feedTs_eq, cuts_of_short (by decide)]
    exact ⟨rfl, rfl⟩
  | append_singleton frames data ih =>
    obtain ⟨hst, hout⟩ := ih
    have hstep : feedAll { format := .ts } (first :: (frames ++ [data])) =
        (((feedAll { format := .ts } (first :: frames)).1.feed data).1,
          (feedAll { format := .ts } (first :: frames)).2 ++
            ((feedAll { format := .ts } (first :: frames)).1.feed data).2) := by
      unfold feedAll
      rw [← List.cons_append, List.foldl_concat]
    rw [hstep, hst, hout, List.flatten_concat, feedTs_append,
      feed_eq_feedTs (by rw [feedTs_eq]) (Nat.succ_pos _)]
    refine ⟨?_, rfl⟩
    rw [List.length_append]
    rfl

/-! ## What is given out -/

/-- The packet boundary after `ps`, when the one before them was `b`. -/
def after (b : Nat) (ps : List Nat) : Nat := ps.foldl (fun _ p => p + TS_PACKET) b

/-- Which window comes after the one at `p`: the next 188 bytes if they begin with a sync byte, else
those at the next three in a row. -/
def Next (w : List UInt8) (p q : Nat) : Prop :=
  if w.getD (p + TS_PACKET) 0 = SYNC then q = p + TS_PACKET else First w (p + TS_PACKET) q

/-- Nothing more is to be given out from the packet boundary `b` on: there is no whole packet, or
too little to look for three in a row, or no such three. -/
structure Stops (w : List UInt8) (aligned : Bool) (b : Nat) : Prop where
  packet : aligned = true → b + TS_PACKET ≤ w.length → w.getD b 0 ≠ SYNC
  triple : b + TS_PACKET * 3 ≤ w.length → ∀ q, b ≤ q → ¬Triple w q

/-- What is given out of `w` from `b` on. -/
structure Given (w : List UInt8) (aligned : Bool) (b : Nat) (ps : List Nat) : Prop where
  whole : ∀ p ∈ ps, p + TS_PACKET ≤ w.length ∧ w.getD p 0 = SYNC
  first : ∀ p, ps.head? = some p →
    if aligned = true ∧ w.getD b 0 = SYNC then p = b else First w b p
  next : ps.IsChain (Next w)
  stops : Stops w (aligned || !ps.isEmpty) (after b ps)

theorem Given.nil {aligned : Bool} (h : Stops w aligned b) : Given w aligned b [] where
  whole p hp := absurd hp List.not_mem_nil
  first p hp := by cases hp
  next := .nil
  stops := by simpa [after] using h

theorem cuts_given {aligned : Bool} {i : Nat} (hi : i ≤ w.length) :
    Given w aligned i (cuts w aligned i).1 := by
  fun_induction cuts w aligned i with
  | case1 i hlen hshort => exact .nil ⟨Bool.noConfusion, fun h => by omega⟩
  | case2 i hlen hshort start hstart ih =>
    have hfirst := (packetStart_eq_some start).1 hstart
    have hlt := hfirst.triple.lt
    obtain ⟨hwhole, hhead, hnext, hstops⟩ := ih (by omega)
    generalize (cuts w true (i + start)).1 = ps at *
    rw [sync_of_packetStart hstart] at hhead
    cases ps with
    | nil =>
      -- The packet found is whole, and so is given out.
      have hlen' : i + start + TS_PACKET ≤ w.length := by
        simp only [TS_PACKET] at *
        omega
      exact absurd (sync_of_packetStart hstart) (hstops.packet rfl hlen')
    | cons p ps =>
      have hp : p = i + start := by simpa using hhead p rfl
      refine ⟨hwhole, fun q hq => ?_, hnext, hstops⟩
      cases hq
      rw [if_neg fun h => Bool.noConfusion h.1, hp]
      exact hfirst
  | case3 i hlen hshort hstart =>
    exact .nil ⟨Bool.noConfusion, fun _ => packetStart_eq_none.1 hstart⟩
  | case4 aligned i hlen hal hs ih =>
    rw [Bool.not_eq_false] at hal
    subst hal
    obtain ⟨hwhole, hhead, hnext, hstops⟩ := ih hi
    refine ⟨hwhole, fun p hp => ?_, hnext, ?_⟩
    · rw [if_neg fun h => hs h.2]
      simpa using hhead p hp
    · cases hps : (cuts w false i).1 with
      | nil =>
        rw [hps] at hstops
        exact ⟨fun _ _ => hs, hstops.triple⟩
      | cons p ps =>
        rw [hps] at hstops
        exact hstops
  | case5 aligned i hlen hal hs r ih =>
    rw [Bool.not_eq_false] at hal
    subst hal
    rw [not_not] at hs
    have hlen' : i + TS_PACKET ≤ w.length := by
      simp only [TS_PACKET] at *
      omega
    obtain ⟨hwhole, hhead, hnext, hstops⟩ := ih hlen'
    refine ⟨fun p hp => ?_, fun p hp => ?_, ?_, hstops⟩
    · rcases List.mem_cons.1 hp with rfl | hp
      · exact ⟨hlen', hs⟩
      · exact hwhole p hp
    · cases hp
      rw [if_pos ⟨rfl, hs⟩]
    · cases hps : r.1 with
      | nil => exact .singleton i
      | cons q ps =>
        have hq := hhead q (by rw [show (cuts w true (i + TS_PACKET)).1 = r.1 from rfl, hps]; rfl)
        refine List.isChain_cons_cons.2 ⟨?_, hps ▸ hnext⟩
        simpa [Next] using hq
  | case6 aligned i hlen =>
    refine .nil ⟨fun _ h => ?_, fun h => ?_⟩
    · omega
    · simp only [TS_PACKET] at *
      omega

/-- What is given out of the stream `w`, and what of it is carried on. -/
structure Aligns (w : List UInt8) (ps : List Nat) (carry : List UInt8) : Prop where
  whole : ∀ p ∈ ps, p + TS_PACKET ≤ w.length ∧ w.getD p 0 = SYNC
  disjoint : ps.Pairwise fun p q => p + TS_PACKET ≤ q
  first : ∀ p, ps.head? = some p → First w 0 p
  next : ps.IsChain (Next w)
  stops : Stops w (!ps.isEmpty) (after 0 ps)
  suffix : carry <:+ w
  carry_lt : carry.length < TS_PACKET * 3

theorem Next.le {p q : Nat} (h : Next w p q) : p + TS_PACKET ≤ q := by
  unfold Next at h
  split_ifs at h with hs
  · exact Nat.le_of_eq h.symm
  · exact h.le

theorem feedTs_aligns (w : List UInt8) :
    ∃ ps, (({ format := .ts } : Aligner).feedTs w).2 = ps.flatMap (window w) ∧
      Aligns w ps (({ format := .ts } : Aligner).feedTs w).1.carry := by
  rw [feedTs_eq]
  have hw : Within w 0 (cuts w false 0) := cuts_within (Nat.zero_le _)
  have hg : Given w false 0 (cuts w false 0).1 := cuts_given (Nat.zero_le _)
  refine ⟨(cuts w false 0).1, rfl, hg.whole, ?_, fun p hp => ?_, hg.next, hg.stops,
    List.drop_suffix _ _, ?_⟩
  · have : IsTrans Nat fun p q => p + TS_PACKET ≤ q := ⟨fun p q r h₁ h₂ => by omega⟩
    exact List.isChain_iff_pairwise.1 (hg.next.imp fun _ _ h => h.le)
  · simpa using hg.first p hp
  · have hshort := hw.short
    have hle := hw.le_length
    change (w.drop (cuts w false 0).2.2).length < _
    rw [List.length_drop]
    omega

/-- **The frames of a TS do not matter, and what comes out of them is aligned.** After the first
frame, which is left out, two frames are fed as one; and of any number of frames the windows given
out are 188 bytes long, begin with a sync byte and follow one another, but for where the sync is
lost: there the next one is the first of three in a row. -/
theorem aligner_ts :
    (∀ s : Aligner, s.format = .ts → 0 < s.frames → ∀ a b : List UInt8,
      (s.feed (a ++ b)).2 = (s.feed a).2 ++ ((s.feed a).1.feed b).2 ∧
        (s.feed (a ++ b)).1.aligned = ((s.feed a).1.feed b).1.aligned ∧
        (s.feed (a ++ b)).1.carry = ((s.feed a).1.feed b).1.carry) ∧
      ∀ frames : List (List UInt8), ∃ ps,
        (feedAll { format := .ts } frames).2 = ps.flatMap (window frames.tail.flatten) ∧
          Aligns frames.tail.flatten ps (feedAll { format := .ts } frames).1.carry := by
  refine ⟨fun s hf hs => feed_append hf hs, fun frames => ?_⟩
  cases frames with
  | nil =>
    have h := feedTs_aligns []
    rw [feedTs_eq, cuts_of_short (by decide)] at h
    exact h
  | cons first frames =>
    obtain ⟨hst, hout⟩ := feedAll_eq first frames
    obtain ⟨ps, hps, h⟩ := feedTs_aligns frames.flatten
    refine ⟨ps, hout.trans hps, ?_⟩
    rw [hst]
    exact h

end Aligner
end Tunelith.Bda
