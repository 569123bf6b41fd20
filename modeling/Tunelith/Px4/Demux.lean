import Mathlib.Data.List.Induction
import Mathlib.Data.List.Infix
import Mathlib.Tactic.SplitIfs

/-!
# Splitting the stream of a bridge

`demux` finds its place by four sync bytes 188 apart, and then takes packets as long as they
begin with one. It does so in place, in the buffer it carries from one transfer to the next.

* `demux_eq` — what `demux` does in place is `scan` on what it carries and is given: nothing
  before its position matters any more.
* `demux_splits_exactly` — a clean stream comes out packet by packet, however it was cut.
-/

namespace Tunelith.Px4

abbrev Packet := List UInt8

def PACKET : Nat := 188

/-- Packets in a row with a sync byte it takes to lock back on the stream. -/
def SYNC_COUNT : Nat := 4

def sync (tagged : Bool) (byte : UInt8) : Bool :=
  if tagged then byte &&& 0x8f == 0x07 else byte == 0x47

/-- The input a packet is of, by its sync byte; those not from 1 to 5 are no tuner's. -/
def inputId (tagged : Bool) (byte : UInt8) : Nat :=
  if tagged then ((byte &&& 0x70) >>> 4).toNat else 1

/-! ## In place -/

/-- The inner loop: packets from `p` on, as long as they begin with a sync byte. -/
def takePackets (tagged : Bool) (buf : List UInt8) (p : Nat)
    (out : List (Nat × Packet)) : List UInt8 × Nat × List (Nat × Packet) :=
  if PACKET ≤ buf.length - p ∧ sync tagged (buf.getD p 0) then
    let id := inputId tagged (buf.getD p 0)
    if 1 ≤ id ∧ id ≤ 5 then
      let buf' := buf.set p 0x47
      takePackets tagged buf' (p + PACKET) (out ++ [(id - 1, (buf'.drop p).take PACKET)])
    else takePackets tagged buf (p + PACKET) out
  else (buf, p, out)
termination_by buf.length - p
decreasing_by
  all_goals
    simp only [PACKET, List.length_set] at *
    omega

/-- Four packets in a row begin with a sync byte at `p`. -/
def locks (tagged : Bool) (buf : List UInt8) (p : Nat) : Bool :=
  (List.range SYNC_COUNT).all fun k => sync tagged (buf.getD (p + PACKET * k) 0)

theorem length_takePackets (tagged : Bool) (buf : List UInt8) (p : Nat)
    (out : List (Nat × Packet)) : (takePackets tagged buf p out).1.length = buf.length := by
  fun_induction takePackets tagged buf p out with
  | case1 buf p out h id hid buf' ih => rw [ih, List.length_set]
  | case2 buf p out h id hid ih => exact ih
  | case3 buf p out h => rfl

theorem le_takePackets (tagged : Bool) (buf : List UInt8) (p : Nat) (out : List (Nat × Packet)) :
    p ≤ (takePackets tagged buf p out).2.1 := by
  fun_induction takePackets tagged buf p out with
  | case1 buf p out h id hid buf' ih => exact Nat.le_trans (Nat.le_add_right p PACKET) ih
  | case2 buf p out h id hid ih => exact Nat.le_trans (Nat.le_add_right p PACKET) ih
  | case3 buf p out h => exact Nat.le_refl p

/-- Once locked, the inner loop takes a packet. -/
theorem le_of_takePackets {tagged : Bool} {buf : List UInt8} {p : Nat} (out : List (Nat × Packet))
    (hlen : PACKET ≤ buf.length - p) (hs : sync tagged (buf.getD p 0)) :
    p + PACKET ≤ (takePackets tagged buf p out).2.1 := by
  rw [takePackets, if_pos ⟨hlen, hs⟩]
  dsimp only
  split_ifs
  · exact le_takePackets ..
  · exact le_takePackets ..

theorem sync_of_locks {tagged : Bool} {buf : List UInt8} {p : Nat} (h : locks tagged buf p) :
    sync tagged (buf.getD p 0) := by
  have := List.all_eq_true.1 h 0 (by decide)
  simpa using this

/-- The outer loop: byte by byte until it locks, and then packet by packet. -/
def demuxLoop (tagged : Bool) (buf : List UInt8) (p : Nat) (out : List (Nat × Packet)) :
    List UInt8 × Nat × List (Nat × Packet) :=
  if PACKET * SYNC_COUNT ≤ buf.length - p then
    if locks tagged buf p then
      let r := takePackets tagged buf p out
      demuxLoop tagged r.1 r.2.1 r.2.2
    else demuxLoop tagged buf (p + 1) out
  else (buf, p, out)
termination_by buf.length - p
decreasing_by
  · rename_i hlen hl
    have hlt := le_of_takePackets out (by simp only [PACKET, SYNC_COUNT] at *; omega)
      (sync_of_locks hl)
    simp only [PACKET, SYNC_COUNT, length_takePackets] at *
    omega
  · simp only [PACKET, SYNC_COUNT] at *
    omega

/-- Splits `data` after `carry` into the packets of each input, and what is carried on. -/
def demux (tagged : Bool) (carry data : List UInt8) : List (Nat × Packet) × List UInt8 :=
  let (buf, p, out) := demuxLoop tagged (carry ++ data) 0 []
  (out, buf.drop p)

/-! ## On what is left -/

/-- What a packet is handed out as, and to which slot, if to any. -/
def route (tagged : Bool) (packet : Packet) : Option (Nat × Packet) :=
  let id := inputId tagged (packet.getD 0 0)
  if 1 ≤ id ∧ id ≤ 5 then some (id - 1, packet.set 0 0x47) else none

/-- Packets from the front of `v`, as long as they begin with a sync byte. -/
def strip (tagged : Bool) (v : List UInt8) : List (Nat × Packet) × List UInt8 :=
  if PACKET ≤ v.length ∧ sync tagged (v.getD 0 0) then
    let r := strip tagged (v.drop PACKET)
    ((route tagged (v.take PACKET)).toList ++ r.1, r.2)
  else ([], v)
termination_by v.length
decreasing_by
  simp only [PACKET, List.length_drop] at *
  omega

theorem length_strip (tagged : Bool) (v : List UInt8) :
    (strip tagged v).2.length ≤ v.length := by
  fun_induction strip tagged v with
  | case1 v h r ih => exact Nat.le_trans ih (by rw [List.length_drop]; omega)
  | case2 v h => exact Nat.le_refl _

theorem length_strip_lt {tagged : Bool} {v : List UInt8} (hlen : PACKET ≤ v.length)
    (hs : sync tagged (v.getD 0 0)) : (strip tagged v).2.length < v.length := by
  rw [strip, if_pos ⟨hlen, hs⟩]
  have := length_strip tagged (v.drop PACKET)
  rw [List.length_drop] at this
  simp only [PACKET] at *
  omega

/-- The same as `demuxLoop`, on what is left of the buffer. -/
def scan (tagged : Bool) (v : List UInt8) : List (Nat × Packet) × List UInt8 :=
  if PACKET * SYNC_COUNT ≤ v.length then
    if locks tagged v 0 then
      let r := strip tagged v
      let q := scan tagged r.2
      (r.1 ++ q.1, q.2)
    else scan tagged v.tail
  else ([], v)
termination_by v.length
decreasing_by
  · rename_i hlen hl
    exact length_strip_lt (by simp only [PACKET, SYNC_COUNT] at *; omega) (sync_of_locks hl)
  · simp only [PACKET, SYNC_COUNT, List.length_tail] at *
    omega

theorem getD_drop (buf : List UInt8) (p k : Nat) :
    (buf.drop p).getD k 0 = buf.getD (p + k) 0 := by
  simp [List.getD_eq_getElem?_getD]

theorem locks_drop (tagged : Bool) (buf : List UInt8) (p : Nat) :
    locks tagged (buf.drop p) 0 = locks tagged buf p := by
  simp [locks]

theorem takePackets_eq (tagged : Bool) (buf : List UInt8) (p : Nat) (out : List (Nat × Packet)) :
    (takePackets tagged buf p out).1.drop (takePackets tagged buf p out).2.1 =
        (strip tagged (buf.drop p)).2 ∧
      (takePackets tagged buf p out).2.2 = out ++ (strip tagged (buf.drop p)).1 := by
  fun_induction takePackets tagged buf p out with
  | case1 buf p out h id hid buf' ih =>
    have hdrop : buf'.drop (p + PACKET) = (buf.drop p).drop PACKET := by
      rw [List.drop_drop, List.drop_set, if_pos (by simp [PACKET])]
    have hroute : route tagged ((buf.drop p).take PACKET) =
        some (id - 1, (buf'.drop p).take PACKET) := by
      have hget : ((buf.drop p).take PACKET).getD 0 0 = buf.getD p 0 := by
        simp [List.getD_eq_getElem?_getD, PACKET]
      unfold route
      dsimp only
      rw [hget, if_pos hid]
      simp [buf', id, List.drop_set, List.take_set]
    rw [strip, if_pos (by rw [List.length_drop, getD_drop]; exact h)]
    rw [hdrop] at ih
    refine ⟨ih.1, ?_⟩
    rw [ih.2, hroute]
    simp
  | case2 buf p out h id hid ih =>
    have hroute : route tagged ((buf.drop p).take PACKET) = none := by
      have hget : ((buf.drop p).take PACKET).getD 0 0 = buf.getD p 0 := by
        simp [List.getD_eq_getElem?_getD, PACKET]
      unfold route
      dsimp only
      rw [hget, if_neg hid]
    rw [strip, if_pos (by rw [List.length_drop, getD_drop]; exact h)]
    rw [← List.drop_drop] at ih
    refine ⟨ih.1, ?_⟩
    rw [ih.2, hroute]
    simp
  | case3 buf p out h =>
    rw [strip, if_neg (by rw [List.length_drop, getD_drop]; exact h)]
    exact ⟨rfl, (List.append_nil out).symm⟩

theorem demuxLoop_eq (tagged : Bool) (buf : List UInt8) (p : Nat) (out : List (Nat × Packet)) :
    (demuxLoop tagged buf p out).1.drop (demuxLoop tagged buf p out).2.1 =
        (scan tagged (buf.drop p)).2 ∧
      (demuxLoop tagged buf p out).2.2 = out ++ (scan tagged (buf.drop p)).1 := by
  fun_induction demuxLoop tagged buf p out with
  | case1 buf p out hlen hl r ih =>
    obtain ⟨h₁, h₂⟩ := takePackets_eq tagged buf p out
    rw [scan, if_pos (by rw [List.length_drop]; exact hlen), if_pos (by rw [locks_drop]; exact hl)]
    rw [h₁] at ih
    refine ⟨ih.1, ih.2.trans ?_⟩
    rw [show r.2.2 = _ from h₂, List.append_assoc]
  | case2 buf p out hlen hl ih =>
    rw [scan, if_pos (by rw [List.length_drop]; exact hlen),
      if_neg (by rw [locks_drop]; exact hl), List.tail_drop]
    exact ih
  | case3 buf p out hlen =>
    rw [scan, if_neg (by rw [List.length_drop]; exact hlen)]
    exact ⟨rfl, (List.append_nil out).symm⟩

/-- In place or not, it is what is left that counts. -/
theorem demux_eq (tagged : Bool) (carry data : List UInt8) :
    demux tagged carry data = scan tagged (carry ++ data) := by
  obtain ⟨h₁, h₂⟩ := demuxLoop_eq tagged (carry ++ data) 0 []
  exact Prod.ext h₂ h₁

/-! ## Clean streams -/

/-- What a tuner may send: 188 bytes with a sync byte first. -/
def Sound (tagged : Bool) (packet : Packet) : Prop :=
  packet.length = PACKET ∧ sync tagged (packet.getD 0 0) = true

/-- The packets handed out of a list of packets, each to its slot. -/
def routed (tagged : Bool) (packets : List Packet) : List (Nat × Packet) :=
  packets.filterMap (route tagged)

/-- No offset inside `g` begins four packets in a row, in the stream `w`. -/
def NoLock (tagged : Bool) (g w : List UInt8) : Prop :=
  ∀ i < g.length, i + PACKET * (SYNC_COUNT - 1) < w.length → locks tagged w i = false

variable {tagged : Bool}

/-- The inner loop takes every whole packet there is. -/
theorem strip_spec {ps : List Packet} (hps : ∀ q ∈ ps, Sound tagged q) {v : List UInt8}
    (hv : v <+: ps.flatten) : ∃ k ≤ ps.length, strip tagged v =
      (routed tagged (ps.take k), v.drop (PACKET * k)) ∧ PACKET * k ≤ v.length ∧
        v.length < PACKET * k + PACKET := by
  induction ps generalizing v with
  | nil =>
    have hnil : v = [] := List.prefix_nil.1 hv
    subst hnil
    refine ⟨0, Nat.le_refl 0, ?_, by simp, by simp [PACKET]⟩
    rw [strip, if_neg (by simp [PACKET])]
    rfl
  | cons q ps ih =>
    obtain ⟨hq, hsync⟩ := hps q List.mem_cons_self
    by_cases hlen : PACKET ≤ v.length
    · -- A whole packet is there, which is `q`.
      obtain ⟨v', rfl⟩ : q <+: v :=
        List.prefix_of_prefix_length_le (List.prefix_append q ps.flatten) hv (hq ▸ hlen)
      obtain ⟨k, hk, hstrip, hle, hlt⟩ := ih (fun r hr => hps r (List.mem_cons_of_mem _ hr))
        ((List.prefix_append_right_inj q).1 hv)
      have hget : (q ++ v').getD 0 0 = q.getD 0 0 := by
        have hpos : 0 < q.length := by rw [hq]; decide
        simp [List.getD_eq_getElem?_getD, List.getElem?_append_left hpos]
      have hdrop : (q ++ v').drop PACKET = v' := List.drop_left' hq
      have hmul : PACKET * (k + 1) = PACKET + PACKET * k := by rw [Nat.mul_succ, Nat.add_comm]
      have hsum : (q ++ v').length = PACKET + v'.length := by rw [List.length_append, hq]
      refine ⟨k + 1, Nat.succ_le_succ hk, ?_, by omega, by omega⟩
      rw [strip, if_pos ⟨hlen, by rw [hget]; exact hsync⟩, hdrop, hstrip, List.take_left' hq,
        hmul, ← List.drop_drop, hdrop]
      unfold routed
      rw [List.take_succ_cons, List.filterMap_cons]
      cases route tagged q <;> rfl
    · refine ⟨0, Nat.zero_le _, ?_, by simp, by omega⟩
      rw [strip, if_neg fun h => hlen h.1]
      rfl

theorem locks_congr {v w : List UInt8} {p q : Nat}
    (h : ∀ k < SYNC_COUNT, v.getD (p + PACKET * k) 0 = w.getD (q + PACKET * k) 0) :
    locks tagged v p = locks tagged w q := by
  rw [Bool.eq_iff_iff, locks, locks, List.all_eq_true, List.all_eq_true]
  refine forall₂_congr fun k hk => ?_
  rw [h k (List.mem_range.1 hk)]

theorem getD_of_isPrefix {v w : List UInt8} (h : v <+: w) {i : Nat} (hi : i < v.length) :
    v.getD i 0 = w.getD i 0 := by
  obtain ⟨r, rfl⟩ := h
  simp [List.getD_eq_getElem?_getD, List.getElem?_append_left hi]

/-- A lock in a part of the stream is one in the stream. -/
theorem locks_of_isPrefix {v w : List UInt8} (h : v <+: w)
    (hlen : PACKET * SYNC_COUNT ≤ v.length) : locks tagged v 0 = locks tagged w 0 := by
  refine locks_congr fun k hk => getD_of_isPrefix h ?_
  simp only [PACKET, SYNC_COUNT] at *
  omega

/-- Four sound packets are locked on to. -/
theorem locks_flatten {ps : List Packet} (hps : ∀ q ∈ ps, Sound tagged q)
    (hlen : PACKET * SYNC_COUNT ≤ ps.flatten.length) : locks tagged ps.flatten 0 = true := by
  have hget : ∀ {k} {ps : List Packet}, (∀ q ∈ ps, Sound tagged q) →
      PACKET * k < ps.flatten.length → sync tagged (ps.flatten.getD (PACKET * k) 0) := by
    intro k
    induction k with
    | zero =>
      intro ps hps hlt
      cases ps with
      | nil => simp at hlt
      | cons q ps =>
        obtain ⟨hq, hsync⟩ := hps q List.mem_cons_self
        rw [← hsync]
        have hpos : PACKET * 0 < q.length := by rw [hq]; decide
        exact congrArg _ (getD_of_isPrefix (List.prefix_append q ps.flatten) hpos).symm
    | succ k ih =>
      intro ps hps hlt
      cases ps with
      | nil => simp at hlt
      | cons q ps =>
        obtain ⟨hq, -⟩ := hps q List.mem_cons_self
        rw [List.flatten_cons, List.length_append, hq, Nat.mul_succ] at hlt
        rw [← ih (fun r hr => hps r (List.mem_cons_of_mem _ hr)) (by omega), Nat.mul_succ,
          Nat.add_comm, ← getD_drop, List.flatten_cons, List.drop_left' hq]
  unfold locks
  refine List.all_eq_true.2 fun k hk => ?_
  rw [Nat.zero_add]
  refine hget hps ?_
  have := List.mem_range.1 hk
  simp only [PACKET, SYNC_COUNT] at *
  omega

/-- What one call does with a part `v` of what is left of a clean stream. -/
theorem scan_spec {ps : List Packet} (hps : ∀ q ∈ ps, Sound tagged q) {g v : List UInt8}
    (hg : NoLock tagged g (g ++ ps.flatten)) (hv : v <+: g ++ ps.flatten) :
    ∃ k n, k ≤ ps.length ∧ scan tagged v = (routed tagged (ps.take k), v.drop n) ∧
      n ≤ v.length ∧ v.length < n + PACKET * SYNC_COUNT ∧
      (n = g.length + PACKET * k ∨ k = 0 ∧ n ≤ g.length) := by
  induction g generalizing v with
  | nil =>
    rw [List.nil_append] at hv
    by_cases hlen : PACKET * SYNC_COUNT ≤ v.length
    · obtain ⟨k, hk, hstrip, hle, hlt⟩ := strip_spec hps hv
      have hl : locks tagged v 0 = true := by
        rw [locks_of_isPrefix hv hlen]
        exact locks_flatten hps (Nat.le_trans hlen hv.length_le)
      refine ⟨k, PACKET * k, hk, ?_, hle, ?_, .inl (by simp)⟩
      · have hrest : scan tagged (v.drop (PACKET * k)) = ([], v.drop (PACKET * k)) := by
          rw [scan, if_neg]
          rw [List.length_drop]
          simp only [PACKET, SYNC_COUNT] at *
          omega
        rw [scan, if_pos hlen, if_pos hl, hstrip]
        dsimp only
        rw [hrest, List.append_nil]
      · simp only [PACKET, SYNC_COUNT] at *
        omega
    · refine ⟨0, 0, Nat.zero_le _, ?_, Nat.zero_le _, by omega, .inr ⟨rfl, Nat.le_refl 0⟩⟩
      rw [scan, if_neg hlen]
      rfl
  | cons b g ih =>
    by_cases hlen : PACKET * SYNC_COUNT ≤ v.length
    · -- Long enough to lock, were there a lock to be had inside `g`.
      have hl : locks tagged v 0 = false := by
        rw [locks_of_isPrefix hv hlen]
        refine hg 0 (Nat.succ_pos _) ?_
        have := hv.length_le
        simp only [PACKET, SYNC_COUNT] at *
        omega
      cases v with
      | nil => exact absurd hlen (by simp [PACKET, SYNC_COUNT])
      | cons b' v =>
        rw [List.cons_append] at hv
        have hg' : NoLock tagged g (g ++ ps.flatten) := by
          intro i hi hw
          rw [← hg (i + 1) (Nat.succ_lt_succ hi) (by
            rw [List.cons_append, List.length_cons]
            omega)]
          refine locks_congr fun k _ => ?_
          rw [List.cons_append, Nat.add_right_comm, List.getD_cons_succ]
        obtain ⟨k, n, hk, hscan, hn, hlt, hpos⟩ := ih hg' (List.cons_prefix_cons.1 hv).2
        refine ⟨k, n + 1, hk, ?_, Nat.succ_le_succ hn, ?_, ?_⟩
        · rw [scan, if_pos hlen, if_neg (by rw [hl]; exact Bool.false_ne_true)]
          exact hscan
        · rw [List.length_cons]
          omega
        · rw [List.length_cons]
          omega
    · refine ⟨0, 0, Nat.zero_le _, ?_, Nat.zero_le _, by omega, .inr ⟨rfl, Nat.zero_le _⟩⟩
      rw [scan, if_neg hlen]
      rfl

/-! ## Transfers -/

/-- What was handed out so far, and what is carried on, after one more transfer. -/
def feed (tagged : Bool) (st : List (Nat × Packet) × List UInt8) (data : List UInt8) :
    List (Nat × Packet) × List UInt8 :=
  ((st.1 ++ (demux tagged st.2 data).1), (demux tagged st.2 data).2)

/-- After some of a clean stream was received: `k` packets are out, and what is carried on is
what was received less the first `n` bytes, which are those packets and the garbage before. -/
structure Splits (tagged : Bool) (g : List UInt8) (packets : List Packet) (input : List UInt8)
    (st : List (Nat × Packet) × List UInt8) (k n : Nat) : Prop where
  le : k ≤ packets.length
  out : st.1 = routed tagged (packets.take k)
  carry : st.2 = input.drop n
  consumed : n = g.length + PACKET * k ∨ k = 0 ∧ n ≤ g.length
  consumed_le : n ≤ input.length
  short : st.2.length < PACKET * SYNC_COUNT

variable {g : List UInt8} {packets : List Packet}

theorem routed_take_add (ps : List Packet) (i j : Nat) :
    routed tagged (ps.take (i + j)) =
      routed tagged (ps.take i) ++ routed tagged ((ps.drop i).take j) := by
  unfold routed
  rw [← List.filterMap_append, List.take_add]

theorem drop_flatten_packets {ps : List Packet} (hps : ∀ q ∈ ps, Sound tagged q) (k : Nat) :
    ps.flatten.drop (PACKET * k) = (ps.drop k).flatten := by
  induction k generalizing ps with
  | zero => rfl
  | succ k ih =>
    cases ps with
    | nil => rfl
    | cons q ps =>
      rw [Nat.mul_succ, Nat.add_comm, ← List.drop_drop, List.flatten_cons,
        List.drop_left' (hps q List.mem_cons_self).1,
        ih fun r hr => hps r (List.mem_cons_of_mem _ hr), List.drop_succ_cons]

theorem NoLock.drop {w : List UInt8} (h : NoLock tagged g (g ++ w)) (n : Nat) :
    NoLock tagged (g.drop n) (g.drop n ++ w) := by
  intro i hi hw
  rw [List.length_drop] at hi
  have hle : n ≤ g.length := by omega
  have hdrop : g.drop n ++ w = (g ++ w).drop n := by rw [List.drop_append_of_le_length hle]
  rw [hdrop, List.length_drop] at hw
  rw [hdrop, ← h (n + i) (by omega) (by omega)]
  exact locks_congr fun k _ => by rw [getD_drop, Nat.add_assoc]

/-- The step: one more transfer of a clean stream. -/
theorem Splits.feed (hp : ∀ q ∈ packets, Sound tagged q)
    (hg : NoLock tagged g (g ++ packets.flatten)) {input data : List UInt8}
    {st : List (Nat × Packet) × List UInt8} {k n : Nat} (h : Splits tagged g packets input st k n)
    (hw : input ++ data <+: g ++ packets.flatten) :
    ∃ k' n', Splits tagged g packets (input ++ data) (feed tagged st data) k' n' := by
  have hbuf : st.2 ++ data = (input ++ data).drop n := by
    rw [h.carry, List.drop_append_of_le_length h.consumed_le]
  have hpre : (input ++ data).drop n <+: (g ++ packets.flatten).drop n :=
    List.IsPrefix.drop hw n
  have hps : ∀ q ∈ packets.drop k, Sound tagged q := fun q hq => hp q (List.mem_of_mem_drop hq)
  -- What is left of the stream is garbage and packets again.
  have hleft : (g ++ packets.flatten).drop n = g.drop n ++ (packets.drop k).flatten ∧
      NoLock tagged (g.drop n) (g.drop n ++ (packets.drop k).flatten) := by
    rcases h.consumed with hn | ⟨rfl, hn⟩
    · have hnil : g.drop n = [] := List.drop_of_length_le (by omega)
      rw [hnil, hn, ← List.drop_drop, List.drop_left, drop_flatten_packets hp]
      exact ⟨rfl, fun i hi => absurd hi (Nat.not_lt_zero i)⟩
    · rw [List.drop_append_of_le_length hn]
      exact ⟨rfl, hg.drop n⟩
  rw [hleft.1] at hpre
  obtain ⟨k', n', hk', hscan, hn', hlt, hpos⟩ := scan_spec hps hleft.2 hpre
  rw [List.length_drop] at hk' hpos hn' hlt
  have hdemux : demux tagged st.2 data = (routed tagged ((packets.drop k).take k'),
      (input ++ data).drop (n + n')) := by
    rw [demux_eq, hbuf, hscan, List.drop_drop]
  have hle := h.le
  have hcle := h.consumed_le
  have hlen : (input ++ data).length = input.length + data.length := List.length_append
  refine ⟨k + k', n + n', by omega, ?_, ?_, ?_, by omega, ?_⟩
  · rw [Px4.feed, hdemux, h.out, routed_take_add]
  · rw [Px4.feed, hdemux]
  · have := h.consumed
    simp only [PACKET] at *
    omega
  · rw [Px4.feed, hdemux, List.length_drop]
    omega

/-- **`demux` splits a clean stream exactly, however it is cut.** After each transfer the packets
handed out are the first ones, and what is carried on is the rest of what was received. -/
theorem demux_splits_exactly (hp : ∀ q ∈ packets, Sound tagged q)
    (hg : NoLock tagged g (g ++ packets.flatten)) {transfers : List (List UInt8)}
    (ht : transfers.flatten = g ++ packets.flatten) {fed : List (List UInt8)}
    (hfed : fed <+: transfers) :
    ∃ k n, Splits tagged g packets fed.flatten (fed.foldl (feed tagged) ([], [])) k n := by
  have hw : fed.flatten <+: g ++ packets.flatten := by
    obtain ⟨r, rfl⟩ := hfed
    rw [← ht, List.flatten_append]
    exact List.prefix_append _ _
  clear ht hfed
  induction fed using List.reverseRec with
  | nil =>
    exact ⟨0, 0, Nat.zero_le _, rfl, rfl, .inr ⟨rfl, Nat.zero_le _⟩, Nat.zero_le _,
      by simp [PACKET, SYNC_COUNT]⟩
  | append_singleton fed data ih =>
    have hflat : (fed ++ [data]).flatten = fed.flatten ++ data := by simp
    rw [hflat] at hw ⊢
    obtain ⟨k, n, h⟩ := ih ((List.prefix_append _ _).trans hw)
    rw [List.foldl_append]
    exact h.feed hp hg hw

/-- A packet of the first input. -/
def firstInput : Packet := 0x17 :: List.replicate 187 0x00

theorem demux_splits_cut :
    let w := 0xaa :: (List.replicate 4 firstInput).flatten
    ∃ k n, Splits true [0xaa] (List.replicate 4 firstInput) w
      ([w.take 700, w.drop 700].foldl (feed true) ([], [])) k n := by
  intro w
  have hflat : [w.take 700, w.drop 700].flatten = w := by simp
  have h : ∃ k n, Splits true [0xaa] (List.replicate 4 firstInput)
      [w.take 700, w.drop 700].flatten
      ([w.take 700, w.drop 700].foldl (feed true) ([], [])) k n := by
    refine demux_splits_exactly (fun q hq => ?_) (fun i hi _ => ?_) hflat (List.prefix_refl _)
    · rw [List.eq_of_mem_replicate hq]
      exact ⟨rfl, by decide⟩
    · rw [List.length_singleton, Nat.lt_one_iff] at hi
      subst hi
      decide
  rwa [hflat] at h

end Tunelith.Px4
