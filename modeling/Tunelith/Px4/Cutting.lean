import Tunelith.Px4.Demux

/-!
# Where the transfers of a bridge end

Whether `demux` is locked is not kept in what it carries: each call looks for four sync bytes
again, where a longer transfer would have gone on packet by packet. So where a transfer ends may
decide which packets are kept.

* `Reads` — how the whole input, received at once, is read: where packets are looked for, and
  where they are taken one after the other.
* `Exposed` — a packet that is taken so only because no transfer ended right before it.
* `cut_independent_iff` — without such a packet of some tuner, and only then, it does not matter
  where the transfers end.
-/

namespace Tunelith.Px4

/-! ## By position -/

/-- Where the inner loop takes packets from `p` on in `u`, and where it stops. -/
def takes (tagged : Bool) (u : List UInt8) (p : Nat) : List Nat × Nat :=
  if PACKET ≤ u.length - p ∧ sync tagged (u.getD p 0) then
    let r := takes tagged u (p + PACKET)
    (p :: r.1, r.2)
  else ([], p)
termination_by u.length - p
decreasing_by
  simp only [PACKET] at *
  omega

theorem le_takes (tagged : Bool) (u : List UInt8) (p : Nat) : p ≤ (takes tagged u p).2 := by
  fun_induction takes tagged u p with
  | case1 p h r ih => exact Nat.le_trans (Nat.le_add_right p PACKET) ih
  | case2 p h => exact Nat.le_refl p

theorem lt_takes {tagged : Bool} {u : List UInt8} {p : Nat}
    (h : PACKET ≤ u.length - p ∧ sync tagged (u.getD p 0)) :
    p + PACKET ≤ (takes tagged u p).2 := by
  rw [takes, if_pos h]
  exact le_takes ..

/-- Where the outer loop takes packets from `p` on in `u`, and where it stops. -/
def finds (tagged : Bool) (u : List UInt8) (p : Nat) : List Nat × Nat :=
  if PACKET * SYNC_COUNT ≤ u.length - p then
    if locks tagged u p then
      let r := takes tagged u p
      let q := finds tagged u r.2
      (r.1 ++ q.1, q.2)
    else finds tagged u (p + 1)
  else ([], p)
termination_by u.length - p
decreasing_by
  · rename_i hlen hl
    have := lt_takes ⟨by simp only [PACKET, SYNC_COUNT] at *; omega, sync_of_locks hl⟩
    simp only [PACKET, SYNC_COUNT] at *
    omega
  · simp only [PACKET, SYNC_COUNT] at *
    omega

/-- The packet at `p`, if it is some tuner's, as it is handed out. -/
def handedAt (tagged : Bool) (w : List UInt8) (p : Nat) : Option (Nat × Packet) :=
  route tagged ((w.drop p).take PACKET)

variable {tagged : Bool} {u w : List UInt8} {p k : Nat}

theorem strip_eq_takes (tagged : Bool) (u : List UInt8) (p : Nat) :
    strip tagged (u.drop p) =
      ((takes tagged u p).1.filterMap (handedAt tagged u), u.drop (takes tagged u p).2) := by
  fun_induction takes tagged u p with
  | case1 p h r ih =>
    rw [strip, if_pos (by rw [List.length_drop, getD_drop]; exact h), List.drop_drop, ih]
    dsimp only
    rw [List.filterMap_cons]
    change ((handedAt tagged u p).toList ++ _, _) = _
    cases handedAt tagged u p <;> rfl
  | case2 p h =>
    rw [strip, if_neg (by rw [List.length_drop, getD_drop]; exact h)]
    rfl

/-- What `demux` does is to take the packets at those positions. -/
theorem scan_eq_finds (tagged : Bool) (u : List UInt8) (p : Nat) :
    scan tagged (u.drop p) =
      ((finds tagged u p).1.filterMap (handedAt tagged u), u.drop (finds tagged u p).2) := by
  fun_induction finds tagged u p with
  | case1 p hlen hl r q ih =>
    rw [scan, if_pos (by rw [List.length_drop]; exact hlen), if_pos (by rw [locks_drop]; exact hl),
      strip_eq_takes]
    dsimp only
    rw [ih, List.filterMap_append]
  | case2 p hlen hl ih =>
    rw [scan, if_pos (by rw [List.length_drop]; exact hlen),
      if_neg (by rw [locks_drop]; exact hl), List.tail_drop]
    exact ih
  | case3 p hlen =>
    rw [scan, if_neg (by rw [List.length_drop]; exact hlen)]
    rfl

/-- The packets taken from `p` on are from `p` on, and whole. -/
structure Within (u : List UInt8) (p : Nat) (r : List Nat × Nat) : Prop where
  le : p ≤ r.2
  le_length : r.2 ≤ u.length
  mem : ∀ x ∈ r.1, p ≤ x ∧ x + PACKET ≤ u.length

theorem takes_within (h : p ≤ u.length) : Within u p (takes tagged u p) := by
  fun_induction takes tagged u p with
  | case1 p ht r ih =>
    have hlen : p + PACKET ≤ u.length := by
      simp only [PACKET] at *
      omega
    obtain ⟨hle, hlast, hmem⟩ := ih hlen
    refine ⟨Nat.le_trans (Nat.le_add_right p PACKET) hle, hlast, fun x hx => ?_⟩
    rcases List.mem_cons.1 hx with rfl | hx
    · exact ⟨Nat.le_refl _, hlen⟩
    · exact ⟨Nat.le_trans (Nat.le_add_right p PACKET) (hmem x hx).1, (hmem x hx).2⟩
  | case2 p ht => exact ⟨Nat.le_refl p, h, fun x hx => by cases hx⟩

theorem finds_within (h : p ≤ u.length) : Within u p (finds tagged u p) := by
  fun_induction finds tagged u p with
  | case1 p hlen hl r q ih =>
    have ht : Within u p r := takes_within h
    obtain ⟨hle, hlast, hmem⟩ := ih ht.le_length
    refine ⟨Nat.le_trans ht.le hle, hlast, fun x hx => ?_⟩
    rcases List.mem_append.1 hx with hx | hx
    · exact ht.mem x hx
    · exact ⟨Nat.le_trans ht.le (hmem x hx).1, (hmem x hx).2⟩
  | case2 p hlen hl ih =>
    have hlt : p + 1 ≤ u.length := by
      simp only [PACKET, SYNC_COUNT] at *
      omega
    obtain ⟨hle, hlast, hmem⟩ := ih hlt
    exact ⟨Nat.le_of_succ_le hle, hlast,
      fun x hx => ⟨Nat.le_of_succ_le (hmem x hx).1, (hmem x hx).2⟩⟩
  | case3 p hlen => exact ⟨Nat.le_refl p, h, fun x hx => by cases hx⟩

/-- What is left once the outer loop stops is too short to lock on. -/
theorem finds_short (tagged : Bool) (u : List UInt8) (p : Nat) :
    u.length < (finds tagged u p).2 + PACKET * SYNC_COUNT := by
  fun_induction finds tagged u p with
  | case1 p hlen hl r q ih => exact ih
  | case2 p hlen hl ih => exact ih
  | case3 p hlen => dsimp only; omega

/-! ## Transfers -/

/-- What was received, the positions of the packets taken from it, and the first byte of it that
is still carried, after one more transfer. -/
def readOn (tagged : Bool) (st : List UInt8 × List Nat × Nat) (data : List UInt8) :
    List UInt8 × List Nat × Nat :=
  let u := st.1 ++ data
  let r := finds tagged u st.2.2
  (u, st.2.1 ++ r.1, r.2)

/-- The packets handed out of consecutive transfers. -/
def received (tagged : Bool) (cs : List (List UInt8)) : List (Nat × Packet) :=
  (cs.foldl (feed tagged) ([], [])).1

/-- The positions, in all that was received, of the packets taken. -/
def taken (tagged : Bool) (cs : List (List UInt8)) : List Nat × Nat :=
  (cs.foldl (readOn tagged) ([], [], 0)).2

/-- The positions of the packets handed out, which are those of some tuner. -/
def handed (tagged : Bool) (cs : List (List UInt8)) : List Nat :=
  (taken tagged cs).1.filter fun p => (handedAt tagged cs.flatten p).isSome

theorem handedAt_of_isPrefix (h : u <+: w) (hp : p + PACKET ≤ u.length) :
    handedAt tagged u p = handedAt tagged w p := by
  obtain ⟨r, rfl⟩ := h
  unfold handedAt
  rw [List.drop_append_of_le_length (by omega), List.take_append_of_le_length (by
    rw [List.length_drop]
    omega)]

/-- What the run with positions and the run of the code have in common. -/
structure Tracks (tagged : Bool) (input : List UInt8) (st : List UInt8 × List Nat × Nat)
    (out : List (Nat × Packet) × List UInt8) : Prop where
  input_eq : st.1 = input
  le : st.2.2 ≤ input.length
  whole : ∀ x ∈ st.2.1, x + PACKET ≤ input.length
  out_eq : out.1 = st.2.1.filterMap (handedAt tagged input)
  carry_eq : out.2 = input.drop st.2.2

theorem Tracks.step {input data : List UInt8} {st : List UInt8 × List Nat × Nat}
    {out : List (Nat × Packet) × List UInt8} (h : Tracks tagged input st out) :
    Tracks tagged (input ++ data) (readOn tagged st data) (feed tagged out data) := by
  have hlen : (input ++ data).length = input.length + data.length := List.length_append
  have hle := h.le
  have hw : Within (input ++ data) st.2.2 (finds tagged (input ++ data) st.2.2) :=
    finds_within (by omega)
  have hdemux : demux tagged out.2 data = scan tagged ((input ++ data).drop st.2.2) := by
    rw [demux_eq, h.carry_eq, List.drop_append_of_le_length hle]
  have hread : readOn tagged st data =
      (input ++ data, st.2.1 ++ (finds tagged (input ++ data) st.2.2).1,
        (finds tagged (input ++ data) st.2.2).2) := by
    unfold readOn
    rw [h.input_eq]
  rw [hread]
  refine ⟨rfl, hw.le_length, fun x hx => ?_, ?_, ?_⟩
  · rcases List.mem_append.1 hx with hx | hx
    · have := h.whole x hx
      omega
    · exact (hw.mem x hx).2
  · have hold : st.2.1.filterMap (handedAt tagged input) =
        st.2.1.filterMap (handedAt tagged (input ++ data)) :=
      List.filterMap_congr fun x hx =>
        handedAt_of_isPrefix (List.prefix_append input data) (h.whole x hx)
    unfold feed
    rw [hdemux, scan_eq_finds, h.out_eq, hold, List.filterMap_append]
  · unfold feed
    rw [hdemux, scan_eq_finds]

theorem tracks (tagged : Bool) (cs : List (List UInt8)) :
    Tracks tagged cs.flatten (cs.foldl (readOn tagged) ([], [], 0))
      (cs.foldl (feed tagged) ([], [])) := by
  induction cs using List.reverseRec with
  | nil => exact ⟨rfl, Nat.le_refl 0, fun x hx => absurd hx List.not_mem_nil, rfl, rfl⟩
  | append_singleton cs data ih =>
    rw [List.flatten_concat, List.foldl_concat, List.foldl_concat]
    exact ih.step

/-- The packets handed out are the ones at those positions. -/
theorem received_eq (tagged : Bool) (cs : List (List UInt8)) :
    received tagged cs = (handed tagged cs).filterMap (handedAt tagged cs.flatten) := by
  refine (tracks tagged cs).out_eq.trans ?_
  unfold handed
  rw [List.filterMap_filter]
  refine List.filterMap_congr fun x _ => ?_
  cases handedAt tagged cs.flatten x <;> rfl

/-! ## Received at once -/

/-- How `w` is read, all of it received at once: `Reads tagged w p k` is that it is read from `p`
on with the `k` packets before `p` taken in a row; from `k = 0` on a place to lock is looked for. -/
inductive Reads (tagged : Bool) (w : List UInt8) : Nat → Nat → Prop
  | start : Reads tagged w 0 0
  | skip {p : Nat} : Reads tagged w p 0 → PACKET * SYNC_COUNT ≤ w.length - p →
      locks tagged w p = false → Reads tagged w (p + 1) 0
  | lock {p : Nat} : Reads tagged w p 0 → PACKET * SYNC_COUNT ≤ w.length - p →
      locks tagged w p = true → Reads tagged w (p + PACKET) 1
  | take {p k : Nat} : Reads tagged w p (k + 1) → PACKET ≤ w.length - p →
      sync tagged (w.getD p 0) = true → Reads tagged w (p + PACKET) (k + 2)
  | lose {p k : Nat} : Reads tagged w p (k + 1) → PACKET ≤ w.length - p →
      sync tagged (w.getD p 0) = false → Reads tagged w p 0

/-- After four packets or more in a row, the packet at `p` begins with a sync byte too, but one of
the next three does not; and there are enough bytes left for a call to find out. -/
def Exposed (tagged : Bool) (w : List UInt8) (p : Nat) : Prop :=
  ∃ k, SYNC_COUNT ≤ k ∧ Reads tagged w p k ∧ PACKET * SYNC_COUNT ≤ w.length - p ∧
    sync tagged (w.getD p 0) = true ∧ locks tagged w p = false

/-- `cs` hands out what `cs'` does, less some packets in the last 4 * 188 - 1 bytes of `w`. -/
def Behind (tagged : Bool) (w : List UInt8) (cs cs' : List (List UInt8)) : Prop :=
  ∃ more, handed tagged cs' = handed tagged cs ++ more ∧
    received tagged cs' = received tagged cs ++ more.filterMap (handedAt tagged w) ∧
    ∀ p ∈ more, w.length ≤ p + (PACKET * SYNC_COUNT - 1)

/-- Where the transfers end does not decide which packets of `w` are kept. -/
def CutIndependent (tagged : Bool) (w : List UInt8) : Prop :=
  ∀ cs cs', cs.flatten = w → cs'.flatten = w → Behind tagged w cs cs' ∨ Behind tagged w cs' cs

/-- What is taken from `p` on while locked, and after. -/
def holds (tagged : Bool) (w : List UInt8) (p : Nat) : List Nat × Nat :=
  let r := takes tagged w p
  let q := finds tagged w r.2
  (r.1 ++ q.1, q.2)

theorem finds_of_locks (hlen : PACKET * SYNC_COUNT ≤ w.length - p) (hl : locks tagged w p) :
    finds tagged w p = holds tagged w p := by
  rw [finds, if_pos hlen, if_pos hl]
  rfl

theorem finds_of_not_locks (hlen : PACKET * SYNC_COUNT ≤ w.length - p)
    (hl : locks tagged w p = false) : finds tagged w p = finds tagged w (p + 1) := by
  rw [finds, if_pos hlen, if_neg (by rw [hl]; exact Bool.false_ne_true)]

theorem holds_of_sync (hlen : PACKET ≤ w.length - p) (hs : sync tagged (w.getD p 0)) :
    holds tagged w p =
      (p :: (holds tagged w (p + PACKET)).1, (holds tagged w (p + PACKET)).2) := by
  unfold holds
  rw [takes, if_pos ⟨hlen, hs⟩]
  rfl

theorem holds_of_lost (hs : sync tagged (w.getD p 0) = false) :
    holds tagged w p = finds tagged w p := by
  unfold holds
  rw [takes, if_neg fun h => Bool.false_ne_true (hs.symm.trans h.2)]
  rfl

theorem holds_within (h : p ≤ w.length) : Within w p (holds tagged w p) := by
  have ht : Within w p (takes tagged w p) := takes_within h
  have hf : Within w (takes tagged w p).2 (finds tagged w (takes tagged w p).2) :=
    finds_within ht.le_length
  refine ⟨Nat.le_trans ht.le hf.le, hf.le_length, fun x hx => ?_⟩
  rcases List.mem_append.1 hx with hx | hx
  · exact ht.mem x hx
  · exact ⟨Nat.le_trans ht.le (hf.mem x hx).1, (hf.mem x hx).2⟩

/-- While locked, a part of the input is read like the whole. -/
theorem holds_of_isPrefix (hu : u <+: w) (hp : p ≤ u.length) :
    (holds tagged w p).1 =
      (takes tagged u p).1 ++ (holds tagged w (takes tagged u p).2).1 := by
  fun_induction takes tagged u p with
  | case1 p ht r ih =>
    have hle := hu.length_le
    have hlen : p + PACKET ≤ u.length := by
      simp only [PACKET] at *
      omega
    have hs : sync tagged (w.getD p 0) := by
      rw [← getD_of_isPrefix hu (by simp only [PACKET] at *; omega)]
      exact ht.2
    rw [holds_of_sync (by omega) hs, ih hlen]
    rfl
  | case2 p ht => rfl

theorem Reads.takes (h : Reads tagged w p (k + 1)) (hu : u <+: w) :
    ∃ k', k ≤ k' ∧ Reads tagged w (takes tagged u p).2 (k' + 1) := by
  fun_induction Px4.takes tagged u p generalizing k with
  | case1 p ht r =>
    rename_i ih
    have hle := hu.length_le
    have hs : sync tagged (w.getD p 0) := by
      rw [← getD_of_isPrefix hu (by simp only [PACKET] at *; omega)]
      exact ht.2
    obtain ⟨k', hk, hr⟩ := ih (h.take (by omega) hs)
    exact ⟨k', Nat.le_of_succ_le hk, hr⟩
  | case2 p ht => exact ⟨k, Nat.le_refl k, h⟩

theorem sync_of_locks_at (h : locks tagged w p) {i : Nat} (hi : i < SYNC_COUNT) :
    sync tagged (w.getD (p + PACKET * i) 0) :=
  List.all_eq_true.1 h i (List.mem_range.2 hi)

/-- Once it locked, four packets are taken at least. -/
theorem Reads.locked (h : Reads tagged w p 0) (hu : u <+: w)
    (hlen : PACKET * SYNC_COUNT ≤ u.length - p) (hl : locks tagged u p) :
    ∃ k, SYNC_COUNT ≤ k ∧ Reads tagged w (Px4.takes tagged u p).2 k := by
  have hle := hu.length_le
  have hget : ∀ i < SYNC_COUNT, sync tagged (w.getD (p + PACKET * i) 0) := by
    intro i hi
    rw [← getD_of_isPrefix hu (by simp only [PACKET, SYNC_COUNT] at *; omega)]
    exact sync_of_locks_at hl hi
  have hlw : locks tagged w p :=
    List.all_eq_true.2 fun i hi => hget i (List.mem_range.1 hi)
  have h₁ := h.lock (by omega) hlw
  have h₂ := h₁.take (by simp only [PACKET, SYNC_COUNT] at *; omega) (hget 1 (by decide))
  have h₃ := h₂.take (by simp only [PACKET, SYNC_COUNT] at *; omega) (hget 2 (by decide))
  have h₄ := h₃.take (by simp only [PACKET, SYNC_COUNT] at *; omega) (hget 3 (by decide))
  have htakes : (Px4.takes tagged u p).2 =
      (Px4.takes tagged u (p + PACKET + PACKET + PACKET + PACKET)).2 := by
    have hstep : ∀ i < SYNC_COUNT, (Px4.takes tagged u (p + PACKET * i)).2 =
        (Px4.takes tagged u (p + PACKET * (i + 1))).2 := by
      intro i hi
      have hlen : PACKET ≤ u.length - (p + PACKET * i) := by
        simp only [PACKET, SYNC_COUNT] at *
        omega
      rw [Px4.takes, if_pos ⟨hlen, sync_of_locks_at hl hi⟩, Nat.mul_succ, Nat.add_assoc]
    exact (hstep 0 (by decide)).trans ((hstep 1 (by decide)).trans
      ((hstep 2 (by decide)).trans (hstep 3 (by decide))))
  obtain ⟨k', hk, hr⟩ := h₄.takes hu
  exact ⟨k' + 1, Nat.succ_le_succ hk, htakes ▸ hr⟩

/-! ## Received in parts -/

/-- What is still to be taken once the first `p` bytes are done with, were all of `w` received at
once: a place to lock is looked for, or the lock has held for four packets or more. -/
def Left (tagged : Bool) (w : List UInt8) (p : Nat) (rest : List Nat) : Prop :=
  Reads tagged w p 0 ∧ rest = (finds tagged w p).1 ∨
    ∃ k, SYNC_COUNT ≤ k ∧ Reads tagged w p k ∧ rest = (holds tagged w p).1

/-- Without an exposed packet, a part of the input is read like the whole. -/
theorem Left.step (hw : ∀ p, ¬Exposed tagged w p) (hu : u <+: w) {rest : List Nat}
    (h : Left tagged w p rest) (hp : p ≤ u.length) :
    ∃ rest', rest = (finds tagged u p).1 ++ rest' ∧ Left tagged w (finds tagged u p).2 rest' := by
  have hle := hu.length_le
  fun_induction finds tagged u p generalizing rest with
  | case1 p hlen hl r q =>
    rename_i ih
    have hlw : locks tagged w p := by
      rw [← hl]
      exact locks_congr fun i hi =>
        (getD_of_isPrefix hu (by simp only [PACKET, SYNC_COUNT] at *; omega)).symm
    have hrest : rest = (holds tagged w p).1 := by
      rcases h with ⟨-, h⟩ | ⟨-, -, -, h⟩
      · rw [h, finds_of_locks (by omega) hlw]
      · exact h
    have hreads : ∃ k, SYNC_COUNT ≤ k ∧ Reads tagged w r.2 k := by
      rcases h with ⟨h, -⟩ | ⟨k, hk, h, -⟩
      · exact h.locked hu hlen hl
      · obtain ⟨k, rfl⟩ := Nat.exists_eq_add_of_le' (Nat.le_trans (by decide : 1 ≤ SYNC_COUNT) hk)
        obtain ⟨k', hk', h⟩ := h.takes hu
        exact ⟨k' + 1, Nat.le_trans hk (Nat.succ_le_succ hk'), h⟩
    obtain ⟨k, hk, hr⟩ := hreads
    obtain ⟨rest', heq, hleft⟩ := ih (.inr ⟨k, hk, hr, rfl⟩) (takes_within hp).le_length
    exact ⟨rest', by rw [hrest, holds_of_isPrefix hu hp, heq, List.append_assoc], hleft⟩
  | case2 p hlen hl ih =>
    have hl : locks tagged w p = false := by
      rw [← Bool.not_eq_true]
      intro hlw
      refine hl ?_
      rw [← hlw]
      exact locks_congr fun i hi =>
        getD_of_isPrefix hu (by simp only [PACKET, SYNC_COUNT] at *; omega)
    have hfinds : Reads tagged w p 0 ∧ rest = (finds tagged w p).1 := by
      rcases h with h | ⟨k, hk, h, hrest⟩
      · exact h
      · cases hs : sync tagged (w.getD p 0) with
        | true => exact absurd ⟨k, hk, h, by omega, hs, hl⟩ (hw p)
        | false =>
          obtain ⟨k, rfl⟩ := Nat.exists_eq_add_of_le' (Nat.le_trans (by decide : 1 ≤ SYNC_COUNT) hk)
          exact ⟨h.lose (by simp only [PACKET, SYNC_COUNT] at *; omega) hs,
            by rw [hrest, holds_of_lost hs]⟩
    refine ih (.inl ⟨hfinds.1.skip (by omega) hl, ?_⟩) (by
      simp only [PACKET, SYNC_COUNT] at *
      omega)
    rw [hfinds.2, finds_of_not_locks (by omega) hl]
  | case3 p hlen => exact ⟨rest, rfl, h⟩

theorem Left.near_end {rest : List Nat} (h : Left tagged w p rest) (hp : p ≤ w.length)
    (hshort : w.length < p + PACKET * SYNC_COUNT) :
    ∀ x ∈ rest, w.length ≤ x + (PACKET * SYNC_COUNT - 1) := by
  intro x hx
  have hle : p ≤ x := by
    rcases h with ⟨-, rfl⟩ | ⟨-, -, -, rfl⟩
    · exact ((finds_within hp).mem x hx).1
    · exact ((holds_within hp).mem x hx).1
  omega

/-- Without an exposed packet, what was taken is what is taken of the whole, as far as it was
received. -/
theorem taken_left (hw : ∀ p, ¬Exposed tagged w p) {cs : List (List UInt8)}
    (hcs : cs.flatten <+: w) :
    ∃ rest, (finds tagged w 0).1 = (taken tagged cs).1 ++ rest ∧
      Left tagged w (taken tagged cs).2 rest := by
  induction cs using List.reverseRec with
  | nil => exact ⟨_, rfl, .inl ⟨.start, rfl⟩⟩
  | append_singleton cs data ih =>
    rw [List.flatten_concat] at hcs
    obtain ⟨rest, heq, hleft⟩ := ih ((List.prefix_append _ _).trans hcs)
    have htracks := tracks tagged cs
    have hread : taken tagged (cs ++ [data]) =
        ((taken tagged cs).1 ++ (finds tagged (cs.flatten ++ data) (taken tagged cs).2).1,
          (finds tagged (cs.flatten ++ data) (taken tagged cs).2).2) := by
      unfold taken
      rw [List.foldl_concat, readOn, htracks.input_eq]
    obtain ⟨rest', hrest, hleft⟩ := hleft.step hw hcs (by
      rw [List.length_append]
      exact Nat.le_trans htracks.le (Nat.le_add_right _ _))
    rw [hread]
    exact ⟨rest', by rw [heq, hrest, List.append_assoc], hleft⟩

theorem taken_short (tagged : Bool) (cs : List (List UInt8)) :
    cs.flatten.length < (taken tagged cs).2 + PACKET * SYNC_COUNT := by
  induction cs using List.reverseRec with
  | nil => exact Nat.succ_pos 751
  | append_singleton cs data _ =>
    unfold taken
    rw [List.foldl_concat, List.flatten_concat, readOn, (tracks tagged cs).input_eq]
    exact finds_short ..

/-- Once all was received, what was left out is in the last bytes. -/
theorem taken_all (hw : ∀ p, ¬Exposed tagged w p) {cs : List (List UInt8)}
    (hcs : cs.flatten = w) :
    ∃ rest, (finds tagged w 0).1 = (taken tagged cs).1 ++ rest ∧
      ∀ x ∈ rest, w.length ≤ x + (PACKET * SYNC_COUNT - 1) := by
  obtain ⟨rest, heq, hleft⟩ := @taken_left _ _ hw cs (by rw [hcs])
  have hle : (taken tagged cs).2 ≤ w.length := hcs ▸ (tracks tagged cs).le
  exact ⟨rest, heq, hleft.near_end hle (hcs ▸ taken_short tagged cs)⟩

theorem behind_of_taken {cs cs' : List (List UInt8)} (hcs : cs.flatten = w)
    (hcs' : cs'.flatten = w) {more : List Nat}
    (heq : (taken tagged cs').1 = (taken tagged cs).1 ++ more)
    (hmore : ∀ x ∈ more, w.length ≤ x + (PACKET * SYNC_COUNT - 1)) :
    Behind tagged w cs cs' := by
  have hhanded : handed tagged cs' =
      handed tagged cs ++ more.filter fun p => (handedAt tagged w p).isSome := by
    unfold handed
    rw [heq, hcs, hcs', List.filter_append]
  refine ⟨_, hhanded, ?_, fun x hx => hmore x (List.mem_filter.1 hx).1⟩
  rw [received_eq, received_eq, hhanded, List.filterMap_append, hcs, hcs']

/-- Without an exposed packet it does not matter where the transfers end. -/
theorem cutIndependent_of_not_exposed (hw : ∀ p, ¬Exposed tagged w p) :
    CutIndependent tagged w := by
  intro cs cs' hcs hcs'
  obtain ⟨rest, heq, hnear⟩ := taken_all hw hcs
  obtain ⟨rest', heq', hnear'⟩ := taken_all hw hcs'
  rcases List.append_eq_append_iff.1 (heq.symm.trans heq') with ⟨more, hm, hr⟩ | ⟨more, hm, hr⟩
  · exact .inl (behind_of_taken hcs hcs' hm fun x hx => hnear x (hr ▸ List.mem_append_left _ hx))
  · exact .inr (behind_of_taken hcs' hcs hm fun x hx => hnear' x (hr ▸ List.mem_append_left _ hx))

/-! ## Where it does matter -/

/-- What is read up to `p` is so read of every part of the input that is long enough for it: up
to where a place to lock can be looked for, or to the end of the four packets locked on. -/
theorem Reads.split (h : Reads tagged w p k) :
    ∃ before, ∀ u, u <+: w →
      (k = 0 → p + (PACKET * SYNC_COUNT - 1) ≤ u.length →
        (finds tagged u 0) = (before ++ (finds tagged u p).1, (finds tagged u p).2)) ∧
      (k ≠ 0 → p + PACKET * (SYNC_COUNT - k) ≤ u.length →
        (finds tagged u 0) = (before ++ (holds tagged u p).1, (holds tagged u p).2)) := by
  induction h with
  | start => exact ⟨[], fun u _ => ⟨fun _ _ => rfl, fun h => absurd rfl h⟩⟩
  | @skip p h hlen hl ih =>
    obtain ⟨before, hb⟩ := ih
    refine ⟨before, fun u hu => ⟨fun _ hle => ?_, fun h => absurd rfl h⟩⟩
    have hlu : locks tagged u p = false := by
      rw [← hl]
      exact locks_congr fun i hi =>
        getD_of_isPrefix hu (by simp only [PACKET, SYNC_COUNT] at *; omega)
    rw [(hb u hu).1 rfl (by omega),
      finds_of_not_locks (by simp only [PACKET, SYNC_COUNT] at *; omega) hlu]
  | @lock p h hlen hl ih =>
    obtain ⟨before, hb⟩ := ih
    refine ⟨before ++ [p], fun u hu => ⟨fun h => absurd h Nat.one_ne_zero, fun _ hle => ?_⟩⟩
    have hlenu : PACKET * SYNC_COUNT ≤ u.length - p := by
      simp only [PACKET, SYNC_COUNT] at *
      omega
    have hlu : locks tagged u p := by
      rw [← hl]
      exact locks_congr fun i hi =>
        getD_of_isPrefix hu (by simp only [PACKET, SYNC_COUNT] at *; omega)
    rw [(hb u hu).1 rfl (by simp only [PACKET, SYNC_COUNT] at *; omega), finds_of_locks hlenu hlu,
      holds_of_sync (by simp only [PACKET, SYNC_COUNT] at *; omega) (sync_of_locks hlu),
      List.append_assoc]
    rfl
  | @take p k h hlen hs ih =>
    obtain ⟨before, hb⟩ := ih
    refine ⟨before ++ [p], fun u hu => ⟨fun h => absurd h (Nat.succ_ne_zero _), fun _ hle => ?_⟩⟩
    have hsu : sync tagged (u.getD p 0) := by
      rw [getD_of_isPrefix hu (by simp only [PACKET, SYNC_COUNT] at *; omega)]
      exact hs
    rw [(hb u hu).2 (Nat.succ_ne_zero _) (by simp only [PACKET, SYNC_COUNT] at *; omega),
      holds_of_sync (by simp only [PACKET, SYNC_COUNT] at *; omega) hsu, List.append_assoc]
    rfl
  | @lose p k h hlen hs ih =>
    obtain ⟨before, hb⟩ := ih
    refine ⟨before, fun u hu => ⟨fun _ hle => ?_, fun h => absurd rfl h⟩⟩
    have hsu : sync tagged (u.getD p 0) = false := by
      rw [getD_of_isPrefix hu (by simp only [PACKET, SYNC_COUNT] at *; omega)]
      exact hs
    rw [(hb u hu).2 (Nat.succ_ne_zero _) (by simp only [PACKET, SYNC_COUNT] at *; omega),
      holds_of_lost hsu]

/-- An exposed packet is taken of the whole, and lost where a transfer ends right before it. -/
theorem Exposed.lost (h : Exposed tagged w p) :
    ∃ before after after', (taken tagged [w]).1 = before ++ p :: after ∧
      (taken tagged [w.take p, w.drop p]).1 = before ++ after' ∧ ∀ x ∈ after', p < x := by
  obtain ⟨k, hk, hr, hlen, hs, hl⟩ := h
  have hp : p + PACKET * SYNC_COUNT ≤ w.length := by
    simp only [PACKET, SYNC_COUNT] at *
    omega
  have hk₀ : k ≠ 0 := by
    rintro rfl
    exact absurd hk (by decide)
  have hsub : p + PACKET * (SYNC_COUNT - k) = p := by
    rw [Nat.sub_eq_zero_of_le hk, Nat.mul_zero, Nat.add_zero]
  obtain ⟨before, hb⟩ := hr.split
  have hwhole : (taken tagged [w]).1 = before ++ (holds tagged w p).1 := by
    have := (hb w (List.prefix_refl w)).2 hk₀ (by rw [hsub]; omega)
    exact congrArg Prod.fst this
  have hpart : finds tagged (w.take p) 0 = (before, p) := by
    have htake : (w.take p).length = p := List.length_take_of_le (by omega)
    have := (hb (w.take p) (List.take_prefix p w)).2 hk₀
      (by rw [hsub, htake])
    rw [this, holds, takes, if_neg (by rw [htake]; simp [PACKET]), finds,
      if_neg (by rw [htake]; simp [PACKET, SYNC_COUNT])]
    simp
  have hcut : (taken tagged [w.take p, w.drop p]).1 = before ++ (finds tagged w p).1 := by
    change (readOn tagged (readOn tagged ([], [], 0) (w.take p)) (w.drop p)).2.1 = _
    unfold readOn
    dsimp only
    rw [List.nil_append, List.nil_append, List.take_append_drop, hpart]
  refine ⟨before, (holds tagged w (p + PACKET)).1, (finds tagged w (p + 1)).1, ?_, ?_, ?_⟩
  · rw [hwhole, holds_of_sync (by simp only [PACKET, SYNC_COUNT] at *; omega) hs]
  · rw [hcut, finds_of_not_locks hlen hl]
  · have hp' : p + 1 ≤ w.length := by
      simp only [PACKET, SYNC_COUNT] at *
      omega
    exact fun x hx => ((finds_within hp').mem x hx).1

theorem Exposed.handedAt_eq_none (h : Exposed tagged w p) (hw : CutIndependent tagged w) :
    handedAt tagged w p = none := by
  have hlen : PACKET * SYNC_COUNT ≤ w.length - p := by
    obtain ⟨-, -, -, hlen, -, -⟩ := h
    exact hlen
  have hflat : [w.take p, w.drop p].flatten = w := by simp
  have hflat' : [w].flatten = w := by simp
  obtain ⟨before, after, after', hwhole, hcut, hlt⟩ := h.lost
  by_contra hsome
  have hp : (handedAt tagged w p).isSome := Option.isSome_iff_ne_none.2 hsome
  have hw₁ : handed tagged [w] = before.filter (fun x => (handedAt tagged w x).isSome) ++
      p :: after.filter fun x => (handedAt tagged w x).isSome := by
    unfold handed
    rw [hflat', hwhole, List.filter_append, List.filter_cons, if_pos hp]
  have hw₂ : handed tagged [w.take p, w.drop p] =
      before.filter (fun x => (handedAt tagged w x).isSome) ++
        after'.filter fun x => (handedAt tagged w x).isSome := by
    unfold handed
    rw [hflat, hcut, List.filter_append]
  have hmem : p ∉ after'.filter fun x => (handedAt tagged w x).isSome := fun hm =>
    absurd (hlt p (List.mem_filter.1 hm).1) (Nat.lt_irrefl p)
  rcases hw [w] [w.take p, w.drop p] hflat' hflat with ⟨more, hmore, -⟩ | ⟨more, hmore, -, hnear⟩
  · -- The cut stream would have the packet too.
    rw [hw₁, hw₂, List.append_assoc, List.append_cancel_left_eq] at hmore
    exact hmem (hmore ▸ List.mem_append_left _ List.mem_cons_self)
  · rw [hw₁, hw₂, List.append_assoc, List.append_cancel_left_eq] at hmore
    have hin : p ∈ (after'.filter fun x => (handedAt tagged w x).isSome) ++ more :=
      hmore ▸ List.mem_cons_self
    have := hnear p ((List.mem_append.1 hin).resolve_left hmem)
    simp only [PACKET, SYNC_COUNT] at *
    omega

theorem handedAt_untagged (w : List UInt8) (p : Nat) : (handedAt false w p).isSome :=
  rfl

/-- **Where the transfers end decides which packets are kept only by an exposed packet.** Without
one it does not matter; and where it does not matter, no exposed packet is any tuner's. Untagged,
each is. -/
theorem cut_independent_iff (tagged : Bool) (w : List UInt8) :
    ((∀ p, ¬Exposed tagged w p) → CutIndependent tagged w) ∧
      (CutIndependent tagged w → ∀ p, Exposed tagged w p → handedAt tagged w p = none) ∧
      (tagged = false → (CutIndependent tagged w ↔ ∀ p, ¬Exposed tagged w p)) := by
  refine ⟨cutIndependent_of_not_exposed, fun hw p hp => hp.handedAt_eq_none hw, ?_⟩
  rintro rfl
  refine ⟨fun hw p hp => ?_, cutIndependent_of_not_exposed⟩
  have := handedAt_untagged w p
  rw [hp.handedAt_eq_none hw] at this
  exact Bool.false_ne_true this

/-- Five packets, a byte that slipped in, and four more. -/
def slipped : List UInt8 :=
  ((List.range 5).map fun i => 0x47 :: List.replicate 187 (UInt8.ofNat i)).flatten ++ [0xaa] ++
    ((List.range 4).map fun i => 0x47 :: List.replicate 187 (UInt8.ofNat (i + 5))).flatten

/-- The second byte of each packet handed out. -/
def fills (packets : List (Nat × Packet)) : List UInt8 := packets.map fun x => x.2.getD 1 0

theorem fills_slipped : fills (received false [slipped]) = [0, 1, 2, 3, 4, 5, 6, 7, 8] := by
  decide +kernel

theorem fills_slipped_cut :
    fills (received false [slipped.take 752, slipped.drop 752]) = [0, 1, 2, 3, 5, 6, 7, 8] := by
  decide +kernel

/-- Received at once, all nine packets are kept; where a transfer ends after the fourth, the fifth
is lost, and neither is the beginning of the other. -/
theorem slipped_loses_fifth :
    [slipped].flatten = slipped ∧ [slipped.take 752, slipped.drop 752].flatten = slipped ∧
      ¬received false [slipped] <+: received false [slipped.take 752, slipped.drop 752] ∧
      ¬received false [slipped.take 752, slipped.drop 752] <+: received false [slipped] := by
  refine ⟨by simp, by simp, fun h => ?_, fun h => ?_⟩
  · have := h.map fun x => x.2.getD 1 0
    change fills _ <+: fills _ at this
    rw [fills_slipped, fills_slipped_cut] at this
    exact absurd this (by decide)
  · have := h.map fun x => x.2.getD 1 0
    change fills _ <+: fills _ at this
    rw [fills_slipped, fills_slipped_cut] at this
    exact absurd this (by decide)

end Tunelith.Px4
