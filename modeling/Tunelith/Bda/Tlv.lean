import Tunelith.Bda.Aligner

/-!
# The start of a TLV stream

The packets of a TLV stream tell their lengths, so the `Aligner` looks for the first three in a row
once, and gives out everything from there on. It looks in one frame at a time, and carries nothing
of a frame in which it found no such three.

* `Tlv` — a packet at one position of the stream has the next one at another.
* `InOneFrame` — the first three packets in a row have their heads in one frame.
* `aligner_tlv` — what is given out is the stream from those three on exactly if they do.
-/

namespace Tunelith.Bda

variable {u w : List UInt8} {i j k p : Nat}

/-! ## Three packets in a row -/

/-- The head of a packet stands at `i`, and its length puts the next one at `j`. -/
def Tlv (w : List UInt8) (i j : Nat) : Prop :=
  w[i]? = some 0x7f ∧ ∃ hi lo, w[i + 2]? = some hi ∧ w[i + 3]? = some lo ∧
    j = i + (4 + (hi.toNat * 256 + lo.toNat))

/-- The heads of three packets stand in `w`, one after the other, from `i` on. -/
def Three (w : List UInt8) (i : Nat) : Prop := ∃ j k l, Tlv w i j ∧ Tlv w j k ∧ Tlv w k l

/-- The first such position. -/
structure FirstThree (w : List UInt8) (p : Nat) : Prop where
  three : Three w p
  none_before : ∀ q < p, ¬Three w q

theorem Tlv.lt (h : Tlv w i j) : i < w.length := (List.getElem?_eq_some_iff.1 h.1).1

theorem Three.lt (h : Three w i) : i < w.length := by
  obtain ⟨j, k, l, h, -, -⟩ := h
  exact h.lt

theorem tlv_drop : Tlv (w.drop p) i j ↔ Tlv w (p + i) (p + j) := by
  unfold Tlv
  rw [List.getElem?_drop, List.getElem?_drop, List.getElem?_drop, Nat.add_assoc, Nat.add_assoc]
  simp only [Nat.add_assoc, Nat.add_left_cancel_iff]

theorem Tlv.of_isPrefix (h : Tlv u i j) (hu : u <+: w) : Tlv w i j := by
  have hget : ∀ {n : Nat} {x : UInt8}, u[n]? = some x → w[n]? = some x := by
    intro n x hx
    obtain ⟨r, rfl⟩ := hu
    rwa [List.getElem?_append_left (List.getElem?_eq_some_iff.1 hx).1]
  obtain ⟨hhead, hi, lo, hhi, hlo, hj⟩ := h
  exact ⟨hget hhead, hi, lo, hget hhi, hget hlo, hj⟩

theorem inARow_tlv_succ (n : Nat) :
    inARow .tlv w (n + 1) i = true ↔ ∃ j, Tlv w i j ∧ inARow .tlv w n j = true := by
  simp only [inARow, Tlv]
  cases w[i]? with
  | none => simp
  | some head =>
    by_cases hhead : head = 0x7f
    · subst hhead
      cases w[i + 2]? with
      | none => simp
      | some hi =>
        cases w[i + 3]? with
        | none => simp
        | some lo => simp
    · simp [hhead]

theorem inARow_three : inARow .tlv w 3 i = true ↔ Three w i := by
  constructor
  · intro h
    obtain ⟨j, hj, h⟩ := (inARow_tlv_succ 2).1 h
    obtain ⟨k, hk, h⟩ := (inARow_tlv_succ 1).1 h
    obtain ⟨l, hl, -⟩ := (inARow_tlv_succ 0).1 h
    exact ⟨j, k, l, hj, hk, hl⟩
  · intro ⟨j, k, l, hj, hk, hl⟩
    exact (inARow_tlv_succ 2).2 ⟨j, hj, (inARow_tlv_succ 1).2 ⟨k, hk,
      (inARow_tlv_succ 0).2 ⟨l, hl, rfl⟩⟩⟩

theorem packetStart_tlv_some : packetStart .tlv w = some p ↔ FirstThree w p := by
  unfold packetStart
  rw [List.find?_range_eq_some]
  constructor
  · intro ⟨ht, _, hnone⟩
    refine ⟨inARow_three.1 ht, fun q hq => ?_⟩
    have := hnone q hq
    rwa [Bool.not_eq_true', ← Bool.not_eq_true, inARow_three] at this
  · intro h
    refine ⟨inARow_three.2 h.three, List.mem_range.2 h.three.lt, fun q hq => ?_⟩
    rw [Bool.not_eq_true', ← Bool.not_eq_true, inARow_three]
    exact h.none_before q hq

theorem packetStart_tlv_none : packetStart .tlv w = none ↔ ∀ q, ¬Three w q := by
  unfold packetStart
  rw [List.find?_range_eq_none]
  constructor
  · intro hnone q hq
    have := hnone q hq.lt
    rw [Bool.not_eq_true', ← Bool.not_eq_true, inARow_three] at this
    exact this hq
  · intro h q _
    rw [Bool.not_eq_true', ← Bool.not_eq_true, inARow_three]
    exact h q

/-- The heads in a part of the stream are heads in the stream. -/
theorem Three.within (v : List UInt8) (h : Three u i) (r : List UInt8) :
    Three (v ++ u ++ r) (v.length + i) := by
  have hpre : u <+: (v ++ u ++ r).drop v.length := by
    rw [List.append_assoc, List.drop_left]
    exact List.prefix_append u r
  obtain ⟨j, k, l, hj, hk, hl⟩ := h
  exact ⟨_, _, _, tlv_drop.1 (hj.of_isPrefix hpre), tlv_drop.1 (hk.of_isPrefix hpre),
    tlv_drop.1 (hl.of_isPrefix hpre)⟩

theorem FirstThree.eq {q : Nat} (h : FirstThree w p) (hq : FirstThree w q) : p = q := by
  by_contra hne
  rcases Nat.lt_or_gt_of_ne hne with hlt | hlt
  · exact hq.none_before p hlt h.three
  · exact h.none_before q hlt hq.three

theorem exists_firstThree (h : Three w i) : ∃ p ≤ i, FirstThree w p := by
  cases hstart : packetStart .tlv w with
  | none => exact absurd h (packetStart_tlv_none.1 hstart i)
  | some p =>
    have hp := packetStart_tlv_some.1 hstart
    refine ⟨p, ?_, hp⟩
    by_contra hlt
    exact hp.none_before i (by omega) h

/-! ## What is given out -/

/-- `out` is `w` from the first three packets in a row on, and nothing while there are no three. -/
structure FromFirst (w out : List UInt8) : Prop where
  found : ∀ p, FirstThree w p → out = w.drop p
  waiting : (∀ p, ¬Three w p) → out = []

/-- The first three packets in a row, if there are any, have their heads in one of the frames. -/
def InOneFrame (frames : List (List UInt8)) : Prop :=
  ∀ p, FirstThree frames.flatten p → ∃ before frame after i, frames = before ++ frame :: after ∧
    p = before.flatten.length + i ∧ Three frame i

namespace Aligner

/-- After some frames: none of them had three packets in a row, or one was the first to have them
and everything from there on was given out. -/
inductive Started (frames : List (List UInt8)) : Aligner × List UInt8 → Prop
  | no {s : Aligner} (hs : s.aligned = false) (hnone : ∀ f ∈ frames, ∀ i, ¬Three f i) :
      Started frames (s, [])
  | yes {s : Aligner} {before after : List (List UInt8)} {frame : List UInt8} {i : Nat}
      (hs : s.aligned = true) (hf : frames = before ++ frame :: after)
      (hnone : ∀ f ∈ before, ∀ i, ¬Three f i) (hi : FirstThree frame i) :
      Started frames (s, frame.drop i ++ after.flatten)

theorem feedTlv_started {frames : List (List UInt8)} {s : Aligner} {out : List UInt8}
    (h : Started frames (s, out)) (data : List UInt8) :
    Started (frames ++ [data]) ((s.feedTlv data).1, out ++ (s.feedTlv data).2) := by
  cases h with
  | no hs hnone =>
    unfold feedTlv
    rw [if_neg (by rw [hs]; exact Bool.false_ne_true)]
    cases hstart : packetStart .tlv data with
    | none =>
      refine .no hs fun f hf => ?_
      rcases List.mem_append.1 hf with hf | hf
      · exact hnone f hf
      · rw [List.mem_singleton.1 hf]
        exact packetStart_tlv_none.1 hstart
    | some start =>
      have hyes : Started (frames ++ [data]) (_, data.drop start ++ [].flatten) :=
        .yes (s := { s with aligned := true }) rfl rfl hnone (packetStart_tlv_some.1 hstart)
      simpa using hyes
  | @yes _ before after frame i hs hf hnone hi =>
    unfold feedTlv
    rw [if_pos hs]
    have hyes : Started (frames ++ [data]) (s, frame.drop i ++ (after ++ [data]).flatten) :=
      .yes hs (by rw [hf, List.append_assoc]; rfl) hnone hi
    simpa using hyes

theorem feed_eq_feedTlv {s : Aligner} (hf : s.format = .tlv) (hs : 0 < s.frames)
    (data : List UInt8) :
    s.feed data = ({ s with frames := s.frames + 1 } : Aligner).feedTlv data := by
  unfold feed
  dsimp only
  rw [if_neg (by omega), hf]

theorem feedTlv_frames (s : Aligner) (data : List UInt8) :
    (s.feedTlv data).1.frames = s.frames ∧ (s.feedTlv data).1.format = s.format := by
  unfold feedTlv
  split
  · exact ⟨rfl, rfl⟩
  · split
    · exact ⟨rfl, rfl⟩
    · exact ⟨rfl, rfl⟩

theorem feedAll_started (first : List UInt8) (frames : List (List UInt8)) :
    Started frames (feedAll { format := .tlv } (first :: frames)) ∧
      (feedAll { format := .tlv } (first :: frames)).1.format = .tlv ∧
      0 < (feedAll { format := .tlv } (first :: frames)).1.frames := by
  induction frames using List.reverseRec with
  | nil => exact ⟨.no rfl fun _ hf => absurd hf List.not_mem_nil, rfl, Nat.one_pos⟩
  | append_singleton frames data ih =>
    obtain ⟨hst, hformat, hframes⟩ := ih
    have hstep : feedAll { format := .tlv } (first :: (frames ++ [data])) =
        (((feedAll { format := .tlv } (first :: frames)).1.feed data).1,
          (feedAll { format := .tlv } (first :: frames)).2 ++
            ((feedAll { format := .tlv } (first :: frames)).1.feed data).2) := by
      unfold feedAll
      rw [← List.cons_append, List.foldl_concat]
    rw [hstep]
    generalize feedAll { format := .tlv } (first :: frames) = st at *
    obtain ⟨s, out⟩ := st
    have hs : Started frames (({ s with frames := s.frames + 1 } : Aligner), out) := by
      cases hst with
      | no hs hnone => exact .no hs hnone
      | yes hs hf hnone hi => exact .yes hs hf hnone hi
    rw [feed_eq_feedTlv hformat hframes]
    obtain ⟨hn, hf⟩ := feedTlv_frames { s with frames := s.frames + 1 } data
    exact ⟨feedTlv_started hs data, hf.trans hformat, hn ▸ Nat.succ_pos _⟩

/-- Heads that stand in one frame stand no earlier than in the first frame that has any. -/
theorem le_of_three {before after before' after' : List (List UInt8)} {frame frame' : List UInt8}
    (he : before ++ frame :: after = before' ++ frame' :: after')
    (hnone : ∀ f ∈ before, ∀ i, ¬Three f i) (hi : FirstThree frame i) (hj : Three frame' j) :
    before.flatten.length + i ≤ before'.flatten.length + j := by
  rcases List.append_eq_append_iff.1 he with ⟨mid, rfl, hmid⟩ | ⟨mid, rfl, hmid⟩
  · cases mid with
    | nil =>
      rw [List.nil_append] at hmid
      obtain rfl : frame = frame' := (List.cons.inj hmid).1
      have hle : i ≤ j := by
        by_contra hlt
        exact hi.none_before j (by omega) hj
      rw [List.append_nil]
      omega
    | cons f mid =>
      obtain rfl : frame = f := (List.cons.inj hmid).1
      have hlt := hi.three.lt
      rw [List.flatten_append, List.flatten_cons, List.length_append, List.length_append]
      omega
  · cases mid with
    | nil =>
      rw [List.nil_append] at hmid
      obtain rfl : frame' = frame := (List.cons.inj hmid).1
      have hle : i ≤ j := by
        by_contra hlt
        exact hi.none_before j (by omega) hj
      rw [List.append_nil]
      omega
    | cons f mid =>
      obtain rfl : frame' = f := (List.cons.inj hmid).1
      exact absurd hj (hnone frame' (List.mem_append_right _ List.mem_cons_self) j)

/-- **A TLV stream is given out from its first three packets in a row on exactly if these have
their heads in one frame.** -/
theorem aligner_tlv (first : List UInt8) (frames : List (List UInt8)) :
    FromFirst frames.flatten (feedAll { format := .tlv } (first :: frames)).2 ↔
      InOneFrame frames := by
  obtain ⟨hst, -, -⟩ := feedAll_started first frames
  generalize feedAll { format := .tlv } (first :: frames) = st at hst
  cases hst with
  | no hs hnone =>
    constructor
    · intro h p hp
      have hlt := hp.three.lt
      have hlen := congrArg List.length (h.found p hp)
      rw [List.length_nil, List.length_drop] at hlen
      omega
    · intro h
      refine ⟨fun p hp => ?_, fun _ => rfl⟩
      obtain ⟨before, frame, after, i, rfl, -, hi⟩ := h p hp
      exact absurd hi (hnone frame (List.mem_append_right _ List.mem_cons_self) i)
  | @yes s before after frame i hs hf hnone hi =>
    subst hf
    have hflat : (before ++ frame :: after).flatten = before.flatten ++ frame ++ after.flatten := by
      rw [List.flatten_append, List.flatten_cons, List.append_assoc]
    have hlt := hi.three.lt
    have hthree : Three (before ++ frame :: after).flatten (before.flatten.length + i) := by
      rw [hflat]
      exact hi.three.within before.flatten after.flatten
    have hout : frame.drop i ++ after.flatten =
        (before ++ frame :: after).flatten.drop (before.flatten.length + i) := by
      rw [hflat, List.append_assoc, ← List.drop_drop, List.drop_left,
        List.drop_append_of_le_length (Nat.le_of_lt hlt)]
    obtain ⟨p, hle, hp⟩ := exists_firstThree hthree
    constructor
    · intro h q hq
      have hlen := congrArg List.length (h.found q hq)
      have hlast := hthree.lt
      rw [hout, List.length_drop, List.length_drop] at hlen
      have := hq.three.lt
      exact ⟨before, frame, after, i, rfl, by omega, hi.three⟩
    · intro h
      refine ⟨fun q hq => ?_, fun hno => absurd hthree (hno _)⟩
      obtain ⟨before', frame', after', j, he, rfl, hj⟩ := h q hq
      have hge := le_of_three he hnone hi hj
      obtain rfl := hq.eq hp
      rw [hout, Nat.le_antisymm hge hle]

/-- A packet of two bytes. -/
def tlvPacket : List UInt8 := [0x7f, 0x03, 0x00, 0x02, 0xaa, 0xbb]

/-- The second frame of a stream ends within its third packet: the stream is given out from the
fourth one on, which is the first of three in one frame. -/
theorem tlv_cut_loses : ∃ cut cut' : List (List UInt8), cut.flatten = cut'.flatten ∧
    (feedAll { format := .tlv } ([] :: cut)).2 = cut.flatten ∧
    (feedAll { format := .tlv } ([] :: cut')).2 = cut'.flatten.drop 18 ∧
    ¬FromFirst cut'.flatten (feedAll { format := .tlv } ([] :: cut')).2 := by
  let w := (List.replicate 6 tlvPacket).flatten
  have hout : (feedAll { format := .tlv } [[], w.take 14, w.drop 14]).2 = w.drop 18 := by
    decide +kernel
  have hw : [w.take 14, w.drop 14].flatten = w := by decide
  refine ⟨[w], [w.take 14, w.drop 14], by decide, by decide +kernel, hw.symm ▸ hout, fun h => ?_⟩
  have hfirst : FirstThree w 0 := packetStart_tlv_some.1 (by decide)
  rw [hw, hout] at h
  exact absurd (h.found 0 hfirst) (by decide)

end Aligner
end Tunelith.Bda
