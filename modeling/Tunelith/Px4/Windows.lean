import Tunelith.Px4.Cutting

/-!
# What is handed out of any input

Whatever is received, clean or not, `demux` hands out windows of it: it makes nothing up, takes no
byte twice, and keeps less than four packets of it for the next transfer.

* `Windows` — 188 bytes each, one after the other, with a sync byte first, and a lock where a row
  of them begins.
* `demux_windows` — the packets handed out of any transfers are such windows of all that was
  received, and what is carried on is the end of it.
-/

namespace Tunelith.Px4

variable {tagged : Bool} {u w : List UInt8} {start start' : Nat → Prop} {p : Nat}
  {r q : List Nat × Nat}

/-! ## Windows -/

/-- From `p` up to `r.2` there are windows of `u` at `r.1`, one after the other, each with a sync
byte first; each follows another one, or starts where `start` says. -/
structure Windows (tagged : Bool) (u : List UInt8) (start : Nat → Prop) (p : Nat)
    (r : List Nat × Nat) : Prop where
  le : p ≤ r.2
  le_length : r.2 ≤ u.length
  within : ∀ x ∈ r.1, p ≤ x ∧ x + PACKET ≤ r.2
  apart : r.1.Pairwise fun x y => x + PACKET ≤ y
  synced : ∀ x ∈ r.1, sync tagged (u.getD x 0) = true
  found : ∀ x ∈ r.1, start x ∨ ∃ y ∈ r.1, y + PACKET = x

theorem Windows.nil (h : p ≤ u.length) : Windows tagged u start p ([], p) where
  le := Nat.le_refl p
  le_length := h
  within _ hx := absurd hx List.not_mem_nil
  apart := .nil
  synced _ hx := absurd hx List.not_mem_nil
  found _ hx := absurd hx List.not_mem_nil

theorem Windows.mono (h : Windows tagged u start p r) (hs : ∀ x ∈ r.1, start x → start' x) :
    Windows tagged u start' p r :=
  { h with found := fun x hx => (h.found x hx).imp_left (hs x hx) }

theorem Windows.append (h : Windows tagged u start p r) (hq : Windows tagged u start r.2 q) :
    Windows tagged u start p (r.1 ++ q.1, q.2) where
  le := Nat.le_trans h.le hq.le
  le_length := hq.le_length
  within x hx := by
    rcases List.mem_append.1 hx with hx | hx
    · exact ⟨(h.within x hx).1, Nat.le_trans (h.within x hx).2 hq.le⟩
    · exact ⟨Nat.le_trans h.le (hq.within x hx).1, (hq.within x hx).2⟩
  apart := by
    refine List.pairwise_append.2 ⟨h.apart, hq.apart, fun x hx y hy => ?_⟩
    exact Nat.le_trans (h.within x hx).2 (hq.within y hy).1
  synced x hx := by
    rcases List.mem_append.1 hx with hx | hx
    · exact h.synced x hx
    · exact hq.synced x hx
  found x hx := by
    rcases List.mem_append.1 hx with hx | hx
    · refine (h.found x hx).imp_right fun ⟨y, hy, he⟩ => ⟨y, List.mem_append_left _ hy, he⟩
    · refine (hq.found x hx).imp_right fun ⟨y, hy, he⟩ => ⟨y, List.mem_append_right _ hy, he⟩

/-- Windows of a part of the input are windows of the whole. -/
theorem Windows.of_isPrefix (h : Windows tagged u start p r) (hu : u <+: w) :
    Windows tagged w start p r where
  le := h.le
  le_length := Nat.le_trans h.le_length hu.length_le
  within := h.within
  apart := h.apart
  synced x hx := by
    have hwithin := (h.within x hx).2
    have hle := h.le_length
    rw [← getD_of_isPrefix hu (by simp only [PACKET] at *; omega)]
    exact h.synced x hx
  found := h.found

/-- The inner loop takes windows in a row from where it starts. -/
theorem takes_windows (h : p ≤ u.length) : Windows tagged u (· = p) p (takes tagged u p) := by
  fun_induction takes tagged u p with
  | case1 p ht r ih =>
    have hlen : p + PACKET ≤ u.length := by
      simp only [PACKET] at *
      omega
    have hrest : Windows tagged u (· = p + PACKET) (p + PACKET) r := ih hlen
    refine ⟨Nat.le_trans (Nat.le_add_right p PACKET) hrest.le, hrest.le_length, fun x hx => ?_,
      ?_, fun x hx => ?_, fun x hx => ?_⟩
    · rcases List.mem_cons.1 hx with rfl | hx
      · exact ⟨Nat.le_refl _, hrest.le⟩
      · exact ⟨Nat.le_trans (Nat.le_add_right p PACKET) (hrest.within x hx).1,
          (hrest.within x hx).2⟩
    · exact List.pairwise_cons.2 ⟨fun x hx => (hrest.within x hx).1, hrest.apart⟩
    · rcases List.mem_cons.1 hx with rfl | hx
      · exact ht.2
      · exact hrest.synced x hx
    · rcases List.mem_cons.1 hx with rfl | hx
      · exact .inl rfl
      · rcases hrest.found x hx with rfl | ⟨y, hy, he⟩
        · exact .inr ⟨p, List.mem_cons_self, rfl⟩
        · exact .inr ⟨y, List.mem_cons_of_mem _ hy, he⟩
  | case2 p ht => exact .nil h

/-- The outer loop takes rows of windows, each from a lock on. -/
theorem finds_windows (h : p ≤ u.length) :
    Windows tagged u (fun x => locks tagged u x = true) p (finds tagged u p) := by
  fun_induction finds tagged u p with
  | case1 p hlen hl r q ih =>
    have ht : Windows tagged u (· = p) p r := takes_windows h
    refine (ht.mono ?_).append (ih ht.le_length)
    rintro x - rfl
    exact hl
  | case2 p hlen hl ih =>
    have hrest := ih (by simp only [PACKET, SYNC_COUNT] at *; omega)
    exact { hrest with
      le := Nat.le_of_succ_le hrest.le
      within := fun x hx => ⟨Nat.le_of_succ_le (hrest.within x hx).1, (hrest.within x hx).2⟩ }
  | case3 p hlen => exact .nil h

theorem lt_of_sync (h : sync tagged (u.getD p 0) = true) : p < u.length := by
  by_contra hp
  rw [List.getD_eq_getElem?_getD, List.getElem?_eq_none (Nat.le_of_not_lt hp)] at h
  revert h
  cases tagged <;> decide

/-- A lock stays one as more is received. -/
theorem locks_mono (hu : u <+: w) (h : locks tagged u p = true) : locks tagged w p = true := by
  refine List.all_eq_true.2 fun k hk => ?_
  have hs := List.all_eq_true.1 h k hk
  rwa [← getD_of_isPrefix hu (lt_of_sync hs)]

/-! ## What is handed out -/

/-- The window at `p` is of the input of a tuner. -/
def ofTuner (tagged : Bool) (input : List UInt8) (p : Nat) : Bool :=
  1 ≤ inputId tagged (input.getD p 0) && inputId tagged (input.getD p 0) ≤ 5

/-- `x` is the window at `p` as it is handed out: to the slot its tag tells, and changed in its
first byte alone. -/
structure Handed (tagged : Bool) (input : List UInt8) (p : Nat) (x : Nat × Packet) : Prop where
  slot_lt : x.1 < 5
  slot : x.1 + 1 = inputId tagged (input.getD p 0)
  packet : x.2 = 0x47 :: (input.drop (p + 1)).take (PACKET - 1)
  length : x.2.length = PACKET

theorem handed_of_ofTuner {input : List UInt8} (hp : p + PACKET ≤ input.length)
    (ht : ofTuner tagged input p = true) :
    ∃ x, handedAt tagged input p = some x ∧ Handed tagged input p x := by
  have hlen : p < input.length := Nat.lt_of_lt_of_le (Nat.lt_add_of_pos_right (by decide)) hp
  have hwindow : (input.drop p).take PACKET =
      input.getD p 0 :: (input.drop (p + 1)).take (PACKET - 1) := by
    rw [List.drop_eq_getElem_cons hlen, List.getD_eq_getElem?_getD,
      List.getElem?_eq_getElem hlen]
    rfl
  simp only [ofTuner, Bool.and_eq_true, decide_eq_true_eq] at ht
  refine ⟨_, by rw [handedAt, hwindow, route]; exact if_pos ht, ?_, ?_, rfl, ?_⟩
  · show inputId tagged (input.getD p 0) - 1 < 5
    omega
  · show inputId tagged (input.getD p 0) - 1 + 1 = _
    omega
  · show (0x47 :: (input.drop (p + 1)).take (PACKET - 1)).length = PACKET
    rw [List.length_cons, List.length_take, List.length_drop]
    simp only [PACKET] at *
    omega

theorem handedAt_eq_none {input : List UInt8} (ht : ofTuner tagged input p = false) :
    handedAt tagged input p = none := by
  have hget : ((input.drop p).take PACKET).getD 0 0 = input.getD p 0 := by
    simp [List.getD_eq_getElem?_getD, PACKET]
  rw [handedAt, route, hget]
  refine if_neg fun h => ?_
  rw [ofTuner, Bool.and_eq_false_iff, decide_eq_false_iff_not, decide_eq_false_iff_not] at ht
  exact ht.elim (absurd h.1) (absurd h.2)

/-- The packets at `ps` are handed out in order, those that are no tuner's left out. -/
theorem handed_filterMap {input : List UInt8} {ps : List Nat}
    (h : ∀ x ∈ ps, x + PACKET ≤ input.length) :
    List.Forall₂ (Handed tagged input) (ps.filter (ofTuner tagged input))
      (ps.filterMap (handedAt tagged input)) := by
  induction ps with
  | nil => exact .nil
  | cons p ps ih =>
    have hp := h p List.mem_cons_self
    have hrest := ih fun x hx => h x (List.mem_cons_of_mem _ hx)
    cases ht : ofTuner tagged input p with
    | true =>
      obtain ⟨x, hx, hhanded⟩ := handed_of_ofTuner hp ht
      rw [List.filter_cons_of_pos ht, List.filterMap_cons_some hx]
      exact .cons hhanded hrest
    | false =>
      rw [List.filter_cons_of_neg (by rw [ht]; exact Bool.false_ne_true),
        List.filterMap_cons_none (handedAt_eq_none ht)]
      exact hrest

/-! ## Any transfers -/

/-- After any transfers: the windows so far, and less than four packets that are carried on. -/
structure ReadSoFar (tagged : Bool) (input : List UInt8) (st : List UInt8 × List Nat × Nat) :
    Prop where
  windows : Windows tagged input (fun x => locks tagged input x = true) 0 st.2
  short : input.length < st.2.2 + PACKET * SYNC_COUNT

theorem ReadSoFar.step {input data : List UInt8} {st : List UInt8 × List Nat × Nat}
    (h : ReadSoFar tagged input st) (hst : st.1 = input) :
    ReadSoFar tagged (input ++ data) (readOn tagged st data) := by
  have hu : input <+: input ++ data := List.prefix_append input data
  have hold : Windows tagged (input ++ data) (fun x => locks tagged (input ++ data) x = true) 0
      st.2 := (h.windows.mono fun _ _ => locks_mono hu).of_isPrefix hu
  unfold readOn
  rw [hst]
  exact ⟨hold.append (finds_windows hold.le_length), finds_short ..⟩

theorem readSoFar (tagged : Bool) (transfers : List (List UInt8)) :
    ReadSoFar tagged transfers.flatten (transfers.foldl (readOn tagged) ([], [], 0)) := by
  induction transfers using List.reverseRec with
  | nil => exact ⟨.nil (Nat.zero_le _), show 0 < 0 + PACKET * SYNC_COUNT by decide⟩
  | append_singleton transfers data ih =>
    rw [List.flatten_concat, List.foldl_concat]
    exact ih.step (tracks tagged transfers).input_eq

/-- **`demux` hands out windows of its input, whatever that is.** After any transfers there are
windows `ps` of all that was received, up to `n`: those of a tuner's input are what was handed
out, in order, and what is received from `n` on is carried on, which is less than four packets. -/
theorem demux_windows (tagged : Bool) (transfers : List (List UInt8)) :
    ∃ ps n, Windows tagged transfers.flatten (fun p => locks tagged transfers.flatten p = true) 0
        (ps, n) ∧
      List.Forall₂ (Handed tagged transfers.flatten)
        (ps.filter (ofTuner tagged transfers.flatten))
        (transfers.foldl (feed tagged) ([], [])).1 ∧
      (transfers.foldl (feed tagged) ([], [])).2 = transfers.flatten.drop n ∧
      (transfers.foldl (feed tagged) ([], [])).2.length < PACKET * SYNC_COUNT := by
  have ht := tracks tagged transfers
  have hr := readSoFar tagged transfers
  refine ⟨_, _, hr.windows, ?_, ht.carry_eq, ?_⟩
  · rw [ht.out_eq]
    exact handed_filterMap ht.whole
  · rw [ht.carry_eq, List.length_drop]
    have := hr.short
    have := ht.le
    simp only [PACKET, SYNC_COUNT] at *
    omega

end Tunelith.Px4
