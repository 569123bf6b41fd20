import Tunelith.Lib.Cells
import Tunelith.Px4.R850

/-!
# The bits of an R850

A frequency is set by changes of bits in the registers, one on top of the other. Each is one of a
few operations, which touch and settle bits that can be told without the values (`RegOp`).

* `sets_tuneRegs` — a frequency settles every bit it touches, whatever was there before, but for
  the clock of the gain control, which it may stop and never starts again.
-/

namespace Tunelith.Px4

/-! ## Bits -/

/-- The bits of registers. -/
def Regs.bit (r : Regs) (p : Nat × Nat) : Bool := (r p.1).toBitVec.getLsbD p.2

/-- Some bits of some registers, by a mask each. -/
def bitsOf (l : List (Nat × UInt8)) : Set (Nat × Nat) :=
  {p | ∃ m, (p.1, m) ∈ l ∧ m.toBitVec.getLsbD p.2 = true}

/-- The bits of the register `i`. -/
def maskAt : List (Nat × UInt8) → Nat → UInt8
  | [], _ => 0
  | p :: l, i => if p.1 = i then p.2 ||| maskAt l i else maskAt l i

def Covers (l l' : List (Nat × UInt8)) : Bool := l.all fun p => p.2 &&& maskAt l' p.1 == p.2

theorem bit_maskAt {l : List (Nat × UInt8)} {i j : Nat} :
    (maskAt l i).toBitVec.getLsbD j = true ↔ (i, j) ∈ bitsOf l := by
  induction l with
  | nil => simp [maskAt, bitsOf]
  | cons p l ih =>
    obtain ⟨a, m⟩ := p
    have hcons : (i, j) ∈ bitsOf ((a, m) :: l) ↔
        (i = a ∧ m.toBitVec.getLsbD j = true) ∨ (i, j) ∈ bitsOf l := by
      simp only [bitsOf, Set.mem_ofPred_eq, List.mem_cons, Prod.mk.injEq]
      constructor
      · rintro ⟨n, ⟨rfl, rfl⟩ | hn, hj⟩
        · exact .inl ⟨rfl, hj⟩
        · exact .inr ⟨n, hn, hj⟩
      · rintro (⟨rfl, hj⟩ | ⟨n, hn, hj⟩)
        · exact ⟨m, .inl ⟨rfl, rfl⟩, hj⟩
        · exact ⟨n, .inr hn, hj⟩
    rw [hcons, maskAt, ← ih]
    by_cases h : a = i
    · simp [h]
    · simp [h, Ne.symm h]

theorem bitsOf_subset {l l' : List (Nat × UInt8)} (h : Covers l l' = true) :
    bitsOf l ⊆ bitsOf l' := by
  intro ⟨i, j⟩ ⟨m, hm, hj⟩
  have hall := beq_iff_eq.1 (List.all_eq_true.1 h _ hm)
  refine bit_maskAt.1 ?_
  dsimp only at hall hj
  rw [← hall] at hj
  simp only [UInt8.toBitVec_and, BitVec.getLsbD_and, Bool.and_eq_true] at hj
  exact hj.2

/-- `f` touches no bits but `K`, and settles the bits `T`. -/
abbrev Regs.Sets (K T : List (Nat × UInt8)) (f : Regs → Regs) : Prop :=
  Cells.Sets Regs.bit (bitsOf K) (bitsOf T) f

namespace Regs.Sets

variable {K K' T T' : List (Nat × UInt8)} {f g : Regs → Regs} {i : Nat} {m v x y : UInt8}

theorem cover (h : Regs.Sets K T f) (hK : Covers K K' = true) (hT : Covers T' T = true) :
    Regs.Sets K' T' f := h.mono (bitsOf_subset hK) (bitsOf_subset hT)

theorem bitsOf_append (l l' : List (Nat × UInt8)) : bitsOf (l ++ l') = bitsOf l ∪ bitsOf l' := by
  funext p
  simp only [bitsOf, List.mem_append, or_and_right, exists_or]
  rfl

theorem after (hg : Regs.Sets K' T' g) (hf : Regs.Sets K T f) :
    Regs.Sets (K ++ K') (T ++ T') fun r => g (f r) := by
  unfold Regs.Sets
  rw [bitsOf_append, bitsOf_append, Set.union_comm, Set.union_comm (bitsOf T)]
  exact hg.comp hf

theorem none : Regs.Sets [] [] fun r => r :=
  Cells.Sets.refl.mono (fun _ h => h.elim) fun _ ⟨_, h, _⟩ => absurd h List.not_mem_nil

/-- A change of a register bit by bit. -/
theorem at_ {g : UInt8 → UInt8} {k t : UInt8}
    (hk : ∀ x j, k.toBitVec.getLsbD j = false →
      (g x).toBitVec.getLsbD j = x.toBitVec.getLsbD j)
    (ht : ∀ x y j, t.toBitVec.getLsbD j = true ∨ x.toBitVec.getLsbD j = y.toBitVec.getLsbD j →
      (g x).toBitVec.getLsbD j = (g y).toBitVec.getLsbD j) :
    Regs.Sets [(i, k)] [(i, t)] fun r => r.put i (g (r i)) := by
  have hmem : ∀ {n : UInt8} {j}, (i, j) ∈ bitsOf [(i, n)] ↔ n.toBitVec.getLsbD j = true := by
    intro n j
    simp [bitsOf]
  constructor
  · intro r ⟨a, j⟩ ha
    dsimp only [Regs.bit]
    rw [Regs.put_apply]
    split_ifs with h
    · subst h
      exact hk _ j (by rw [← Bool.not_eq_true, ← hmem]; exact ha)
    · rfl
  · intro r r' ⟨a, j⟩ ha
    dsimp only [Regs.bit] at ha ⊢
    rw [Regs.put_apply, Regs.put_apply]
    split_ifs with h
    · subst h
      exact ht _ _ j (ha.imp_left hmem.1)
    · refine ha.resolve_left ?_
      rintro ⟨n, hn, -⟩
      exact h (congrArg Prod.fst (List.mem_singleton.1 hn))

theorem and (i : Nat) (m : UInt8) : Regs.Sets [(i, ~~~m)] [(i, ~~~m)] fun r => r.and i m := by
  refine at_ (g := (· &&& m)) (fun x j hj => ?_) fun x y j hj => ?_
  · simp only [UInt8.toBitVec_not, BitVec.getLsbD_not, Bool.and_eq_false_iff,
      decide_eq_false_iff_not, Bool.not_eq_false'] at hj
    rw [UInt8.toBitVec_and, BitVec.getLsbD_and]
    rcases hj with hj | hj
    · rw [BitVec.getLsbD_of_ge _ _ (Nat.le_of_not_lt hj), Bool.false_and]
    · rw [hj, Bool.and_true]
  · simp only [UInt8.toBitVec_not, BitVec.getLsbD_not, Bool.and_eq_true, decide_eq_true_eq,
      Bool.not_eq_true'] at hj
    rw [UInt8.toBitVec_and, UInt8.toBitVec_and, BitVec.getLsbD_and, BitVec.getLsbD_and]
    rcases hj with ⟨-, hj⟩ | hj
    · rw [hj, Bool.and_false, Bool.and_false]
    · rw [hj]

theorem or (i : Nat) (v : UInt8) : Regs.Sets [(i, v)] [(i, v)] fun r => r.or i v := by
  refine at_ (g := (· ||| v)) (fun x j hj => ?_) fun x y j hj => ?_
  · rw [UInt8.toBitVec_or, BitVec.getLsbD_or, hj, Bool.or_false]
  · rw [UInt8.toBitVec_or, UInt8.toBitVec_or, BitVec.getLsbD_or, BitVec.getLsbD_or]
    rcases hj with hj | hj
    · rw [hj, Bool.or_true, Bool.or_true]
    · rw [hj]

/-- What is added under a mask is known to be under it only. -/
theorem add (i : Nat) {v m : UInt8} (h : v &&& m = v) :
    Regs.Sets [(i, m)] [] fun r => r.or i v := by
  refine (or i v).mono ?_ fun p ⟨n, hn, _⟩ => absurd hn List.not_mem_nil
  refine bitsOf_subset ?_
  simp [Covers, maskAt, h]

theorem put (i : Nat) (v : UInt8) : Regs.Sets [(i, 0xff)] [(i, 0xff)] fun r => r.put i v := by
  refine at_ (g := fun _ => v) (fun x j hj => ?_) fun _ _ _ _ => rfl
  have hall : (0xff : UInt8).toBitVec = BitVec.allOnes 8 := by decide
  rw [hall, BitVec.getLsbD_allOnes, decide_eq_false_iff_not] at hj
  rw [BitVec.getLsbD_of_ge _ _ (Nat.le_of_not_lt hj),
    BitVec.getLsbD_of_ge _ _ (Nat.le_of_not_lt hj)]

end Regs.Sets

/-! ## Operations -/

/-- What the driver does to a register. -/
inductive RegOp
  | and (i : Nat) (m : UInt8)
  | or (i : Nat) (v : UInt8)
  | put (i : Nat) (v : UInt8)
  /-- A value under a mask is added to what is there. -/
  | add (i : Nat) (x m : UInt8)
  /-- Two values are, each under its own. -/
  | addBoth (i : Nat) (x m y n : UInt8)

namespace RegOp

@[reducible] def apply (r : Regs) : RegOp → Regs
  | and i m => r.and i m
  | or i v => r.or i v
  | put i v => r.put i v
  | add i x m => r.or i (x &&& m)
  | addBoth i x m y n => r.or i ((x &&& m) ||| (y &&& n))

def touched : RegOp → List (Nat × UInt8)
  | and i m => [(i, ~~~m)]
  | or i v => [(i, v)]
  | put i _ => [(i, 0xff)]
  | add i _ m => [(i, m)]
  | addBoth i _ m _ n => [(i, m ||| n)]

/-- What is added to is not settled, as it may have been set before. -/
def settled : RegOp → List (Nat × UInt8)
  | and i m => [(i, ~~~m)]
  | or i v => [(i, v)]
  | put i _ => [(i, 0xff)]
  | add _ _ _ | addBoth _ _ _ _ _ => []

theorem both_under (x m y n : UInt8) :
    ((x &&& m) ||| (y &&& n)) &&& (m ||| n) = (x &&& m) ||| (y &&& n) := by
  refine UInt8.toBitVec_inj.1 (BitVec.eq_of_getLsbD_eq fun j _ => ?_)
  simp only [UInt8.toBitVec_and, UInt8.toBitVec_or, BitVec.getLsbD_and, BitVec.getLsbD_or]
  cases m.toBitVec.getLsbD j <;> cases n.toBitVec.getLsbD j <;> simp

theorem sets (op : RegOp) : Regs.Sets op.touched op.settled fun r => op.apply r := by
  cases op with
  | and i m => exact .and i m
  | or i v => exact .or i v
  | put i v => exact .put i v
  | add i x m => exact .add i (by grind)
  | addBoth i x m y n => exact .add i (both_under x m y n)

end RegOp

@[reducible] def Regs.run : Regs → List RegOp → Regs
  | r, [] => r
  | r, op :: ops => (op.apply r).run ops

theorem Regs.sets_run (ops : List RegOp) :
    Regs.Sets (ops.flatMap RegOp.touched) (ops.flatMap RegOp.settled) fun r => r.run ops := by
  induction ops with
  | nil => exact .none
  | cons op ops ih => exact ih.after op.sets

namespace R850

/-! ## The registers of a frequency

What a frequency does to the registers, in pieces. -/

def lnaOps (prm : FreqParams) (tops : Tops) : List RegOp :=
  [.and 0x0a 0xbf, .add 0x0a (prm.naPwrDet <<< 6) 0x40,
    .and 0x10 0xdf, .add 0x10 (INIT_REGS 0x0c) 0x20,
    .and 0x0b 0x7f, .add 0x0b (prm.lnaNrbDet <<< 7) 0x80,
    .and 0x26 0xf8, .add 0x26 tops.lna 0x07,
    .put 0x27 prm.lnaVtlH,
    .and 0x11 0xef, .add 0x11 (prm.rfLtePsg <<< 4) 0x10,
    .and 0x26 0x8f, .add 0x26 (tops.rf <<< 4) 0x70,
    .put 0x2a prm.rfVtlH]

def gainLimitRegs (prm : FreqParams) (r : Regs) : Regs :=
  if prm.rfGainLimit ≤ 3 then
    let r := if prm.rfGainLimit < 2 then r.and 0x12 0xfb else r.or 0x12 0x02
    if prm.rfGainLimit % 2 ≠ 0 then r.or 0x10 0x40 else r.and 0x10 0xbf
  else r

def mixerTopOps (prm : FreqParams) (tops : Tops) : List RegOp :=
  [.and 0x13 0xf8, .add 0x13 prm.mixerAmpLpf 0x07, .and 0x28 0xf0, .add 0x28 tops.mixer 0x0f]

def filterOps (prm : FreqParams) : List RegOp :=
  [.and 0x0a 0xef, .add 0x0a (prm.filt3thLpfCur <<< 4) 0x10,
    .and 0x18 0xfc, .add 0x18 prm.filt3thLpfGain 0x03,
    .put 0x29 (((prm.filterVth <<< 4) &&& 0xf0) ||| (prm.mixerVth &&& 0x0f)),
    .put 0x2b (((prm.filterVtl <<< 4) &&& 0xf0) ||| (prm.mixerVtl &&& 0x0f)),
    .and 0x16 0x3f, .add 0x16 (prm.mixerGainLimit <<< 6) 0xc0,
    .and 0x2e 0x7f, .add 0x2e (prm.mixerDetbwLpf <<< 7) 0x80]

def disModeRegs (prm : FreqParams) (r : Regs) : Regs :=
  if prm.lnaRfDisMode = 1 then r.run [.or 0x2d 0x03, .or 0x1f 0x01, .or 0x20 0x20]
  else if prm.lnaRfDisMode = 2 then r.run [.or 0x2d 0x03, .and 0x1f 0xfe, .and 0x20 0xdf]
  else if prm.lnaRfDisMode = 3 then r.run [.or 0x2d 0x03, .or 0x1f 0x01, .and 0x20 0xdf]
  else if prm.lnaRfDisMode = 4 then r.run [.or 0x2d 0x03, .and 0x1f 0xfe, .or 0x20 0x20]
  else r.run [.and 0x2d 0xfc, .or 0x1f 0x01, .or 0x20 0x20]

def dischargeOps (prm : FreqParams) (tops : Tops) : List RegOp :=
  [.and 0x1f 0xfd, .add 0x1f (prm.lnaRfChargeCur <<< 1) 0x02,
    .and 0x0d 0xdf, .add 0x0d (prm.lnaRfDisCurr <<< 5) 0x20,
    .and 0x2d 0x0f, .add 0x2d (prm.rfDisSlowFast <<< 4) 0xf0,
    .and 0x2c 0x0f, .add 0x2c (prm.lnaDisSlowFast <<< 4) 0xf0,
    .and 0x19 0xbf, .add 0x19 (prm.bbDisCurr <<< 6) 0x40,
    .and 0x25 0x3b, .addBoth 0x25 (prm.mixerFilterDis <<< 6) 0xc0 (prm.bbDetMode <<< 2) 0x04,
    .and 0x19 0xfd, .add 0x19 (prm.enbPolyGain <<< 1) 0x02,
    .and 0x28 0x0f, .add 0x28 (tops.nrb <<< 4) 0xf0,
    .and 0x1a 0x33, .addBoth 0x1a (prm.nrbBwLpf <<< 6) 0xc0 (prm.nrbBwHpf <<< 2) 0x0c,
    .and 0x2e 0xf3, .add 0x2e (prm.imgNrbAdder <<< 2) 0x0c,
    .and 0x0d 0xf9, .add 0x0d (prm.hpfComp <<< 1) 0x06,
    .and 0x15 0xef, .add 0x15 (prm.fbRes1st <<< 4) 0x10]

/-- The clock of the gain control is stopped between 478 and 482 MHz. -/
def agcClkRegs (sys : SystemConfig) (rfFreq : Nat) (r : Regs) : Regs :=
  if wrappingSub rfFreq 478000 ≤ 3999 ∧ sys.system = .isdbT then r.run [.and 0x2f 0xf3] else r

def loopRegs (loopThrough : Bool) (r : Regs) : Regs :=
  if loopThrough then r.run [.or 0x08 0xc0, .or 0x0a 0x02]
  else r.run [.and 0x08 0x3f, .or 0x08 0x40, .and 0x0a 0xfd]

def clockRegs (clockOut : Bool) (r : Regs) : Regs :=
  if clockOut then r.run [.and 0x22 0xfb] else r.run [.or 0x22 0x04]

theorem frequencyRegs_eq (c : R850) (sys : SystemConfig) (rfFreq : Nat) (prm : FreqParams)
    (tops : Tops) : frequencyRegs c sys rfFreq prm tops = fun r =>
      let r := r.run [.and 0x13 0xef]
      let r := if c.mixerMode ≠ 0 then r.run [.or 0x13 0x10] else r
      let r := gainLimitRegs prm (r.run (lnaOps prm tops))
      let r := r.run (mixerTopOps prm tops)
      let r := if c.chip ≠ 0 then r.run [.and 0x2c 0xf1, .add 0x2c (tops.filter <<< 1) 0x0e]
        else r.run [.and 0x2c 0xf0, .add 0x2c tops.filter 0x0f]
      let r := (disModeRegs prm (r.run (filterOps prm))).run (dischargeOps prm tops)
      let r := (agcClkRegs sys rfFreq r).run [.and 0x19 0xdf]
      clockRegs c.config.clockOut (loopRegs c.config.loopThrough r) := rfl

def muxOps (diplexer cap notch cnr bpf poly : UInt8) (imr : UInt8 × UInt8 × UInt8) : List RegOp :=
  [.and 0x0e 0x03, .add 0x0e (diplexer <<< 2) 0x0c, .add 0x0e (cap <<< 4) 0xf0,
    .and 0x0f 0xf0, .add 0x0f notch 0x0f,
    .and 0x10 0xe0, .add 0x10 (cnr <<< 3) 0x18, .add 0x10 bpf 0x07,
    .and 0x12 0xfc, .add 0x12 poly 0x03,
    .and 0x14 0xd0, .add 0x14 imr.1 0x2f,
    .and 0x15 0x10, .add 0x15 imr.2.1 0x2f, .add 0x15 (imr.2.2 <<< 6) 0xc0]

theorem muxRegs_eq (loFreq : Nat) (sys : Option System) (imr : UInt8 × UInt8 × UInt8) :
    ∃ diplexer cap notch cnr bpf poly,
      muxRegs loFreq sys imr = fun r => r.run (muxOps diplexer cap notch cnr bpf poly imr) :=
  ⟨_, _, _, _, _, _, rfl⟩

def pllStartOps (pwr : Fin 4) (loFreq : Nat) : List RegOp :=
  [.and 0x20 0xfc, .or 0x2e 0x40, .and 0x0c 0x3c, .and 0x09 0xf9, .and 0x22 0x3f, .and 0x0b 0xc3,
    .or 0x0b 0x10, .and 0x25 0xef, .or 0x25 0x20, .and 0x21 0x07, .or 0x21 0xf0, .and 0x22 0xf7,
    .or 0x22 0x08, .and 0x22 0xcf, .add 0x22 (xtalPowerBits loFreq pwr <<< 4) 0x30, .and 0x1e 0x1f,
    .and 0x25 0xfd]

theorem xtalDivisor_of (loFreq ifFreq : Nat) (sys : Option System) :
    xtalDivisor loFreq ifFreq sys = 1 ∨ xtalDivisor loFreq ifFreq sys = 2 ∨
      xtalDivisor loFreq ifFreq sys = 4 := by
  unfold xtalDivisor
  split
  · exact .inl rfl
  · split_ifs <;> simp

theorem pllSetupRegs_eq (chip : Fin 2) (pwr : Fin 4) (loFreq ifFreq : Nat) (sys : Option System)
    (mixDiv : Nat) : ∃ div, Covers (div.flatMap RegOp.touched) [(0x22, 0x03)] = true ∧
      pllSetupRegs chip pwr loFreq ifFreq sys mixDiv = fun r =>
        let r := r.run (pllStartOps pwr loFreq)
        let r := if divJudge loFreq ifFreq ∈ [4, 10, 22, 24, 28] then r.run [.or 0x25 0x02] else r
        let r := r.run [.and 0x2f (if chip ≠ 0 then 0xfd else 0xfc), .and 0x22 0xfc]
        let r := (r.run div).run [.and 0x0b 0xfe, .and 0x2d 0xf3]
        let r := if mixDiv = 8 then r.run [.or 0x2d 0x04]
          else if mixDiv = 16 then r.run [.or 0x2d 0x08]
          else if 32 ≤ mixDiv then r.run [.or 0x2d 0x0c]
          else r
        let r := r.run [.and 0x2e 0xfc, .and 0x20 0xec]
        let r := if mixDiv = 2 ∨ mixDiv = 4 then r.run [.or 0x2e 0x01]
          else r.run [.or 0x2e 0x02, .or 0x20 0x01]
        let r := r.run [.and 0x11 0x7f]
        if mixDiv = 8 then r.run [.or 0x11 0x80] else r := by
  unfold pllSetupRegs
  obtain h | h | h := xtalDivisor_of loFreq ifFreq sys
  · rw [h]
    exact ⟨[], by decide, rfl⟩
  · rw [h]
    exact ⟨[.or 0x22 0x02], by decide, rfl⟩
  · rw [h]
    exact ⟨[.or 0x22 0x03], by decide, rfl⟩

def pllOps (pll : Pll) : List RegOp :=
  [.and 0x1e 0xe3, .add 0x1e (UInt8.ofNat pll.band.div <<< 2) 0x1c,
    .and 0x1b 0x80, .add 0x1b (UInt8.ofNat pll.ni) 0x7f,
    .and 0x1e 0xfc, .add 0x1e (UInt8.ofNat pll.si) 0x03,
    .and 0x20 0x3f, .put 0x1c (UInt8.ofNat pll.sdm), .put 0x1d (UInt8.ofNat (pll.sdm / 256))]

theorem pllRegs_eq (pll : Pll) : pllRegs pll = fun r => r.run (pllOps pll) := rfl

/-- What `set_pll` does once the registers are sent. -/
def lockRegs (chip : Fin 2) (r : Regs) : Regs :=
  (if chip = 0 then r.and 0x2f 0xfc else r).or 0x2f 0x02

/-! ## What a frequency settles -/

/-! The bits a frequency settles: those that its row says, those of the filters, and those of the
PLL. -/

def ROW_BITS (chip : Fin 2) : List (Nat × UInt8) :=
  [(0x08, 0xc0), (0x0a, 0x52), (0x0b, 0x80), (0x0d, 0x26), (0x10, 0x60), (0x11, 0x10),
    (0x12, 0x04), (0x13, 0x17), (0x15, 0x10), (0x16, 0xc0), (0x18, 0x03), (0x19, 0x62),
    (0x1a, 0xcc), (0x1f, 0x03), (0x20, 0x20), (0x22, 0x04), (0x25, 0xc4), (0x26, 0x77),
    (0x27, 0xff), (0x28, 0xff), (0x29, 0xff), (0x2a, 0xff), (0x2b, 0xff),
    (0x2c, if chip = 0 then 0xff else 0xfe), (0x2d, 0xf3), (0x2e, 0x8c)]

def MUX_BITS : List (Nat × UInt8) :=
  [(0x0e, 0xfc), (0x0f, 0x0f), (0x10, 0x1f), (0x12, 0x03), (0x14, 0x2f), (0x15, 0xef)]

def PLL_BITS (chip : Fin 2) : List (Nat × UInt8) :=
  [(0x09, 0x06), (0x0b, 0x3d), (0x0c, 0xc3), (0x11, 0x80), (0x1b, 0x7f), (0x1c, 0xff),
    (0x1d, 0xff), (0x1e, 0xff), (0x20, 0xd3), (0x21, 0xf8), (0x22, 0xfb), (0x25, 0x32),
    (0x2d, 0x0c), (0x2e, 0x43), (0x2f, if chip = 0 then 0x03 else 0x02)]

/-- What a row may change; the clock of the gain control is not started again. -/
def ROW_TOUCHED (chip : Fin 2) : List (Nat × UInt8) := (0x2f, 0x0c) :: ROW_BITS chip

theorem sets_gainLimitRegs {prm : FreqParams} (h : prm.rfGainLimit = 0) :
    Regs.Sets [(0x12, 0x04), (0x10, 0x40)] [(0x12, 0x04), (0x10, 0x40)] (gainLimitRegs prm) := by
  have heq : gainLimitRegs prm = fun r => r.run [.and 0x12 0xfb, .and 0x10 0xbf] := by
    unfold gainLimitRegs
    rw [h]
    rfl
  rw [heq]
  exact (Regs.sets_run _).cover rfl rfl

theorem sets_disModeRegs (prm : FreqParams) :
    Regs.Sets [(0x2d, 0x03), (0x1f, 0x01), (0x20, 0x20)] [(0x2d, 0x03), (0x1f, 0x01), (0x20, 0x20)]
      (disModeRegs prm) := by
  refine .ite ?_ (.ite ?_ (.ite ?_ (.ite ?_ ?_))) <;>
    exact (Regs.sets_run _).cover rfl rfl

theorem sets_loopRegs (loopThrough : Bool) :
    Regs.Sets [(0x08, 0xc0), (0x0a, 0x02)] [(0x08, 0xc0), (0x0a, 0x02)] (loopRegs loopThrough) := by
  refine .ite ?_ ?_ <;> exact (Regs.sets_run _).cover rfl rfl

theorem sets_clockRegs (clockOut : Bool) :
    Regs.Sets [(0x22, 0x04)] [(0x22, 0x04)] (clockRegs clockOut) := by
  refine .ite ?_ ?_ <;> exact (Regs.sets_run _).cover rfl rfl

theorem sets_filterTop (chip : Fin 2) (top : UInt8) :
    Regs.Sets [(0x2c, if chip = 0 then 0x0f else 0x0e)] [(0x2c, if chip = 0 then 0x0f else 0x0e)]
      fun r => if chip ≠ 0 then r.run [.and 0x2c 0xf1, .add 0x2c (top <<< 1) 0x0e]
        else r.run [.and 0x2c 0xf0, .add 0x2c top 0x0f] := by
  by_cases h : chip = 0
  · simp only [h, ne_eq, not_true_eq_false, if_false, if_true]
    refine (Regs.sets_run _).cover ?_ ?_ <;>
      simp only [RegOp.touched, RegOp.settled, List.flatMap_cons] <;> decide
  · simp only [h, ne_eq, not_false_eq_true, if_false, if_true]
    refine (Regs.sets_run _).cover ?_ ?_ <;>
      simp only [RegOp.touched, RegOp.settled, List.flatMap_cons] <;> decide

/-- What is done on a condition, which may hold at one frequency and not at another. -/
theorem sets_on (p : Prop) [Decidable p] (ops : List RegOp) :
    Regs.Sets (ops.flatMap RegOp.touched) [] fun r => if p then r.run ops else r :=
  .ite ((Regs.sets_run ops).mono (fun _ h => h) (bitsOf_subset rfl))
    (Regs.Sets.none.mono (bitsOf_subset rfl) fun _ h => h)

theorem sets_frequencyRegs (c : R850) (sys : SystemConfig) (rfFreq : Nat) {prm : FreqParams}
    (tops : Tops) (h : prm.rfGainLimit = 0) :
    Regs.Sets (ROW_TOUCHED c.chip) (ROW_BITS c.chip) (frequencyRegs c sys rfFreq prm tops) := by
  have hsets := (sets_clockRegs c.config.clockOut).after <|
    (sets_loopRegs c.config.loopThrough).after <| (Regs.sets_run [.and 0x19 0xdf]).after <|
    (sets_on (wrappingSub rfFreq 478000 ≤ 3999 ∧ sys.system = .isdbT) [.and 0x2f 0xf3]).after <|
    (Regs.sets_run (dischargeOps prm tops)).after <| (sets_disModeRegs prm).after <|
    (Regs.sets_run (filterOps prm)).after <| (sets_filterTop c.chip tops.filter).after <|
    (Regs.sets_run (mixerTopOps prm tops)).after <| (sets_gainLimitRegs h).after <|
    (Regs.sets_run (lnaOps prm tops)).after <|
    (sets_on (c.mixerMode ≠ 0) [.or 0x13 0x10]).after <| Regs.sets_run [.and 0x13 0xef]
  rw [frequencyRegs_eq]
  refine hsets.cover ?_ ?_
  · simp only [lnaOps, mixerTopOps, filterOps, dischargeOps, RegOp.touched, List.flatMap_cons]
    generalize c.chip = chip
    revert chip
    decide
  · simp only [lnaOps, mixerTopOps, filterOps, dischargeOps, RegOp.settled, List.flatMap_cons]
    generalize c.chip = chip
    revert chip
    decide

theorem sets_muxRegs (loFreq : Nat) (sys : Option System) (imr : UInt8 × UInt8 × UInt8) :
    Regs.Sets MUX_BITS MUX_BITS (muxRegs loFreq sys imr) := by
  obtain ⟨_, _, _, _, _, _, h⟩ := muxRegs_eq loFreq sys imr
  rw [h]
  refine (Regs.sets_run _).cover ?_ ?_ <;>
    simp only [muxOps, RegOp.touched, RegOp.settled, List.flatMap_cons] <;> decide

theorem sets_pllRegs (chip : Fin 2) (pwr : Fin 4) (loFreq ifFreq : Nat) (sys : Option System)
    (mixDiv : Nat) (pll : Pll) :
    Regs.Sets (PLL_BITS chip) (PLL_BITS chip) fun r =>
      pllRegs pll (pllSetupRegs chip pwr loFreq ifFreq sys mixDiv r) := by
  obtain ⟨div, hdiv, heq⟩ := pllSetupRegs_eq chip pwr loFreq ifFreq sys mixDiv
  have hdiv' : Regs.Sets [(0x22, 0x03)] [] fun r => r.run div := (Regs.sets_run div).cover hdiv rfl
  have hmix : Regs.Sets [(0x2d, 0x0c)] [] fun r =>
      if mixDiv = 8 then r.run [.or 0x2d 0x04]
      else if mixDiv = 16 then r.run [.or 0x2d 0x08]
      else if 32 ≤ mixDiv then r.run [.or 0x2d 0x0c]
      else r :=
    .ite ((Regs.sets_run _).cover rfl rfl) <| .ite ((Regs.sets_run _).cover rfl rfl) <|
      (sets_on (32 ≤ mixDiv) _).cover rfl rfl
  have hhalf : Regs.Sets [(0x2e, 0x03), (0x20, 0x01)] [] fun r =>
      if mixDiv = 2 ∨ mixDiv = 4 then r.run [.or 0x2e 0x01]
      else r.run [.or 0x2e 0x02, .or 0x20 0x01] :=
    .ite ((Regs.sets_run _).cover rfl rfl) ((Regs.sets_run _).cover rfl rfl)
  have hsets := (Regs.sets_run (pllOps pll)).after <|
    (sets_on (mixDiv = 8) [.or 0x11 0x80]).after <|
    (Regs.sets_run [.and 0x11 0x7f]).after <| hhalf.after <|
    (Regs.sets_run [.and 0x2e 0xfc, .and 0x20 0xec]).after <| hmix.after <|
    (Regs.sets_run [.and 0x0b 0xfe, .and 0x2d 0xf3]).after <| hdiv'.after <|
    (Regs.sets_run [.and 0x2f (if chip ≠ 0 then 0xfd else 0xfc), .and 0x22 0xfc]).after <|
    (sets_on (divJudge loFreq ifFreq ∈ [4, 10, 22, 24, 28]) [.or 0x25 0x02]).after <|
    Regs.sets_run (pllStartOps pwr loFreq)
  rw [heq, pllRegs_eq]
  refine hsets.cover ?_ ?_
  · simp only [pllStartOps, pllOps, RegOp.touched, List.flatMap_cons]
    clear heq hsets
    revert chip
    decide
  · simp only [pllStartOps, pllOps, RegOp.settled, List.flatMap_cons]
    clear heq hsets
    revert chip
    decide

theorem sets_lockRegs (chip : Fin 2) :
    Regs.Sets [(0x2f, if chip = 0 then 0x03 else 0x02)] [(0x2f, if chip = 0 then 0x03 else 0x02)]
      (lockRegs chip) := by
  by_cases h : chip = 0
  · have heq : lockRegs chip = fun r => r.run [.and 0x2f 0xfc, .or 0x2f 0x02] := by
      rw [h]
      rfl
    rw [heq, if_pos h]
    exact (Regs.sets_run _).cover rfl rfl
  · have heq : lockRegs chip = fun r => r.run [.or 0x2f 0x02] := by
      funext r
      rw [lockRegs, if_neg h]
    rw [heq, if_neg h]
    exact (Regs.sets_run _).cover rfl rfl

/-! ## All of it -/

/-- What a frequency does to the registers, with the calibrations off. -/
def tuneRegs (c : R850) (sys : SystemConfig) (freq : Nat) (prm : FreqParams) (tops : Tops)
    (loFreq : Nat) (pll : Pll) (r : Regs) : Regs :=
  let r := muxRegs loFreq (some sys.system) (0x02, 0x00, 0x00)
    (frequencyRegs c sys freq prm tops r)
  lockRegs c.chip <| pllRegs pll <|
    pllSetupRegs c.chip c.xtalPwr loFreq sys.ifFreq (some sys.system) pll.band.mixDiv r

def TUNED (chip : Fin 2) : List (Nat × UInt8) := ROW_BITS chip ++ MUX_BITS ++ PLL_BITS chip

def TOUCHED (chip : Fin 2) : List (Nat × UInt8) := (0x2f, 0x0c) :: TUNED chip

theorem sets_tuneRegs (c : R850) (sys : SystemConfig) (freq : Nat) {prm : FreqParams} (tops : Tops)
    (loFreq : Nat) (pll : Pll) (h : prm.rfGainLimit = 0) :
    Regs.Sets (TOUCHED c.chip) (TUNED c.chip) (tuneRegs c sys freq prm tops loFreq pll) := by
  have hsets := (sets_lockRegs c.chip).after <|
    (sets_pllRegs c.chip c.xtalPwr loFreq sys.ifFreq (some sys.system) pll.band.mixDiv pll).after <|
    (sets_muxRegs loFreq (some sys.system) (0x02, 0x00, 0x00)).after <|
    sets_frequencyRegs c sys freq tops h
  refine hsets.cover ?_ ?_
  · generalize c.chip = chip
    revert chip
    decide
  · generalize c.chip = chip
    revert chip
    decide

end R850

end Tunelith.Px4
