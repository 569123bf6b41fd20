import Mathlib.Tactic.IntervalCases
import Mathlib.Tactic.Linarith
import Mathlib.Tactic.Ring
import Tunelith.Px4.R850

/-!
# The R850 is set to the frequency asked for

The fraction of the PLL divider is found bit by bit, rounding down at every bit; its integer part
is moved where the fraction is close to one. What comes of both stays within `x / 64 + 16` kHz of
the frequency of the VCO, `x` being the crystal after its division, and nothing overflows on the
way.

* `pllSdmLoop_spec` — what the loop over the bits keeps.
* `pllOf_spec` — what the PLL is set to.
* `setFrequency_programs` — what is left in the registers.
-/

namespace Tunelith.Px4.R850

/-! ## The fraction -/

theorem pllSdmLoop_done {x fra nsdm sdm : Nat} (h : fra ≤ 1 ∨ 0x8000 < nsdm) :
    pllSdmLoop x fra nsdm sdm = .ok sdm := by
  rw [pllSdmLoop, if_neg]
  · rfl
  · omega

section Loop

variable {x fra nsdm sdm : Nat} (hx : x < 2 ^ 15) (hfra : 1 < fra) (hn : 2 ≤ nsdm)
  (hn' : nsdm ≤ 0x8000)

include hx hfra hn hn'

theorem pllSdmLoop_skip (ht : fra ≤ 2 * x / nsdm) :
    pllSdmLoop x fra nsdm sdm = pllSdmLoop x fra (nsdm + nsdm) sdm := by
  rw [pllSdmLoop, if_pos ⟨hfra, by omega, hn'⟩, fits_ok (by omega), Nat.mul_comm x 2]
  change (if 2 * x / nsdm < fra then _ else _) = _
  rw [if_neg (by omega)]

theorem pllSdmLoop_take (ht : 2 * x / nsdm < fra) (hs : sdm + 0x8000 / (nsdm / 2) < 2 ^ 32) :
    pllSdmLoop x fra nsdm sdm =
      if nsdm &&& 0x8000 ≠ 0 then .ok (sdm + 0x8000 / (nsdm / 2))
      else pllSdmLoop x (fra - 2 * x / nsdm) (nsdm + nsdm) (sdm + 0x8000 / (nsdm / 2)) := by
  have ht' : 2 * x / nsdm < 2 ^ 16 :=
    lt_of_le_of_lt (Nat.div_le_self _ _) (by omega)
  rw [pllSdmLoop, if_pos ⟨hfra, by omega, hn'⟩, fits_ok (by omega), Nat.mul_comm x 2]
  change (if 2 * x / nsdm < fra then _ else _) = _
  rw [if_pos ht, fits_ok ht', ok_bind, minus_ok ht.le, ok_bind, fits_ok hs]
  rfl

end Loop

/-- The weight of the bit that goes with `2 ^ k`. -/
theorem weight {k left : Nat} (hk : 0 < k) (h : k + left = 16) :
    0x8000 / (2 ^ k / 2) = 2 ^ left := by
  obtain rfl : left = 16 - k := by omega
  have : k ≤ 16 := by omega
  interval_cases k <;> rfl

theorem top_bit {k : Nat} (h : k ≤ 15) : 2 ^ k &&& 0x8000 ≠ 0 ↔ k = 15 := by
  interval_cases k <;> decide

theorem round_le {n w a : Nat} : n * w * (a / n) ≤ a * w :=
  calc n * w * (a / n) = n * (a / n) * w := by ring
    _ ≤ a * w := Nat.mul_le_mul_right w (Nat.mul_div_le a n)

theorem le_round {n w a : Nat} (hn : 0 < n) : a * w ≤ n * w * (a / n + 1) :=
  calc a * w ≤ n * (a / n + 1) * w := Nat.mul_le_mul_right w (Nat.lt_mul_div_succ a hn).le
    _ = n * w * (a / n + 1) := by ring

/-- With `left` bits to go, what is left of the fraction is at most what they make up, but for
`c / 65536`. Each bit that is set loses less than one to the rounding. -/
theorem pllSdmLoop_spec {x : Nat} (hx : x < 2 ^ 15) (left : Nat) :
    ∀ {k fra sdm c : Nat}, 0 < k → k + left = 16 →
      65536 * fra ≤ 2 * x * (2 * 2 ^ left) + c → sdm + 2 * 2 ^ left ≤ 65536 →
      ∃ s, pllSdmLoop x fra (2 ^ k) sdm = .ok s ∧ s < 65536 ∧
        2 * x * s ≤ 2 * x * sdm + 65536 * (fra + left) ∧
        65536 * fra + 2 * x * sdm ≤ 2 * x * s + 65536 + 4 * x + c := by
  induction left with
  | zero =>
    intro k fra sdm c _ hk hfra hsdm
    obtain rfl : k = 16 := hk
    exact ⟨sdm, pllSdmLoop_done (.inr (by decide)), by omega, by omega, by omega⟩
  | succ left ih =>
    intro k fra sdm c hk hkl hfra hsdm
    by_cases h1 : fra ≤ 1
    · have hpos := Nat.two_pow_pos left
      exact ⟨sdm, pllSdmLoop_done (.inl h1), by omega, by omega, by omega⟩
    have hn : 2 ≤ 2 ^ k := Nat.le_self_pow (by omega) 2
    have hn' : 2 ^ k ≤ 0x8000 := Nat.pow_le_pow_right (by decide) (show k ≤ 15 by omega)
    have hnw : 2 ^ k * 2 ^ (left + 1) = 65536 := by rw [← Nat.pow_add, hkl]
    have hdouble : 2 ^ k + 2 ^ k = 2 ^ (k + 1) := by rw [Nat.pow_succ]; omega
    -- The rounding of the bit's share, at the scale of the result.
    have hlo := round_le (n := 2 ^ k) (w := 2 ^ (left + 1)) (a := 2 * x)
    have hhi := le_round (n := 2 ^ k) (w := 2 ^ (left + 1)) (a := 2 * x) (by omega)
    rw [hnw] at hlo hhi
    have hpos := Nat.two_pow_pos left
    have hw : 2 ^ (left + 1) = 2 * 2 ^ left := by rw [Nat.pow_succ, Nat.mul_comm]
    by_cases ht : fra ≤ 2 * x / 2 ^ k
    · rw [pllSdmLoop_skip hx (by omega) hn hn' ht, hdouble]
      obtain ⟨s, hs, hlt, hle, hge⟩ := @ih (k + 1) fra sdm c
        (by omega) (by omega) (by rw [← hw]; omega) (by omega)
      exact ⟨s, hs, hlt, by omega, hge⟩
    · rw [pllSdmLoop_take hx (by omega) hn hn' (by omega) (by rw [weight hk hkl]; omega),
        weight hk hkl, hdouble]
      have hsplit : 2 * x * (sdm + 2 ^ (left + 1)) =
          2 * x * sdm + 2 * x * 2 ^ (left + 1) := Nat.mul_add _ _ _
      have hsplit' : 2 * x * (2 * 2 ^ (left + 1)) =
          2 * x * 2 ^ (left + 1) + 2 * x * 2 ^ (left + 1) := by ring
      by_cases htop : k = 15
      · rw [if_pos ((top_bit (by omega)).2 htop)]
        obtain rfl : left = 0 := by omega
        exact ⟨_, rfl, by omega, by omega, by omega⟩
      · rw [if_neg (by rw [top_bit (by omega)]; exact htop)]
        obtain ⟨s, hs, hlt, hle, hge⟩ := @ih (k + 1) (fra - 2 * x / 2 ^ k)
          (sdm + 2 ^ (left + 1)) (c + (2 * x * 2 ^ (left + 1) - 65536 * (2 * x / 2 ^ k)))
          (by omega) (by omega) (by rw [← hw]; omega) (by omega)
        exact ⟨s, hs, hlt, by omega, by omega⟩

/-- The fraction found is within 15 kHz of the one looked for. -/
theorem pllSdm_spec {x fra : Nat} (hx : x ≤ 24000) (hfra : fra ≤ 2 * x) :
    ∃ sdm, pllSdm fra x = .ok sdm ∧ sdm < 65536 ∧ 2 * x * sdm ≤ 65536 * (fra + 15) ∧
      65536 * fra ≤ 2 * x * sdm + 65536 * 15 := by
  have hloop := @pllSdmLoop_spec x (by omega) 15 1 fra 0 0
  simp only [Nat.reducePow, Nat.reduceMul] at hloop
  obtain ⟨s, hs, hlt, hle, hge⟩ := hloop Nat.one_pos trivial (by linarith) (by norm_num)
  refine ⟨s, ?_, hlt, by linarith, by linarith⟩
  change (pllSdmLoop x fra 2 0 >>= fun sdm => fits 16 sdm) = _
  rw [hs]
  exact fits_ok hlt

/-! ## The band -/

/-- Doubling the divider keeps the VCO below the band's end, and gets it into the band in time. -/
theorem bandLoop_spec {v lo left : Nat} {b : Band} (hv : v * 4 ≤ 2 ^ 32) (hlo : 0 < lo)
    (hb : b.vcoFreq = lo * b.mixDiv) (hlt : b.vcoFreq < v * 2) (hle : v ≤ b.vcoFreq * 2 ^ left) :
    ∃ b', bandLoop v lo left b = .ok b' ∧ b'.vcoFreq = lo * b'.mixDiv ∧ v ≤ b'.vcoFreq ∧
      b'.vcoFreq < v * 2 ∧ b'.div ≤ b.div + left := by
  induction left generalizing b with
  | zero => exact ⟨b, rfl, hb, by simpa using hle, hlt, Nat.le_refl _⟩
  | succ left ih =>
    rw [bandLoop]
    by_cases hin : v ≤ b.vcoFreq ∧ b.vcoFreq < v * 2
    · rw [if_pos hin]
      exact ⟨b, rfl, hb, hin.1, hlt, Nat.le_add_right _ _⟩
    · rw [if_neg hin]
      have hmix : b.mixDiv ≤ b.vcoFreq := by
        rw [hb]
        exact Nat.le_mul_of_pos_left _ hlo
      have hdouble : lo * (b.mixDiv * 2) = b.vcoFreq * 2 := by rw [hb, Nat.mul_assoc]
      rw [fits_ok (by omega), ok_bind, hdouble, fits_ok (by omega), ok_bind]
      obtain ⟨b', hb', hvco, hge, hlt', hdiv⟩ := ih (b := ⟨b.mixDiv * 2, b.vcoFreq * 2, b.div + 1⟩)
        hdouble.symm (by change b.vcoFreq * 2 < v * 2; omega)
        (by rwa [Nat.mul_assoc, Nat.mul_comm 2, ← Nat.pow_succ])
      refine ⟨b', hb', hvco, hge, hlt', ?_⟩
      change b'.div ≤ b.div + 1 + left at hdiv
      omega

theorem bandOf_spec (chip : Fin 2) {lo : Nat} (hlo : 20000 ≤ lo) (hlo' : lo < 2200000) :
    ∃ b, bandOf chip lo = .ok b ∧ b.vcoFreq = lo * b.mixDiv ∧ vcoMin chip ≤ b.vcoFreq ∧
      b.vcoFreq < vcoMin chip * 2 ∧ b.div ≤ 6 := by
  have hv : 2200000 ≤ vcoMin chip ∧ vcoMin chip ≤ 2270000 := by
    unfold vcoMin
    split_ifs <;> omega
  obtain ⟨b, hb, h⟩ := @bandLoop_spec (vcoMin chip) lo 6 ⟨2, lo * 2, 0⟩
    (by omega) (by omega) rfl (show lo * 2 < _ by omega)
    (show _ ≤ lo * 2 * 2 ^ 6 by omega)
  refine ⟨b, ?_, by simpa using h⟩
  rw [bandOf, fits_ok (by omega)]
  exact hb

/-! ## The divider -/

/-- The divider, the fraction moved by no more than `x / 64`. -/
theorem pllDivider_spec {x : Nat} (vco : Nat) (hx : 0 < x) (hx' : x ≤ 24000)
    (hvco : vco / 2 / x < 65535) :
    ∃ nint fra, pllDivider x vco = .ok (nint, fra) ∧ fra ≤ 2 * x ∧
      vco / 2 / x ≤ nint ∧ nint ≤ vco / 2 / x + 1 ∧
      2 * x * nint + fra ≤ vco + x / 64 ∧ vco ≤ 2 * x * nint + fra + x / 64 := by
  have hle : x * 2 * (vco / 2 / x) ≤ vco := by
    rw [Nat.div_div_eq_div_mul, Nat.mul_comm x 2]
    exact Nat.mul_div_le _ _
  have hlt : vco < x * 2 * (vco / 2 / x) + x * 2 := by
    rw [Nat.div_div_eq_div_mul, Nat.mul_comm x 2, ← Nat.mul_succ]
    exact Nat.lt_mul_div_succ _ (by omega)
  have hbound : x * 2 * (vco / 2 / x) < 2 ^ 32 := by
    calc x * 2 * (vco / 2 / x) ≤ 48000 * 65535 := Nat.mul_le_mul (by omega) (by omega)
      _ < 2 ^ 32 := by omega
  generalize hq : vco / 2 / x = q at *
  have hcomm : 2 * x * q = x * 2 * q := by rw [Nat.mul_comm 2 x]
  have hsucc : 2 * x * (q + 1) = x * 2 * q + 2 * x := by rw [Nat.mul_succ, hcomm]
  rw [pllDivider]
  simp (disch := omega) only [hq, quot_ok, fits_ok, minus_ok, ok_bind]
  split_ifs
  · exact ⟨q, 0, rfl, by omega, by omega, by omega, by omega, by omega⟩
  · exact ⟨q + 1, 0, rfl, by omega, by omega, by omega, by omega, by omega⟩
  · exact ⟨q, x * 127 / 128, rfl, by omega, by omega, by omega, by omega, by omega⟩
  · exact ⟨q, x * 129 / 128, rfl, by omega, by omega, by omega, by omega, by omega⟩
  · exact ⟨q, _, rfl, by omega, by omega, by omega, by omega, by omega⟩
  · exact ⟨q, _, rfl, by omega, by omega, by omega, by omega, by omega⟩

/-! ## What the PLL is set to -/

/-- The VCO is told to run in its band at `loFreq * mixDiv`, and is told so within `x / 64 + 16`
kHz, `x` being the crystal after its division. -/
structure Pll.Meets (pll : Pll) (chip : Fin 2) (loFreq ifFreq : Nat) (sys : Option System) :
    Prop where
  band : bandOf chip loFreq = .ok pll.band
  vcoFreq : pll.band.vcoFreq = loFreq * pll.band.mixDiv
  low : vcoMin chip ≤ pll.band.vcoFreq
  high : pll.band.vcoFreq < vcoMin chip * 2
  div : pll.band.div ≤ 6
  xtal : pll.xtal = 24000 / xtalDivisor loFreq ifFreq sys
  nint : pll.nint = 4 * pll.ni + pll.si + 13
  ni : pll.ni < 128
  si : pll.si < 4
  sdm : pll.sdm < 65536
  upper : 2 * pll.xtal * (65536 * pll.nint + pll.sdm) ≤
    65536 * pll.band.vcoFreq + 65536 * (pll.xtal / 64 + 16)
  lower : 65536 * pll.band.vcoFreq ≤
    2 * pll.xtal * (65536 * pll.nint + pll.sdm) + 65536 * (pll.xtal / 64 + 16)

theorem xtalDivisor_cases (lo ifFreq : Nat) (sys : Option System) :
    xtalDivisor lo ifFreq sys = 1 ∨ xtalDivisor lo ifFreq sys = 2 ∨
      xtalDivisor lo ifFreq sys = 4 := by
  cases sys with
  | none => exact .inl rfl
  | some sys =>
    simp only [xtalDivisor]
    split_ifs <;> simp

theorem pllOf_spec {chip : Fin 2} {lo ifFreq : Nat} {sys : Option System} (hlo : 20000 ≤ lo)
    (hlo' : lo < 2200000) (hsum : lo + ifFreq < 2 ^ 32) :
    ∃ pll, pllOf 24000 chip lo ifFreq sys = .ok pll ∧ pll.Meets chip lo ifFreq sys := by
  obtain ⟨b, hb, hvco, hmin, hmax, hdiv⟩ := bandOf_spec chip hlo hlo'
  generalize hx : 24000 / xtalDivisor lo ifFreq sys = x
  have hxs : x = 24000 ∨ x = 12000 ∨ x = 6000 := by
    rcases xtalDivisor_cases lo ifFreq sys with h | h | h <;> rw [h] at hx <;> omega
  have hv : vcoMin chip ≤ 2270000 ∧ 2200000 ≤ vcoMin chip := by
    unfold vcoMin
    split_ifs <;> omega
  have hq : 45 ≤ b.vcoFreq / 2 / x ∧ b.vcoFreq / 2 / x ≤ 378 := by
    rcases hxs with rfl | rfl | rfl <;> omega
  obtain ⟨nint, fra, hd, hfra, hge, hle, hup, hdown⟩ :=
    pllDivider_spec (x := x) b.vcoFreq (by omega) (by omega) (by omega)
  obtain ⟨sdm, hs, hslt, hsup, hsdown⟩ := pllSdm_spec (x := x) (by omega) hfra
  have hni : toU8 (((nint : Int) - 13).tdiv 4) = .ok ((nint - 13) / 4) := by
    have : ((nint : Int) - 13).tdiv 4 = ((nint - 13) / 4 : Nat) := by
      rw [Int.tdiv_eq_ediv_of_nonneg (by omega)]
      omega
    rw [this, toU8_ok (by omega)]
  have hsi : toU8 ((nint : Int) - 13 - ((nint - 13) / 4 : Nat) * 4) = .ok ((nint - 13) % 4) := by
    have : (nint : Int) - 13 - ((nint - 13) / 4 : Nat) * 4 = ((nint - 13) % 4 : Nat) := by omega
    rw [this, toU8_ok (by omega)]
  have hmul : 2 * x * (65536 * nint + sdm) = 65536 * (2 * x * nint) + 2 * x * sdm := by ring
  have hupper : 2 * x * (65536 * nint + sdm) ≤ 65536 * b.vcoFreq + 65536 * (x / 64 + 16) := by
    omega
  have hlower : 65536 * b.vcoFreq ≤ 2 * x * (65536 * nint + sdm) + 65536 * (x / 64 + 16) := by
    omega
  have hfields : nint = 4 * ((nint - 13) / 4) + (nint - 13) % 4 + 13 := by omega
  have hni' : (nint - 13) / 4 < 128 := by omega
  have hsi' : (nint - 13) % 4 < 4 := Nat.mod_lt _ (by decide)
  refine ⟨⟨b, x, nint, (nint - 13) / 4, (nint - 13) % 4, sdm⟩, ?_, hb, hvco, hmin, hmax, hdiv,
    hx.symm, hfields, hni', hsi', hslt, hupper, hlower⟩
  rw [pllOf, fits_ok hsum, ok_bind, hb, ok_bind, hx]
  change (pllDivider x b.vcoFreq >>= _) = _
  rw [hd, ok_bind]
  simp only [hni, hsi, hs, ok_bind]
  rfl

/-! ## The registers -/

/-- The registers say what the PLL is set to. -/
structure Pll.Shown (pll : Pll) (r : Regs) : Prop where
  ni : (r 0x1b &&& 0x7f).toNat = pll.ni
  si : (r 0x1e &&& 0x03).toNat = pll.si
  sdmLo : (r 0x1c).toNat = pll.sdm % 256
  sdmHi : (r 0x1d).toNat = pll.sdm / 256

/-- A field of a register is what was put there last. -/
theorem field_and {r n m k : UInt8} (h : m &&& k = 0) :
    ((r &&& m) ||| (n &&& k)) &&& k = n &&& k := by
  apply UInt8.eq_of_toBitVec_eq
  ext i hi
  have hi' := congrArg (fun b : UInt8 => b.toBitVec[i]) h
  simp only [UInt8.toBitVec_and, UInt8.toBitVec_or, BitVec.getElem_and,
    BitVec.getElem_or] at hi' ⊢
  cases hm : m.toBitVec[i] <;> cases hk : k.toBitVec[i] <;> simp_all

theorem toNat_and_mask {n w : Nat} (h : n < 2 ^ w) (hw : w ≤ 8) :
    (UInt8.ofNat n &&& UInt8.ofNat (2 ^ w - 1)).toNat = n := by
  have hle : 2 ^ w ≤ 2 ^ 8 := Nat.pow_le_pow_right (by decide) hw
  rw [UInt8.toNat_and, UInt8.toNat_ofNat_of_lt' (by change n < 256; omega),
    UInt8.toNat_ofNat_of_lt' (by change _ < 256; omega), Nat.and_two_pow_sub_one_eq_mod,
    Nat.mod_eq_of_lt h]

theorem Pll.Meets.shown {pll : Pll} {chip : Fin 2} {lo ifFreq : Nat} {sys : Option System}
    (h : pll.Meets chip lo ifFreq sys) (r : Regs) : pll.Shown (pllRegs pll r) where
  ni := by
    have hr : pllRegs pll r 0x1b &&& 0x7f = UInt8.ofNat pll.ni &&& 0x7f := by
      simp only [pllRegs, Regs.put_apply, Regs.or_apply, Regs.and_apply]
      exact field_and (by decide)
    rw [hr]
    exact toNat_and_mask (w := 7) h.ni (by decide)
  si := by
    have hr : pllRegs pll r 0x1e &&& 0x03 = UInt8.ofNat pll.si &&& 0x03 := by
      simp only [pllRegs, Regs.put_apply, Regs.or_apply, Regs.and_apply]
      exact field_and (by decide)
    rw [hr]
    exact toNat_and_mask (w := 2) h.si (by decide)
  sdmLo := by simp [pllRegs]
  sdmHi := by
    have := h.sdm
    simp [pllRegs]
    omega

/-- Register 0x2f says nothing of it. -/
theorem Pll.Shown.congr {pll : Pll} {r r' : Regs} (h : pll.Shown r) (hr : ∀ i < 0x2f, r' i = r i) :
    pll.Shown r' := by
  obtain ⟨h1, h2, h3, h4⟩ := h
  constructor <;> rw [hr _ (by decide)] <;> assumption

variable {ω : Type} (i2c : I2c ω)

/-- Before it sends them, `set_pll` has set the registers to what the PLL is set to. -/
theorem setPll_run {pll : Pll} {lo ifFreq : Nat} {sys : Option System} {s : R850 × ω}
    (h : pllOf s.1.config.xtal s.1.chip lo ifFreq sys = .ok pll) :
    ∃ r, setPll i2c lo ifFreq sys s =
      sendPll i2c s.1.chip (s.1.setRegs (pllRegs pll r), s.2) := by
  rw [setPll, Eff.bind_of_ok (m := OnChip.self) rfl,
    Eff.bind_of_ok (m := Eff.ofExcept _) (by rw [Eff.ofExcept_apply, h]),
    Eff.bind_of_ok (m := modifyRegs _) rfl]
  exact ⟨_, rfl⟩

/-! ## Tuning -/

theorem ifFreq_le {system : System} {chip : Fin 2} :
    ∀ p ∈ systemParams system chip, p.ifFreq ≤ 5070 := by
  revert chip
  cases system <;> decide

/-- The last row of every table is for any frequency. -/
theorem any_row {system : System} (h : system ≠ .fm) :
    ∃ p ∈ freqParams system, p.ifFreq = 0 ∧ p.rfFreqMin = 0 ∧ p.rfFreqMax = 0 := by
  cases system <;> first | exact absurd rfl h | decide

theorem topsOf_ok {system : System} (chip : Fin 2) :
    ∀ p ∈ freqParams system, (topsOf chip (p.forChip chip system)).toOption.isSome := by
  revert chip
  cases system <;> decide

/-- What the mixer makes of the frequency. -/
def loFreq (mixerMode : Fin 2) (ifFreq rfFreq : Nat) : Nat :=
  if mixerMode = 1 then rfFreq - ifFreq else rfFreq + ifFreq

theorem loFreqOf_ok {mode : Fin 2} {ifFreq rfFreq : Nat} (h : ifFreq ≤ rfFreq)
    (hsum : rfFreq + ifFreq < 2 ^ 32) :
    loFreqOf mode ifFreq rfFreq = .ok (loFreq mode ifFreq rfFreq) := by
  rw [loFreqOf, loFreq]
  by_cases hm : mode = 0
  · rw [if_neg (by simp [hm]), if_neg (by rw [hm]; decide), fits_ok hsum]
  · have hm' : mode = 1 := by omega
    rw [if_pos hm, if_pos hm', minus_ok h]

variable {sys : SystemConfig} {chip mode : Fin 2} {freq : Nat}
  (hrow : (paramsOf chip sys).isSome) (hfreq : 40000 ≤ freq ∧ freq ≤ 1002000)

include hrow

theorem sys_of_row : sys.system ≠ .fm ∧ sys.ifFreq ≤ 5070 := by
  obtain ⟨p, hp⟩ := Option.isSome_iff_exists.1 hrow
  have hmem := List.mem_of_find?_eq_some hp
  have hif : p.ifFreq = sys.ifFreq := by
    have := List.find?_some hp
    simp only [decide_eq_true_eq] at this
    exact this.2
  refine ⟨fun hfm => ?_, hif ▸ ifFreq_le p hmem⟩
  rw [hfm] at hmem
  cases hmem

theorem freqRow (freq : Nat) : ∃ prm tops, freqParamsOf sys freq = some prm ∧
    topsOf chip (prm.forChip chip sys.system) = .ok tops := by
  obtain ⟨p, hp, h1, h2, h3⟩ := any_row (sys_of_row hrow).1
  have hsome : (freqParamsOf sys freq).isSome := by
    rw [freqParamsOf, List.find?_isSome]
    exact ⟨p, hp, by simp [h1, h2, h3]⟩
  obtain ⟨prm, hprm⟩ := Option.isSome_iff_exists.1 hsome
  have htops := topsOf_ok chip prm (List.mem_of_find?_eq_some hprm)
  cases ht : topsOf chip (prm.forChip chip sys.system) with
  | ok tops => exact ⟨prm, tops, hprm, ht⟩
  | error e =>
    rw [ht] at htops
    cases htops

include hfreq

theorem pllOf_tuned (mode : Fin 2) : ∃ pll,
    pllOf 24000 chip (loFreq mode sys.ifFreq freq) sys.ifFreq (some sys.system) = .ok pll ∧
    pll.Meets chip (loFreq mode sys.ifFreq freq) sys.ifFreq (some sys.system) := by
  have hif := (sys_of_row hrow).2
  have hlo : 20000 ≤ loFreq mode sys.ifFreq freq ∧ loFreq mode sys.ifFreq freq < 1010000 := by
    unfold loFreq
    split_ifs <;> omega
  exact pllOf_spec hlo.1 (by omega) (by omega)

omit hrow hfreq in
theorem modifyRegs_run (f : Regs → Regs) (s : R850 × ω) :
    modifyRegs f s = (.ok (), (s.1.setRegs (f s.1.regs), s.2)) := rfl

omit hrow hfreq in
theorem setMux_run (lo : Nat) (sys : Option System) (s : R850 × ω) :
    ∃ r, setMux lo sys s = (.ok (), (s.1.setRegs r, s.2)) := ⟨_, rfl⟩

theorem setSystemFrequency_run {pll : Pll} {s : R850 × ω} (hx : s.1.config.xtal = 24000)
    (hc : s.1.chip = chip) (hmode : s.1.mixerMode = mode)
    (hpll : pllOf 24000 chip (loFreq mode sys.ifFreq freq) sys.ifFreq (some sys.system) =
      .ok pll) :
    ∃ r, setSystemFrequency i2c sys freq s =
      sendPll i2c chip (s.1.setRegs (pllRegs pll r), s.2) := by
  obtain rfl := hc
  obtain rfl := hmode
  obtain ⟨prm, tops, hprm, htops⟩ := freqRow hrow freq
  have hif := (sys_of_row hrow).2
  rw [setSystemFrequency, hprm]
  simp only
  rw [Eff.bind_of_ok (m := OnChip.self) rfl, htops, loFreqOf_ok (by omega) (by omega),
    Eff.bind_of_ok (m := Eff.ofExcept _) rfl, Eff.bind_of_ok (m := Eff.ofExcept _) rfl,
    Eff.bind_of_ok (modifyRegs_run _ s)]
  obtain ⟨r, hr⟩ := setMux_run (loFreq s.1.mixerMode sys.ifFreq freq) (some sys.system)
    (s.1.setRegs (frequencyRegs s.1 sys freq (prm.forChip s.1.chip sys.system) tops s.1.regs), s.2)
  rw [Eff.bind_of_ok hr]
  rw [← hx] at hpll
  exact setPll_run i2c (s := ((s.1.setRegs _).setRegs r, s.2)) hpll

omit hfreq in
/-- With the calibrations off, what the system sets is not sent yet. -/
theorem setSystemParams_run {s : R850 × ω} (hc : s.1.chip = chip) (hsys : s.1.sys = some sys)
    (himr : s.1.config.noImrCalibration = true) (hlpf : s.1.config.noLpfCalibration = true) :
    ∃ r, setSystemParams i2c s =
      (.ok sys, ({ s.1.setRegs r with sysCurr := some sys }, s.2)) := by
  obtain ⟨prm, hprm⟩ := Option.isSome_iff_exists.1 hrow
  rw [setSystemParams, Eff.bind_of_ok (m := OnChip.self) rfl, hsys]
  simp only
  rw [calibrateMixer_off i2c himr, Eff.bind_of_ok (m := pure ()) rfl]
  by_cases hcurr : s.1.sysCurr = some sys
  · refine ⟨s.1.regs, ?_⟩
    rw [Eff.when, if_neg (not_not.2 hcurr), ← hcurr]
    rfl
  · rw [Eff.when, if_pos hcurr, changeSystem, hc, hprm]
    simp only
    rw [lpfOf_off i2c hlpf]
    exact ⟨_, rfl⟩

theorem setFrequency_run {pll : Pll} {s : R850 × ω} (hx : s.1.config.xtal = 24000)
    (hc : s.1.chip = chip) (hmode : s.1.mixerMode = mode) (hinit : s.1.initialised = true)
    (hsys : s.1.sys = some sys) (himr : s.1.config.noImrCalibration = true)
    (hlpf : s.1.config.noLpfCalibration = true)
    (hpll : pllOf 24000 chip (loFreq mode sys.ifFreq freq) sys.ifFreq (some sys.system) =
      .ok pll) :
    ∃ r, setFrequency i2c freq s =
      sendPll i2c chip ({ s.1 with sysCurr := some sys }.setRegs (pllRegs pll r), s.2) := by
  have hcheck : checkInit s = (.ok (), s) := by
    rw [checkInit, Eff.bind_of_ok (m := OnChip.self) rfl, hinit]
    rfl
  obtain ⟨r, hr⟩ := setSystemParams_run i2c hrow hc hsys himr hlpf
  rw [setFrequency, Eff.bind_of_ok hcheck,
    Eff.bind_of_ok (m := Eff.require _ _) (by rw [Eff.require, if_pos hfreq]; rfl),
    Eff.bind_of_ok hr]
  exact setSystemFrequency_run i2c hrow hfreq hx hc hmode hpll

omit hrow hfreq

/-- The integer part of the PLL divider, as the registers have it. -/
def nintOf (r : Regs) : Nat := 4 * (r 0x1b &&& 0x7f).toNat + (r 0x1e &&& 0x03).toNat + 13

/-- The fraction of the PLL divider, as the registers have it. -/
def sdmOf (r : Regs) : Nat := 256 * (r 0x1d).toNat + (r 0x1c).toNat

/-- `m` does not overflow, and leaves a divider of the crystal `x` in the registers by which the
VCO runs at `vcoFreq`, or at most `x / 64 + 16` kHz away. -/
def Hits (m : OnChip R850 ω Unit) (s : R850 × ω) (x vcoFreq : Nat) : Prop :=
  (m s).1 ≠ .error .overflow ∧
    |2 * (x : Int) * (65536 * nintOf (m s).2.1.regs + sdmOf (m s).2.1.regs) - 65536 * vcoFreq| ≤
      65536 * ((x / 64 : Nat) + 16)

theorem hits_of_run {pll : Pll} {m : OnChip R850 ω Unit} {chip : Fin 2} {lo ifFreq : Nat}
    {sys : Option System} {s t : R850 × ω} (hm : m s = sendPll i2c chip t)
    (ht : pll.Shown t.1.regs) (h : pll.Meets chip lo ifFreq sys) :
    Hits m s (24000 / xtalDivisor lo ifFreq sys) pll.band.vcoFreq := by
  have hrun := safe_sendPll i2c (I := fun c => pll.Shown c.regs) (F := fun e => e ≠ .overflow)
    nofun (fun _ _ hc hr => hc.congr hr) chip t ht
  have hshown : pll.Shown (m s).2.1.regs ∧ (m s).1 ≠ .error .overflow := by
    rw [hm]
    revert hrun
    cases hr : sendPll i2c chip t with
    | mk r t =>
      cases r with
      | ok _ => exact fun hs => ⟨hs, nofun⟩
      | error e => exact fun hs => ⟨hs.2, fun he => hs.1 (Except.error.inj he)⟩
  obtain ⟨⟨hni, hsi, hlo, hhi⟩, hok⟩ := hshown
  have hn : nintOf (m s).2.1.regs = pll.nint := by rw [nintOf, hni, hsi, h.nint]
  have hd : sdmOf (m s).2.1.regs = pll.sdm := by
    rw [sdmOf, hlo, hhi]
    omega
  refine ⟨hok, ?_⟩
  have hupper := h.upper
  have hlower := h.lower
  rw [hn, hd, ← h.xtal, abs_le]
  constructor
  · zify at hlower ⊢
    linarith
  · zify at hupper ⊢
    linarith

/-- With both calibrations off, as every model has them, the R850 is set to every frequency it
takes in every system it has a row for: the VCO is told to run in its band, at `mixDiv` times the
frequency of the local oscillator but for `x / 64 + 16` kHz, and nothing overflows. -/
theorem frequency_programmed (sys : SystemConfig) (chip mode : Fin 2) (freq : Nat)
    (hrow : (paramsOf chip sys).isSome) (hfreq : 40000 ≤ freq ∧ freq ≤ 1002000) :
    let lo := if mode = 1 then freq - sys.ifFreq else freq + sys.ifFreq
    let x := 24000 / xtalDivisor lo sys.ifFreq (some sys.system)
    ∃ band, bandOf chip lo = .ok band ∧ band.vcoFreq = lo * band.mixDiv ∧
      vcoMin chip ≤ band.vcoFreq ∧ band.vcoFreq < 2 * vcoMin chip ∧ band.div ≤ 6 ∧
      ∀ s : R850 × ω, s.1.config.xtal = 24000 → s.1.chip = chip → s.1.mixerMode = mode →
        Hits (setSystemFrequency i2c sys freq) s x band.vcoFreq ∧
          (s.1.initialised = true → s.1.sys = some sys → s.1.config.noImrCalibration = true →
            s.1.config.noLpfCalibration = true →
              Hits (setFrequency i2c freq) s x band.vcoFreq) := by
  intro lo x
  obtain ⟨pll, hpll, hm⟩ := pllOf_tuned hrow hfreq mode
  refine ⟨pll.band, hm.band, hm.vcoFreq, hm.low, Nat.mul_comm 2 _ ▸ hm.high, hm.div, ?_⟩
  intro s hx hc hmode
  constructor
  · obtain ⟨r, hr⟩ := setSystemFrequency_run i2c hrow hfreq hx hc hmode hpll
    exact hits_of_run i2c hr (hm.shown r) hm
  · intro hinit hsys himr hlpf
    obtain ⟨r, hr⟩ := setFrequency_run i2c hrow hfreq hx hc hmode hinit hsys himr hlpf hpll
    exact hits_of_run i2c hr (hm.shown r) hm

/-- Channel 13 of ISDB-T: the VCO runs at eight times the frequency of the local oscillator. -/
theorem frequency_programmed_isdbT :
    Hits (setFrequency (⟨fun _ _ => pure (), fun _ _ n => pure (.replicate n 0)⟩ : I2c Unit) 473143)
      ({ i2cAddr := 0x7c, config := ⟨24000, true, false, true, true⟩, initialised := true,
         sys := some ⟨.isdbT, .m6, 4063⟩, mixerMode := 1 }, ()) 24000 3752640 := by
  obtain ⟨band, hb, _, _, _, _, h⟩ := frequency_programmed
    (⟨fun _ _ => pure (), fun _ _ n => pure (.replicate n 0)⟩ : I2c Unit)
    ⟨.isdbT, .m6, 4063⟩ 0 1 473143 (by decide) (by decide)
  obtain rfl : ⟨8, 3752640, 2⟩ = band := Except.ok.inj hb
  exact (h _ rfl rfl rfl).2 rfl rfl rfl rfl

end Tunelith.Px4.R850
