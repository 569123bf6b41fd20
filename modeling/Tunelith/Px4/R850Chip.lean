import Mathlib.Logic.Function.Basic
import Mathlib.Tactic.Simps.Basic
import Tunelith.Px4.R850Tables

/-!
# The R850

The ISDB-T tuner, reached through the I2C relay of the demodulator in front of it: its registers,
its PLL and its filters. The rest is in `R850Calibration` and `R850`.

What the driver works out for the PLL is checked as it goes: an operation that overflows, or a
cast that loses bits, ends in `Fault.overflow`. The source writes the registers in between, which
makes no difference, as it sends none of them before the end.
-/

namespace Tunelith.Px4

/-! ## Checked arithmetic -/

/-- `n` as a number of `w` bits. -/
def fits (w n : Nat) : Except Fault Nat := if n < 2 ^ w then .ok n else .error .overflow

def minus (a b : Nat) : Except Fault Nat := if b ≤ a then .ok (a - b) else .error .overflow

def quot (a b : Nat) : Except Fault Nat := if b = 0 then .error .overflow else .ok (a / b)

/-- A signed number as a byte. -/
def toU8 (n : Int) : Except Fault Nat :=
  if 0 ≤ n ∧ n < 256 then .ok n.toNat else .error .overflow

def add8 (a b : UInt8) : Except Fault UInt8 :=
  if a.toNat + b.toNat < 256 then .ok (a + b) else .error .overflow

def sub8 (a b : UInt8) : Except Fault UInt8 := if b ≤ a then .ok (a - b) else .error .overflow

/-- `u32::wrapping_sub` -/
def wrappingSub (a b : Nat) : Nat := (a + 2 ^ 32 - b) % 2 ^ 32

@[simp] theorem ok_bind {α β : Type} (a : α) (f : α → Except Fault β) :
    (Except.ok a >>= f) = f a := rfl

theorem fits_ok {w n : Nat} (h : n < 2 ^ w) : fits w n = .ok n := if_pos h

theorem minus_ok {a b : Nat} (h : b ≤ a) : minus a b = .ok (a - b) := if_pos h

theorem quot_ok {a b : Nat} (h : 0 < b) : quot a b = .ok (a / b) := if_neg (Nat.ne_of_gt h)

theorem toU8_ok {n : Nat} (h : n < 256) : toU8 n = .ok n :=
  if_pos ⟨Int.natCast_nonneg n, Int.ofNat_lt.2 h⟩

namespace Regs

@[simp] theorem put_apply (r : Regs) (i : Nat) (v : UInt8) (j : Nat) :
    r.put i v j = if j = i then v else r j := Function.update_apply r i v j

@[simp] theorem and_apply (r : Regs) (i : Nat) (m : UInt8) (j : Nat) :
    r.and i m j = if j = i then r j &&& m else r j := by
  rw [and, put_apply]
  split_ifs with h
  · rw [h]
  · rfl

@[simp] theorem or_apply (r : Regs) (i : Nat) (m : UInt8) (j : Nat) :
    r.or i m j = if j = i then r j ||| m else r j := by
  rw [or, put_apply]
  split_ifs with h
  · rw [h]
  · rfl

end Regs

/-! ## The chip -/

namespace R850

structure Config where
  /-- The crystal in kHz; the PLL maths assume 24000. -/
  xtal : Nat
  loopThrough : Bool
  clockOut : Bool
  noImrCalibration : Bool
  noLpfCalibration : Bool
deriving DecidableEq, Repr

inductive Direction
  | gain
  | phase
deriving DecidableEq, Repr

structure Imr where
  gain : UInt8 := 0
  phase : UInt8 := 0
  iqcap : UInt8 := 0
  value : UInt8 := 0
deriving DecidableEq, Repr

structure ImrCal where
  imr : Fin 5 → Imr := fun _ => {}
  done : Bool := false
  result : Fin 5 → Bool := fun _ => false
  mixerAmpLpf : UInt8 := 0

end R850

structure R850 where
  i2cAddr : UInt8
  config : R850.Config
  initialised : Bool := false
  /-- The kind of the chip, from the id register; picks the table row set. -/
  chip : Fin 2 := 0
  /-- At most 3, as `check_xtal_power` leaves it. -/
  xtalPwr : Fin 4 := 0
  regs : Regs := fun _ => 0
  sys : Option R850.SystemConfig := none
  mixerMode : Fin 2 := 0
  mixerAmpLpfImrCal : UInt8 := 0
  imrCal : Fin 2 → R850.ImrCal := fun _ => {}
  sysCurr : Option R850.SystemConfig := none

namespace R850

variable {ω : Type} (i2c : I2c ω)

@[simps] def setRegs (c : R850) (r : Regs) : R850 := { c with regs := r }

def modifyRegs (f : Regs → Regs) : OnChip R850 ω Unit :=
  OnChip.modifySelf fun c => c.setRegs (f c.regs)

/-- Reads `len` registers from `reg`. The chip always sends from register 0 on, with the bits of
each byte reversed. -/
def readRegs (reg len : Nat) : OnChip R850 ω (List UInt8) := do
  let b ← OnChip.bus (i2c.writeRead (← OnChip.self).i2cAddr [0x00] (reg + len))
  return (b.toList.drop reg).map reverseBits

def readReg (reg : Nat) : OnChip R850 ω UInt8 := do
  return (← readRegs i2c reg 1).getD 0 0

def writeRegs (reg : Nat) (data : List UInt8) : OnChip R850 ω Unit := do
  OnChip.bus (i2c.write (← OnChip.self).i2cAddr (UInt8.ofNat reg :: data))

/-- Writes `len` registers from `reg` out of the shadow. -/
def flush (reg len : Nat) : OnChip R850 ω Unit := do
  writeRegs i2c reg ((← OnChip.self).regs.slice reg len)

def initRegs : OnChip R850 ω Unit := modifyRegs fun _ => INIT_REGS

section Safe

variable {I : R850 → Prop} {F : Fault → Prop}

theorem safe_modifyRegs {f : Regs → Regs} (h : ∀ c, I c → I (c.setRegs (f c.regs))) :
    Eff.Safe (fun s : R850 × ω => I s.1) F (modifyRegs f) := OnChip.safe_modifySelf h

variable (h : ∀ e, F (.bus e))

include h

theorem safe_readRegs (reg len : Nat) :
    Eff.Safe (fun s : R850 × ω => I s.1) F (readRegs i2c reg len) :=
  OnChip.safe_self.bind fun _ => (OnChip.safe_bus h _).bind fun _ => .pure _

theorem safe_readReg (reg : Nat) : Eff.Safe (fun s : R850 × ω => I s.1) F (readReg i2c reg) :=
  (safe_readRegs i2c h reg 1).bind fun _ => .pure _

theorem safe_writeRegs (reg : Nat) (data : List UInt8) :
    Eff.Safe (fun s : R850 × ω => I s.1) F (writeRegs i2c reg data) :=
  OnChip.safe_self.bind fun _ => OnChip.safe_bus h _

theorem safe_flush (reg len : Nat) :
    Eff.Safe (fun s : R850 × ω => I s.1) F (flush i2c reg len) :=
  OnChip.safe_self.bind fun _ => safe_writeRegs i2c h _ _

end Safe

/-! ## The PLL -/

def pllSdmLoop (xtal vcoFra nsdm sdm : Nat) : Except Fault Nat :=
  if 1 < vcoFra ∧ 0 < nsdm ∧ nsdm ≤ 0x8000 then do
    let t := (← fits 32 (xtal * 2)) / nsdm
    if t < vcoFra then
      let vcoFra ← minus vcoFra (← fits 16 t)
      let sdm ← fits 32 (sdm + 0x8000 / (nsdm / 2))
      if nsdm &&& 0x8000 ≠ 0 then return sdm
      pllSdmLoop xtal vcoFra (nsdm + nsdm) sdm
    else pllSdmLoop xtal vcoFra (nsdm + nsdm) sdm
  else return sdm
termination_by 0x8001 - nsdm

/-- The fractional part of the PLL divider, found bit by bit. -/
def pllSdm (vcoFra xtal : Nat) : Except Fault Nat := do
  let sdm ← pllSdmLoop xtal vcoFra 2 0
  fits 16 sdm

/-- The lowest frequency of the VCO; it goes up to twice as much. -/
def vcoMin (chip : Fin 2) : Nat := if chip = 0 then 2200000 + 70000 else 2200000

/-- The divider of the VCO, and what the VCO then runs at. -/
structure Band where
  mixDiv : Nat
  vcoFreq : Nat
  div : Nat
deriving DecidableEq, Repr

/-- Goes on doubling the divider, so many times at most, until the VCO can run at that. -/
def bandLoop (vcoMin loFreq : Nat) : Nat → Band → Except Fault Band
  | 0, b => return b
  | left + 1, b => do
    if vcoMin ≤ b.vcoFreq ∧ b.vcoFreq < vcoMin * 2 then return b
    let mixDiv ← fits 32 (b.mixDiv * 2)
    let vcoFreq ← fits 32 (loFreq * mixDiv)
    bandLoop vcoMin loFreq left ⟨mixDiv, vcoFreq, b.div + 1⟩

def bandOf (chip : Fin 2) (loFreq : Nat) : Except Fault Band := do
  let vcoFreq ← fits 32 (loFreq * 2)
  bandLoop (vcoMin chip) loFreq 6 ⟨2, vcoFreq, 0⟩

/-- Assumes a 24 MHz crystal, as C does. -/
def divJudge (loFreq ifFreq : Nat) : Nat := (loFreq + ifFreq) / 1000 / 12

/-- What the crystal is divided by: 1, 2 or 4. -/
def xtalDivisor (loFreq ifFreq : Nat) (sys : Option System) : Nat :=
  match sys with
  | none => 1
  | some sys =>
    if loFreq < 380500 then if divJudge loFreq ifFreq % 2 = 0 then 2 else 1
    else if wrappingSub (loFreq + ifFreq) 478000 < 4000 ∧ sys = .isdbT then 4
    else 1

/-- The integer and the fractional part of the PLL divider, the latter in kHz, moved off where it
is close to an integer. -/
def pllDivider (xtal vcoFreq : Nat) : Except Fault (Nat × Nat) := do
  let nint ← fits 16 (← quot (vcoFreq / 2) xtal)
  let vcoFra ← fits 16 (← minus vcoFreq (← fits 32 (xtal * 2 * nint)))
  if vcoFra < xtal / 64 then return (nint, 0)
  let x127 ← fits 32 (xtal * 127)
  if x127 / 64 < vcoFra then return (← fits 16 (nint + 1), 0)
  if x127 / 128 < vcoFra ∧ vcoFra < xtal then return (nint, ← fits 16 (x127 / 128))
  if xtal < vcoFra then
    let x129 ← fits 32 (xtal * 129)
    if vcoFra < x129 / 128 then return (nint, ← fits 16 (x129 / 128))
    else return (nint, vcoFra)
  else return (nint, vcoFra)

/-- What the PLL is set to. -/
structure Pll where
  band : Band
  /-- The crystal after its division. -/
  xtal : Nat
  nint : Nat
  ni : Nat
  si : Nat
  sdm : Nat
deriving DecidableEq, Repr

def pllOf (xtal : Nat) (chip : Fin 2) (loFreq ifFreq : Nat) (sys : Option System) :
    Except Fault Pll := do
  let _ ← fits 32 (loFreq + ifFreq)
  let band ← bandOf chip loFreq
  let xtal := xtal / xtalDivisor loFreq ifFreq sys
  let (nint, vcoFra) ← pllDivider xtal band.vcoFreq
  let ni ← toU8 (((nint : Int) - 13).tdiv 4)
  let si ← toU8 ((nint : Int) - 13 - ni * 4)
  let sdm ← pllSdm vcoFra xtal
  return ⟨band, xtal, nint, ni, si, sdm⟩

def setXtalCap (cap : UInt8) (r : Regs) : Regs :=
  let (c, g) : UInt8 × UInt8 := if 0x1f < cap then (cap - 10, 0x80) else (cap, 0x00)
  let r := (r.and 0x21 0x07).or 0x21 (((c <<< 2) &&& 0x78) ||| g)
  (r.and 0x22 0xf7).or 0x22 ((c <<< 3) &&& 0x08)

/-- The power of the crystal at a frequency; `pwr` is what it takes to start. -/
def xtalPowerBits (loFreq : Nat) (pwr : Fin 4) : UInt8 :=
  UInt8.ofNat (if loFreq < 100000 then if 1 < pwr.val then 3 - pwr.val else 2
    else if loFreq < 130000 then if 2 < pwr.val then 3 - pwr.val else 1
    else 0)

/-- The registers of the PLL, as far as they do not say what it is set to. -/
def pllSetupRegs (chip : Fin 2) (pwr : Fin 4) (loFreq ifFreq : Nat) (sys : Option System)
    (mixDiv : Nat) (r : Regs) : Regs :=
  let r := ((r.and 0x20 0xfc).or 0x2e 0x40).and 0x0c 0x3c
  let r := ((r.and 0x09 0xf9).and 0x22 0x3f).and 0x0b 0xc3
  let r := ((r.or 0x0b 0x10).and 0x25 0xef).or 0x25 0x20
  let r := setXtalCap 0x27 r
  let r := (r.and 0x22 0xcf).or 0x22 ((xtalPowerBits loFreq pwr <<< 4) &&& 0x30)
  let r := (r.and 0x1e 0x1f).and 0x25 0xfd
  let r := if divJudge loFreq ifFreq ∈ [4, 10, 22, 24, 28] then r.or 0x25 0x02 else r
  let r := r.and 0x2f (if chip ≠ 0 then 0xfd else 0xfc)
  let r := r.and 0x22 0xfc
  let r := match xtalDivisor loFreq ifFreq sys with
    | 2 => r.or 0x22 0x02
    | 4 => r.or 0x22 0x03
    | _ => r
  let r := (r.and 0x0b 0xfe).and 0x2d 0xf3
  let r := if mixDiv = 8 then r.or 0x2d 0x04
    else if mixDiv = 16 then r.or 0x2d 0x08
    else if 32 ≤ mixDiv then r.or 0x2d 0x0c
    else r
  let r := (r.and 0x2e 0xfc).and 0x20 0xec
  let r := if mixDiv = 2 ∨ mixDiv = 4 then r.or 0x2e 0x01 else (r.or 0x2e 0x02).or 0x20 0x01
  let r := r.and 0x11 0x7f
  if mixDiv = 8 then r.or 0x11 0x80 else r

/-- The registers that say what the PLL is set to. -/
def pllRegs (pll : Pll) (r : Regs) : Regs :=
  let r := (r.and 0x1e 0xe3).or 0x1e ((UInt8.ofNat pll.band.div <<< 2) &&& 0x1c)
  let r := (r.and 0x1b 0x80).or 0x1b (UInt8.ofNat pll.ni &&& 0x7f)
  let r := (r.and 0x1e 0xfc).or 0x1e (UInt8.ofNat pll.si &&& 0x03)
  let r := r.and 0x20 0x3f
  (r.put 0x1c (UInt8.ofNat pll.sdm)).put 0x1d (UInt8.ofNat (pll.sdm / 256))

/-- The end of `set_pll`, from where the registers are sent. -/
def sendPll (chip : Fin 2) : OnChip R850 ω Unit := do
  flush i2c 0x08 0x28
  modifyRegs fun r => (if chip = 0 then r.and 0x2f 0xfc else r).or 0x2f 0x02
  flush i2c 0x2f 1

def setPll (loFreq ifFreq : Nat) (sys : Option System) : OnChip R850 ω Unit := do
  let c ← OnChip.self
  let pll ← Eff.ofExcept (pllOf c.config.xtal c.chip loFreq ifFreq sys)
  modifyRegs fun r =>
    pllRegs pll (pllSetupRegs c.chip c.xtalPwr loFreq ifFreq sys pll.band.mixDiv r)
  sendPll i2c c.chip

/-- It does nothing to the chip as the driver knows it but to its register 0x2f. -/
theorem safe_sendPll {I : R850 → Prop} {F : Fault → Prop} (h : ∀ e, F (.bus e))
    (hI : ∀ c r, I c → (∀ i < 0x2f, r i = c.regs i) → I (c.setRegs r)) (chip : Fin 2) :
    Eff.Safe (fun s : R850 × ω => I s.1) F (sendPll i2c chip) := by
  refine (safe_flush i2c h 0x08 0x28).bind fun _ => Eff.Safe.bind ?_ fun _ =>
    safe_flush i2c h 0x2f 1
  refine safe_modifyRegs fun c hc => hI c _ hc fun i hi => ?_
  have hi' := Nat.ne_of_lt hi
  rw [Regs.or_apply, if_neg hi']
  split_ifs
  · rw [Regs.and_apply, if_neg hi']
  · rfl

/-! ## The filters -/

/-- The value of the first step whose bound `freq` is below, else `last`. -/
def below {α : Type} (freq : Nat) (steps : List (Nat × α)) (last : α) : α :=
  ((steps.find? fun step => freq < step.1).map (·.2)).getD last

def muxRegs (loFreq : Nat) (sys : Option System) (imr : UInt8 × UInt8 × UInt8) (r : Regs) : Regs :=
  let tfHpfBpf : UInt8 :=
    below loFreq [(580000, 7), (660000, 1), (780000, 6), (900000, 4)] 0
  let rfPoly : UInt8 := below loFreq [(133000, 2), (221000, 1), (760000, 0)] 3
  let tfHpfCnr : UInt8 := below loFreq [(480000, 3), (550000, 2), (700000, 1)] 0
  let (lpfNotch, lpfCap) : UInt8 × UInt8 :=
    if sys = some .dvbC ∨ sys = some .j83b then
      below loFreq
        [(77000, (10, 15)), (85000, (4, 15)), (115000, (3, 13)), (125000, (1, 11)),
          (141000, (0, 9)), (157000, (0, 8)), (181000, (0, 6)), (205000, (0, 3))] (0, 0)
    else
      below loFreq
        [(73000, (10, 8)), (81000, (4, 8)), (89000, (3, 8)), (121000, (1, 6)), (145000, (0, 4)),
          (153000, (0, 3)), (177000, (0, 2)), (201000, (0, 1))] (0, 0)
  let tfDiplexer : UInt8 := if loFreq < 330000 then 2 else 0
  let (imrGain, imrPhase, imrIqcap) := imr
  let r := ((r.and 0x0e 0x03).or 0x0e ((tfDiplexer <<< 2) &&& 0x0c)).or 0x0e
    ((lpfCap <<< 4) &&& 0xf0)
  let r := (r.and 0x0f 0xf0).or 0x0f (lpfNotch &&& 0x0f)
  let r := ((r.and 0x10 0xe0).or 0x10 ((tfHpfCnr <<< 3) &&& 0x18)).or 0x10 (tfHpfBpf &&& 0x07)
  let r := (r.and 0x12 0xfc).or 0x12 (rfPoly &&& 0x03)
  let r := (r.and 0x14 0xd0).or 0x14 (imrGain &&& 0x2f)
  ((r.and 0x15 0x10).or 0x15 (imrPhase &&& 0x2f)).or 0x15 ((imrIqcap <<< 6) &&& 0xc0)

/-- `rf_freq` is not used by the source either. -/
def setMux (loFreq : Nat) (sys : Option System) : OnChip R850 ω Unit := do
  let c ← OnChip.self
  let idx : Fin 5 := below loFreq [(170000, 0), (240000, 4), (400000, 1), (760000, 2)] 3
  let cal := c.imrCal c.mixerMode
  let imr : UInt8 × UInt8 × UInt8 :=
    if cal.done && cal.result idx then
      ((cal.imr idx).gain, (cal.imr idx).phase, (cal.imr idx).iqcap)
    else if sys.isSome then (0x02, 0x00, 0x00)
    else (0x00, 0x00, 0x00)
  modifyRegs (muxRegs loFreq sys imr)

end R850

end Tunelith.Px4
