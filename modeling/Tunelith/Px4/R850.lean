import Tunelith.Px4.R850Calibration

/-!
# What the R850 does

It is initialised, told the system, and then tuned to a frequency. The sleep and wakeup sequences
are disabled in C, so that nothing is left of them but a check.
-/

namespace Tunelith.Px4.R850

variable {ω : Type} (i2c : I2c ω)

/-! ## Tuning -/

def systemRegs (chip : Fin 2) (prm : SystemParams) (lpf : Lpf) (r : Regs) : Regs :=
  let r := (((r.put 0x17 0x00).or 0x17 (lpf.lsb &&& 0x01)).or 0x17 ((lpf.code <<< 1) &&& 0x1e)).or
    0x17 ((lpf.bandwidth <<< 5) &&& 0x60)
  let r := r.or 0x17 ((prm.hpfNotch <<< 7) &&& 0x80)
  let r := (r.and 0x18 0x0f).or 0x18 ((prm.hpfCor <<< 4) &&& 0xf0)
  let r := (r.and 0x12 0xbf).or 0x12 ((prm.filtExtEna <<< 6) &&& 0x40)
  let r := (r.and 0x18 0xf3).or 0x18 ((prm.filtComp <<< 2) &&& 0x0c)
  let r := (r.and 0x2f 0xf3).or 0x2f ((prm.agcClk <<< 2) &&& 0x0c)
  let r := if chip ≠ 0 then (r.and 0x2c 0xfe).or 0x2c ((prm.imgGain >>> 1) &&& 0x01) else r
  (r.and 0x2e 0xef).or 0x2e ((prm.imgGain <<< 4) &&& 0x10)

/-- The row of a system, if the chip can receive it. -/
def paramsOf (chip : Fin 2) (sys : SystemConfig) : Option SystemParams :=
  (systemParams sys.system chip).find? fun p => p.bandwidth = sys.bandwidth ∧ p.ifFreq = sys.ifFreq

/-- Calibrates the image rejection, unless it has been for the mixer as it is. -/
def calibrateMixer (c : R850) : OnChip R850 ω Unit :=
  Eff.when
    (c.config.noImrCalibration = false ∧
      ((c.imrCal c.mixerMode).done = false ∨
        (c.imrCal c.mixerMode).mixerAmpLpf ≠ c.mixerAmpLpfImrCal)) do
    prepareCalibration IMR_CAL_REGS
    calibrateImr i2c

/-- The filter of a system: calibrated, or as its row has it. -/
def lpfOf (c : R850) (prm : SystemParams) : OnChip R850 ω Lpf :=
  if c.config.noLpfCalibration then return prm.lpf
  else do
    prepareCalibration LPF_CAL_REGS
    calibrateLpf i2c prm.filtCalIf prm.bw 2

/-- As every model has it. -/
theorem calibrateMixer_off {c : R850} (h : c.config.noImrCalibration = true) :
    calibrateMixer i2c c = pure () :=
  if_neg fun hc => by rw [h] at hc; cases hc.1

theorem lpfOf_off {c : R850} {prm : SystemParams} (h : c.config.noLpfCalibration = true) :
    lpfOf i2c c prm = pure prm.lpf := if_pos h

def changeSystem (c : R850) (sys : SystemConfig) : OnChip R850 ω Unit := do
  match paramsOf c.chip sys with
  | none => Eff.throw (.chip "R850: unsupported system")
  | some prm => do
    let lpf ← lpfOf i2c c prm
    initRegs
    modifyRegs (systemRegs c.chip prm lpf)
    OnChip.modifySelf fun c => { c with sysCurr := some sys }

def setSystemParams : OnChip R850 ω SystemConfig := do
  let c ← OnChip.self
  match c.sys with
  | none => Eff.throw (.chip "R850: no system is set")
  | some sys => do
    calibrateMixer i2c c
    Eff.when (c.sysCurr ≠ some sys) (changeSystem i2c c sys)
    return sys

/-- The row of a frequency, for a system. -/
def freqParamsOf (sys : SystemConfig) (rfFreq : Nat) : Option FreqParams :=
  (freqParams sys.system).find? fun p =>
    (p.ifFreq = 0 ∨ p.ifFreq = sys.ifFreq) ∧ (p.rfFreqMin = 0 ∨ p.rfFreqMin ≤ rfFreq) ∧
      (p.rfFreqMax = 0 ∨ rfFreq ≤ p.rfFreqMax)

/-- The row as the kind of the chip has it. -/
def FreqParams.forChip (prm : FreqParams) (chip : Fin 2) (system : System) : FreqParams :=
  if (system = .dvbC ∨ system = .j83b ∨ system = .isdbT) ∧ chip ≠ 0 then { prm with filterTop := 6 }
  else prm

/-- The levels the registers hold counted from the top. -/
structure Tops where
  lna : UInt8
  rf : UInt8
  mixer : UInt8
  filter : UInt8
  nrb : UInt8
deriving DecidableEq, Repr

def topsOf (chip : Fin 2) (prm : FreqParams) : Except Fault Tops := do
  let lna ← sub8 7 prm.lnaTop
  let rf ← sub8 7 prm.rfTop
  let mixer ← sub8 15 prm.mixerTop
  let filter ← sub8 (if chip ≠ 0 then 7 else 15) prm.filterTop
  let nrb ← sub8 15 prm.nrbTop
  return ⟨lna, rf, mixer, filter, nrb⟩

def loFreqOf (mixerMode : Fin 2) (ifFreq rfFreq : Nat) : Except Fault Nat :=
  if mixerMode ≠ 0 then minus rfFreq ifFreq else fits 32 (rfFreq + ifFreq)

def frequencyRegs (c : R850) (sys : SystemConfig) (rfFreq : Nat) (prm : FreqParams) (tops : Tops)
    (r : Regs) : Regs :=
  let chip := c.chip ≠ 0
  let r := r.and 0x13 0xef
  let r := if c.mixerMode ≠ 0 then r.or 0x13 0x10 else r
  let r := (r.and 0x0a 0xbf).or 0x0a ((prm.naPwrDet <<< 6) &&& 0x40)
  -- As in C, which reads register 0x0c here, a no-op with these tables.
  let r := (r.and 0x10 0xdf).or 0x10 (INIT_REGS 0x0c &&& 0x20)
  let r := (r.and 0x0b 0x7f).or 0x0b ((prm.lnaNrbDet <<< 7) &&& 0x80)
  let r := (r.and 0x26 0xf8).or 0x26 (tops.lna &&& 0x07)
  let r := r.put 0x27 prm.lnaVtlH
  let r := (r.and 0x11 0xef).or 0x11 ((prm.rfLtePsg <<< 4) &&& 0x10)
  let r := (r.and 0x26 0x8f).or 0x26 ((tops.rf <<< 4) &&& 0x70)
  let r := r.put 0x2a prm.rfVtlH
  let r := if prm.rfGainLimit ≤ 3 then
      -- C clears 0x04 but sets 0x02; kept as is.
      let r := if prm.rfGainLimit < 2 then r.and 0x12 0xfb else r.or 0x12 0x02
      if prm.rfGainLimit % 2 ≠ 0 then r.or 0x10 0x40 else r.and 0x10 0xbf
    else r
  let r := (r.and 0x13 0xf8).or 0x13 (prm.mixerAmpLpf &&& 0x07)
  let r := (r.and 0x28 0xf0).or 0x28 (tops.mixer &&& 0x0f)
  let r := if chip then (r.and 0x2c 0xf1).or 0x2c ((tops.filter <<< 1) &&& 0x0e)
    else (r.and 0x2c 0xf0).or 0x2c (tops.filter &&& 0x0f)
  let r := (r.and 0x0a 0xef).or 0x0a ((prm.filt3thLpfCur <<< 4) &&& 0x10)
  let r := (r.and 0x18 0xfc).or 0x18 (prm.filt3thLpfGain &&& 0x03)
  let r := r.put 0x29 (((prm.filterVth <<< 4) &&& 0xf0) ||| (prm.mixerVth &&& 0x0f))
  let r := r.put 0x2b (((prm.filterVtl <<< 4) &&& 0xf0) ||| (prm.mixerVtl &&& 0x0f))
  let r := (r.and 0x16 0x3f).or 0x16 ((prm.mixerGainLimit <<< 6) &&& 0xc0)
  let r := (r.and 0x2e 0x7f).or 0x2e ((prm.mixerDetbwLpf <<< 7) &&& 0x80)
  let r := if prm.lnaRfDisMode = 1 then ((r.or 0x2d 0x03).or 0x1f 0x01).or 0x20 0x20
    else if prm.lnaRfDisMode = 2 then ((r.or 0x2d 0x03).and 0x1f 0xfe).and 0x20 0xdf
    else if prm.lnaRfDisMode = 3 then ((r.or 0x2d 0x03).or 0x1f 0x01).and 0x20 0xdf
    else if prm.lnaRfDisMode = 4 then ((r.or 0x2d 0x03).and 0x1f 0xfe).or 0x20 0x20
    else ((r.and 0x2d 0xfc).or 0x1f 0x01).or 0x20 0x20
  let r := (r.and 0x1f 0xfd).or 0x1f ((prm.lnaRfChargeCur <<< 1) &&& 0x02)
  let r := (r.and 0x0d 0xdf).or 0x0d ((prm.lnaRfDisCurr <<< 5) &&& 0x20)
  let r := (r.and 0x2d 0x0f).or 0x2d ((prm.rfDisSlowFast <<< 4) &&& 0xf0)
  let r := (r.and 0x2c 0x0f).or 0x2c ((prm.lnaDisSlowFast <<< 4) &&& 0xf0)
  let r := (r.and 0x19 0xbf).or 0x19 ((prm.bbDisCurr <<< 6) &&& 0x40)
  let r := (r.and 0x25 0x3b).or 0x25
    (((prm.mixerFilterDis <<< 6) &&& (0xc0 : UInt8)) ||| ((prm.bbDetMode <<< 2) &&& (0x04 : UInt8)))
  let r := (r.and 0x19 0xfd).or 0x19 ((prm.enbPolyGain <<< 1) &&& 0x02)
  let r := (r.and 0x28 0x0f).or 0x28 ((tops.nrb <<< 4) &&& 0xf0)
  let r := (r.and 0x1a 0x33).or 0x1a
    (((prm.nrbBwLpf <<< 6) &&& (0xc0 : UInt8)) ||| ((prm.nrbBwHpf <<< 2) &&& (0x0c : UInt8)))
  let r := (r.and 0x2e 0xf3).or 0x2e ((prm.imgNrbAdder <<< 2) &&& 0x0c)
  let r := (r.and 0x0d 0xf9).or 0x0d ((prm.hpfComp <<< 1) &&& 0x06)
  let r := (r.and 0x15 0xef).or 0x15 ((prm.fbRes1st <<< 4) &&& 0x10)
  let r := if wrappingSub rfFreq 478000 ≤ 3999 ∧ sys.system = .isdbT then r.and 0x2f 0xf3 else r
  let r := r.and 0x19 0xdf
  let r := if c.config.loopThrough then (r.or 0x08 0xc0).or 0x0a 0x02
    else ((r.and 0x08 0x3f).or 0x08 0x40).and 0x0a 0xfd
  if c.config.clockOut then r.and 0x22 0xfb else r.or 0x22 0x04

def setSystemFrequency (sys : SystemConfig) (rfFreq : Nat) : OnChip R850 ω Unit := do
  match freqParamsOf sys rfFreq with
  | none => Eff.throw (.chip "R850: unsupported frequency")
  | some prm => do
    let c ← OnChip.self
    let prm := prm.forChip c.chip sys.system
    let loFreq ← Eff.ofExcept (loFreqOf c.mixerMode sys.ifFreq rfFreq)
    let tops ← Eff.ofExcept (topsOf c.chip prm)
    modifyRegs (frequencyRegs c sys rfFreq prm tops)
    setMux loFreq (some sys.system)
    setPll i2c loFreq sys.ifFreq (some sys.system)

/-! ## Coming up and going down -/

def xtalCheckRegs (chip : Fin 2) (r : Regs) : Regs :=
  let r := r.and 0x2f (if chip ≠ 0 then 0xfd else 0xfc)
  let r := (r.and 0x1b 0x80).or 0x1b 0x12
  let r := (r.and 0x1e 0xe0).or 0x1e 0x08
  let r := ((r.and 0x22 0x27).and 0x1d 0x0f).or 0x21 0xf8
  let r := (r.and 0x22 0x77).or 0x22 0x80
  ((r.and 0x1f 0x80).or 0x1f 0x40).and 0x1f 0xbf

/-- The lowest power at which the PLL locks in the window. -/
def xtalPowerLoop : List (Fin 4) → OnChip R850 ω (Fin 4)
  | [] => return 3
  | i :: rest => do
    modifyRegs fun r => (r.and 0x22 0xcf).or 0x22 (UInt8.ofNat i.val <<< 4)
    flush i2c 0x22 1
    let tmp ← readReg i2c 0x02
    -- Signed in C, so any bank below the window passes too.
    if tmp &&& 0x40 ≠ 0 ∧ ((tmp &&& 0x3f).toNat : Int) - (55 - 6) ≤ 12 then return i
    xtalPowerLoop rest

/-- For a 24 MHz crystal. -/
def checkXtalPower : OnChip R850 ω Unit := do
  initRegs
  modifyRegs (xtalCheckRegs (← OnChip.self).chip)
  flush i2c 0x08 (NUM_REGS - 0x08)
  let pwr ← xtalPowerLoop i2c [0, 1, 2, 3]
  OnChip.modifySelf fun c => { c with xtalPwr := if pwr < 3 then pwr + 1 else pwr }

/-- Forgets what `init` and `set_system` have found out and set. -/
def forget (c : R850) : R850 :=
  { c with
    initialised := false
    chip := 0
    sys := none
    imrCal := fun m => { c.imrCal m with done := false }
    sysCurr := none }

/-- Tries so many times to find out the kind of the chip. Only the last attempt's error counts, as
in C. -/
def identify : Nat → Except Fault Unit → OnChip R850 ω (Except Fault Unit)
  | 0, ret => return ret
  | tries + 1, _ => do
    match ← Eff.attempt (readReg i2c 0x00) with
    | .error e => identify tries (.error e)
    | .ok tmp => do
      OnChip.modifySelf fun c => if tmp &&& 0x98 ≠ 0 then { c with chip := 1 } else c
      if (← OnChip.self).chip ≠ 0 then return .ok ()
      identify tries (.ok ())

def init : OnChip R850 ω Unit := do
  OnChip.modifySelf forget
  Eff.ofExcept (← identify i2c 4 (.ok ()))
  let regs ← readRegs i2c 0x08 (NUM_REGS - 0x08)
  checkXtalPower i2c
  writeRegs i2c 0x08 regs
  initRegs
  OnChip.modifySelf fun c => { c with initialised := true }

def term : OnChip R850 ω Unit :=
  OnChip.modifySelf fun c => if c.initialised then { c.forget with regs := fun _ => 0 } else c

def notInitialized : Fault := .chip "R850 is not initialised"

def checkInit : OnChip R850 ω Unit := do
  Eff.require ((← OnChip.self).initialised = true) notInitialized

/-- Does nothing but check, as the sleep sequence is disabled in C. -/
def sleep : OnChip R850 ω Unit := checkInit

/-- Does nothing but check, as the wakeup sequence is disabled in C. -/
def wakeup : OnChip R850 ω Unit := checkInit

/-- The mixer mode of a system, and the gain its calibration is for. -/
def mixerOf : System → Fin 2 × UInt8
  | .dvbT | .dvbT2 | .dvbT2_1 | .dvbC | .fm => (1, 4)
  | .j83b | .dtmb | .atsc => (0, 7)
  | .isdbT => (1, 7)

def setSystem (system : SystemConfig) : OnChip R850 ω Unit := do
  checkInit
  OnChip.modifySelf fun c =>
    { c with
      sys := some system
      mixerMode := (mixerOf system.system).1
      mixerAmpLpfImrCal := (mixerOf system.system).2
      sysCurr := none }

/-- Tunes to `freq` in kHz, in the system last set. -/
def setFrequency (freq : Nat) : OnChip R850 ω Unit := do
  checkInit
  Eff.require (40000 ≤ freq ∧ freq ≤ 1002000) (.chip "R850: frequency out of range")
  let sys ← setSystemParams i2c
  setSystemFrequency i2c sys freq

def isPllLocked : OnChip R850 ω Bool := do
  checkInit
  return (← readReg i2c 0x02) &&& 0x40 != 0

end Tunelith.Px4.R850
