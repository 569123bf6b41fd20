import Tunelith.Px4.R850Chip

/-!
# The calibrations of the R850

The image rejection and the low-pass filter, found by trying settings and reading what the ADC
makes of them. Every model has them off.
-/

namespace Tunelith.Px4.R850

variable {ω : Type} (i2c : I2c ω)

def readAdcValue : OnChip R850 ω UInt8 := do
  return (← readReg i2c 0x01) &&& 0x3f

/-! ## Image rejection -/

/-- Sets the IMR gain and phase (without the iqcap bits) and reads the ADC. -/
def imrTry : OnChip R850 ω UInt8 := do
  flush i2c 0x14 2
  readAdcValue i2c

/-- (gain, phase) -/
def CROSS : List (UInt8 × UInt8) :=
  [(0, 0), (0, 1), (0, 0x20 ||| 1), (1, 0), (0x20 ||| 1, 0), (0, 2), (0, 0x20 ||| 2), (2, 0),
    (0x20 ||| 2, 0)]

/-- Sets the bits of a value in an IMR register. -/
def imrPut (reg : Nat) (v : UInt8) (r : Regs) : Regs := (r.and reg 0xd0).or reg (v &&& 0x2f)

def Imr.along (imr : Imr) : Direction → UInt8 → Imr
  | .gain, v => { imr with gain := v }
  | .phase, v => { imr with phase := v }

def imrCheckIqCross : OnChip R850 ω (Imr × Direction) := do
  let mut best : Imr := { value := 0xff }
  for (gain, phase) in CROSS do
    modifyRegs fun r => imrPut 0x15 phase (imrPut 0x14 gain r)
    let tmp ← imrTry i2c
    if tmp < best.value then
      best := { best with gain := gain, phase := phase, value := tmp }
  return (best, if best.phase ≠ 0 then .phase else .gain)

/-- Fixes the other axis of `imr` and returns the register and the current value along
`direction`. -/
def imrFixOther (imr : Imr) : Direction → OnChip R850 ω (Nat × UInt8)
  | .gain => do
    modifyRegs (imrPut 0x15 imr.phase)
    return (0x14, imr.gain)
  | .phase => do
    modifyRegs (imrPut 0x14 imr.gain)
    return (0x15, imr.phase)

/-- The three or five values next to `v0`. -/
def iqTree (v0 : UInt8) : Nat → Option (List UInt8)
  | 3 =>
    some [v0, v0 + 1, if v0 &&& 0x0f = 0 then (v0 ^^^ 0x20) + 1 else v0 - 1]
  | 5 =>
    let (v3, v4) : UInt8 × UInt8 :=
      if v0 &&& 0x0f = 0 then ((v0 ^^^ 0x20) + 1, (v0 ^^^ 0x20) + 1 + 1)
      else if v0 &&& 0x0f = 1 then (v0 - 1, ((v0 - 1) ^^^ 0x20) + 1)
      else (v0 - 1, v0 - 1 - 1)
    some [v0, v0 + 1, v0 + 2, v3, v4]
  | _ => none

def imrCheckIqTree (imr : Imr) (direction : Direction) (num : Nat) : OnChip R850 ω Imr := do
  let (reg, v0) ← imrFixOther imr direction
  match iqTree v0 num with
  | none => Eff.throw (.chip "R850: invalid IMR tree size")
  | some vals =>
    let mut best := { imr with value := 0xff }
    for v in vals do
      modifyRegs (imrPut reg v)
      let tmp ← imrTry i2c
      if tmp < best.value then
        best := { best.along direction v with value := tmp }
    return best

/-- Nine turns are enough for the low bits of any value to pass 8. -/
def imrCheckIqStep (imr : Imr) (direction : Direction) : OnChip R850 ω Imr := do
  let (reg, v0) ← imrFixOther imr direction
  let mut val := v0
  let mut best := imr
  for _ in List.range 9 do
    if 8 < val &&& 0x0f then break
    val := val + 1
    modifyRegs (imrPut reg val)
    let tmp ← imrTry i2c
    if tmp < best.value then
      best := { best.along direction val with value := tmp }
    else if best.value.toNat + 2 < tmp.toNat then break
  return best

def imrCheckSection (imr : Imr) : OnChip R850 ω Imr := do
  let (g0, g2) ← if imr.gain ≠ 0 then do
      let g0 ← Eff.ofExcept (sub8 imr.gain 1)
      let g2 ← Eff.ofExcept (add8 imr.gain 1)
      pure (g0, g2)
    else do
      let g0 ← Eff.ofExcept (add8 (imr.gain &&& 0xdf) 1)
      let g2 ← Eff.ofExcept (add8 (imr.gain ||| 0x20) 1)
      pure (g0, g2)
  let mut val : UInt8 := 0xff
  let mut found : Option Imr := none
  let mut first : Option Imr := none
  for gain in [g0, imr.gain, g2] do
    let point ← imrCheckIqTree i2c { gain := gain, phase := imr.phase } .phase 3
    if first.isNone then first := some point
    if point.value < val then
      val := point.value
      found := some point
  return (found.orElse fun _ => first).getD {}

def imrCheckIqcap (imr : Imr) : OnChip R850 ω Imr := do
  modifyRegs (imrPut 0x14 imr.gain)
  flush i2c 0x14 1
  modifyRegs (imrPut 0x15 imr.phase)
  let mut best := { imr with iqcap := 0, value := 0xff }
  for i in ([0, 1, 2] : List UInt8) do
    modifyRegs fun r => (r.and 0x15 0x3f).or 0x15 ((i <<< 6) &&& 0xc0)
    flush i2c 0x15 1
    let tmp ← readAdcValue i2c
    if tmp < best.value then
      best := { best with iqcap := i, value := tmp }
  return best

/-- C does not write them out here either. -/
def prepareCalibration (regs : Regs) : OnChip R850 ω Unit := modifyRegs fun _ => regs

/-- The frequency of the ring oscillator for each point of the calibration. -/
def ringFreq : Fin 5 → Nat
  | 0 => 136000
  | 1 => 326400
  | 2 => 544000
  | 3 => 816000
  | 4 => 204000

def ringRegs (j : Fin 5) (r : Regs) : Regs :=
  let r := r.and 0x24 0xf0
  let r := match j with
    | 0 => r.or 0x24 0x0a
    | 1 => r.or 0x24 0x05
    | 2 => r.or 0x24 0x02
    | 3 => r
    | 4 => r.or 0x24 0x08
  (r.and 0x23 0xa0).or 0x23 0x11

/-- Sets the chip up for the point `j` of the calibration. -/
def imrPoint (mixerMode : Fin 2) (mixerAmpLpf : UInt8) (j : Fin 5) : OnChip R850 ω Unit := do
  modifyRegs (ringRegs j)
  if mixerMode = 0 then
    setMux (ringFreq j) none
    setPll i2c (ringFreq j - 5300) 5300 none
    modifyRegs fun r => (r.and 0x13 0xe8).or 0x13 (mixerAmpLpf &&& 0x07)
    flush i2c 0x13 1
    modifyRegs fun r => if j = 4 then (r.and 0x24 0xcf).or 0x24 0x10 else r.or 0x24 0x30
    flush i2c 0x24 1
    modifyRegs fun r => (r.and 0x29 0xf0).or 0x29 0x08
    flush i2c 0x29 1
  else
    setMux (ringFreq j) none
    setPll i2c (ringFreq j + 5300) 5300 none
    modifyRegs fun r => ((r.or 0x13 0x10).and 0x13 0xf8).or 0x13 (mixerAmpLpf &&& 0x07)
    flush i2c 0x13 1
    modifyRegs fun r =>
      let r := r.and 0x29 0xf0
      if j = 4 then ((r.or 0x29 0x07).and 0x24 0xcf).or 0x24 0x10
      else (r.or 0x29 0x06).or 0x24 0x30
    flush i2c 0x29 1
    flush i2c 0x24 1
  modifyRegs fun r => r.or 0x29 0xf0
  flush i2c 0x29 1

/-- The whole search, for the points that begin from nothing. -/
def imrFull : OnChip R850 ω Imr := do
  let (imr, d) ← imrCheckIqCross i2c
  let imr ← imrCheckIqStep i2c imr d
  let other : Direction := match d with
    | .gain => .phase
    | .phase => .gain
  let imr ← imrCheckIqTree i2c imr other 5
  imrCheckIqTree i2c imr d 3

def calibrateImr : OnChip R850 ω Unit := do
  let mixerMode := (← OnChip.self).mixerMode
  let mixerAmpLpf := (← OnChip.self).mixerAmpLpfImrCal
  for j in ([2, 1, 0, 3, 4] : List (Fin 5)) do
    let full : Bool := j = 2 || j = 3 && mixerMode ≠ 0
    let pre : Fin 5 := if j = 0 ∨ j = 4 then 1 else 2
    imrPoint i2c mixerMode mixerAmpLpf j
    let c ← OnChip.self
    let imr ← if full then imrFull i2c else pure ((c.imrCal mixerMode).imr pre)
    let imr ← imrCheckSection i2c imr
    let imr ← imrCheckIqcap i2c imr
    let good : Bool := imr.gain &&& 0x0f ≤ 0x06 && imr.phase &&& 0x0f ≤ 0x06
    OnChip.modifySelf fun c =>
      let cal := c.imrCal mixerMode
      { c with
        imrCal := Function.update c.imrCal mixerMode
          { cal with
            imr := Function.update cal.imr j imr
            result := Function.update cal.result j good } }
    if full then
      modifyRegs fun r => (r.and 0x14 0xd0).and 0x15 0x10
      flush i2c 0x14 2
  OnChip.modifySelf fun c =>
    { c with
      imrCal := Function.update c.imrCal mixerMode
        { c.imrCal mixerMode with done := true, mixerAmpLpf := mixerAmpLpf } }

/-! ## The low-pass filter -/

def lpfFailed : Fault := .chip "R850: LPF calibration failed"

def calibrateLpf (ifFreq : Nat) (bw gap : UInt8) : OnChip R850 ω Lpf := do
  let gap := gap.toNat
  let loFreq ← Eff.ofExcept (minus 72000 ifFreq)
  setPll i2c loFreq ifFreq none
  let mut val : UInt8 := 0
  for i in (List.range 11).map fun i => UInt8.ofNat (i + 5) do
    modifyRegs fun r => (r.and 0x29 0x0f).or 0x29 ((i <<< 4) &&& 0xf0)
    flush i2c 0x29 1
    val ← readAdcValue i2c
    if 0x28 < val then break
  let mut val3 : UInt8 := 0
  if 9999 < ifFreq then
    setPll i2c 63500 8500 none
    val3 ← readAdcValue i2c
    if val3.toNat ≤ val.toNat + 8 then setPll i2c loFreq ifFreq none
    else Eff.throw lpfFailed
  let mut bandwidth : UInt8 := 0
  for i in (if bw = 2 then [1, 2] else [0, 1, 2] : List UInt8) do
    bandwidth := if i = 0 then 0 else i + 1
    let b := bandwidth
    modifyRegs fun r => ((r.and 0x17 0x9f).and 0x17 0xe1).or 0x17 ((b <<< 5) &&& 0x60)
    flush i2c 0x17 1
    val ← readAdcValue i2c
    modifyRegs fun r => (r.and 0x17 0xe1).or 0x17 0x1a
    flush i2c 0x17 1
    let val2 ← readAdcValue i2c
    if val2.toNat + 16 < val.toNat then break
  let mut lpf : Lpf := { code := 16, bandwidth := bandwidth, lsb := 0 }
  for i in (List.range 16).map UInt8.ofNat do
    modifyRegs fun r => (r.and 0x17 0xe1).or 0x17 ((i <<< 1) &&& 0x1e)
    flush i2c 0x17 1
    let val2 ← readAdcValue i2c
    if i = 0 then
      val := if ifFreq ≤ 9999 then val2 else val3
    if val2.toNat + gap < val.toNat then
      if i = 0 then Eff.throw lpfFailed
      modifyRegs fun r => (r.and 0x17 0xe0).or 0x17 ((1 : UInt8) ||| (((i - 1) <<< 1) &&& 0x1e))
      flush i2c 0x17 1
      let val2 ← readAdcValue i2c
      lpf := { lpf with code := i }
      if val2.toNat + gap < val.toNat then
        lpf := { lpf with code := i - 1, lsb := 1 }
      break
  return lpf

end Tunelith.Px4.R850
