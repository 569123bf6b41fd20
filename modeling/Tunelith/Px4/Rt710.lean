import Tunelith.Px4.Tc90522

/-!
# The RT710

The ISDB-S tuner, and its successor RT720, reached through the I2C relay of the demodulator in
front of it. Until it is initialised it takes no parameters, and does not sleep.

A computation on a chip works on the chip as the driver knows it and on what is behind the bus.
What it fails with tells what the bus failed with from what the driver finds wrong itself; both are
one `Error` in the source. Arithmetic wraps, as in a release build.
-/

namespace Tunelith.Px4

/-- What an operation on a chip fails with: what the bus to it failed with, an error of the
driver's own, or a panic on an arithmetic overflow. -/
inductive Fault
  | bus (e : Error)
  | own (e : Error)
  | overflow
deriving DecidableEq

def Fault.chip (message : String) : Fault := .own (error message)

/-- A computation on a chip `χ` and on what is behind its bus. -/
abbrev OnChip (χ ω α : Type) : Type := Eff Fault (χ × ω) α

namespace OnChip

variable {χ ω α : Type}

/-- An operation on the bus. -/
def bus (m : Eff Error ω α) : OnChip χ ω α :=
  (m.mapError Fault.bus).zoom Prod.snd fun s w => (s.1, w)

def self : OnChip χ ω χ := fun s => (.ok s.1, s)

def modifySelf (f : χ → χ) : OnChip χ ω Unit := Eff.modify fun s => (f s.1, s.2)

/-- An operation on a part of it. -/
def part {τ : Type} (get : χ → τ) (put : χ → τ → χ) (m : OnChip τ ω α) : OnChip χ ω α :=
  m.zoom (fun s => (get s.1, s.2)) fun s t => (put s.1 t.1, t.2)

theorem bus_bind {β : Type} (m : Eff Error ω α) (f : α → Eff Error ω β) :
    (bus (m >>= f) : OnChip χ ω β) = bus m >>= fun a => bus (f a) := by
  funext s
  cases hm : m s.2 with
  | mk r w =>
    have hb : (bus m : OnChip χ ω α) s = (r.mapError Fault.bus, s.1, w) := by
      simp [bus, hm]
    cases r with
    | ok a =>
      rw [Eff.bind_of_ok hb]
      simp [bus, Eff.bind_of_ok hm]
    | error e =>
      rw [Eff.bind_of_error hb]
      simp [bus, Eff.bind_of_error hm, Except.mapError]

/-- What begins with a look at the chip knows the chip. -/
theorem triple_self {β : Type} {P : χ → Prop} {f : χ → OnChip χ ω β} {Q : β → χ × ω → Prop}
    {E : Fault → χ × ω → Prop} (h : ∀ c, P c → Eff.Triple (fun s => s.1 = c) (f c) Q E) :
    Eff.Triple (fun s => P s.1) (self >>= f) Q E := by
  intro s hs
  rw [Eff.bind_of_ok (m := self) rfl]
  exact h s.1 hs s rfl

theorem triple_part {τ : Type} {get : χ → τ} {put : χ → τ → χ} {m : OnChip τ ω α} {P : χ → Prop}
    {Q : α → χ → Prop} {E : Fault → χ → Prop} (h : ∀ c, P c → Eff.Triple (fun s => s.1 = get c) m
      (fun a s => Q a (put c s.1)) fun e s => E e (put c s.1)) :
    Eff.Triple (fun s => P s.1) (part get put m) (fun a s => Q a s.1) fun e s => E e s.1 :=
  Eff.Triple.zoom fun s hs => (h s.1 hs).conseq (fun _ ht => congrArg Prod.fst ht)
    (fun _ _ h => h) fun _ _ h => h

/-! What is kept of the chip: a bus does nothing to it, and fails as a bus. -/

variable {I : χ → Prop} {F : Fault → Prop}

theorem safe_bus (h : ∀ e, F (.bus e)) (m : Eff Error ω α) :
    Eff.Safe (fun s : χ × ω => I s.1) F (bus m) := by
  refine Eff.Triple.zoom fun s hs => Eff.Triple.mapError fun w hw => ?_
  split
  · exact hs
  · exact ⟨h _, hs⟩

theorem safe_self : Eff.Safe (fun s : χ × ω => I s.1) F self := fun _ hs => hs

theorem safe_modifySelf {f : χ → χ} (h : ∀ c, I c → I (f c)) :
    Eff.Safe (fun s : χ × ω => I s.1) F (modifySelf f) := Eff.Triple.modify fun s hs => h s.1 hs

end OnChip

/-- The registers of a chip, as the driver knows or makes them. -/
abbrev Regs : Type := Nat → UInt8

namespace Regs

def ofList (bytes : List UInt8) : Regs := fun i => bytes.getD i 0

def put (r : Regs) (i : Nat) (v : UInt8) : Regs := Function.update r i v

/-- `r[i] &= m` -/
def and (r : Regs) (i : Nat) (m : UInt8) : Regs := r.put i (r i &&& m)

/-- `r[i] |= m` -/
def or (r : Regs) (i : Nat) (m : UInt8) : Regs := r.put i (r i ||| m)

/-- `n` registers from `i` on. -/
def slice (r : Regs) (i n : Nat) : List UInt8 := (List.range n).map fun k => r (i + k)

end Regs

/-- The byte with its bits the other way round. -/
def reverseBits (b : UInt8) : UInt8 :=
  (List.range 8).foldl (fun acc i => (acc <<< 1) ||| ((b >>> (UInt8.ofNat i)) &&& 1)) 0

namespace Rt710

def NUM_REGS : Nat := 0x10

def RT710_INIT_REGS : Regs := .ofList
  [0x40, 0x1d, 0x20, 0x10, 0x41, 0x50, 0xed, 0x25, 0x07, 0x58, 0x39, 0x64, 0x38, 0xe7, 0x90, 0x35]

def RT720_INIT_REGS : Regs := .ofList
  [0x00, 0x1c, 0x00, 0x10, 0x41, 0x48, 0xda, 0x4b, 0x07, 0x58, 0x38, 0x40, 0x37, 0xe7, 0x4c, 0x59]

def SLEEP_REGS : Regs := .ofList
  [0xff, 0x5c, 0x88, 0x30, 0x41, 0xc8, 0xed, 0x25, 0x47, 0xfc, 0x48, 0xa2, 0x08, 0x0f, 0xf3, 0x59]

/-- Upper bandwidth in kHz and its (coarse, fine) setting, for the RT710. -/
def BANDWIDTH_PARAMS : List (UInt32 × UInt8 × UInt8) :=
  [(50000, 0, 0), (73000, 0, 1), (96000, 1, 0), (104000, 1, 1), (116000, 2, 0), (126000, 2, 1),
    (134000, 3, 0), (146000, 3, 1), (158000, 4, 0), (170000, 4, 1), (178000, 5, 0), (190000, 5, 1),
    (202000, 6, 0), (212000, 6, 1), (218000, 7, 0), (234000, 7, 1), (244000, 9, 1), (246000, 10, 0),
    (262000, 10, 1), (266000, 11, 0), (282000, 11, 1), (298000, 12, 1), (318000, 13, 1),
    (340000, 14, 1), (358000, 15, 1), (379999, 16, 1)]

inductive ChipType
  | rt710
  | rt720
deriving DecidableEq, Repr

inductive SignalOutputMode
  | single
  | differential
deriving DecidableEq, Repr

inductive AgcMode
  | negative
  | positive
deriving DecidableEq, Repr

inductive VgaAttenMode
  | off
  | on
deriving DecidableEq, Repr

inductive FineGain
  | db3
  | db2
  | db1
  | db0
deriving DecidableEq, Repr

def FineGain.toByte : FineGain → UInt8
  | db3 => 0
  | db2 => 1
  | db1 => 2
  | db0 => 3

inductive ScanMode
  | manual
  | auto
deriving DecidableEq, Repr

structure Config where
  /-- Crystal frequency in kHz. -/
  xtal : UInt32
  loopThrough : Bool
  clockOut : Bool
  signalOutputMode : SignalOutputMode
  agcMode : AgcMode
  vgaAttenMode : VgaAttenMode
  fineGain : FineGain
  /-- Only for the RT720. -/
  scanMode : ScanMode
deriving DecidableEq, Repr

end Rt710

structure Rt710 where
  i2cAddr : UInt8
  config : Rt710.Config
  /-- The detected chip, `none` until initialised. -/
  chip : Option Rt710.ChipType := none
  /-- The frequency in kHz the PLL is set to, 0 if none. -/
  freq : UInt32 := 0
deriving DecidableEq, Repr

namespace Rt710

variable {ω : Type} (i2c : I2c ω)

def chipOrErr : OnChip Rt710 ω ChipType := do
  match (← OnChip.self).chip with
  | some chip => return chip
  | none => Eff.throw (.chip "RT710 not initialised")

/-- Reads always start at register 0 and come with their bits reversed. -/
def readRegs (reg len : Nat) : OnChip Rt710 ω (List UInt8) := do
  Eff.require (0 < len ∧ len ≤ NUM_REGS - reg) (.chip "invalid RT710 register read")
  let b ← OnChip.bus (i2c.writeRead (← OnChip.self).i2cAddr [0x00] (reg + len))
  return (b.toList.drop reg).map reverseBits

def readReg (reg : Nat) : OnChip Rt710 ω UInt8 := do
  return (← readRegs i2c reg 1).getD 0 0

def writeRegs (reg : Nat) (data : List UInt8) : OnChip Rt710 ω Unit := do
  Eff.require (0 < data.length ∧ data.length ≤ NUM_REGS - reg)
    (.chip "invalid RT710 register write")
  OnChip.bus (i2c.write (← OnChip.self).i2cAddr (UInt8.ofNat reg :: data))

def writeReg (regs : Regs) (reg : Nat) : OnChip Rt710 ω Unit := writeRegs i2c reg [regs reg]

/-- How the VCO is divided for `freq`, and what it then runs at. -/
def mixDiv (freq : UInt32) : UInt32 × UInt32 :=
  let vcoMin : UInt32 := 2350000
  let rec go : Nat → UInt32 → UInt32 × UInt32
    | 0, d => (d, freq * d)
    | n + 1, d =>
      if 16 < d ∨ vcoMin ≤ freq * d ∧ freq * d ≤ vcoMin * 2 then (d, freq * d) else go n (d * 2)
  go 4 2

/-- The fraction of the PLL divider, bit by bit; `none` is a division by zero, which cannot happen
with a 24 MHz crystal. -/
def sdmLoop (xtal : UInt32) : Nat → UInt16 → UInt16 → UInt16 → Option UInt16
  | 0, _, _, _ => none
  | fuel + 1, nsdm, vcoFra, sdm =>
    if vcoFra ≤ 1 then some sdm
    else if nsdm = 0 then none
    else
      let t := xtal * 2 / nsdm.toUInt32
      if t < vcoFra.toUInt32 then
        let sdm := sdm + 0x8000 / (nsdm / 2)
        if 0x8000 ≤ nsdm then some sdm
        else sdmLoop xtal fuel (nsdm * 2) (vcoFra.toUInt32 - t).toUInt16 sdm
      else sdmLoop xtal fuel (nsdm * 2) vcoFra sdm

/-- The divider of the VCO, as register 0x04 has it. -/
def divNum (mixDiv : UInt32) : UInt8 :=
  if mixDiv = 2 then 1 else if mixDiv = 4 then 0 else if mixDiv = 8 then 2
    else if mixDiv = 16 then 3 else 0

/-- Sets the divider, which the RT720 has more of. -/
def setDiv (chip : ChipType) (regs : Regs) (divNum : UInt8) : OnChip Rt710 ω Regs := do
  let regs := (regs.and 0x04 0xfe).or 0x04 (divNum &&& 0x01)
  writeReg i2c regs 0x04
  match chip with
  | .rt710 => return regs
  | .rt720 => do
    let regs := (regs.and 0x08 0xef).or 0x08 ((divNum <<< 3) &&& 0x10)
    writeReg i2c regs 0x08
    let regs := regs.and 0x04 0x3f
    let regs := if divNum ≤ 1 then (regs.or 0x04 0x40).or 0x0c 0x10
      else (regs.or 0x04 0x80).and 0x0c 0xef
    writeReg i2c regs 0x04
    writeReg i2c regs 0x0c
    return regs

/-- The integer part of the PLL divider and the fraction in kHz, moved off where it is close to an
integer. -/
def pllDivider (xtal vcoFreq : UInt32) : UInt8 × UInt16 :=
  let nint := (vcoFreq / 2 / xtal).toUInt8
  let vcoFra := (vcoFreq - xtal * 2 * nint.toUInt32).toUInt16
  let fra := vcoFra.toUInt32
  if fra < xtal / 64 then (nint, 0)
  else if xtal * 127 / 64 < fra then (nint + 1, 0)
  else if xtal * 127 / 128 < fra ∧ fra < xtal then (nint, (xtal * 127 / 128).toUInt16)
  else if xtal < fra ∧ fra < xtal * 129 / 128 then (nint, (xtal * 129 / 128).toUInt16)
  else (nint, vcoFra)

def sdmOf (xtal : UInt32) (vcoFra : UInt16) : Except Fault UInt16 :=
  match sdmLoop xtal 17 2 vcoFra 0 with
  | some sdm => .ok sdm
  | none => .error .overflow

def setPll (chip : ChipType) (regs : Regs) (freq : UInt32) : OnChip Rt710 ω Regs := do
  let xtal := (← OnChip.self).config.xtal
  OnChip.modifySelf fun c => { c with freq := 0 }
  let (mixDiv, vcoFreq) := mixDiv freq
  let regs ← setDiv i2c chip regs (divNum mixDiv)
  let (nint, vcoFra) := pllDivider xtal vcoFreq
  let ni : UInt8 := (nint - 13) / 4
  let si : UInt8 := nint - ni * 4 - 13
  let regs := regs.put 0x05 ((ni &&& (0x3f : UInt8)) ||| ((si <<< (6 : UInt8)) &&& (0xc0 : UInt8)))
  writeReg i2c regs 0x05
  let regs := if vcoFra = 0 then regs.or 0x04 0x02 else regs
  writeReg i2c regs 0x04
  let sdm ← Eff.ofExcept (sdmOf xtal vcoFra)
  let regs := (regs.put 0x07 (sdm >>> 8).toUInt8).put 0x06 sdm.toUInt8
  writeReg i2c regs 0x07
  writeReg i2c regs 0x06
  OnChip.modifySelf fun c => { c with freq := freq }
  return regs

def init : OnChip Rt710 ω Unit := do
  OnChip.modifySelf fun c => { c with chip := none, freq := 0 }
  let tmp ← readReg i2c 0x03
  OnChip.modifySelf fun c =>
    { c with chip := some (if (tmp &&& 0xf0) = 0x70 then .rt710 else .rt720) }

def term : OnChip Rt710 ω Unit := OnChip.modifySelf fun c => { c with chip := none }

def sleep : OnChip Rt710 ω Unit := do
  let chip ← chipOrErr
  let config := (← OnChip.self).config
  let regs := if chip = .rt720 then (SLEEP_REGS.put 0x01 0x5e).or 0x03 0x20
    else if config.clockOut then SLEEP_REGS.put 0x03 0x20
    else SLEEP_REGS
  writeRegs i2c 0x00 (regs.slice 0 NUM_REGS)

/-- The value of register 0x0f for the filter bandwidth, `none` if it is zero. -/
def bandwidthReg (chip : ChipType) (symbolRate rolloff : UInt32) : Option UInt8 :=
  let bandwidth := symbolRate * (115 + rolloff * 5) / 10
  if bandwidth = 0 then none
  else
    let (coarse, fine) : UInt8 × UInt8 :=
      match chip with
      | .rt710 =>
        if 380000 ≤ bandwidth then
          let bandwidth := bandwidth - 380000
          ((if bandwidth % 17400 ≠ 0 then 1 else 0) +
            (((bandwidth / 17400) &&& 0xff).toUInt8 + 0x10), 1)
        else ((BANDWIDTH_PARAMS.find? fun p => bandwidth ≤ p.1).map (·.2)).getD (0, 0)
      | .rt720 =>
        let fine : UInt8 := if 1 < rolloff then 1 else 0
        let range := fine.toUInt32 * 20000
        let s := symbolRate * 12
        if s ≤ 88000 + range then (0, fine)
        else if s ≤ 368000 + range then
          let coarse := ((s - 88000 - range) / 20000).toUInt8
          let coarse := if (s - 88000 - range) % 20000 ≠ 0 then coarse + 1 else coarse
          (if 6 < coarse then coarse + 1 else coarse, fine)
        else if s ≤ 764000 + range then
          let coarse := ((s - 368000 - range) / 20000).toUInt8 + 15
          -- Differs from the division above; kept as in C.
          let coarse := if (s + 25216 - range) % 20000 ≠ 0 then coarse + 1 else coarse
          (if 33 ≤ coarse then coarse + 3 else if 29 ≤ coarse then coarse + 2
            else if 27 ≤ coarse then coarse + 3 else if 24 ≤ coarse then coarse + 2
            else if 19 ≤ coarse then coarse + 1 else coarse, fine)
        else (42, fine)
    some (((coarse <<< 2) &&& 0xfc) ||| (fine &&& 0x03))

/-- The registers `set_params` begins with, for the chip and the way it is used. -/
def paramRegs (chip : ChipType) (config : Config) : Regs :=
  let regs := match chip with
    | .rt710 => RT710_INIT_REGS
    | .rt720 => RT720_INIT_REGS
  let regs := if config.loopThrough then regs.and 0x01 0xfb else regs.or 0x01 0x04
  let regs := if config.clockOut then regs.and 0x03 0xef else regs.or 0x03 0x10
  let regs := match config.signalOutputMode with
    | .differential => regs.and 0x0b 0xef
    | .single => regs.or 0x0b 0x10
  let regs := match config.agcMode with
    | .positive => regs.or 0x0d 0x10
    | .negative => regs.and 0x0d 0xef
  let regs := match config.vgaAttenMode with
    | .on => regs.or 0x0b 0x08
    | .off => regs.and 0x0b 0xf7
  match chip with
  | .rt710 => (regs.and 0x0e 0xfc).or 0x0e (config.fineGain.toByte &&& 0x03)
  | .rt720 =>
    (match config.fineGain with
      | .db3 | .db2 => regs.and 0x0e 0xfe
      | _ => regs.or 0x0e 0x01).and 0x03 0xf0

/-- What the chip is set to for the frequency, and the symbol rate the filter is for. -/
def setGain (chip : ChipType) (config : Config) (regs : Regs) (freq symbolRate : UInt32) :
    OnChip Rt710 ω (Regs × UInt32) := do
  match chip with
  | .rt710 => do
    let regs := if 350000 ≤ freq - 1600000 then
        let regs := (regs.and 0x02 0xbf).and 0x08 0x7f
        if 1950000 ≤ freq then regs.put 0x0a 0x38 else regs
      else (regs.or 0x02 0x40).or 0x08 0x80
    writeReg i2c regs 0x0a
    writeReg i2c regs 0x02
    writeReg i2c regs 0x08
    let regs := regs.and 0x0e 0xf3
    let regs := if 2000000 ≤ freq then regs.or 0x0e 0x08 else regs
    writeReg i2c regs 0x0e
    return (regs, symbolRate)
  | .rt720 => do
    let (regs, symbolRate) : Regs × UInt32 :=
      match config.scanMode with
      | .auto => (regs.or 0x0b 0x02, symbolRate + 10000)
      | .manual =>
        (regs.and 0x0b 0xfc, if 15000 ≤ symbolRate then symbolRate + 6000 else symbolRate)
    writeReg i2c regs 0x0b
    return (regs, symbolRate)

def setBandwidth (chip : ChipType) (regs : Regs) (symbolRate rolloff : UInt32) :
    OnChip Rt710 ω Unit := do
  match bandwidthReg chip symbolRate rolloff with
  | none => Eff.throw (.chip "RT710 bandwidth is zero")
  | some b => writeReg i2c (regs.put 0x0f b) 0x0f

/-- `freq` and `symbolRate` in kHz and ksps; `rolloff` 0 to 5. -/
def setParams (freq symbolRate rolloff : UInt32) : OnChip Rt710 ω Unit := do
  let chip ← chipOrErr
  Eff.require (rolloff ≤ 5) (.chip "invalid RT710 rolloff")
  let config := (← OnChip.self).config
  let regs := paramRegs chip config
  writeRegs i2c 0x00 (regs.slice 0 NUM_REGS)
  let regs ← setPll i2c chip regs freq
  let (regs, symbolRate) ← setGain i2c chip config regs freq symbolRate
  setBandwidth i2c chip regs symbolRate rolloff

def isPllLocked : OnChip Rt710 ω Bool := do
  let _ ← chipOrErr
  return (← readReg i2c 0x02) &&& 0x80 != 0

example : bandwidthReg .rt710 28860 4 = some 0x45 := by decide
example : bandwidthReg .rt720 34860 4 = some 0x45 := by decide

end Rt710

end Tunelith.Px4
