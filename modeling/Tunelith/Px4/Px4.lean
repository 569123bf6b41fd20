import Mathlib.Data.Fin.VecNotation
import Tunelith.Px4.Board
import Tunelith.Px4.R850

/-!
# The PX4/PX5 series

PX-W3U4 to PX-Q3PE5: an IT930x with two ISDB-S tuners (TC90522 and RT710) and two ISDB-T tuners
(TC90522 and R850). The Q models are two such boards on one card, powered together.

The first tuner opened of a half initialises the chips of all four, and the last one closed lets
go of them.
-/

set_option linter.dupNamespace false

namespace Tunelith.Px4

/-! ## What the models of one tuner share with it -/

def RT710_ADDR : UInt8 := 0x7a

def RT710_CONFIG : Rt710.Config where
  xtal := 24000
  loopThrough := false
  clockOut := false
  signalOutputMode := .differential
  agcMode := .positive
  vgaAttenMode := .off
  fineGain := .db3
  scanMode := .manual

def R850_ADDR : UInt8 := 0x7c

def r850Config (loopThrough : Bool) : R850.Config where
  xtal := 24000
  loopThrough := loopThrough
  clockOut := false
  noImrCalibration := true
  noLpfCalibration := true

def R850_ISDB_T : R850.SystemConfig := ⟨.isdbT, .m6, 4063⟩

def TC_INIT_T : List (UInt8 × UInt8) :=
  [(0xb0, 0xa0), (0xb2, 0x3d), (0xb3, 0x25), (0xb4, 0x8b), (0xb5, 0x4b), (0xb6, 0x3f),
    (0xb7, 0xff), (0xb8, 0xc0)]

def TC_INIT_S : List (UInt8 × UInt8) := [(0x15, 0x00), (0x1d, 0x00)]

section

variable {χ ω : Type}

def selectTsidLoop (demod : Tc90522) (i2c : I2c ω) (tsid : UInt16) : Nat → OnChip χ ω Unit
  | 0 => Eff.throw (.chip "the transponder does not carry the TSID")
  | polls + 1 => do
    match ← Eff.attempt (OnChip.bus (demod.getTsidS i2c)) with
    | .ok got => if got = tsid.toNat then return () else selectTsidLoop demod i2c tsid polls
    | .error _ => selectTsidLoop demod i2c tsid polls

/-- Picks the stream with `tsid` out of the transponder, and waits for the demodulator to report
it. -/
def selectTsid (demod : Tc90522) (i2c : I2c ω) (tsid : UInt16) : OnChip χ ω Unit := do
  OnChip.bus (demod.setTsidS i2c tsid)
  selectTsidLoop demod i2c tsid 100

/-- Waits for a PLL to lock. A failed read is tried again; the last one's error is what counts. -/
def waitPll (isPllLocked : OnChip χ ω Bool) (message : String) :
    Nat → Except Fault Bool → OnChip χ ω Unit
  | 0, last => do
    let _ ← Eff.ofExcept last
    Eff.throw (.chip message)
  | polls + 1, _ => do
    match ← Eff.attempt isPllLocked with
    | .ok true => return ()
    | last => waitPll isPllLocked message polls last

end

def waitR850 {ω : Type} (bus : I2c ω) : OnChip R850 ω Unit :=
  waitPll (R850.isPllLocked bus) "the R850 PLL did not lock" 50 (.ok false)

def waitRt710 {ω : Type} (bus : I2c ω) : OnChip Rt710 ω Unit :=
  waitPll (Rt710.isPllLocked bus) "the RT710 PLL did not lock" 50 (.ok false)

/-! ## A half -/

inductive Tuner
  | s (rt710 : Rt710)
  | t (r850 : R850)

structure Chip where
  demod : Tc90522
  tuner : Tuner

structure Half where
  chips : Fin 4 → Chip
  openCount : Nat
  lnb : Lnb 4

namespace Half

def GPIO_BACKEND_RESET : UInt8 := 7
def GPIO_BACKEND_POWER : UInt8 := 2

/-- The demodulator addresses of the tuners of a board: two ISDB-S, then two ISDB-T. -/
def DEMODS : Fin 4 → UInt8 := ![0x11, 0x13, 0x10, 0x12]

/-- As `open` makes it. -/
def new : Half where
  chips i :=
    { demod := { addr := DEMODS i, isSecondary := i.val % 2 = 1 }
      tuner := if i.val < 2 then .s { i2cAddr := RT710_ADDR, config := RT710_CONFIG }
        else .t { i2cAddr := R850_ADDR, config := r850Config (i.val % 2 = 0) } }
  openCount := 0
  lnb _ := false

def setTuner (h : Half) (j : Fin 4) (tuner : Tuner) : Half :=
  { h with chips := Function.update h.chips j { h.chips j with tuner := tuner } }

section

variable {ω α : Type} (ops : Ops ω)

/-- An operation on the RT710 of a tuner. -/
def onRt710 (j : Fin 4) (rt710 : Rt710) (m : OnChip Rt710 ω α) : OnChip Half ω α :=
  OnChip.part (fun _ => rt710) (fun h rt710 => h.setTuner j (.s rt710)) m

/-- An operation on the R850 of a tuner. -/
def onR850 (j : Fin 4) (r850 : R850) (m : OnChip R850 ω α) : OnChip Half ω α :=
  OnChip.part (fun _ => r850) (fun h r850 => h.setTuner j (.t r850)) m

def power (on : Bool) : Eff Error ω Unit :=
  powerBackend ops GPIO_BACKEND_RESET GPIO_BACKEND_POWER on

def sleep (index : Fin 4) : OnChip Half ω Unit := do
  let chip := (← OnChip.self).chips index
  let i2c := ops.i2c 2
  match chip.tuner with
  | .s rt710 => do
    onRt710 index rt710 (Rt710.sleep (chip.demod.tunerBus i2c))
    OnChip.bus (chip.demod.sleepS i2c true)
  | .t r850 => do
    onR850 index r850 R850.sleep
    OnChip.bus (chip.demod.sleepT i2c true)

def initChip (index : Fin 4) : OnChip Half ω Unit := do
  let chip := (← OnChip.self).chips index
  let bus := chip.demod.tunerBus (ops.i2c 2)
  match chip.tuner with
  | .s rt710 => onRt710 index rt710 (Rt710.init bus)
  | .t r850 => onR850 index r850 (R850.init bus)

/-- Initialises the tuners of the board, then puts all but `index` to sleep. -/
def init (index : Fin 4) : OnChip Half ω Unit := do
  Eff.forEach (List.finRange 4) (initChip ops)
  Eff.forEach ((List.finRange 4).filter (· ≠ index)) (sleep ops)

def termChip (index : Fin 4) : OnChip Half ω Unit := do
  match ((← OnChip.self).chips index).tuner with
  | .s rt710 => onRt710 index rt710 Rt710.term
  | .t r850 => onR850 index r850 R850.term

def term : OnChip Half ω Unit := Eff.forEach (List.finRange 4) termChip

def wakeup (index : Fin 4) : OnChip Half ω Unit := do
  let chip := (← OnChip.self).chips index
  let demod := chip.demod
  let i2c := ops.i2c 2
  match chip.tuner with
  | .s _ => do
    OnChip.bus (demod.writeMultipleRegs i2c TC_INIT_S)
    OnChip.bus (demod.writeReg i2c 0x04 0x02)
    OnChip.bus (demod.enableTsPinsS i2c false)
    OnChip.bus (demod.sleepS i2c false)
  | .t r850 => do
    OnChip.bus (demod.writeMultipleRegs i2c TC_INIT_T)
    OnChip.bus (demod.writeReg i2c 0x1f 0x00)
    OnChip.bus (demod.writeReg i2c 0x75 0x00)
    OnChip.bus (demod.enableTsPinsT i2c false)
    OnChip.bus (demod.sleepT i2c false)
    onR850 index r850 do
      R850.wakeup
      R850.setSystem R850_ISDB_T

/-- `try_open` of the card, with the half of the tuner. -/
def tryOpen (index : Fin 4) : OnChip Half ω Unit := do
  let half ← OnChip.self
  let first : Bool := half.openCount = 0
  Eff.when first (init ops index)
  wakeup ops index
  Eff.when first do
    -- The first demodulator of each system: S0 and T0.
    OnChip.bus ((half.chips 0).demod.writeMultipleRegs (ops.i2c 2) [(0x07, 0x31), (0x08, 0x77)])
    OnChip.bus ((half.chips 2).demod.writeMultipleRegs (ops.i2c 2) [(0x0e, 0x77), (0x0f, 0x13)])

def tune (index : Fin 4) (params : TuneParams) : OnChip Half ω Unit := do
  let chip := (← OnChip.self).chips index
  let demod := chip.demod
  let i2c := ops.i2c 2
  let bus := demod.tunerBus i2c
  match chip.tuner with
  | .t r850 => do
    OnChip.bus (demod.writeReg i2c 0x47 0x30)
    OnChip.bus (demod.setAgcT i2c false)
    OnChip.bus (demod.writeReg i2c 0x76 0x0c)
    onR850 index r850 do
      R850.setFrequency bus params.frequencyKhz.toNat
      waitR850 bus
    OnChip.bus (demod.setAgcT i2c true)
    OnChip.bus (demod.writeReg i2c 0x71 0x21)
    OnChip.bus (demod.writeReg i2c 0x72 0x25)
    OnChip.bus (demod.writeReg i2c 0x75 0x08)
  | .s rt710 => do
    OnChip.bus (demod.setAgcS i2c false)
    OnChip.bus (demod.writeReg i2c 0x8e 0x06)
    OnChip.bus (demod.writeReg i2c 0xa3 0xf7)
    let ifFreq ← Eff.ofExcept (params.ifFrequencyKhz.mapError Fault.own)
    onRt710 index rt710 do
      Rt710.setParams bus ifFreq 28860 4
      waitRt710 bus
    OnChip.bus (demod.setAgcS i2c true)

def lock (index : Fin 4) : OnChip Half ω Lock := do
  let chip := (← OnChip.self).chips index
  let locked ← match chip.tuner with
    | .t _ => OnChip.bus (chip.demod.isSignalLockedT (ops.i2c 2))
    | .s _ => OnChip.bus (chip.demod.isSignalLockedS (ops.i2c 2))
  return if locked then .locked else .waiting

def select (index : Fin 4) (params : TuneParams) : OnChip Half ω Unit := do
  match params.streamId with
  | none => return ()
  | some streamId =>
    selectTsid ((← OnChip.self).chips index).demod (ops.i2c 2) streamId.id

def setLnb (index : Fin 4) (on : Bool) : OnChip Half ω Unit := do
  match ((← OnChip.self).chips index).tuner with
  | .t _ => Eff.throw (.own (.unsupported .isdbT))
  | .s _ => OnChip.part Half.lnb (fun h lnb => { h with lnb := lnb }) (Lnb.set ops index on)

def setCapture (index : Fin 4) (on : Bool) : OnChip Half ω Unit := do
  let chip := (← OnChip.self).chips index
  match chip.tuner with
  | .t _ => OnChip.bus (chip.demod.enableTsPinsT (ops.i2c 2) on)
  | .s _ => OnChip.bus (chip.demod.enableTsPinsS (ops.i2c 2) on)

end

end Half

/-! ## The card -/

/-- A card of `m` halves. -/
structure Px4 (m : Nat) where
  halves : Fin m → Half

namespace Px4

variable {m : Nat} {ω α : Type} (ops : Fin m → Ops ω)

def new (m : Nat) : Px4 m := ⟨fun _ => .new⟩

/-- An operation on the half `k`. -/
def onHalf (k : Fin m) (op : OnChip Half ω α) : OnChip (Px4 m) ω α :=
  OnChip.part (fun c => c.halves k) (fun c half => ⟨Function.update c.halves k half⟩) op

def openCount (c : Px4 m) : Nat := ((List.finRange m).map fun k => (c.halves k).openCount).sum

def powerLoop (on : Bool) : List (Fin m) → Except Error Unit → Eff Error ω Unit
  | [], result => Eff.ofExcept result
  | k :: ks, result => do
    let r ← Eff.attempt (Half.power (ops k) on)
    powerLoop on ks (both result r)

/-- Powers every board: those of a Q model go on and off together. -/
def power (on : Bool) : Eff Error ω Unit := powerLoop ops on (List.finRange m) (.ok ())

/-- What `open` does with the half once it has tried. -/
def settle (result : Except Fault Unit) : OnChip Half ω Unit := do
  match result with
  | .ok () => OnChip.modifySelf fun half => { half with openCount := half.openCount + 1 }
  | .error _ => Eff.when ((← OnChip.self).openCount = 0) Half.term

def «open» (index : Fin m × Fin 4) : OnChip (Px4 m) ω Unit := do
  let first : Bool := (← OnChip.self).openCount = 0
  Eff.when first (OnChip.bus (power ops true))
  let result ← Eff.attempt (onHalf index.1 (Half.tryOpen (ops index.1) index.2))
  onHalf index.1 (settle result)
  Eff.when (result.toOption.isNone && first) do
    let _ ← Eff.attempt (OnChip.bus (power ops false))
  Eff.ofExcept result

/-- What `close` does with the half. -/
def closeHalf (k : Fin m) (i : Fin 4) : OnChip Half ω Unit := do
  Eff.require (0 < (← OnChip.self).openCount) .overflow
  OnChip.modifySelf fun half => { half with openCount := half.openCount - 1 }
  if (← OnChip.self).openCount = 0 then Half.term
  else
    let _ ← Eff.attempt (Half.sleep (ops k) i)

def close (index : Fin m × Fin 4) : OnChip (Px4 m) ω Unit := do
  onHalf index.1 (closeHalf ops index.1 index.2)
  Eff.when ((← OnChip.self).openCount = 0) do
    let _ ← Eff.attempt (OnChip.bus (power ops false))

/-- `half(index)` -/
def tuner (m index : Nat) : Option (Fin m × Fin 4) :=
  if h : index / 4 < m then some (⟨index / 4, h⟩, ⟨index % 4, Nat.mod_lt _ (by decide)⟩) else none

/-- The card as a board. -/
def board : Board (Fin m × Fin 4) (Px4 m × ω) where
  tuner := tuner m
  systems i := if i.2.val < 2 then [.isdbS] else [.isdbT]
  source i := (i.1, i.2)
  «open» := «open» ops
  close := close ops
  tune i params := onHalf i.1 (Half.tune (ops i.1) i.2 params)
  lock i _ := onHalf i.1 (Half.lock (ops i.1) i.2)
  select i params := onHalf i.1 (Half.select (ops i.1) i.2 params)
  setLnb i on := onHalf i.1 (Half.setLnb (ops i.1) i.2 on)
  setCapture i on := onHalf i.1 (Half.setCapture (ops i.1) i.2 on)

end Px4

end Tunelith.Px4
