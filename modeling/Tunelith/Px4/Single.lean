import Tunelith.Px4.Px4

/-!
# The models with a single tuner

PX-M1UR and ISDB2056/2056N, which switch between ISDB-T and ISDB-S, and PX-S1UR and ISDBT2071,
which receive ISDB-T alone: a TC90522 per system, with an R850 and an RT710.

It is powered and initialised by every open, and let go of by every close.
-/

set_option linter.dupNamespace false

namespace Tunelith.Px4

namespace Single

def I2C_BUS : UInt8 := 3
def GPIO_BACKEND_RESET : UInt8 := 3
def GPIO_BACKEND_POWER : UInt8 := 2

def TC_INIT_ISDBT2071 : List (UInt8 × UInt8) :=
  [(0x04, 0x00), (0x10, 0x00), (0x11, 0x2d), (0x12, 0x02), (0x13, 0x62), (0x14, 0x60),
    (0x15, 0x00), (0x16, 0x00), (0x1d, 0x05), (0x1e, 0x15), (0x1f, 0x40), (0x30, 0x20),
    (0x31, 0x0b), (0x32, 0x8f), (0x34, 0x0f), (0x38, 0x01), (0x39, 0x1c)]

inductive Model
  | m1ur
  | isdb2056
  | isdb2056n
  | s1ur
  | isdbt2071
deriving DecidableEq, Repr

end Single

structure Single where
  model : Single.Model
  demodT : Tc90522
  /-- Absent on the ISDBT2071. -/
  demodS : Option Tc90522
  /-- The second ISDB-S demodulator of the ISDB2056N. -/
  demodS0 : Option Tc90522
  r850 : R850
  /-- Absent on the ISDB-T models. -/
  rt710 : Option Rt710
  /-- The system last tuned to. -/
  system : Option System := none

namespace Single

def Model.satellite : Model → Bool
  | .m1ur | .isdb2056 | .isdb2056n => true
  | .s1ur | .isdbt2071 => false

def new (model : Model) : Single where
  model := model
  demodT := { addr := if model = .isdbt2071 then 0x18 else 0x10 }
  demodS := match model with
    | .isdbt2071 => none
    | .isdb2056n => some { addr := 0x13, isSecondary := true }
    | _ => some { addr := 0x11 }
  demodS0 := if model = .isdb2056n then some { addr := 0x11 } else none
  r850 := { i2cAddr := R850_ADDR, config := r850Config false }
  rt710 := if model.satellite then some { i2cAddr := RT710_ADDR, config := RT710_CONFIG } else none

variable {ω α : Type} (ops : Ops ω)

def onR850 (m : OnChip R850 ω α) : OnChip Single ω α :=
  OnChip.part Single.r850 (fun c r850 => { c with r850 := r850 }) m

def onRt710 (rt710 : Rt710) (m : OnChip Rt710 ω α) : OnChip Single ω α :=
  OnChip.part (fun _ => rt710) (fun c rt710 => { c with rt710 := some rt710 }) m

def power (on : Bool) : Eff Error ω Unit :=
  powerBackend ops GPIO_BACKEND_RESET GPIO_BACKEND_POWER on

def term : OnChip Single ω Unit := do
  onR850 R850.term
  match (← OnChip.self).rt710 with
  | some rt710 => onRt710 rt710 Rt710.term
  | none => return ()

/-- What `init` does with the ISDB-S tuner. -/
def initRt710 : OnChip Single ω Unit := do
  let c ← OnChip.self
  match c.rt710, c.demodS with
  | some rt710, some demodS => onRt710 rt710 (Rt710.init (demodS.tunerBus (ops.i2c I2C_BUS)))
  | _, _ => return ()

/-- What `init` does with the ISDB-T demodulator. -/
def initDemodT : OnChip Single ω Unit := do
  let c ← OnChip.self
  let i2c := ops.i2c I2C_BUS
  OnChip.bus (c.demodT.writeMultipleRegs i2c
    (if c.model = .isdbt2071 then TC_INIT_ISDBT2071 else TC_INIT_T))
  OnChip.bus (c.demodT.enableTsPinsT i2c false)
  if c.rt710.isSome then
    -- Asleep until tuned to ISDB-T.
    OnChip.bus (c.demodT.sleepT i2c true)
  else
    OnChip.bus (c.demodT.sleepT i2c false)
    onR850 R850.wakeup

/-- What `init` does with the ISDB-S demodulator. -/
def initDemodS : OnChip Single ω Unit := do
  let c ← OnChip.self
  let i2c := ops.i2c I2C_BUS
  match c.demodS with
  | none => return ()
  | some demodS => do
    Eff.when (c.rt710.isSome = true) (OnChip.bus (demodS.writeMultipleRegs i2c TC_INIT_S))
    OnChip.bus (demodS.enableTsPinsS i2c false)
    OnChip.bus (demodS.sleepS i2c true)

def init : OnChip Single ω Unit := do
  onR850 (R850.init ((← OnChip.self).demodT.tunerBus (ops.i2c I2C_BUS)))
  initRt710 ops
  initDemodT ops
  onR850 (R850.setSystem R850_ISDB_T)
  initDemodS ops

/-- The registers `tune_t` sets before the tuner is tuned. -/
def setUpT : OnChip Single ω Unit := do
  let c ← OnChip.self
  let i2c := ops.i2c I2C_BUS
  match c.model with
  | .s1ur => OnChip.bus (c.demodT.writeMultipleRegs i2c
      [(0x0e, 0x77), (0x0f, 0x10), (0x71, 0x20), (0x76, 0x0c), (0x1f, 0x30)])
  | .isdbt2071 => OnChip.bus (c.demodT.writeMultipleRegs i2c
      [(0x76, 0x03), (0x77, 0x01), (0x3b, 0x10), (0x3c, 0x10), (0x3d, 0x24)])
  | _ => do
    Eff.forEach c.demodS.toList fun demodS => OnChip.bus (demodS.sleepS i2c true)
    OnChip.bus (c.demodT.writeMultipleRegs i2c [(0x0e, 0x77), (0x0f, 0x10), (0x71, 0x20)])
    OnChip.bus (c.demodT.sleepT i2c false)
    OnChip.bus (c.demodT.writeMultipleRegs i2c [(0x76, 0x0c), (0x1f, 0x30)])

def tuneT (khz : UInt32) : OnChip Single ω Unit := do
  let c ← OnChip.self
  let demod := c.demodT
  let i2c := ops.i2c I2C_BUS
  let bus := demod.tunerBus i2c
  OnChip.bus (demod.writeReg i2c 0x47 0x30)
  OnChip.bus (demod.setAgcT i2c false)
  setUpT ops
  Eff.when (c.rt710.isSome = true) (onR850 R850.wakeup)
  onR850 do
    R850.setFrequency bus khz.toNat
    waitR850 bus
  OnChip.bus (demod.setAgcT i2c true)
  Eff.when (c.model ≠ .isdbt2071)
    (OnChip.bus (demod.writeMultipleRegs i2c [(0x71, 0x01), (0x72, 0x25), (0x75, 0x00)]))

def tuneS (khz : UInt32) : OnChip Single ω Unit := do
  let c ← OnChip.self
  let i2c := ops.i2c I2C_BUS
  match c.demodS, c.rt710 with
  | some demodS, some rt710 => do
    let bus := demodS.tunerBus i2c
    OnChip.bus (demodS.setAgcS i2c false)
    OnChip.bus (c.demodT.writeMultipleRegs i2c [(0x0e, 0x11), (0x0f, 0x70)])
    OnChip.bus (c.demodT.sleepT i2c true)
    match c.demodS0 with
    | some demodS0 => OnChip.bus (demodS0.writeMultipleRegs i2c [(0x07, 0x77), (0x08, 0x37)])
    | none => OnChip.bus (demodS.writeMultipleRegs i2c [(0x07, 0x77), (0x08, 0x10)])
    OnChip.bus (demodS.sleepS i2c false)
    OnChip.bus (demodS.writeMultipleRegs i2c [(0x04, 0x02), (0x8e, 0x02)])
    OnChip.bus (c.demodT.writeReg i2c 0x1f 0x20)
    onRt710 rt710 do
      Rt710.setParams bus khz 28860 4
      waitRt710 bus
    OnChip.bus (demodS.setAgcS i2c true)
  | _, _ => Eff.throw (.own (.unsupported .isdbS))

def «open» : OnChip Single ω Unit := do
  OnChip.bus (power ops true)
  let result ← Eff.attempt (init ops)
  Eff.when (result.toOption.isNone = true) do
    term
    let _ ← Eff.attempt (OnChip.bus (power ops false))
  Eff.ofExcept result

def close : OnChip Single ω Unit := do
  term
  let _ ← Eff.attempt (OnChip.bus (power ops false))
  OnChip.modifySelf fun c => { c with system := none }

def tune (params : TuneParams) : OnChip Single ω Unit := do
  OnChip.modifySelf fun c => { c with system := none }
  match params.system with
  | .isdbT => tuneT ops params.frequencyKhz
  | .isdbS => do
    let khz ← Eff.ofExcept (params.ifFrequencyKhz.mapError Fault.own)
    tuneS ops khz
  | .isdbS3 => Eff.throw (.own (.unsupported .isdbS3))
  OnChip.modifySelf fun c => { c with system := some params.system }

/-- The ISDB-S demodulator, or that `system` is not supported. -/
def demodSOrErr (system : System) : OnChip Single ω Tc90522 := do
  match (← OnChip.self).demodS with
  | some demodS => return demodS
  | none => Eff.throw (.own (.unsupported system))

def lock (system : System) : OnChip Single ω Lock := do
  let i2c := ops.i2c I2C_BUS
  let locked ← match system with
    | .isdbT => do OnChip.bus ((← OnChip.self).demodT.isSignalLockedT i2c)
    | _ => do OnChip.bus ((← demodSOrErr system).isSignalLockedS i2c)
  return if locked then .locked else .waiting

def select (params : TuneParams) : OnChip Single ω Unit := do
  match params.streamId with
  | none => return ()
  | some streamId => selectTsid (← demodSOrErr .isdbS) (ops.i2c I2C_BUS) streamId.id

def setCapture (on : Bool) : OnChip Single ω Unit := do
  let c ← OnChip.self
  let i2c := ops.i2c I2C_BUS
  match c.system with
  | some .isdbT => OnChip.bus (c.demodT.enableTsPinsT i2c on)
  | some _ => do OnChip.bus ((← demodSOrErr .isdbS).enableTsPinsS i2c on)
  | none => return ()

/-- The tuner as a board. -/
def board (model : Model) : Board Unit (Single × ω) where
  tuner index := if index = 0 then some () else none
  systems _ := if model.satellite then [.isdbT, .isdbS] else [.isdbT]
  source _ := (0, 0)
  «open» _ := «open» ops
  close _ := close ops
  tune _ := tune ops
  lock _ := lock ops
  select _ := select ops
  setCapture _ := setCapture ops

end Single

end Tunelith.Px4
