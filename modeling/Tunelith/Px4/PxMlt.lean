import Tunelith.Px4.Board
import Tunelith.Px4.Cxd2858er

/-!
# The PX-MLT series

An IT930x with up to five CXD2856ER and CXD2858ER pairs, every tuner receiving both ISDB-T and
ISDB-S. The pairs are powered together, while any tuner is open.
-/

set_option linter.dupNamespace false

namespace Tunelith.Px4

namespace PxMlt

/-- The address, I2C bus and TS port of the demodulator of each tuner. -/
abbrev Layout (n : Nat) : Type := Fin n → UInt8 × UInt8 × UInt8

def GPIO_BACKEND_RESET : UInt8 := 7
def GPIO_BACKEND_POWER : UInt8 := 2

/-- What is set on the demodulator of a tuner that is opened: register, value, mask. -/
def DEMOD_SETUP : List (UInt8 × UInt8 × UInt8) :=
  [(0x00, 0x00, 0xff), (0xc4, 0x80, 0x88), (0xc5, 0x01, 0x01), (0xc6, 0x03, 0x1f),
    (0x00, 0x60, 0xff), (0x52, 0x03, 0x1f), (0x00, 0x00, 0xff), (0xc8, 0x03, 0x1f),
    (0xc9, 0x03, 0x1f), (0x00, 0xa0, 0xff), (0xb9, 0x01, 0x01)]

structure Chip where
  demod : Cxd2856er
  tuner : Cxd2858er
  i2cBus : UInt8

end PxMlt

structure PxMlt (n : Nat) where
  chips : Fin n → PxMlt.Chip
  openCount : Nat
  lnb : Lnb n

namespace PxMlt

def new {n : Nat} (layout : Layout n) : PxMlt n where
  chips i := { demod := .new (layout i).1, tuner := {}, i2cBus := (layout i).2.1 }
  openCount := 0
  lnb _ := false

/-- `mode(system)` -/
def modeOf : System → Except Error Mode
  | .isdbT => .ok .t
  | .isdbS => .ok .s
  | .isdbS3 => .error (.unsupported .isdbS3)

/-- The frequency the tuner is to be set to, in kHz. -/
def khzOf (params : TuneParams) : Mode → Except Error UInt32
  | .t => .ok params.frequencyKhz
  | .s => params.ifFrequencyKhz

variable {n : Nat} {ω α : Type} (ops : Ops ω)

def onDemod (index : Fin n) (m : OnChip Cxd2856er ω α) : OnChip (PxMlt n) ω α :=
  OnChip.part (fun c => (c.chips index).demod) (fun c demod =>
    { c with chips := Function.update c.chips index { c.chips index with demod := demod } }) m

def onTuner (index : Fin n) (m : OnChip Cxd2858er ω α) : OnChip (PxMlt n) ω α :=
  OnChip.part (fun c => (c.chips index).tuner) (fun c tuner =>
    { c with chips := Function.update c.chips index { c.chips index with tuner := tuner } }) m

def power (on : Bool) : Eff Error ω Unit :=
  powerBackend ops GPIO_BACKEND_RESET GPIO_BACKEND_POWER on

def initChip (index : Fin n) : OnChip (PxMlt n) ω Unit := do
  let chip := (← OnChip.self).chips index
  let i2c := ops.i2c chip.i2cBus
  onDemod index (Cxd2856er.init i2c)
  onTuner index (Cxd2858er.init i2c chip.demod)
  OnChip.bus (chip.demod.setup i2c DEMOD_SETUP)

def «open» (index : Fin n) : OnChip (PxMlt n) ω Unit := do
  Eff.when ((← OnChip.self).openCount = 0) (OnChip.bus (power ops true))
  let result ← Eff.attempt (initChip ops index)
  Eff.when (result.toOption.isNone = true ∧ (← OnChip.self).openCount = 0) do
    let _ ← Eff.attempt (OnChip.bus (power ops false))
  Eff.ofExcept result
  OnChip.modifySelf fun c => { c with openCount := c.openCount + 1 }

def close (index : Fin n) : OnChip (PxMlt n) ω Unit := do
  let chip := (← OnChip.self).chips index
  let i2c := ops.i2c chip.i2cBus
  let _ ← Eff.attempt (onTuner index (Cxd2858er.term i2c chip.demod))
  let _ ← Eff.attempt (onDemod index (Cxd2856er.sleep i2c))
  Eff.require (0 < (← OnChip.self).openCount) .overflow
  OnChip.modifySelf fun c => { c with openCount := c.openCount - 1 }
  Eff.when ((← OnChip.self).openCount = 0) do
    let _ ← Eff.attempt (OnChip.bus (power ops false))

def tune (index : Fin n) (params : TuneParams) : OnChip (PxMlt n) ω Unit := do
  let mode ← Eff.ofExcept ((modeOf params.system).mapError Fault.own)
  let khz ← Eff.ofExcept ((khzOf params mode).mapError Fault.own)
  let chip := (← OnChip.self).chips index
  let i2c := ops.i2c chip.i2cBus
  -- The demodulator takes the TSID before the tuning.
  Eff.forEach params.streamId.toList fun streamId =>
    OnChip.bus (chip.demod.setTsid i2c streamId.id)
  onDemod index (Cxd2856er.wakeup i2c mode)
  onTuner index (match mode with
    | .t => Cxd2858er.tuneT i2c chip.demod khz
    | .s => Cxd2858er.tuneS i2c chip.demod khz)
  OnChip.bus (chip.demod.postTune i2c)

def lock (index : Fin n) : OnChip (PxMlt n) ω Lock := do
  let chip := (← OnChip.self).chips index
  match ← OnChip.bus (chip.demod.lockStatus (ops.i2c chip.i2cBus)) with
  | (true, _) => return .locked
  | (false, true) => return .failed
  | (false, false) => return .waiting

def setLnb (index : Fin n) (on : Bool) : OnChip (PxMlt n) ω Unit :=
  OnChip.part PxMlt.lnb (fun c lnb => { c with lnb := lnb }) (Lnb.set ops index on)

/-- The tuners as a board. -/
def board : Board (Fin n) (PxMlt n × ω) where
  tuner index := if h : index < n then some ⟨index, h⟩ else none
  systems _ := [.isdbT, .isdbS]
  source i := (0, i)
  «open» := «open» ops
  close := close ops
  tune := tune ops
  lock i _ := lock ops i
  setLnb := setLnb ops

end PxMlt

end Tunelith.Px4
