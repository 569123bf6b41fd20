import Tunelith.Core.Types
import Tunelith.Lib.Eff

/-!
# A tuner of the Linux DVB API

`DvbTuner` sends a tuning to the frontend as a list of properties, waits for the lock, and gives
out what it reads from the dvr. What the kernel does is behind a `Frontend`.
-/

namespace Tunelith.Dvb

/-! ## What is sent to the kernel -/

structure DtvProperty where
  cmd : UInt32
  value : UInt32
deriving DecidableEq, Repr

def DTV_TUNE : UInt32 := 1
def DTV_CLEAR : UInt32 := 2
def DTV_FREQUENCY : UInt32 := 3
def DTV_BANDWIDTH_HZ : UInt32 := 5
def DTV_DELIVERY_SYSTEM : UInt32 := 17
def DTV_GUARD_INTERVAL : UInt32 := 38
def DTV_TRANSMISSION_MODE : UInt32 := 39
def DTV_ISDBT_LAYER_ENABLED : UInt32 := 41
def DTV_STREAM_ID : UInt32 := 42

def SYS_ISDBT : UInt32 := 8
def SYS_ISDBS : UInt32 := 9
def TRANSMISSION_MODE_AUTO : UInt32 := 2
def GUARD_INTERVAL_AUTO : UInt32 := 4

def FE_HAS_LOCK : UInt32 := 0x10

/-- What sets a device model apart: the value of `DTV_STREAM_ID`, and how many times at most the
lock is asked for before its deadline. -/
structure Quirks where
  streamId : System → StreamId → UInt32 := fun _ id => id.id.toUInt32
  lockPolls : Nat := 50

structure DvbTuner where
  systems : List System
  quirks : Quirks
  /-- The format of the system last tuned to. -/
  format : Option StreamFormat := none

/-- Hz for ISDB-T, where the product wraps as in a release build, and kHz for a satellite. -/
def properties (quirks : Quirks) (params : TuneParams) : Except Error (List DtvProperty) :=
  match params.streamId with
  | none => .ok [⟨DTV_CLEAR, 0⟩, ⟨DTV_DELIVERY_SYSTEM, SYS_ISDBT⟩,
      ⟨DTV_FREQUENCY, params.frequencyKhz * 1000⟩, ⟨DTV_BANDWIDTH_HZ, 6000000⟩,
      ⟨DTV_TRANSMISSION_MODE, TRANSMISSION_MODE_AUTO⟩, ⟨DTV_GUARD_INTERVAL, GUARD_INTERVAL_AUTO⟩,
      ⟨DTV_ISDBT_LAYER_ENABLED, 7⟩, ⟨DTV_TUNE, 0⟩]
  | some streamId => do
    let freq ← params.ifFrequencyKhz
    return [⟨DTV_CLEAR, 0⟩, ⟨DTV_DELIVERY_SYSTEM, SYS_ISDBS⟩, ⟨DTV_FREQUENCY, freq⟩,
      ⟨DTV_STREAM_ID, quirks.streamId params.system streamId⟩, ⟨DTV_TUNE, 0⟩]

/-! ## The tuner -/

/-- What the files of a tuner do. -/
structure Frontend (ω : Type) where
  setProperties : List DtvProperty → Eff Error ω Unit
  readStatus : Eff Error ω UInt32
  /-- Opens the dvr, sizes its buffer and lets all PIDs through to it. -/
  tapDvr : Eff Error ω Unit

namespace DvbTuner

variable {ω : Type} (fe : Frontend ω)

/-- Asks for the lock until it is there, or for so many times more at most. -/
def waitLock : Nat → Eff Error ω Unit
  | 0 => do
    let status ← fe.readStatus
    if status &&& FE_HAS_LOCK ≠ 0 then return () else Eff.throw .noLock
  | polls + 1 => do
    let status ← fe.readStatus
    if status &&& FE_HAS_LOCK ≠ 0 then return () else waitLock polls

/-- An operation on what is behind the files. -/
def onFrontend {α : Type} (m : Eff Error ω α) : Eff Error (DvbTuner × ω) α :=
  m.zoom Prod.snd fun s w => (s.1, w)

def tune (params : TuneParams) : Eff Error (DvbTuner × ω) Unit := do
  Eff.ofExcept params.validate
  let (tuner, _) ← Eff.get
  Eff.require (params.system ∈ tuner.systems) (.unsupported params.system)
  let props ← Eff.ofExcept (properties tuner.quirks params)
  onFrontend do
    fe.setProperties props
    waitLock fe tuner.quirks.lockPolls
  Eff.modify fun s => ({ s.1 with format := some params.streamFormat }, s.2)

def stream : Eff Error (DvbTuner × ω) StreamFormat := do
  let (tuner, _) ← Eff.get
  match tuner.format with
  | none => Eff.throw (.invalidParams "the tuner has not been tuned")
  | some format => do
    onFrontend fe.tapDvr
    return format

end DvbTuner

end Tunelith.Dvb
