import Tunelith.Px4.Px4
import Tunelith.Px4.PxMlt
import Tunelith.Px4.Single

/-!
# The tuner of a board

`BoardTuner` tunes through its `Board` and takes its stream from the hub of the bridge. The lock on
the board is free between the two and between polls, so what other tasks do there meanwhile counts
as done by the next operation: nothing is assumed of what these do.
-/

namespace Tunelith.Px4

/-- A device model for 2K broadcasts: whatever it gives out is a TS. -/
structure TsBoard (ι σ : Type) extends Board ι σ where
  systems_ts : ∀ i, System.isdbS3 ∉ systems i

namespace TsBoard

variable {ω : Type}

def px4 {m : Nat} (ops : Fin m → Ops ω) : TsBoard (Fin m × Fin 4) (Px4 m × ω) where
  toBoard := Px4.board ops
  systems_ts i := by
    show _ ∉ if i.2.val < 2 then _ else _
    split <;> decide

def pxMlt {n : Nat} (ops : Ops ω) : TsBoard (Fin n) (PxMlt n × ω) where
  toBoard := PxMlt.board ops
  systems_ts _ := by
    show _ ∉ [System.isdbT, .isdbS]
    decide

def single (ops : Ops ω) (model : Single.Model) : TsBoard Unit (Single × ω) where
  toBoard := Single.board ops model
  systems_ts _ := by
    show _ ∉ if model.satellite then _ else _
    split <;> decide

end TsBoard

/-- What the bridge of a tuner and its hub do for a stream. -/
structure Source (ι σ : Type) where
  /-- `Hub::attach`: whether the stream is the first one, which starts the reception. -/
  attach : ι → Eff Fault σ Bool
  purgePsb : ι → Eff Fault σ Unit
  /-- Hands the queue of the endpoint to the hub. -/
  start : ι → Eff Fault σ Unit
  abort : ι → Eff Fault σ Unit
  detach : ι → Eff Fault σ Unit

structure BoardTuner where
  systems : List System
  systems_ts : System.isdbS3 ∉ systems
  /-- The system last tuned to. -/
  system : Option System := none

namespace BoardTuner

variable {ι σ : Type} (B : TsBoard ι σ) (source : Source ι σ) (index : ι)

/-- The tuner as `open_tuner` makes it. -/
def opened : BoardTuner where
  systems := B.systems index
  systems_ts := B.systems_ts index

def LOCK_POLLS : Nat := 300

/-- An operation on what the tuners of the device share. -/
def onShared {α : Type} (m : Eff Fault σ α) : Eff Fault (BoardTuner × σ) α :=
  m.zoom Prod.snd fun s w => (s.1, w)

def setSystem (system : Option System) : Eff Fault (BoardTuner × σ) Unit :=
  Eff.modify fun s => ({ s.1 with system := system }, s.2)

/-- Whether the tuner locks within so many polls; one that fails counts as no lock yet. -/
def pollLock (system : System) : Nat → Eff Fault σ Bool
  | 0 => return false
  | polls + 1 => do
    match ← Eff.attempt (B.lock index system) with
    | .ok .locked => return true
    | .ok .failed => return false
    | .ok .waiting | .error _ => pollLock system polls

def tune (params : TuneParams) : Eff Fault (BoardTuner × σ) Unit := do
  (Eff.ofExcept params.validate).mapError Fault.own
  let (tuner, _) ← Eff.get
  Eff.require (params.system ∈ tuner.systems) (.own (.unsupported params.system))
  setSystem none
  onShared (B.tune index params)
  let locked ← onShared (pollLock B index params.system LOCK_POLLS)
  Eff.require (locked = true) (.own .noLock)
  onShared (B.select index params)
  setSystem (some params.system)

def stream : Eff Fault (BoardTuner × σ) StreamFormat := do
  let (tuner, _) ← Eff.get
  match tuner.system with
  | none => Eff.throw (.own (.invalidParams "the tuner has not been tuned"))
  | some _ => do
    let start ← onShared (source.attach index)
    let result ← Eff.attempt (do
      Eff.when (start = true) (onShared (source.purgePsb index))
      onShared (B.setCapture index true)
      Eff.when (start = true) (onShared (source.start index)))
    match result with
    | .ok () => return .ts
    | .error e => do
      if start then onShared (source.abort index) else onShared (source.detach index)
      Eff.throw e

end BoardTuner

end Tunelith.Px4
