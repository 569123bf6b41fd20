import Tunelith.Core.Types
import Tunelith.Lib.Eff

/-!
# A tuner of BDA

`BdaTuner` sends a tuning to the filters of its graph, waits for the lock, and hands the frames that
come off the graph on to a stream. What the filters do is behind a `Graph`.
-/

namespace Tunelith.Bda

def ISDB_S_SYMBOL_RATE : UInt32 := 28860
def ISDB_S3_SYMBOL_RATE : UInt32 := 33756
def MODULATION_ISDB_S_TMCC : UInt32 := 35
def INNER_FEC_RATE_2_3 : UInt32 := 2
def SPECTRAL_INVERSION_AUTOMATIC : UInt32 := 1
def POLARISATION_CIRCULAR_L : UInt32 := 3
def POLARISATION_CIRCULAR_R : UInt32 := 4
def LNB_SWITCH_KHZ : UInt32 := 20000000

/-- The properties of the tuner node that a tuning sets. -/
inductive TunerProperty
  | frequencyMultiplier
  | frequency
  | polarity
  | lofLowBand
  | lofHighBand
  | switchFrequency
  | bandwidth
deriving DecidableEq, Repr

/-- Those of the demodulator node. -/
inductive DemodulatorProperty
  | modulationType
  | innerFecRate
  | symbolRate
  | spectralInversion
deriving DecidableEq, Repr

inductive Change
  | start
  | check
  | commit
deriving DecidableEq, Repr

/-- Where the frames of a running graph go. -/
structure SinkState where
  /-- Whether there is a stream taking the frames. -/
  streaming : Bool := false
  /-- The bytes still to be left out as received before the last tune. -/
  stale : Nat := 0
  /-- Why the reads ended, if not on purpose, for the stream to tell. -/
  failure : Option Error := none
  /-- Whether the reads have ended, leaving nothing for a stream to take. -/
  ended : Bool := false
deriving DecidableEq, Repr

/-- What the filters of a graph do, with the quirks of the device model: which bytes are stale, and
how many times at most the lock is asked for before its deadline. -/
structure Graph (ω : Type) where
  staleBytes : Nat := 0
  lockPolls : Nat := 50
  selectStream : System → StreamId → Eff Error ω Unit
  change : Change → Eff Error ω Unit
  setTuner : TunerProperty → UInt32 → Eff Error ω Unit
  setDemodulator : DemodulatorProperty → UInt32 → Eff Error ω Unit
  /-- `KSPROPERTY_BDA_SIGNAL_LOCKED` -/
  signalLocked : Eff Error ω UInt32

structure BdaTuner where
  systems : List System
  /-- The system last tuned to. -/
  system : Option System := none

/-- The sink of a graph, and what is behind its filters. -/
abbrev Running (ω : Type) : Type := SinkState × ω

namespace Graph

variable {ω : Type} (graph : Graph ω)

/-- Sends the tuning down to the tuner, not waiting for it to lock. What is set between the start
and the commit goes down together. -/
def tune (params : TuneParams) : Eff Error (Running ω) Unit := do
  Eff.modify fun s => ({ s.1 with stale := graph.staleBytes }, s.2)
  Eff.zoom Prod.snd (fun s w => (s.1, w)) do
    match params.streamId with
    | some id => graph.selectStream params.system id
    | none => pure ()
    graph.change .start
    graph.setTuner .frequencyMultiplier 1000
    graph.setTuner .frequency params.frequencyKhz
    if params.system.isSatellite then
      graph.setTuner .polarity (match params.polarization.getD .right with
        | .right => POLARISATION_CIRCULAR_R
        | .left => POLARISATION_CIRCULAR_L)
      let lo := params.frequencyKhz - (← Eff.ofExcept params.ifFrequencyKhz)
      graph.setTuner .lofLowBand lo
      graph.setTuner .lofHighBand lo
      graph.setTuner .switchFrequency LNB_SWITCH_KHZ
      graph.setDemodulator .modulationType MODULATION_ISDB_S_TMCC
      graph.setDemodulator .innerFecRate INNER_FEC_RATE_2_3
      graph.setDemodulator .symbolRate (match params.system with
        | .isdbS3 => ISDB_S3_SYMBOL_RATE
        | _ => ISDB_S_SYMBOL_RATE)
      graph.setDemodulator .spectralInversion SPECTRAL_INVERSION_AUTOMATIC
    else
      graph.setTuner .bandwidth 6
    graph.change .check
    graph.change .commit

def locked : Eff Error (Running ω) Bool :=
  Eff.zoom Prod.snd (fun s w => (s.1, w)) do
    return (← graph.signalLocked) != 0

/-- Asks for the lock until it is there, or for so many times more at most. -/
def waitLock : Nat → Eff Error (Running ω) Unit
  | 0 => do
    if ← graph.locked then return () else Eff.throw .noLock
  | polls + 1 => do
    if ← graph.locked then return () else waitLock polls

/-- Points the sink at a new stream, unless the reads have ended, which it would not hear of. -/
def takeFrames : Eff Error (Running ω) Unit := do
  let (sink, _) ← Eff.get
  match sink.failure with
  | some e => do
    Eff.modify fun s => ({ s.1 with failure := none }, s.2)
    Eff.throw e
  | none => do
    Eff.require (sink.ended = false) (.io .other "the capture has stopped")
    Eff.modify fun s => ({ s.1 with streaming := true }, s.2)

end Graph

namespace BdaTuner

variable {ω : Type} (graph : Graph ω)

def onGraph {α : Type} (m : Eff Error (Running ω) α) : Eff Error (BdaTuner × Running ω) α :=
  m.zoom Prod.snd fun s w => (s.1, w)

def setSystem (system : Option System) : Eff Error (BdaTuner × Running ω) Unit :=
  Eff.modify fun s => ({ s.1 with system := system }, s.2)

def tune (params : TuneParams) : Eff Error (BdaTuner × Running ω) Unit := do
  Eff.ofExcept params.validate
  let (tuner, _) ← Eff.get
  Eff.require (params.system ∈ tuner.systems) (.unsupported params.system)
  setSystem none
  onGraph do
    graph.tune params
    graph.waitLock graph.lockPolls
  setSystem (some params.system)

def stream : Eff Error (BdaTuner × Running ω) StreamFormat := do
  let (tuner, _) ← Eff.get
  match tuner.system with
  | none => Eff.throw (.invalidParams "the tuner has not been tuned")
  | some system => do
    onGraph Graph.takeFrames
    return match system with
      | .isdbS3 => .tlv
      | _ => .ts

end BdaTuner

end Tunelith.Bda
