import Mathlib.Data.List.FinRange
import Mathlib.Logic.Function.Basic
import Mathlib.Tactic.Simps.Basic
import Tunelith.Lib.Transition
import Tunelith.Px4.Rt710

/-!
# Boards

What the device models share: a `Board` is a device model, its bridges and the chips of its tuners,
and a `BoardDevice` opens and releases its tuners, one at a time under a lock.

The streams of a bridge are in `Hub`; here a tuner is opened, told what to do, and closed or
dropped, which releases it. Every call to the board runs to completion before the lock is free
again, so a run of the device is a sequence of them.
-/

namespace Tunelith.Px4

/-- What a bridge does for the board it is on. -/
structure Ops (ω : Type) where
  writeGpio : UInt8 → Bool → Eff Error ω Unit
  i2c : UInt8 → I2c ω

/-- `Result::and` -/
def both {ε : Type} (a b : Except ε Unit) : Except ε Unit :=
  match a with
  | .ok () => b
  | .error e => .error e

/-- Powers what is behind a bridge, or takes the power off it. It is held in reset without power,
and is at rest then. -/
def powerBackend {ω : Type} (ops : Ops ω) (reset power : UInt8) (on : Bool) : Eff Error ω Unit :=
  if on then do
    ops.writeGpio reset false
    ops.writeGpio power true
  else do
    let power ← Eff.attempt (ops.writeGpio power false)
    let reset ← Eff.attempt (ops.writeGpio reset true)
    Eff.ofExcept (both power reset)

/-- The LNB supply on GPIO 11, on while any tuner wants it. -/
abbrev Lnb (n : Nat) : Type := Fin n → Bool

def Lnb.GPIO : UInt8 := 11

def Lnb.set {ω : Type} {n : Nat} (ops : Ops ω) (index : Fin n) (on : Bool) :
    OnChip (Lnb n) ω Unit := do
  let lnb ← OnChip.self
  Eff.when (lnb index ≠ on) do
    let others := (List.finRange n).any fun i => i ≠ index && lnb i
    Eff.when (others = false) (OnChip.bus (ops.writeGpio Lnb.GPIO on))
    OnChip.modifySelf fun lnb => Function.update lnb index on

inductive Lock
  | locked
  | waiting
  /-- The demodulator gave up on the signal. -/
  | failed
deriving DecidableEq, Repr

/-- A device model with the tuners `ι`; `σ` is its state and that of all that is behind it. -/
structure Board (ι σ : Type) where
  /-- The tuner of an index, if there is one. -/
  tuner : Nat → Option ι
  systems : ι → List System
  /-- The bridge and the input the TS of a tuner comes in on. -/
  source : ι → Nat × Nat
  /-- Readies a tuner for use. -/
  «open» : ι → Eff Fault σ Unit
  /-- Puts a tuner back to rest; it cannot fail, as there is no one to tell. -/
  close : ι → Eff Fault σ Unit
  /-- Sets the tuner and the demodulator on the signal. -/
  tune : ι → TuneParams → Eff Fault σ Unit
  lock : ι → System → Eff Fault σ Lock
  /-- Picks the stream out of the transponder once it locks, if the model does it after the
  lock. -/
  select : ι → TuneParams → Eff Fault σ Unit := fun _ _ => pure ()
  setLnb : ι → Bool → Eff Fault σ Unit :=
    fun _ _ => Eff.throw (.own (.io .unsupported "unsupported"))
  /-- Lets the TS of a tuner out to the bridge, or stops it before the tuner is closed. -/
  setCapture : ι → Bool → Eff Fault σ Unit := fun _ _ => pure ()

/-- What a call to an open tuner asks of its board. -/
inductive Request
  | tune (params : TuneParams)
  | lock (system : System)
  | select (params : TuneParams)
  | setLnb (on : Bool)
  | setCapture (on : Bool)
deriving DecidableEq

namespace Board

variable {ι σ : Type} (B : Board ι σ)

def request (i : ι) : Request → Eff Fault σ Unit
  | .tune params => B.tune i params
  | .lock system => do
    let _ ← B.lock i system
  | .select params => B.select i params
  | .setLnb on => B.setLnb i on
  | .setCapture on => B.setCapture i on

/-- The state the tasks of a device share, under its lock. -/
structure State (ι σ : Type) where
  board : σ
  opened : ι → Bool

/-- An operation of the board. -/
def onBoard {α : Type} (m : Eff Fault σ α) : Eff Fault (State ι σ) α :=
  m.zoom State.board fun s t => { s with board := t }

section

variable [DecidableEq ι]

def mark (i : ι) (opened : Bool) : Eff Fault (State ι σ) Unit :=
  Eff.modify fun s => { s with opened := Function.update s.opened i opened }

/-- `BoardDevice::open_tuner`, up to making the tuner. -/
def openTuner (id : String) (index : Nat) : Eff Fault (State ι σ) ι := do
  match B.tuner index with
  | none => Eff.throw (.own (.notFound (id ++ "#" ++ toString index)))
  | some i => do
    Eff.require ((← Eff.get).opened i = false) (.own (.io .resourceBusy "resource busy"))
    onBoard (B.open i)
    mark i true
    return i

/-- `release` with the lock taken, but for the hub. -/
def release (i : ι) : Eff Fault (State ι σ) Unit := do
  let _ ← Eff.attempt (onBoard (B.setCapture i false))
  let _ ← Eff.attempt (onBoard (B.setLnb i false))
  onBoard (B.close i)
  mark i false

end

end Board

/-! ## Devices -/

abbrev TunerId := Nat

/-- Where a `BoardTuner` stands. -/
inductive Handle (ι : Type)
  | absent
  | live (i : ι)
  /-- Closed or dropped, its `release` still to run. -/
  | releasing (i : ι)
  | released (i : ι)
deriving DecidableEq

/-- The tuner a handle has open. -/
def Handle.holds {ι : Type} : Handle ι → Option ι
  | .live i | .releasing i => some i
  | .absent | .released _ => none

def Handle.isMade {ι : Type} : Handle ι → Bool
  | .absent => false
  | _ => true

def Handle.isReleased {ι : Type} : Handle ι → Bool
  | .released _ => true
  | _ => false

structure BoardDevice (ι σ : Type) where
  id : String
  state : Board.State ι σ
  tuner : TunerId → Handle ι

namespace BoardDevice

variable {ι σ : Type} [DecidableEq ι] (B : Board ι σ)

def init (id : String) (board : σ) : BoardDevice ι σ where
  id := id
  state := ⟨board, fun _ => false⟩
  tuner _ := .absent

@[simps] def setTuner (d : BoardDevice ι σ) (h : TunerId) (t : Handle ι) : BoardDevice ι σ :=
  { d with tuner := Function.update d.tuner h t }

/-- The end of `open_tuner`: on success, the tuner is made. -/
def opened (d : BoardDevice ι σ) (h : TunerId) : Except Fault ι → BoardDevice ι σ
  | .ok i => d.setTuner h (.live i)
  | .error _ => d

inductive Act (ι : Type)
  | openTuner (index : Nat) (h : TunerId) (r : Except Fault ι)
  | request (h : TunerId) (q : Request) (r : Except Fault Unit)
  | close (h : TunerId)
  | drop (h : TunerId)
  | release (h : TunerId) (i : ι) (r : Except Fault Unit)

/-- `Step B d a d'`: one task does `a`. -/
inductive Step : BoardDevice ι σ → Act ι → BoardDevice ι σ → Prop
  | openTuner {d : BoardDevice ι σ} {index : Nat} {h : TunerId} {r : Except Fault ι}
      {s : Board.State ι σ} (hh : d.tuner h = .absent)
      (hr : B.openTuner d.id index d.state = (r, s)) :
      Step d (.openTuner index h r) ({ d with state := s }.opened h r)
  | request {d : BoardDevice ι σ} {h : TunerId} {i : ι} {q : Request} {r : Except Fault Unit}
      {s : Board.State ι σ} (hh : d.tuner h = .live i)
      (hr : Board.onBoard (B.request i q) d.state = (r, s)) :
      Step d (.request h q r) { d with state := s }
  | close {d : BoardDevice ι σ} {h : TunerId} {i : ι} (hh : d.tuner h = .live i) :
      Step d (.close h) (d.setTuner h (.releasing i))
  | drop {d : BoardDevice ι σ} {h : TunerId} {i : ι} (hh : d.tuner h = .live i) :
      Step d (.drop h) (d.setTuner h (.releasing i))
  | release {d : BoardDevice ι σ} {h : TunerId} {i : ι} {r : Except Fault Unit}
      {s : Board.State ι σ} (hh : d.tuner h = .releasing i)
      (hr : B.release i d.state = (r, s)) :
      Step d (.release h i r) ({ d with state := s }.setTuner h (.released i))

end BoardDevice

end Tunelith.Px4
