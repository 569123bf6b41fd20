import Mathlib.Logic.Basic

/-!
# What to tune to, and what can go wrong

The types of `tunelith-core` the rest is about: `TuneParams` with its checks, and `Error`.

`io::Error` is its kind and its text. Of the kinds, only the ones the code makes or asks for
have a name of their own.
-/

namespace Tunelith

/-- A broadcasting system. -/
inductive System
  | isdbT
  | isdbS
  | isdbS3
deriving DecidableEq, Repr

namespace System

/-- Whether the system is received through a satellite dish and an LNB. -/
def isSatellite : System → Bool
  | isdbT => false
  | _ => true

/-- `{:?}` of the system. -/
def debug : System → String
  | isdbT => "IsdbT"
  | isdbS => "IsdbS"
  | isdbS3 => "IsdbS3"

end System

/-- The polarization of a satellite signal; right is the default. -/
inductive Polarization
  | right
  | left
deriving DecidableEq, Repr

/-- The stream to take out of a satellite transponder. -/
structure StreamId where
  id : UInt16
deriving DecidableEq, Repr

inductive StreamFormat
  | ts
  | tlv
deriving DecidableEq, Repr

/-! ## Errors -/

inductive IoKind
  | resourceBusy
  | brokenPipe
  | invalidData
  | unexpectedEof
  | timedOut
  | unsupported
  | other
deriving DecidableEq, Repr

inductive Error
  | io (kind : IoKind) (message : String)
  | invalidParams (message : String)
  | unsupported (system : System)
  | noLock
  | notFound (what : String)
deriving DecidableEq, Repr

namespace Error

/-- Whether the tuner, or every tuner that could serve, is in use. -/
def isBusy : Error → Bool
  | io .resourceBusy _ => true
  | _ => false

/-- The text of the error. -/
def toString : Error → String
  | io _ message => message
  | invalidParams message => "invalid tuning parameters: " ++ message
  | unsupported system => "the tuner cannot receive " ++ system.debug
  | noLock => "the tuner could not lock on the signal"
  | notFound what => "no such device or tuner: " ++ what

end Error

/-! ## Tuning parameters -/

/-- The local oscillator of the LNB, for each polarization. -/
def LO_RIGHT_KHZ : UInt32 := 10678000
def LO_LEFT_KHZ : UInt32 := 9505000

structure TuneParams where
  system : System
  frequencyKhz : UInt32
  streamId : Option StreamId
  polarization : Option Polarization
deriving DecidableEq, Repr

namespace TuneParams

/-- Checks that a satellite system has a stream id and ISDB-T has none. -/
def validate (p : TuneParams) : Except Error Unit :=
  match p.system.isSatellite, p.streamId with
  | true, none => .error (.invalidParams "a satellite stream needs a stream id")
  | false, some _ => .error (.invalidParams "ISDB-T takes no stream id")
  | _, _ => .ok ()

/-- The same, with the polarization that goes without saying said. -/
def normalized (p : TuneParams) : TuneParams :=
  { p with
    polarization := if p.system.isSatellite then some (p.polarization.getD .right) else none }

/-- The intermediate frequency the LNB hands the tuner, in kHz. -/
def ifFrequencyKhz (p : TuneParams) : Except Error UInt32 :=
  let lo : UInt32 := match p.polarization.getD .right with
    | .right => LO_RIGHT_KHZ
    | .left => LO_LEFT_KHZ
  if p.frequencyKhz < lo then .error (.invalidParams "the frequency is below the LNB's")
  else .ok (p.frequencyKhz - lo)

theorem ifFrequencyKhz_error {p : TuneParams} {e : Error} (h : p.ifFrequencyKhz = .error e) :
    e = .invalidParams "the frequency is below the LNB's" := by
  unfold ifFrequencyKhz at h
  extract_lets lo at h
  by_cases hlt : p.frequencyKhz < lo
  · rw [if_pos hlt] at h
    exact (Except.error.inj h).symm
  · rw [if_neg hlt] at h
    cases h

/-- The format a tuner gives out for this system. -/
def streamFormat (p : TuneParams) : StreamFormat :=
  match p.system with
  | .isdbS3 => .tlv
  | _ => .ts

@[simp] theorem system_normalized (p : TuneParams) : p.normalized.system = p.system := rfl

@[simp] theorem normalized_normalized (p : TuneParams) :
    p.normalized.normalized = p.normalized := by
  cases hs : p.system.isSatellite <;> simp [normalized, hs]

/-- Normalising changes neither what passes the check nor what the check says. -/
@[simp] theorem validate_normalized (p : TuneParams) : p.normalized.validate = p.validate := rfl

end TuneParams

/-- A tuner of a device. -/
structure TunerInfo where
  id : String
  systems : List System
deriving DecidableEq, Repr

end Tunelith
