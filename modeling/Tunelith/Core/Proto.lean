import Tunelith.Core.Types

/-!
# The messages of the protocol

`tunelith.proto` and the conversions of `proto.rs`: what the daemon and its clients say to each
other, and how tuning parameters and errors go over the wire.

A field of an enumeration may hold a number the enumeration has no name for; `EnumOrUnknown`
keeps the two apart, as `enum_value` does.
-/

namespace Tunelith.Proto

/-- The value of an enumeration, or a number it has no name for. -/
inductive EnumOrUnknown (ε : Type)
  | known (value : ε)
  | unknown (number : Int)
deriving DecidableEq, Repr

inductive SystemCode
  | unspecified
  | isdbT
  | isdbS
  | isdbS3
deriving DecidableEq, Repr

inductive PolarizationCode
  | unspecified
  | right
  | left
deriving DecidableEq, Repr

inductive StreamFormatCode
  | unspecified
  | ts
  | tlv
deriving DecidableEq, Repr

inductive ErrorCode
  | unspecified
  | busy
  | unsupported
  | notFound
  | noLock
deriving DecidableEq, Repr

/-- The `TuneParams` message. -/
structure TuneParamsMsg where
  system : EnumOrUnknown SystemCode := .known .unspecified
  frequencyKhz : UInt32 := 0
  streamId : Option UInt32 := none
  polarization : EnumOrUnknown PolarizationCode := .known .unspecified
deriving DecidableEq, Repr

/-- The `Error` message. -/
structure ErrorMsg where
  message : String := ""
  code : EnumOrUnknown ErrorCode := .known .unspecified
  system : EnumOrUnknown SystemCode := .known .unspecified
deriving DecidableEq, Repr

structure TunerMsg where
  id : String
  systems : List (EnumOrUnknown SystemCode)
  busy : Bool
deriving DecidableEq, Repr

structure DeviceMsg where
  id : String
  name : String
  tuners : List TunerMsg
deriving DecidableEq, Repr

structure AcquireRequest where
  params : Option TuneParamsMsg
  tuner : String
  lnb : Bool
deriving DecidableEq, Repr

structure AcquireResponse where
  streamToken : Nat
  tuner : String
  format : EnumOrUnknown StreamFormatCode
deriving DecidableEq, Repr

/-- The signal of a tuner, `cnrDb` as the bits of its `f64`. -/
structure SignalResponse where
  locked : Bool
  cnrDb : Option UInt64
deriving DecidableEq, Repr

inductive Body
  | error (e : ErrorMsg)
  | listRequest
  | listResponse (devices : List DeviceMsg)
  | acquireRequest (request : AcquireRequest)
  | acquireResponse (response : AcquireResponse)
  | releaseRequest (streamToken : Nat)
  | releaseResponse
  | signalRequest (streamToken : Nat)
  | signalResponse (response : SignalResponse)
  | dropEvent (streamToken : Nat) (droppedBytes : Nat)
  | streamEndEvent (streamToken : Nat) (error : String)
deriving DecidableEq, Repr

/-- `id` is set by the client on a request and echoed on its response; 0 on events. -/
structure Envelope where
  id : Nat
  body : Option Body
deriving DecidableEq, Repr

/-- An envelope of `id` around `body`. -/
def envelope (id : Nat) (body : Body) : Envelope := ⟨id, some body⟩

/-- The token of the stream an envelope hands out, if it answers an acquire. -/
def grant (e : Envelope) : Option Nat :=
  match e.body with
  | some (.acquireResponse response) => some response.streamToken
  | _ => none

/-! ## Conversions -/

def ofSystem : System → EnumOrUnknown SystemCode
  | .isdbT => .known .isdbT
  | .isdbS => .known .isdbS
  | .isdbS3 => .known .isdbS3

/-- The system `code` stands for, if any. -/
def system : EnumOrUnknown SystemCode → Option System
  | .known .isdbT => some .isdbT
  | .known .isdbS => some .isdbS
  | .known .isdbS3 => some .isdbS3
  | _ => none

def ofStreamFormat : StreamFormat → EnumOrUnknown StreamFormatCode
  | .ts => .known .ts
  | .tlv => .known .tlv

def streamFormat : EnumOrUnknown StreamFormatCode → Option StreamFormat
  | .known .ts => some .ts
  | .known .tlv => some .tlv
  | _ => none

@[simp] theorem system_ofSystem (s : System) : system (ofSystem s) = some s := by
  cases s <;> rfl

@[simp] theorem streamFormat_ofStreamFormat (f : StreamFormat) :
    streamFormat (ofStreamFormat f) = some f := by
  cases f <;> rfl

/-- `TuneParams::try_from` a message. -/
def tryTuneParams (m : TuneParamsMsg) : Except Error TuneParams := do
  let streamId ← match m.streamId with
    | none => pure none
    | some id =>
      if id.toNat < UInt16.size then pure (some ⟨id.toUInt16⟩)
      else throw (.invalidParams "the stream id is out of range")
  let system ← match system m.system with
    | some s => pure s
    | none => throw (.invalidParams "unknown system")
  let polarization ← match m.polarization with
    | .known .right => pure (some .right)
    | .known .left => pure (some .left)
    | .known .unspecified => pure none
    | .unknown _ => throw (.invalidParams "unknown polarization")
  return ⟨system, m.frequencyKhz, streamId, polarization⟩

/-- The message `p` goes over the wire as. -/
def ofTuneParams (p : TuneParams) : TuneParamsMsg where
  system := ofSystem p.system
  frequencyKhz := p.frequencyKhz
  streamId := p.streamId.map (·.id.toUInt32)
  polarization := .known (match p.polarization with
    | none => .unspecified
    | some .right => .right
    | some .left => .left)

/-- Tuning parameters are read back as they were sent. -/
theorem tryTuneParams_ofTuneParams (p : TuneParams) : tryTuneParams (ofTuneParams p) = .ok p := by
  obtain ⟨system, frequency, streamId, polarization⟩ := p
  have hid : ∀ id : UInt16, id.toUInt32.toNat < UInt16.size ∧ id.toUInt32.toUInt16 = id :=
    fun id => ⟨id.toNat_lt, id.toUInt16_toUInt32⟩
  cases streamId with
  | none =>
    simp only [tryTuneParams, ofTuneParams, Option.map_none, system_ofSystem]
    cases polarization with
    | none => rfl
    | some side => cases side <;> rfl
  | some id =>
    simp only [tryTuneParams, ofTuneParams, Option.map_some, system_ofSystem, (hid id.id).1,
      if_true, (hid id.id).2]
    cases polarization with
    | none => rfl
    | some side => cases side <;> rfl

/-- What the parameters do not have a name or the room for is refused. -/
theorem tryTuneParams_refuses {m : TuneParamsMsg}
    (h : system m.system = none ∨ (∃ n, m.polarization = .unknown n) ∨
      ∃ id, m.streamId = some id ∧ 65535 < id.toNat) :
    ∃ why, tryTuneParams m = .error (.invalidParams why) := by
  obtain ⟨code, frequency, streamId, polarization⟩ := m
  dsimp only at h
  have hsize : UInt16.size = 65536 := rfl
  -- The stream id is checked first, then the system, and the polarization last.
  cases streamId with
  | none =>
    have h' := h.imp_right (Or.resolve_right · fun ⟨_, hid, _⟩ => by cases hid)
    cases hsys : system code with
    | none => exact ⟨_, by simp only [tryTuneParams, hsys]; rfl⟩
    | some s =>
      rw [hsys] at h'
      obtain ⟨n, rfl⟩ := h'.resolve_left (Option.some_ne_none s)
      exact ⟨_, by simp only [tryTuneParams, hsys]; rfl⟩
  | some id =>
    by_cases hlt : id.toNat < UInt16.size
    · have h' := h.imp_right (Or.resolve_right · fun ⟨id', hid, hlt'⟩ => by
        cases hid
        omega)
      cases hsys : system code with
      | none => exact ⟨_, by simp only [tryTuneParams, hsys, if_pos hlt]; rfl⟩
      | some s =>
        rw [hsys] at h'
        obtain ⟨n, rfl⟩ := h'.resolve_left (Option.some_ne_none s)
        exact ⟨_, by simp only [tryTuneParams, hsys, if_pos hlt]; rfl⟩
    · exact ⟨_, by simp only [tryTuneParams, if_neg hlt]; rfl⟩

/-- The message an error goes over the wire as. -/
def ofError (e : Error) : ErrorMsg :=
  let (code, system) : ErrorCode × Option System :=
    if e.isBusy then (.busy, none)
    else match e with
      | .unsupported system => (.unsupported, some system)
      | .notFound _ => (.notFound, none)
      | .noLock => (.noLock, none)
      | _ => (.unspecified, none)
  { message := match e with
      | .notFound what => what
      | e => e.toString
    code := .known code
    system := (system.map ofSystem).getD (.known .unspecified) }

/-- The error a message stands for. -/
def toError (e : ErrorMsg) : Error :=
  match e.code, system e.system with
  | .known .busy, _ => .io .resourceBusy e.message
  | .known .unsupported, some system => .unsupported system
  | .known .notFound, _ => .notFound e.message
  | .known .noLock, _ => .noLock
  | _, _ => .io .other e.message

end Tunelith.Proto
