import Tunelith.Core.Types
import Tunelith.Lib.BigEndian
import Tunelith.Lib.Eff

/-!
# I2C, and the TC90522

An I2C bus is what it does to the state `ω` of whatever is behind it. The TC90522 demodulator is
on one, and relays another to the tuner behind it.

Pauses are left out: nothing here depends on time.
-/

namespace Tunelith

/-- An I2C bus: `write` and `writeRead`, the latter reading so many bytes back. -/
structure I2c (ω : Type) where
  write : UInt8 → List UInt8 → Eff Error ω Unit
  writeRead : UInt8 → List UInt8 → (n : Nat) → Eff Error ω (Vector UInt8 n)

namespace Px4

def error (message : String) : Error := .io .other message

/-- The byte read. -/
def byte (b : Vector UInt8 1) : UInt8 := b[0]

/-! The sizes of what is numbered. -/

instance neZero_two : NeZero (2 : Nat) := ⟨by decide⟩

instance neZero_four : NeZero (4 : Nat) := ⟨by decide⟩

instance neZero_five : NeZero (5 : Nat) := ⟨by decide⟩

/-- The TC90522 demodulator: its address, and whether it is the second ISDB-S one of a pair. -/
structure Tc90522 where
  addr : UInt8
  isSecondary : Bool := false
deriving DecidableEq, Repr

namespace Tc90522

variable {ω : Type} (demod : Tc90522) (i2c : I2c ω)

def readRegs (reg : UInt8) (n : Nat) : Eff Error ω (Vector UInt8 n) :=
  if n = 0 then Eff.throw (error "empty TC90522 read")
  else i2c.writeRead demod.addr [reg] n

def readReg (reg : UInt8) : Eff Error ω UInt8 := do
  let b ← demod.readRegs i2c reg 1
  return byte b

def writeRegs (reg : UInt8) (data : List UInt8) : Eff Error ω Unit :=
  if data.isEmpty ∨ 254 < data.length then Eff.throw (error "bad TC90522 write length")
  else i2c.write demod.addr (reg :: data)

def writeReg (reg value : UInt8) : Eff Error ω Unit := demod.writeRegs i2c reg [value]

/-- Writes `(reg, value)` pairs in order, stopping at the first error. -/
def writeMultipleRegs (regs : List (UInt8 × UInt8)) : Eff Error ω Unit :=
  Eff.forEach regs fun (reg, value) => demod.writeReg i2c reg value

/-- What `TunerBus` writes: the relay of the demodulator takes the address and the data. -/
def relayWrite (addr : UInt8) (data : List UInt8) : Eff Error ω Unit :=
  if data.isEmpty ∨ 253 < data.length then Eff.throw (error "bad TC90522 relay write length")
  else i2c.write demod.addr (0xfe :: (addr <<< 1) :: data)

/-- I2C to the tuner, relayed by the demodulator. -/
def tunerBus : I2c ω where
  write := demod.relayWrite i2c
  writeRead addr data n :=
    if n = 0 then Eff.throw (error "empty TC90522 relay read")
    else do
      demod.relayWrite i2c addr data
      i2c.writeRead demod.addr [0xfe, (addr <<< 1) ||| 0x01] n

def sleepS (sleep : Bool) : Eff Error ω Unit :=
  let (a, b) : UInt8 × UInt8 := if sleep then (0x80, 0xff) else (0x00, 0x00)
  demod.writeMultipleRegs i2c [(0x13, a), (0x17, b)]

def setAgcS (on : Bool) : Eff Error ω Unit :=
  let r : UInt8 := if demod.isSecondary then 0x30 else 0xb0
  demod.writeMultipleRegs i2c
    (if on then [(0x0a, 0xff), (0x10, r ||| 0x02), (0x11, 0x00), (0x03, 0x01)]
      else [(0x0a, 0x00), (0x10, r), (0x11, 0x02), (0x03, 0x01)])

def readU16 (reg : UInt8) : Eff Error ω Nat := do
  let b ← demod.readRegs i2c reg 2
  return BigEndian.ofBytes b.toList

def getTsidS : Eff Error ω Nat := demod.readU16 i2c 0xe6

def setTsidS (tsid : UInt16) : Eff Error ω Unit :=
  demod.writeRegs i2c 0x8f (BigEndian.toBytes 2 tsid.toNat)

def getCnS : Eff Error ω Nat := demod.readU16 i2c 0xbc

def enableTsPinsS (enable : Bool) : Eff Error ω Unit :=
  let (a, b) : UInt8 × UInt8 := if enable then (0x00, 0x00) else (0x80, 0x22)
  demod.writeMultipleRegs i2c [(0x1c, a), (0x1f, b)]

def isSignalLockedS : Eff Error ω Bool := do
  return (← demod.readReg i2c 0xc3) &&& 0x10 == 0

def sleepT (sleep : Bool) : Eff Error ω Unit :=
  demod.writeReg i2c 0x03 (if sleep then 0xf0 else 0x00)

def setAgcT (on : Bool) : Eff Error ω Unit :=
  let v : UInt8 := if on then 0x4c else 0x4d
  demod.writeMultipleRegs i2c [(0x25, 0x00), (0x20, 0x00), (0x23, v), (0x01, 0x50)]

def getCndatT : Eff Error ω Nat := do
  let b ← demod.readRegs i2c 0x8b 3
  return BigEndian.ofBytes b.toList

def enableTsPinsT (enable : Bool) : Eff Error ω Unit :=
  demod.writeReg i2c 0x1d (if enable then 0x00 else 0xa8)

/-- A failed read counts as not locked. -/
def isSignalLockedT : Eff Error ω Bool := do
  match ← Eff.attempt (demod.readReg i2c 0x80) with
  | .error _ => return false
  | .ok b =>
    if b &&& 0x28 ≠ 0 then return false
    match ← Eff.attempt (demod.readReg i2c 0xb0) with
    | .error _ => return false
    | .ok b => return 8 ≤ b &&& 0x0f

end Tc90522

end Px4

end Tunelith
