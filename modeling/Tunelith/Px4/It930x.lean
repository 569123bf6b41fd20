import Tunelith.Lib.WordSum
import Tunelith.Px4.Board

/-!
# The IT930x

The USB bridge the TS of every tuner comes in through, and that reaches their chips over I2C. It is
told what to do with control messages: a frame of a length, a command, a sequence number, a payload
and a checksum goes out, and a response comes back.

A USB transport is what it does to the state `ω` of whatever is behind it, as a bus is. Pauses are
left out.
-/

namespace Tunelith

/-- Bulk transfers on an endpoint: `bulkOut` sends, `bulkIn` receives one of up to so many bytes. -/
structure Usb (ω : Type) where
  bulkOut : UInt8 → List UInt8 → Eff Error ω Unit
  bulkIn : UInt8 → Nat → Eff Error ω (List UInt8)

namespace Px4

/-- What stops a computation: an error, or a panic on an index out of range. -/
inductive Halt
  | err (e : Error)
  | panic
deriving DecidableEq

/-- `buf[i]` -/
def index {α : Type} (buf : List α) (i : Nat) : Except Halt α :=
  match buf[i]? with
  | some a => .ok a
  | none => .error .panic

/-- `buf[i..j]` -/
def slice {α : Type} (buf : List α) (i j : Nat) : Except Halt (List α) :=
  if i ≤ j ∧ j ≤ buf.length then .ok ((buf.take j).drop i) else .error .panic

/-- A driver's own error. -/
def Halt.own (message : String) : Halt := .err (error message)

/-- What a bus says of it: it never panics, see `It930x.not_panics`. -/
def Halt.toError : Halt → Error
  | .err e => e
  | .panic => error "index out of range"

def CMD_REG_READ : UInt16 := 0x00
def CMD_REG_WRITE : UInt16 := 0x01
def CMD_QUERYINFO : UInt16 := 0x22
def CMD_BOOT : UInt16 := 0x23
def CMD_FW_SCATTER_WRITE : UInt16 := 0x29
def CMD_I2C_READ : UInt16 := 0x2a
def CMD_I2C_WRITE : UInt16 := 0x2b

def EP_CTRL_OUT : UInt8 := 0x02
def EP_CTRL_IN : UInt8 := 0x81

def I2C_SPEED : UInt8 := 0x07

/-- The one's complement of the sum of big-endian 16-bit words. -/
def checksum (buf : List UInt8) : UInt16 := ~~~ WordSum.sum buf

def regLength (reg : UInt32) : UInt8 :=
  if 0x01000000 ≤ reg then 4
  else if 0x00010000 ≤ reg then 3
  else if 0x00000100 ≤ reg then 2
  else 1

/-- The message `ctrl` sends. -/
def frame (cmd : UInt16) (seq : UInt8) (payload : List UInt8) : List UInt8 :=
  let body := BigEndian.toBytes 2 cmd.toNat ++ seq :: payload
  let len := 4 + payload.length + 2
  UInt8.ofNat (len - 1) :: body ++ BigEndian.toBytes 2 (checksum body).toNat

/-- What `ctrl` makes of the response to the message `seq`. -/
def parse (seq : UInt8) (buf : List UInt8) : Except Halt (List UInt8) :=
  let rlen := buf.length
  if rlen < 5 then .error (.own "control response too short")
  else do
    let checked ← slice buf 1 (rlen - 2)
    let hi ← index buf (rlen - 2)
    let lo ← index buf (rlen - 1)
    if checksum checked ≠ WordSum.ofPair hi lo then
      .error (.own "control response checksum mismatch")
    else if (← index buf 1) ≠ seq then .error (.own "control response out of sequence")
    else if (← index buf 2) ≠ 0 then .error (.own "control command failed")
    else slice buf 3 (rlen - 2)

/-- The bridge as the driver knows it. -/
structure It930x where
  seq : UInt8 := 0
  gpioOut : UInt16 := 0
  gpioOn : UInt16 := 0
deriving DecidableEq, Repr

namespace It930x

variable {ω α : Type}

/-- A transfer. -/
def transfer (m : Eff Error ω α) : Eff Halt (It930x × ω) α :=
  (m.mapError Halt.err).zoom Prod.snd fun s w => (s.1, w)

/-- After a message. -/
def next (bridge : It930x) : It930x := { bridge with seq := bridge.seq + 1 }

/-- The sequence number of the message. -/
def takeSeq : Eff Halt (It930x × ω) UInt8 := fun s => (.ok s.1.seq, s.1.next, s.2)

variable (usb : Usb ω)

def ctrl (cmd : UInt16) (payload : List UInt8) : Eff Halt (It930x × ω) (List UInt8) := do
  Eff.require (payload.length ≤ 255 - 3 - 2) (.own "control message too long")
  let seq ← takeSeq
  transfer (usb.bulkOut EP_CTRL_OUT (frame cmd seq payload))
  let buf ← transfer (usb.bulkIn EP_CTRL_IN 256)
  Eff.ofExcept (parse seq buf)

def readRegs (reg : UInt32) (len : UInt8) : Eff Halt (It930x × ω) (List UInt8) := do
  let data ← ctrl usb CMD_REG_READ (len :: regLength reg :: BigEndian.toBytes 4 reg.toNat)
  return data.take len.toNat

def readReg (reg : UInt32) : Eff Halt (It930x × ω) UInt8 := do
  let data ← readRegs usb reg 1
  match data.head? with
  | some value => return value
  | none => Eff.throw (.own "empty register read")

def writeRegs (reg : UInt32) (data : List UInt8) : Eff Halt (It930x × ω) Unit := do
  let _ ← ctrl usb CMD_REG_WRITE
    (UInt8.ofNat data.length :: regLength reg :: BigEndian.toBytes 4 reg.toNat ++ data)

def writeReg (reg : UInt32) (value : UInt8) : Eff Halt (It930x × ω) Unit :=
  writeRegs usb reg [value]

def writeRegMask (reg : UInt32) (value mask : UInt8) : Eff Halt (It930x × ω) Unit := do
  if mask = 0xff then writeReg usb reg value
  else
    let old ← readReg usb reg
    writeReg usb reg ((old &&& ~~~ mask) ||| (value &&& mask))

def firmwareVersion : Eff Halt (It930x × ω) Nat := do
  let data ← ctrl usb CMD_QUERYINFO [1]
  if data.length < 4 then Eff.throw (.own "short firmware version")
  else return BigEndian.ofBytes (data.take 4)

/-- The tries of `raise`, of which so many are left. -/
def tryRaise : Nat → Except Halt Nat → Eff Halt (It930x × ω) (Except Halt Nat)
  | 0, result => pure result
  | tries + 1, _ => do
    match ← Eff.attempt (firmwareVersion usb) with
    | .ok version => return .ok version
    | .error e => tryRaise tries (.error e)

/-- Wakes the bridge up, which may take a few tries. -/
def raise : Eff Halt (It930x × ω) Unit := do
  let result ← tryRaise usb 5 (.ok 0)
  let _ ← Eff.ofExcept result

/-! I2C bus 1, 2 or 3 of the bridge. -/

def i2cWrite (bus addr : UInt8) (data : List UInt8) : Eff Halt (It930x × ω) Unit := do
  let _ ← ctrl usb CMD_I2C_WRITE (UInt8.ofNat data.length :: bus :: (addr <<< 1) :: data)

/-- `copy_from_slice` into a buffer of `n` bytes. -/
def copied (n : Nat) (data : List UInt8) : Except Halt (Vector UInt8 n) :=
  if h : data.length = n then .ok ⟨data.toArray, h⟩ else .error .panic

def i2cWriteRead (bus addr : UInt8) (data : List UInt8) (n : Nat) :
    Eff Halt (It930x × ω) (Vector UInt8 n) := do
  i2cWrite usb bus addr data
  let read ← ctrl usb CMD_I2C_READ [UInt8.ofNat n, bus, addr <<< 1]
  Eff.require (n ≤ read.length) (.own "short I2C read")
  let part ← Eff.ofExcept (slice read 0 n)
  Eff.ofExcept (copied n part)

def i2c (bus : UInt8) : I2c (It930x × ω) where
  write addr data := (i2cWrite usb bus addr data).mapError Halt.toError
  writeRead addr data n := (i2cWriteRead usb bus addr data n).mapError Halt.toError

/-! GPIO 1 to 16. -/

def MODE_REGS : List UInt32 :=
  [0xd8b0, 0xd8b8, 0xd8b4, 0xd8c0, 0xd8bc, 0xd8c8, 0xd8c4, 0xd8d0, 0xd8cc, 0xd8d8, 0xd8d4,
    0xd8e0, 0xd8dc, 0xd8e4, 0xd8e8, 0xd8ec]

def OUT_REGS : List UInt32 :=
  [0xd8af, 0xd8b7, 0xd8b3, 0xd8bf, 0xd8bb, 0xd8c7, 0xd8c3, 0xd8cf, 0xd8cb, 0xd8d7, 0xd8d3,
    0xd8df, 0xd8db, 0xd8e3, 0xd8e7, 0xd8eb]

/-- The bit of a GPIO. -/
def gpioBit (gpio : UInt8) : UInt16 := 1 <<< (gpio - 1).toUInt16

/-- Makes a GPIO an enabled output. -/
def gpioOutput (gpio : UInt8) : Eff Halt (It930x × ω) Unit := do
  let bit := gpioBit gpio
  let reg ← Eff.ofExcept (index MODE_REGS (gpio - 1).toNat)
  let bridge := (← Eff.get).1
  Eff.when (bridge.gpioOut &&& bit = 0) do
    writeReg usb reg 1
    Eff.modify fun s => ({ s.1 with gpioOut := s.1.gpioOut ||| bit }, s.2)
  Eff.when (bridge.gpioOn &&& bit = 0) do
    writeReg usb (reg + 1) 1
    Eff.modify fun s => ({ s.1 with gpioOn := s.1.gpioOn ||| bit }, s.2)

def writeGpio (gpio : UInt8) (high : Bool) : Eff Halt (It930x × ω) Unit := do
  let bridge := (← Eff.get).1
  Eff.require (bridge.gpioOut &&& gpioBit gpio ≠ 0) (.own "GPIO is not an output")
  let reg ← Eff.ofExcept (index OUT_REGS (gpio - 1).toNat)
  writeReg usb reg (if high then 1 else 0)

/-- What the bridge does for its board. -/
def ops : Ops (It930x × ω) where
  writeGpio gpio high := (writeGpio usb gpio high).mapError Halt.toError
  i2c := i2c usb

end It930x

end Px4

end Tunelith
