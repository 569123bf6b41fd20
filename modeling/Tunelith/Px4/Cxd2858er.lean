import Tunelith.Px4.Cxd2856er

/-!
# The CXD2858ER

The ISDB-T/S tuner of the PX-MLT series, reached through the gate of the demodulator in front of
it, which is closed again whatever fails behind it.
-/

namespace Tunelith.Px4

structure Cxd2858er where
  /-- The system it is set up for, if any. -/
  mode : Option Mode := none
deriving DecidableEq, Repr

namespace Cxd2858er

def ADDR : UInt8 := 0x60

variable {ω : Type} (i2c : I2c ω)

def write (reg : UInt8) (data : List UInt8) : OnChip Cxd2858er ω Unit :=
  OnChip.bus (i2c.write ADDR (reg :: data))

/-- Writes in order, stopping at the first error. -/
def writes (regs : List (UInt8 × List UInt8)) : OnChip Cxd2858er ω Unit :=
  Eff.forEach regs fun (reg, data) => write i2c reg data

def read (reg : UInt8) : OnChip Cxd2858er ω UInt8 := do
  let value ← OnChip.bus (i2c.writeRead ADDR [reg] 1)
  return byte value

def writeMask (reg value mask : UInt8) : OnChip Cxd2858er ω Unit := do
  let current ← read i2c reg
  write i2c reg [(current &&& ~~~mask) ||| (value &&& mask)]

/-- Does `m` with the gate open, and closes the gate whatever `m` comes to; the first error
counts. -/
def gated (demod : Cxd2856er) (m : OnChip Cxd2858er ω Unit) : OnChip Cxd2858er ω Unit := do
  OnChip.bus (demod.gate i2c true)
  let result ← Eff.attempt m
  let closed ← Eff.attempt (OnChip.bus (demod.gate i2c false))
  match result with
  | .ok () => Eff.ofExcept closed
  | .error e => Eff.throw e

def setMode (mode : Option Mode) : OnChip Cxd2858er ω Unit :=
  OnChip.modifySelf fun _ => { mode := mode }

def powerOn : OnChip Cxd2858er ω Unit := do
  -- T mode.
  writes i2c [(0x01, [0x00]), (0x67, [0x00]), (0x43, [0x07]), (0x5e, [0x15, 0x00, 0x00]),
    (0x0c, [0x14]), (0x99, [0x7a, 0x01]),
    (0x81, [0x10, 0x84, 0xa6, 0x00, 0x00, 0x00, 0xc4, 0x40, 0x10, 0x00, 0x45, 0x75, 0x07, 0x1c,
      0x3f, 0x02, 0x10, 0x20, 0x0a, 0x00]),
    (0x9b, [0x00])]
  let status ← read i2c 0x1a
  Eff.require (status = 0x00) (.chip "CXD2858ER did not power on")
  write i2c 0x17 [0x90, 0x06]
  let value ← read i2c 0x19
  writes i2c [(0x95, [(value &&& 0xf0) >>> 4]), (0x74, [0x02]), (0x88, [0x00]), (0x87, [0xc0]),
    (0x80, [0x01]), (0x41, [0x07, 0x00])]

def init (demod : Cxd2856er) : OnChip Cxd2858er ω Unit := do
  setMode none
  gated i2c demod (powerOn i2c)

def stop : OnChip Cxd2858er ω Unit := do
  let mode := (← OnChip.self).mode
  setMode none
  match mode with
  | some .t => do
    write i2c 0x74 [0x02]
    writeMask i2c 0x67 0x00 0xfe
    writes i2c [(0x5e, [0x15, 0x00, 0x00]), (0x88, [0x00]), (0x87, [0xc0])]
  | some .s =>
    writes i2c [(0x15, [0x02]), (0x43, [0x07]), (0x0c, [0x14, 0x00, 0x00]), (0x01, [0x00]),
      (0x05, [0x00]), (0x04, [0xc0])]
  | none => return ()

def term (demod : Cxd2856er) : OnChip Cxd2858er ω Unit := do
  Eff.when ((← OnChip.self).mode.isSome = true) (gated i2c demod (stop i2c))

def setT (khz : UInt32) : OnChip Cxd2858er ω Unit := do
  Eff.when ((← OnChip.self).mode = some .s) (stop i2c)
  writes i2c [(0x01, [0x00]), (0x74, [0x02]), (0x87, [0xc4, 0x40]), (0x91, [0x10, 0x20]),
    (0x9c, [0x00, 0x00]), (0x5e, [0xee, 0x02, 0x1e, 0x67, 0x02, 0xb4, 0x78, 0x08, 0x30])]
  writeMask i2c 0x67 0x00 0x02
  writes i2c [(0x68, [0x00, 0x88, 0x00, 0x0b, 0x22, 0x00, 0x17, 0x1b, khz.toUInt8,
      (khz >>> 8).toUInt8, (khz >>> 16).toUInt8 &&& 0x0f, 0xff, 0x01, 0x99, 0x00, 0x24, 0x87]),
    (0x88, [0x00]), (0x87, [0xc0])]
  setMode (some .t)

/-- Tunes to an ISDB-T frequency in kHz, 6 MHz wide. -/
def tuneT (demod : Cxd2856er) (khz : UInt32) : OnChip Cxd2858er ω Unit :=
  gated i2c demod (setT i2c khz)

def setS (khz : UInt32) : OnChip Cxd2858er ω Unit := do
  Eff.when ((← OnChip.self).mode = some .t) (stop i2c)
  let f := (khz + 2) / 4
  writes i2c [(0x15, [0x02]), (0x43, [0x06]), (0x6a, [0x00, 0x00]), (0x75, [0x99]), (0x9d, [0x00]),
    (0x61, [0x07]), (0x01, [0x01]),
    (0x04, [0xc4, 0x40, 0x02, 0x00, 0xb4, 0x78, 0x08, 0x30, 0xff, 0x02, 0x1e, 0x16, f.toUInt8,
      (f >>> 8).toUInt8, (f >>> 16).toUInt8 &&& 0x0f, 0xff, 0x00, 0x01]),
    (0x05, [0x00]), (0x04, [0xc0])]
  setMode (some .s)

/-- Tunes to an ISDB-S intermediate frequency in kHz. -/
def tuneS (demod : Cxd2856er) (khz : UInt32) : OnChip Cxd2858er ω Unit :=
  gated i2c demod (setS i2c khz)

end Cxd2858er

end Tunelith.Px4
