import Tunelith.Px4.Rt710

/-!
# The CXD2856ER

The ISDB-T/S demodulator of the PX-MLT series. It takes registers at two addresses, and is told
what to do in sequences of writes; it knows the system it runs, or that it is asleep.
-/

namespace Tunelith.Px4

/-- The system the demodulator runs. -/
inductive Mode
  | t
  | s
deriving DecidableEq, Repr

/-- A register write, as the sequences below are made of. -/
inductive Op
  /-- To the system address (SLVX). -/
  | x (reg value : UInt8)
  /-- To the demodulator address (SLVT). -/
  | t (reg value : UInt8)
  /-- To SLVT, only the bits in the mask. -/
  | m (reg value mask : UInt8)
  /-- To SLVT, from the register on. -/
  | b (reg : UInt8) (data : List UInt8)
  | sleepMs (ms : Nat)
deriving DecidableEq, Repr

structure Cxd2856er where
  slvx : UInt8
  slvt : UInt8
  /-- The system it runs, or `none` asleep. -/
  mode : Option Mode := none
deriving DecidableEq, Repr

namespace Cxd2856er

def INIT : List Op :=
  [.x 0x00 0x00, .x 0x10 0x01, .x 0x18 0x01, .x 0x28 0x13, .x 0x17 0x01, .x 0x1d 0x00,
    -- 24 MHz crystal.
    .x 0x14 0x01, .x 0x1c 0x03, .sleepMs 4, .x 0x50 0x00, .sleepMs 1, .x 0x10 0x00, .sleepMs 1,
    .x 0x00 0x00,
    -- The tuner is on the demodulator's I2C.
    .x 0x1a 0x01]

def tsClock (mode : Mode) : List Op :=
  [.t 0x00 0x00, .m 0xd3 0x01 0x01, .m 0xde 0x00 0x01, .m 0xda 0x00 0x01, .m 0xc4 0x00 0x03,
    .m 0xd1 0x02 0x03, .t 0xd9 0x10, .m 0x32 0x00 0x01,
    .m 0x33 (if mode = .t then 0x02 else 0x00) 0x03, .m 0x32 0x01 0x01, .t 0x00 0x10,
    .m 0x66 0x01 0x01, .t 0x00 0x40, .m 0x66 0x01 0x01]

def WAKEUP_T : List Op :=
  [.x 0x00 0x00, .x 0x17 0x06, .t 0x00 0x00, .t 0xa9 0x00, .t 0x2c 0x01, .t 0x4b 0x74,
    .t 0x49 0x00, .x 0x18 0x00, .t 0x00 0x11, .t 0x6a 0x50, .t 0x00 0x10, .t 0xa5 0x01,
    .t 0x00 0x00, .b 0xce [0x00, 0x00], .t 0x00 0x10, .t 0x69 0x04, .t 0x6b 0x03, .t 0x9d 0x50,
    .t 0xd3 0x06, .t 0xed 0x00, .t 0xe2 0xce, .t 0xf2 0x13, .t 0xde 0x2e, .t 0x00 0x15,
    .t 0xde 0x02, .t 0x00 0x17, .b 0x38 [0x00, 0x03], .t 0x00 0x1e, .t 0x73 0x68, .t 0x00 0x63,
    .t 0x81 0x00, .t 0x00 0x11, .b 0x33 [0x00, 0x03, 0x3b], .t 0x00 0x60, .b 0xa8 [0xb7, 0x1b],
    -- Bandwidth: 6 MHz.
    .t 0x00 0x10, .b 0x9f [0x17, 0xa0, 0x80, 0x00, 0x00],
    .b 0xa6 [0x31, 0xa8, 0x29, 0x9b, 0x27, 0x9c, 0x28, 0x9e, 0x29, 0xa4, 0x29, 0xa2, 0x29, 0xa8],
    .b 0xb6 [0x12, 0xee, 0xef], .t 0xd7 0x04, .b 0xd9 [0x1f, 0x79], .t 0x00 0x12, .t 0x71 0x07,
    .t 0x00 0x15, .t 0xbe 0x02, .t 0x00 0x00, .m 0x80 0x08 0x1f]

def WAKEUP_S : List Op :=
  [.x 0x00 0x00, .x 0x17 0x0c, .t 0x00 0x00, .t 0x2d 0x00, .t 0xa9 0x00, .t 0x2c 0x01,
    .x 0x28 0x31, .t 0x4b 0x31, .t 0x6a 0x00, .x 0x18 0x00, .t 0x00 0x00, .t 0x20 0x01,
    .b 0xce [0x00, 0x00], .t 0x00 0xae, .b 0x20 [0x07, 0x37, 0x0a], .t 0x00 0xa0, .t 0xd7 0x00,
    .t 0x00 0x00, .m 0x80 0x10 0x1f]

def SLEEP_HEAD : List Op := [.t 0x00 0x00, .t 0xc3 0x01, .m 0x80 0x1f 0x1f]

def SLEEP_T : List Op :=
  [.t 0x00 0x10, .t 0x69 0x05, .t 0x6b 0x07, .t 0x9d 0x14, .t 0xd3 0x00, .t 0xed 0x01,
    .t 0xe2 0x4e, .t 0xf2 0x03, .t 0xde 0x32, .t 0x00 0x15, .t 0xde 0x03, .t 0x00 0x17,
    .b 0x38 [0x01, 0x00], .t 0x00 0x1e, .t 0x73 0x00, .t 0x00 0x63, .t 0x81 0x01, .x 0x00 0x00,
    .x 0x18 0x01, .t 0x00 0x00, .t 0x49 0x33, .t 0x4b 0x21, .t 0xfe 0x01, .t 0x2c 0x00,
    .t 0xa9 0x00, .x 0x17 0x01]

def SLEEP_S : List Op :=
  [.x 0x00 0x00, .x 0x18 0x01, .t 0x00 0x00, .t 0x6a 0x11, .t 0x4b 0x21, .x 0x28 0x13,
    .t 0xfe 0x01, .t 0x2c 0x00, .t 0xa9 0x00, .t 0x2d 0x00, .x 0x17 0x01, .t 0x00 0xa0,
    .t 0xd7 0x00]

def POST_TUNE : List Op := [.t 0x00 0x00, .t 0xfe 0x01, .t 0xc3 0x00]

def new (i2cAddr : UInt8) : Cxd2856er where
  slvx := i2cAddr + 2
  slvt := i2cAddr

variable {ω : Type} (demod : Cxd2856er) (i2c : I2c ω)

def write (reg : UInt8) (data : List UInt8) : Eff Error ω Unit := i2c.write demod.slvt (reg :: data)

def read (reg : UInt8) (n : Nat) : Eff Error ω (Vector UInt8 n) := i2c.writeRead demod.slvt [reg] n

def writeMask (reg value mask : UInt8) : Eff Error ω Unit := do
  if mask = 0xff then demod.write i2c reg [value]
  else
    let current ← demod.read i2c reg 1
    demod.write i2c reg [(byte current &&& ~~~mask) ||| (value &&& mask)]

def run (ops : List Op) : Eff Error ω Unit :=
  Eff.forEach ops fun
    | .x reg value => i2c.write demod.slvx [reg, value]
    | .t reg value => demod.write i2c reg [value]
    | .m reg value mask => demod.writeMask i2c reg value mask
    | .b reg data => demod.write i2c reg data
    | .sleepMs _ => return ()

/-- Writes the SLVT registers the device model sets up after `init`. -/
def setup (ops : List (UInt8 × UInt8 × UInt8)) : Eff Error ω Unit :=
  Eff.forEach ops fun (reg, value, mask) => demod.writeMask i2c reg value mask

/-- Opens or closes the way to the tuner behind the demodulator. -/
def gate («open» : Bool) : Eff Error ω Unit := i2c.write demod.slvx [0x08, «open».toUInt8]

def setTsPins (on : Bool) : Eff Error ω Unit := do
  demod.write i2c 0x00 [0x00]
  let c4 ← demod.read i2c 0xc4 1
  let mask : UInt8 := if byte c4 &&& 0x88 = 0x80 then 0x01 else if byte c4 &&& 0x88 = 0x88 then 0x80
    else 0xff
  demod.write i2c 0x00 [0x00]
  demod.writeMask i2c 0x81 (if on then 0x00 else 0xff) mask

def postTune : Eff Error ω Unit := demod.run i2c POST_TUNE

def setTsid (tsid : UInt16) : Eff Error ω Unit := do
  demod.write i2c 0x00 [0xc0]
  demod.write i2c 0xe9 (BigEndian.toBytes 2 tsid.toNat ++ [0])

/-- Whether the TS has locked, and for ISDB-T whether the demodulator has given up on it. -/
def lockStatus : Eff Error ω (Bool × Bool) := do
  if demod.mode = some .t then
    demod.write i2c 0x00 [0x60]
    let status ← demod.read i2c 0x10 1
    return (byte status &&& 0x01 != 0, byte status &&& 0x10 != 0)
  else
    demod.write i2c 0x00 [0xa0]
    let status ← demod.read i2c 0x12 1
    return (byte status &&& 0x40 != 0, false)

def setMode (mode : Option Mode) : OnChip Cxd2856er ω Unit :=
  OnChip.modifySelf fun demod => { demod with mode := mode }

def init : OnChip Cxd2856er ω Unit := do
  setMode none
  OnChip.bus ((← OnChip.self).run i2c INIT)

/-- It counts as asleep as soon as it is told to sleep. -/
def sleep : OnChip Cxd2856er ω Unit := do
  let demod ← OnChip.self
  match demod.mode with
  | none => return ()
  | some mode => do
    setMode none
    OnChip.bus (demod.run i2c SLEEP_HEAD)
    OnChip.bus (demod.setTsPins i2c false)
    OnChip.bus (demod.run i2c (if mode = .t then SLEEP_T else SLEEP_S))

def wakeup (mode : Mode) : OnChip Cxd2856er ω Unit := do
  sleep i2c
  let demod ← OnChip.self
  OnChip.bus (demod.run i2c (tsClock mode))
  OnChip.bus (demod.run i2c (if mode = .t then WAKEUP_T else WAKEUP_S))
  OnChip.bus (demod.setTsPins i2c true)
  setMode (some mode)

end Cxd2856er

end Tunelith.Px4
