import Tunelith.Px4.Rt710

/-!
# The tables of the R850

The registers the R850 starts from, and what its registers are to hold for each system and for
each range of frequencies.
-/

namespace Tunelith.Px4.R850

def NUM_REGS : Nat := 0x30

inductive System
  | dvbT
  | dvbT2
  | dvbT2_1
  | dvbC
  | j83b
  | isdbT
  | dtmb
  | atsc
  | fm
deriving DecidableEq, Repr

inductive Bandwidth
  | m6
  | m7
  | m8
deriving DecidableEq, Repr

structure SystemConfig where
  system : System
  bandwidth : Bandwidth
  /-- The intermediate frequency in kHz. -/
  ifFreq : Nat
deriving DecidableEq, Repr

structure Lpf where
  code : UInt8
  bandwidth : UInt8
  lsb : UInt8
deriving DecidableEq, Repr

structure SystemParams where
  bandwidth : Bandwidth
  ifFreq : Nat
  filtCalIf : Nat
  bw : UInt8
  filtExtEna : UInt8
  hpfNotch : UInt8
  hpfCor : UInt8
  filtComp : UInt8
  imgGain : UInt8
  agcClk : UInt8
  lpf : Lpf
deriving DecidableEq, Repr

/-- A row as laid out in C: the seven fields from `bw`, then the LPF. -/
def sp (bandwidth : Bandwidth) (ifFreq filtCalIf : Nat) (v : List UInt8) : SystemParams where
  bandwidth := bandwidth
  ifFreq := ifFreq
  filtCalIf := filtCalIf
  bw := v.getD 0 0
  filtExtEna := v.getD 1 0
  hpfNotch := v.getD 2 0
  hpfCor := v.getD 3 0
  filtComp := v.getD 4 0
  imgGain := v.getD 5 0
  agcClk := v.getD 6 0
  lpf := { code := v.getD 7 0, bandwidth := v.getD 8 0, lsb := v.getD 9 0 }

/-- A bound of 0 is none. -/
structure FreqParams where
  ifFreq : Nat
  rfFreqMin : Nat
  rfFreqMax : Nat
  lnaTop : UInt8
  lnaVtlH : UInt8
  lnaNrbDet : UInt8
  lnaRfDisMode : UInt8
  lnaRfChargeCur : UInt8
  lnaRfDisCurr : UInt8
  lnaDisSlowFast : UInt8
  rfTop : UInt8
  rfVtlH : UInt8
  rfGainLimit : UInt8
  rfDisSlowFast : UInt8
  rfLtePsg : UInt8
  nrbTop : UInt8
  nrbBwHpf : UInt8
  nrbBwLpf : UInt8
  mixerTop : UInt8
  mixerVth : UInt8
  mixerVtl : UInt8
  mixerAmpLpf : UInt8
  mixerGainLimit : UInt8
  mixerDetbwLpf : UInt8
  mixerFilterDis : UInt8
  filterTop : UInt8
  filterVth : UInt8
  filterVtl : UInt8
  filt3thLpfCur : UInt8
  filt3thLpfGain : UInt8
  bbDisCurr : UInt8
  bbDetMode : UInt8
  naPwrDet : UInt8
  enbPolyGain : UInt8
  imgNrbAdder : UInt8
  hpfComp : UInt8
  fbRes1st : UInt8
deriving DecidableEq, Repr

/-- A row as laid out in C: the frequencies, then the rest in field order. -/
def fp (ifFreq rfFreqMin rfFreqMax : Nat) (v : List UInt8) : FreqParams where
  ifFreq := ifFreq
  rfFreqMin := rfFreqMin
  rfFreqMax := rfFreqMax
  lnaTop := v.getD 0 0
  lnaVtlH := v.getD 1 0
  lnaNrbDet := v.getD 2 0
  lnaRfDisMode := v.getD 3 0
  lnaRfChargeCur := v.getD 4 0
  lnaRfDisCurr := v.getD 5 0
  lnaDisSlowFast := v.getD 6 0
  rfTop := v.getD 7 0
  rfVtlH := v.getD 8 0
  rfGainLimit := v.getD 9 0
  rfDisSlowFast := v.getD 10 0
  rfLtePsg := v.getD 11 0
  nrbTop := v.getD 12 0
  nrbBwHpf := v.getD 13 0
  nrbBwLpf := v.getD 14 0
  mixerTop := v.getD 15 0
  mixerVth := v.getD 16 0
  mixerVtl := v.getD 17 0
  mixerAmpLpf := v.getD 18 0
  mixerGainLimit := v.getD 19 0
  mixerDetbwLpf := v.getD 20 0
  mixerFilterDis := v.getD 21 0
  filterTop := v.getD 22 0
  filterVth := v.getD 23 0
  filterVtl := v.getD 24 0
  filt3thLpfCur := v.getD 25 0
  filt3thLpfGain := v.getD 26 0
  bbDisCurr := v.getD 27 0
  bbDetMode := v.getD 28 0
  naPwrDet := v.getD 29 0
  enbPolyGain := v.getD 30 0
  imgNrbAdder := v.getD 31 0
  hpfComp := v.getD 32 0
  fbRes1st := v.getD 33 0

/-! ## Registers -/

def INIT_REGS : Regs := .ofList
  [0x00, 0x00, 0x00, 0x00, 0x00, 0x00, 0x00, 0x00, 0xca, 0xc0, 0x72, 0x50, 0x00, 0xe0, 0x00, 0x30,
    0x86, 0xbb, 0xf8, 0xb0, 0xd2, 0x81, 0xcd, 0x46, 0x37, 0x40, 0x89, 0x8c, 0x55, 0x95, 0x07, 0x23,
    0x21, 0xf1, 0x4c, 0x5f, 0xc4, 0x20, 0xa9, 0x6c, 0x53, 0xab, 0x5b, 0x46, 0xb3, 0x93, 0x6e, 0x41]

def IMR_CAL_REGS : Regs := .ofList
  [0x00, 0x00, 0x00, 0x00, 0x00, 0x00, 0x00, 0x00, 0xc0, 0x49, 0x3a, 0x90, 0x03, 0xc1, 0x61, 0x71,
    0x17, 0xf1, 0x18, 0x55, 0x30, 0x20, 0xf3, 0xed, 0x1f, 0x1c, 0x81, 0x13, 0x00, 0x80, 0x0a, 0x07,
    0x21, 0x71, 0x54, 0xf1, 0xf2, 0xa9, 0xbb, 0x0b, 0xa3, 0xf6, 0x0b, 0x44, 0x92, 0x17, 0xe6, 0x80]

def LPF_CAL_REGS : Regs := .ofList
  [0x00, 0x00, 0x00, 0x00, 0x00, 0x00, 0x00, 0x00, 0xc0, 0x49, 0x3f, 0x90, 0x13, 0xe1, 0x89, 0x7a,
    0x07, 0xf1, 0x9a, 0x50, 0x30, 0x20, 0xe1, 0x00, 0x00, 0x04, 0x81, 0x11, 0xef, 0xee, 0x17, 0x07,
    0x31, 0x71, 0x54, 0xb2, 0xee, 0xa9, 0xbb, 0x0b, 0xa3, 0x00, 0x0b, 0x44, 0x92, 0x1f, 0xe6, 0x80]

/-! ## Systems -/

def DVB_T_T2_PARAMS : Fin 2 → List SystemParams
  | 0 =>
    [sp .m6 4570 7550 [1, 0, 0, 0x08, 1, 0, 0, 0x01, 3, 1],
      sp .m7 4570 7920 [1, 0, 0, 0x0b, 1, 0, 0, 0x04, 2, 0],
      sp .m8 4570 8450 [0, 0, 0, 0x0c, 1, 0, 0, 0x01, 2, 0],
      sp .m6 5000 7920 [1, 0, 0, 0x06, 1, 0, 0, 0x06, 2, 1],
      sp .m7 5000 8450 [0, 0, 0, 0x09, 1, 0, 0, 0x00, 2, 1],
      sp .m8 5000 8700 [0, 0, 0, 0x0a, 1, 0, 0, 0x06, 0, 1]]
  | 1 =>
    [sp .m6 4570 7550 [1, 0, 0, 0x08, 1, 3, 1, 0x01, 3, 1],
      sp .m7 4570 7920 [1, 0, 0, 0x0b, 1, 3, 1, 0x04, 2, 0],
      sp .m8 4570 8450 [0, 0, 0, 0x0c, 1, 3, 1, 0x01, 2, 0],
      sp .m6 5000 7920 [1, 0, 0, 0x06, 1, 3, 1, 0x06, 2, 1],
      sp .m7 5000 8450 [0, 0, 0, 0x09, 1, 3, 1, 0x00, 2, 1],
      sp .m8 5000 8700 [0, 0, 0, 0x0a, 1, 3, 1, 0x06, 0, 1]]

def DVB_T2_1_PARAMS : Fin 2 → List SystemParams
  | 0 =>
    [sp .m7 1900 7920 [1, 0, 0, 0x08, 1, 0, 0, 0x04, 2, 0],
      sp .m7 5000 6000 [2, 0, 0, 0x01, 1, 0, 0, 0x0b, 3, 1]]
  | 1 =>
    [sp .m7 1900 7920 [1, 0, 0, 0x08, 1, 3, 1, 0x04, 2, 0],
      sp .m7 5000 6000 [2, 0, 0, 0x01, 1, 3, 1, 0x0b, 3, 1]]

def DVB_C_PARAMS : Fin 2 → List SystemParams
  | 0 =>
    [sp .m6 5070 8100 [1, 0, 0, 0x05, 1, 0, 0, 0x02, 2, 0],
      sp .m8 5070 9550 [0, 0, 0, 0x0b, 1, 0, 0, 0x04, 0, 0],
      sp .m6 5000 7780 [1, 0, 0, 0x06, 1, 0, 0, 0x01, 2, 1],
      sp .m8 5000 9250 [0, 0, 0, 0x0b, 1, 0, 0, 0x05, 0, 1]]
  | 1 =>
    [sp .m6 5070 8100 [1, 0, 0, 0x05, 1, 3, 1, 0x02, 2, 0],
      sp .m8 5070 9550 [0, 0, 0, 0x0b, 1, 3, 1, 0x04, 0, 0],
      sp .m6 5000 7780 [1, 0, 0, 0x06, 1, 3, 1, 0x01, 2, 1],
      sp .m8 5000 9250 [0, 0, 0, 0x0b, 1, 3, 1, 0x05, 0, 1]]

def J83B_PARAMS : Fin 2 → List SystemParams
  | 0 =>
    [sp .m6 5070 8100 [1, 0, 0, 0x05, 1, 0, 0, 0x03, 2, 1],
      sp .m6 5000 7550 [1, 0, 0, 0x05, 1, 0, 0, 0x05, 2, 1]]
  | 1 =>
    [sp .m6 5070 8100 [1, 0, 0, 0x05, 1, 3, 1, 0x03, 2, 1],
      sp .m6 5000 7550 [1, 0, 0, 0x05, 1, 3, 1, 0x05, 2, 1]]

def ISDB_T_PARAMS : Fin 2 → List SystemParams
  | 0 =>
    [sp .m6 4063 7070 [1, 0, 0, 0x08, 1, 0, 0, 0x02, 3, 1],
      sp .m6 4570 7400 [1, 0, 0, 0x05, 1, 0, 0, 0x08, 2, 0],
      sp .m6 5000 7780 [1, 1, 0, 0x03, 1, 0, 0, 0x05, 2, 0]]
  | 1 =>
    [sp .m6 4063 7070 [1, 0, 0, 0x0a, 1, 3, 1, 0x02, 3, 1],
      sp .m6 4570 7400 [1, 0, 0, 0x08, 1, 3, 1, 0x08, 2, 0],
      sp .m6 5000 7780 [1, 0, 0, 0x03, 1, 3, 1, 0x05, 2, 0]]

def DTMB_PARAMS : Fin 2 → List SystemParams
  | 0 =>
    [sp .m6 4500 7200 [1, 0, 0, 0x08, 1, 0, 0, 0x02, 3, 1],
      sp .m8 4570 8450 [0, 0, 0, 0x0c, 1, 0, 0, 0x00, 2, 1],
      sp .m6 5000 8100 [1, 0, 0, 0x06, 1, 0, 0, 0x04, 2, 1],
      sp .m8 5000 8800 [0, 0, 0, 0x0b, 2, 0, 0, 0x05, 0, 1]]
  | 1 =>
    [sp .m6 4500 7200 [1, 0, 0, 0x08, 1, 3, 1, 0x02, 3, 1],
      sp .m8 4570 8450 [0, 0, 0, 0x0c, 1, 3, 1, 0x00, 2, 1],
      sp .m6 5000 8100 [1, 0, 0, 0x06, 1, 3, 1, 0x04, 2, 1],
      sp .m8 5000 8800 [0, 0, 0, 0x0b, 2, 3, 1, 0x05, 0, 1]]

def ATSC_PARAMS : Fin 2 → List SystemParams
  | 0 =>
    [sp .m6 5070 8050 [1, 0, 0, 0x05, 1, 0, 0, 0x03, 2, 0],
      sp .m6 5000 7920 [1, 0, 0, 0x05, 1, 0, 0, 0x04, 2, 0]]
  | 1 =>
    [sp .m6 5070 8050 [1, 0, 0, 0x05, 1, 3, 1, 0x03, 2, 0],
      sp .m6 5000 7920 [1, 0, 0, 0x05, 1, 3, 1, 0x04, 2, 0]]

/-- The system parameters for the chip of that kind. -/
def systemParams : System → Fin 2 → List SystemParams
  | .dvbT | .dvbT2 => DVB_T_T2_PARAMS
  | .dvbT2_1 => DVB_T2_1_PARAMS
  | .dvbC => DVB_C_PARAMS
  | .j83b => J83B_PARAMS
  | .isdbT => ISDB_T_PARAMS
  | .dtmb => DTMB_PARAMS
  | .atsc => ATSC_PARAMS
  | .fm => fun _ => []

/-! ## Frequencies -/

def DVB_T_T2_FREQ_PARAMS : List FreqParams :=
  [fp 0 0 340000
        [5, 0x5a, 0, 1, 1, 1, 0x05, 4, 0x5a, 0, 0x05, 1, 5, 0, 2, 9, 0x09, 0x04, 4, 3, 0, 2,
          4, 0x09, 0x04, 1, 3, 0, 0, 1, 0, 2, 1, 1],
    fp 0 662001 670000
        [4, 0x5a, 0, 4, 1, 1, 0x05, 4, 0x5a, 0, 0x05, 1, 4, 0, 2, 9, 0x09, 0x04, 4, 3, 0, 2,
          4, 0x09, 0x04, 1, 3, 0, 0, 1, 0, 2, 1, 1],
    fp 0 782001 790000
        [5, 0x5a, 0, 2, 0, 1, 0x05, 4, 0x5a, 0, 0x05, 1, 4, 0, 2, 9, 0x09, 0x04, 4, 3, 0, 2,
          4, 0x09, 0x04, 1, 3, 0, 0, 1, 0, 2, 1, 1],
    fp 0 0 0
        [4, 0x5a, 0, 1, 1, 1, 0x05, 4, 0x5a, 0, 0x05, 1, 4, 0, 2, 9, 0x09, 0x04, 4, 3, 0, 2,
          4, 0x09, 0x04, 1, 3, 0, 0, 1, 0, 2, 1, 1]]

def DVB_C_FREQ_PARAMS : List FreqParams :=
  [fp 0 0 660000
        [4, 0x5a, 0, 1, 1, 1, 0x05, 4, 0x4a, 0, 0x05, 0, 5, 0, 2, 12, 0x09, 0x04, 4, 2, 0, 0,
          12, 0x09, 0x04, 1, 0, 1, 0, 1, 1, 2, 1, 1],
    fp 0 0 0
        [4, 0x5a, 0, 1, 1, 1, 0x05, 3, 0x4a, 0, 0x05, 0, 5, 0, 2, 12, 0x09, 0x04, 4, 2, 0, 0,
          12, 0x09, 0x04, 1, 0, 1, 0, 1, 1, 1, 1, 1]]

def J83B_FREQ_PARAMS : List FreqParams :=
  [fp 0 0 335000
        [5, 0x5a, 0, 1, 1, 1, 0x05, 4, 0x4a, 0, 0x05, 0, 5, 0, 0, 12, 0x09, 0x04, 7, 2, 0, 0,
          12, 0x09, 0x04, 1, 0, 1, 0, 1, 1, 2, 1, 1],
    fp 0 340001 660000
        [5, 0x5a, 0, 1, 1, 1, 0x05, 4, 0x4a, 0, 0x05, 0, 5, 0, 0, 12, 0x09, 0x04, 7, 2, 0, 0,
          12, 0x09, 0x04, 1, 0, 1, 0, 1, 1, 2, 1, 1],
    fp 0 0 0
        [4, 0x5a, 0, 1, 1, 1, 0x05, 3, 0x4a, 0, 0x05, 0, 5, 0, 0, 12, 0x09, 0x04, 7, 2, 0, 0,
          12, 0x09, 0x04, 1, 0, 1, 0, 1, 1, 1, 1, 1]]

def ISDB_T_FREQ_PARAMS : List FreqParams :=
  [fp 4063 0 340000
        [5, 0x6b, 0, 1, 1, 1, 0x05, 5, 0x4a, 0, 0x05, 1, 12, 0, 2, 15, 0x09, 0x04, 7, 3, 0, 0,
          12, 0x09, 0x04, 1, 0, 1, 0, 1, 0, 2, 2, 1],
    fp 4063 470000 487999
        [6, 0x8c, 0, 1, 1, 1, 0x05, 5, 0x6b, 0, 0x05, 1, 3, 0, 2, 14, 0x09, 0x04, 7, 3, 0, 0,
          12, 0x09, 0x04, 1, 3, 1, 0, 1, 1, 3, 2, 1],
    fp 4063 680000 691999
        [5, 0x5a, 0, 2, 1, 1, 0x07, 6, 0x6b, 0, 0x04, 1, 3, 0, 2, 14, 0x09, 0x05, 7, 3, 0, 0,
          12, 0x09, 0x04, 1, 3, 1, 0, 0, 1, 3, 2, 1],
    fp 4063 692000 697999
        [5, 0x5b, 0, 2, 1, 1, 0x07, 6, 0x6b, 0, 0x04, 1, 10, 0, 3, 12, 0x09, 0x05, 7, 3, 0, 0,
          12, 0x09, 0x04, 1, 3, 1, 0, 0, 1, 2, 2, 1],
    fp 4063 0 0
        [5, 0x5a, 0, 1, 1, 1, 0x05, 6, 0x6b, 0, 0x05, 1, 3, 0, 2, 14, 0x09, 0x04, 7, 3, 0, 0,
          12, 0x09, 0x04, 1, 3, 1, 0, 1, 1, 3, 2, 1],
    fp 0 0 340000
        [5, 0x6b, 0, 1, 1, 1, 0x05, 5, 0x4a, 0, 0x05, 1, 12, 0, 2, 15, 0x0b, 0x06, 7, 3, 0, 0,
          12, 0x09, 0x04, 1, 0, 1, 0, 1, 0, 2, 2, 1],
    fp 0 470000 487999
        [5, 0x5a, 0, 2, 1, 1, 0x07, 6, 0x6b, 0, 0x04, 1, 3, 0, 2, 14, 0x09, 0x05, 7, 3, 0, 0,
          12, 0x09, 0x04, 1, 3, 1, 0, 0, 1, 3, 2, 1],
    fp 0 680000 691999
        [5, 0x5b, 0, 2, 1, 1, 0x07, 6, 0x6b, 0, 0x04, 1, 10, 0, 3, 12, 0x09, 0x05, 7, 3, 0, 0,
          12, 0x09, 0x04, 1, 3, 1, 0, 0, 1, 2, 2, 1],
    fp 0 692000 697999
        [5, 0x5a, 0, 1, 1, 1, 0x05, 6, 0x6b, 0, 0x05, 1, 3, 0, 2, 14, 0x09, 0x04, 7, 3, 0, 0,
          12, 0x09, 0x04, 1, 3, 1, 0, 1, 1, 3, 2, 1],
    fp 0 0 0
        [5, 0x5a, 0, 1, 1, 1, 0x05, 6, 0x6b, 0, 0x05, 1, 3, 0, 2, 14, 0x09, 0x04, 7, 3, 0, 0,
          12, 0x09, 0x04, 1, 3, 1, 0, 1, 1, 3, 2, 1]]

def DTMB_FREQ_PARAMS : List FreqParams :=
  [fp 0 0 100000
        [4, 0x6b, 0, 1, 1, 1, 0x05, 4, 0x4a, 0, 0x05, 1, 10, 3, 3, 9, 0x09, 0x04, 4, 1, 0, 2,
          4, 0x09, 0x04, 0, 0, 0, 0, 1, 0, 1, 0, 0],
    fp 0 0 340000
        [4, 0x6b, 0, 1, 1, 1, 0x05, 4, 0x4a, 0, 0x05, 1, 10, 0, 2, 9, 0x09, 0x04, 4, 1, 0, 2,
          4, 0x09, 0x04, 0, 0, 0, 0, 1, 0, 1, 0, 0],
    fp 0 0 0
        [4, 0x5a, 0, 1, 1, 1, 0x05, 4, 0x4a, 0, 0x05, 1, 6, 3, 2, 9, 0x09, 0x04, 4, 1, 0, 2,
          4, 0x09, 0x04, 0, 3, 0, 0, 1, 0, 0, 0, 0]]

def ATSC_FREQ_PARAMS : List FreqParams :=
  [fp 0 0 340000
        [6, 0x5a, 0, 1, 1, 1, 0x05, 5, 0x6b, 0, 0x05, 1, 12, 2, 2, 12, 0x0b, 0x04, 7, 2, 1, 2,
          6, 0x09, 0x04, 1, 0, 0, 0, 1, 0, 1, 2, 1],
    fp 0 0 0
        [6, 0x5a, 0, 1, 1, 1, 0x05, 5, 0x6b, 0, 0x05, 1, 12, 2, 2, 12, 0x0b, 0x04, 7, 2, 1, 2,
          6, 0x09, 0x04, 1, 3, 0, 0, 1, 0, 1, 2, 1]]

def freqParams : System → List FreqParams
  | .dvbT | .dvbT2 | .dvbT2_1 => DVB_T_T2_FREQ_PARAMS
  | .dvbC => DVB_C_FREQ_PARAMS
  | .j83b => J83B_FREQ_PARAMS
  | .isdbT => ISDB_T_FREQ_PARAMS
  | .dtmb => DTMB_FREQ_PARAMS
  | .atsc => ATSC_FREQ_PARAMS
  | .fm => []

end Tunelith.Px4.R850
