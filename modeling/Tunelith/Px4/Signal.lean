import Tunelith.Lib.Halving
import Tunelith.Px4.Tuner

/-!
# The signal of a tuner

What the demodulators report of the signal: whether there is a lock, and a raw C/N. The TC90522
reports in the scale of the PT series, and the CXD2856ER is mapped onto it by a table, looked up by
halving. What a PT value stands for in dB is a `Scale`.

* `lookup_brackets` — the lookup ends at the row that the raw value is in, and a greater raw value
  never stands for a worse C/N.
-/

namespace Tunelith.Px4

/-! ## The tables -/

namespace Cnr

/-- ISDB-T: the raw value of the CXD2856ER, ascending, and its PT value. -/
def CXD_ISDB_T : List (Nat × Nat) :=
  [(0x51, 0xb19ff), (0x5a, 0x9eecd), (0x65, 0x8cd8b), (0x72, 0x7c302), (0x7f, 0x6f132),
    (0x8f, 0x6250d), (0xa0, 0x57a1c), (0xb4, 0x4db45), (0xc9, 0x45725), (0xe2, 0x3da59),
    (0xfd, 0x36f9d), (0x11c, 0x30e58), (0x13f, 0x2b76e), (0x166, 0x26abb), (0x191, 0x22794),
    (0x1c2, 0x1eac7), (0x1f9, 0x1b4a8), (0x237, 0x1844d), (0x27c, 0x159a2), (0x2ca, 0x13365),
    (0x321, 0x11196), (0x382, 0xf3ae), (0x3f0, 0xd8cb), (0x46b, 0xc0fd), (0x4f4, 0xabf9),
    (0x58f, 0x9923), (0x63d, 0x8868), (0x700, 0x7995), (0x7da, 0x6c78), (0x8cf, 0x60cf),
    (0x9e2, 0x5675), (0xb17, 0x4d43), (0xc71, 0x4520), (0xdf6, 0x3de4), (0xfaa, 0x377b),
    (0x1193, 0x31cc), (0x13b8, 0x2cbf), (0x1620, 0x2843), (0x18d3, 0x2447), (0x1bdb, 0x20bb),
    (0x1f41, 0x1d95), (0x2311, 0x1ac6), (0x2758, 0x1846), (0x2c25, 0x160a), (0x3188, 0x140c),
    (0x3793, 0x1243), (0x3e5b, 0x10ab), (0x45f7, 0xf3c), (0x4e80, 0xdf3)]

/-- ISDB-S: the raw value of the CXD2856ER, descending, and its PT value. -/
def CXD_ISDB_S : List (Nat × Nat) :=
  [(0x5af, 0x9546), (0x597, 0x94d9), (0x57e, 0x946b), (0x567, 0x93fc), (0x550, 0x938c),
    (0x539, 0x931b), (0x522, 0x92a8), (0x50c, 0x9235), (0x4f6, 0x91c1), (0x4e1, 0x914b),
    (0x4cc, 0x90d5), (0x4b6, 0x905d), (0x4a1, 0x8fe4), (0x48c, 0x8f6a), (0x477, 0x8eef),
    (0x463, 0x8e72), (0x44f, 0x8df5), (0x43c, 0x8d76), (0x428, 0x8cf5), (0x416, 0x8c74),
    (0x403, 0x8bf1), (0x3ef, 0x8b6c), (0x3dc, 0x8ae7), (0x3c9, 0x8a60), (0x3b6, 0x89d7),
    (0x3a4, 0x894d), (0x392, 0x88c2), (0x381, 0x8835), (0x36f, 0x87a6), (0x35f, 0x8716),
    (0x34e, 0x8685), (0x33d, 0x85f1), (0x32d, 0x855d), (0x31d, 0x84c6), (0x30d, 0x842e),
    (0x2fd, 0x8394), (0x2ee, 0x82f9), (0x2df, 0x825b), (0x2d0, 0x81bc), (0x2c2, 0x811c),
    (0x2b4, 0x8079), (0x2a6, 0x7fd5), (0x299, 0x7f2f), (0x28c, 0x7e87), (0x27f, 0x7ddd),
    (0x272, 0x7d31), (0x265, 0x7c83), (0x259, 0x7bd4), (0x24d, 0x7b22), (0x241, 0x7a6f),
    (0x236, 0x79ba), (0x22b, 0x7903), (0x220, 0x784a), (0x215, 0x778f), (0x20a, 0x76d3),
    (0x200, 0x7614), (0x1f6, 0x7554), (0x1ec, 0x7492), (0x1e2, 0x73ce), (0x1d8, 0x7308),
    (0x1cf, 0x7241), (0x1c6, 0x7178), (0x1bc, 0x70ad), (0x1b3, 0x6fe1), (0x1aa, 0x6f13),
    (0x1a2, 0x6e44), (0x199, 0x6d74), (0x191, 0x6ca2), (0x189, 0x6bcf), (0x181, 0x6afb),
    (0x179, 0x6a26), (0x171, 0x6950), (0x169, 0x687a), (0x161, 0x67a2), (0x15a, 0x66ca),
    (0x153, 0x65f1), (0x14b, 0x6517), (0x144, 0x643e), (0x13d, 0x6364), (0x137, 0x628a),
    (0x130, 0x61b0), (0x12a, 0x60d6), (0x124, 0x5ffc), (0x11e, 0x5f22), (0x118, 0x5e49),
    (0x112, 0x5d70), (0x10c, 0x5c98), (0x107, 0x5bc0), (0x101, 0x5ae9), (0xfc, 0x5a13),
    (0xf7, 0x593e), (0xf2, 0x5869), (0xec, 0x5796), (0xe7, 0x56c4), (0xe2, 0x55f3), (0xdd, 0x5523),
    (0xd8, 0x5454), (0xd4, 0x5387), (0xcf, 0x52bb), (0xca, 0x51f0), (0xc6, 0x5126), (0xc2, 0x505e),
    (0xbe, 0x4f98), (0xb9, 0x4ed3), (0xb5, 0x4e0f), (0xb1, 0x4d4d), (0xae, 0x4c8d), (0xaa, 0x4bce),
    (0xa6, 0x4b10), (0xa3, 0x4a55), (0x9f, 0x499a), (0x9b, 0x48e1), (0x98, 0x482a), (0x95, 0x4774),
    (0x91, 0x46c0), (0x8e, 0x460d), (0x8b, 0x455c), (0x88, 0x44ac), (0x85, 0x43fe), (0x82, 0x4352),
    (0x7f, 0x42a6), (0x7c, 0x41fd), (0x7a, 0x4154), (0x77, 0x40ae), (0x74, 0x4008), (0x72, 0x3f64),
    (0x6f, 0x3ec2), (0x6d, 0x3e21), (0x6b, 0x3d81), (0x68, 0x3ce3), (0x66, 0x3c46), (0x64, 0x3baa),
    (0x61, 0x3b10), (0x5f, 0x3a77), (0x5d, 0x39e0), (0x5b, 0x394a), (0x59, 0x38b5), (0x57, 0x3821),
    (0x55, 0x378f), (0x53, 0x36fe), (0x51, 0x366e), (0x4f, 0x35e0), (0x4e, 0x3553), (0x4c, 0x34c7),
    (0x4a, 0x343c), (0x49, 0x33b3), (0x47, 0x332b), (0x45, 0x32a4), (0x44, 0x321e), (0x42, 0x319a),
    (0x41, 0x3116), (0x3f, 0x3094), (0x3e, 0x3014), (0x3c, 0x2f94), (0x3b, 0x2f16), (0x3a, 0x2e99),
    (0x38, 0x2e1d), (0x37, 0x2da2), (0x36, 0x2d29), (0x34, 0x2cb0), (0x33, 0x2c39), (0x32, 0x2bc4),
    (0x31, 0x2b4f), (0x30, 0x2adc), (0x2f, 0x2a6a), (0x2e, 0x29f9), (0x2d, 0x2989), (0x2c, 0x291a),
    (0x2b, 0x28ad), (0x2a, 0x2841), (0x29, 0x27d6), (0x28, 0x276d), (0x27, 0x2705), (0x26, 0x269e),
    (0x25, 0x2638), (0x24, 0x25d3), (0x23, 0x2570), (0x22, 0x24ad), (0x21, 0x244d), (0x20, 0x23ef),
    (0x1f, 0x2336), (0x1e, 0x22db), (0x1d, 0x222a), (0x1c, 0x217d), (0x1b, 0x20d5), (0x1a, 0x2083),
    (0x19, 0x1fe3), (0x18, 0x1f94), (0x17, 0x1efb), (0x16, 0x1e66), (0x15, 0x1dd6), (0x14, 0x1d90)]

/-- The C/N in dB, a `κ`, of a PT value of either system. -/
structure Scale (κ : Type) where
  isdbT : Nat → κ
  isdbS : Nat → κ

/-- `partition_point(..).saturating_sub(1)` -/
def row (table : List (Nat × Nat)) (p : Nat → Bool) : Nat :=
  Halving.turn (fun v => p v.1) table - 1

/-- The PT value of the row. -/
def value (table : List (Nat × Nat)) (p : Nat → Bool) : Nat := (table.getD (row table p) (0, 0)).2

def ptT (raw : UInt16) : Nat := value CXD_ISDB_T fun v => v ≤ raw.toNat

def ptS (raw : UInt16) : Nat := value CXD_ISDB_S fun v => raw.toNat ≤ v

variable {κ : Type} (scale : Scale κ)

def cxdIsdbT (raw : UInt16) : κ := scale.isdbT (ptT raw)

def cxdIsdbS (raw : UInt16) : κ := scale.isdbS (ptS raw)

/-! ## The lookup -/

variable {table : List (Nat × Nat)} {p p' : Nat → Bool}

theorem row_lt (hne : table ≠ []) (h : Halving.Split (fun v : Nat × Nat => p v.1) table) :
    row table p < table.length := by
  have := List.length_pos_iff.2 hne
  have := Halving.turn_le h
  unfold row
  omega

/-- The row is there, its raw value is reached unless it is the first, and that of none after it
is. -/
theorem value_row (hne : table ≠ []) (h : Halving.Split (fun v : Nat × Nat => p v.1) table) :
    ∃ i k, table[i]? = some (k, value table p) ∧ (i = 0 ∨ p k = true) ∧
      ∀ j k' v', i < j → table[j]? = some (k', v') → p k' = false := by
  obtain ⟨hlow, hhigh⟩ := Halving.turn_spec h
  have hlt := row_lt hne h
  refine ⟨row table p, table[row table p].1, ?_, ?_, fun j k' v' hj hrow => ?_⟩
  · rw [value, List.getD_eq_getElem?_getD, List.getElem?_eq_getElem hlt, Option.getD_some]
  · by_cases h0 : Halving.turn (fun v : Nat × Nat => p v.1) table = 0
    · exact .inl (by rw [row, h0])
    · have := hlow (row table p) (by unfold row; omega)
      rw [List.getElem?_eq_getElem hlt] at this
      exact .inr this
  · have := hhigh j (by unfold row at hj; omega)
    rwa [hrow] at this

/-- The values go down a table, so the more raw values are reached, the less is the value. -/
theorem value_anti (hne : table ≠ []) (hv : table.IsChain fun a b => b.2 ≤ a.2)
    (h : Halving.Split (fun v : Nat × Nat => p v.1) table)
    (h' : Halving.Split (fun v : Nat × Nat => p' v.1) table)
    (hp : ∀ k, p k = true → p' k = true) : value table p' ≤ value table p := by
  have : IsTrans (Nat × Nat) fun a b => b.2 ≤ a.2 := ⟨fun _ _ _ hab hbc => Nat.le_trans hbc hab⟩
  have hpair := List.isChain_iff_pairwise.1 hv
  have hrow : row table p ≤ row table p' :=
    Nat.sub_le_sub_right (Halving.turn_mono h h' fun a => hp a.1) 1
  have hlt' := row_lt hne h'
  have hlt := row_lt hne h
  rw [value, value, List.getD_eq_getElem?_getD, List.getD_eq_getElem?_getD,
    List.getElem?_eq_getElem hlt, List.getElem?_eq_getElem hlt', Option.getD_some, Option.getD_some]
  obtain hlt | heq := Nat.lt_or_eq_of_le hrow
  · exact List.pairwise_iff_getElem.1 hpair _ _ _ _ hlt
  · simp only [heq]
    exact Nat.le_refl _

/-! The tables are in order. -/

theorem chain_T : CXD_ISDB_T.IsChain fun a b => a.1 < b.1 ∧ b.2 ≤ a.2 := by decide

set_option maxRecDepth 2000 in
theorem chain_S : CXD_ISDB_S.IsChain fun a b => b.1 < a.1 ∧ b.2 ≤ a.2 := by decide

theorem split_T (raw : UInt16) :
    Halving.Split (fun v : Nat × Nat => decide (v.1 ≤ raw.toNat)) CXD_ISDB_T := by
  refine Halving.split_of_isChain chain_T fun a b hab hb => ?_
  simp only [decide_eq_true_eq] at hb ⊢
  omega

theorem split_S (raw : UInt16) :
    Halving.Split (fun v : Nat × Nat => decide (raw.toNat ≤ v.1)) CXD_ISDB_S := by
  refine Halving.split_of_isChain chain_S fun a b hab hb => ?_
  simp only [decide_eq_true_eq] at hb ⊢
  omega

/-- **The lookup of a raw C/N.** Whatever the raw value, the lookup ends at a row of the table: the
last one whose raw value it has reached, or the first; and the greater the raw value, the less is
the PT value for ISDB-T and the greater for ISDB-S. -/
theorem lookup_brackets (raw : UInt16) :
    (∃ i k, CXD_ISDB_T[i]? = some (k, ptT raw) ∧ (i = 0 ∨ k ≤ raw.toNat) ∧
      ∀ j k' v', i < j → CXD_ISDB_T[j]? = some (k', v') → raw.toNat < k') ∧
    (∃ i k, CXD_ISDB_S[i]? = some (k, ptS raw) ∧ (i = 0 ∨ raw.toNat ≤ k) ∧
      ∀ j k' v', i < j → CXD_ISDB_S[j]? = some (k', v') → k' < raw.toNat) ∧
    ∀ raw', raw ≤ raw' → ptT raw' ≤ ptT raw ∧ ptS raw ≤ ptS raw' := by
  have hT : CXD_ISDB_T ≠ [] := List.cons_ne_nil _ _
  have hS : CXD_ISDB_S ≠ [] := List.cons_ne_nil _ _
  refine ⟨?_, ?_, fun raw' hraw => ⟨?_, ?_⟩⟩
  · simpa [ptT] using value_row (p := fun v => v ≤ raw.toNat) hT (split_T raw)
  · simpa [ptS] using value_row (p := fun v => raw.toNat ≤ v) hS (split_S raw)
  · refine value_anti hT (chain_T.imp fun _ _ h => h.2) (split_T raw) (split_T raw') fun k hk => ?_
    simp only [decide_eq_true_eq] at hk ⊢
    exact hk.trans (UInt16.le_iff_toNat_le.1 hraw)
  · refine value_anti hS (chain_S.imp fun _ _ h => h.2) (split_S raw') (split_S raw) fun k hk => ?_
    simp only [decide_eq_true_eq] at hk ⊢
    exact (UInt16.le_iff_toNat_le.1 hraw).trans hk

end Cnr

structure Signal (κ : Type) where
  /-- Whether the tuner is locked on the signal. -/
  locked : Bool := false
  /-- The carrier-to-noise ratio in dB, if the tuner reports one. -/
  cnrDb : Option κ := none

/-! ## What the demodulators report -/

variable {ω κ : Type} (scale : Cnr.Scale κ)

/-- The raw C/N value the device model converts. -/
def Cxd2856er.cnrRaw (demod : Cxd2856er) (i2c : I2c ω) : Eff Error ω UInt16 := do
  if demod.mode = some .t then
    demod.write i2c 0x01 [0x01]
    demod.write i2c 0x00 [0x60]
    let raw ← demod.read i2c 0x28 2
    demod.write i2c 0x01 [0x00]
    return UInt16.ofNat (BigEndian.ofBytes raw.toList)
  else
    demod.write i2c 0x00 [0xa1]
    let raw ← demod.read i2c 0x10 3
    return if raw[0] &&& 0x01 ≠ 0 then ((raw[1] &&& 0x1f).toUInt16 <<< 8) ||| raw[2].toUInt16
      else 0x5af

def PxMlt.signal {n : Nat} (ops : Ops ω) (index : Fin n) (system : System) :
    OnChip (PxMlt n) ω (Signal κ) := do
  let chip := (← OnChip.self).chips index
  let i2c := ops.i2c chip.i2cBus
  let status ← OnChip.bus (chip.demod.lockStatus i2c)
  let raw ← OnChip.bus (chip.demod.cnrRaw i2c)
  let mode ← Eff.ofExcept ((PxMlt.modeOf system).mapError Fault.own)
  return { locked := status.1, cnrDb := some (match mode with
    | .t => Cnr.cxdIsdbT scale raw
    | .s => Cnr.cxdIsdbS scale raw) }

/-- A TC90522 for ISDB-T. -/
def Tc90522.signalT (demod : Tc90522) (i2c : I2c ω) : Eff Error ω (Signal κ) := do
  let locked ← demod.isSignalLockedT i2c
  let raw ← demod.getCndatT i2c
  return { locked, cnrDb := some (scale.isdbT raw) }

/-- A TC90522 for ISDB-S. -/
def Tc90522.signalS (demod : Tc90522) (i2c : I2c ω) : Eff Error ω (Signal κ) := do
  let locked ← demod.isSignalLockedS i2c
  let raw ← demod.getCnS i2c
  return { locked, cnrDb := some (scale.isdbS raw) }

def Half.signal (ops : Ops ω) (index : Fin 4) : OnChip Half ω (Signal κ) := do
  let chip := (← OnChip.self).chips index
  match chip.tuner with
  | .t _ => OnChip.bus (chip.demod.signalT scale (ops.i2c 2))
  | .s _ => OnChip.bus (chip.demod.signalS scale (ops.i2c 2))

def Single.signal (ops : Ops ω) (system : System) : OnChip Single ω (Signal κ) := do
  let i2c := ops.i2c Single.I2C_BUS
  match system with
  | .isdbT => do OnChip.bus ((← OnChip.self).demodT.signalT scale i2c)
  | _ => do OnChip.bus ((← Single.demodSOrErr system).signalS scale i2c)

/-- A tuner that is not tuned has no signal; `board` is what its board reports. -/
def BoardTuner.signal {ι σ : Type} (board : ι → System → Eff Fault σ (Signal κ)) (index : ι) :
    Eff Fault (BoardTuner × σ) (Signal κ) := do
  match (← Eff.get).1.system with
  | none => return {}
  | some system => BoardTuner.onShared (board index system)

end Tunelith.Px4
