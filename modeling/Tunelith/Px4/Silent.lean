import Tunelith.Px4.Rest
import Tunelith.Px4.PxMlt
import Tunelith.Px4.Single

/-!
# What leaves the GPIO alone

What is done to the chips of a board goes over I2C, which is beside the log of what the GPIO of its
bridges were told: none of it is a write to one.

There is a lemma for each operation of each driver, under its name, `quiet_` where it is of a bus
and `silent_` where it is of a chip; each follows from those of what the operation calls.
-/

namespace Tunelith

open Px4

variable {τ ω α χ : Type}

/-- What is done over the bus leaves what is beside its state alone. -/
structure I2c.Quiet (i2c : I2c (τ × ω)) : Prop where
  write : ∀ addr data, Eff.Leaves Prod.fst (i2c.write addr data)
  writeRead : ∀ addr data n, Eff.Leaves Prod.fst (i2c.writeRead addr data n)

/-- No call of the bus as such knows of what is beside its state. -/
theorem I2c.quiet_beside (i2c : I2c ω) : (i2c.beside τ).Quiet :=
  ⟨fun _ _ _ => rfl, fun _ _ _ _ => rfl⟩

namespace Px4

/-- An operation on a chip that leaves what is beside the state of its bus alone. -/
abbrev Silent (m : OnChip χ (τ × ω) α) : Prop := Eff.Leaves (fun s => s.2.1) m

namespace Silent

/-- A chip keeps to what its bus does. -/
theorem bus {m : Eff Error (τ × ω) α} (h : Eff.Leaves Prod.fst m) :
    Silent (OnChip.bus m : OnChip χ (τ × ω) α) := fun s => h s.2

theorem self : Silent (OnChip.self : OnChip χ (τ × ω) χ) := fun _ => rfl

theorem modifySelf (f : χ → χ) : Silent (OnChip.modifySelf f : OnChip χ (τ × ω) Unit) :=
  fun _ => rfl

end Silent

variable {i2c : I2c (τ × ω)} (hi2c : i2c.Quiet)

include hi2c

/-! ## The TC90522 -/

namespace Tc90522

variable (demod : Tc90522)

/-- One write goes out, or none that is too long for it. -/
theorem quiet_writeRegs (reg : UInt8) (data : List UInt8) :
    Eff.Leaves Prod.fst (demod.writeRegs i2c reg data) := by
  unfold writeRegs
  split
  · exact Eff.Leaves.throw _
  · exact hi2c.write _ _

theorem quiet_writeReg (reg value : UInt8) : Eff.Leaves Prod.fst (demod.writeReg i2c reg value) :=
  quiet_writeRegs hi2c demod reg [value]

theorem quiet_writeMultipleRegs (regs : List (UInt8 × UInt8)) :
    Eff.Leaves Prod.fst (demod.writeMultipleRegs i2c regs) :=
  Eff.Leaves.forEach fun r _ => quiet_writeReg hi2c demod r.1 r.2

/-- What is relayed is a write to the demodulator, the address of the tuner in it. -/
theorem quiet_relayWrite (addr : UInt8) (data : List UInt8) :
    Eff.Leaves Prod.fst (demod.relayWrite i2c addr data) := by
  unfold relayWrite
  split
  · exact Eff.Leaves.throw _
  · exact hi2c.write _ _

/-- So the chips behind the demodulator have a quiet bus if it has. -/
theorem quiet_tunerBus : (demod.tunerBus i2c).Quiet where
  write := quiet_relayWrite hi2c demod
  writeRead addr data n := by
    unfold tunerBus
    dsimp only
    split
    · exact Eff.Leaves.throw _
    · exact (quiet_relayWrite hi2c demod addr data).bind fun _ => hi2c.writeRead _ _ _

theorem quiet_readRegs (reg : UInt8) (n : Nat) :
    Eff.Leaves Prod.fst (demod.readRegs i2c reg n) := by
  unfold readRegs
  split
  · exact Eff.Leaves.throw _
  · exact hi2c.writeRead _ _ _

theorem quiet_readReg (reg : UInt8) : Eff.Leaves Prod.fst (demod.readReg i2c reg) :=
  (quiet_readRegs hi2c demod reg 1).bind fun _ => Eff.Leaves.pure _

theorem quiet_setAgcS (on : Bool) : Eff.Leaves Prod.fst (demod.setAgcS i2c on) :=
  quiet_writeMultipleRegs hi2c demod _

theorem quiet_setAgcT (on : Bool) : Eff.Leaves Prod.fst (demod.setAgcT i2c on) :=
  quiet_writeMultipleRegs hi2c demod _

theorem quiet_getTsidS : Eff.Leaves Prod.fst (demod.getTsidS i2c) :=
  (quiet_readRegs hi2c demod _ 2).bind fun _ => Eff.Leaves.pure _

theorem quiet_setTsidS (tsid : UInt16) : Eff.Leaves Prod.fst (demod.setTsidS i2c tsid) :=
  quiet_writeRegs hi2c demod _ _

theorem quiet_isSignalLockedS : Eff.Leaves Prod.fst (demod.isSignalLockedS i2c) :=
  (quiet_readReg hi2c demod _).bind fun _ => Eff.Leaves.pure _

theorem quiet_isSignalLockedT : Eff.Leaves Prod.fst (demod.isSignalLockedT i2c) := by
  apply Eff.Leaves.bind (quiet_readReg hi2c demod _).attempt
  intro r
  cases r with
  | error e => exact Eff.Leaves.pure _
  | ok b =>
    dsimp only
    split
    · exact Eff.Leaves.pure _
    · apply Eff.Leaves.bind (quiet_readReg hi2c demod _).attempt
      intro r
      cases r <;> exact Eff.Leaves.pure _

theorem quiet_sleepS (sleep : Bool) : Eff.Leaves Prod.fst (demod.sleepS i2c sleep) :=
  quiet_writeMultipleRegs hi2c demod _

theorem quiet_sleepT (sleep : Bool) : Eff.Leaves Prod.fst (demod.sleepT i2c sleep) :=
  quiet_writeReg hi2c demod _ _

theorem quiet_enableTsPinsS (enable : Bool) :
    Eff.Leaves Prod.fst (demod.enableTsPinsS i2c enable) :=
  quiet_writeMultipleRegs hi2c demod _

theorem quiet_enableTsPinsT (enable : Bool) :
    Eff.Leaves Prod.fst (demod.enableTsPinsT i2c enable) :=
  quiet_writeReg hi2c demod _ _

end Tc90522

/-! ## The RT710 -/

namespace Rt710

theorem silent_readReg (reg : Nat) : Silent (readReg i2c reg) := by
  refine Eff.Leaves.bind (Eff.Leaves.bind Eff.Leaves.require fun _ => ?_) fun _ => Eff.Leaves.pure _
  exact Silent.self.bind fun _ => (Silent.bus (hi2c.writeRead _ _ _)).bind fun _ =>
    Eff.Leaves.pure _

theorem silent_writeRegs (reg : Nat) (data : List UInt8) : Silent (writeRegs i2c reg data) :=
  Eff.Leaves.require.bind fun _ => Silent.self.bind fun _ => Silent.bus (hi2c.write _ _)

theorem silent_writeReg (regs : Regs) (reg : Nat) : Silent (writeReg i2c regs reg) :=
  silent_writeRegs hi2c reg _

omit hi2c in
/-- It is asked of what was read before, not of the bus. -/
theorem silent_chipOrErr : Silent (chipOrErr : OnChip Rt710 (τ × ω) ChipType) := by
  apply Eff.Leaves.bind Silent.self
  intro c
  split
  · exact Eff.Leaves.pure _
  · exact Eff.Leaves.throw _

theorem silent_init : Silent (init i2c) := by
  apply Eff.Leaves.bind (Silent.modifySelf _)
  intro _
  apply Eff.Leaves.bind (silent_readReg hi2c _)
  intro _
  exact Silent.modifySelf _

theorem silent_sleep : Silent (sleep i2c) :=
  silent_chipOrErr.bind fun _ => Silent.self.bind fun _ => silent_writeRegs hi2c _ _

theorem silent_isPllLocked : Silent (isPllLocked i2c) :=
  silent_chipOrErr.bind fun _ => (silent_readReg hi2c _).bind fun _ => Eff.Leaves.pure _

theorem silent_setDiv (chip : ChipType) (regs : Regs) (divNum : UInt8) :
    Silent (setDiv i2c chip regs divNum) := by
  apply Eff.Leaves.bind (silent_writeReg hi2c _ _)
  intro _
  cases chip with
  | rt710 => exact Eff.Leaves.pure _
  | rt720 =>
    apply Eff.Leaves.bind (silent_writeReg hi2c _ _)
    intro _
    apply Eff.Leaves.bind (silent_writeReg hi2c _ _)
    intro _
    exact (silent_writeReg hi2c _ _).bind fun _ => Eff.Leaves.pure _

/-- Only the writes of registers go over the bus; the division is worked out beside it. -/
theorem silent_setPll (chip : ChipType) (regs : Regs) (freq : UInt32) :
    Silent (setPll i2c chip regs freq) := by
  apply Eff.Leaves.bind Silent.self
  intro _
  apply Eff.Leaves.bind (Silent.modifySelf _)
  intro _
  apply Eff.Leaves.bind (silent_setDiv hi2c _ _ _)
  intro _
  apply Eff.Leaves.bind (silent_writeReg hi2c _ _)
  intro _
  apply Eff.Leaves.bind (silent_writeReg hi2c _ _)
  intro _
  apply Eff.Leaves.bind (Eff.Leaves.ofExcept _)
  intro _
  apply Eff.Leaves.bind (silent_writeReg hi2c _ _)
  intro _
  apply Eff.Leaves.bind (silent_writeReg hi2c _ _)
  intro _
  exact Eff.Leaves.bind (Silent.modifySelf _) fun _ => Eff.Leaves.pure _

theorem silent_setGain (chip : ChipType) (config : Config) (regs : Regs)
    (freq symbolRate : UInt32) : Silent (setGain i2c chip config regs freq symbolRate) := by
  cases chip with
  | rt710 =>
    apply Eff.Leaves.bind (silent_writeReg hi2c _ _)
    intro _
    apply Eff.Leaves.bind (silent_writeReg hi2c _ _)
    intro _
    apply Eff.Leaves.bind (silent_writeReg hi2c _ _)
    intro _
    exact (silent_writeReg hi2c _ _).bind fun _ => Eff.Leaves.pure _
  | rt720 => exact (silent_writeReg hi2c _ _).bind fun _ => Eff.Leaves.pure _

theorem silent_setBandwidth (chip : ChipType) (regs : Regs) (symbolRate rolloff : UInt32) :
    Silent (setBandwidth i2c chip regs symbolRate rolloff) := by
  unfold setBandwidth
  split
  · exact Eff.Leaves.throw _
  · exact silent_writeReg hi2c _ _

/-- All that a tune does to the chip. -/
theorem silent_setParams (freq symbolRate rolloff : UInt32) :
    Silent (setParams i2c freq symbolRate rolloff) := by
  apply Eff.Leaves.bind silent_chipOrErr
  intro _
  apply Eff.Leaves.bind Eff.Leaves.require
  intro _
  apply Eff.Leaves.bind Silent.self
  intro _
  apply Eff.Leaves.bind (silent_writeRegs hi2c _ _)
  intro _
  apply Eff.Leaves.bind (silent_setPll hi2c _ _ _)
  intro _
  apply Eff.Leaves.bind (silent_setGain hi2c _ _ _ _ _)
  intro _
  exact silent_setBandwidth hi2c _ _ _ _

end Rt710

/-! ## The R850 -/

namespace R850

theorem silent_readRegs (reg len : Nat) : Silent (readRegs i2c reg len) :=
  Silent.self.bind fun _ => (Silent.bus (hi2c.writeRead _ _ _)).bind fun _ => Eff.Leaves.pure _

theorem silent_readReg (reg : Nat) : Silent (readReg i2c reg) :=
  (silent_readRegs hi2c reg 1).bind fun _ => Eff.Leaves.pure _

theorem silent_writeRegs (reg : Nat) (data : List UInt8) : Silent (writeRegs i2c reg data) :=
  Silent.self.bind fun _ => Silent.bus (hi2c.write _ _)

omit hi2c in
theorem silent_initRegs : Silent (initRegs : OnChip R850 (τ × ω) Unit) := Silent.modifySelf _

/-- What was changed in the shadow registers goes out in one write. -/
theorem silent_flush (reg len : Nat) : Silent (flush i2c reg len) :=
  Silent.self.bind fun _ => silent_writeRegs hi2c _ _

/-- Each power tried is a write and a read. -/
theorem silent_xtalPowerLoop (powers : List (Fin 4)) : Silent (xtalPowerLoop i2c powers) := by
  induction powers with
  | nil => exact Eff.Leaves.pure _
  | cons i rest ih =>
    apply Eff.Leaves.bind (Silent.modifySelf _)
    intro _
    apply Eff.Leaves.bind (silent_flush hi2c _ _)
    intro _
    apply Eff.Leaves.bind (silent_readReg hi2c _)
    intro tmp
    split
    · exact Eff.Leaves.pure _
    · exact ih

theorem silent_checkXtalPower : Silent (checkXtalPower i2c) := by
  apply Eff.Leaves.bind silent_initRegs
  intro _
  apply Eff.Leaves.bind Silent.self
  intro _
  apply Eff.Leaves.bind (Silent.modifySelf _)
  intro _
  apply Eff.Leaves.bind (silent_flush hi2c _ _)
  intro _
  exact (silent_xtalPowerLoop hi2c _).bind fun _ => Silent.modifySelf _

/-- Each try is a read, taken or not. -/
theorem silent_identify (tries : Nat) (ret : Except Fault Unit) :
    Silent (identify i2c tries ret) := by
  induction tries generalizing ret with
  | zero => exact Eff.Leaves.pure _
  | succ tries ih =>
    apply Eff.Leaves.bind (silent_readReg hi2c _).attempt
    intro r
    cases r with
    | error e => exact ih _
    | ok tmp =>
      apply Eff.Leaves.bind (Silent.modifySelf _)
      intro _
      apply Eff.Leaves.bind Silent.self
      intro c
      split
      · exact Eff.Leaves.pure _
      · exact ih _

theorem silent_init : Silent (init i2c) := by
  apply Eff.Leaves.bind (Silent.modifySelf _)
  intro _
  apply Eff.Leaves.bind (silent_identify hi2c _ _)
  intro _
  apply Eff.Leaves.bind (Eff.Leaves.ofExcept _)
  intro _
  apply Eff.Leaves.bind (silent_readRegs hi2c _ _)
  intro _
  apply Eff.Leaves.bind (silent_checkXtalPower hi2c)
  intro _
  apply Eff.Leaves.bind (silent_writeRegs hi2c _ _)
  intro _
  exact silent_initRegs.bind fun _ => Silent.modifySelf _

omit hi2c

theorem silent_checkInit : Silent (checkInit : OnChip R850 (τ × ω) Unit) :=
  Silent.self.bind fun _ => Eff.Leaves.require

theorem silent_setSystem (system : SystemConfig) :
    Silent (setSystem system : OnChip R850 (τ × ω) Unit) :=
  silent_checkInit.bind fun _ => Silent.modifySelf _

include hi2c

theorem silent_isPllLocked : Silent (isPllLocked i2c) :=
  silent_checkInit.bind fun _ => (silent_readReg hi2c _).bind fun _ => Eff.Leaves.pure _

omit hi2c in
theorem silent_setMux (loFreq : Nat) (sys : Option System) :
    Silent (setMux loFreq sys : OnChip R850 (τ × ω) Unit) :=
  Silent.self.bind fun _ => Silent.modifySelf _

theorem silent_setPll (loFreq ifFreq : Nat) (sys : Option System) :
    Silent (setPll i2c loFreq ifFreq sys) := by
  apply Eff.Leaves.bind Silent.self
  intro c
  apply Eff.Leaves.bind (Eff.Leaves.ofExcept _)
  intro _
  apply Eff.Leaves.bind (Silent.modifySelf _)
  intro _
  apply Eff.Leaves.bind (silent_flush hi2c _ _)
  intro _
  exact Eff.Leaves.bind (Silent.modifySelf _) fun _ => silent_flush hi2c _ _

theorem silent_readAdcValue : Silent (readAdcValue i2c) :=
  (silent_readReg hi2c _).bind fun _ => Eff.Leaves.pure _

theorem silent_imrTry : Silent (imrTry i2c) :=
  (silent_flush hi2c _ _).bind fun _ => silent_readAdcValue hi2c

theorem silent_imrCheckIqCross : Silent (imrCheckIqCross i2c) := by
  refine Eff.Leaves.bind (Eff.Leaves.forIn fun _ _ => ?_) fun _ => Eff.Leaves.pure _
  apply Eff.Leaves.bind (Silent.modifySelf _)
  intro _
  apply Eff.Leaves.bind (silent_imrTry hi2c)
  intro _
  split <;> exact Eff.Leaves.pure _

omit hi2c in
theorem silent_imrFixOther (imr : Imr) (d : Direction) :
    Silent (imrFixOther imr d : OnChip R850 (τ × ω) (Nat × UInt8)) := by
  cases d <;> exact Eff.Leaves.bind (Silent.modifySelf _) fun _ => Eff.Leaves.pure _

/-- Each point looked at is one try of the mixer. -/
theorem silent_imrCheckIqTree (imr : Imr) (d : Direction) (num : Nat) :
    Silent (imrCheckIqTree i2c imr d num) := by
  apply Eff.Leaves.bind (silent_imrFixOther imr d)
  intro (reg, v0)
  dsimp only
  split
  · exact Eff.Leaves.throw _
  · refine Eff.Leaves.bind (Eff.Leaves.forIn fun _ _ => ?_) fun _ => Eff.Leaves.pure _
    apply Eff.Leaves.bind (Silent.modifySelf _)
    intro _
    apply Eff.Leaves.bind (silent_imrTry hi2c)
    intro _
    split <;> exact Eff.Leaves.pure _

theorem silent_imrCheckIqStep (imr : Imr) (d : Direction) : Silent (imrCheckIqStep i2c imr d) := by
  apply Eff.Leaves.bind (silent_imrFixOther imr d)
  intro v
  refine Eff.Leaves.bind (Eff.Leaves.forIn fun _ _ => ?_) fun _ => Eff.Leaves.pure _
  dsimp only
  split
  · exact Eff.Leaves.pure _
  · apply Eff.Leaves.bind (Silent.modifySelf _)
    intro _
    apply Eff.Leaves.bind (silent_imrTry hi2c)
    intro _
    split
    · exact Eff.Leaves.pure _
    · split <;> exact Eff.Leaves.pure _

theorem silent_imrCheckSection (imr : Imr) : Silent (imrCheckSection i2c imr) := by
  have hsection : ∀ gains : List UInt8, Silent (do
      let mut val : UInt8 := 0xff
      let mut found : Option Imr := none
      let mut first : Option Imr := none
      for gain in gains do
        let point ← imrCheckIqTree i2c { gain := gain, phase := imr.phase } .phase 3
        if first.isNone then first := some point
        if point.value < val then
          val := point.value
          found := some point
      return (found.orElse fun _ => first).getD {}) := by
    intro gains
    refine Eff.Leaves.bind (Eff.Leaves.forIn fun _ _ => ?_) fun _ => Eff.Leaves.pure _
    apply Eff.Leaves.bind (silent_imrCheckIqTree hi2c _ _ _)
    intro point
    dsimp only
    split <;> split <;> exact Eff.Leaves.pure _
  unfold imrCheckSection
  dsimp only
  split
  · apply Eff.Leaves.bind (Eff.Leaves.ofExcept _)
    intro g0
    apply Eff.Leaves.bind (Eff.Leaves.ofExcept _)
    intro g2
    exact (Eff.Leaves.pure _).bind fun g => hsection [g.1, imr.gain, g.2]
  · apply Eff.Leaves.bind (Eff.Leaves.ofExcept _)
    intro g0
    apply Eff.Leaves.bind (Eff.Leaves.ofExcept _)
    intro g2
    exact (Eff.Leaves.pure _).bind fun g => hsection [g.1, imr.gain, g.2]

theorem silent_imrCheckIqcap (imr : Imr) : Silent (imrCheckIqcap i2c imr) := by
  apply Eff.Leaves.bind (Silent.modifySelf _)
  intro _
  apply Eff.Leaves.bind (silent_flush hi2c _ _)
  intro _
  apply Eff.Leaves.bind (Silent.modifySelf _)
  intro _
  refine Eff.Leaves.bind (Eff.Leaves.forIn fun _ _ => ?_) fun _ => Eff.Leaves.pure _
  apply Eff.Leaves.bind (Silent.modifySelf _)
  intro _
  apply Eff.Leaves.bind (silent_flush hi2c _ _)
  intro _
  apply Eff.Leaves.bind (silent_readAdcValue hi2c)
  intro _
  split <;> exact Eff.Leaves.pure _

theorem silent_imrPoint (mixerMode : Fin 2) (mixerAmpLpf : UInt8) (j : Fin 5) :
    Silent (imrPoint i2c mixerMode mixerAmpLpf j) := by
  have hmodify : ∀ (f : Regs → Regs) {α : Type} {m : Unit → OnChip R850 (τ × ω) α},
      (∀ u, Silent (m u)) → Silent (modifyRegs f >>= m) :=
    fun f _ m hm => Eff.Leaves.bind (Silent.modifySelf _) hm
  have hflush : ∀ (reg : Nat) {α : Type} {m : Unit → OnChip R850 (τ × ω) α},
      (∀ u, Silent (m u)) → Silent (flush i2c reg 1 >>= m) :=
    fun reg _ m hm => (silent_flush hi2c _ _).bind hm
  have hlast : Silent (modifyRegs (fun r => r.or 0x29 0xf0) >>= fun _ => flush i2c 0x29 1) :=
    hmodify _ fun _ => silent_flush hi2c _ _
  unfold imrPoint
  refine hmodify _ fun _ => ?_
  split
  · refine (silent_setMux _ _).bind fun _ => (silent_setPll hi2c _ _ _).bind fun _ => ?_
    exact hmodify _ fun _ => hflush _ fun _ => hmodify _ fun _ => hflush _ fun _ =>
      hmodify _ fun _ => hflush _ fun _ => hlast
  · refine (silent_setMux _ _).bind fun _ => (silent_setPll hi2c _ _ _).bind fun _ => ?_
    exact hmodify _ fun _ => hflush _ fun _ => hmodify _ fun _ => hflush _ fun _ =>
      hflush _ fun _ => hlast

theorem silent_imrFull : Silent (imrFull i2c) := by
  apply Eff.Leaves.bind (silent_imrCheckIqCross hi2c)
  intro v
  apply Eff.Leaves.bind (silent_imrCheckIqStep hi2c _ _)
  intro _
  apply Eff.Leaves.bind (silent_imrCheckIqTree hi2c _ _ _)
  intro _
  exact silent_imrCheckIqTree hi2c _ _ _

theorem silent_calibrateImr : Silent (calibrateImr i2c) := by
  apply Eff.Leaves.bind Silent.self
  intro c
  apply Eff.Leaves.bind Silent.self
  intro c'
  refine Eff.Leaves.bind (Eff.Leaves.forIn fun j _ => ?_) fun _ => Silent.modifySelf _
  apply Eff.Leaves.bind (silent_imrPoint hi2c _ _ _)
  intro _
  apply Eff.Leaves.bind Silent.self
  intro c''
  -- A point begins from nothing, or from what was found for another.
  dsimp only
  split
  · refine (silent_imrFull hi2c).bind fun imr => ?_
    refine (silent_imrCheckSection hi2c _).bind fun _ => ?_
    refine (silent_imrCheckIqcap hi2c _).bind fun _ => ?_
    apply Eff.Leaves.bind (Silent.modifySelf _)
    intro _
    apply Eff.Leaves.bind (Silent.modifySelf _)
    intro _
    exact (silent_flush hi2c _ _).bind fun _ => Eff.Leaves.pure _
  · refine (Eff.Leaves.pure _).bind fun imr => ?_
    refine (silent_imrCheckSection hi2c _).bind fun _ => ?_
    refine (silent_imrCheckIqcap hi2c _).bind fun _ => ?_
    exact Eff.Leaves.bind (Silent.modifySelf _) fun _ => Eff.Leaves.pure _

theorem silent_calibrateLpf (ifFreq : Nat) (bw gap : UInt8) :
    Silent (calibrateLpf i2c ifFreq bw gap) := by
  have hput : ∀ (f : Regs → Regs) (reg : Nat) {α : Type} {m : UInt8 → OnChip R850 (τ × ω) α},
      (∀ v, Silent (m v)) → Silent (modifyRegs f >>= fun _ => flush i2c reg 1 >>= fun _ =>
        readAdcValue i2c >>= m) :=
    fun f _ _ m hm => Eff.Leaves.bind (Silent.modifySelf _) fun _ =>
      (silent_flush hi2c _ _).bind fun _ => (silent_readAdcValue hi2c).bind hm
  -- What comes after the value of the higher filter, which is found only for a high frequency.
  have hhigh : ∀ (p : UInt8 → Prop) [DecidablePred p] (lo : Nat)
      {m : UInt8 → OnChip R850 (τ × ω) Lpf},
      (∀ v, Silent (m v)) → Silent (if 9999 < ifFreq then
        setPll i2c 63500 8500 none >>= fun _ => readAdcValue i2c >>= fun v =>
          if p v then setPll i2c lo ifFreq none >>= fun _ => m v
          else Eff.throw lpfFailed >>= fun (_ : PUnit) => m v
        else m 0) := by
    intro p _ lo m hm
    split
    · refine (silent_setPll hi2c _ _ _).bind fun _ => (silent_readAdcValue hi2c).bind fun v => ?_
      split
      · exact (silent_setPll hi2c _ _ _).bind fun _ => hm v
      · exact (Eff.Leaves.throw _).bind fun _ => hm v
    · exact hm 0
  unfold calibrateLpf
  apply Eff.Leaves.bind (Eff.Leaves.ofExcept _)
  intro lo
  apply Eff.Leaves.bind (silent_setPll hi2c _ _ _)
  intro _
  refine Eff.Leaves.bind (Eff.Leaves.forIn fun _ _ => hput _ _ fun v => ?_) fun val => ?_
  · split <;> exact Eff.Leaves.pure _
  refine hhigh _ _ fun val3 => ?_
  refine Eff.Leaves.bind (Eff.Leaves.forIn fun _ _ => hput _ _ fun v => hput _ _ fun w => ?_)
    fun x => ?_
  · split <;> exact Eff.Leaves.pure _
  refine Eff.Leaves.bind (Eff.Leaves.forIn fun i y => hput _ _ fun v => ?_) fun _ =>
    Eff.Leaves.pure _
  -- The first value is what the others are held against.
  dsimp only
  repeat' split
  all_goals first
    | exact Eff.Leaves.pure _
    | exact hput _ _ fun w => by split <;> exact Eff.Leaves.pure _
    | exact (Eff.Leaves.throw _).bind fun _ => hput _ _ fun w => by
        split <;> exact Eff.Leaves.pure _

theorem silent_changeSystem (c : R850) (sys : SystemConfig) :
    Silent (changeSystem i2c c sys) := by
  unfold changeSystem
  split
  · exact Eff.Leaves.throw _
  · refine Eff.Leaves.bind ?_ fun lpf => ?_
    · unfold lpfOf
      split
      · exact Eff.Leaves.pure _
      · exact Eff.Leaves.bind (Silent.modifySelf _) fun _ => silent_calibrateLpf hi2c _ _ _
    · apply Eff.Leaves.bind silent_initRegs
      intro _
      exact Eff.Leaves.bind (Silent.modifySelf _) fun _ => Silent.modifySelf _

theorem silent_setSystemParams : Silent (setSystemParams i2c) := by
  apply Eff.Leaves.bind Silent.self
  intro c
  split
  · exact Eff.Leaves.throw _
  · refine Eff.Leaves.bind (Eff.Leaves.when ?_) fun _ => ?_
    · exact Eff.Leaves.bind (Silent.modifySelf _) fun _ => silent_calibrateImr hi2c
    · exact (Eff.Leaves.when (silent_changeSystem hi2c _ _)).bind fun _ => Eff.Leaves.pure _

theorem silent_setSystemFrequency (sys : SystemConfig) (rfFreq : Nat) :
    Silent (setSystemFrequency i2c sys rfFreq) := by
  unfold setSystemFrequency
  split
  · exact Eff.Leaves.throw _
  · apply Eff.Leaves.bind Silent.self
    intro c
    apply Eff.Leaves.bind (Eff.Leaves.ofExcept _)
    intro _
    apply Eff.Leaves.bind (Eff.Leaves.ofExcept _)
    intro _
    apply Eff.Leaves.bind (Silent.modifySelf _)
    intro _
    exact (silent_setMux _ _).bind fun _ => silent_setPll hi2c _ _ _

/-- Both of its parts are: the parameters of the system, and its frequency. -/
theorem silent_setFrequency (freq : Nat) : Silent (setFrequency i2c freq) := by
  apply Eff.Leaves.bind silent_checkInit
  intro _
  apply Eff.Leaves.bind Eff.Leaves.require
  intro _
  exact (silent_setSystemParams hi2c).bind fun _ => silent_setSystemFrequency hi2c _ _

end R850

/-! ## The CXD2856ER -/

namespace Cxd2856er

variable (demod : Cxd2856er)

theorem quiet_writeMask (reg value mask : UInt8) :
    Eff.Leaves Prod.fst (demod.writeMask i2c reg value mask) := by
  unfold writeMask
  split
  · exact hi2c.write _ _
  · exact (hi2c.writeRead _ _ _).bind fun _ => hi2c.write _ _

/-- Each of the operations is a write, a write under a mask, or a pause. -/
theorem quiet_run (ops : List Op) : Eff.Leaves Prod.fst (demod.run i2c ops) := by
  apply Eff.Leaves.forEach
  intro op _
  cases op with
  | x reg value => exact hi2c.write _ _
  | t reg value => exact hi2c.write _ _
  | m reg value mask => exact quiet_writeMask hi2c demod _ _ _
  | b reg data => exact hi2c.write _ _
  | sleepMs ms => exact Eff.Leaves.pure _

theorem quiet_setup (ops : List (UInt8 × UInt8 × UInt8)) :
    Eff.Leaves Prod.fst (demod.setup i2c ops) :=
  Eff.Leaves.forEach fun _ _ => quiet_writeMask hi2c demod _ _ _

theorem quiet_setTsPins (on : Bool) : Eff.Leaves Prod.fst (demod.setTsPins i2c on) := by
  apply Eff.Leaves.bind (hi2c.write _ _)
  intro _
  apply Eff.Leaves.bind (hi2c.writeRead _ _ _)
  intro _
  exact (hi2c.write _ _).bind fun _ => quiet_writeMask hi2c demod _ _ _

theorem silent_init : Silent (init i2c) := by
  apply Eff.Leaves.bind (Silent.modifySelf _)
  intro _
  exact Silent.self.bind fun c => Silent.bus (quiet_run hi2c c _)

theorem silent_sleep : Silent (sleep i2c) := by
  apply Eff.Leaves.bind Silent.self
  intro c
  split
  · exact Eff.Leaves.pure _
  · apply Eff.Leaves.bind (Silent.modifySelf _)
    intro _
    apply Eff.Leaves.bind (Silent.bus (quiet_run hi2c c _))
    intro _
    exact (Silent.bus (quiet_setTsPins hi2c c _)).bind fun _ => Silent.bus (quiet_run hi2c c _)

/-- It is put to sleep first, whatever it is awake for. -/
theorem silent_wakeup (mode : Mode) : Silent (wakeup i2c mode) := by
  apply Eff.Leaves.bind (silent_sleep hi2c)
  intro _
  apply Eff.Leaves.bind Silent.self
  intro c
  apply Eff.Leaves.bind (Silent.bus (quiet_run hi2c c _))
  intro _
  apply Eff.Leaves.bind (Silent.bus (quiet_run hi2c c _))
  intro _
  apply Eff.Leaves.bind (Silent.bus (quiet_setTsPins hi2c c _))
  intro _
  exact Silent.modifySelf _

theorem quiet_setTsid (tsid : UInt16) : Eff.Leaves Prod.fst (demod.setTsid i2c tsid) :=
  (hi2c.write _ _).bind fun _ => hi2c.write _ _

theorem quiet_lockStatus : Eff.Leaves Prod.fst (demod.lockStatus i2c) := by
  unfold lockStatus
  split
  · exact (hi2c.write _ _).bind fun _ => (hi2c.writeRead _ _ _).bind fun _ => Eff.Leaves.pure _
  · exact (hi2c.write _ _).bind fun _ => (hi2c.writeRead _ _ _).bind fun _ => Eff.Leaves.pure _

end Cxd2856er

/-! ## The CXD2858ER -/

namespace Cxd2858er

theorem silent_write (reg : UInt8) (data : List UInt8) : Silent (write i2c reg data) :=
  Silent.bus (hi2c.write _ _)

theorem silent_writes (regs : List (UInt8 × List UInt8)) : Silent (writes i2c regs) :=
  Eff.Leaves.forEach fun _ _ => silent_write hi2c _ _

theorem silent_read (reg : UInt8) : Silent (read i2c reg) :=
  (Silent.bus (hi2c.writeRead _ _ _)).bind fun _ => Eff.Leaves.pure _

/-- The gate is closed again, whatever comes of what is done through it. -/
theorem silent_gated (demod : Cxd2856er) {m : OnChip Cxd2858er (τ × ω) Unit} (hm : Silent m) :
    Silent (gated i2c demod m) := by
  apply Eff.Leaves.bind (Silent.bus (hi2c.write _ _))
  intro _
  apply Eff.Leaves.bind hm.attempt
  intro result
  apply Eff.Leaves.bind (Eff.Leaves.attempt (Silent.bus (hi2c.write _ _)))
  intro closed
  cases result with
  | ok _ => exact Eff.Leaves.ofExcept _
  | error e => exact Eff.Leaves.throw _

theorem silent_init (demod : Cxd2856er) : Silent (init i2c demod) := by
  apply Eff.Leaves.bind (Silent.modifySelf _)
  intro _
  apply silent_gated hi2c
  apply Eff.Leaves.bind (silent_writes hi2c _)
  intro _
  apply Eff.Leaves.bind (silent_read hi2c _)
  intro _
  apply Eff.Leaves.bind Eff.Leaves.require
  intro _
  apply Eff.Leaves.bind (silent_write hi2c _ _)
  intro _
  exact (silent_read hi2c _).bind fun _ => silent_writes hi2c _

theorem silent_stop : Silent (stop i2c) := by
  apply Eff.Leaves.bind Silent.self
  intro c
  apply Eff.Leaves.bind (Silent.modifySelf _)
  intro _
  split
  · apply Eff.Leaves.bind (silent_write hi2c _ _)
    intro _
    refine Eff.Leaves.bind ((silent_read hi2c _).bind fun _ => silent_write hi2c _ _) fun _ => ?_
    exact silent_writes hi2c _
  · exact silent_writes hi2c _
  · exact Eff.Leaves.pure _

theorem silent_term (demod : Cxd2856er) : Silent (term i2c demod) :=
  Silent.self.bind fun _ => Eff.Leaves.when (silent_gated hi2c demod (silent_stop hi2c))

theorem silent_setT (khz : UInt32) : Silent (setT i2c khz) := by
  apply Eff.Leaves.bind Silent.self
  intro _
  apply Eff.Leaves.bind (Eff.Leaves.when (silent_stop hi2c))
  intro _
  apply Eff.Leaves.bind (silent_writes hi2c _)
  intro _
  refine Eff.Leaves.bind ((silent_read hi2c _).bind fun _ => silent_write hi2c _ _) fun _ => ?_
  exact (silent_writes hi2c _).bind fun _ => Silent.modifySelf _

theorem silent_setS (khz : UInt32) : Silent (setS i2c khz) := by
  apply Eff.Leaves.bind Silent.self
  intro _
  apply Eff.Leaves.bind (Eff.Leaves.when (silent_stop hi2c))
  intro _
  exact (silent_writes hi2c _).bind fun _ => Silent.modifySelf _

end Cxd2858er

end Px4

end Tunelith
