import Tunelith.Lib.Transition
import Tunelith.Px4.R850Bits
import Tunelith.Px4.R850Pll

/-!
# What earlier tuning leaves in an R850

The registers start anew as the system changes, and from then on each frequency is tuned on top of
what the last one left. What the chip holds is kept beside what is behind its bus (`I2c.holding`).

* `no_leftovers` — whatever was tuned before, and over whatever bus, two R850s that are set up
  alike hold the same once they are tuned to one frequency, but for the clock of the gain control.
-/

namespace Tunelith

open Px4

/-! ## The chip -/

/-- What the registers become as bytes are written from one on; the first byte says which. -/
def Px4.Regs.written (r : Regs) : List UInt8 → Regs
  | [] => r
  | reg :: data => fun j =>
    if reg.toNat ≤ j ∧ j < reg.toNat + data.length then data.getD (j - reg.toNat) 0 else r j

/-- The same bus, with the registers of the chip at `addr` on it. -/
def I2c.holding {ω : Type} (i2c : I2c ω) (addr : UInt8) : I2c (Regs × ω) where
  write a data s :=
    let (r, w) := i2c.write a data s.2
    (r, if a = addr ∧ r.isOk then s.1.written data else s.1, w)
  writeRead a data n s :=
    let (r, w) := i2c.writeRead a data n s.2
    (r, s.1, w)

namespace Px4.R850

variable {ω : Type} (i2c : I2c ω)

/-- What is flushed is what the chip then holds. -/
theorem flush_held {addr : UInt8} {reg len : Nat} {s t : R850 × Regs × ω}
    (ha : s.1.i2cAddr = addr) (hreg : reg < 256)
    (h : flush (i2c.holding addr) reg len s = (.ok (), t)) :
    t.1 = s.1 ∧ ∀ j, t.2.1 j = if reg ≤ j ∧ j < reg + len then s.1.regs j else s.2.1 j := by
  have hreg' : (UInt8.ofNat reg).toNat = reg := by
    rw [UInt8.toNat_ofNat']
    exact Nat.mod_eq_of_lt hreg
  let data := UInt8.ofNat reg :: s.1.regs.slice reg len
  have hrun : flush (i2c.holding addr) reg len s =
      ((i2c.write s.1.i2cAddr data s.2.2).1.mapError Fault.bus, s.1,
        if s.1.i2cAddr = addr ∧ (i2c.write s.1.i2cAddr data s.2.2).1.isOk then
          s.2.1.written data else s.2.1, (i2c.write s.1.i2cAddr data s.2.2).2) := rfl
  rw [hrun] at h
  have hok : (i2c.write s.1.i2cAddr data s.2.2).1 = .ok () := by
    cases hw : (i2c.write s.1.i2cAddr data s.2.2).1 with
    | ok _ => rfl
    | error e =>
      rw [hw] at h
      cases congrArg Prod.fst h
  obtain rfl := congrArg Prod.snd h
  refine ⟨rfl, fun j => ?_⟩
  dsimp only
  rw [hok, if_pos ⟨ha, rfl⟩, Regs.written, hreg']
  simp only [Regs.slice, List.length_map, List.length_range]
  split_ifs with hj
  · have hlt : j - reg < len := by omega
    simp [hlt, Nat.add_sub_cancel' hj.1]
  · rfl

/-- The end of `set_pll` sends every register there is. -/
theorem sendPll_held {addr : UInt8} {chip : Fin 2} {s t : R850 × Regs × ω}
    (h : sendPll (i2c.holding addr) chip s = (.ok (), t)) (ha : s.1.i2cAddr = addr) :
    ∀ j, 0x08 ≤ j → j < NUM_REGS → t.2.1 j = lockRegs chip s.1.regs j := by
  intro j hlo hhi
  rw [sendPll] at h
  obtain ⟨_, s₁, h₁, h⟩ := Eff.bind_eq_ok.1 h
  obtain ⟨_, s₂, h₂, h⟩ := Eff.bind_eq_ok.1 h
  obtain ⟨hs₁, hheld₁⟩ := flush_held i2c ha (by decide) h₁
  have hs₂ : s₂ = (s₁.1.setRegs (lockRegs chip s₁.1.regs), s₁.2) := (congrArg Prod.snd h₂).symm
  obtain ⟨-, hheld⟩ := flush_held i2c (by rw [hs₂, ← ha, ← hs₁]; rfl) (by decide) h
  rw [hheld, hs₂, ← hs₁]
  split_ifs with hj
  · rfl
  · have hne : j ≠ 0x2f := by omega
    rw [hheld₁, if_pos ⟨hlo, hhi⟩, ← hs₁, lockRegs, Regs.or_apply, if_neg hne]
    split_ifs
    · rw [Regs.and_apply, if_neg hne]
    · rfl

/-! ## Calls -/

inductive Call
  | init
  | term
  | sleep
  | wakeup
  | setSystem (system : SystemConfig)
  | setFrequency (freq : Nat)
  | isPllLocked

/-- What the call does, whatever it ends with. -/
def call (c : Call) (s : R850 × ω) : R850 × ω :=
  match c with
  | .init => (init i2c s).2
  | .term => (term s).2
  | .sleep => (sleep s).2
  | .wakeup => (wakeup s).2
  | .setSystem system => (setSystem system s).2
  | .setFrequency freq => (setFrequency i2c freq s).2
  | .isPllLocked => (isPllLocked i2c s).2

inductive Act (ω : Type)
  | call (c : Call)
  /-- What is behind the bus is changed by others. -/
  | others (w : ω)

inductive Step : R850 × ω → Act ω → R850 × ω → Prop
  | call (s : R850 × ω) (c : Call) : Step s (.call c) (R850.call i2c c s)
  | others (s : R850 × ω) (w : ω) : Step s (.others w) (s.1, w)

/-- What the driver has found out, and what it was told. -/
def setUp (c : R850) : Fin 2 × Fin 4 × Option SystemConfig := (c.chip, c.xtalPwr, c.sys)

/-! ## What is kept -/

/-- Nothing is known of the registers before the system is set. -/
structure Blank (addr : UInt8) (config : Config) (c : R850) : Prop where
  i2cAddr : c.i2cAddr = addr
  config : c.config = config
  uncalibrated : ∀ m, (c.imrCal m).done = false
  sys : c.sys = none
  sysCurr : c.sysCurr = none

/-- The registers are what the system has them but for what a frequency touches. -/
structure Kept (addr : UInt8) (config : Config) (c : R850) : Prop where
  i2cAddr : c.i2cAddr = addr
  config : c.config = config
  uncalibrated : ∀ m, (c.imrCal m).done = false
  mixer : ∀ sys, c.sys = some sys → c.mixerMode = (mixerOf sys.system).1
  curr : ∀ sys, c.sysCurr = some sys → ∃ row, paramsOf c.chip sys = some row ∧
    Cells.Alike Regs.bit (bitsOf (TOUCHED c.chip)) c.regs
      (systemRegs c.chip row row.lpf INIT_REGS)

section

variable {addr : UInt8} {config : Config} {c : R850}

theorem Blank.kept (h : Blank addr config c) : Kept addr config c where
  i2cAddr := h.i2cAddr
  config := h.config
  uncalibrated := h.uncalibrated
  mixer sys hsys := by cases h.sys.symm.trans hsys
  curr sys hsys := by cases h.sysCurr.symm.trans hsys

theorem Kept.forget (h : Kept addr config c) : Blank addr config c.forget :=
  ⟨h.i2cAddr, h.config, fun _ => rfl, rfl, rfl⟩

theorem Blank.setRegs (h : Blank addr config c) (r : Regs) : Blank addr config (c.setRegs r) :=
  ⟨h.i2cAddr, h.config, h.uncalibrated, h.sys, h.sysCurr⟩

/-- What touches no other bits is kept under. -/
theorem Kept.setRegs (h : Kept addr config c) {f : Regs → Regs} {K T : List (Nat × UInt8)}
    (hf : Regs.Sets K T f) (hK : Covers K (TOUCHED c.chip) = true) :
    Kept addr config (c.setRegs (f c.regs)) where
  i2cAddr := h.i2cAddr
  config := h.config
  uncalibrated := h.uncalibrated
  mixer := h.mixer
  curr sys hsys := by
    obtain ⟨row, hrow, halike⟩ := h.curr sys hsys
    exact ⟨row, hrow, halike.step hf (bitsOf_subset hK)⟩

/-! Coming up. -/

theorem blank_modifyRegs (f : Regs → Regs) :
    Eff.Safe (fun s : R850 × ω => Blank addr config s.1) (fun _ => True) (modifyRegs f) :=
  safe_modifyRegs fun _ hc => hc.setRegs _

theorem blank_xtalPowerLoop (powers : List (Fin 4)) :
    Eff.Safe (fun s : R850 × ω => Blank addr config s.1) (fun _ => True)
      (xtalPowerLoop i2c powers) := by
  induction powers with
  | nil => exact .pure _
  | cons i rest ih =>
    refine (blank_modifyRegs _).bind fun _ => ?_
    refine (safe_flush i2c (fun _ => trivial) _ _).bind fun _ => ?_
    refine (safe_readReg i2c (fun _ => trivial) _).bind fun tmp => ?_
    split
    · exact .pure _
    · exact ih

theorem blank_identify (tries : Nat) (ret : Except Fault Unit) :
    Eff.Safe (fun s : R850 × ω => Blank addr config s.1) (fun _ => True)
      (identify i2c tries ret) := by
  induction tries generalizing ret with
  | zero => exact .pure _
  | succ tries ih =>
    refine Eff.Triple.bind (Eff.Safe.attempt (safe_readReg i2c (F := fun _ => True)
      (fun _ => trivial) _)) fun r => ?_
    cases r with
    | error e => exact ih _
    | ok tmp =>
      refine Eff.Safe.bind (OnChip.safe_modifySelf fun c hc => ?_) fun _ =>
        OnChip.safe_self.bind fun c => ?_
      · split
        · exact ⟨hc.i2cAddr, hc.config, hc.uncalibrated, hc.sys, hc.sysCurr⟩
        · exact hc
      · split
        · exact .pure _
        · exact ih _

theorem kept_init : Eff.Safe (fun s : R850 × ω => Kept addr config s.1) (fun _ => True)
    (init i2c) := by
  refine Eff.Triple.bind (Q := fun _ s => Blank addr config s.1)
    (Eff.Triple.modify fun s hs => hs.forget) fun _ => ?_
  refine Eff.Triple.conseq (Eff.Safe.bind (I := fun s : R850 × ω => Blank addr config s.1)
    (F := fun _ => True) (blank_identify i2c 4 (.ok ())) fun r => ?_)
    (fun _ h => h) (fun _ _ h => h.kept) fun _ _ h => ⟨trivial, h.2.kept⟩
  refine (Eff.Safe.ofExcept fun _ _ => trivial).bind fun _ => ?_
  refine (safe_readRegs i2c (fun _ => trivial) _ _).bind fun regs => ?_
  refine Eff.Safe.bind ?_ fun _ => (safe_writeRegs i2c (fun _ => trivial) _ _).bind fun _ =>
    (blank_modifyRegs _).bind fun _ => OnChip.safe_modifySelf fun c hc =>
      ⟨hc.i2cAddr, hc.config, hc.uncalibrated, hc.sys, hc.sysCurr⟩
  refine (blank_modifyRegs _).bind fun _ => OnChip.safe_self.bind fun c =>
    (blank_modifyRegs _).bind fun _ => (safe_flush i2c (fun _ => trivial) _ _).bind fun _ => ?_
  exact (blank_xtalPowerLoop i2c _).bind fun pwr => OnChip.safe_modifySelf fun c hc =>
    ⟨hc.i2cAddr, hc.config, hc.uncalibrated, hc.sys, hc.sysCurr⟩

theorem kept_term : Eff.Safe (fun s : R850 × ω => Kept addr config s.1) (fun _ => True) term := by
  refine OnChip.safe_modifySelf fun c hc => ?_
  split
  · exact (hc.forget.setRegs _).kept
  · exact hc

theorem kept_checkInit : Eff.Safe (fun s : R850 × ω => Kept addr config s.1) (fun _ => True)
    checkInit :=
  OnChip.safe_self.bind fun _ => .require trivial

theorem kept_setSystem (system : SystemConfig) :
    Eff.Safe (fun s : R850 × ω => Kept addr config s.1) (fun _ => True) (setSystem system) := by
  refine kept_checkInit.bind fun _ => OnChip.safe_modifySelf fun c hc => ?_
  refine ⟨hc.i2cAddr, hc.config, hc.uncalibrated, fun sys hsys => ?_, fun sys hsys => ?_⟩
  · cases hsys
    rfl
  · cases hsys

/-! Tuning. -/

/-- What has the registers of its system. -/
def Current (addr : UInt8) (config : Config) (u : Fin 2 × Fin 4 × Option SystemConfig)
    (sys : SystemConfig) (c : R850) : Prop :=
  Kept addr config c ∧ c.setUp = u ∧ c.sys = some sys ∧ c.sysCurr = some sys

section Tuning

variable (himr : config.noImrCalibration = true) (hlpf : config.noLpfCalibration = true)

include himr hlpf

theorem setSystemParams_current (u : Fin 2 × Fin 4 × Option SystemConfig) :
    Eff.Triple (fun s : R850 × ω => Kept addr config s.1 ∧ s.1.setUp = u) (setSystemParams i2c)
      (fun sys s => Current addr config u sys s.1) fun _ s => Kept addr config s.1 := by
  refine OnChip.triple_self (P := fun c => Kept addr config c ∧ c.setUp = u) fun c ⟨hc, hu⟩ => ?_
  have hkept : ∀ s : R850 × ω, s.1 = c → Kept addr config s.1 := fun s hs => hs ▸ hc
  cases hsys : c.sys with
  | none => exact Eff.Triple.throw hkept
  | some sys =>
    dsimp only
    rw [calibrateMixer_off i2c (hc.config ▸ himr)]
    refine Eff.Triple.bind (Q := fun _ s => s.1 = c) (.pure fun _ h => h) fun _ => ?_
    refine Eff.Triple.bind (Eff.Triple.when (Q := fun _ (s : R850 × ω) =>
      Current addr config u sys s.1) (fun hcurr => ?_) fun s hcurr hs => ?_) fun _ =>
      .pure fun _ h => h
    · rw [changeSystem]
      cases hrow : paramsOf c.chip sys with
      | none => exact Eff.Triple.throw hkept
      | some row =>
        dsimp only
        rw [lpfOf_off i2c (hc.config ▸ hlpf)]
        refine Eff.Triple.bind (Q := fun lpf s => lpf = row.lpf ∧ s.1 = c)
          (.pure fun _ h => ⟨rfl, h⟩) fun lpf => ?_
        refine Eff.Triple.bind (Q := fun _ s => lpf = row.lpf ∧ s.1 = c.setRegs INIT_REGS)
          (.modify fun _ h => ⟨h.1, by rw [h.2]⟩) fun _ => ?_
        refine Eff.Triple.bind (Q := fun _ s =>
          s.1 = c.setRegs (systemRegs c.chip row row.lpf INIT_REGS))
          (.modify fun _ h => by rw [h.1, h.2]; rfl) fun _ => ?_
        refine .modify fun s hs => ?_
        rw [hs]
        refine ⟨⟨hc.i2cAddr, hc.config, hc.uncalibrated, hc.mixer, fun sys' hsys' => ?_⟩, hu, hsys,
          rfl⟩
        obtain rfl := Option.some.inj hsys'
        exact ⟨row, hrow, .refl _⟩
    · rw [hs]
      exact ⟨hc, hu, hsys, not_not.1 hcurr⟩

end Tuning

/-! What a frequency does keeps to its bits. -/

theorem rfGainLimit_eq {system : System} : ∀ p ∈ freqParams system, p.rfGainLimit = 0 := by
  cases system <;> decide

/-- The rows do not limit the gain, whatever the kind of the chip. -/
theorem forChip_rfGainLimit {sys : SystemConfig} {freq : Nat} {prm : FreqParams} (chip : Fin 2)
    (h : freqParamsOf sys freq = some prm) : (prm.forChip chip sys.system).rfGainLimit = 0 := by
  have hrow := rfGainLimit_eq prm (List.mem_of_find?_eq_some h)
  unfold FreqParams.forChip
  split_ifs <;> exact hrow

theorem covers_row (chip : Fin 2) : Covers (ROW_TOUCHED chip) (TOUCHED chip) = true := by
  revert chip
  decide

theorem covers_mux (chip : Fin 2) : Covers MUX_BITS (TOUCHED chip) = true := by
  revert chip
  decide

theorem covers_pll (chip : Fin 2) : Covers (PLL_BITS chip) (TOUCHED chip) = true := by
  revert chip
  decide

theorem covers_lock (chip : Fin 2) :
    Covers [(0x2f, if chip = 0 then 0x03 else 0x02)] (TOUCHED chip) = true := by
  revert chip
  decide

/-- Kept, for a kind of the chip. -/
def KeptOn (addr : UInt8) (config : Config) (chip : Fin 2) (c : R850) : Prop :=
  Kept addr config c ∧ c.chip = chip

section Frequency

variable {chip : Fin 2}

theorem kept_modifyRegs {f : Regs → Regs} {K T : List (Nat × UInt8)} (hf : Regs.Sets K T f)
    (hK : Covers K (TOUCHED chip) = true) :
    Eff.Safe (fun s : R850 × ω => KeptOn addr config chip s.1) (fun _ => True) (modifyRegs f) :=
  safe_modifyRegs fun _ hc => ⟨hc.1.setRegs hf (hc.2 ▸ hK), hc.2⟩

theorem kept_flush (reg len : Nat) :
    Eff.Safe (fun s : R850 × ω => KeptOn addr config chip s.1) (fun _ => True)
      (flush i2c reg len) :=
  safe_flush i2c (fun _ => trivial) reg len

theorem kept_setPll (loFreq ifFreq : Nat) (sys : Option System) :
    Eff.Safe (fun s : R850 × ω => KeptOn addr config chip s.1) (fun _ => True)
      (setPll i2c loFreq ifFreq sys) := by
  refine OnChip.triple_self fun c hc => ?_
  obtain rfl := hc.2
  refine Eff.Triple.conseq (Eff.Safe.bind (I := fun s : R850 × ω => KeptOn addr config c.chip s.1)
    (F := fun _ => True) (.ofExcept fun _ _ => trivial) fun pll => ?_) (fun s hs => hs ▸ hc)
    (fun _ _ h => h) fun _ _ h => h
  exact (kept_modifyRegs (sets_pllRegs _ _ _ _ _ _ pll) (covers_pll _)).bind fun _ =>
    (kept_flush i2c _ _).bind fun _ =>
    (kept_modifyRegs (sets_lockRegs _) (covers_lock _)).bind fun _ => kept_flush i2c _ _

theorem kept_setSystemFrequency (sys : SystemConfig) (freq : Nat) :
    Eff.Safe (fun s : R850 × ω => Kept addr config s.1) (fun _ => True)
      (setSystemFrequency i2c sys freq) := by
  rw [setSystemFrequency]
  cases hprm : freqParamsOf sys freq with
  | none => exact .throw trivial
  | some prm =>
    refine OnChip.triple_self fun c hc => ?_
    refine Eff.Triple.conseq (Eff.Safe.bind (I := fun s : R850 × ω =>
      KeptOn addr config c.chip s.1) (F := fun _ => True) (.ofExcept fun _ _ => trivial)
      fun lo => (Eff.Safe.ofExcept fun _ _ => trivial).bind fun tops => ?_)
      (fun s hs => ⟨hs ▸ hc, congrArg _ hs⟩) (fun _ _ h => h.1) fun _ _ h => ⟨trivial, h.2.1⟩
    have hrow := sets_frequencyRegs c sys freq tops (forChip_rfGainLimit c.chip hprm)
    exact (kept_modifyRegs hrow (covers_row _)).bind fun _ =>
      (OnChip.safe_self.bind fun _ => kept_modifyRegs (sets_muxRegs _ _ _) (covers_mux _)).bind
        fun _ => kept_setPll i2c _ _ _

end Frequency

section

variable (himr : config.noImrCalibration = true) (hlpf : config.noLpfCalibration = true)

include himr hlpf

theorem kept_setFrequency (freq : Nat) :
    Eff.Safe (fun s : R850 × ω => Kept addr config s.1) (fun _ => True)
      (setFrequency i2c freq) := by
  refine kept_checkInit.bind fun _ => (Eff.Safe.require trivial).bind fun _ => ?_
  intro s hs
  have hparams : Eff.Triple (fun t : R850 × ω => Kept addr config t.1 ∧ t.1.setUp = s.1.setUp)
      (setSystemParams i2c) (fun _ t => Kept addr config t.1)
      fun _ t => True ∧ Kept addr config t.1 :=
    (setSystemParams_current i2c himr hlpf s.1.setUp).conseq (fun _ h => h) (fun _ _ h => h.1)
      fun _ _ h => ⟨trivial, h⟩
  exact hparams.bind (fun sys => kept_setSystemFrequency i2c sys freq) s ⟨hs, rfl⟩

theorem kept_call (c : Call) (s : R850 × ω) (hs : Kept addr config s.1) :
    Kept addr config (call i2c c s).1 := by
  cases c with
  | init => exact (kept_init i2c).kept hs
  | term => exact kept_term.kept hs
  | sleep => exact kept_checkInit.kept hs
  | wakeup => exact kept_checkInit.kept hs
  | setSystem system => exact (kept_setSystem system).kept hs
  | setFrequency freq => exact (kept_setFrequency i2c himr hlpf freq).kept hs
  | isPllLocked =>
    refine (kept_checkInit.bind fun _ => ?_ : Eff.Safe _ (fun _ => True) (isPllLocked i2c)).kept hs
    exact (safe_readReg i2c (fun _ => trivial) _).bind fun _ => .pure _

theorem kept_of_run {w : ω} {s : R850 × ω}
    (h : Lts.Reachable (Step i2c) ({ i2cAddr := addr, config := config }, w) s) :
    Kept addr config s.1 := by
  refine Lts.Reachable.invariant (I := fun s => Kept addr config s.1) ?_ ?_ h
  · exact ⟨rfl, rfl, fun _ => rfl, nofun, nofun⟩
  · intro s a t _ hs hstep
    cases hstep with
    | call c => exact kept_call i2c himr hlpf c s hs
    | others w => exact hs

end

/-! ## What the chip holds -/

/-- What a frequency comes to, for a chip that is set up so. -/
structure Plan (c : R850) (sys : SystemConfig) (freq : Nat) where
  row : FreqParams
  lo : Nat
  tops : Tops
  pll : Pll
  row_eq : freqParamsOf sys freq = some row
  lo_eq : loFreqOf c.mixerMode sys.ifFreq freq = .ok lo
  tops_eq : topsOf c.chip (row.forChip c.chip sys.system) = .ok tops
  pll_eq : pllOf c.config.xtal c.chip lo sys.ifFreq (some sys.system) = .ok pll

/-- What the chip holds once it is tuned, from the registers of the driver. -/
def Plan.regs {c : R850} {sys : SystemConfig} {freq : Nat} (p : Plan c sys freq) : Regs → Regs :=
  tuneRegs c sys freq (p.row.forChip c.chip sys.system) p.tops p.lo p.pll

/-- As no mixer is calibrated, the filters get the same of it every time. -/
theorem setMux_uncalibrated {s : R850 × ω} (lo : Nat) (system : System)
    (h : ∀ m, (s.1.imrCal m).done = false) : setMux lo (some system) s =
      (.ok (), s.1.setRegs (muxRegs lo (some system) (0x02, 0x00, 0x00) s.1.regs), s.2) := by
  rw [setMux, Eff.bind_of_ok (m := OnChip.self) rfl]
  simp only [h, Bool.false_and, Option.isSome_some, if_true, Bool.false_eq_true, if_false]
  rfl

theorem setPll_held {lo ifFreq : Nat} {sys : Option System} {s t : R850 × Regs × ω}
    (h : setPll (i2c.holding addr) lo ifFreq sys s = (.ok (), t)) (ha : s.1.i2cAddr = addr) :
    ∃ pll, pllOf s.1.config.xtal s.1.chip lo ifFreq sys = .ok pll ∧
      ∀ j, 0x08 ≤ j → j < NUM_REGS → t.2.1 j = lockRegs s.1.chip (pllRegs pll
        (pllSetupRegs s.1.chip s.1.xtalPwr lo ifFreq sys pll.band.mixDiv s.1.regs)) j := by
  rw [setPll] at h
  obtain ⟨c, s₁, h₁, h⟩ := Eff.bind_eq_ok.1 h
  obtain rfl := congrArg Prod.snd h₁
  obtain rfl := Except.ok.inj (congrArg Prod.fst h₁)
  obtain ⟨pll, s₂, h₂, h⟩ := Eff.bind_eq_ok.1 h
  obtain rfl := congrArg Prod.snd h₂
  rw [Eff.bind_of_ok (modifyRegs_run _ _)] at h
  have hsent := sendPll_held i2c h ha
  exact ⟨pll, congrArg Prod.fst h₂, hsent⟩

theorem setSystemFrequency_held {sys : SystemConfig} {freq : Nat} {s t : R850 × Regs × ω}
    (hs : Kept addr config s.1)
    (h : setSystemFrequency (i2c.holding addr) sys freq s = (.ok (), t)) :
    ∃ p : Plan s.1 sys freq, ∀ j, 0x08 ≤ j → j < NUM_REGS → t.2.1 j = p.regs s.1.regs j := by
  rw [setSystemFrequency] at h
  cases hrow : freqParamsOf sys freq with
  | none =>
    rw [hrow] at h
    cases congrArg Prod.fst h
  | some row =>
    rw [hrow] at h
    obtain ⟨c, s₁, h₁, h⟩ := Eff.bind_eq_ok.1 h
    obtain ⟨rfl, rfl⟩ : s.1 = c ∧ s = s₁ := by cases h₁; exact ⟨rfl, rfl⟩
    obtain ⟨lo, s₂, h₂, h⟩ := Eff.bind_eq_ok.1 h
    obtain ⟨hlo, rfl⟩ : loFreqOf s.1.mixerMode sys.ifFreq freq = .ok lo ∧ s = s₂ := by
      exact ⟨congrArg Prod.fst h₂, congrArg Prod.snd h₂⟩
    obtain ⟨tops, s₃, h₃, h⟩ := Eff.bind_eq_ok.1 h
    obtain ⟨htops, rfl⟩ : topsOf s.1.chip (row.forChip s.1.chip sys.system) = .ok tops ∧ s = s₃ :=
      ⟨congrArg Prod.fst h₃, congrArg Prod.snd h₃⟩
    obtain ⟨_, s₄, h₄, h⟩ := Eff.bind_eq_ok.1 h
    obtain ⟨_, s₅, h₅, h⟩ := Eff.bind_eq_ok.1 h
    obtain rfl := congrArg Prod.snd h₄
    rw [setMux_uncalibrated _ _ (by exact hs.uncalibrated)] at h₅
    obtain rfl := congrArg Prod.snd h₅
    obtain ⟨pll, hpll, hheld⟩ := setPll_held i2c h hs.i2cAddr
    refine ⟨⟨row, lo, tops, pll, hrow, hlo, htops, hpll⟩, fun j hlo hhi => ?_⟩
    rw [hheld j hlo hhi]
    rfl

theorem tuneRegs_congr {c c' : R850} (hconfig : c.config = c'.config) (hchip : c.chip = c'.chip)
    (hpwr : c.xtalPwr = c'.xtalPwr) (hmode : c.mixerMode = c'.mixerMode) (sys : SystemConfig)
    (freq : Nat) (prm : FreqParams) (tops : Tops) (lo : Nat) (pll : Pll) :
    tuneRegs c sys freq prm tops lo pll = tuneRegs c' sys freq prm tops lo pll := by
  unfold tuneRegs
  rw [frequencyRegs_eq, frequencyRegs_eq, hconfig, hchip, hpwr, hmode]

/-- A frequency comes to one thing for chips that are set up alike. -/
theorem Plan.regs_congr {c c' : R850} {sys : SystemConfig} {freq : Nat} (p : Plan c sys freq)
    (p' : Plan c' sys freq) (hconfig : c.config = c'.config) (hchip : c.chip = c'.chip)
    (hpwr : c.xtalPwr = c'.xtalPwr) (hmode : c.mixerMode = c'.mixerMode) : p.regs = p'.regs := by
  obtain ⟨row, lo, tops, pll, hrow, hlo, htops, hpll⟩ := p
  obtain ⟨row', lo', tops', pll', hrow', hlo', htops', hpll'⟩ := p'
  obtain rfl := Option.some.inj (hrow.symm.trans hrow')
  rw [← hmode] at hlo'
  obtain rfl := Except.ok.inj (hlo.symm.trans hlo')
  rw [← hchip] at htops' hpll'
  obtain rfl := Except.ok.inj (htops.symm.trans htops')
  rw [← hconfig] at hpll'
  obtain rfl := Except.ok.inj (hpll.symm.trans hpll')
  unfold Plan.regs
  dsimp only
  rw [← hchip]
  exact tuneRegs_congr hconfig hchip hpwr hmode _ _ _ _ _ _

theorem setFrequency_held (himr : config.noImrCalibration = true)
    (hlpf : config.noLpfCalibration = true) {freq : Nat} {s t : R850 × Regs × ω}
    (hs : Kept addr config s.1) (h : setFrequency (i2c.holding addr) freq s = (.ok (), t)) :
    ∃ c sys row, ∃ p : Plan c sys freq, Current addr config s.1.setUp sys c ∧
      paramsOf c.chip sys = some row ∧ Cells.Alike Regs.bit (bitsOf (TOUCHED c.chip)) c.regs
        (systemRegs c.chip row row.lpf INIT_REGS) ∧
      ∀ j, 0x08 ≤ j → j < NUM_REGS → t.2.1 j = p.regs c.regs j := by
  rw [setFrequency] at h
  obtain ⟨_, s₁, h₁, hasked⟩ := Eff.bind_eq_ok.1 h
  obtain ⟨_, s₂, h₂, hparams⟩ := Eff.bind_eq_ok.1 hasked
  have hcheck : Eff.Leaves id (checkInit : OnChip R850 (Regs × ω) Unit) :=
    Eff.Leaves.bind (fun _ => rfl) fun _ => .require
  obtain rfl : s₁ = s := by simpa [h₁] using hcheck s
  have hrange : Eff.Leaves id (Eff.require (40000 ≤ freq ∧ freq ≤ 1002000)
    (.chip "R850: frequency out of range") : OnChip R850 (Regs × ω) Unit) := .require
  obtain rfl : s₂ = s₁ := by simpa [h₂] using hrange s₁
  obtain ⟨sys, s₃, h₃, hfreq⟩ := Eff.bind_eq_ok.1 hparams
  have hcurr : Current addr config s₂.1.setUp sys s₃.1 :=
    (setSystemParams_current (i2c.holding addr) himr hlpf _).ends ⟨hs, rfl⟩ h₃
  obtain ⟨p, hp⟩ := setSystemFrequency_held i2c hcurr.1 hfreq
  obtain ⟨row, hrow, halike⟩ := hcurr.1.curr sys hcurr.2.2.2
  exact ⟨s₃.1, sys, row, p, hcurr, hrow, halike, hp⟩

/-- The clock of the gain control is the only thing a frequency may change and does not settle. -/
theorem mem_tuned_or {chip : Fin 2} {i j : Nat} (h : i ≠ 0x2f ∨ j ≠ 2 ∧ j ≠ 3) :
    (i, j) ∈ bitsOf (TUNED chip) ∨ (i, j) ∉ bitsOf (TOUCHED chip) := by
  refine or_iff_not_imp_left.2 fun hnot ⟨m, hm, hj⟩ => ?_
  rcases List.mem_cons.1 hm with hm | hm
  · obtain ⟨rfl, rfl⟩ := Prod.mk.injEq .. ▸ hm
    have hbits : ∀ j : Fin 8, (0x0c : UInt8).toBitVec.getLsbD j = true → j.val = 2 ∨ j.val = 3 := by
      decide
    have hj' := hbits ⟨j, BitVec.lt_of_getLsbD hj⟩ hj
    exact h.elim (fun h => h rfl) fun h => hj'.elim h.1 h.2
  · exact hnot ⟨m, hm, hj⟩

end

section

variable {ω ω' : Type} (i2c : I2c ω) (i2c' : I2c ω') {addr addr' : UInt8} {config : Config}

/-- Whatever was asked of two R850s before, over whatever buses, and whatever others did to them:
set up alike and tuned to one frequency, they hold the same, but for the two bits of the clock of
the gain control. -/
theorem no_leftovers (himr : config.noImrCalibration = true)
    (hlpf : config.noLpfCalibration = true) {w : Regs × ω} {w' : Regs × ω'}
    {s t : R850 × Regs × ω} {s' t' : R850 × Regs × ω'} {freq : Nat}
    (hs : Lts.Reachable (Step (i2c.holding addr)) ({ i2cAddr := addr, config := config }, w) s)
    (hs' : Lts.Reachable (Step (i2c'.holding addr')) ({ i2cAddr := addr', config := config }, w')
      s') (hset : s.1.setUp = s'.1.setUp)
    (h : setFrequency (i2c.holding addr) freq s = (.ok (), t))
    (h' : setFrequency (i2c'.holding addr') freq s' = (.ok (), t')) {j : Nat} (hlo : 0x08 ≤ j)
    (hhi : j < NUM_REGS) (k : Nat) (hk : j ≠ 0x2f ∨ k ≠ 2 ∧ k ≠ 3) :
    Regs.bit t.2.1 (j, k) = Regs.bit t'.2.1 (j, k) := by
  obtain ⟨c, sys, row, p, hc, hrow, halike, hp⟩ :=
    setFrequency_held i2c himr hlpf (kept_of_run _ himr hlpf hs) h
  obtain ⟨c', sys', row', p', hc', hrow', halike', hp'⟩ :=
    setFrequency_held i2c' himr hlpf (kept_of_run _ himr hlpf hs') h'
  obtain ⟨hkept, hset₁, hsys, -⟩ := hc
  obtain ⟨hkept', hset₁', hsys', -⟩ := hc'
  have hsame : c.setUp = c'.setUp := hset₁.trans (hset.trans hset₁'.symm)
  simp only [setUp, Prod.mk.injEq] at hsame
  obtain ⟨hchip, hpwr, hsyss⟩ := hsame
  obtain rfl : sys = sys' := Option.some.inj (hsys.symm.trans (hsyss.trans hsys'))
  have hmode : c.mixerMode = c'.mixerMode :=
    (hkept.mixer _ hsys).trans (hkept'.mixer _ hsys').symm
  have hregs := p.regs_congr p' (hkept.config.trans hkept'.config.symm) hchip hpwr hmode
  rw [← hchip] at hrow' halike'
  obtain rfl := Option.some.inj (hrow.symm.trans hrow')
  have hforgets := (sets_tuneRegs c sys freq p.tops p.lo p.pll
    (forChip_rfGainLimit c.chip p.row_eq)).forgets halike halike' (mem_tuned_or hk)
  calc Regs.bit t.2.1 (j, k) = Regs.bit (p.regs c.regs) (j, k) := by
        rw [Regs.bit, hp j hlo hhi, Regs.bit]
    _ = Regs.bit (p.regs c'.regs) (j, k) := hforgets
    _ = Regs.bit t'.2.1 (j, k) := by rw [Regs.bit, Regs.bit, hp' j hlo hhi, hregs]

/-- A bus that takes everything and reads zeros. -/
def quietI2c : I2c Unit := ⟨fun _ _ => pure (), fun _ _ n => pure (.replicate n 0)⟩

theorem sendPll_quiet (addr : UInt8) (chip : Fin 2) (s : R850 × Regs × Unit) :
    ∃ r t, sendPll (quietI2c.holding addr) chip s = (.ok (), s.1.setRegs r, t) := ⟨_, _, rfl⟩

/-- What is tuned over it is tuned to the end. -/
theorem setFrequency_quiet {config : Config} {sys : SystemConfig} (freq : Nat)
    {s : R850 × Regs × Unit} (hs : Kept addr config s.1) (hx : config.xtal = 24000)
    (himr : config.noImrCalibration = true) (hlpf : config.noLpfCalibration = true)
    (hrow : (paramsOf s.1.chip sys).isSome) (hfreq : 40000 ≤ freq ∧ freq ≤ 1002000)
    (hinit : s.1.initialised = true) (hsys : s.1.sys = some sys) :
    ∃ r t, setFrequency (quietI2c.holding addr) freq s =
      (.ok (), { s.1 with sysCurr := some sys }.setRegs r, t) := by
  obtain ⟨pll, hpll, -⟩ := pllOf_tuned hrow hfreq s.1.mixerMode
  obtain ⟨r, hr⟩ := setFrequency_run (quietI2c.holding addr) hrow hfreq (hs.config ▸ hx) rfl rfl
    hinit hsys (hs.config ▸ himr) (hs.config ▸ hlpf) hpll
  rw [hr]
  obtain ⟨r', t, h⟩ := sendPll_quiet addr s.1.chip
    ({ s.1 with sysCurr := some sys }.setRegs (pllRegs pll r), s.2)
  refine ⟨r', t, ?_⟩
  rw [h]
  rfl

/-- Tuned to the channel at 479 MHz before the one at 521 MHz, or not. -/
theorem no_leftovers_isdbT : ∃ (i2c : I2c Unit) (s t t' : R850 × Regs × Unit),
    setFrequency (i2c.holding 0x7c) 521143 s = (.ok (), t) ∧
      setFrequency (i2c.holding 0x7c) 521143
        (call (i2c.holding 0x7c) (.setFrequency 479143) s) = (.ok (), t') ∧
      ∀ j k, 0x08 ≤ j → j < NUM_REGS → (j ≠ 0x2f ∨ k ≠ 2 ∧ k ≠ 3) →
        Regs.bit t.2.1 (j, k) = Regs.bit t'.2.1 (j, k) := by
  obtain ⟨s, hrun, hchip, hinit, hsys⟩ : ∃ s, Lts.Reachable (Step (quietI2c.holding 0x7c))
      ({ i2cAddr := 0x7c, config := ⟨24000, true, false, true, true⟩ }, fun _ => 0, ()) s ∧
      s.1.chip = 0 ∧ s.1.initialised = true ∧ s.1.sys = some ⟨.isdbT, .m6, 4063⟩ := by
    refine ⟨_, ((Lts.Reachable.refl _).snoc (.call _ .init)).snoc
      (.call _ (.setSystem ⟨.isdbT, .m6, 4063⟩)), ?_, ?_, ?_⟩ <;> decide +kernel
  have hrow : (paramsOf s.1.chip ⟨.isdbT, .m6, 4063⟩).isSome := by
    rw [hchip]
    decide
  have hkept := kept_of_run _ rfl rfl hrun
  obtain ⟨r, t, h⟩ := setFrequency_quiet 521143 hkept rfl rfl rfl hrow (by decide) hinit hsys
  obtain ⟨r₁, t₁, h₁⟩ := setFrequency_quiet 479143 hkept rfl rfl rfl hrow (by decide) hinit hsys
  have hs₁ : call (quietI2c.holding 0x7c) (.setFrequency 479143) s =
      ({ s.1 with sysCurr := some ⟨.isdbT, .m6, 4063⟩ }.setRegs r₁, t₁) := congrArg Prod.snd h₁
  have hrun₁ := hrun.snoc (.call s (.setFrequency 479143))
  rw [hs₁] at hrun₁
  obtain ⟨r', t', h'⟩ := setFrequency_quiet 521143 (kept_of_run _ rfl rfl hrun₁) rfl rfl rfl hrow
    (by decide) hinit hsys
  refine ⟨quietI2c, s, _, _, h, hs₁ ▸ h', fun j k hlo hhi hk => ?_⟩
  exact no_leftovers quietI2c quietI2c rfl rfl hrun hrun₁ rfl h h' hlo hhi k hk

end

end Px4.R850

end Tunelith
