import Tunelith.Px4.Px4
import Tunelith.Px4.R850Pll

/-!
# Chips that are ready

An RT710 or an R850 that has been initialised stays so whatever fails, until it is let go of, and
an R850 keeps the system it was told. So none of what is asked of it fails for its not being ready.
-/

namespace Tunelith.Px4

/-- A chip was asked for what it is not ready for. -/
def Fault.unready (e : Fault) : Bool :=
  e = .chip "RT710 not initialised" ∨ e = R850.notInitialized ∨ e = .chip "R850: no system is set"

@[simp] theorem Fault.unready_bus (e : Error) : (Fault.bus e).unready = false := by
  simp [unready, chip, R850.notInitialized]

/-- `m` keeps what `I` says of the chip, and does not fail for its not being ready. -/
abbrev Keeps {χ ω α : Type} (I : χ → Prop) (m : OnChip χ ω α) : Prop :=
  Eff.Safe (fun s => I s.1) (fun e => e.unready = false) m

/-- From a chip with `P`, `m` leads to one with `Q`, or to one with `R` if it fails, and it does not
fail for the chip's not being ready. -/
abbrev Leads {χ ω α : Type} (P : χ → Prop) (m : OnChip χ ω α) (Q R : χ → Prop) : Prop :=
  Eff.Triple (fun s => P s.1) m (fun _ s => Q s.1) fun e s => e.unready = false ∧ R s.1

section

variable {χ ω α : Type} {I : χ → Prop}

theorem Keeps.bus (m : Eff Error ω α) : Keeps I (OnChip.bus m) :=
  OnChip.safe_bus Fault.unready_bus m

theorem Keeps.self : Keeps I (OnChip.self : OnChip χ ω χ) := OnChip.safe_self

theorem Keeps.modifySelf {f : χ → χ} (h : ∀ c, I c → I (f c)) :
    Keeps I (OnChip.modifySelf f : OnChip χ ω Unit) := OnChip.safe_modifySelf h

variable {P P' Q Q' R R' : χ → Prop} {m : OnChip χ ω α}

theorem Keeps.leads (h : Keeps I m) : Leads I m I I := h

theorem Leads.conseq (h : Leads P m Q R) (hP : ∀ c, P' c → P c) (hQ : ∀ c, Q c → Q' c)
    (hR : ∀ c, R c → R' c) : Leads P' m Q' R' :=
  Eff.Triple.conseq h (fun s => hP s.1) (fun _ s => hQ s.1) fun _ s hs => ⟨hs.1, hR s.1 hs.2⟩

/-- What begins with a look at the chip knows the chip. -/
theorem Leads.known {f : χ → OnChip χ ω α} (h : ∀ c, P c → Leads (· = c) (f c) Q R) :
    Leads P (OnChip.self >>= f) Q R :=
  OnChip.triple_self h

theorem Leads.self {f : χ → OnChip χ ω α} (h : ∀ c, P c → Leads P (f c) Q R) :
    Leads P (OnChip.self >>= f) Q R :=
  Leads.known fun c hc => (h c hc).conseq (fun _ he => he ▸ hc) (fun _ h => h) fun _ h => h

theorem Leads.part {τ : Type} {get : χ → τ} {put : χ → τ → χ} {m : OnChip τ ω α}
    (h : ∀ c, P c → Leads (· = get c) m (fun t => Q (put c t)) fun t => R (put c t)) :
    Leads P (OnChip.part get put m) Q R :=
  OnChip.triple_part (P := P) (Q := fun _ => Q) (E := fun e c => e.unready = false ∧ R c) h

end

/-! ## The RT710 -/

namespace Rt710

variable {ω : Type} (i2c : I2c ω)

/-- It is initialised. -/
def Ready (c : Rt710) : Prop := c.chip.isSome = true

theorem keeps_chipOrErr : Keeps Ready (chipOrErr : OnChip Rt710 ω ChipType) := by
  intro s hs
  obtain ⟨chip, hchip⟩ := Option.isSome_iff_exists.1 hs
  have : chipOrErr s = (.ok chip, s) := by
    rw [chipOrErr, Eff.bind_of_ok (m := OnChip.self) rfl, hchip]
    rfl
  rw [this]
  exact hs

theorem keeps_readReg {I : Rt710 → Prop} (reg : Nat) : Keeps I (readReg i2c reg) :=
  Eff.Safe.bind (Eff.Safe.bind (.require (by decide)) fun _ =>
    Keeps.self.bind fun _ => (Keeps.bus _).bind fun _ => .pure _) fun _ => .pure _

theorem keeps_writeRegs (reg : Nat) (data : List UInt8) : Keeps Ready (writeRegs i2c reg data) :=
  Eff.Safe.bind (.require (by decide)) fun _ => Keeps.self.bind fun _ => Keeps.bus _

theorem keeps_writeReg (regs : Regs) (reg : Nat) : Keeps Ready (writeReg i2c regs reg) :=
  keeps_writeRegs i2c reg _

theorem keeps_setDiv (chip : ChipType) (regs : Regs) (divNum : UInt8) :
    Keeps Ready (setDiv i2c chip regs divNum) := by
  refine (keeps_writeReg i2c _ _).bind fun _ => ?_
  cases chip with
  | rt710 => exact .pure _
  | rt720 =>
    exact (keeps_writeReg i2c _ _).bind fun _ => (keeps_writeReg i2c _ _).bind fun _ =>
      (keeps_writeReg i2c _ _).bind fun _ => .pure _

theorem keeps_setPll (chip : ChipType) (regs : Regs) (freq : UInt32) :
    Keeps Ready (setPll i2c chip regs freq) := by
  have hsdm : ∀ xtal vcoFra e, sdmOf xtal vcoFra = .error e → e.unready = false := by
    intro xtal vcoFra e h
    unfold sdmOf at h
    split at h <;> cases h
    decide
  refine Keeps.self.bind fun c => Eff.Safe.bind (Keeps.modifySelf fun _ h => h) fun _ => ?_
  refine (keeps_setDiv i2c _ _ _).bind fun _ => (keeps_writeReg i2c _ _).bind fun _ => ?_
  refine (keeps_writeReg i2c _ _).bind fun _ => (Eff.Safe.ofExcept (hsdm _ _)).bind fun _ => ?_
  refine (keeps_writeReg i2c _ _).bind fun _ => (keeps_writeReg i2c _ _).bind fun _ => ?_
  exact Eff.Safe.bind (Keeps.modifySelf fun _ h => h) fun _ => .pure _

theorem keeps_setGain (chip : ChipType) (config : Config) (regs : Regs)
    (freq symbolRate : UInt32) : Keeps Ready (setGain i2c chip config regs freq symbolRate) := by
  cases chip with
  | rt710 =>
    exact (keeps_writeReg i2c _ _).bind fun _ => (keeps_writeReg i2c _ _).bind fun _ =>
      (keeps_writeReg i2c _ _).bind fun _ => (keeps_writeReg i2c _ _).bind fun _ => .pure _
  | rt720 => exact (keeps_writeReg i2c _ _).bind fun _ => .pure _

theorem keeps_setBandwidth (chip : ChipType) (regs : Regs) (symbolRate rolloff : UInt32) :
    Keeps Ready (setBandwidth i2c chip regs symbolRate rolloff) := by
  unfold setBandwidth
  split
  · exact .throw (by decide)
  · exact keeps_writeReg i2c _ _

theorem keeps_setParams (freq symbolRate rolloff : UInt32) :
    Keeps Ready (setParams i2c freq symbolRate rolloff) := by
  refine keeps_chipOrErr.bind fun _ => Eff.Safe.bind (.require (by decide)) fun _ => ?_
  refine Keeps.self.bind fun _ => (keeps_writeRegs i2c _ _).bind fun _ => ?_
  refine (keeps_setPll i2c _ _ _).bind fun _ => (keeps_setGain i2c _ _ _ _ _).bind fun _ => ?_
  exact keeps_setBandwidth i2c _ _ _ _

theorem keeps_sleep : Keeps Ready (sleep i2c) :=
  keeps_chipOrErr.bind fun _ => Keeps.self.bind fun _ => keeps_writeRegs i2c _ _

theorem keeps_isPllLocked : Keeps Ready (isPllLocked i2c) :=
  keeps_chipOrErr.bind fun _ => (keeps_readReg i2c _).bind fun _ => .pure _

theorem init_ready : Leads (fun _ => True) (init i2c) Ready fun _ => True := by
  refine Eff.Triple.bind (Keeps.modifySelf (I := fun _ => True) fun _ h => h) fun _ => ?_
  refine Eff.Triple.bind (keeps_readReg i2c (I := fun _ => True) _) fun tmp => ?_
  exact Eff.Triple.modify fun _ _ => rfl

end Rt710

/-! ## The R850 -/

namespace R850

variable {ω : Type} (i2c : I2c ω)

/-- It is as every model makes it: with a 24 MHz crystal and both calibrations off. -/
structure Made (c : R850) : Prop where
  xtal : c.config.xtal = 24000
  noImr : c.config.noImrCalibration = true
  noLpf : c.config.noLpfCalibration = true

/-- It is initialised, and has been told the system if `told`. -/
structure Ready (told : Prop) (c : R850) : Prop extends Made c where
  initialised : c.initialised = true
  sys : told → c.sys = some R850_ISDB_T

theorem Made.setRegs {c : R850} (h : Made c) (r : Regs) : Made (c.setRegs r) :=
  ⟨h.xtal, h.noImr, h.noLpf⟩

theorem Ready.setRegs {told : Prop} {c : R850} (h : Ready told c) (r : Regs) :
    Ready told (c.setRegs r) :=
  ⟨h.toMade.setRegs r, h.initialised, h.sys⟩

section Keeps

variable {told : Prop}

theorem keeps_checkInit : Keeps (Ready told) (checkInit : OnChip R850 ω Unit) := by
  intro s hs
  have : checkInit s = (.ok (), s) := by
    rw [checkInit, Eff.bind_of_ok (m := OnChip.self) rfl, hs.initialised]
    rfl
  rw [this]
  exact hs

theorem keeps_isPllLocked : Keeps (Ready told) (isPllLocked i2c) :=
  keeps_checkInit.bind fun _ =>
    (safe_readReg i2c Fault.unready_bus 0x02).bind fun _ => .pure _

theorem setSystem_ready : Eff.Triple (fun s : R850 × ω => Ready told s.1)
    (setSystem R850_ISDB_T) (fun _ s => Ready True s.1)
    fun e s => e.unready = false ∧ Ready told s.1 :=
  Eff.Triple.bind keeps_checkInit fun _ => Eff.Triple.modify fun _ hs =>
    ⟨⟨hs.xtal, hs.noImr, hs.noLpf⟩, hs.initialised, fun _ => rfl⟩

theorem keeps_setFrequency (freq : Nat) : Keeps (Ready True) (setFrequency i2c freq) := by
  by_cases hfreq : 40000 ≤ freq ∧ freq ≤ 1002000
  · intro s hs
    have hrow : (paramsOf s.1.chip R850_ISDB_T).isSome := by
      generalize s.1.chip = chip
      revert chip
      decide
    obtain ⟨pll, hpll, -⟩ := pllOf_tuned hrow hfreq s.1.mixerMode
    obtain ⟨r, hr⟩ := setFrequency_run i2c hrow hfreq hs.xtal rfl rfl hs.initialised
      (hs.sys trivial) hs.noImr hs.noLpf hpll
    rw [hr]
    refine safe_sendPll i2c (I := Ready True) Fault.unready_bus
      (fun c r hc _ => hc.setRegs r) _ _ ?_
    exact ⟨⟨hs.xtal, hs.noImr, hs.noLpf⟩, hs.initialised, hs.sys⟩
  · refine keeps_checkInit.bind fun _ => ?_
    rw [Eff.require, if_neg hfreq, Eff.throw_bind]
    exact .throw (by decide)

end Keeps

/-! ### Coming up -/

theorem keeps_modifyRegs (f : Regs → Regs) :
    Keeps Made (modifyRegs f : OnChip R850 ω Unit) :=
  safe_modifyRegs fun _ hc => hc.setRegs _

theorem keeps_xtalPowerLoop (powers : List (Fin 4)) : Keeps Made (xtalPowerLoop i2c powers) := by
  induction powers with
  | nil => exact .pure _
  | cons i rest ih =>
    refine (keeps_modifyRegs _).bind fun _ => ?_
    refine (safe_flush i2c Fault.unready_bus _ _).bind fun _ => ?_
    refine (safe_readReg i2c Fault.unready_bus _).bind fun tmp => ?_
    split
    · exact .pure _
    · exact ih

theorem keeps_checkXtalPower : Keeps Made (checkXtalPower i2c) := by
  refine (keeps_modifyRegs _).bind fun _ => Keeps.self.bind fun _ => ?_
  refine (keeps_modifyRegs _).bind fun _ => ?_
  refine (safe_flush i2c Fault.unready_bus _ _).bind fun _ => ?_
  refine (keeps_xtalPowerLoop i2c _).bind fun _ => Keeps.modifySelf fun c hc => ?_
  exact ⟨hc.xtal, hc.noImr, hc.noLpf⟩

/-- What the attempts end with is what the bus failed with. -/
theorem identify_made (tries : Nat) {ret : Except Fault Unit}
    (hret : ∀ e, ret = .error e → e.unready = false) :
    Eff.Triple (fun s : R850 × ω => Made s.1) (identify i2c tries ret)
      (fun r s => (∀ e, r = .error e → e.unready = false) ∧ Made s.1)
      fun e s => e.unready = false ∧ Made s.1 := by
  induction tries generalizing ret with
  | zero => exact Eff.Triple.pure fun _ hs => ⟨hret, hs⟩
  | succ tries ih =>
    refine Eff.Triple.bind (Eff.Triple.attempt (Q := fun r s =>
      (∀ e, r = .error e → e.unready = false) ∧ Made s.1) ?_) fun r => ?_
    · have hread : Keeps Made (readReg i2c 0x00) := safe_readReg i2c Fault.unready_bus _
      refine hread.conseq (fun _ h => h) (fun _ _ h => ⟨nofun, h⟩) fun e _ h => ⟨?_, h.2⟩
      exact fun e' he => Except.error.inj he ▸ h.1
    · cases r with
      | error e => exact fun s hs => ih (fun e' he => hs.1 e' (by cases he; rfl)) s hs.2
      | ok tmp =>
        refine Eff.Triple.bind (Q := fun _ (s : R850 × ω) => Made s.1)
          (Eff.Triple.modify fun s hs => ?_) fun _ =>
          Eff.Triple.bind (Keeps.self (I := Made)) fun c => ?_
        · split
          · exact ⟨hs.2.xtal, hs.2.noImr, hs.2.noLpf⟩
          · exact hs.2
        · split
          · exact Eff.Triple.pure fun _ hs => ⟨nofun, hs⟩
          · exact ih nofun

theorem init_ready : Eff.Triple (fun s : R850 × ω => Made s.1) (init i2c)
    (fun _ s => Ready False s.1) fun e s => e.unready = false ∧ Made s.1 := by
  refine Eff.Triple.bind (Keeps.modifySelf (I := Made) ?_) fun _ => ?_
  · exact fun c hc => ⟨hc.xtal, hc.noImr, hc.noLpf⟩
  refine Eff.Triple.bind (identify_made i2c 4 nofun) fun r => ?_
  refine Eff.Triple.bind (Q := fun _ s => Made s.1)
    (Eff.Triple.ofExcept (fun _ _ _ hs => hs.2) fun e _ he hs => ⟨hs.1 e he, hs.2⟩) fun _ => ?_
  refine Eff.Triple.bind (safe_readRegs i2c (I := Made) Fault.unready_bus _ _) fun regs => ?_
  refine Eff.Triple.bind (keeps_checkXtalPower i2c) fun _ => ?_
  refine Eff.Triple.bind (safe_writeRegs i2c (I := Made) Fault.unready_bus _ _) fun _ => ?_
  refine Eff.Triple.bind (keeps_modifyRegs _) fun _ => Eff.Triple.modify fun _ hs => ?_
  exact ⟨⟨hs.xtal, hs.noImr, hs.noLpf⟩, rfl, False.elim⟩

theorem keeps_term : Keeps Made (term : OnChip R850 ω Unit) := by
  refine Keeps.modifySelf fun c hc => ?_
  split
  · exact ⟨hc.xtal, hc.noImr, hc.noLpf⟩
  · exact hc

end R850

end Tunelith.Px4
