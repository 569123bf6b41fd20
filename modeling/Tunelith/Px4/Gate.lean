import Tunelith.Px4.Counts
import Tunelith.Px4.Scan
import Tunelith.Px4.Signal

/-!
# The gates of a PX-MLT

The tuners of a bus all answer to one address, each behind the gate of its demodulator. `Gates` is
what a bus does with the gates, kept beside what is behind the bridge: which are open, and which
were when a tuner was written to or read from.

* `through_own_gate` — in every run of calls, each call reaches its own tuner and no other, until a
  write to a gate fails.
-/

namespace Tunelith.Px4

/-! ## The gates -/

structure Gates where
  /-- The demodulators whose gates are open, by bus. -/
  opened : UInt8 → List UInt8 := fun _ => []
  /-- A write to a gate failed, which may have opened or closed it or not. -/
  failed : Bool := false
  /-- The bus of every transfer to a tuner, and whose gates were open. -/
  reached : List (UInt8 × List UInt8) := []

/-- What a write sets a gate to. -/
def gateOf : List UInt8 → Option UInt8
  | [reg, value] => if reg = 0x08 then some value else none
  | _ => none

namespace Gates

def reach (g : Gates) (bus : UInt8) : Gates :=
  { g with reached := g.reached ++ [(bus, g.opened bus)] }

/-- The gate of a demodulator opens, or closes. -/
def set (g : Gates) (bus addr : UInt8) (value : UInt8) : Gates :=
  let others := (g.opened bus).filter (· ≠ addr)
  { g with opened := Function.update g.opened bus (if value = 0 then others else addr :: others) }

/-- A write that was taken, or not. -/
def write (g : Gates) (bus addr : UInt8) (data : List UInt8) (ok : Bool) : Gates :=
  if addr = Cxd2858er.ADDR then g.reach bus
  else match gateOf data with
    | some value => if ok then g.set bus addr value else { g with failed := true }
    | none => g

def read (g : Gates) (bus addr : UInt8) : Gates :=
  if addr = Cxd2858er.ADDR then g.reach bus else g

end Gates

end Px4

open Px4

/-- The same bus, with the gates on it. -/
def I2c.gated {ω : Type} (i2c : I2c ω) (bus : UInt8) : I2c (Gates × ω) where
  write addr data s :=
    let (r, w) := i2c.write addr data s.2
    (r, s.1.write bus addr data r.isOk, w)
  writeRead addr data n s :=
    let (r, w) := i2c.writeRead addr data n s.2
    (r, s.1.read bus addr, w)

namespace Px4

/-- The same bridge, with the gates behind it. -/
def Ops.gated {ω : Type} (ops : Ops ω) : Ops (Gates × ω) where
  writeGpio gpio high := (ops.writeGpio gpio high).zoom Prod.snd fun s w => (s.1, w)
  i2c bus := (ops.i2c bus).gated bus

/-! ## Calls -/

namespace PxMlt

variable {n : Nat} {ω κ : Type}

/-- Where the chips of a model are: none has the address of a tuner. -/
structure Wired (layout : Layout n) : Prop where
  slvt : ∀ i, (layout i).1 ≠ Cxd2858er.ADDR
  slvx : ∀ i, (layout i).1 + 2 ≠ Cxd2858er.ADDR
  /-- No two have a gate at one place. -/
  apart : ∀ i j, (layout i).2.1 = (layout j).2.1 → (layout i).1 + 2 = (layout j).1 + 2 → i = j

instance (layout : Layout n) : Decidable (Wired layout) :=
  decidable_of_iff ((∀ i, (layout i).1 ≠ Cxd2858er.ADDR) ∧
      (∀ i, (layout i).1 + 2 ≠ Cxd2858er.ADDR) ∧
      ∀ i j, (layout i).2.1 = (layout j).2.1 → (layout i).1 + 2 = (layout j).1 + 2 → i = j)
    ⟨fun h => ⟨h.1, h.2.1, h.2.2⟩, fun h => ⟨h.slvt, h.slvx, h.apart⟩⟩

inductive Call (n : Nat)
  | «open» (index : Fin n)
  | close (index : Fin n)
  | tune (index : Fin n) (params : TuneParams)
  | lock (index : Fin n)
  | signal (index : Fin n) (system : System)
  | setLnb (index : Fin n) (on : Bool)

/-- The tuner a call is for. -/
def Call.index : Call n → Fin n
  | .open i | .close i | .tune i _ | .lock i | .signal i _ | .setLnb i _ => i

/-- What the call does, whatever it ends with. -/
def call (scale : Cnr.Scale κ) (ops : Ops ω) (c : Call n) (s : PxMlt n × ω) : PxMlt n × ω :=
  match c with
  | .open i => («open» ops i s).2
  | .close i => (close ops i s).2
  | .tune i params => (tune ops i params s).2
  | .lock i => (lock ops i s).2
  | .signal i system => (signal scale ops i system s).2
  | .setLnb i on => (setLnb ops i on s).2

inductive Act (n : Nat) (ω : Type)
  | call (c : Call n)
  /-- What is behind the bridge is changed by others. -/
  | others (w : ω)

inductive Step (scale : Cnr.Scale κ) (ops : Ops ω) :
    PxMlt n × Gates × ω → Act n ω → PxMlt n × Gates × ω → Prop
  | call (s : PxMlt n × Gates × ω) (c : Call n) :
      Step scale ops s (.call c) (PxMlt.call scale ops.gated c s)
  | others (s : PxMlt n × Gates × ω) (w : ω) : Step scale ops s (.others w) (s.1, s.2.1, w)

/-! ## What is kept -/

/-- The gates are shut, and what was reached since `l` was reached through `x`; or a write to a gate
failed. -/
def Shut (x : UInt8 × UInt8) (l : List (UInt8 × List UInt8)) (g : Gates) : Prop :=
  g.failed = true ∨ (∀ bus, g.opened bus = []) ∧
    ∃ new, g.reached = l ++ new ∧ ∀ r ∈ new, r = (x.1, [x.2])

/-- The same with the gate `x` open. -/
def Through (x : UInt8 × UInt8) (l : List (UInt8 × List UInt8)) (g : Gates) : Prop :=
  g.failed = true ∨ g.opened = Function.update (fun _ => []) x.1 [x.2] ∧
    ∃ new, g.reached = l ++ new ∧ ∀ r ∈ new, r = (x.1, [x.2])

end PxMlt

variable {χ τ ω α β : Type} {P : χ → Prop} {I : Gates → Prop} {i2c : I2c ω} {bus : UInt8}

/-- `m` keeps what is known of the gates. -/
abbrev KeepsGates (I : Gates → Prop) (m : Eff Error (Gates × ω) α) : Prop :=
  Eff.Safe (fun s => I s.1) (fun _ => True) m

/-- `m` keeps what is known of the chip and of the gates. -/
abbrev Guards (P : χ → Prop) (I : Gates → Prop) (m : OnChip χ (Gates × ω) α) : Prop :=
  Eff.Safe (fun s => P s.1 ∧ I s.2.1) (fun _ => True) m

namespace Guards

theorem onBus {m : Eff Error (Gates × ω) α} (h : KeepsGates I m) :
    Guards P I (OnChip.bus m : OnChip χ (Gates × ω) α) := by
  refine Eff.Safe.of_kept fun s hs => ⟨hs.1, ?_⟩
  exact h.kept (s := s.2) hs.2

/-- What begins with a look at the chip knows the chip. -/
theorem self {f : χ → OnChip χ (Gates × ω) α} (h : ∀ c, P c → Guards P I (f c)) :
    Guards P I (OnChip.self >>= f) := by
  intro s hs
  rw [Eff.bind_of_ok (m := OnChip.self) rfl]
  exact h s.1 hs.1 s hs

theorem modifySelf {f : χ → χ} (h : ∀ c, P c → P (f c)) :
    Guards P I (OnChip.modifySelf f : OnChip χ (Gates × ω) Unit) :=
  Eff.Safe.modify fun s hs => ⟨h s.1 hs.1, hs.2⟩

theorem part {get : χ → τ} {put : χ → τ → χ} {Q : τ → Prop} {m : OnChip τ (Gates × ω) α}
    (hget : ∀ c, P c → Q (get c)) (hput : ∀ c t, P c → Q t → P (put c t)) (h : Guards Q I m) :
    Guards P I (OnChip.part get put m) := by
  refine Eff.Safe.of_kept fun s hs => ?_
  have hk := h.kept (s := (get s.1, s.2)) ⟨hget s.1 hs.1, hs.2⟩
  exact ⟨hput s.1 _ hs.1 hk.1, hk.2⟩

end Guards

/-! ## The demodulator -/

/-- A register other than that of the gate. -/
def Op.Clear : Op → Prop
  | .x reg _ | .t reg _ | .m reg _ _ | .b reg _ => reg ≠ 0x08
  | .sleepMs _ => True

instance : DecidablePred Op.Clear := fun op => by
  cases op <;> unfold Op.Clear <;> infer_instance

theorem gateOf_cons {reg : UInt8} {data : List UInt8} (h : reg ≠ 0x08) :
    gateOf (reg :: data) = none := by
  unfold gateOf
  split
  · next h' =>
    cases h'
    exact if_neg h
  · rfl

namespace Cxd2856er

variable {demod : Cxd2856er}

/-- Neither address is that of the tuner. -/
def Apart (demod : Cxd2856er) : Prop := demod.slvx ≠ Cxd2858er.ADDR ∧ demod.slvt ≠ Cxd2858er.ADDR

theorem keeps_send {addr reg : UInt8} {data : List UInt8} (ha : addr ≠ Cxd2858er.ADDR)
    (hr : reg ≠ 0x08) : KeepsGates I ((i2c.gated bus).write addr (reg :: data)) := by
  refine Eff.Safe.of_kept fun s hs => ?_
  show I (s.1.write bus addr (reg :: data) _)
  rw [Gates.write, if_neg ha, gateOf_cons hr]
  exact hs

theorem keeps_write (h : demod.Apart) {reg : UInt8} {data : List UInt8} (hr : reg ≠ 0x08) :
    KeepsGates I (demod.write (i2c.gated bus) reg data) := keeps_send h.2 hr

theorem keeps_read (h : demod.Apart) (reg : UInt8) (n : Nat) :
    KeepsGates I (demod.read (i2c.gated bus) reg n) := by
  refine Eff.Safe.of_kept fun s hs => ?_
  show I (s.1.read bus demod.slvt)
  rw [Gates.read, if_neg h.2]
  exact hs

theorem keeps_writeMask (h : demod.Apart) {reg : UInt8} (value mask : UInt8) (hr : reg ≠ 0x08) :
    KeepsGates I (demod.writeMask (i2c.gated bus) reg value mask) := by
  unfold writeMask
  split
  · exact keeps_write h hr
  · apply Eff.Safe.bind (keeps_read h reg 1)
    intro _
    exact keeps_write h hr

theorem keeps_run (h : demod.Apart) {ops : List Op} (hops : ∀ op ∈ ops, op.Clear) :
    KeepsGates I (demod.run (i2c.gated bus) ops) := by
  apply Eff.Safe.forEach
  intro op hop
  have hop := hops op hop
  cases op with
  | x reg value => exact keeps_send h.1 hop
  | t reg value => exact keeps_write h hop
  | m reg value mask => exact keeps_writeMask h value mask hop
  | b reg data => exact keeps_write h hop
  | sleepMs ms => exact Eff.Safe.pure _

theorem keeps_setup (h : demod.Apart) {ops : List (UInt8 × UInt8 × UInt8)}
    (hops : ∀ op ∈ ops, op.1 ≠ 0x08) : KeepsGates I (demod.setup (i2c.gated bus) ops) := by
  apply Eff.Safe.forEach
  intro op hop
  exact keeps_writeMask h op.2.1 op.2.2 (hops op hop)

theorem keeps_setTsPins (h : demod.Apart) (on : Bool) :
    KeepsGates I (demod.setTsPins (i2c.gated bus) on) := by
  apply Eff.Safe.bind (keeps_write h (by decide))
  intro _
  apply Eff.Safe.bind (keeps_read h _ 1)
  intro _
  apply Eff.Safe.bind (keeps_write h (by decide))
  intro _
  exact keeps_writeMask h _ _ (by decide)

theorem keeps_setTsid (h : demod.Apart) (tsid : UInt16) :
    KeepsGates I (demod.setTsid (i2c.gated bus) tsid) := by
  apply Eff.Safe.bind (keeps_write h (by decide))
  intro _
  exact keeps_write h (by decide)

theorem keeps_lockStatus (h : demod.Apart) :
    KeepsGates I (demod.lockStatus (i2c.gated bus)) := by
  unfold lockStatus
  split
  · apply Eff.Safe.bind (keeps_write h (by decide))
    intro _
    exact (keeps_read h _ 1).bind fun _ => Eff.Safe.pure _
  · apply Eff.Safe.bind (keeps_write h (by decide))
    intro _
    exact (keeps_read h _ 1).bind fun _ => Eff.Safe.pure _

theorem keeps_cnrRaw (h : demod.Apart) : KeepsGates I (demod.cnrRaw (i2c.gated bus)) := by
  unfold cnrRaw
  split
  · apply Eff.Safe.bind (keeps_write h (by decide))
    intro _
    apply Eff.Safe.bind (keeps_write h (by decide))
    intro _
    apply Eff.Safe.bind (keeps_read h _ 2)
    intro _
    exact (keeps_write h (by decide)).bind fun _ => Eff.Safe.pure _
  · apply Eff.Safe.bind (keeps_write h (by decide))
    intro _
    exact (keeps_read h _ 3).bind fun _ => Eff.Safe.pure _

/-! No sequence has a write to the gate. -/

theorem clear_init : ∀ op ∈ INIT, op.Clear := by decide

theorem clear_tsClock (mode : Mode) : ∀ op ∈ tsClock mode, op.Clear := by
  cases mode <;> decide

theorem clear_wakeup (mode : Mode) :
    ∀ op ∈ if mode = .t then WAKEUP_T else WAKEUP_S, op.Clear := by
  cases mode <;> decide

theorem clear_sleepHead : ∀ op ∈ SLEEP_HEAD, op.Clear := by decide

theorem clear_sleep (mode : Mode) : ∀ op ∈ if mode = .t then SLEEP_T else SLEEP_S, op.Clear := by
  cases mode <;> decide

theorem clear_postTune : ∀ op ∈ POST_TUNE, op.Clear := by decide

/-- The demodulator at its addresses. -/
def At (x : UInt8) (t : UInt8) (demod : Cxd2856er) : Prop := demod.slvx = x ∧ demod.slvt = t

variable {x t : UInt8}

theorem At.apart (h : At x t demod) (hx : x ≠ Cxd2858er.ADDR) (ht : t ≠ Cxd2858er.ADDR) :
    demod.Apart := ⟨h.1 ▸ hx, h.2 ▸ ht⟩

theorem keeps_setMode (mode : Option Mode) :
    Guards (At x t) I (setMode mode : OnChip Cxd2856er (Gates × ω) Unit) :=
  Guards.modifySelf fun _ hc => hc

section

variable (hx : x ≠ Cxd2858er.ADDR) (ht : t ≠ Cxd2858er.ADDR)

include hx ht

theorem keeps_init : Guards (At x t) I (init (i2c.gated bus)) := by
  apply Eff.Safe.bind (keeps_setMode none)
  intro _
  apply Guards.self
  intro c hc
  exact Guards.onBus (keeps_run (hc.apart hx ht) clear_init)

theorem keeps_sleep : Guards (At x t) I (sleep (i2c.gated bus)) := by
  apply Guards.self
  intro c hc
  have ha := hc.apart hx ht
  cases hm : c.mode with
  | none => exact Eff.Safe.pure _
  | some mode =>
    apply Eff.Safe.bind (keeps_setMode none)
    intro _
    apply Eff.Safe.bind (Guards.onBus (keeps_run ha clear_sleepHead))
    intro _
    apply Eff.Safe.bind (Guards.onBus (keeps_setTsPins ha false))
    intro _
    exact Guards.onBus (keeps_run ha (clear_sleep mode))

theorem keeps_wakeup (mode : Mode) : Guards (At x t) I (wakeup (i2c.gated bus) mode) := by
  apply Eff.Safe.bind (keeps_sleep hx ht)
  intro _
  apply Guards.self
  intro c hc
  have ha := hc.apart hx ht
  apply Eff.Safe.bind (Guards.onBus (keeps_run ha (clear_tsClock mode)))
  intro _
  apply Eff.Safe.bind (Guards.onBus (keeps_run ha (clear_wakeup mode)))
  intro _
  apply Eff.Safe.bind (Guards.onBus (keeps_setTsPins ha true))
  intro _
  exact keeps_setMode (some mode)

end

end Cxd2856er

/-! ## The tuner -/

namespace Cxd2858er

/-- Of the tuner nothing is known. -/
abbrev KeepsTuner (I : Gates → Prop) (m : OnChip Cxd2858er (Gates × ω) α) : Prop :=
  Guards (fun _ => True) I m

theorem keeps_setMode (mode : Option Mode) :
    KeepsTuner I (setMode mode : OnChip Cxd2858er (Gates × ω) Unit) :=
  Guards.modifySelf fun _ _ => trivial

section

variable (hI : ∀ g, I g → I (g.reach bus))

include hI

theorem keeps_write (reg : UInt8) (data : List UInt8) :
    KeepsTuner I (write (i2c.gated bus) reg data) := by
  apply Guards.onBus
  refine Eff.Safe.of_kept fun s hs => ?_
  show I (s.1.write bus ADDR (reg :: data) (i2c.write ADDR (reg :: data) s.2).1.isOk)
  rw [Gates.write, if_pos rfl]
  exact hI s.1 hs

theorem keeps_writes (regs : List (UInt8 × List UInt8)) :
    KeepsTuner I (writes (i2c.gated bus) regs) :=
  Eff.Safe.forEach fun _ _ => keeps_write hI _ _

theorem keeps_read (reg : UInt8) : KeepsTuner I (read (i2c.gated bus) reg) := by
  have hbus : KeepsTuner I (OnChip.bus ((i2c.gated bus).writeRead ADDR [reg] 1)) := by
    apply Guards.onBus
    refine Eff.Safe.of_kept fun s hs => ?_
    show I (s.1.read bus ADDR)
    rw [Gates.read, if_pos rfl]
    exact hI s.1 hs
  exact hbus.bind fun _ => Eff.Safe.pure _

theorem keeps_writeMask (reg value mask : UInt8) :
    KeepsTuner I (writeMask (i2c.gated bus) reg value mask) := by
  apply Eff.Safe.bind (keeps_read hI reg)
  intro _
  exact keeps_write hI _ _

theorem keeps_powerOn : KeepsTuner I (powerOn (i2c.gated bus)) := by
  apply Eff.Safe.bind (keeps_writes hI _)
  intro _
  apply Eff.Safe.bind (keeps_read hI _)
  intro _
  apply Eff.Safe.bind (Eff.Safe.require trivial)
  intro _
  apply Eff.Safe.bind (keeps_write hI _ _)
  intro _
  apply Eff.Safe.bind (keeps_read hI _)
  intro _
  exact keeps_writes hI _

theorem keeps_stop : KeepsTuner I (stop (i2c.gated bus)) := by
  apply Guards.self
  intro c _
  apply Eff.Safe.bind (keeps_setMode none)
  intro _
  cases c.mode with
  | none => exact Eff.Safe.pure _
  | some mode =>
    cases mode with
    | t =>
      apply Eff.Safe.bind (keeps_write hI _ _)
      intro _
      apply Eff.Safe.bind (keeps_writeMask hI _ _ _)
      intro _
      exact keeps_writes hI _
    | s => exact keeps_writes hI _

theorem keeps_setT (khz : UInt32) : KeepsTuner I (setT (i2c.gated bus) khz) := by
  apply Guards.self
  intro c _
  apply Eff.Safe.bind (Eff.Safe.when fun _ => keeps_stop hI)
  intro _
  apply Eff.Safe.bind (keeps_writes hI _)
  intro _
  apply Eff.Safe.bind (keeps_writeMask hI _ _ _)
  intro _
  apply Eff.Safe.bind (keeps_writes hI _)
  intro _
  exact keeps_setMode _

theorem keeps_setS (khz : UInt32) : KeepsTuner I (setS (i2c.gated bus) khz) := by
  apply Guards.self
  intro c _
  apply Eff.Safe.bind (Eff.Safe.when fun _ => keeps_stop hI)
  intro _
  apply Eff.Safe.bind (keeps_writes hI _)
  intro _
  exact keeps_setMode _

end

/-! Behind the gate of `x`, and only there, the tuner is reached. -/

variable {x : UInt8} {l : List (UInt8 × List UInt8)}

theorem gate_write {g : Gates} (hx : x ≠ ADDR) («open» ok : Bool) :
    g.write bus x [0x08, «open».toUInt8] ok =
      if ok then g.set bus x «open».toUInt8 else { g with failed := true } := by
  rw [Gates.write, if_neg hx]
  rfl

theorem through_reach {g : Gates} (h : PxMlt.Through (bus, x) l g) :
    PxMlt.Through (bus, x) l (g.reach bus) := by
  rcases h with h | ⟨hopen, new, hreached, hnew⟩
  · exact .inl h
  · refine .inr ⟨hopen, new ++ [(bus, g.opened bus)], ?_, ?_⟩
    · rw [Gates.reach, hreached, List.append_assoc]
    · intro r hr
      rcases List.mem_append.1 hr with hr | hr
      · exact hnew r hr
      · rw [List.mem_singleton.1 hr, hopen, Function.update_self]

theorem through_of_shut {g : Gates} (h : PxMlt.Shut (bus, x) l g) :
    PxMlt.Through (bus, x) l (g.set bus x 1) := by
  rcases h with h | ⟨hopen, hreached⟩
  · exact .inl h
  · have hfun : g.opened = fun _ => [] := funext hopen
    refine .inr ⟨?_, hreached⟩
    simp [Gates.set, hfun]

theorem shut_of_through {g : Gates} (h : PxMlt.Through (bus, x) l g) :
    PxMlt.Shut (bus, x) l (g.set bus x 0) := by
  rcases h with h | ⟨hopen, hreached⟩
  · exact .inl h
  · refine .inr ⟨fun b => ?_, hreached⟩
    simp [Gates.set, hopen]

/-- A gate is set, or the write to it fails. -/
theorem triple_gate {demod : Cxd2856er} {A B : Gates → Prop} (hx : demod.slvx ≠ ADDR)
    («open» : Bool) (h : ∀ g, A g → B (g.set bus demod.slvx «open».toUInt8)) :
    Eff.Triple (fun s => A s.1) (demod.gate (i2c.gated bus) «open») (fun _ s => B s.1)
      fun _ s => s.1.failed = true := by
  intro s hs
  have hg : ∀ ok, s.1.write bus demod.slvx [0x08, «open».toUInt8] ok =
      if ok then s.1.set bus demod.slvx «open».toUInt8 else { s.1 with failed := true } :=
    fun ok => gate_write hx «open» ok
  unfold Cxd2856er.gate I2c.gated
  cases hw : i2c.write demod.slvx [0x08, «open».toUInt8] s.2 with
  | mk r w =>
    cases r with
    | ok a =>
      simp only [hw]
      rw [hg]
      exact h s.1 hs
    | error e =>
      simp only [hw]
      rw [hg]
      rfl

theorem triple_bus {m : Eff Error (Gates × ω) α} {A B C : Gates → Prop}
    (h : Eff.Triple (fun s => A s.1) m (fun _ s => B s.1) fun _ s => C s.1) :
    Eff.Triple (fun s => A s.2.1) (OnChip.bus m : OnChip χ (Gates × ω) α)
      (fun _ s => B s.2.1) fun _ s => C s.2.1 := by
  apply Eff.Triple.zoom
  intro s₀ hs₀
  apply Eff.Triple.mapError
  exact h.conseq (fun s hs => hs ▸ hs₀) (fun _ _ hb => hb) fun _ _ hc => hc

/-- The tuner is reached behind its gate, which is shut again after. -/
theorem keeps_gated {demod : Cxd2856er} {m : OnChip Cxd2858er (Gates × ω) Unit}
    (hx : demod.slvx ≠ ADDR) (hm : KeepsTuner (PxMlt.Through (bus, demod.slvx) l) m) :
    KeepsTuner (PxMlt.Shut (bus, demod.slvx) l) (gated (i2c.gated bus) demod m) := by
  suffices Eff.Triple (fun s => PxMlt.Shut (bus, demod.slvx) l s.2.1)
      (gated (i2c.gated bus) demod m) (fun _ s => PxMlt.Shut (bus, demod.slvx) l s.2.1)
      fun _ s => PxMlt.Shut (bus, demod.slvx) l s.2.1 from
    this.conseq (fun _ hs => hs.2) (fun _ _ hs => ⟨trivial, hs⟩)
      fun _ _ hs => ⟨trivial, trivial, hs⟩
  have hopen : Eff.Triple (fun s => PxMlt.Shut (bus, demod.slvx) l s.2.1)
      (OnChip.bus (demod.gate (i2c.gated bus) true) : OnChip Cxd2858er (Gates × ω) Unit)
      (fun _ s => PxMlt.Through (bus, demod.slvx) l s.2.1)
      fun _ s => PxMlt.Shut (bus, demod.slvx) l s.2.1 :=
    triple_bus ((triple_gate hx true fun _ => through_of_shut).conseq (fun _ hs => hs)
      (fun _ _ hs => hs) fun _ _ => .inl)
  have hmid : Eff.Triple (fun s => PxMlt.Through (bus, demod.slvx) l s.2.1)
      (Eff.attempt m : OnChip Cxd2858er (Gates × ω) _)
      (fun _ s => PxMlt.Through (bus, demod.slvx) l s.2.1)
      fun _ s => PxMlt.Shut (bus, demod.slvx) l s.2.1 :=
    hm.attempt.conseq (fun _ hs => ⟨trivial, hs⟩) (fun _ _ hs => hs.2) fun _ _ hs => hs
  apply Eff.Triple.bind hopen
  intro _
  apply Eff.Triple.bind hmid
  intro result
  have hshut : Eff.Triple (fun s => PxMlt.Through (bus, demod.slvx) l s.2.1)
      (Eff.attempt (OnChip.bus (demod.gate (i2c.gated bus) false)) :
        OnChip Cxd2858er (Gates × ω) (Except Fault Unit))
      (fun _ s => PxMlt.Shut (bus, demod.slvx) l s.2.1)
      fun _ s => PxMlt.Shut (bus, demod.slvx) l s.2.1 :=
    Eff.Triple.attempt (triple_bus ((triple_gate hx false fun _ => shut_of_through).conseq
      (fun _ hs => hs) (fun _ _ hs => hs) fun _ _ => .inl))
  apply Eff.Triple.bind hshut
  intro closed
  cases result with
  | ok a => exact Eff.Triple.ofExcept (fun _ _ _ hs => hs) fun _ _ _ hs => hs
  | error e => exact Eff.Triple.throw fun _ hs => hs

end Cxd2858er

/-! ## The tuners -/

namespace PxMlt

variable {n : Nat} {κ : Type} {layout : Layout n} {ops : Ops ω}
  {l : List (UInt8 × List UInt8)} {J : PxMlt n → Prop}

/-- The gate of a tuner. -/
def gateAt (layout : Layout n) (i : Fin n) : UInt8 × UInt8 := ((layout i).2.1, (layout i).1 + 2)

/-- The chips are where the layout has them. -/
def Placed (layout : Layout n) (c : PxMlt n) : Prop :=
  ∀ i, (c.chips i).i2cBus = (layout i).2.1 ∧
    Cxd2856er.At ((layout i).1 + 2) (layout i).1 (c.chips i).demod

theorem placed_new : Placed layout (new layout) := fun _ => ⟨rfl, rfl, rfl⟩

theorem placed_demod {c : PxMlt n} {i : Fin n} {demod : Cxd2856er} (h : Placed layout c)
    (hd : Cxd2856er.At ((layout i).1 + 2) (layout i).1 demod) :
    Placed layout { c with
      chips := Function.update c.chips i { c.chips i with demod := demod } } := by
  intro j
  by_cases hj : j = i
  · subst hj
    simpa using ⟨(h j).1, hd⟩
  · simpa [Function.update_of_ne hj] using h j

theorem placed_tuner {c : PxMlt n} {i : Fin n} {tuner : Cxd2858er} (h : Placed layout c) :
    Placed layout { c with
      chips := Function.update c.chips i { c.chips i with tuner := tuner } } := by
  intro j
  by_cases hj : j = i
  · subst hj
    simpa using h j
  · simpa [Function.update_of_ne hj] using h j

/-- What a call keeps. -/
abbrev KeepsShut (layout : Layout n) (i : Fin n) (l : List (UInt8 × List UInt8))
    (m : OnChip (PxMlt n) (Gates × ω) α) : Prop :=
  Guards (Placed layout) (Shut (gateAt layout i) l) m

variable {i : Fin n}

theorem keeps_onDemod {m : OnChip Cxd2856er (Gates × ω) α}
    (h : Guards (Cxd2856er.At ((layout i).1 + 2) (layout i).1) (Shut (gateAt layout i) l) m) :
    KeepsShut layout i l (onDemod i m) :=
  Guards.part (fun _ hc => (hc i).2) (fun _ _ hc hd => placed_demod hc hd) h

theorem keeps_onTuner {m : OnChip Cxd2858er (Gates × ω) α}
    (h : Cxd2858er.KeepsTuner (Shut (gateAt layout i) l) m) :
    KeepsShut layout i l (onTuner i m) :=
  Guards.part (fun _ _ => trivial) (fun _ _ hc _ => placed_tuner hc) h

theorem keeps_gpio (gpio : UInt8) (high : Bool) {I : Gates → Prop} :
    KeepsGates I (ops.gated.writeGpio gpio high) := Eff.Safe.of_kept fun _ hs => hs

theorem keeps_power (on : Bool) {I : Gates → Prop} : KeepsGates I (power ops.gated on) := by
  cases on with
  | true =>
    apply Eff.Safe.bind (keeps_gpio _ _)
    intro _
    exact keeps_gpio _ _
  | false =>
    apply Eff.Triple.bind (keeps_gpio _ _).attempt
    intro _
    apply Eff.Triple.bind (keeps_gpio _ _).attempt
    intro _
    exact Eff.Safe.ofExcept fun _ _ => trivial

theorem clear_demodSetup : ∀ op ∈ DEMOD_SETUP, op.1 ≠ 0x08 := by
  have hall : (DEMOD_SETUP.all fun op => op.1 != 0x08) = true := by decide
  intro op hop
  exact bne_iff_ne.1 (List.all_eq_true.1 hall op hop)

section

variable (hw : Wired layout)

include hw

theorem apart_of_placed {c : PxMlt n} (hc : Placed layout c) : (c.chips i).demod.Apart :=
  (hc i).2.apart (hw.slvx i) (hw.slvt i)

/-- What the tuner does behind its gate. -/
theorem keeps_behind {c : PxMlt n} (hc : Placed layout c)
    {m : OnChip Cxd2858er (Gates × ω) Unit}
    (hm : ∀ I : Gates → Prop, (∀ g, I g → I (g.reach (c.chips i).i2cBus)) →
      Cxd2858er.KeepsTuner I m) :
    Cxd2858er.KeepsTuner (Shut (gateAt layout i) l)
      (Cxd2858er.gated (ops.gated.i2c (c.chips i).i2cBus) (c.chips i).demod m) := by
  have hgate : gateAt layout i = ((c.chips i).i2cBus, (c.chips i).demod.slvx) :=
    Prod.ext (hc i).1.symm (hc i).2.1.symm
  rw [hgate]
  apply Cxd2858er.keeps_gated (apart_of_placed hw hc).1
  exact hm _ fun _ => Cxd2858er.through_reach

theorem keeps_initChip : KeepsShut layout i l (initChip ops.gated i) := by
  apply Guards.self
  intro c hc
  apply Eff.Safe.bind (keeps_onDemod (Cxd2856er.keeps_init (hw.slvx i) (hw.slvt i)))
  intro _
  have htuner : Cxd2858er.KeepsTuner (Shut (gateAt layout i) l)
      (Cxd2858er.init (ops.gated.i2c (c.chips i).i2cBus) (c.chips i).demod) := by
    apply Eff.Safe.bind (Cxd2858er.keeps_setMode none)
    intro _
    exact keeps_behind hw hc fun I hI => Cxd2858er.keeps_powerOn hI
  apply Eff.Safe.bind (keeps_onTuner htuner)
  intro _
  exact Guards.onBus (Cxd2856er.keeps_setup (apart_of_placed hw hc) clear_demodSetup)

theorem keeps_open : KeepsShut layout i l («open» ops.gated i) := by
  apply Guards.self
  intro c hc
  apply Eff.Safe.bind (Eff.Safe.when fun _ => Guards.onBus (keeps_power true))
  intro _
  apply Eff.Triple.bind (keeps_initChip hw).attempt
  intro result
  apply Guards.self
  intro c' hc'
  have hoff : KeepsShut layout i l (Eff.when (result.toOption.isNone = true ∧ c'.openCount = 0) do
      let _ ← Eff.attempt (OnChip.bus (power ops.gated false))) := by
    apply Eff.Safe.when
    intro _
    apply Eff.Triple.bind (Guards.onBus (keeps_power false)).attempt
    intro _
    exact Eff.Safe.pure _
  apply Eff.Safe.bind hoff
  intro _
  apply Eff.Safe.bind (Eff.Safe.ofExcept fun _ _ => trivial)
  intro _
  exact Guards.modifySelf fun _ hc => hc

theorem keeps_close : KeepsShut layout i l (close ops.gated i) := by
  apply Guards.self
  intro c hc
  have hterm : Cxd2858er.KeepsTuner (Shut (gateAt layout i) l)
      (Cxd2858er.term (ops.gated.i2c (c.chips i).i2cBus) (c.chips i).demod) := by
    apply Guards.self
    intro t _
    apply Eff.Safe.when
    intro _
    exact keeps_behind hw hc fun I hI => Cxd2858er.keeps_stop hI
  apply Eff.Triple.bind (keeps_onTuner hterm).attempt
  intro _
  have hsleep : Guards (Cxd2856er.At ((layout i).1 + 2) (layout i).1) (Shut (gateAt layout i) l)
      (Cxd2856er.sleep (ops.gated.i2c (c.chips i).i2cBus)) :=
    Cxd2856er.keeps_sleep (hw.slvx i) (hw.slvt i)
  apply Eff.Triple.bind (keeps_onDemod hsleep).attempt
  intro _
  apply Guards.self
  intro c' hc'
  apply Eff.Safe.bind (Eff.Safe.require trivial)
  intro _
  have hcount : KeepsShut (ω := ω) layout i l
      (OnChip.modifySelf fun c => { c with openCount := c.openCount - 1 }) :=
    Guards.modifySelf fun _ hc => hc
  apply Eff.Safe.bind hcount
  intro _
  apply Guards.self
  intro c'' hc''
  apply Eff.Safe.when
  intro _
  apply Eff.Triple.bind (Guards.onBus (keeps_power false)).attempt
  intro _
  exact Eff.Safe.pure _

theorem keeps_tune (params : TuneParams) : KeepsShut layout i l (tune ops.gated i params) := by
  apply Eff.Safe.bind (Eff.Safe.ofExcept fun _ _ => trivial)
  intro mode
  apply Eff.Safe.bind (Eff.Safe.ofExcept fun _ _ => trivial)
  intro khz
  apply Guards.self
  intro c hc
  have ha : (c.chips i).demod.Apart := apart_of_placed hw hc
  apply Eff.Safe.bind (Eff.Safe.forEach fun _ _ => Guards.onBus (Cxd2856er.keeps_setTsid ha _))
  intro _
  apply Eff.Safe.bind (keeps_onDemod (Cxd2856er.keeps_wakeup (hw.slvx i) (hw.slvt i) mode))
  intro _
  refine Eff.Safe.bind (keeps_onTuner ?_) fun _ => ?_
  · cases mode with
    | t => exact keeps_behind hw hc fun I hI => Cxd2858er.keeps_setT hI khz
    | s => exact keeps_behind hw hc fun I hI => Cxd2858er.keeps_setS hI khz
  · exact Guards.onBus (Cxd2856er.keeps_run ha Cxd2856er.clear_postTune)

theorem keeps_lock : KeepsShut layout i l (lock ops.gated i) := by
  apply Guards.self
  intro c hc
  apply Eff.Safe.bind (Guards.onBus (Cxd2856er.keeps_lockStatus (apart_of_placed hw hc)))
  intro status
  split <;> exact Eff.Safe.pure _

theorem keeps_signal (scale : Cnr.Scale κ) (system : System) :
    KeepsShut layout i l (signal scale ops.gated i system) := by
  apply Guards.self
  intro c hc
  have ha : (c.chips i).demod.Apart := apart_of_placed hw hc
  apply Eff.Safe.bind (Guards.onBus (Cxd2856er.keeps_lockStatus ha))
  intro _
  apply Eff.Safe.bind (Guards.onBus (Cxd2856er.keeps_cnrRaw ha))
  intro _
  apply Eff.Safe.bind (Eff.Safe.ofExcept fun _ _ => trivial)
  intro _
  exact Eff.Safe.pure _

omit hw in
theorem keeps_setLnb (on : Bool) : KeepsShut layout i l (setLnb ops.gated i on) := by
  have hgpio : Guards (fun _ : Lnb n => True) (Shut (gateAt layout i) l)
      (OnChip.bus (ops.gated.writeGpio Lnb.GPIO on)) := Guards.onBus (keeps_gpio _ _)
  have hset : Guards (fun _ => True) (Shut (gateAt layout i) l) (Lnb.set ops.gated i on) := by
    apply Guards.self
    intro lnb _
    apply Eff.Safe.when
    intro _
    dsimp only
    apply Eff.Safe.bind (Eff.Safe.when fun _ => hgpio)
    intro _
    exact Guards.modifySelf (P := fun _ => True) fun _ _ => trivial
  exact Guards.part (fun _ _ => trivial) (fun _ _ hc _ => hc) hset

/-- A call leaves all gates shut, and reaches tuners through that of its own alone. -/
theorem call_keeps (scale : Cnr.Scale κ) (c : Call n) {s : PxMlt n × Gates × ω}
    (hs : Placed layout s.1 ∧ Shut (gateAt layout c.index) l s.2.1) :
    Placed layout (call scale ops.gated c s).1 ∧
      Shut (gateAt layout c.index) l (call scale ops.gated c s).2.1 := by
  cases c with
  | «open» i => exact (keeps_open hw).kept hs
  | close i => exact (keeps_close hw).kept hs
  | tune i params => exact (keeps_tune hw params).kept hs
  | lock i => exact (keeps_lock hw).kept hs
  | signal i system => exact (keeps_signal hw scale system).kept hs
  | setLnb i on => exact (keeps_setLnb on).kept hs

end

/-! ## Runs -/

/-- What was reached was the tuner `j`: the gate open was that of `j`. -/
def Reaches (layout : Layout n) (r : UInt8 × List UInt8) (j : Fin n) : Prop :=
  r.1 = (layout j).2.1 ∧ (layout j).1 + 2 ∈ r.2

/-- Through the gate of a tuner no other is reached. -/
theorem reaches_iff (hw : Wired layout) {r : UInt8 × List UInt8}
    (hr : r = ((gateAt layout i).1, [(gateAt layout i).2])) (j : Fin n) :
    Reaches layout r j ↔ j = i := by
  subst hr
  constructor
  · intro ⟨hbus, hmem⟩
    exact (hw.apart i j hbus (List.mem_singleton.1 hmem).symm).symm
  · intro h
    subst h
    exact ⟨rfl, List.mem_singleton_self _⟩

/-- The chips are in place and no gate is open, unless a write to one failed. -/
def AtEase (layout : Layout n) (s : PxMlt n × Gates × ω) : Prop :=
  Placed layout s.1 ∧ (s.2.1.failed = true ∨ ∀ bus, s.2.1.opened bus = [])

theorem shut_of_atEase {s : PxMlt n × Gates × ω} (h : AtEase layout s) (x : UInt8 × UInt8) :
    Shut x s.2.1.reached s.2.1 := by
  rcases h.2 with hf | hopen
  · exact .inl hf
  · exact .inr ⟨hopen, [], (List.append_nil _).symm, nofun⟩

theorem atEase_of_reachable (hw : Wired layout) {scale : Cnr.Scale κ} {w : ω}
    {s : PxMlt n × Gates × ω}
    (h : Lts.Reachable (Step scale ops) (new layout, {}, w) s) : AtEase layout s := by
  apply h.invariant
  · exact ⟨placed_new, .inr fun _ => rfl⟩
  · intro s a s' _ hs hstep
    cases hstep with
    | call c =>
      have hk : Placed layout _ ∧ Shut _ s.2.1.reached (PxMlt.call scale ops.gated c s).2.1 :=
        call_keeps hw scale c ⟨hs.1, shut_of_atEase hs _⟩
      exact ⟨hk.1, hk.2.imp_right And.left⟩
    | others w => exact hs

/-- No two tuners of a model are behind one gate. -/
theorem wired_of_models {m : Px4Driver.Model} (hm : m ∈ Px4Driver.MODELS)
    {chips : List (UInt8 × UInt8 × UInt8)} (hk : m.kind = .pxMlt chips) : Wired chips.get := by
  have hall : ∀ m ∈ Px4Driver.MODELS, (match m.kind with
      | .pxMlt chips => decide (Wired chips.get)
      | _ => true) = true := by decide
  have hwired := hall m hm
  rw [hk] at hwired
  exact of_decide_eq_true hwired

/-- In every run of a model of the series, the tuners the other calls use come and go and the chips
behind the bridge do what they will: a call leaves every gate shut, and what it reached at the
address of the tuners is its own tuner and no other, unless a write to a gate failed. -/
theorem through_own_gate {m : Px4Driver.Model} (hm : m ∈ Px4Driver.MODELS)
    {chips : List (UInt8 × UInt8 × UInt8)} (hk : m.kind = .pxMlt chips) {scale : Cnr.Scale κ}
    {w : ω} {s : PxMlt chips.length × Gates × ω}
    (h : Lts.Reachable (Step scale ops) (new chips.get, {}, w) s) (c : Call chips.length)
    (hok : (call scale ops.gated c s).2.1.failed = false) :
    (∀ bus, (call scale ops.gated c s).2.1.opened bus = []) ∧
      ∃ new, (call scale ops.gated c s).2.1.reached = s.2.1.reached ++ new ∧
        ∀ r ∈ new, ∀ j, Reaches chips.get r j ↔ j = c.index := by
  have hw := wired_of_models hm hk
  have hs := atEase_of_reachable hw h
  have hk : Placed chips.get _ ∧ Shut _ s.2.1.reached (call scale ops.gated c s).2.1 :=
    call_keeps hw scale c ⟨hs.1, shut_of_atEase hs _⟩
  rcases hk.2 with hf | ⟨hopen, new, hreached, hnew⟩
  · rw [hok] at hf
    exact nomatch hf
  · exact ⟨hopen, new, hreached, fun r hr => reaches_iff hw (hnew r hr)⟩

/-- The second tuner of a PX-MLT5PE is opened. -/
theorem through_own_gate_open :
    ∃ s : PxMlt Px4Driver.MLT5PE.length × Gates × Unit,
      s = call (⟨fun _ => 0, fun _ => 0⟩ : Cnr.Scale Nat) quiet.gated (.open ⟨1, by decide⟩)
        (new Px4Driver.MLT5PE.get, {}, ()) ∧
      (∀ bus, s.2.1.opened bus = []) ∧ s.2.1.reached ≠ [] ∧
      ∀ r ∈ s.2.1.reached, ∀ j, Reaches Px4Driver.MLT5PE.get r j ↔ j = ⟨1, by decide⟩ := by
  have hok : (call (⟨fun _ => 0, fun _ => 0⟩ : Cnr.Scale Nat) quiet.gated
      (.open (⟨1, by decide⟩ : Fin Px4Driver.MLT5PE.length))
      (new Px4Driver.MLT5PE.get, {}, ())).2.1.failed = false := by decide +kernel
  have hmem : (⟨0x024e, "PLEX PX-MLT5PE", .pxMlt Px4Driver.MLT5PE⟩ : Px4Driver.Model) ∈
      Px4Driver.MODELS := by decide
  obtain ⟨hopen, new, hreached, hnew⟩ := through_own_gate hmem rfl (.refl _) _ hok
  rw [List.nil_append] at hreached
  exact ⟨_, rfl, hopen, by decide +kernel, hreached ▸ hnew⟩

end PxMlt

end Tunelith.Px4
