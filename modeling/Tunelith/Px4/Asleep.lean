import Tunelith.Px4.Silent

/-!
# Asleep as recorded

Whether a CXD2856ER that is recorded as asleep is asleep, whatever of what it is told fails.

* `I2c.logged` — a bus with a log of the writes it was asked for.
* `FallsAsleep`, `Wakes` — the sequences going through, by what the bus answers.
* `Watched`, `Awake` — the demodulator as the driver has it, and what it was told to good effect.
* `GoesThrough` — the calls that leave the record right.
-/

namespace Tunelith

/-- A write to a bus, and whether it took effect. -/
structure Transfer where
  addr : UInt8
  data : List UInt8
  ok : Bool
deriving DecidableEq, Repr

/-- The same bus, with a log of what is written to it. -/
def I2c.logged {ω : Type} (i2c : I2c ω) : I2c (List Transfer × ω) where
  write addr data s :=
    let (r, w) := i2c.write addr data s.2
    (r, s.1 ++ [⟨addr, data, r.isOk⟩], w)
  writeRead addr data n := (i2c.writeRead addr data n).zoom Prod.snd fun s w => (s.1, w)

namespace Px4

namespace Cxd2856er

variable {ω : Type} (demod : Cxd2856er) (i2c : I2c ω)

/-! ## The sequences as wholes -/

/-- The sleep sequence. -/
def fallAsleep (mode : Mode) : Eff Error ω Unit := do
  demod.run i2c SLEEP_HEAD
  demod.setTsPins i2c false
  demod.run i2c (if mode = .t then SLEEP_T else SLEEP_S)

/-- What `wakeup` does to a demodulator that sleeps. -/
def wake (mode : Mode) : Eff Error ω Unit := do
  demod.run i2c (tsClock mode)
  demod.run i2c (if mode = .t then WAKEUP_T else WAKEUP_S)
  demod.setTsPins i2c true

/-! ## What has to go through -/

variable {demod i2c}

/-- The write goes through. -/
def Sent (i2c : I2c ω) (addr : UInt8) (data : List UInt8) (w w' : ω) : Prop :=
  i2c.write addr data w = (.ok (), w')

/-- The bits in the mask are written. -/
def MaskSent (demod : Cxd2856er) (i2c : I2c ω) (reg value mask : UInt8) (w w' : ω) : Prop :=
  if mask = 0xff then Sent i2c demod.slvt [reg, value] w w'
  else ∃ b w₁, i2c.writeRead demod.slvt [reg] 1 w = (.ok b, w₁) ∧
    Sent i2c demod.slvt [reg, (byte b &&& ~~~mask) ||| (value &&& mask)] w₁ w'

def OpSent (demod : Cxd2856er) (i2c : I2c ω) : Op → ω → ω → Prop
  | .x reg value => Sent i2c demod.slvx [reg, value]
  | .t reg value => Sent i2c demod.slvt [reg, value]
  | .m reg value mask => MaskSent demod i2c reg value mask
  | .b reg data => Sent i2c demod.slvt (reg :: data)
  | .sleepMs _ => Eq

/-- Everything that is sent for the operations goes through. -/
def OpsSent (demod : Cxd2856er) (i2c : I2c ω) : List Op → ω → ω → Prop
  | [], w, w' => w = w'
  | op :: ops, w, w' => ∃ w₁, OpSent demod i2c op w w₁ ∧ OpsSent demod i2c ops w₁ w'

/-- The TS pins are found and set. -/
def PinsSet (demod : Cxd2856er) (i2c : I2c ω) (on : Bool) (w w' : ω) : Prop :=
  ∃ w₁ c4 w₂ w₃, Sent i2c demod.slvt [0x00, 0x00] w w₁ ∧
    i2c.writeRead demod.slvt [0xc4] 1 w₁ = (.ok c4, w₂) ∧
    Sent i2c demod.slvt [0x00, 0x00] w₂ w₃ ∧
    MaskSent demod i2c 0x81 (if on then 0x00 else 0xff)
      (if byte c4 &&& 0x88 = 0x80 then 0x01 else if byte c4 &&& 0x88 = 0x88 then 0x80 else 0xff)
      w₃ w'

/-- The whole sleep sequence goes through. -/
def FallsAsleep (demod : Cxd2856er) (i2c : I2c ω) (mode : Mode) (w w' : ω) : Prop :=
  ∃ w₁ w₂, OpsSent demod i2c SLEEP_HEAD w w₁ ∧ PinsSet demod i2c false w₁ w₂ ∧
    OpsSent demod i2c (if mode = .t then SLEEP_T else SLEEP_S) w₂ w'

/-- Everything that wakes it up goes through. -/
def Wakes (demod : Cxd2856er) (i2c : I2c ω) (mode : Mode) (w w' : ω) : Prop :=
  ∃ w₁ w₂, OpsSent demod i2c (tsClock mode) w w₁ ∧
    OpsSent demod i2c (if mode = .t then WAKEUP_T else WAKEUP_S) w₁ w₂ ∧
    PinsSet demod i2c true w₂ w'

theorem writeMask_ok {reg value mask : UInt8} {w w' : ω} :
    demod.writeMask i2c reg value mask w = (.ok (), w') ↔
      MaskSent demod i2c reg value mask w w' := by
  unfold writeMask MaskSent
  split
  · exact Iff.rfl
  · exact Eff.bind_eq_ok

theorem run_ok {ops : List Op} {w w' : ω} :
    demod.run i2c ops w = (.ok (), w') ↔ OpsSent demod i2c ops w w' := by
  induction ops generalizing w with
  | nil => exact ⟨fun h => congrArg Prod.snd h, fun h => congrArg _ h⟩
  | cons op ops ih =>
    have hop : ∀ w₁, (match op with
        | .x reg value => i2c.write demod.slvx [reg, value]
        | .t reg value => demod.write i2c reg [value]
        | .m reg value mask => demod.writeMask i2c reg value mask
        | .b reg data => demod.write i2c reg data
        | .sleepMs _ => pure ()) w = (.ok (), w₁) ↔ OpSent demod i2c op w w₁ := by
      intro w₁
      cases op with
      | x reg value => exact Iff.rfl
      | t reg value => exact Iff.rfl
      | m reg value mask => exact writeMask_ok
      | b reg data => exact Iff.rfl
      | sleepMs ms => exact ⟨fun h => congrArg Prod.snd h, fun h => congrArg _ h⟩
    rw [run, Eff.forEach, Eff.bind_eq_ok]
    constructor
    · rintro ⟨_, w₁, h₁, h₂⟩
      exact ⟨w₁, (hop w₁).1 h₁, ih.1 h₂⟩
    · rintro ⟨w₁, h₁, h₂⟩
      exact ⟨(), w₁, (hop w₁).2 h₁, ih.2 h₂⟩

theorem setTsPins_ok {on : Bool} {w w' : ω} :
    demod.setTsPins i2c on w = (.ok (), w') ↔ PinsSet demod i2c on w w' := by
  simp only [setTsPins, Eff.bind_eq_ok, writeMask_ok, PinsSet, write, read, Sent]
  constructor
  · intro ⟨_, w₁, h₁, c4, w₂, h₂, _, w₃, h₃, h₄⟩
    exact ⟨w₁, c4, w₂, w₃, h₁, h₂, h₃, h₄⟩
  · intro ⟨w₁, c4, w₂, w₃, h₁, h₂, h₃, h₄⟩
    exact ⟨(), w₁, h₁, c4, w₂, h₂, (), w₃, h₃, h₄⟩

theorem fallAsleep_ok {mode : Mode} {w w' : ω} :
    demod.fallAsleep i2c mode w = (.ok (), w') ↔ FallsAsleep demod i2c mode w w' := by
  simp only [fallAsleep, Eff.bind_eq_ok]
  constructor
  · intro ⟨_, w₁, h₁, _, w₂, h₂, h₃⟩
    exact ⟨w₁, w₂, run_ok.1 h₁, setTsPins_ok.1 h₂, run_ok.1 h₃⟩
  · intro ⟨w₁, w₂, h₁, h₂, h₃⟩
    exact ⟨(), w₁, run_ok.2 h₁, (), w₂, setTsPins_ok.2 h₂, run_ok.2 h₃⟩

theorem wake_ok {mode : Mode} {w w' : ω} :
    demod.wake i2c mode w = (.ok (), w') ↔ Wakes demod i2c mode w w' := by
  simp only [wake, Eff.bind_eq_ok]
  constructor
  · intro ⟨_, w₁, h₁, _, w₂, h₂, h₃⟩
    exact ⟨w₁, w₂, run_ok.1 h₁, run_ok.1 h₂, setTsPins_ok.1 h₃⟩
  · intro ⟨w₁, w₂, h₁, h₂, h₃⟩
    exact ⟨(), w₁, run_ok.2 h₁, (), w₂, run_ok.2 h₂, setTsPins_ok.2 h₃⟩

/-! ## What the log says -/

theorem logged_write (addr : UInt8) (data : List UInt8) (log : List Transfer) (w : ω) :
    i2c.logged.write addr data (log, w) = ((i2c.write addr data w).1,
      log ++ [⟨addr, data, (i2c.write addr data w).1.isOk⟩], (i2c.write addr data w).2) := rfl

/-- What a log starts with is kept. -/
abbrev KeepsLog {α : Type} (l : List Transfer) (m : Eff Error (List Transfer × ω) α) : Prop :=
  Eff.Safe (fun s => l <+: s.1) (fun _ => True) m

theorem keepsLog_write (l : List Transfer) (addr : UInt8) (data : List UInt8) :
    KeepsLog l (i2c.logged.write addr data) :=
  Eff.Safe.of_kept fun _ hs => hs.trans (List.prefix_append _ _)

theorem keepsLog_writeRead (l : List Transfer) (addr : UInt8) (data : List UInt8) (n : Nat) :
    KeepsLog l (i2c.logged.writeRead addr data n) :=
  Eff.Safe.of_kept fun _ hs => hs

theorem keepsLog_writeMask (l : List Transfer) (reg value mask : UInt8) :
    KeepsLog l (demod.writeMask i2c.logged reg value mask) := by
  unfold writeMask
  split
  · exact keepsLog_write l _ _
  · exact (keepsLog_writeRead l _ _ _).bind fun _ => keepsLog_write l _ _

theorem keepsLog_run (l : List Transfer) (ops : List Op) :
    KeepsLog l (demod.run i2c.logged ops) := by
  apply Eff.Safe.forEach
  intro op _
  cases op with
  | x reg value => exact keepsLog_write l _ _
  | t reg value => exact keepsLog_write l _ _
  | m reg value mask => exact keepsLog_writeMask l _ _ _
  | b reg data => exact keepsLog_write l _ _
  | sleepMs ms => exact Eff.Safe.pure _

theorem keepsLog_setTsPins (l : List Transfer) (on : Bool) :
    KeepsLog l (demod.setTsPins i2c.logged on) := by
  apply Eff.Safe.bind (keepsLog_write l _ _)
  intro _
  apply Eff.Safe.bind (keepsLog_writeRead l _ _ _)
  intro _
  exact (keepsLog_write l _ _).bind fun _ => keepsLog_writeMask l _ _ _

/-! The log does not change what is done. -/

theorem does_write (addr : UInt8) (data : List UInt8) :
    Eff.Does Prod.snd (i2c.logged.write addr data) (i2c.write addr data) := fun _ => rfl

theorem does_writeRead (addr : UInt8) (data : List UInt8) (n : Nat) :
    Eff.Does Prod.snd (i2c.logged.writeRead addr data n) (i2c.writeRead addr data n) :=
  fun _ => rfl

theorem does_writeMask (reg value mask : UInt8) :
    Eff.Does Prod.snd (demod.writeMask i2c.logged reg value mask)
      (demod.writeMask i2c reg value mask) := by
  unfold writeMask
  split
  · exact does_write _ _
  · exact (does_writeRead _ _ _).bind fun _ => does_write _ _

theorem does_run (ops : List Op) :
    Eff.Does Prod.snd (demod.run i2c.logged ops) (demod.run i2c ops) := by
  apply Eff.Does.forEach
  intro op
  cases op with
  | x reg value => exact does_write _ _
  | t reg value => exact does_write _ _
  | m reg value mask => exact does_writeMask _ _ _
  | b reg data => exact does_write _ _
  | sleepMs ms => exact Eff.Does.pure _

theorem does_setTsPins (on : Bool) :
    Eff.Does Prod.snd (demod.setTsPins i2c.logged on) (demod.setTsPins i2c on) := by
  apply Eff.Does.bind (does_write _ _)
  intro _
  apply Eff.Does.bind (does_writeRead _ _ _)
  intro _
  exact (does_write _ _).bind fun _ => does_writeMask _ _ _

theorem does_fallAsleep (mode : Mode) :
    Eff.Does Prod.snd (demod.fallAsleep i2c.logged mode) (demod.fallAsleep i2c mode) :=
  (does_run _).bind fun _ => (does_setTsPins _).bind fun _ => does_run _

theorem does_wake (mode : Mode) :
    Eff.Does Prod.snd (demod.wake i2c.logged mode) (demod.wake i2c mode) :=
  (does_run _).bind fun _ => (does_run _).bind fun _ => does_setTsPins _

/-! ## The operations by what they do on the bus -/

theorem init_apply (w : ω) : init i2c (demod, w) =
    (((demod.run i2c INIT w).1).mapError Fault.bus, { demod with mode := none },
      (demod.run i2c INIT w).2) := rfl

theorem sleep_of_none (hm : demod.mode = none) (w : ω) :
    sleep i2c (demod, w) = (.ok (), demod, w) := by
  rw [sleep, Eff.bind_of_ok (m := OnChip.self) rfl]
  simp only [hm]
  rfl

theorem sleep_of_some {mode : Mode} (hm : demod.mode = some mode) (w : ω) :
    sleep i2c (demod, w) = (((demod.fallAsleep i2c mode w).1).mapError Fault.bus,
      { demod with mode := none }, (demod.fallAsleep i2c mode w).2) := by
  have hbus : (OnChip.bus (demod.fallAsleep i2c mode) : OnChip Cxd2856er ω Unit) =
      (OnChip.bus (demod.run i2c SLEEP_HEAD) >>= fun _ =>
        OnChip.bus (demod.setTsPins i2c false) >>= fun _ =>
          OnChip.bus (demod.run i2c (if mode = .t then SLEEP_T else SLEEP_S))) := by
    rw [fallAsleep, OnChip.bus_bind]
    simp only [OnChip.bus_bind]
  rw [sleep, Eff.bind_of_ok (m := OnChip.self) rfl]
  simp only [hm]
  rw [← hbus]
  rfl

theorem wakeup_of_error {mode : Mode} {w : ω} {e : Fault} {d : Cxd2856er} {w₁ : ω}
    (h : sleep i2c (demod, w) = (.error e, d, w₁)) :
    wakeup i2c mode (demod, w) = (.error e, d, w₁) := Eff.bind_of_error h

theorem wakeup_of_ok {mode : Mode} {w : ω} {d : Cxd2856er} {w₁ : ω}
    (h : sleep i2c (demod, w) = (.ok (), d, w₁)) :
    wakeup i2c mode (demod, w) =
      ((((d.wake i2c mode w₁).1).mapError Fault.bus),
        if (d.wake i2c mode w₁).1.isOk then { d with mode := some mode } else d,
        (d.wake i2c mode w₁).2) := by
  have hbus : (OnChip.bus (d.wake i2c mode) >>= fun _ => setMode (some mode)) =
      (OnChip.bus (d.run i2c (tsClock mode)) >>= fun _ =>
        OnChip.bus (d.run i2c (if mode = .t then WAKEUP_T else WAKEUP_S)) >>= fun _ =>
          OnChip.bus (d.setTsPins i2c true) >>= fun _ => setMode (some mode)) := by
    rw [wake, OnChip.bus_bind]
    simp only [OnChip.bus_bind, Eff.bind_assoc]
  rw [wakeup, Eff.bind_of_ok h, Eff.bind_of_ok (m := OnChip.self) rfl]
  simp only
  rw [← hbus]
  cases hw : d.wake i2c mode w₁ with
  | mk r w₂ => cases r <;> simp [Eff.bind_apply, OnChip.bus, hw] <;> rfl

/-! ## The first of the wake-up writes -/

theorem wake_eq (mode : Mode) : demod.wake i2c mode =
    (i2c.write demod.slvt [0x00, 0x00] >>= fun _ => demod.run i2c (tsClock mode).tail >>= fun _ =>
      demod.run i2c (if mode = .t then WAKEUP_T else WAKEUP_S) >>= fun _ =>
        demod.setTsPins i2c true) := by
  rw [← Eff.bind_assoc]
  rfl

/-- If it fails, nothing has taken effect. -/
theorem wake_of_error {mode : Mode} {w w' : ω} {e : Error} (log : List Transfer)
    (h : i2c.write demod.slvt [0x00, 0x00] w = (.error e, w')) :
    demod.wake i2c.logged mode (log, w) =
      (.error e, log ++ [⟨demod.slvt, [0x00, 0x00], false⟩], w') := by
  rw [wake_eq]
  apply Eff.bind_of_error
  rw [logged_write, h]
  rfl

/-- If it goes through, it is in the log for good. -/
theorem wake_of_ok (mode : Mode) {w w' : ω} (log : List Transfer)
    (h : i2c.write demod.slvt [0x00, 0x00] w = (.ok (), w')) :
    log ++ [⟨demod.slvt, [0x00, 0x00], true⟩] <+: (demod.wake i2c.logged mode (log, w)).2.1 := by
  have hw : i2c.logged.write demod.slvt [0x00, 0x00] (log, w) =
      (.ok (), log ++ [⟨demod.slvt, [0x00, 0x00], true⟩], w') := by
    rw [logged_write, h]
    rfl
  rw [wake_eq, Eff.bind_of_ok hw]
  exact ((keepsLog_run _ _).bind fun _ => (keepsLog_run _ _).bind fun _ =>
    keepsLog_setTsPins _ _).kept List.prefix_rfl

/-! ## Calls to the demodulator, watched -/

inductive Event
  /-- An `init` succeeded. -/
  | initialised
  /-- A wake-up write took effect. -/
  | woken
  /-- The sleep sequence completed. -/
  | slept
deriving DecidableEq, Repr

/-- Since the last successful `init` a wake-up write has taken effect, and the sleep sequence has
not completed after the last one that did. -/
def Awake (told : List Event) : Prop :=
  ∃ before after, told = before ++ .woken :: after ∧ ∀ e ∈ after, e = .woken

/-- The demodulator as the driver has it, its bus, and what it was told to good effect. -/
structure Watched (ω : Type) where
  demod : Cxd2856er
  bus : List Transfer × ω
  told : List Event

inductive Act (ω : Type)
  | init
  | wakeup (mode : Mode)
  | sleep
  /-- What is behind the bus is changed by others. -/
  | others (w : ω)

variable (i2c)

def Watched.sleep (s : Watched ω) : Watched ω :=
  let (r, demod, bus) := Cxd2856er.sleep i2c.logged (s.demod, s.bus)
  { demod, bus, told := s.told ++ if s.demod.mode.isSome ∧ r.isOk then [.slept] else [] }

/-- What is written after the sleep sequence wakes it up. -/
def Watched.wakeup (s : Watched ω) (mode : Mode) : Watched ω :=
  let (_, demod, bus) := Cxd2856er.wakeup i2c.logged mode (s.demod, s.bus)
  let woke := (bus.1.drop (s.sleep i2c).bus.1.length).filter Transfer.ok
  { demod, bus, told := (s.sleep i2c).told ++ woke.map fun _ => .woken }

def Watched.init (s : Watched ω) : Watched ω :=
  let (r, demod, bus) := Cxd2856er.init i2c.logged (s.demod, s.bus)
  { demod, bus, told := s.told ++ if r.isOk then [.initialised] else [] }

inductive Step : Watched ω → Act ω → Watched ω → Prop
  | init (s : Watched ω) : Step s .init (s.init i2c)
  | wakeup (s : Watched ω) (mode : Mode) : Step s (.wakeup mode) (s.wakeup i2c mode)
  | sleep (s : Watched ω) : Step s .sleep (s.sleep i2c)
  | others (s : Watched ω) (w : ω) : Step s (.others w) { s with bus := (s.bus.1, w) }

def start (i2cAddr : UInt8) (w : ω) : Watched ω := ⟨.new i2cAddr, ([], w), []⟩

/-- It is recorded as asleep only if it is. -/
def RecordHolds (s : Watched ω) : Prop := s.demod.mode = none → ¬ Awake s.told

/-- It sleeps already, or the whole sleep sequence goes through. -/
def Rests (s : Watched ω) (w : ω) : Prop :=
  match s.demod.mode with
  | none => w = s.bus.2
  | some mode => FallsAsleep s.demod i2c mode s.bus.2 w

/-- What a call leaves the record right for: everything it sends goes through, or else it is
recorded as asleep before (`init`), or the first of the wake-up writes fails (`wakeup`). -/
def GoesThrough (s : Watched ω) : Act ω → Prop
  | .init => s.demod.mode = none ∨ ∃ w, OpsSent s.demod i2c INIT s.bus.2 w
  | .sleep => ∃ w, Rests i2c s w
  | .wakeup mode => ∃ w, Rests i2c s w ∧
      ((∃ e w', i2c.write s.demod.slvt [0x00, 0x00] w = (.error e, w')) ∨
        ∃ w', Wakes s.demod i2c mode w w')
  | .others _ => True

variable {i2c}

/-! On a bus that takes and answers everything, every call goes through. -/

section Takes

variable (hw : ∀ addr data w, ∃ w', i2c.write addr data w = (.ok (), w'))
  (hr : ∀ addr data n w, ∃ b w', i2c.writeRead addr data n w = (.ok b, w'))
include hw hr

theorem maskSent_of_takes (reg value mask : UInt8) (w : ω) :
    ∃ w', MaskSent demod i2c reg value mask w w' := by
  unfold MaskSent
  split
  · exact hw _ _ w
  · obtain ⟨b, w₁, h₁⟩ := hr demod.slvt [reg] 1 w
    obtain ⟨w', h₂⟩ := hw demod.slvt [reg, (byte b &&& ~~~mask) ||| (value &&& mask)] w₁
    exact ⟨w', b, w₁, h₁, h₂⟩

theorem opsSent_of_takes (ops : List Op) (w : ω) : ∃ w', OpsSent demod i2c ops w w' := by
  induction ops generalizing w with
  | nil => exact ⟨w, rfl⟩
  | cons op ops ih =>
    have hop : ∃ w₁, OpSent demod i2c op w w₁ := by
      cases op with
      | x reg value => exact hw _ _ w
      | t reg value => exact hw _ _ w
      | m reg value mask => exact maskSent_of_takes hw hr reg value mask w
      | b reg data => exact hw _ _ w
      | sleepMs ms => exact ⟨w, rfl⟩
    obtain ⟨w₁, h₁⟩ := hop
    obtain ⟨w', h₂⟩ := ih w₁
    exact ⟨w', w₁, h₁, h₂⟩

theorem pinsSet_of_takes (on : Bool) (w : ω) : ∃ w', PinsSet demod i2c on w w' := by
  obtain ⟨w₁, h₁⟩ := hw demod.slvt [0x00, 0x00] w
  obtain ⟨c4, w₂, h₂⟩ := hr demod.slvt [0xc4] 1 w₁
  obtain ⟨w₃, h₃⟩ := hw demod.slvt [0x00, 0x00] w₂
  obtain ⟨w', h₄⟩ := maskSent_of_takes hw hr _ _ _ w₃
  exact ⟨w', w₁, c4, w₂, w₃, h₁, h₂, h₃, h₄⟩

theorem rests_of_takes (s : Watched ω) : ∃ w, Rests i2c s w := by
  unfold Rests
  split
  · exact ⟨_, rfl⟩
  · obtain ⟨w₁, h₁⟩ := opsSent_of_takes hw hr SLEEP_HEAD s.bus.2
    obtain ⟨w₂, h₂⟩ := pinsSet_of_takes hw hr false w₁
    obtain ⟨w', h₃⟩ := opsSent_of_takes hw hr _ w₂
    exact ⟨w', w₁, w₂, h₁, h₂, h₃⟩

theorem goesThrough_of_takes (s : Watched ω) (a : Act ω) : GoesThrough i2c s a := by
  cases a with
  | init => exact .inr (opsSent_of_takes hw hr INIT s.bus.2)
  | sleep => exact rests_of_takes hw hr s
  | wakeup mode =>
    obtain ⟨w, h⟩ := rests_of_takes hw hr s
    obtain ⟨w₁, h₁⟩ := opsSent_of_takes hw hr (tsClock mode) w
    obtain ⟨w₂, h₂⟩ := opsSent_of_takes hw hr _ w₁
    obtain ⟨w', h₃⟩ := pinsSet_of_takes hw hr true w₂
    exact ⟨w, h, .inr ⟨w', w₁, w₂, h₁, h₂, h₃⟩⟩
  | others w => trivial

end Takes

theorem awake_iff {told : List Event} : Awake told ↔ told.getLast? = some .woken := by
  constructor
  · rintro ⟨before, after, rfl, h⟩
    rw [List.getLast?_append_of_ne_nil _ (List.cons_ne_nil _ _), List.getLast?_eq_some_getLast
      (List.cons_ne_nil _ _)]
    have := List.getLast_mem (List.cons_ne_nil Event.woken after)
    obtain he | he := List.mem_cons.1 this
    · rw [he]
    · rw [h _ he]
  · intro h
    obtain ⟨before, rfl⟩ := List.getLast?_eq_some_iff.1 h
    exact ⟨before, [], rfl, nofun⟩

@[simp] theorem not_awake_nil : ¬ Awake [] := by simp [awake_iff]

@[simp] theorem awake_append_singleton {told : List Event} {e : Event} :
    Awake (told ++ [e]) ↔ e = .woken := by simp [awake_iff]

theorem awake_append_woken {told : List Event} {l : List Transfer} :
    Awake (told ++ l.map fun _ => .woken) ↔ Awake told ∨ l ≠ [] := by
  obtain rfl | ⟨l, x, rfl⟩ := List.eq_nil_or_concat l
  · simp
  · simp [← List.append_assoc]

/-! ## What each call comes to -/

theorem sleep_demod_mode (s : Watched ω) : (s.sleep i2c).demod = { s.demod with mode := none } := by
  unfold Watched.sleep
  cases hm : s.demod.mode with
  | none =>
    rw [sleep_of_none hm]
    simp [← hm]
  | some mode => rw [sleep_of_some hm]

theorem sleep_of_rests {s : Watched ω} {w : ω} (h : Rests i2c s w) :
    Cxd2856er.sleep i2c.logged (s.demod, s.bus) =
        (.ok (), (s.sleep i2c).demod, (s.sleep i2c).bus) ∧
      (s.sleep i2c).bus.2 = w ∧ (RecordHolds s → ¬ Awake (s.sleep i2c).told) := by
  unfold Rests at h
  unfold Watched.sleep
  cases hm : s.demod.mode with
  | none =>
    rw [hm] at h
    rw [sleep_of_none hm]
    exact ⟨rfl, h.symm, fun hs => by simpa using hs hm⟩
  | some mode =>
    rw [hm] at h
    have hok := fallAsleep_ok.2 h
    rw [does_fallAsleep mode s.bus] at hok
    rw [sleep_of_some hm]
    simp only [Prod.mk.injEq] at hok
    simp [hok.1, hok.2, Except.mapError, Except.isOk, Except.toBool]

theorem sleep_of_not_rests {s : Watched ω} (hm : s.demod.mode.isSome → Awake s.told)
    (h : ¬ ∃ w, Rests i2c s w) :
    ∃ e, Cxd2856er.sleep i2c.logged (s.demod, s.bus) =
        (.error e, (s.sleep i2c).demod, (s.sleep i2c).bus) ∧ Awake (s.sleep i2c).told := by
  unfold Rests at h
  unfold Watched.sleep
  cases hmode : s.demod.mode with
  | none =>
    rw [hmode] at h
    exact absurd ⟨_, rfl⟩ h
  | some mode =>
    rw [hmode] at h
    rw [sleep_of_some hmode]
    cases hr : (s.demod.fallAsleep i2c.logged mode s.bus).1 with
    | ok _ =>
      obtain ⟨w, hw⟩ := ((does_fallAsleep mode).ok_iff s.bus ()).2 hr
      exact absurd ⟨w, fallAsleep_ok.1 hw⟩ h
    | error e =>
      have ha : Awake s.told := hm (by rw [hmode]; rfl)
      simp [Except.mapError, Except.isOk, Except.toBool, ha]

/-- A wake-up that fails to put it to sleep first goes no further. -/
theorem wakeup_of_not_rests {s : Watched ω} (hm : s.demod.mode.isSome → Awake s.told)
    (h : ¬ ∃ w, Rests i2c s w) (mode : Mode) :
    (s.wakeup i2c mode).demod.mode = none ∧ Awake (s.wakeup i2c mode).told := by
  obtain ⟨e, he, ha⟩ := sleep_of_not_rests hm h
  unfold Watched.wakeup
  rw [wakeup_of_error he]
  simpa [sleep_demod_mode] using ha

/-- One that does is recorded if everything goes through, and wakes the demodulator unless the
first write fails. -/
theorem wakeup_of_rests {s : Watched ω} {w : ω} (h : Rests i2c s w) (mode : Mode) :
    ((s.wakeup i2c mode).demod.mode = none ↔ ¬ ∃ w', Wakes s.demod i2c mode w w') ∧
      (Awake (s.wakeup i2c mode).told ↔ Awake (s.sleep i2c).told ∨
        ¬ ∃ e w', i2c.write s.demod.slvt [0x00, 0x00] w = (.error e, w')) := by
  obtain ⟨hok, rfl, -⟩ := sleep_of_rests h
  have hwake : (s.sleep i2c).demod.wake i2c.logged mode = s.demod.wake i2c.logged mode := by
    rw [sleep_demod_mode]
    rfl
  have hmode : (s.sleep i2c).demod.mode = none := by rw [sleep_demod_mode]
  unfold Watched.wakeup
  rw [wakeup_of_ok hok, hwake]
  constructor
  · simp only [← wake_ok, (does_wake mode).ok_iff (s.sleep i2c).bus ()]
    cases (s.demod.wake i2c.logged mode (s.sleep i2c).bus).1 with
    | ok _ => simp [Except.isOk, Except.toBool]
    | error e => simpa [Except.isOk, Except.toBool] using hmode
  · rw [awake_append_woken]
    apply or_congr Iff.rfl
    cases hw : i2c.write s.demod.slvt [0x00, 0x00] (s.sleep i2c).bus.2 with
    | mk r w' =>
      cases r with
      | ok _ =>
        obtain ⟨l, hl⟩ := wake_of_ok mode (s.sleep i2c).bus.1 hw
        rw [← hl]
        simp
      | error e =>
        rw [wake_of_error (s.sleep i2c).bus.1 hw]
        simp

/-! ## Runs -/

/-- The demodulator as it is recorded awake has been woken up. -/
theorem awake_of_mode {i2cAddr : UInt8} {w : ω} {s : Watched ω}
    (h : Lts.Reachable (Step i2c) (start i2cAddr w) s) :
    s.demod.mode.isSome → Awake s.told := by
  refine h.invariant (I := fun s => s.demod.mode.isSome → Awake s.told) nofun ?_
  intro t a u _ ht hstep hu
  cases hstep with
  | init => exact absurd hu (by simp [Watched.init, init_apply])
  | sleep => exact absurd hu (by simp [sleep_demod_mode])
  | others => exact ht hu
  | wakeup mode =>
    by_cases hr : ∃ w, Rests i2c t w
    · obtain ⟨w, hr⟩ := hr
      obtain ⟨hmode, ha⟩ := wakeup_of_rests hr mode
      have hwakes : ∃ w', Wakes t.demod i2c mode w w' := by
        by_contra hn
        rw [hmode.2 hn] at hu
        cases hu
      refine ha.2 (.inr ?_)
      rintro ⟨e, w₁, he⟩
      obtain ⟨_, hw⟩ := hwakes
      have := wake_ok.2 hw
      rw [wake_eq, Eff.bind_of_error he] at this
      cases this
    · rw [(wakeup_of_not_rests ht hr mode).1] at hu
      cases hu

/-- A call keeps the record right exactly when it goes through. -/
theorem recordHolds_step {s t : Watched ω} {a : Act ω} (hm : s.demod.mode.isSome → Awake s.told)
    (hs : RecordHolds s) (h : Step i2c s a t) : RecordHolds t ↔ GoesThrough i2c s a := by
  cases h with
  | init =>
    have hdoes : Eff.Does Prod.snd (s.demod.run i2c.logged INIT) (s.demod.run i2c INIT) :=
      does_run INIT
    have hok := hdoes.ok_iff s.bus ()
    simp only [run_ok] at hok
    unfold RecordHolds Watched.init GoesThrough
    rw [init_apply, hok]
    cases (s.demod.run i2c.logged INIT s.bus).1 with
    | ok _ => simp [Except.mapError, Except.isOk, Except.toBool]
    | error e =>
      cases hmode : s.demod.mode with
      | none => simpa [Except.mapError, Except.isOk, Except.toBool] using hs hmode
      | some mode =>
        simpa [Except.mapError, Except.isOk, Except.toBool] using hm (by rw [hmode]; rfl)
  | sleep =>
    by_cases hr : ∃ w, Rests i2c s w
    · obtain ⟨w, hw⟩ := hr
      exact ⟨fun _ => ⟨w, hw⟩, fun _ _ => (sleep_of_rests hw).2.2 hs⟩
    · obtain ⟨_, _, ha⟩ := sleep_of_not_rests hm hr
      exact ⟨fun h => absurd ha (h (by rw [sleep_demod_mode])), fun h => absurd h hr⟩
  | others => exact ⟨fun _ => trivial, fun _ => hs⟩
  | wakeup mode =>
    by_cases hr : ∃ w, Rests i2c s w
    · obtain ⟨w, hw⟩ := hr
      obtain ⟨hmode, ha⟩ := wakeup_of_rests hw mode
      have hsl := (sleep_of_rests hw).2.2 hs
      unfold RecordHolds
      rw [hmode, ha]
      constructor
      · intro h
        refine ⟨w, hw, ?_⟩
        by_cases hwakes : ∃ w', Wakes s.demod i2c mode w w'
        · exact .inr hwakes
        · exact .inl (by_contra fun hn => h hwakes (.inr hn))
      · intro ⟨w', hw', h⟩ hwakes
        have hww : w = w' := (sleep_of_rests hw).2.1.symm.trans (sleep_of_rests hw').2.1
        subst hww
        intro hn
        exact hn.elim hsl fun hn => h.elim hn hwakes
    · obtain ⟨hn, ha⟩ := wakeup_of_not_rests hm hr mode
      exact ⟨fun h => absurd ha (h hn), fun ⟨w, hw, _⟩ => absurd ⟨w, hw⟩ hr⟩

end Cxd2856er

namespace PxMlt

open Cxd2856er

variable {n : Nat} {ω : Type}

/-- The bridges, with a log of what is written over I2C. -/
def logged (ops : Ops ω) : Ops (List Transfer × ω) where
  writeGpio gpio high := (ops.writeGpio gpio high).zoom Prod.snd fun s w => (s.1, w)
  i2c bus := (ops.i2c bus).logged

variable {ops : Ops ω} {index : Fin n}

/-- What `close` sends is what stops the tuner, and then the sleep sequence. -/
theorem close_sends {mode : Mode} (c : PxMlt n) (log : List Transfer) (w : ω)
    (hm : (c.chips index).demod.mode = some mode) :
    (close (logged ops) index (c, log, w)).2.2.1 =
      ((c.chips index).demod.fallAsleep (ops.i2c (c.chips index).i2cBus).logged mode
        (Cxd2858er.term (ops.i2c (c.chips index).i2cBus).logged (c.chips index).demod
          ((c.chips index).tuner, log, w)).2.2).2.1 := by
  have hpower : Eff.Leaves Prod.fst (power (logged ops) false) :=
    Eff.Leaves.bind (Eff.Leaves.attempt fun _ => rfl) fun _ =>
      Eff.Leaves.bind (Eff.Leaves.attempt fun _ => rfl) fun _ => Eff.Leaves.ofExcept _
  have hrest : Silent (do
      Eff.require (0 < (← OnChip.self).openCount) .overflow
      OnChip.modifySelf fun c => { c with openCount := c.openCount - 1 }
      Eff.when ((← OnChip.self).openCount = 0) do
        let _ ← Eff.attempt (OnChip.bus (power (logged ops) false)) :
      OnChip (PxMlt n) (List Transfer × ω) Unit) := by
    apply Eff.Leaves.bind Silent.self
    intro _
    apply Eff.Leaves.bind Eff.Leaves.require
    intro _
    apply Eff.Leaves.bind (Silent.modifySelf _)
    intro _
    apply Eff.Leaves.bind Silent.self
    intro _
    exact Eff.Leaves.when ((Silent.bus hpower).attempt.bind fun _ => Eff.Leaves.pure _)
  rw [close, Eff.bind_of_ok (m := OnChip.self) rfl, Eff.bind_of_ok (Eff.attempt_apply _ _),
    Eff.bind_of_ok (Eff.attempt_apply _ _)]
  refine (hrest _).trans ?_
  simp only [onDemod, onTuner, OnChip.part, Eff.zoom_apply]
  rw [sleep_of_some (by simpa using hm)]
  simp [logged]

/-! ## The record and the demodulator -/

/-- `close` of a tuner with this demodulator sends what stops the tuner, and then the whole sleep
sequence. -/
def ClosesAsleep (ω : Type) (demod : Cxd2856er) : Prop :=
  ∃ mode, demod.mode = some mode ∧
    ∀ (n : Nat) (ops : Ops ω) (c : PxMlt n) (index : Fin n) (log : List Transfer) (w : ω),
      (c.chips index).demod = demod →
      (close (logged ops) index (c, log, w)).2.2.1 =
        (demod.fallAsleep (ops.i2c (c.chips index).i2cBus).logged mode
          (Cxd2858er.term (ops.i2c (c.chips index).i2cBus).logged demod
            ((c.chips index).tuner, log, w)).2.2).2.1

/-- In every run of calls to a demodulator, its record holds all along exactly if every call goes
through; and then `close` sends the sleep sequence to one that may be awake. -/
theorem asleep_as_recorded {i2c : I2c ω} {i2cAddr : UInt8} {w : ω}
    {tr : List (Watched ω × Cxd2856er.Act ω)} {s : Watched ω}
    (h : Lts.Run (Cxd2856er.Step i2c) (start i2cAddr w) tr s) :
    (Lts.Always RecordHolds tr s ↔ Lts.AllGood (GoesThrough i2c) tr) ∧
      (Lts.AllGood (GoesThrough i2c) tr → Awake s.told → ClosesAsleep ω s.demod) := by
  have hiff : Lts.Always RecordHolds tr s ↔ Lts.AllGood (GoesThrough i2c) tr :=
    h.always_iff (fun _ => not_awake_nil) fun t a u ht hrec hstep =>
      recordHolds_step (awake_of_mode ht) hrec hstep
  refine ⟨hiff, fun hall hawake => ?_⟩
  have hrec : RecordHolds s := (hiff.2 hall).1
  cases hm : s.demod.mode with
  | none => exact absurd hawake (hrec hm)
  | some mode =>
    refine ⟨mode, hm, fun n ops c index log w hc => ?_⟩
    rw [← hc]
    exact close_sends c log w (by rw [hc, hm])

/-- A bus that takes so many writes, and fails the ones after. -/
def budget : I2c Nat where
  write _ _ k := if k = 0 then (.error (error "I2C write failed"), 0) else (.ok (), k - 1)
  writeRead _ _ n k := (.ok (Vector.replicate n 0), k)

/-- A bus that takes everything and reads zeros. -/
def tireless : I2c Unit where
  write _ _ := pure ()
  writeRead _ _ n := pure (Vector.replicate n 0)

/-- Woken up, put to sleep and woken up again, all of which goes through, a demodulator is awake,
recorded so, and put to sleep by `close`. -/
theorem asleep_as_recorded_through : ∃ tr s,
    Lts.Run (Cxd2856er.Step tireless) (start 0x10 ()) tr s ∧
    tr.map Prod.snd = [.wakeup .s, .sleep, .wakeup .t, .init] ∧ .slept ∈ s.told ∧
    Lts.Always RecordHolds tr s ∧ Awake s.told ∧ ClosesAsleep Unit s.demod := by
  let asleep := (((start 0x10 ()).init tireless).wakeup tireless .t).sleep tireless
  let awake := asleep.wakeup tireless .s
  have h : Lts.Run (Cxd2856er.Step tireless) (start 0x10 ()) _ awake :=
    (((Lts.Run.nil.snoc (.init _)).snoc (.wakeup _ .t)).snoc (.sleep _)).snoc (.wakeup _ .s)
  have hmode : awake.demod.mode = some .s := by decide +kernel
  have hawake : Awake awake.told := awake_of_mode h.reachable (by rw [hmode]; rfl)
  have hall : ∀ tr, Lts.AllGood (GoesThrough tireless) tr := fun _ x _ =>
    goesThrough_of_takes (fun _ _ _ => ⟨(), rfl⟩) (fun _ _ _ _ => ⟨_, (), rfl⟩) x.1 x.2
  obtain ⟨hiff, hclose⟩ := asleep_as_recorded h
  exact ⟨_, awake, h, rfl, by decide +kernel, hiff.2 (hall _), hawake, hclose (hall _) hawake⟩

/-- A wake-up that fails half-way leaves the demodulator awake and recorded as asleep. -/
theorem woken_unrecorded : ∃ tr s, Lts.Run (Cxd2856er.Step budget) (start 0x10 13) tr s ∧
    s.demod.mode = none ∧ Awake s.told := by
  refine ⟨_, _, (Lts.Run.nil.snoc (.init _)).snoc (.wakeup _ .t), ?_, ?_⟩
  · rfl
  · exact awake_iff.2 (by rfl)

end PxMlt

end Px4

end Tunelith
