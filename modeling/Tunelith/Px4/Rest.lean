import Tunelith.Px4.Board

/-!
# Power and reset

What the GPIO of the bridges of a board were told, write by write, and whether it leaves what is
behind them at rest: without power, and held in reset.

* `traced` — the bridges of a board, with a log of the writes they were asked for.
* `Rests` — since the last power-on write that took effect, every bridge was told to power off.
* `AllOn`, `NoneOn` — every power-on write would succeed; none would take effect.
-/

namespace Tunelith

/-- The same bus, with something beside its state. -/
def I2c.beside {ω : Type} (τ : Type) (i2c : I2c ω) : I2c (τ × ω) where
  write addr data := (i2c.write addr data).zoom Prod.snd fun s w => (s.1, w)
  writeRead addr data n := (i2c.writeRead addr data n).zoom Prod.snd fun s w => (s.1, w)

namespace Px4

/-- A write to a GPIO, and whether it took effect. -/
structure Write (β : Type) where
  bridge : β
  gpio : UInt8
  high : Bool
  ok : Bool
deriving DecidableEq, Repr

/-- The bridges, with a log of what their GPIO are told. -/
def traced {β ω : Type} (ops : β → Ops ω) (k : β) : Ops (List (Write β) × ω) where
  writeGpio gpio high s :=
    let (r, w) := (ops k).writeGpio gpio high s.2
    (r, s.1 ++ [⟨k, gpio, high, r.toOption.isSome⟩], w)
  i2c bus := ((ops k).i2c bus).beside (List (Write β))

section

variable {β : Type} (reset power : UInt8)

namespace Write

/-- It is one of those that power a board. -/
def powersOn (e : Write β) : Bool := e.gpio = reset && !e.high || e.gpio = power && e.high

/-- It is one of those that take the power off. -/
def powersOff (e : Write β) : Bool := e.gpio = power && !e.high || e.gpio = reset && e.high

end Write

/-- What the GPIO of a bridge stands at after what it was told. -/
def level [DecidableEq β] (k : β) (gpio : UInt8) (log : List (Write β)) (start : Bool) : Bool :=
  log.foldl (fun level e => if e.ok ∧ e.bridge = k ∧ e.gpio = gpio then e.high else level) start

/-- No power-on write of them took effect. -/
def NoPower (log : List (Write β)) : Prop := ∀ e ∈ log, e.ok = true → e.powersOn reset power = false

/-- The bridge was told to power off. -/
def ToldOff (k : β) (log : List (Write β)) : Prop :=
  (∃ e ∈ log, e.bridge = k ∧ e.gpio = power ∧ e.high = false) ∧
    ∃ e ∈ log, e.bridge = k ∧ e.gpio = reset ∧ e.high = true

/-- Every bridge was told to power off, and no power-on write took effect since. -/
def PoweredOff (log : List (Write β)) : Prop :=
  ∃ before after, log = before ++ after ∧ NoPower reset power after ∧
    ∀ k, ToldOff reset power k after

/-- After the last power-on write that took effect, if any did, every bridge was told to power
off. -/
def Rests (log : List (Write β)) : Prop := NoPower reset power log ∨ PoweredOff reset power log

variable {ω : Type}

/-- Every power-on write would succeed, bridge after bridge. -/
def AllOn : List (Ops ω) → ω → Prop
  | [], _ => True
  | ops :: rest, w => ∃ w₁ w₂, ops.writeGpio reset false w = (.ok (), w₁) ∧
      ops.writeGpio power true w₁ = (.ok (), w₂) ∧ AllOn rest w₂

/-- No power-on write would take effect: the first one of every bridge fails. -/
def NoneOn : List (Ops ω) → ω → Prop
  | [], _ => True
  | ops :: rest, w => ∃ e w₁, ops.writeGpio reset false w = (.error e, w₁) ∧ NoneOn rest w₁

/-- What `open` is to leave behind when it fails: a board that is at rest once the power-off writes
have succeeded. -/
def EndsAtRest [DecidableEq β] (log : List (Write β)) : Prop :=
  Rests reset power log ∧ ((∀ e ∈ log, e.powersOff reset power = true → e.ok = true) →
    ∀ k, level k power log false = false ∧ level k reset log true = true)

/-- What the last `close` is to leave behind: the same, wherever the GPIO stood. -/
def GoesToRest [DecidableEq β] (log : List (Write β)) : Prop :=
  PoweredOff reset power log ∧ ((∀ e ∈ log, e.powersOff reset power = true → e.ok = true) →
    ∀ k start, level k power log start = false ∧ level k reset log start = true)

/-- Some power-on write failed, and nothing else has been written. -/
def Stuck (bridges : List (Ops ω)) (w : ω) (log : List (Write β)) : Prop :=
  ¬ AllOn reset power bridges w ∧ (NoPower reset power log ↔ NoneOn reset bridges w) ∧
    ∀ e ∈ log, e.powersOn reset power = true

/-! ## What a log comes to -/

variable {reset power}

theorem noPower_append {log log' : List (Write β)} :
    NoPower reset power (log ++ log') ↔ NoPower reset power log ∧ NoPower reset power log' := by
  simp only [NoPower, List.mem_append]
  exact ⟨fun h => ⟨fun e he => h e (.inl he), fun e he => h e (.inr he)⟩,
    fun h e he => he.elim (h.1 e) (h.2 e)⟩

section

variable [DecidableEq β] {k : β} {gpio : UInt8} {b : Bool} {log : List (Write β)}

/-- A GPIO that every write to it leaves at `b`, and that is at `b` or written to, ends at `b`. -/
theorem level_eq {start : Bool}
    (h : ∀ e ∈ log, e.ok = true → e.bridge = k → e.gpio = gpio → e.high = b)
    (hs : start = b ∨ ∃ e ∈ log, e.ok = true ∧ e.bridge = k ∧ e.gpio = gpio) :
    level k gpio log start = b := by
  induction log generalizing start with
  | nil =>
    obtain hs | ⟨e, he, -⟩ := hs
    · exact hs
    · cases he
  | cons e log ih =>
    rw [level, List.foldl_cons]
    apply ih (fun e' he' => h e' (List.mem_cons_of_mem e he'))
    split
    · next hw => exact .inl (h e List.mem_cons_self hw.1 hw.2.1 hw.2.2)
    · next hw =>
      obtain hs | ⟨e', he', hok⟩ := hs
      · exact .inl hs
      · cases he' with
        | head => exact absurd hok hw
        | tail _ he' => exact .inr ⟨e', he', hok⟩

theorem level_append (log log' : List (Write β)) (start : Bool) :
    level k gpio (log ++ log') start = level k gpio log' (level k gpio log start) :=
  List.foldl_append

omit [DecidableEq β] in
theorem NoPower.low {e : Write β} (hrp : reset ≠ power) (h : NoPower reset power log) (he : e ∈ log)
    (hok : e.ok = true) (hg : e.gpio = power) : e.high = false := by
  have := h e he hok
  simpa [Write.powersOn, hg, hrp.symm] using this

omit [DecidableEq β] in
theorem NoPower.high {e : Write β} (h : NoPower reset power log) (he : e ∈ log)
    (hok : e.ok = true) (hg : e.gpio = reset) : e.high = true := by
  have := h e he hok
  simp only [Write.powersOn, hg, decide_true, Bool.true_and, Bool.or_eq_false_iff,
    Bool.not_eq_false'] at this
  exact this.1

/-- With every power-off write of it succeeding, the bridge is at rest after. -/
theorem PoweredOff.level (hrp : reset ≠ power) (h : PoweredOff reset power log)
    (hoff : ∀ e ∈ log, e.powersOff reset power = true → e.ok = true) (start : Bool) :
    level k power log start = false ∧ level k reset log start = true := by
  obtain ⟨before, after, rfl, hn, htold⟩ := h
  obtain ⟨⟨e, he, hk, hg, hl⟩, e', he', hk', hg', hl'⟩ := htold k
  have hok : e.ok = true :=
    hoff e (List.mem_append_right _ he) (by simp [Write.powersOff, hg, hl])
  have hok' : e'.ok = true :=
    hoff e' (List.mem_append_right _ he') (by simp [Write.powersOff, hg', hl'])
  rw [level_append, level_append]
  exact ⟨level_eq (fun _ he hok _ => hn.low hrp he hok) (.inr ⟨e, he, hok, hk, hg⟩),
    level_eq (fun _ he hok _ => hn.high he hok) (.inr ⟨e', he', hok', hk', hg'⟩)⟩

/-- The same of a bridge that is at rest before. -/
theorem Rests.level (hrp : reset ≠ power) (h : Rests reset power log)
    (hoff : ∀ e ∈ log, e.powersOff reset power = true → e.ok = true) :
    level k power log false = false ∧ level k reset log true = true := by
  obtain hn | h := h
  · exact ⟨level_eq (fun _ he hok _ => hn.low hrp he hok) (.inl rfl),
      level_eq (fun _ he hok _ => hn.high he hok) (.inl rfl)⟩
  · exact ⟨(h.level hrp hoff false).1, (h.level hrp hoff true).2⟩

theorem PoweredOff.goesToRest (hrp : reset ≠ power) (h : PoweredOff reset power log) :
    GoesToRest reset power log :=
  ⟨h, fun hoff _ start => h.level hrp hoff start⟩

theorem Rests.endsAtRest (hrp : reset ≠ power) (h : Rests reset power log) :
    EndsAtRest reset power log :=
  ⟨h, fun hoff _ => h.level hrp hoff⟩

omit [DecidableEq β] in
/-- Where the power-on writes are all there is, a bridge was left on if one took effect. -/
theorem Stuck.not_rests [Nonempty β] {bridges : List (Ops ω)} {w : ω} (hrp : reset ≠ power)
    (h : Stuck reset power bridges w log) (hnone : ¬ NoneOn reset bridges w) :
    ¬ Rests reset power log := by
  rintro (hn | ⟨before, after, rfl, -, htold⟩)
  · exact hnone (h.2.1.1 hn)
  · obtain ⟨⟨e, he, -, hg, hl⟩, -⟩ := htold (Classical.arbitrary β)
    have := h.2.2 e (List.mem_append_right _ he)
    simp [Write.powersOn, hg, hl, hrp.symm] at this

end

/-! ## Going on and off -/

section

variable (ops : β → Ops ω) (k : β) (log : List (Write β)) (w : ω)

theorem traced_writeGpio (gpio : UInt8) (high : Bool) :
    (traced ops k).writeGpio gpio high (log, w) = (((ops k).writeGpio gpio high w).1,
      log ++ [⟨k, gpio, high, ((ops k).writeGpio gpio high w).1.toOption.isSome⟩],
      ((ops k).writeGpio gpio high w).2) := rfl

/-- What a bridge is told to power on. -/
theorem powerBackend_on : ∃ r ons w',
    powerBackend (traced ops k) reset power true (log, w) = (r, log ++ ons, w') ∧
    (∀ rest, AllOn reset power (ops k :: rest) w ↔ r = .ok () ∧ AllOn reset power rest w') ∧
    (∀ rest, NoneOn reset (ops k :: rest) w ↔ NoPower reset power ons ∧ NoneOn reset rest w') ∧
    ∀ e ∈ ons, e.powersOn reset power = true := by
  rw [powerBackend, if_pos rfl]
  cases h₁ : (ops k).writeGpio reset false w with
  | mk r₁ w₁ =>
    have ht₁ := traced_writeGpio ops k log w reset false
    rw [h₁] at ht₁
    cases r₁ with
    | error e =>
      refine ⟨_, _, _, Eff.bind_of_error ht₁, fun rest => ?_, fun rest => ?_, ?_⟩
      · simp [AllOn, h₁]
      · simp [NoneOn, h₁, NoPower, Except.toOption]
      · simp [Write.powersOn]
    | ok _ =>
      rw [Eff.bind_of_ok ht₁, traced_writeGpio, List.append_assoc]
      refine ⟨_, _, _, rfl, fun rest => ?_, fun rest => ?_, ?_⟩
      · cases h₂ : (ops k).writeGpio power true w₁ with
        | mk r₂ w₂ => cases r₂ <;> simp [AllOn, h₁, h₂]
      · simp [NoneOn, h₁, NoPower, Write.powersOn, Except.toOption]
      · simp [Write.powersOn]

/-- What a bridge is told to power off, whatever fails of it. -/
theorem powerBackend_off (hrp : reset ≠ power) : ∃ r offs w',
    powerBackend (traced ops k) reset power false (log, w) = (r, log ++ offs, w') ∧
    NoPower reset power offs ∧ ToldOff reset power k offs := by
  rw [powerBackend, if_neg (by decide), Eff.bind_of_ok (Eff.attempt_apply _ _), traced_writeGpio,
    Eff.bind_of_ok (Eff.attempt_apply _ _), traced_writeGpio, List.append_assoc]
  refine ⟨_, _, _, rfl, ?_, ?_⟩
  · simp [NoPower, Write.powersOn, hrp, hrp.symm]
  · simp [ToldOff]

end

end

end Px4

end Tunelith
