import Tunelith.Dvb.Tuner
import Tunelith.Px4.Px4
import Tunelith.Px4.PxMlt
import Tunelith.Px4.Rt710Pll

/-!
# The frequency asked for

The frequency of a tuning is a `u32` in kHz, which each kind of tuner takes to units and to fields
of its own. Only the R850 checks it against a range; the others reduce what does not fit.

* `I2c.recorded` — a bus, with what is written to it.
* `Dvb.Exact`, `Cxd2858er.Exact`, `Rt710.Exact` — the frequency asked for is what a tuner is set
  to, on each path there is.
* `tunes_exactly_iff` — the frequencies for which it is.
-/

namespace Tunelith

open Px4

/-! ## What is written -/

abbrev Written : Type := List (UInt8 × List UInt8)

section

variable {ω χ : Type} (i2c : I2c ω)

/-- The bus, with a list of what is written to it, whether it is taken or not. -/
def I2c.recorded : I2c (Written × ω) where
  write addr data s := ((i2c.write addr data s.2).1, s.1 ++ [(addr, data)],
    (i2c.write addr data s.2).2)
  writeRead addr data n s := ((i2c.writeRead addr data n s.2).1, s.1,
    (i2c.writeRead addr data n s.2).2)

/-- What `m` writes has `Q`. -/
def WritesOnly (Q : UInt8 × List UInt8 → Prop) {α : Type} (m : OnChip χ (Written × ω) α) : Prop :=
  Eff.Safe (fun s => ∀ w ∈ s.2.1, Q w) (fun _ => True) m

variable {Q : UInt8 × List UInt8 → Prop}

theorem writesOnly_write {addr : UInt8} {data : List UInt8} (h : Q (addr, data)) :
    WritesOnly Q (OnChip.bus (i2c.recorded.write addr data) : OnChip χ _ Unit) := by
  refine Eff.Safe.of_kept fun s hs w hw => ?_
  rcases List.mem_append.1 hw with hw | hw
  · exact hs w hw
  · rw [List.mem_singleton.1 hw]
    exact h

theorem writesOnly_writeRead (addr : UInt8) (data : List UInt8) (n : Nat) :
    WritesOnly Q (OnChip.bus (i2c.recorded.writeRead addr data n) : OnChip χ _ _) :=
  Eff.Safe.of_kept fun _ hs => hs

end

/-! ## The DVB API -/

/-- The local oscillator of the LNB for the polarization, right if there is none. -/
def loKhz (polarization : Option Polarization) : UInt32 :=
  match polarization.getD .right with
  | .right => LO_RIGHT_KHZ
  | .left => LO_LEFT_KHZ

theorem ifFrequencyKhz_eq_ok {params : TuneParams} {f : UInt32} :
    params.ifFrequencyKhz = .ok f ↔
      f.toNat + (loKhz params.polarization).toNat = params.frequencyKhz.toNat := by
  have hif : params.ifFrequencyKhz =
      if params.frequencyKhz < loKhz params.polarization then
        .error (.invalidParams "the frequency is below the LNB's")
      else .ok (params.frequencyKhz - loKhz params.polarization) := rfl
  rw [hif]
  generalize loKhz params.polarization = lo
  by_cases hlt : params.frequencyKhz < lo
  · rw [if_pos hlt]
    have := UInt32.lt_iff_toNat_lt.1 hlt
    exact ⟨nofun, fun h => by omega⟩
  · rw [if_neg hlt]
    have hle : lo ≤ params.frequencyKhz := UInt32.not_lt.1 hlt
    have hsub := UInt32.toNat_sub_of_le _ _ hle
    have := UInt32.le_iff_toNat_le.1 hle
    constructor
    · intro h
      cases h
      omega
    · intro h
      refine congrArg Except.ok (UInt32.toNat.inj ?_)
      omega

namespace Dvb

/-- The frequency the kernel is to be given: in Hz for ISDB-T, and else in kHz after the LNB. -/
def asked (params : TuneParams) : Int :=
  if params.system = .isdbT then params.frequencyKhz.toNat * 1000
  else params.frequencyKhz.toNat - (loKhz params.polarization).toNat

/-- What is sent to the kernel, if anything is, has that frequency. -/
def Exact (params : TuneParams) : Prop :=
  ∀ quirks props, properties quirks params = .ok props →
    ∃ v, (∀ w, ⟨DTV_FREQUENCY, w⟩ ∈ props ↔ w = v) ∧ (v.toNat : Int) = asked params

theorem exact_iff {params : TuneParams} (h : params.validate = .ok ()) :
    Exact params ↔ (params.system = .isdbT → params.frequencyKhz.toNat * 1000 < 2 ^ 32) := by
  have hmul : (params.frequencyKhz * 1000).toNat = params.frequencyKhz.toNat * 1000 % 2 ^ 32 :=
    UInt32.toNat_mul ..
  unfold Exact properties asked
  cases hid : params.streamId with
  | none =>
    have hsys : params.system = .isdbT := by
      cases hsys : params.system with
      | isdbT => rfl
      | isdbS | isdbS3 => simp [TuneParams.validate, hsys, hid, System.isSatellite] at h
    simp only [hsys, if_true, forall_const]
    constructor
    · intro hexact
      obtain ⟨v, hv, hask⟩ := hexact {} _ rfl
      obtain rfl : params.frequencyKhz * 1000 = v := (hv _).1 (by simp)
      omega
    · intro hlt quirks props hprops
      cases hprops
      refine ⟨params.frequencyKhz * 1000, fun w => ?_, by omega⟩
      simp [DTV_FREQUENCY, DTV_CLEAR, DTV_DELIVERY_SYSTEM, DTV_BANDWIDTH_HZ, DTV_TRANSMISSION_MODE,
        DTV_GUARD_INTERVAL, DTV_ISDBT_LAYER_ENABLED, DTV_TUNE]
  | some streamId =>
    have hsys : params.system ≠ .isdbT := by
      intro hsys
      simp [TuneParams.validate, hsys, hid, System.isSatellite] at h
    simp only [hsys, if_false, IsEmpty.forall_iff, iff_true]
    intro quirks props hprops
    cases hf : params.ifFrequencyKhz with
    | error e =>
      rw [hf] at hprops
      cases hprops
    | ok f =>
      rw [hf] at hprops
      cases hprops
      have := ifFrequencyKhz_eq_ok.1 hf
      refine ⟨f, fun w => ?_, by omega⟩
      simp [DTV_FREQUENCY, DTV_CLEAR, DTV_DELIVERY_SYSTEM, DTV_STREAM_ID, DTV_TUNE]

end Dvb

/-! ## The CXD2858ER -/

namespace Px4.Cxd2858er

/-- The 20 bits at `i`, the low ones first. -/
def field (data : List UInt8) (i : Nat) : Nat :=
  (data.getD i 0).toNat + 256 * (data.getD (i + 1) 0).toNat + 65536 * (data.getD (i + 2) 0).toNat

theorem field_bytes (f : UInt32) :
    f.toUInt8.toNat + 256 * (f >>> 8).toUInt8.toNat +
      65536 * ((f >>> 16).toUInt8 &&& 0x0f).toNat = f.toNat % 2 ^ 20 := by
  have h8 : (f >>> 8).toNat = f.toNat / 256 := by
    rw [UInt32.toNat_shiftRight]
    exact Nat.shiftRight_eq_div_pow _ 8
  have h16 : (f >>> 16).toNat = f.toNat / 65536 := by
    rw [UInt32.toNat_shiftRight]
    exact Nat.shiftRight_eq_div_pow _ 16
  have hmask : ∀ b : UInt8, (b &&& 0x0f).toNat = b.toNat % 16 := fun b => by
    rw [UInt8.toNat_and]
    exact Nat.and_two_pow_sub_one_eq_mod b.toNat 4
  rw [hmask, UInt32.toNat_toUInt8, UInt32.toNat_toUInt8, UInt32.toNat_toUInt8, h8, h16]
  omega

/-- What is written to `reg` in so many bytes. -/
def Sends (reg : UInt8) (n : Nat) (data : List UInt8) (w : UInt8 × List UInt8) : Prop :=
  w = (ADDR, reg :: data) ∧ data.length = n

/-- Whatever is written to `reg` in `n` bytes has a field at `i` with `P`, on any bus; and if all
goes well there is something. -/
def Carries (m : {ω : Type} → I2c ω → OnChip Cxd2858er ω Unit) (reg : UInt8) (n i : Nat)
    (P : Nat → Prop) : Prop :=
  ∀ (ω : Type) (i2c : I2c ω) (c : Cxd2858er) (w : ω),
    (∀ data, (∃ x ∈ (m i2c.recorded (c, [], w)).2.2.1, Sends reg n data x) → P (field data i)) ∧
      ((m i2c.recorded (c, [], w)).1 = .ok () →
        ∃ data, ∃ x ∈ (m i2c.recorded (c, [], w)).2.2.1, Sends reg n data x)

section

variable {ω : Type} (i2c : I2c ω) {Q : UInt8 × List UInt8 → Prop}

theorem writesOnly_writes {regs : List (UInt8 × List UInt8)}
    (h : ∀ r ∈ regs, Q (ADDR, r.1 :: r.2)) : WritesOnly Q (writes i2c.recorded regs) :=
  Eff.Safe.forEach fun r hr => writesOnly_write i2c (h r hr)

theorem writesOnly_writeMask {reg value mask : UInt8} (h : ∀ v, Q (ADDR, reg :: [v])) :
    WritesOnly Q (writeMask i2c.recorded reg value mask) :=
  (Eff.Safe.bind (writesOnly_writeRead i2c _ _ _) fun _ => Eff.Safe.pure _).bind fun _ =>
    writesOnly_write i2c (h _)

theorem writesOnly_setMode (mode : Option Mode) :
    WritesOnly Q (setMode mode : OnChip Cxd2858er (Written × ω) Unit) :=
  Eff.Safe.of_kept fun _ hs => hs

/-- Stopping writes one to three bytes at a time. -/
theorem writesOnly_stop (h : ∀ reg data, data.length ≤ 3 → Q (ADDR, reg :: data)) :
    WritesOnly Q (stop i2c.recorded) := by
  refine Eff.Safe.bind (Eff.Safe.of_kept fun _ hs => hs) fun c => ?_
  refine (writesOnly_setMode none).bind fun _ => ?_
  cases c.mode with
  | none => exact Eff.Safe.pure _
  | some mode =>
    cases mode with
    | t =>
      refine (writesOnly_write i2c (h _ _ (by decide))).bind fun _ => ?_
      refine (writesOnly_writeMask i2c fun v => h _ _ (Nat.le_add_left 1 2)).bind fun _ => ?_
      exact writesOnly_writes i2c fun r hr => h _ _ (by revert r; decide)
    | s => exact writesOnly_writes i2c fun r hr => h _ _ (by revert r; decide)

/-- What was written stays written. -/
theorem grows_write (x : UInt8 × List UInt8) (reg : UInt8) (data : List UInt8) :
    Eff.Safe (fun s => x ∈ s.2.1) (fun _ => True) (write i2c.recorded reg data) :=
  Eff.Safe.of_kept fun _ hs => List.mem_append_left _ hs

theorem write_self (reg : UInt8) (data : List UInt8) :
    Eff.Triple (fun _ => True) (write i2c.recorded reg data)
      (fun _ s => (ADDR, reg :: data) ∈ s.2.1) fun _ _ => True := by
  intro s _
  have hmem : (ADDR, reg :: data) ∈ (write i2c.recorded reg data s).2.2.1 :=
    List.mem_append_right _ (List.mem_singleton_self _)
  split
  · next hr => rwa [hr] at hmem
  · trivial

/-- All of them are written, if it goes well. -/
theorem writes_mem {regs : List (UInt8 × List UInt8)} {r : UInt8 × List UInt8} (hr : r ∈ regs) :
    Eff.Triple (fun _ => True) (writes i2c.recorded regs) (fun _ s => (ADDR, r.1 :: r.2) ∈ s.2.1)
      fun _ _ => True := by
  induction regs with
  | nil => cases hr
  | cons q regs ih =>
    rcases List.mem_cons.1 hr with rfl | hr
    · refine Eff.Triple.bind (write_self i2c r.1 r.2) fun _ => ?_
      exact (Eff.Safe.forEach fun q _ => grows_write i2c _ q.1 q.2).conseq (fun _ h => h)
        (fun _ _ h => h) fun _ _ _ => trivial
    · exact Eff.Triple.anyway.bind fun _ => ih hr

/-- A write to another register, or of another length, is none of these. -/
theorem not_sends {reg reg' : UInt8} {n : Nat} {data data' : List UInt8}
    (h : reg' ≠ reg ∨ data'.length ≠ n) : ¬Sends reg n data (ADDR, reg' :: data') := by
  rintro ⟨he, hn⟩
  simp only [Prod.mk.injEq, List.cons.injEq, true_and] at he
  obtain ⟨rfl, rfl⟩ := he
  exact h.elim (absurd rfl) (absurd hn)

end

variable {m : {ω : Type} → I2c ω → OnChip Cxd2858er ω Unit} {reg : UInt8} {n i v : Nat}

/-- What is written to `reg` in `n` bytes is `last`, which is written if all goes well. -/
theorem carries_of (last : List UInt8) (hn : last.length = n) (P : Nat → Prop)
    (hw : ∀ {ω : Type} (i2c : I2c ω),
      WritesOnly (fun x => ∀ data, Sends reg n data x → data = last) (m i2c.recorded))
    (hd : ∀ {ω : Type} (i2c : I2c ω), Eff.Triple (fun _ => True) (m i2c.recorded)
      (fun _ s => (ADDR, reg :: last) ∈ s.2.1) fun _ _ => True) (hP : P (field last i)) :
    Carries m reg n i P := by
  intro ω i2c c w
  refine ⟨fun data ⟨x, hx, hs⟩ => ?_, fun hok => ?_⟩
  · rw [(hw i2c).kept (fun _ h => absurd h List.not_mem_nil) x hx data hs]
    exact hP
  · exact ⟨last, _, (hd i2c).ends trivial (Prod.ext hok rfl), rfl, hn⟩

theorem eq_of_sends {data last : List UInt8} (h : Sends reg n data (ADDR, reg :: last)) :
    data = last := by
  have he := congrArg Prod.snd h.1
  exact ((List.cons.inj he).2).symm

/-! ### The frequency of ISDB-T -/

/-- The registers set up last in `set_t`. -/
def regsT (khz : UInt32) : List UInt8 :=
  [0x00, 0x88, 0x00, 0x0b, 0x22, 0x00, 0x17, 0x1b, khz.toUInt8, (khz >>> 8).toUInt8,
    (khz >>> 16).toUInt8 &&& 0x0f, 0xff, 0x01, 0x99, 0x00, 0x24, 0x87]

theorem field_regsT (khz : UInt32) : field (regsT khz) 8 = khz.toNat % 2 ^ 20 := field_bytes khz

theorem writesOnly_setT {ω : Type} (i2c : I2c ω) (khz : UInt32) :
    WritesOnly (fun x => ∀ data, Sends 0x68 17 data x → data = regsT khz)
      (setT i2c.recorded khz) := by
  have hother : ∀ {reg data}, reg ≠ 0x68 ∨ data.length ≠ 17 → ∀ data',
      Sends 0x68 17 data' (ADDR, reg :: data) → data' = regsT khz :=
    fun h _ hs => absurd hs (not_sends h)
  refine Eff.Safe.bind (Eff.Safe.of_kept fun _ hs => hs) fun c => ?_
  refine Eff.Safe.bind (Eff.Safe.when fun _ => writesOnly_stop i2c fun reg data hd =>
    hother (.inr (by omega))) fun _ => ?_
  refine (writesOnly_writes i2c fun r hr => hother (.inl (by revert r; decide))).bind fun _ => ?_
  refine (writesOnly_writeMask i2c fun v => hother (.inl (by decide))).bind fun _ => ?_
  refine (writesOnly_writes i2c ?_).bind fun _ => writesOnly_setMode _
  simp only [List.forall_mem_cons]
  exact ⟨fun _ => eq_of_sends, hother (.inl (by decide)), hother (.inl (by decide)),
    fun _ h => absurd h List.not_mem_nil⟩

theorem carries_setT (khz : UInt32) {P : Nat → Prop} (h : P (khz.toNat % 2 ^ 20)) :
    Carries (fun i2c => setT i2c khz) 0x68 17 8 P := by
  refine carries_of (regsT khz) rfl P (fun i2c => writesOnly_setT i2c khz)
    (fun i2c => ?_) (by rwa [field_regsT])
  refine Eff.Triple.anyway.bind fun c => Eff.Triple.anyway.bind fun _ => ?_
  refine Eff.Triple.anyway.bind fun _ => Eff.Triple.anyway.bind fun _ => ?_
  exact (writes_mem i2c List.mem_cons_self).bind fun _ => Eff.Triple.modify fun _ h => h

/-! ### The frequency of ISDB-S -/

/-- The registers set up last in `set_s`, for a quarter of the frequency. -/
def regsS (f : UInt32) : List UInt8 :=
  [0xc4, 0x40, 0x02, 0x00, 0xb4, 0x78, 0x08, 0x30, 0xff, 0x02, 0x1e, 0x16, f.toUInt8,
    (f >>> 8).toUInt8, (f >>> 16).toUInt8 &&& 0x0f, 0xff, 0x00, 0x01]

theorem field_regsS (f : UInt32) : field (regsS f) 12 = f.toNat % 2 ^ 20 := field_bytes f

theorem writesOnly_setS {ω : Type} (i2c : I2c ω) (khz : UInt32) :
    WritesOnly (fun x => ∀ data, Sends 0x04 18 data x → data = regsS ((khz + 2) / 4))
      (setS i2c.recorded khz) := by
  have hother : ∀ {reg data}, reg ≠ 0x04 ∨ data.length ≠ 18 → ∀ data',
      Sends 0x04 18 data' (ADDR, reg :: data) → data' = regsS ((khz + 2) / 4) :=
    fun h _ hs => absurd hs (not_sends h)
  refine Eff.Safe.bind (Eff.Safe.of_kept fun _ hs => hs) fun c => ?_
  refine Eff.Safe.bind (Eff.Safe.when fun _ => writesOnly_stop i2c fun reg data hd =>
    hother (.inr (by omega))) fun _ => ?_
  refine (writesOnly_writes i2c ?_).bind fun _ => writesOnly_setMode _
  simp only [List.forall_mem_cons]
  exact ⟨hother (.inl (by decide)), hother (.inl (by decide)), hother (.inl (by decide)),
    hother (.inl (by decide)), hother (.inl (by decide)), hother (.inl (by decide)),
    hother (.inl (by decide)), fun _ => eq_of_sends, hother (.inl (by decide)),
    hother (.inr (by decide)), fun _ h => absurd h List.not_mem_nil⟩

theorem carries_setS (khz : UInt32) {P : Nat → Prop} (h : P (((khz + 2) / 4).toNat % 2 ^ 20)) :
    Carries (fun i2c => setS i2c khz) 0x04 18 12 P := by
  refine carries_of (regsS ((khz + 2) / 4)) rfl P (fun i2c => writesOnly_setS i2c khz)
    (fun i2c => ?_) (by rwa [field_regsS])
  refine Eff.Triple.anyway.bind fun c => Eff.Triple.anyway.bind fun _ => ?_
  refine (writes_mem i2c (r := (0x04, regsS ((khz + 2) / 4))) ?_).bind fun _ =>
    Eff.Triple.modify fun _ h => h
  simp [regsS]

/-! ### Which frequencies are set -/

/-- A bus that takes everything, and has nothing but zeros to read. -/
def taking : I2c Unit where
  write _ _ := pure ()
  writeRead _ _ n := pure (.replicate n 0)

theorem carries_setT_iff (khz : UInt32) {P : Nat → Prop} :
    Carries (fun i2c => setT i2c khz) 0x68 17 8 P ↔ P (khz.toNat % 2 ^ 20) := by
  refine ⟨fun h => ?_, carries_setT khz⟩
  obtain ⟨hall, hsome⟩ := h Unit taking {} ()
  obtain ⟨data, x, hx, hs⟩ := hsome rfl
  have hdata := (writesOnly_setT taking khz).kept (s := ({}, [], ()))
    (fun _ h => absurd h List.not_mem_nil) x hx data hs
  have := hall data ⟨x, hx, hs⟩
  rwa [hdata, field_regsT] at this

theorem carries_setS_iff (khz : UInt32) {P : Nat → Prop} :
    Carries (fun i2c => setS i2c khz) 0x04 18 12 P ↔ P (((khz + 2) / 4).toNat % 2 ^ 20) := by
  refine ⟨fun h => ?_, carries_setS khz⟩
  obtain ⟨hall, hsome⟩ := h Unit taking {} ()
  obtain ⟨data, x, hx, hs⟩ := hsome rfl
  have hdata := (writesOnly_setS taking khz).kept (s := ({}, [], ()))
    (fun _ h => absurd h List.not_mem_nil) x hx data hs
  have := hall data ⟨x, hx, hs⟩
  rwa [hdata, field_regsS] at this

/-- In each mode the tuner is set to the frequency there is for it: for ISDB-T to that itself, and
for ISDB-S to a quarter of it, within 2 kHz. -/
def Exact (params : TuneParams) : Prop :=
  ∀ mode khz, PxMlt.modeOf params.system = .ok mode → PxMlt.khzOf params mode = .ok khz →
    match mode with
    | .t => Carries (fun i2c => setT i2c khz) 0x68 17 8 (· = khz.toNat)
    | .s => Carries (fun i2c => setS i2c khz) 0x04 18 12 fun f => |4 * (f : Int) - khz.toNat| ≤ 2

/-- The frequency fits the field. -/
def Fits (params : TuneParams) : Prop :=
  (params.system = .isdbT → params.frequencyKhz.toNat < 2 ^ 20) ∧
    (params.system = .isdbS → ∀ khz, params.ifFrequencyKhz = .ok khz → khz.toNat ≤ 4194301)

theorem quarter_iff (khz : UInt32) :
    |4 * ((((khz + 2) / 4).toNat % 2 ^ 20 : Nat) : Int) - khz.toNat| ≤ 2 ↔ khz.toNat ≤ 4194301 := by
  have hlt := khz.toNat_lt
  have hf : ((khz + 2) / 4).toNat = (khz.toNat + 2) % 2 ^ 32 / 4 := by
    rw [UInt32.toNat_div, UInt32.toNat_add]
    rfl
  rw [hf, abs_le]
  omega

theorem exact_iff (params : TuneParams) : Exact params ↔ Fits params := by
  unfold Exact Fits
  cases hsys : params.system with
  | isdbT =>
    simp only [PxMlt.modeOf, reduceCtorEq, IsEmpty.forall_iff, and_true, forall_const]
    constructor
    · intro h
      have := (carries_setT_iff _).1 (h .t params.frequencyKhz rfl rfl)
      omega
    · intro h mode khz hmode hkhz
      cases hmode
      cases hkhz
      exact (carries_setT_iff _).2 (Nat.mod_eq_of_lt h)
  | isdbS =>
    simp only [PxMlt.modeOf, reduceCtorEq, IsEmpty.forall_iff, true_and, forall_const]
    constructor
    · intro h khz hkhz
      exact (quarter_iff khz).1 ((carries_setS_iff khz).1 (h .s khz rfl hkhz))
    · intro h mode khz hmode hkhz
      cases hmode
      exact (carries_setS_iff khz).2 ((quarter_iff khz).2 (h khz hkhz))
  | isdbS3 => simp [PxMlt.modeOf]

end Px4.Cxd2858er

/-! ## The RT710 -/

namespace Px4.Rt710

/-- Wherever a divider of the VCO is written, it is one that puts the VCO in its range, no matter
how the bus behaves. The 32 the search ends with is none of the chip's. -/
def DividesInRange (freq : UInt32) : Prop :=
  ∀ (ω : Type) (i2c : I2c ω) (c : Rt710) (w : ω) (symbolRate rolloff : UInt32) (data : List UInt8),
    (c.i2cAddr, 0x04 :: data) ∈
        (setParams i2c.recorded freq symbolRate rolloff (c, [], w)).2.2.1 →
      (mixDiv freq).1 ∈ [2, 4, 8, 16] ∧ 2350000 ≤ freq.toNat * (mixDiv freq).1.toNat ∧
        freq.toNat * (mixDiv freq).1.toNat ≤ 4700000

/-- A bus that refuses the divider. -/
def refusing : I2c Unit where
  write _ data := if data.head? = some 0x04 then Eff.throw .noLock else pure ()
  writeRead _ _ n := pure (.replicate n 0)

/-- Of what `set_params` writes such a bus takes the registers, and then refuses the divider. -/
theorem setParams_refusing (freq : UInt32) (addr : UInt8) (config : Config) (f : UInt32) :
    (setParams refusing.recorded freq 28860 4 (⟨addr, config, some .rt710, f⟩, [], ())).2.2.1 =
      [(addr, 0x00 :: (paramRegs .rt710 config).slice 0 NUM_REGS),
        (addr, [0x04, (((paramRegs .rt710 config).and 0x04 0xfe).or 0x04
          (divNum (mixDiv freq).1 &&& 0x01)) 0x04])] := rfl

theorem toNat_mul_of_inBand {freq d : UInt32} (hfreq : freq.toNat ≤ 2350000)
    (hd : d ∈ [2, 4, 8, 16]) : (freq * d).toNat = freq.toNat * d.toNat := by
  have hle : d.toNat ≤ 16 := by
    simp only [List.mem_cons, List.not_mem_nil, or_false] at hd
    rcases hd with rfl | rfl | rfl | rfl <;> decide
  have hmul : freq.toNat * d.toNat ≤ 2350000 * 16 := Nat.mul_le_mul hfreq hle
  rw [UInt32.toNat_mul]
  exact Nat.mod_eq_of_lt (by omega)

theorem inBand_iff {freq d : UInt32} (hfreq : freq.toNat ≤ 2350000) :
    InBand freq d ↔ d ∈ [2, 4, 8, 16] ∧ 2350000 ≤ freq.toNat * d.toNat ∧
      freq.toNat * d.toNat ≤ 4700000 := by
  refine and_congr_right fun hd => ?_
  rw [UInt32.le_iff_toNat_le, UInt32.le_iff_toNat_le, toNat_mul_of_inBand hfreq hd]
  exact Iff.rfl

/-- There is a divider for every such frequency. -/
theorem exists_inBand {freq : UInt32} (hlo : 146875 ≤ freq.toNat) (hhi : freq.toNat ≤ 2350000) :
    ∃ d, InBand freq d := by
  simp only [inBand_iff hhi]
  by_cases h2 : 1175000 ≤ freq.toNat
  · exact ⟨2, by decide, by change 2350000 ≤ _ * 2; omega, by change _ * 2 ≤ 4700000; omega⟩
  by_cases h4 : 587500 ≤ freq.toNat
  · exact ⟨4, by decide, by change 2350000 ≤ _ * 4; omega, by change _ * 4 ≤ 4700000; omega⟩
  by_cases h8 : 293750 ≤ freq.toNat
  · exact ⟨8, by decide, by change 2350000 ≤ _ * 8; omega, by change _ * 8 ≤ 4700000; omega⟩
  · exact ⟨16, by decide, by change 2350000 ≤ _ * 16; omega, by change _ * 16 ≤ 4700000; omega⟩

theorem dividesInRange_iff (freq : UInt32) :
    DividesInRange freq ↔ 146875 ≤ freq.toNat ∧ freq.toNat ≤ 2350000 := by
  constructor
  · intro h
    obtain ⟨hd, hlo, hhi⟩ := h Unit refusing ⟨RT710_ADDR, RT710_CONFIG, some .rt710, 0⟩ () 28860 4
      _ (by
      rw [setParams_refusing]
      exact List.mem_cons_of_mem _ List.mem_cons_self)
    generalize (mixDiv freq).1 = d at hd hlo hhi
    simp only [List.mem_cons, List.not_mem_nil, or_false] at hd
    rcases hd with rfl | rfl | rfl | rfl
    · exact ⟨by change 2350000 ≤ _ * 2 at hlo; omega, by change _ * 2 ≤ 4700000 at hhi; omega⟩
    · exact ⟨by change 2350000 ≤ _ * 4 at hlo; omega, by change _ * 4 ≤ 4700000 at hhi; omega⟩
    · exact ⟨by change 2350000 ≤ _ * 8 at hlo; omega, by change _ * 8 ≤ 4700000 at hhi; omega⟩
    · exact ⟨by change 2350000 ≤ _ * 16 at hlo; omega, by change _ * 16 ≤ 4700000 at hhi; omega⟩
  · intro ⟨hlo, hhi⟩ _ _ _ _ _ _ _ _
    obtain ⟨d, hd⟩ := exists_inBand hlo hhi
    exact (inBand_iff hhi).1 (mixDiv_inBand hd).2

/-- The tuner divides the VCO for the intermediate frequency there is. -/
def Exact (params : TuneParams) : Prop :=
  params.system = .isdbS → ∀ freq, params.ifFrequencyKhz = .ok freq → DividesInRange freq

/-- The intermediate frequency has a band. -/
def HasBand (params : TuneParams) : Prop :=
  params.system = .isdbS → ∀ freq, params.ifFrequencyKhz = .ok freq →
    146875 ≤ freq.toNat ∧ freq.toNat ≤ 2350000

theorem exact_iff (params : TuneParams) : Exact params ↔ HasBand params := by
  simp only [Exact, HasBand, dividesInRange_iff]

end Px4.Rt710

/-! ## The frequencies a tuner is set to -/

/-- **Which frequencies are set as asked for.** On each path the frequency has to fit: 32 bits in
Hz for ISDB-T by the DVB API, the 20 bits of the CXD2858ER, a band of the RT710. -/
theorem tunes_exactly_iff {params : TuneParams} (h : params.validate = .ok ()) :
    (Dvb.Exact params ↔
      (params.system = .isdbT → params.frequencyKhz.toNat * 1000 < 2 ^ 32)) ∧
      (Px4.Cxd2858er.Exact params ↔ Px4.Cxd2858er.Fits params) ∧
      (Px4.Rt710.Exact params ↔ Px4.Rt710.HasBand params) :=
  ⟨Dvb.exact_iff h, Px4.Cxd2858er.exact_iff params, Px4.Rt710.exact_iff params⟩

/-- Channel 27, and a channel of BS: the frequencies fit, and have a band. -/
theorem tunes_exactly_channel27_bs1 :
    Dvb.Exact ⟨.isdbT, 557143, none, none⟩ ∧ Px4.Cxd2858er.Exact ⟨.isdbT, 557143, none, none⟩ ∧
      Dvb.Exact ⟨.isdbS, 11727480, some ⟨0x4010⟩, none⟩ ∧
      Px4.Cxd2858er.Exact ⟨.isdbS, 11727480, some ⟨0x4010⟩, none⟩ ∧
      Px4.Rt710.Exact ⟨.isdbS, 11727480, some ⟨0x4010⟩, none⟩ := by
  obtain ⟨hdvb, hcxd, -⟩ := tunes_exactly_iff
    (show (⟨.isdbT, 557143, none, none⟩ : TuneParams).validate = .ok () from rfl)
  obtain ⟨hdvb', hcxd', hrt⟩ := tunes_exactly_iff
    (show (⟨.isdbS, 11727480, some ⟨0x4010⟩, none⟩ : TuneParams).validate = .ok () from rfl)
  have hif : ∀ freq, (⟨.isdbS, 11727480, some ⟨0x4010⟩, none⟩ : TuneParams).ifFrequencyKhz =
      .ok freq → freq = 1049480 := by
    intro freq hfreq
    cases hfreq
    rfl
  refine ⟨hdvb.2 fun _ => by decide, hcxd.2 ⟨fun _ => by decide, nofun⟩, hdvb'.2 nofun,
    hcxd'.2 ⟨nofun, fun _ freq hfreq => ?_⟩, hrt.2 fun _ freq hfreq => ?_⟩
  · rw [hif freq hfreq]
    decide
  · rw [hif freq hfreq]
    decide

/-- At 4294968 kHz the product in Hz wraps, at 2^20 kHz the field of the CXD2858ER is cut to 0, and
above 2350 MHz the RT710 has no divider; each of these is valid. -/
theorem reduced_frequencies :
    (⟨.isdbT, 4294968, none, none⟩ : TuneParams).validate = .ok () ∧
      ¬ Dvb.Exact ⟨.isdbT, 4294968, none, none⟩ ∧
      (⟨.isdbT, 1048576, none, none⟩ : TuneParams).validate = .ok () ∧
      ¬ Px4.Cxd2858er.Exact ⟨.isdbT, 1048576, none, none⟩ ∧
      (⟨.isdbS, 13028001, some ⟨0x4010⟩, none⟩ : TuneParams).validate = .ok () ∧
      ¬ Px4.Rt710.Exact ⟨.isdbS, 13028001, some ⟨0x4010⟩, none⟩ := by
  refine ⟨rfl, fun h => ?_, rfl, fun h => ?_, rfl, fun h => ?_⟩
  · exact absurd ((Dvb.exact_iff rfl).1 h rfl) (by decide)
  · exact absurd (((Px4.Cxd2858er.exact_iff _).1 h).1 rfl) (by decide)
  · exact absurd ((Px4.Rt710.exact_iff _).1 h rfl _ rfl) (by decide)

end Tunelith
