import Mathlib.Data.Fintype.Basic
import Mathlib.Data.Finset.Card
import Tunelith.Px4.Opened
import Tunelith.Px4.Ready

/-!
# The chips of a card and its open tuners

While a tuner of a half is open, all four of its chips are initialised, and every open ISDB-T one
has been told the system. What is opened is counted in each half.

* `Half.Inv` — what holds of a half between two calls.
* `Px4.keeps` — the card as a `Board` keeps it.
-/

set_option linter.dupNamespace false

namespace Tunelith.Px4

/-- How many are open. -/
def numOpen {ι : Type} [Fintype ι] (on : ι → Bool) : Nat := (Finset.univ.filter (on · = true)).card

section

variable {ι : Type} [Fintype ι] {on : ι → Bool} {i : ι}

theorem numOpen_none : numOpen (fun _ : ι => false) = 0 := by simp [numOpen]

theorem numOpen_pos (h : on i = true) : 0 < numOpen on :=
  Finset.card_pos.2 ⟨i, by simp [h]⟩

variable [DecidableEq ι]

theorem numOpen_open (h : on i = false) : numOpen (Function.update on i true) = numOpen on + 1 := by
  have hset : Finset.univ.filter (Function.update on i true · = true) =
      insert i (Finset.univ.filter (on · = true)) := by
    ext j
    by_cases hj : j = i <;> simp [Function.update_apply, hj]
  rw [numOpen, hset, Finset.card_insert_of_notMem, numOpen]
  simp [h]

theorem numOpen_close (h : on i = true) :
    numOpen (Function.update on i false) + 1 = numOpen on := by
  rw [← numOpen_open (i := i) (Function.update_self i false on), Function.update_idem,
    ← h, Function.update_eq_self]

end

/-! ## A tuner -/

namespace Tuner

/-- It is as every model makes it. -/
def Made : Tuner → Prop
  | .s _ => True
  | .t r850 => r850.Made

/-- It is initialised, and an ISDB-T one has been told the system if `told`. -/
def Ready (told : Prop) : Tuner → Prop
  | .s rt710 => rt710.Ready
  | .t r850 => r850.Ready told

theorem Ready.made {told : Prop} {t : Tuner} (h : t.Ready told) : t.Made := by
  cases t with
  | s _ => trivial
  | t _ => exact h.toMade

theorem Ready.mono {told told' : Prop} {t : Tuner} (h : t.Ready told) (ht : told' → told) :
    t.Ready told' := by
  cases t with
  | s _ => exact h
  | t _ => exact ⟨h.toMade, h.initialised, fun h' => h.sys (ht h')⟩

end Tuner

/-! ## A half -/

namespace Half

/-- The count is `n`, and the tuners have what `P` says of each. -/
structure Holds (n : Nat) (P : Fin 4 → Tuner → Prop) (h : Half) : Prop where
  openCount : h.openCount = n
  tuner : ∀ j, P j (h.chips j).tuner

section

variable {n : Nat} {P P' : Fin 4 → Tuner → Prop} {h : Half} {ω α : Type}

theorem Holds.mono (hh : Holds n P h) (hP : ∀ j t, P j t → P' j t) : Holds n P' h :=
  ⟨hh.openCount, fun j => hP j _ (hh.tuner j)⟩

theorem Holds.setTuner {j : Fin 4} {T : Tuner → Prop} {t : Tuner} (hh : Holds n P h) (ht : T t) :
    Holds n (Function.update P j T) (h.setTuner j t) := by
  refine ⟨hh.openCount, fun i => ?_⟩
  by_cases hi : i = j
  · subst hi
    simpa [Half.setTuner] using ht
  · simpa [Half.setTuner, hi] using hh.tuner i

theorem leads_onRt710 {I Q R : Rt710 → Prop} {m : OnChip Rt710 ω α} {j : Fin 4} {rt710 : Rt710}
    {T U : Tuner → Prop} (hm : Leads I m Q R) (hI : I rt710) (hT : ∀ c, Q c → T (.s c))
    (hU : ∀ c, R c → U (.s c)) :
    Leads (Holds n P) (onRt710 j rt710 m) (Holds n (Function.update P j T))
      (Holds n (Function.update P j U)) :=
  Leads.part fun _ hh => hm.conseq (fun _ hc => hc ▸ hI) (fun c hc => hh.setTuner (hT c hc))
    fun c hc => hh.setTuner (hU c hc)

theorem leads_onR850 {I Q R : R850 → Prop} {m : OnChip R850 ω α} {j : Fin 4} {r850 : R850}
    {T U : Tuner → Prop} (hm : Leads I m Q R) (hI : I r850) (hT : ∀ c, Q c → T (.t c))
    (hU : ∀ c, R c → U (.t c)) :
    Leads (Holds n P) (onR850 j r850 m) (Holds n (Function.update P j T))
      (Holds n (Function.update P j U)) :=
  Leads.part fun _ hh => hm.conseq (fun _ hc => hc ▸ hI) (fun c hc => hh.setTuner (hT c hc))
    fun c hc => hh.setTuner (hU c hc)

theorem keeps_onRt710 {I : Rt710 → Prop} {m : OnChip Rt710 ω α} {j : Fin 4} {rt710 : Rt710}
    (hm : Keeps I m) (hI : I rt710) (hP : ∀ c, I c → P j (.s c)) :
    Keeps (Holds n P) (onRt710 j rt710 m) := by
  have := leads_onRt710 (n := n) (P := P) (j := j) (T := P j) (U := P j) hm hI hP hP
  rwa [Function.update_eq_self] at this

theorem keeps_onR850 {I : R850 → Prop} {m : OnChip R850 ω α} {j : Fin 4} {r850 : R850}
    (hm : Keeps I m) (hI : I r850) (hP : ∀ c, I c → P j (.t c)) :
    Keeps (Holds n P) (onR850 j r850 m) := by
  have := leads_onR850 (n := n) (P := P) (j := j) (T := P j) (U := P j) hm hI hP hP
  rwa [Function.update_eq_self] at this

end

variable {ω : Type} (ops : Ops ω) {n : Nat} {told : Fin 4 → Prop}

/-- All four are initialised, and those of `told` have been told the system. -/
abbrev Up (n : Nat) (told : Fin 4 → Prop) : Half → Prop := Holds n fun j => Tuner.Ready (told j)

/-- All four are as they are made. -/
abbrev Down (n : Nat) : Half → Prop := Holds n fun _ => Tuner.Made

theorem Holds.down {h : Half} (hh : Up n told h) : Down n h :=
  Holds.mono hh fun _ _ => Tuner.Ready.made

theorem keeps_sleep (j : Fin 4) : Keeps (Up n told) (sleep ops j) := by
  refine Leads.self fun h hh => ?_
  have hj := hh.tuner j
  dsimp only
  split
  · next rt710 ht =>
    rw [ht] at hj
    exact (keeps_onRt710 (Rt710.keeps_sleep _) hj fun _ hc => hc).bind fun _ => Keeps.bus _
  · next r850 ht =>
    rw [ht] at hj
    exact (keeps_onR850 R850.keeps_checkInit hj fun _ hc => hc).bind fun _ => Keeps.bus _

theorem initChip_leads {P : Fin 4 → Tuner → Prop} (hP : ∀ j t, P j t → t.Made) (j : Fin 4) :
    Leads (Holds n P) (initChip ops j) (Holds n (Function.update P j (Tuner.Ready False)))
      (Down n) := by
  have hdown : ∀ h, Holds n (Function.update P j Tuner.Made) h → Down n h := by
    intro h hh
    refine hh.mono fun i t ht => ?_
    by_cases hi : i = j
    · rwa [hi, Function.update_self] at ht
    · rw [Function.update_of_ne hi] at ht
      exact hP i t ht
  refine Leads.self fun h hh => ?_
  have hj := hP j _ (hh.tuner j)
  dsimp only
  split
  · exact (leads_onRt710 (Rt710.init_ready _) trivial (fun _ hc => hc) fun _ _ => trivial).conseq
      (fun _ h => h) (fun _ h => h) hdown
  · next r850 ht =>
    rw [ht] at hj
    exact (leads_onR850 (R850.init_ready _) hj (fun _ hc => hc) fun _ hc => hc).conseq
      (fun _ h => h) (fun _ h => h) hdown

theorem forEach_initChip_leads (js : List (Fin 4)) {P : Fin 4 → Tuner → Prop}
    (hP : ∀ j t, P j t → t.Made) :
    Leads (Holds n P) (Eff.forEach js (initChip ops))
      (Holds n fun j t => (j ∈ js → t.Ready False) ∧ (j ∉ js → P j t)) (Down n) := by
  induction js generalizing P with
  | nil => exact Eff.Triple.pure fun _ hs => hs.mono fun _ _ ht => ⟨nofun, fun _ => ht⟩
  | cons j js ih =>
    have hmade : ∀ i t, Function.update P j (Tuner.Ready False) i t → t.Made := by
      intro i t ht
      by_cases hi : i = j
      · rw [hi, Function.update_self] at ht
        exact ht.made
      · rw [Function.update_of_ne hi] at ht
        exact hP i t ht
    refine Eff.Triple.bind (initChip_leads ops hP j) fun _ => (ih hmade).conseq (fun _ h => h)
      (fun _ hh => hh.mono fun i t ht => ?_) fun _ h => h
    by_cases hi : i ∈ js
    · exact ⟨fun _ => ht.1 hi, fun h => absurd (List.mem_cons_of_mem j hi) h⟩
    · have ht := ht.2 hi
      by_cases hij : i = j
      · rw [hij, Function.update_self] at ht
        exact ⟨fun _ => ht, fun h => absurd (hij ▸ List.mem_cons_self) h⟩
      · rw [Function.update_of_ne hij] at ht
        exact ⟨fun h => absurd (List.mem_of_ne_of_mem hij h) hi, fun _ => ht⟩

theorem init_leads (j : Fin 4) :
    Leads (Down n) (init ops j) (Up n fun _ => False) (Down n) := by
  refine Eff.Triple.bind (Leads.conseq (forEach_initChip_leads ops _ fun _ _ h => h) (fun _ h => h)
    (fun _ hh => hh.mono fun i t ht => ht.1 (List.mem_finRange i)) fun _ h => h) fun _ => ?_
  exact Leads.conseq (Eff.Safe.forEach fun i _ => keeps_sleep ops i) (fun _ h => h) (fun _ h => h)
    fun _ => Holds.down

theorem keeps_term : Keeps (Down n) (term : OnChip Half ω Unit) := by
  refine Eff.Safe.forEach fun j _ => Leads.self fun h hh => ?_
  have hj := hh.tuner j
  split
  · exact keeps_onRt710 (I := fun _ => True) (Keeps.modifySelf fun _ h => h) trivial fun _ h => h
  · next r850 ht =>
    rw [ht] at hj
    exact keeps_onR850 R850.keeps_term hj fun _ hc => hc

theorem term_ok (s : Half × ω) : (term s).1 = .ok () := by
  refine Eff.forEach_ok (fun j s => ?_) s
  rw [termChip, Eff.bind_of_ok (m := OnChip.self) rfl]
  cases (s.1.chips j).tuner <;> rfl

theorem up_of_update {h : Half} {j : Fin 4}
    (hh : Holds n (Function.update (fun i => Tuner.Ready (told i)) j (Tuner.Ready True)) h) :
    Up n (fun i => i = j ∨ told i) h := by
  refine hh.mono fun i t ht => ?_
  by_cases hi : i = j
  · rw [hi, Function.update_self] at ht
    exact ht.mono fun _ => trivial
  · rw [Function.update_of_ne hi] at ht
    exact ht.mono fun h => h.resolve_left hi

theorem wakeup_leads (j : Fin 4) :
    Leads (Up n told) (wakeup ops j) (Up n fun i => i = j ∨ told i) (Up n told) := by
  refine Leads.known fun h hh => ?_
  have hj := hh.tuner j
  dsimp only
  split
  · next rt710 ht =>
    -- An ISDB-S tuner takes no system: it is as ready as one that has been told.
    have hknown : Up n (fun i => i = j ∨ told i) h := by
      refine ⟨hh.openCount, fun i => ?_⟩
      by_cases hi : i = j
      · rw [hi, ht]
        rw [ht] at hj
        exact hj
      · exact (hh.tuner i).mono fun h => h.resolve_left hi
    refine Leads.conseq (P := Up n fun i => i = j ∨ told i) (R := Up n fun i => i = j ∨ told i) ?_
      (fun _ he => he ▸ hknown) (fun _ h => h) fun _ hh => hh.mono fun _ _ ht => ht.mono .inr
    exact (Keeps.bus _).bind fun _ => (Keeps.bus _).bind fun _ => (Keeps.bus _).bind fun _ =>
      Keeps.bus _
  · next r850 ht =>
    rw [ht] at hj
    refine Leads.conseq (P := Up n told) (R := Up n told) ?_ (fun _ he => he ▸ hh)
      (fun _ => up_of_update) fun _ h => h
    refine Eff.Triple.bind (Keeps.bus _) fun _ => Eff.Triple.bind (Keeps.bus _) fun _ => ?_
    refine Eff.Triple.bind (Keeps.bus _) fun _ => Eff.Triple.bind (Keeps.bus _) fun _ => ?_
    refine Eff.Triple.bind (Keeps.bus _) fun _ => ?_
    refine (leads_onR850 (T := Tuner.Ready True) (U := Tuner.Ready (told j))
      (Eff.Triple.bind R850.keeps_checkInit fun _ => R850.setSystem_ready) hj (fun _ h => h)
      fun _ h => h).conseq (fun _ h => h) (fun _ h => h) fun _ hh => ?_
    rwa [Function.update_eq_self_iff.2 rfl] at hh

/-! ### Between two calls -/

/-- What is open is counted; while anything is, all four are initialised, and those that are open
have been told the system. -/
def Inv (on : Fin 4 → Bool) : Half → Prop :=
  Holds (numOpen on) fun j t => t.Made ∧ (0 < numOpen on → t.Ready (on j = true))

section

variable {on : Fin 4 → Bool} {h : Half}

theorem Holds.inv (hh : Up (numOpen on) (fun i => on i = true) h) : Inv on h :=
  hh.mono fun _ _ ht => ⟨ht.made, fun _ => ht⟩

theorem Holds.inv_of_none (hn : numOpen on = 0) (hh : Down (numOpen on) h) : Inv on h :=
  hh.mono fun _ _ ht => ⟨ht, fun hpos => absurd hn hpos.ne'⟩

theorem Inv.up (hh : Inv on h) (hn : 0 < numOpen on) : Up (numOpen on) (fun i => on i = true) h :=
  hh.mono fun _ _ ht => ht.2 hn

theorem Inv.down (hh : Inv on h) : Down (numOpen on) h := hh.mono fun _ _ ht => ht.1

theorem inv_new : Inv (fun _ => false) Half.new := by
  refine ⟨numOpen_none.symm, fun j => ⟨?_, fun h => absurd numOpen_none h.ne'⟩⟩
  unfold Half.new
  dsimp only
  split_ifs
  · trivial
  · exact ⟨rfl, rfl, rfl⟩

theorem tryOpen_leads (on : Fin 4 → Bool) (j : Fin 4) :
    Leads (Inv on) (tryOpen ops j) (Up (numOpen on) fun i => i = j ∨ on i = true) (Inv on) := by
  refine Leads.self fun half hh => ?_
  have hinit : Leads (Inv on) (Eff.when (decide (half.openCount = 0) = true) (init ops j))
      (Up (numOpen on) fun i => on i = true) (Inv on) := by
    by_cases hn : numOpen on = 0
    · have hoff : ∀ i, on i = true → False := fun i hi => (numOpen_pos hi).ne' hn
      refine Eff.Triple.when (fun _ => Leads.conseq (init_leads ops j) (fun _ => Inv.down) ?_ ?_)
        fun s hs _ => absurd (hh.openCount.trans hn) (of_decide_eq_false (Bool.eq_false_iff.2 hs))
      · exact fun _ hh => hh.mono fun i _ ht => ht.mono (hoff i)
      · exact fun _ => Holds.inv_of_none hn
    · refine Eff.Triple.when (fun hf => absurd ?_ hn) fun _ _ hh =>
        Inv.up hh (Nat.pos_of_ne_zero hn)
      rw [← hh.openCount]
      exact of_decide_eq_true hf
  refine Eff.Triple.bind hinit fun _ => Eff.Triple.bind ((wakeup_leads ops j).conseq (fun _ h => h)
    (fun _ h => h) fun _ => Holds.inv) fun _ => ?_
  refine Leads.conseq (Q := Up (numOpen on) fun i => i = j ∨ on i = true)
    (R := Up (numOpen on) fun i => i = j ∨ on i = true)
    (Eff.Safe.when fun _ => (Keeps.bus _).bind fun _ => Keeps.bus _) (fun _ h => h)
    (fun _ h => h) ?_
  exact fun _ hh => Holds.inv (hh.mono fun _ _ ht => ht.mono .inr)

theorem settle_ok {on : Fin 4 → Bool} {j : Fin 4} (hj : on j = false) :
    Leads (Up (numOpen on) fun i => i = j ∨ on i = true)
      (Px4.settle (.ok ()) : OnChip Half ω Unit) (Inv (Function.update on j true)) (Inv on) := by
  refine Eff.Triple.modify fun s hh => Holds.inv ⟨?_, fun i => ?_⟩
  · exact (congrArg (· + 1) hh.openCount).trans (numOpen_open hj).symm
  · refine (hh.tuner i).mono fun (hi : Function.update on j true i = true) => ?_
    by_cases hij : i = j
    · exact .inl hij
    · exact .inr (by rwa [Function.update_of_ne hij] at hi)

theorem settle_error (e : Fault) :
    Keeps (Inv on) (Px4.settle (.error e) : OnChip Half ω Unit) := by
  refine Leads.self fun half hh => Eff.Safe.when fun hz => ?_
  have hn : numOpen on = 0 := hh.openCount.symm.trans hz
  exact keeps_term.conseq (fun _ => Inv.down) (fun _ _ => Holds.inv_of_none hn)
    fun _ _ h => ⟨h.1, Holds.inv_of_none hn h.2⟩

theorem closeHalf_leads {m : Nat} (ops : Fin m → Ops ω) (k : Fin m)
    {on : Fin 4 → Bool} {j : Fin 4} (hj : on j = true) :
    Eff.Triple (fun s : Half × ω => Inv on s.1) (Px4.closeHalf ops k j)
      (fun _ s => Inv (Function.update on j false) s.1) fun _ _ => False := by
  have hpos : 0 < numOpen on := numOpen_pos hj
  have hcount : numOpen (Function.update on j false) = numOpen on - 1 := by
    have := numOpen_close hj
    omega
  refine OnChip.triple_self fun half hh => ?_
  refine Eff.Triple.bind (Q := fun _ s => s.1 = half) (Eff.Triple.require (fun _ _ hs => hs)
    fun s hn _ => absurd (hh.openCount ▸ hpos) hn) fun _ => ?_
  have hup : Up (numOpen on - 1) (fun i => Function.update on j false i = true)
      { half with openCount := half.openCount - 1 } := by
    refine ⟨congrArg (· - 1) hh.openCount, fun i => ((hh.up hpos).tuner i).mono
      fun (hi : Function.update on j false i = true) => ?_⟩
    by_cases hij : i = j
    · rw [hij, Function.update_self] at hi
      cases hi
    · rwa [Function.update_of_ne hij] at hi
  refine Eff.Triple.bind (Q := fun _ (s : Half × ω) => Up (numOpen on - 1)
    (fun i => Function.update on j false i = true) s.1) (Eff.Triple.modify ?_) fun _ => ?_
  · exact fun s hs => hs ▸ hup
  refine OnChip.triple_self fun half' hh' => ?_
  split
  · next hz =>
    have hn : numOpen (Function.update on j false) = 0 := by
      rw [hcount, ← hz]
      exact hh'.openCount.symm
    have hterm : Keeps (Down (numOpen on - 1)) (term : OnChip Half ω Unit) := keeps_term
    refine Eff.Triple.of_ok (hterm.conseq (fun _ hs => hs ▸ hh'.down) (fun _ s h => ?_)
      fun _ _ h => h) fun s _ => ⟨(), term_ok s⟩
    exact Holds.inv_of_none hn (hcount ▸ h)
  · have hsleep : Keeps (Up (numOpen on - 1) fun i => Function.update on j false i = true)
        (sleep (ops k) j) := keeps_sleep (ops k) j
    refine Eff.Triple.bind (Q := fun _ => _) ((hsleep.attempt).conseq (fun _ hs => hs ▸ hh')
      (fun _ _ h => h) fun _ _ h => h) fun _ => Eff.Triple.pure fun _ h => ?_
    exact Holds.inv (hcount.symm ▸ h)

end

/-! ### What is asked of an open tuner -/

theorem keeps_waitPll {χ : Type} {I : χ → Prop} {isPllLocked : OnChip χ ω Bool} {message : String}
    (hlocked : Keeps I isPllLocked) (hmessage : (Fault.chip message).unready = false) (polls : Nat)
    {last : Except Fault Bool} (hlast : ∀ e, last = .error e → e.unready = false) :
    Keeps I (waitPll isPllLocked message polls last) := by
  induction polls generalizing last with
  | zero => exact (Eff.Safe.ofExcept hlast).bind fun _ => .throw hmessage
  | succ polls ih =>
    refine Eff.Triple.bind (Eff.Triple.attempt (Q := fun r s =>
      (∀ e, r = .error e → e.unready = false) ∧ I s.1) ?_) fun r => ?_
    · refine Eff.Triple.conseq hlocked (fun _ h => h) (fun _ _ h => ⟨nofun, h⟩)
        fun e _ h => ⟨?_, h.2⟩
      exact fun e' he => Except.error.inj he ▸ h.1
    · split
      · exact Eff.Triple.pure fun _ hs => hs.2
      · exact fun s hs => ih hs.1 s hs.2

theorem keeps_selectTsid {χ : Type} {I : χ → Prop} (demod : Tc90522) (i2c : I2c ω)
    (tsid : UInt16) : Keeps I (selectTsid demod i2c tsid : OnChip χ ω Unit) := by
  refine (Keeps.bus _).bind fun _ => ?_
  generalize 100 = polls
  induction polls with
  | zero => exact .throw (by decide)
  | succ polls ih =>
    refine Eff.Triple.bind (Eff.Safe.attempt (Keeps.bus _)) fun r => ?_
    split
    · split
      · exact Eff.Safe.pure ()
      · exact ih
    · exact ih

theorem keeps_tune {j : Fin 4} (hj : told j) (params : TuneParams) :
    Keeps (Up n told) (tune ops j params) := by
  refine Leads.self fun h hh => ?_
  have hready := hh.tuner j
  dsimp only
  split
  · next r850 ht =>
    rw [ht] at hready
    refine (Keeps.bus _).bind fun _ => (Keeps.bus _).bind fun _ => (Keeps.bus _).bind fun _ => ?_
    refine Eff.Safe.bind (keeps_onR850 (I := R850.Ready True) (Eff.Safe.bind
      (R850.keeps_setFrequency _ _) fun _ => keeps_waitPll (R850.keeps_isPllLocked _) (by decide) _
        nofun) (Tuner.Ready.mono (t := .t r850) hready fun _ => hj) fun c hc => ?_) fun _ => ?_
    · exact Tuner.Ready.mono (t := .t c) hc fun _ => trivial
    · exact (Keeps.bus _).bind fun _ => (Keeps.bus _).bind fun _ => (Keeps.bus _).bind fun _ =>
        Keeps.bus _
  · next rt710 ht =>
    rw [ht] at hready
    have hif : ∀ e, params.ifFrequencyKhz.mapError Fault.own = .error e → e.unready = false := by
      intro e he
      cases hr : params.ifFrequencyKhz with
      | ok _ =>
        rw [hr] at he
        cases he
      | error e' =>
        rw [hr] at he
        rw [TuneParams.ifFrequencyKhz_error hr] at he
        cases he
        decide
    refine (Keeps.bus _).bind fun _ => (Keeps.bus _).bind fun _ => (Keeps.bus _).bind fun _ => ?_
    refine (Eff.Safe.ofExcept hif).bind fun ifFreq => ?_
    refine Eff.Safe.bind (keeps_onRt710 (I := Rt710.Ready) (Eff.Safe.bind
      (Rt710.keeps_setParams _ _ _ _) fun _ => keeps_waitPll (Rt710.keeps_isPllLocked _)
        (by decide) _ nofun) hready fun _ hc => hc) fun _ => Keeps.bus _

theorem keeps_lock (j : Fin 4) : Keeps (Up n told) (lock ops j) := by
  refine Leads.self fun h _ => ?_
  dsimp only
  split
  · exact (Keeps.bus _).bind fun _ => .pure _
  · exact (Keeps.bus _).bind fun _ => .pure _

theorem keeps_select (j : Fin 4) (params : TuneParams) :
    Keeps (Up n told) (select ops j params) := by
  unfold select
  split
  · exact .pure _
  · exact Leads.self fun _ _ => keeps_selectTsid _ _ _

theorem keeps_lnbSet {n : Nat} {I : Lnb n → Prop} (hI : ∀ lnb, I lnb) (index : Fin n)
    (on : Bool) : Keeps I (Lnb.set ops index on) := by
  refine Leads.self fun lnb _ => Eff.Safe.when fun _ => ?_
  exact Eff.Safe.bind (Eff.Safe.when fun _ => Keeps.bus _) fun _ => Keeps.modifySelf fun _ _ => hI _

theorem keeps_setLnb (j : Fin 4) (on : Bool) : Keeps (Up n told) (setLnb ops j on) := by
  refine Leads.self fun h _ => ?_
  split
  · exact Eff.Safe.throw (by decide)
  · refine Leads.part fun h hh => ?_
    exact (keeps_lnbSet ops (I := fun lnb => Up n told { h with lnb := lnb })
      (fun _ => ⟨hh.openCount, hh.tuner⟩) j on).leads.conseq (fun _ _ => ⟨hh.openCount, hh.tuner⟩)
      (fun _ h => h) fun _ h => h

theorem keeps_setCapture (j : Fin 4) (on : Bool) : Keeps (Up n told) (setCapture ops j on) := by
  refine Leads.self fun h _ => ?_
  dsimp only
  split <;> exact Keeps.bus _

/-- What is kept of four that are up is kept between two calls. -/
theorem keeps_inv {α : Type} {on : Fin 4 → Bool} {op : OnChip Half ω α} (hn : 0 < numOpen on)
    (h : Keeps (Up (numOpen on) fun i => on i = true) op) : Keeps (Inv on) op :=
  h.conseq (fun _ hs => hs.up hn) (fun _ _ => Holds.inv) fun _ _ h => ⟨h.1, Holds.inv h.2⟩

end Half

/-! ## The card -/

namespace Px4

variable {m : Nat} {ω α : Type}

theorem triple_onHalf {I : Fin m → Half → Prop} {k : Fin m} {op : OnChip Half ω α}
    {Q R : Half → Prop} {F : Fault → Prop} (h : Eff.Triple (fun s => I k s.1) op (fun _ s => Q s.1)
      fun e s => F e ∧ R s.1) :
    Eff.Triple (fun s : Px4 m × ω => ∀ k', I k' (s.1.halves k')) (onHalf k op)
      (fun _ s => ∀ k', Function.update I k Q k' (s.1.halves k'))
      fun e s => F e ∧ ∀ k', Function.update I k R k' (s.1.halves k') := by
  have hput : ∀ (c : Px4 m) (half : Half) (T : Half → Prop), (∀ k', I k' (c.halves k')) → T half →
      ∀ k', Function.update I k T k' (Function.update c.halves k half k') := by
    intro c half T hc hT k'
    by_cases hk : k' = k
    · rw [hk, Function.update_self, Function.update_self]
      exact hT
    · rw [Function.update_of_ne hk, Function.update_of_ne hk]
      exact hc k'
  refine OnChip.triple_part (P := fun c : Px4 m => ∀ k', I k' (c.halves k'))
    (Q := fun _ c => ∀ k', Function.update I k Q k' (c.halves k'))
    (E := fun e c => F e ∧ ∀ k', Function.update I k R k' (c.halves k')) fun c hc =>
    h.conseq (fun _ ht => ht ▸ hc k) ?_ ?_
  · exact fun _ t ht => hput _ _ _ hc ht
  · exact fun _ t ht => ⟨ht.1, hput _ _ _ hc ht.2⟩

section

variable {o : Fin m × Fin 4 → Bool}

/-- What holds of a card between two calls. -/
def Inv (o : Fin m × Fin 4 → Bool) (c : Px4 m) : Prop :=
  ∀ k, Half.Inv (fun j => o (k, j)) (c.halves k)

theorem inv_new : Inv (fun _ => false) (new m) := fun _ => Half.inv_new

/-- A tuner goes on or off in its half only. -/
theorem inv_update {i : Fin m × Fin 4} {b : Bool} {c : Px4 m}
    (h : ∀ k, Function.update (fun k => Half.Inv fun j => o (k, j)) i.1
      (Half.Inv (Function.update (fun j => o (i.1, j)) i.2 b)) k (c.halves k)) :
    Inv (Function.update o i b) c := by
  intro k
  have hk := h k
  by_cases hki : k = i.1
  · rw [hki, Function.update_self] at hk
    have : (fun j => Function.update o i b (i.1, j)) =
        Function.update (fun j => o (i.1, j)) i.2 b := by
      funext j
      simp only [Function.update_apply, Prod.ext_iff, true_and]
    rwa [hki, this]
  · rw [Function.update_of_ne hki] at hk
    have : (fun j => Function.update o i b (k, j)) = fun j => o (k, j) := by
      funext j
      exact Function.update_of_ne (fun he => hki (congrArg Prod.fst he)) _ _
    rwa [this]

theorem keeps_onHalf {k : Fin m} {op : OnChip Half ω α}
    (h : Keeps (Half.Inv fun j => o (k, j)) op) : Keeps (Inv o) (onHalf k op) := by
  have := triple_onHalf (I := fun k => Half.Inv fun j => o (k, j)) h
  rwa [Function.update_eq_self] at this

variable (ops : Fin m → Ops ω)

/-- What an attempt comes to: `P`, or nothing new. -/
def Outcome (P : Px4 m → Prop) (o : Fin m × Fin 4 → Bool) : Except Fault Unit → Px4 m → Prop
  | .ok (), c => P c
  | .error e, c => e.unready = false ∧ Inv o c

/-- The half of the tuner has it awake, and has not counted it yet. -/
def Awake (o : Fin m × Fin 4 → Bool) (i : Fin m × Fin 4) (c : Px4 m) : Prop :=
  ∀ k, Function.update (fun k => Half.Inv fun j => o (k, j)) i.1
    (Half.Up (numOpen fun j => o (i.1, j)) fun j => j = i.2 ∨ o (i.1, j) = true) k (c.halves k)

theorem tryOpen_leads (i : Fin m × Fin 4) :
    Eff.Triple (fun s : Px4 m × ω => Inv o s.1)
      (Eff.attempt (onHalf i.1 (Half.tryOpen (ops i.1) i.2)))
      (fun r s => Outcome (Awake o i) o r s.1)
      fun (e : Fault) s => e.unready = false ∧ Inv o s.1 := by
  have htry := triple_onHalf (I := fun k => Half.Inv fun j => o (k, j)) (k := i.1)
    (Half.tryOpen_leads (ops i.1) (fun j => o (i.1, j)) i.2)
  rw [Function.update_eq_self] at htry
  exact Eff.Triple.attempt (Q := fun r (s : Px4 m × ω) => Outcome (Awake o i) o r s.1) htry

theorem settle_leads {i : Fin m × Fin 4} (hi : o i = false) (r : Except Fault Unit) :
    Eff.Triple (fun s : Px4 m × ω => Outcome (Awake o i) o r s.1) (onHalf i.1 (settle r))
      (fun _ s => Outcome (Inv (Function.update o i true)) o r s.1)
      fun e s => e.unready = false ∧ Inv o s.1 := by
  cases r with
  | ok _ =>
    have hhalf := @Half.settle_ok ω (fun j => o (i.1, j)) i.2 hi
    rw [← Function.update_self (β := fun _ => Half → Prop) i.1 (Half.Up _ _)
      fun k => Half.Inv fun j => o (k, j)] at hhalf
    have hsettle := triple_onHalf hhalf
    simp only [Function.update_idem, Function.update_eq_self] at hsettle
    exact hsettle.conseq (fun _ h => h) (fun _ _ h => inv_update h) fun _ _ h => h
  | error e =>
    have hkeeps : Keeps (Inv o) (onHalf i.1 (settle (.error e)) : OnChip (Px4 m) ω Unit) :=
      keeps_onHalf (Half.settle_error e)
    exact fun s hs => hkeeps.conseq (fun _ h => h) (fun _ _ h => ⟨hs.1, h⟩) (fun _ _ h => h) s hs.2

theorem open_leads {i : Fin m × Fin 4} (hi : o i = false) :
    Leads (Inv o) («open» ops i) (Inv (Function.update o i true)) (Inv o) := by
  refine Leads.self fun c _ => ?_
  refine Eff.Triple.bind (Eff.Safe.when fun _ => Keeps.bus _) fun _ => ?_
  refine Eff.Triple.bind (tryOpen_leads ops i) fun r => ?_
  refine Eff.Triple.bind (settle_leads hi r) fun _ => ?_
  refine Eff.Triple.bind (Q := fun _ s => Outcome (Inv (Function.update o i true)) o r s.1)
    (Eff.Triple.when (fun _ => ?_) fun _ _ h => h) fun _ => ?_
  · have hpower : Keeps (Outcome (Inv (Function.update o i true)) o r)
      (OnChip.bus (power ops false)) := Keeps.bus _
    exact Eff.Triple.bind hpower.attempt fun _ => Eff.Triple.pure fun _ h => h
  · refine Eff.Triple.ofExcept (fun _ _ hr h => ?_) fun e _ hr h => ?_
    · subst hr
      exact h
    · subst hr
      exact h

theorem close_leads {i : Fin m × Fin 4} (hi : o i = true) :
    Eff.Triple (fun s : Px4 m × ω => Inv o s.1) (close ops i)
      (fun _ s => Inv (Function.update o i false) s.1) fun _ _ => False := by
  have hhalf := triple_onHalf (I := fun k => Half.Inv fun j => o (k, j)) (F := fun _ => False)
    (R := fun _ => False)
    ((@Half.closeHalf_leads ω m ops i.1 (fun j => o (i.1, j)) i.2 hi).conseq (fun _ h => h)
      (fun _ _ h => h) fun _ _ h => h.elim)
  refine Eff.Triple.bind (hhalf.conseq (fun _ h => h) (fun _ _ h => inv_update h)
    fun _ _ h => h.1) fun _ => ?_
  refine OnChip.triple_self fun c hc => Eff.Triple.when (fun _ => ?_) fun _ _ hs => hs ▸ hc
  have hpower : Keeps (Inv (Function.update o i false)) (OnChip.bus (power ops false)) :=
    Keeps.bus _
  exact Eff.Triple.bind (hpower.attempt.conseq (fun _ hs => hs ▸ hc) (fun _ _ h => h)
    fun _ _ h => h) fun _ => Eff.Triple.pure fun _ h => h

end

/-- The card, as a board. -/
theorem board_keeps (ops : Fin m → Ops ω) :
    (board ops).Keeps (fun o s => Inv o s.1) fun e => e.unready = false where
  «open» _ _ hi := open_leads ops hi
  close _ _ hi := close_leads ops hi
  request o i q hi := by
    have hn : 0 < numOpen fun j => o (i.1, j) := numOpen_pos (i := i.2) hi
    cases q with
    | tune params => exact keeps_onHalf (Half.keeps_inv hn (Half.keeps_tune (ops i.1) hi params))
    | lock system =>
      exact Eff.Safe.bind (keeps_onHalf (Half.keeps_inv hn (Half.keeps_lock (ops i.1) i.2)))
        fun _ => .pure _
    | select params =>
      exact keeps_onHalf (Half.keeps_inv hn (Half.keeps_select (ops i.1) i.2 params))
    | setLnb on => exact keeps_onHalf (Half.keeps_inv hn (Half.keeps_setLnb (ops i.1) i.2 on))
    | setCapture on =>
      exact keeps_onHalf (Half.keeps_inv hn (Half.keeps_setCapture (ops i.1) i.2 on))

end Px4

end Tunelith.Px4
