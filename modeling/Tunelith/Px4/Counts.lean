import Tunelith.Px4.Halves
import Tunelith.Px4.PxMlt

/-!
# Open counts

The counts of a board and its chips follow the open tuners, over every run of a device: what was
opened is released once, `open_count` is the number of open tuners, and no chip of an open tuner is
asked for what it is not ready for.
-/

namespace Tunelith.Px4

namespace PxMlt

variable {n : Nat} {ω α : Type} {on : Fin n → Bool}

/-- What is open is counted. -/
def Counts (on : Fin n → Bool) (c : PxMlt n) : Prop := c.openCount = numOpen on

theorem counts_new (layout : Layout n) : Counts (fun _ => false) (new layout) := numOpen_none.symm

/-- `m` opens and closes nothing. -/
abbrev Uncounted (on : Fin n → Bool) (m : OnChip (PxMlt n) ω α) : Prop :=
  Eff.Safe (fun s => Counts on s.1) (fun _ => True) m

theorem Uncounted.bus (m : Eff Error ω α) : Uncounted on (OnChip.bus m) :=
  OnChip.safe_bus (fun _ => trivial) m

theorem Uncounted.part {τ : Type} {get : PxMlt n → τ} {put : PxMlt n → τ → PxMlt n}
    (hput : ∀ c t, (put c t).openCount = c.openCount) (m : OnChip τ ω α) :
    Uncounted on (OnChip.part get put m) := by
  refine Eff.Triple.zoom fun s hs t _ => ?_
  have hkeep : ∀ t, Counts on (put s.1 t) := fun t => (hput s.1 t).trans hs
  split
  · exact hkeep _
  · exact ⟨trivial, hkeep _⟩

theorem Uncounted.self : Uncounted on (OnChip.self : OnChip (PxMlt n) ω (PxMlt n)) :=
  OnChip.safe_self

variable (ops : Ops ω)

theorem uncounted_onDemod (i : Fin n) (m : OnChip Cxd2856er ω α) : Uncounted on (onDemod i m) := by
  apply Uncounted.part
  exact fun _ _ => rfl

theorem uncounted_onTuner (i : Fin n) (m : OnChip Cxd2858er ω α) : Uncounted on (onTuner i m) := by
  apply Uncounted.part
  exact fun _ _ => rfl

theorem uncounted_power (b : Bool) :
    Uncounted on (OnChip.bus (power ops b) : OnChip (PxMlt n) ω Unit) := Uncounted.bus _

theorem uncounted_initChip (i : Fin n) : Uncounted on (initChip ops i) :=
  Uncounted.self.bind fun _ => (uncounted_onDemod i _).bind fun _ =>
    (uncounted_onTuner i _).bind fun _ => Uncounted.bus _

theorem uncounted_tune (i : Fin n) (params : TuneParams) : Uncounted on (tune ops i params) := by
  refine Eff.Safe.bind (Eff.Safe.ofExcept fun _ _ => trivial) fun mode => ?_
  refine Eff.Safe.bind (Eff.Safe.ofExcept fun _ _ => trivial) fun khz => ?_
  refine Uncounted.self.bind fun c => Eff.Safe.bind (Eff.Safe.forEach fun _ _ => Uncounted.bus _)
    fun _ => ?_
  exact (uncounted_onDemod i _).bind fun _ => (uncounted_onTuner i _).bind fun _ => Uncounted.bus _

theorem uncounted_lock (i : Fin n) : Uncounted on (lock ops i) := by
  refine Uncounted.self.bind fun _ => (Uncounted.bus _).bind fun status => ?_
  split <;> exact Eff.Safe.pure _

theorem uncounted_setLnb (i : Fin n) (b : Bool) : Uncounted on (setLnb ops i b) := by
  apply Uncounted.part
  exact fun _ _ => rfl

theorem open_counts {i : Fin n} (hi : on i = false) :
    Eff.Triple (fun s : PxMlt n × ω => Counts on s.1) («open» ops i)
      (fun _ s => Counts (Function.update on i true) s.1) fun _ s => True ∧ Counts on s.1 := by
  refine Eff.Triple.bind Uncounted.self fun _ => ?_
  refine Eff.Triple.bind (Eff.Safe.when fun _ => uncounted_power ops true) fun _ => ?_
  refine Eff.Triple.bind (uncounted_initChip ops i).attempt fun r => ?_
  refine Eff.Triple.bind Uncounted.self fun _ => Eff.Triple.bind (Eff.Safe.when fun _ =>
    Eff.Triple.bind (uncounted_power ops false).attempt fun _ => Eff.Triple.pure fun _ h => h)
    fun _ => ?_
  refine Eff.Triple.bind (Eff.Safe.ofExcept fun _ _ => trivial) fun _ => ?_
  exact Eff.Triple.modify fun s hs => (congrArg (· + 1) hs).trans (numOpen_open hi).symm

theorem close_counts {i : Fin n} (hi : on i = true) :
    Eff.Triple (fun s : PxMlt n × ω => Counts on s.1) (close ops i)
      (fun _ s => Counts (Function.update on i false) s.1) fun _ _ => False := by
  have hclose := numOpen_close hi
  refine OnChip.triple_self fun c hc => ?_
  refine Eff.Triple.conseq (P := fun s => Counts on s.1) ?_ (fun _ hs => hs ▸ hc) (fun _ _ h => h)
    fun _ _ h => h
  refine Eff.Triple.bind (uncounted_onTuner i _).attempt fun _ => ?_
  refine Eff.Triple.bind (uncounted_onDemod i _).attempt fun _ => ?_
  refine OnChip.triple_self fun c hc => ?_
  refine Eff.Triple.bind (Q := fun _ s => s.1 = c) (Eff.Triple.require (fun _ _ hs => hs)
    fun s hn _ => hn ?_) fun _ => ?_
  · rw [hc, ← hclose]
    exact Nat.succ_pos _
  refine Eff.Triple.bind (Q := fun _ (s : PxMlt n × ω) => Counts (Function.update on i false) s.1)
    (Eff.Triple.modify fun s hs => ?_) fun _ => ?_
  · change s.1.openCount - 1 = _
    rw [hs, hc, ← hclose, Nat.add_sub_cancel]
  refine OnChip.triple_self fun c' hc' => ?_
  refine Eff.Triple.conseq (P := fun s => Counts (Function.update on i false) s.1)
    (Eff.Triple.when (fun _ => ?_) fun _ _ h => h) (fun _ hs => hs ▸ hc') (fun _ _ h => h)
    fun _ _ h => h
  exact Eff.Triple.bind (uncounted_power ops false).attempt fun _ => Eff.Triple.pure fun _ h => h

/-- The tuners, as a board. -/
theorem board_keeps (ops : Ops ω) :
    (board ops).Keeps (fun o (s : PxMlt n × ω) => Counts o s.1) fun _ => True where
  «open» _ _ hi := open_counts ops hi
  close _ _ hi := close_counts ops hi
  request o i q _ := by
    cases q with
    | tune params => exact uncounted_tune ops i params
    | lock system => exact (uncounted_lock ops i).bind fun _ => .pure _
    | select params => exact Eff.Safe.pure _
    | setLnb on => exact uncounted_setLnb ops i on
    | setCapture on => exact Eff.Safe.pure _

end PxMlt

/-- Over every run of a card or of a PX-MLT, whatever fails. -/
theorem counts_follow_tuners {ω : Type} :
    (∀ (m : Nat) (ops : Fin m → Ops ω) (id : String) (w : ω) tr d,
      Lts.Run (BoardDevice.Step (Px4.board ops)) (.init id (Px4.new m, w)) tr d →
      BoardDevice.Accounts (Px4.board ops) tr d ∧
      (∀ k, (d.state.board.1.halves k).openCount = numOpen fun j => d.state.opened (k, j)) ∧
      (∀ k, 0 < (d.state.board.1.halves k).openCount → ∀ j,
        ((d.state.board.1.halves k).chips j).tuner.Ready (d.state.opened (k, j) = true)) ∧
      (∀ x ∈ tr, x.2.Fine fun e => e.unready = false) ∧
      ∀ k j, d.state.opened (k, j) = true → ∀ (half : Half) (w : ω) e,
        half.chips = (d.state.board.1.halves k).chips →
        (Half.sleep (ops k) j (half, w)).1 = .error e → e.unready = false) ∧
    ∀ (n : Nat) (ops : Ops ω) (layout : PxMlt.Layout n) (id : String) (w : ω) tr d,
      Lts.Run (BoardDevice.Step (PxMlt.board ops)) (.init id (PxMlt.new layout, w)) tr d →
      BoardDevice.Accounts (PxMlt.board ops) tr d ∧
      d.state.board.1.openCount = numOpen d.state.opened ∧ ∀ x ∈ tr, x.2.Fine fun _ => True := by
  constructor
  · intro m ops id w tr d hr
    obtain ⟨honce, hd, hfine⟩ := BoardDevice.Once.run (Px4.board_keeps ops) Px4.inv_new hr
    have hready : ∀ k, 0 < (d.state.board.1.halves k).openCount → ∀ j,
        ((d.state.board.1.halves k).chips j).tuner.Ready (d.state.opened (k, j) = true) :=
      fun k hk j => ((hd.board k).tuner j).2 ((hd.board k).openCount ▸ hk)
    refine ⟨hd.accounts (Px4.board_keeps ops) honce, fun k => (hd.board k).openCount, hready,
      hfine, ?_⟩
    intro k j hj half w e hhalf he
    have hup : Half.Up half.openCount (fun j => d.state.opened (k, j) = true) half := by
      refine ⟨rfl, fun i => ?_⟩
      rw [hhalf]
      refine hready k ?_ i
      rw [(hd.board k).openCount]
      exact numOpen_pos hj
    exact ((Half.keeps_sleep (ops k) j).ends (s := (half, w)) hup (Prod.ext he rfl)).1
  · intro n ops layout id w tr d hr
    obtain ⟨honce, hd, hfine⟩ :=
      BoardDevice.Once.run (PxMlt.board_keeps ops) (PxMlt.counts_new layout) hr
    exact ⟨hd.accounts (PxMlt.board_keeps ops) honce, hd.board, hfine⟩

/-- A bridge that takes everything and reads zeros. -/
def quiet : Ops Unit where
  writeGpio _ _ := pure ()
  i2c _ := { write := fun _ _ => pure (), writeRead := fun _ _ n => pure (Vector.replicate n 0) }

/-- A card with one open ISDB-T tuner, and a PX-MLT whose only tuner is open. -/
theorem counts_follow_tuners_first :
    (∃ tr d, Lts.Run (BoardDevice.Step (Px4.board fun _ : Fin 1 => quiet))
      (.init "card" (Px4.new 1, ())) tr d ∧
      d.state.opened (0, 2) = true ∧
      (d.state.board.1.halves 0).openCount = numOpen fun j => d.state.opened (0, j)) ∧
    ∃ tr d, Lts.Run (BoardDevice.Step (PxMlt.board quiet))
      (.init "mlt" (PxMlt.new (fun _ : Fin 1 => (0x65, 3, 0)), ())) tr d ∧
      d.state.opened 0 = true ∧ d.state.board.1.openCount = numOpen d.state.opened := by
  constructor
  · obtain ⟨tr, d, hrun, hlive, -⟩ := BoardDevice.run_openTuner (Px4.board fun _ : Fin 1 => quiet)
      "card" (Px4.new 1, ()) 2 (i := (0, 2)) (by decide +kernel)
    have hall := counts_follow_tuners.1 1 (fun _ => quiet) "card" () tr d hrun
    exact ⟨tr, d, hrun, (hall.1.opened (0, 2)).2 ⟨0, by rw [hlive]; rfl⟩, hall.2.1 0⟩
  · obtain ⟨tr, d, hrun, hlive, -⟩ := BoardDevice.run_openTuner (PxMlt.board quiet) "mlt"
      (PxMlt.new (fun _ : Fin 1 => (0x65, 3, 0)), ()) 0 (i := 0) (by decide +kernel)
    have hall := counts_follow_tuners.2 1 quiet (fun _ => (0x65, 3, 0)) "mlt" () tr d hrun
    exact ⟨tr, d, hrun, (hall.1.opened 0).2 ⟨0, by rw [hlive]; rfl⟩, hall.2.1⟩

end Tunelith.Px4
