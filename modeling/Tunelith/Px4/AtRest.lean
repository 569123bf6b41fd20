import Tunelith.Px4.Counts
import Tunelith.Px4.PxMlt
import Tunelith.Px4.Rest
import Tunelith.Px4.Single

/-!
# An open that fails, and the last close

The close that leaves no tuner open leaves the board at rest, whatever fails of it. An open that
fails does so exactly if its power-on writes all succeed, or none of them takes effect: where some
take effect and another fails, it returns before what would take the power off again.
-/

set_option linter.dupNamespace false

namespace Tunelith.Px4

variable {ω : Type}

/-! ## Open and close -/

variable {β χ : Type} {reset power : UInt8} {bridges : List (Ops ω)} {w : ω}

/-- An `open` that leaves the board at rest if its power-on writes all succeeded, and has done
nothing else if one of them failed. -/
theorem endsAtRest_iff [DecidableEq β] {m : OnChip χ (List (Write β) × ω) Unit}
    {s : χ × List (Write β) × ω} (hrp : reset ≠ power) (hb : bridges ≠ [] → Nonempty β)
    (h : Eff.Triple (· = s) m (fun _ _ => AllOn reset power bridges w) fun _ s =>
      AllOn reset power bridges w ∧ PoweredOff reset power s.2.1 ∨
        Stuck reset power bridges w s.2.1) :
    (∀ e, (m s).1 = .error e → EndsAtRest reset power (m s).2.2.1) ↔
      AllOn reset power bridges w ∨ NoneOn reset bridges w := by
  have hs := h s rfl
  cases hr : m s with
  | mk r s' =>
    rw [hr] at hs
    cases r with
    | ok _ => exact iff_of_true nofun (.inl hs)
    | error e =>
      constructor
      · intro hrest
        by_contra hnot
        obtain ⟨hall, -⟩ | hstuck := hs
        · exact hnot (.inl hall)
        · have hne : bridges ≠ [] := by
            rintro rfl
            exact hnot (.inl trivial)
          have := hb hne
          exact hstuck.not_rests hrp (fun hnone => hnot (.inr hnone)) (hrest e rfl).1
      · rintro hcond e' -
        obtain ⟨-, hoff⟩ | hstuck := hs
        · exact Rests.endsAtRest hrp (.inr hoff)
        · obtain hall | hnone := hcond
          · exact absurd hall hstuck.1
          · exact Rests.endsAtRest hrp (.inl (hstuck.2.1.2 hnone))

/-- Told to power on, a board is on, or stuck. -/
theorem triple_powerOn {m : Eff Error (List (Write β) × ω) Unit}
    (h : ∃ r ons w', m ([], w) = (r, ons, w') ∧ (r = .ok () ↔ AllOn reset power bridges w) ∧
      (NoPower reset power ons ↔ NoneOn reset bridges w) ∧
      ∀ e ∈ ons, e.powersOn reset power = true) (I : χ → Prop) :
    Eff.Triple (fun s : χ × List (Write β) × ω => I s.1 ∧ s.2 = ([], w)) (OnChip.bus m)
      (fun _ s => AllOn reset power bridges w ∧ I s.1)
      fun _ s => Stuck reset power bridges w s.2.1 := by
  obtain ⟨r, ons, w', hm, hok, hnone, hon⟩ := h
  refine Eff.Triple.zoom fun s hs => Eff.Triple.mapError ?_
  rintro _ rfl
  rw [hs.2, hm]
  cases r with
  | ok _ => exact ⟨hok.1 rfl, hs.1⟩
  | error e => exact ⟨fun hall => absurd (hok.2 hall) nofun, hnone, hon⟩

/-- Told to power off, a board is off, however it is told. -/
theorem triple_powerOff {m : Eff Error (List (Write β) × ω) Unit}
    (h : ∀ log w, ∃ r offs w', m (log, w) = (r, log ++ offs, w') ∧ NoPower reset power offs ∧
      ∀ k, ToldOff reset power k offs) {P : χ × List (Write β) × ω → Prop}
    {E : Fault → χ × List (Write β) × ω → Prop} :
    Eff.Triple P (Eff.attempt (OnChip.bus m)) (fun _ s => PoweredOff reset power s.2.1) E := by
  intro s _
  obtain ⟨r, offs, w', hm, hn, htold⟩ := h s.2.1 s.2.2
  have hbus : (OnChip.bus m : OnChip χ _ Unit) s = (r.mapError .bus, (s.1, s.2.1 ++ offs, w')) := by
    simp only [OnChip.bus, Eff.zoom_apply, Eff.mapError_apply, hm]
  rw [Eff.attempt_apply, hbus]
  exact ⟨s.2.1, offs, rfl, hn, htold⟩

/-! ### The card -/

namespace Px4

variable {m : Nat} (ops : Fin m → Ops ω)

theorem powerLoop_on (ks : List (Fin m)) (result : Except Error Unit)
    (log : List (Write (Fin m))) (w : ω) : ∃ r ons w',
    powerLoop (traced ops) true ks result (log, w) = (r, log ++ ons, w') ∧
    (r = .ok () ↔ result = .ok () ∧ AllOn 7 2 (ks.map ops) w) ∧
    (NoPower 7 2 ons ↔ NoneOn 7 (ks.map ops) w) ∧ ∀ e ∈ ons, e.powersOn 7 2 = true := by
  induction ks generalizing result log w with
  | nil =>
    exact ⟨result, [], w, by simp [powerLoop], by simp [AllOn], by simp [NoPower, NoneOn], nofun⟩
  | cons k ks ih =>
    obtain ⟨r, ons, w', hr, hall, hnone, hon⟩ := @powerBackend_on _ 7 2 _ ops k log w
    obtain ⟨r', ons', w'', hr', hall', hnone', hon'⟩ := ih (both result r) (log ++ ons) w'
    refine ⟨r', ons ++ ons', w'', ?_, ?_, ?_, ?_⟩
    · rw [powerLoop, Eff.bind_of_ok (Eff.attempt_apply _ _)]
      change powerLoop (traced ops) true ks
        (both result (powerBackend (traced ops k) 7 2 true (log, w)).1)
        (powerBackend (traced ops k) 7 2 true (log, w)).2 = _
      rw [hr, hr', List.append_assoc]
    · rw [hall', List.map_cons, hall]
      cases result <;> cases r <;> simp [both]
    · rw [noPower_append, hnone', List.map_cons, hnone]
    · intro e he
      exact (List.mem_append.1 he).elim (hon e) (hon' e)

theorem powerLoop_off (ks : List (Fin m)) (result : Except Error Unit)
    (log : List (Write (Fin m))) (w : ω) : ∃ r offs w',
    powerLoop (traced ops) false ks result (log, w) = (r, log ++ offs, w') ∧
    NoPower 7 2 offs ∧ ∀ k ∈ ks, ToldOff 7 2 k offs := by
  induction ks generalizing result log w with
  | nil => exact ⟨result, [], w, by simp [powerLoop], nofun, nofun⟩
  | cons k ks ih =>
    obtain ⟨r, offs, w', hr, hn, htold⟩ := @powerBackend_off _ 7 2 _ ops k log w (by decide)
    obtain ⟨r', offs', w'', hr', hn', htold'⟩ := ih (both result r) (log ++ offs) w'
    refine ⟨r', offs ++ offs', w'', ?_, noPower_append.2 ⟨hn, hn'⟩, ?_⟩
    · rw [powerLoop, Eff.bind_of_ok (Eff.attempt_apply _ _)]
      change powerLoop (traced ops) false ks
        (both result (powerBackend (traced ops k) 7 2 false (log, w)).1)
        (powerBackend (traced ops k) 7 2 false (log, w)).2 = _
      rw [hr, hr', List.append_assoc]
    · intro k' hk'
      cases hk' with
      | head =>
        obtain ⟨⟨e, he, h⟩, e', he', h'⟩ := htold
        exact ⟨⟨e, List.mem_append_left _ he, h⟩, e', List.mem_append_left _ he', h'⟩
      | tail _ hk' =>
        obtain ⟨⟨e, he, h⟩, e', he', h'⟩ := htold' k' hk'
        exact ⟨⟨e, List.mem_append_right _ he, h⟩, e', List.mem_append_right _ he', h'⟩

theorem settle_ok (r : Except Fault Unit) (s : Half × ω) :
    (settle r s).1 = .ok () := by
  cases r with
  | ok _ => rfl
  | error e =>
    rw [settle, Eff.bind_of_ok (m := OnChip.self) rfl, Eff.when]
    split
    · exact Half.term_ok s
    · rfl

theorem powers_off (ops : Fin m → Ops ω) (log : List (Write (Fin m))) (w : ω) : ∃ r offs w',
    Px4.power (traced ops) false (log, w) = (r, log ++ offs, w') ∧ NoPower 7 2 offs ∧
      ∀ k, ToldOff 7 2 k offs := by
  obtain ⟨r, offs, w', h, hn, htold⟩ := powerLoop_off ops (List.finRange m) (.ok ()) log w
  exact ⟨r, offs, w', h, hn, fun k => htold k (List.mem_finRange k)⟩

theorem open_ends {c : Px4 m} (hc : c.openCount = 0) (i : Fin m × Fin 4) (w : ω) :
    Eff.Triple (· = (c, ([] : List (Write (Fin m))), w)) («open» (traced ops) i)
      (fun _ _ => AllOn 7 2 ((List.finRange m).map ops) w) fun _ s =>
      AllOn 7 2 ((List.finRange m).map ops) w ∧ PoweredOff 7 2 s.2.1 ∨
        Stuck 7 2 ((List.finRange m).map ops) w s.2.1 := by
  refine Eff.Triple.bind (Q := fun c' s => c'.openCount = 0 ∧ s.2 = ([], w)) ?_ fun c' => ?_
  · rintro _ rfl
    exact ⟨hc, rfl⟩
  refine Eff.Triple.bind (Q := fun _ _ => AllOn 7 2 ((List.finRange m).map ops) w ∧
    c'.openCount = 0) ?_ fun _ => ?_
  · apply Eff.Triple.when
    · intro _
      apply Eff.Triple.known
      intro hc'
      have hon := powerLoop_on ops (List.finRange m) (.ok ()) [] w
      simp only [List.nil_append, true_and] at hon
      exact (triple_powerOn hon fun _ => True).conseq (fun _ h => ⟨trivial, h⟩)
        (fun _ _ h => ⟨h.1, hc'⟩) fun _ _ h => .inr h
    · rintro s hfirst ⟨hc', -⟩
      simp [hc'] at hfirst
  apply Eff.Triple.known
  intro hall
  refine Eff.Triple.bind (Q := fun _ _ => c'.openCount = 0) (fun _ hc' => hc') fun r => ?_
  refine Eff.Triple.bind (Q := fun _ _ => c'.openCount = 0) (fun s hc' => ?_) fun _ => ?_
  · have hok : (onHalf i.1 (settle r) : OnChip (Px4 m) _ Unit) s = (.ok (), _) :=
      Prod.ext (settle_ok r _) rfl
    rw [hok]
    exact hc'
  refine Eff.Triple.bind (Q := fun _ s => r.toOption.isNone = true → PoweredOff 7 2 s.2.1)
    ?_ fun _ => ?_
  · apply Eff.Triple.when
    · intro _
      refine Eff.Triple.bind (triple_powerOff (powers_off ops)) fun _ => ?_
      exact Eff.Triple.pure fun _ h _ => h
    · rintro s hnot hc' hr
      exact absurd (by simp [hr, hc']) hnot
  apply Eff.Triple.ofExcept
  · exact fun _ _ _ _ => hall
  · rintro e s rfl hoff
    exact .inl ⟨hall, hoff rfl⟩

theorem close_ends (i : Fin m × Fin 4) :
    Eff.Triple (fun _ => True) (close (traced ops) i : OnChip (Px4 m) _ Unit)
      (fun _ s => s.1.openCount = 0 → PoweredOff 7 2 s.2.1) fun _ _ => True := by
  refine Eff.Triple.bind (Q := fun _ _ => True) (fun s _ => by split <;> trivial) fun _ => ?_
  refine Eff.Triple.bind (Q := fun c (s : Px4 m × List (Write (Fin m)) × ω) => s.1 = c)
    (fun s _ => rfl) fun c => ?_
  apply Eff.Triple.when
  · intro _
    refine Eff.Triple.bind (triple_powerOff (powers_off ops)) fun _ => ?_
    exact Eff.Triple.pure fun s h _ => h
  · rintro s hnot rfl h
    exact absurd h hnot

end Px4

/-! ### The PX-MLT -/

/-- The bridge of a board with one. -/
theorem powerBackend_only {reset power : UInt8} (ops : Ops ω) (w : ω) : ∃ r ons w',
    powerBackend (traced (fun _ : Unit => ops) ()) reset power true ([], w) = (r, ons, w') ∧
      (r = .ok () ↔ AllOn reset power [ops] w) ∧ (NoPower reset power ons ↔ NoneOn reset [ops] w) ∧
      ∀ e ∈ ons, e.powersOn reset power = true := by
  obtain ⟨r, ons, w', hr, hall, hnone, hon⟩ :=
    @powerBackend_on _ reset power _ (fun _ : Unit => ops) () [] w
  refine ⟨r, ons, w', hr, ?_, ?_, hon⟩
  · simpa [AllOn] using (hall []).symm
  · simpa [NoneOn] using (hnone []).symm

theorem powersOff_only {reset power : UInt8} (hrp : reset ≠ power) (ops : Ops ω)
    (log : List (Write Unit)) (w : ω) : ∃ r offs w',
    powerBackend (traced (fun _ : Unit => ops) ()) reset power false (log, w) =
      (r, log ++ offs, w') ∧ NoPower reset power offs ∧ ∀ k, ToldOff reset power k offs := by
  obtain ⟨r, offs, w', h, hn, htold⟩ := powerBackend_off (fun _ : Unit => ops) () log w hrp
  exact ⟨r, offs, w', h, hn, fun _ => htold⟩

namespace PxMlt

variable {n : Nat} (ops : Ops ω)

theorem open_ends {c : PxMlt n} (hc : c.openCount = 0) (i : Fin n) (w : ω) :
    Eff.Triple (· = (c, ([] : List (Write Unit)), w)) («open» (traced (fun _ => ops) ()) i)
      (fun _ _ => AllOn 7 2 [ops] w) fun _ s =>
      AllOn 7 2 [ops] w ∧ PoweredOff 7 2 s.2.1 ∨ Stuck 7 2 [ops] w s.2.1 := by
  have hnone : Counts (fun _ => false) c := hc.trans numOpen_none.symm
  refine Eff.Triple.bind (Q := fun c' s => Counts (fun _ => false) c' ∧
    Counts (fun _ => false) s.1 ∧ s.2 = ([], w)) ?_ fun c' => ?_
  · rintro _ rfl
    exact ⟨hnone, hnone, rfl⟩
  refine Eff.Triple.bind (Q := fun _ s => AllOn 7 2 [ops] w ∧ Counts (fun _ => false) s.1)
    ?_ fun _ => ?_
  · apply Eff.Triple.when
    · intro _
      apply Eff.Triple.known
      intro _
      exact (triple_powerOn (powerBackend_only ops w) (Counts fun _ => false)).conseq
        (fun _ h => h) (fun _ _ h => h) fun _ _ h => .inr h
    · rintro s hfirst ⟨hc', -⟩
      exact absurd (hc'.trans numOpen_none) hfirst
  apply Eff.Triple.known
  intro hall
  refine Eff.Triple.bind (uncounted_initChip _ i).attempt fun r => ?_
  refine Eff.Triple.bind (Q := fun c' _ => Counts (fun _ => false) c') (fun s hs => hs) fun c' => ?_
  refine Eff.Triple.bind (Q := fun _ s => r.toOption.isNone = true → PoweredOff 7 2 s.2.1)
    ?_ fun _ => ?_
  · apply Eff.Triple.when
    · intro _
      refine Eff.Triple.bind (triple_powerOff (powersOff_only (by decide) ops)) fun _ => ?_
      exact Eff.Triple.pure fun _ h _ => h
    · rintro s hnot hc' hr
      exact absurd ⟨hr, hc'.trans numOpen_none⟩ hnot
  refine Eff.Triple.bind (Q := fun _ _ => True) ?_ fun _ => fun _ _ => hall
  apply Eff.Triple.ofExcept
  · exact fun _ _ _ _ => trivial
  · rintro e s rfl hoff
    exact .inl ⟨hall, hoff rfl⟩

theorem close_ends (i : Fin n) :
    Eff.Triple (fun _ => True) (close (traced (fun _ : Unit => ops) ()) i : OnChip (PxMlt n) _ Unit)
      (fun _ s => s.1.openCount = 0 → PoweredOff 7 2 s.2.1) fun _ _ => True := by
  refine Eff.Triple.bind (Q := fun _ _ => True) (fun _ _ => trivial) fun c => ?_
  refine Eff.Triple.bind (Q := fun _ _ => True) (fun _ _ => trivial) fun _ => ?_
  refine Eff.Triple.bind (Q := fun _ _ => True) (fun _ _ => trivial) fun _ => ?_
  refine Eff.Triple.bind (Q := fun _ _ => True) (fun _ _ => trivial) fun _ => ?_
  refine Eff.Triple.bind (Q := fun _ _ => True)
    (Eff.Triple.require (fun _ _ _ => trivial) fun _ _ _ => trivial) fun _ => ?_
  refine Eff.Triple.bind (Q := fun _ _ => True) (fun _ _ => trivial) fun _ => ?_
  refine Eff.Triple.bind (Q := fun c (s : PxMlt n × List (Write Unit) × ω) => s.1 = c)
    (fun s _ => rfl) fun c => ?_
  apply Eff.Triple.when
  · intro _
    refine Eff.Triple.bind (triple_powerOff (powersOff_only (by decide) ops)) fun _ => ?_
    exact Eff.Triple.pure fun _ h _ => h
  · rintro s hnot rfl h
    exact absurd h hnot

end PxMlt

/-! ### The models with a single tuner -/

namespace Single

variable (ops : Ops ω)

theorem term_ok : Eff.Triple (fun _ => True) (term : OnChip Single ω Unit) (fun _ _ => True)
    fun _ _ => False := by
  refine Eff.Triple.bind (Q := fun _ _ => True) (fun _ _ => trivial) fun _ => ?_
  refine Eff.Triple.bind (Q := fun _ _ => True) (fun _ _ => trivial) fun c => ?_
  cases c.rt710 with
  | some rt710 => exact fun _ _ => trivial
  | none => exact fun _ _ => trivial

theorem open_ends (c : Single) (w : ω) :
    Eff.Triple (· = (c, ([] : List (Write Unit)), w)) («open» (traced (fun _ => ops) ()))
      (fun _ _ => AllOn 3 2 [ops] w) fun _ s =>
      AllOn 3 2 [ops] w ∧ PoweredOff 3 2 s.2.1 ∨ Stuck 3 2 [ops] w s.2.1 := by
  refine Eff.Triple.bind (Q := fun _ _ => AllOn 3 2 [ops] w ∧ True) ?_ fun _ => ?_
  · refine (triple_powerOn (powerBackend_only ops w) fun _ => True).conseq ?_ (fun _ _ h => h)
      fun _ _ h => .inr h
    rintro _ rfl
    exact ⟨trivial, rfl⟩
  apply Eff.Triple.known
  intro hall
  refine Eff.Triple.bind (Q := fun _ _ => True) (fun _ _ => trivial) fun r => ?_
  refine Eff.Triple.bind (Q := fun _ s => r.toOption.isNone = true → PoweredOff 3 2 s.2.1)
    ?_ fun _ => ?_
  · apply Eff.Triple.when
    · intro _
      refine Eff.Triple.bind (term_ok.conseq (fun _ h => h) (fun _ _ h => h) fun _ _ h => h.elim)
        fun _ => ?_
      refine Eff.Triple.bind (triple_powerOff (powersOff_only (by decide) ops)) fun _ => ?_
      exact Eff.Triple.pure fun _ h _ => h
    · rintro s hnot _ hr
      exact absurd hr hnot
  apply Eff.Triple.ofExcept
  · exact fun _ _ _ _ => hall
  · rintro e s rfl hoff
    exact .inl ⟨hall, hoff rfl⟩

theorem close_ends :
    Eff.Triple (fun _ => True) (close (traced (fun _ : Unit => ops) ()))
      (fun _ s => PoweredOff 3 2 s.2.1) fun _ _ => False := by
  refine Eff.Triple.bind term_ok fun _ => ?_
  refine Eff.Triple.bind (triple_powerOff (powersOff_only (by decide) ops)) fun _ => ?_
  exact Eff.Triple.modify fun _ h => h

end Single

/-! ### All three -/

/-- With no tuner open, an `open` that fails leaves the board at rest exactly if its power-on writes
all succeed or none of them takes effect. The `close` that leaves no tuner open always does. -/
theorem failed_open_rests {ω : Type} :
    (∀ (m : Nat) (ops : Fin m → Ops ω) (c : Px4 m) (i : Fin m × Fin 4) (w : ω),
      c.openCount = 0 →
      ((∀ e, (Px4.open (traced ops) i (c, [], w)).1 = .error e →
          EndsAtRest Half.GPIO_BACKEND_RESET Half.GPIO_BACKEND_POWER
            (Px4.open (traced ops) i (c, [], w)).2.2.1) ↔
        AllOn Half.GPIO_BACKEND_RESET Half.GPIO_BACKEND_POWER ((List.finRange m).map ops) w ∨
          NoneOn Half.GPIO_BACKEND_RESET ((List.finRange m).map ops) w)) ∧
    (∀ (m : Nat) (ops : Fin m → Ops ω) (i : Fin m × Fin 4) s s',
      Px4.close (traced ops) i s = (.ok (), s') → s'.1.openCount = 0 →
      GoesToRest Half.GPIO_BACKEND_RESET Half.GPIO_BACKEND_POWER s'.2.1) ∧
    (∀ (n : Nat) (ops : Ops ω) (c : PxMlt n) (i : Fin n) (w : ω), c.openCount = 0 →
      ((∀ e, (PxMlt.open (traced (fun _ : Unit => ops) ()) i (c, [], w)).1 = .error e →
          EndsAtRest PxMlt.GPIO_BACKEND_RESET PxMlt.GPIO_BACKEND_POWER
            (PxMlt.open (traced (fun _ : Unit => ops) ()) i (c, [], w)).2.2.1) ↔
        AllOn PxMlt.GPIO_BACKEND_RESET PxMlt.GPIO_BACKEND_POWER [ops] w ∨
          NoneOn PxMlt.GPIO_BACKEND_RESET [ops] w)) ∧
    (∀ (n : Nat) (ops : Ops ω) (i : Fin n) s s',
      PxMlt.close (traced (fun _ : Unit => ops) ()) i s = (.ok (), s') → s'.1.openCount = 0 →
      GoesToRest PxMlt.GPIO_BACKEND_RESET PxMlt.GPIO_BACKEND_POWER s'.2.1) ∧
    (∀ (ops : Ops ω) (c : Single) (w : ω),
      ((∀ e, (Single.open (traced (fun _ : Unit => ops) ()) (c, [], w)).1 = .error e →
          EndsAtRest Single.GPIO_BACKEND_RESET Single.GPIO_BACKEND_POWER
            (Single.open (traced (fun _ : Unit => ops) ()) (c, [], w)).2.2.1) ↔
        AllOn Single.GPIO_BACKEND_RESET Single.GPIO_BACKEND_POWER [ops] w ∨
          NoneOn Single.GPIO_BACKEND_RESET [ops] w)) ∧
    ∀ (ops : Ops ω) s r s', Single.close (traced (fun _ : Unit => ops) ()) s = (r, s') →
      GoesToRest Single.GPIO_BACKEND_RESET Single.GPIO_BACKEND_POWER s'.2.1 := by
  refine ⟨?_, ?_, ?_, ?_, ?_, ?_⟩
  · intro m ops c i w hc
    refine endsAtRest_iff (by decide) ?_ (Px4.open_ends ops hc i w)
    exact fun _ => ⟨i.1⟩
  · intro m ops i s s' hr hz
    exact ((Px4.close_ends ops i).ends trivial hr hz).goesToRest (by decide)
  · intro n ops c i w hc
    exact endsAtRest_iff (by decide) (fun _ => ⟨()⟩) (PxMlt.open_ends ops hc i w)
  · intro n ops i s s' hr hz
    exact ((PxMlt.close_ends ops i).ends trivial hr hz).goesToRest (by decide)
  · intro ops c w
    exact endsAtRest_iff (by decide) (fun _ => ⟨()⟩) (Single.open_ends ops c w)
  · intro ops s r s' hr
    have hends := (Single.close_ends ops).ends trivial hr
    cases r with
    | ok _ => exact PoweredOff.goesToRest (by decide) hends
    | error e => exact hends.elim

/-- A bridge that does not power its board. -/
def powerless : Ops Unit where
  writeGpio gpio high :=
    if gpio = Half.GPIO_BACKEND_POWER ∧ high = true then Eff.throw (error "failed") else pure ()
  i2c := quiet.i2c

/-- A bridge that powers its board and answers nothing over I2C. -/
def mute : Ops Unit where
  writeGpio _ _ := pure ()
  i2c _ := {
    write := fun _ _ => Eff.throw (error "failed")
    writeRead := fun _ _ _ => Eff.throw (error "failed") }

/-- The two boards of a Q model go on, the first command fails, and they go off. -/
theorem failed_open_rests_mute :
    (Px4.open (traced fun _ : Fin 2 => mute) (0, 2) (Px4.new 2, [], ())).1 =
      .error (.bus (error "failed")) ∧
    (Px4.open (traced fun _ : Fin 2 => mute) (0, 2) (Px4.new 2, [], ())).2.2.1 =
      [⟨0, 7, false, true⟩, ⟨0, 2, true, true⟩, ⟨1, 7, false, true⟩, ⟨1, 2, true, true⟩,
        ⟨0, 2, false, true⟩, ⟨0, 7, true, true⟩, ⟨1, 2, false, true⟩, ⟨1, 7, true, true⟩] ∧
    EndsAtRest Half.GPIO_BACKEND_RESET Half.GPIO_BACKEND_POWER
      (Px4.open (traced fun _ : Fin 2 => mute) (0, 2) (Px4.new 2, [], ())).2.2.1 :=
  ⟨rfl, rfl, (failed_open_rests.1 2 (fun _ => mute) (Px4.new 2) (0, 2) () rfl).2
    (.inl ⟨(), (), rfl, rfl, (), (), rfl, rfl, trivial⟩) _ rfl⟩

/-- Out of reset without power, it is left so. -/
theorem powerless_left_on :
    (Px4.new 1).openCount = 0 ∧
    (Px4.open (traced fun _ : Fin 1 => powerless) (0, 2) (Px4.new 1, [], ())).1 =
      .error (.bus (error "failed")) ∧
    ¬ EndsAtRest Half.GPIO_BACKEND_RESET Half.GPIO_BACKEND_POWER
      (Px4.open (traced fun _ : Fin 1 => powerless) (0, 2) (Px4.new 1, [], ())).2.2.1 := by
  have hlog : Px4.open (traced fun _ : Fin 1 => powerless) (0, 2) (Px4.new 1, [], ()) =
      (.error (.bus (error "failed")), Px4.new 1,
        [⟨0, 7, false, true⟩, ⟨0, 2, true, false⟩], ()) := rfl
  refine ⟨rfl, by rw [hlog], fun hrest => ?_⟩
  rw [hlog] at hrest
  obtain hn | ⟨before, after, happ, -, htold⟩ := hrest.1
  · exact absurd (hn ⟨0, 7, false, true⟩ List.mem_cons_self rfl) (by decide)
  · obtain ⟨⟨e, he, -, hg, hl⟩, -⟩ := htold 0
    have : e ∈ ([⟨0, 7, false, true⟩, ⟨0, 2, true, false⟩] : List (Write (Fin 1))) := by
      change [(⟨0, 7, false, true⟩ : Write (Fin 1)), ⟨0, 2, true, false⟩] = _ at happ
      rw [happ]
      exact List.mem_append_right _ he
    simp only [List.mem_cons, List.not_mem_nil, or_false] at this
    rcases this with rfl | rfl
    · exact absurd hg (by decide)
    · exact absurd hl (by decide)

end Tunelith.Px4
