import Tunelith.Px4.Board

/-!
# What is open

A tuner is marked open from the success of `Board::open` to the end of its one `release`, whatever
the board is, and what the board keeps between two calls goes by what is marked.

* `Board.Keeps` — what a model is to show, one call at a time.
* `BoardDevice.Once.run`, `BoardDevice.Follows.accounts` — what then holds over every run.
-/

namespace Tunelith.Px4

variable {ι σ : Type}

/-- Between two calls the board has `I`, given which tuners are open; what is asked of it fails
with what has `F` only, and `close` does not fail. -/
structure Board.Keeps [DecidableEq ι] (B : Board ι σ) (I : (ι → Bool) → σ → Prop)
    (F : Fault → Prop) : Prop where
  «open» : ∀ o i, o i = false → Eff.Triple (I o) (B.open i)
    (fun _ => I (Function.update o i true)) fun e s => F e ∧ I o s
  close : ∀ o i, o i = true → Eff.Triple (I o) (B.close i)
    (fun _ => I (Function.update o i false)) fun _ _ => False
  request : ∀ o i q, o i = true → Eff.Safe (I o) F (B.request i q)

namespace Board

variable [DecidableEq ι] {B : Board ι σ} {I : (ι → Bool) → σ → Prop} {F : Fault → Prop}

/-- What `open_tuner` fails with. -/
def Refused (F : Fault → Prop) (e : Fault) : Prop :=
  F e ∨ (∃ what, e = .own (.notFound what)) ∨ e = .own (.io .resourceBusy "resource busy")

theorem openTuner_keeps (h : B.Keeps I F) (id : String) (index : Nat) (o : ι → Bool) :
    Eff.Triple (fun s : State ι σ => s.opened = o ∧ I o s.board) (B.openTuner id index)
      (fun i s => o i = false ∧ s.opened = Function.update o i true ∧ I s.opened s.board)
      fun e s => Refused F e ∧ s.opened = o ∧ I o s.board := by
  unfold openTuner
  split
  · exact Eff.Triple.throw fun s hs => ⟨.inr (.inl ⟨_, rfl⟩), hs⟩
  · next i _ =>
    refine Eff.Triple.bind (Eff.Triple.get (Q := fun t s => t.opened = o ∧ s.opened = o ∧
      I o s.board) fun s hs => ⟨hs.1, hs⟩) fun t => ?_
    refine Eff.Triple.bind (Q := fun _ s => o i = false ∧ s.opened = o ∧ I o s.board)
      (Eff.Triple.require ?_ ?_) fun _ => ?_
    · exact fun s hi hs => ⟨hs.1 ▸ hi, hs.2⟩
    · exact fun s _ hs => ⟨.inr (.inr rfl), hs.2⟩
    refine Eff.Triple.bind (Q := fun _ s => o i = false ∧ s.opened = o ∧
      I (Function.update o i true) s.board) (Eff.Triple.zoom fun s hs => ?_) fun _ => ?_
    · exact (h.open o i hs.1).conseq (fun _ ht => ht ▸ hs.2.2) (fun _ _ ht => ⟨hs.1, hs.2.1, ht⟩)
        fun _ _ ht => ⟨.inl ht.1, hs.2.1, ht.2⟩
    · refine Eff.Triple.bind (Eff.Triple.modify fun s hs => ?_) fun _ =>
        Eff.Triple.pure fun _ h => h
      exact ⟨hs.1, hs.2.1 ▸ rfl, hs.2.1.symm ▸ hs.2.2⟩

theorem request_keeps (h : B.Keeps I F) {o : ι → Bool} {i : ι} (ho : o i = true) (q : Request) :
    Eff.Safe (fun s : State ι σ => s.opened = o ∧ I o s.board) F (onBoard (B.request i q)) :=
  Eff.Triple.zoom fun _ hs => (h.request o i q ho).conseq (fun _ ht => ht ▸ hs.2)
    (fun _ _ ht => ⟨hs.1, ht⟩) fun _ _ ht => ⟨ht.1, hs.1, ht.2⟩

/-- `release` goes through whatever fails of the capture and the LNB. -/
theorem release_keeps (h : B.Keeps I F) {o : ι → Bool} {i : ι} (ho : o i = true) :
    Eff.Triple (fun s : State ι σ => s.opened = o ∧ I o s.board) (B.release i)
      (fun _ s => s.opened = Function.update o i false ∧ I s.opened s.board)
      fun _ _ => False := by
  refine Eff.Triple.bind (request_keeps h ho (.setCapture false)).attempt fun _ => ?_
  refine Eff.Triple.bind (request_keeps h ho (.setLnb false)).attempt fun _ => ?_
  refine Eff.Triple.bind (Q := fun _ s => s.opened = o ∧ I (Function.update o i false) s.board)
    (Eff.Triple.zoom fun s hs => ?_) fun _ => Eff.Triple.modify fun s hs => ?_
  · exact (h.close o i ho).conseq (fun _ ht => ht ▸ hs.2) (fun _ _ ht => ⟨hs.1, ht⟩)
      fun _ _ ht => ht
  · exact ⟨hs.1 ▸ rfl, hs.1.symm ▸ hs.2⟩

end Board

/-! ## Runs -/

namespace BoardDevice

/-- The marks and the board go by the tuners there are. -/
structure Follows (I : (ι → Bool) → σ → Prop) (d : BoardDevice ι σ) : Prop where
  board : I d.state.opened d.state.board
  opened : ∀ i, d.state.opened i = true ↔ ∃ h, (d.tuner h).holds = some i
  unique : ∀ h h' i, (d.tuner h).holds = some i → (d.tuner h').holds = some i → h = h'

variable {I : (ι → Bool) → σ → Prop} {F : Fault → Prop}

theorem follows_init {id : String} {board : σ} (h : I (fun _ => false) board) :
    Follows I (init id board : BoardDevice ι σ) where
  board := h
  opened _ := by simp [init, Handle.holds]
  unique _ _ _ := by simp [init, Handle.holds]

/-- A tuner goes from one stand to another without letting go of what it has open. -/
theorem Follows.move {d : BoardDevice ι σ} {h : TunerId} {t : Handle ι} (hd : Follows I d)
    (ht : t.holds = (d.tuner h).holds) : Follows I (d.setTuner h t) := by
  have hholds : ∀ h', ((d.setTuner h t).tuner h').holds = (d.tuner h').holds := by
    intro h'
    rw [setTuner_tuner, Function.update_apply]
    split_ifs with hh
    · rw [ht, hh]
    · rfl
  exact ⟨hd.board, fun i => by simp only [hholds]; exact hd.opened i,
    fun h h' i => by simp only [hholds]; exact hd.unique h h' i⟩

section

variable [DecidableEq ι] {B : Board ι σ} {d : BoardDevice ι σ} {s : Board.State ι σ} {h : TunerId}
  {i : ι}

theorem Follows.hold (hd : Follows I d) (hh : (d.tuner h).holds = none)
    (hi : d.state.opened i = false) (ho : s.opened = Function.update d.state.opened i true)
    (hI : I s.opened s.board) : Follows I ({ d with state := s }.setTuner h (.live i)) where
  board := hI
  opened j := by
    change s.opened j = true ↔ ∃ h', (Function.update d.tuner h (.live i) h').holds = some j
    rw [ho]
    by_cases hj : j = i
    · subst hj
      rw [Function.update_self]
      exact iff_of_true rfl ⟨h, by rw [Function.update_self]; rfl⟩
    · rw [Function.update_of_ne hj, hd.opened j]
      constructor
      · rintro ⟨h', hh'⟩
        refine ⟨h', ?_⟩
        rw [Function.update_of_ne, hh']
        rintro rfl
        rw [hh] at hh'
        cases hh'
      · rintro ⟨h', hh'⟩
        by_cases he : h' = h
        · rw [he, Function.update_self] at hh'
          exact absurd (Option.some.inj hh').symm hj
        · exact ⟨h', by rwa [Function.update_of_ne he] at hh'⟩
  unique h₁ h₂ j := by
    have hnone : ∀ h', (d.tuner h').holds ≠ some i := by
      intro h' hh'
      rw [(hd.opened i).2 ⟨h', hh'⟩] at hi
      cases hi
    have huniq := hd.unique h₁ h₂ j
    simp only [setTuner_tuner, Function.update_apply]
    grind [Handle.holds]

theorem Follows.letGo (hd : Follows I d) (hh : (d.tuner h).holds = some i)
    (ho : s.opened = Function.update d.state.opened i false) (hI : I s.opened s.board) :
    Follows I ({ d with state := s }.setTuner h (.released i)) where
  board := hI
  opened j := by
    change s.opened j = true ↔ ∃ h', (Function.update d.tuner h (.released i) h').holds = some j
    rw [ho]
    by_cases hj : j = i
    · subst hj
      rw [Function.update_self]
      refine iff_of_false (by decide) ?_
      rintro ⟨h', hh'⟩
      by_cases he : h' = h
      · rw [he, Function.update_self] at hh'
        cases hh'
      · rw [Function.update_of_ne he] at hh'
        exact he (hd.unique h' h j hh' hh)
    · rw [Function.update_of_ne hj, hd.opened j]
      refine exists_congr fun h' => ?_
      by_cases he : h' = h
      · rw [he, Function.update_self, hh]
        simp [Handle.holds, Ne.symm hj]
      · rw [Function.update_of_ne he]
  unique h₁ h₂ j := by
    have huniq := hd.unique h₁ h₂ j
    simp only [setTuner_tuner, Function.update_apply]
    grind [Handle.holds]

end

/-- What may come of an act. -/
def Act.Fine (F : Fault → Prop) : Act ι → Prop
  | .openTuner _ _ r => ∀ e, r = .error e → Board.Refused F e
  | .request _ _ r => ∀ e, r = .error e → F e
  | .release _ _ r => r = .ok ()
  | .close _ | .drop _ => True

variable [DecidableEq ι] {B : Board ι σ}

theorem Follows.step (hB : B.Keeps I F) {d d' : BoardDevice ι σ} {a : Act ι}
    (hd : Follows I d) (hs : Step B d a d') : Follows I d' ∧ a.Fine F := by
  cases hs with
  | @openTuner index h r s hh hr =>
    have hends := (Board.openTuner_keeps hB d.id index d.state.opened).ends ⟨rfl, hd.board⟩ hr
    cases r with
    | error e =>
      obtain ⟨he, ho, hI⟩ := hends
      refine ⟨⟨ho.symm ▸ hI, fun i => ?_, hd.unique⟩, fun e' he' => Except.error.inj he' ▸ he⟩
      change s.opened i = true ↔ _
      rw [ho]
      exact hd.opened i
    | ok i =>
      obtain ⟨hi, ho, hI⟩ := hends
      exact ⟨hd.hold (by rw [hh]; rfl) hi ho hI, nofun⟩
  | @request h i q r s hh hr =>
    have hi : d.state.opened i = true := (hd.opened i).2 ⟨h, by rw [hh]; rfl⟩
    have hends := (Board.request_keeps hB hi q).ends ⟨rfl, hd.board⟩ hr
    have hkeep : s.opened = d.state.opened ∧ I d.state.opened s.board := by
      cases r with
      | ok _ => exact hends
      | error e => exact hends.2
    refine ⟨⟨hkeep.1.symm ▸ hkeep.2, fun j => ?_, hd.unique⟩, fun e he => ?_⟩
    · change s.opened j = true ↔ _
      rw [hkeep.1]
      exact hd.opened j
    · subst he
      exact hends.1
  | close hh => exact ⟨hd.move (by rw [hh]; rfl), trivial⟩
  | drop hh => exact ⟨hd.move (by rw [hh]; rfl), trivial⟩
  | @release h i r s hh hr =>
    have hi : d.state.opened i = true := (hd.opened i).2 ⟨h, by rw [hh]; rfl⟩
    have hends := (Board.release_keeps hB hi).ends ⟨rfl, hd.board⟩ hr
    cases r with
    | error e => exact hends.elim
    | ok _ => exact ⟨hd.letGo (by rw [hh]; rfl) hends.1 hends.2, rfl⟩

/-! ## Once per success -/

/-- The act makes the tuner `h`. -/
def Act.makes (h : TunerId) : Act ι → Bool
  | .openTuner _ h' (.ok _) => h' = h
  | _ => false

/-- The act releases the tuner `h`. -/
def Act.releases (h : TunerId) : Act ι → Bool
  | .release h' _ _ => h' = h
  | _ => false

/-- `Board::open(i)` has succeeded. -/
def Act.opens (i : ι) : Act ι → Bool
  | .openTuner _ _ (.ok j) => j = i
  | _ => false

/-- A `release` of `i` has run. -/
def Act.closes (i : ι) : Act ι → Bool
  | .release _ j _ => j = i
  | _ => false

/-- How often something happened in a run. -/
def times (p : Act ι → Bool) (tr : List (BoardDevice ι σ × Act ι)) : Nat :=
  tr.countP fun x => p x.2

/-- Every tuner made was made once, and released once if it was; and what is marked open is what
was opened and is still to be released. -/
structure Once (tr : List (BoardDevice ι σ × Act ι)) (d : BoardDevice ι σ) : Prop where
  made : ∀ h, times (Act.makes h) tr = (d.tuner h).isMade.toNat
  released : ∀ h, times (Act.releases h) tr = (d.tuner h).isReleased.toNat
  opened : ∀ i, times (Act.opens i) tr = times (Act.closes i) tr + (d.state.opened i).toNat

omit [DecidableEq ι] in
@[simp] theorem times_cons (p : Act ι → Bool) (x : BoardDevice ι σ × Act ι)
    (tr : List (BoardDevice ι σ × Act ι)) : times p (x :: tr) = times p tr + (p x.2).toNat := by
  rw [times, times, List.countP_cons]
  cases p x.2 <;> rfl

/-- What a step counts for is what it changes. -/
theorem Follows.counts (hB : B.Keeps I F) {d d' : BoardDevice ι σ} {a : Act ι}
    (hd : Follows I d) (hs : Step B d a d') :
    (∀ h, (d'.tuner h).isMade.toNat = (d.tuner h).isMade.toNat + (a.makes h).toNat) ∧
      (∀ h, (d'.tuner h).isReleased.toNat =
        (d.tuner h).isReleased.toNat + (a.releases h).toNat) ∧
      ∀ i, (a.opens i).toNat + (d.state.opened i).toNat =
        (a.closes i).toNat + (d'.state.opened i).toNat := by
  cases hs with
  | @openTuner index h r s hh hr =>
    have hends := (Board.openTuner_keeps hB d.id index d.state.opened).ends ⟨rfl, hd.board⟩ hr
    cases r with
    | error e =>
      refine ⟨fun _ => rfl, fun _ => rfl, fun j => ?_⟩
      change 0 + _ = 0 + (s.opened j).toNat
      rw [hends.2.1]
    | ok i =>
      obtain ⟨hi, ho, -⟩ := hends
      simp only [BoardDevice.opened, setTuner_tuner, setTuner_state, Function.update_apply,
        Act.makes, Act.releases, Act.opens, Act.closes, ho]
      grind [Handle.isMade, Handle.isReleased]
  | @request h i q r s hh hr =>
    have hi : d.state.opened i = true := (hd.opened i).2 ⟨h, by rw [hh]; rfl⟩
    have hends := (Board.request_keeps hB hi q).ends ⟨rfl, hd.board⟩ hr
    have ho : s.opened = d.state.opened := by
      cases r with
      | ok _ => exact hends.1
      | error e => exact hends.2.1
    refine ⟨fun _ => rfl, fun _ => rfl, fun j => ?_⟩
    change 0 + _ = 0 + (s.opened j).toNat
    rw [ho]
  | close hh =>
    simp only [setTuner_tuner, setTuner_state, Function.update_apply, Act.makes, Act.releases,
      Act.opens, Act.closes]
    grind [Handle.isMade, Handle.isReleased]
  | drop hh =>
    simp only [setTuner_tuner, setTuner_state, Function.update_apply, Act.makes, Act.releases,
      Act.opens, Act.closes]
    grind [Handle.isMade, Handle.isReleased]
  | @release h i r s hh hr =>
    have hi : d.state.opened i = true := (hd.opened i).2 ⟨h, by rw [hh]; rfl⟩
    have hends := (Board.release_keeps hB hi).ends ⟨rfl, hd.board⟩ hr
    cases r with
    | error e => exact hends.elim
    | ok _ =>
      simp only [setTuner_tuner, setTuner_state, Function.update_apply, Act.makes, Act.releases,
        Act.opens, Act.closes, hends.1]
      grind [Handle.isMade, Handle.isReleased]

theorem Once.step (hB : B.Keeps I F) {tr : List (BoardDevice ι σ × Act ι)}
    {d d' : BoardDevice ι σ} {a : Act ι} (ht : Once tr d) (hd : Follows I d) (hs : Step B d a d') :
    Once ((d, a) :: tr) d' := by
  obtain ⟨hmade, hreleased, hopened⟩ := hd.counts hB hs
  refine ⟨fun h => ?_, fun h => ?_, fun i => ?_⟩
  · rw [times_cons, ht.made, hmade]
  · rw [times_cons, ht.released, hreleased]
  · have := hopened i
    simp only [times_cons, ht.opened]
    omega

theorem Once.run (hB : B.Keeps I F) {id : String} {board : σ} (hI : I (fun _ => false) board)
    {tr : List (BoardDevice ι σ × Act ι)} {d : BoardDevice ι σ}
    (hr : Lts.Run (Step B) (init id board) tr d) :
    Once tr d ∧ Follows I d ∧ ∀ x ∈ tr, x.2.Fine F := by
  induction hr with
  | nil =>
    have hnone : ∀ x ∈ ([] : List (BoardDevice ι σ × Act ι)), x.2.Fine F := by
      intro x hx
      exact absurd hx List.not_mem_nil
    exact ⟨⟨fun _ => rfl, fun _ => rfl, fun _ => rfl⟩, follows_init hI, hnone⟩
  | snoc _ hs ih =>
    obtain ⟨honce, hd, hfine⟩ := ih
    obtain ⟨hd', ha⟩ := hd.step hB hs
    refine ⟨honce.step hB hd hs, hd', ?_⟩
    intro x hx
    cases hx with
    | head => exact ha
    | tail _ hx => exact hfine x hx

/-- What a run comes to: what was opened is marked until its one release, and no one else's; and
what is to be released can be, without fail. -/
structure Accounts (B : Board ι σ) (tr : List (BoardDevice ι σ × Act ι)) (d : BoardDevice ι σ) :
    Prop where
  once : Once tr d
  opened : ∀ i, d.state.opened i = true ↔ ∃ h, (d.tuner h).holds = some i
  unique : ∀ h h' i, (d.tuner h).holds = some i → (d.tuner h').holds = some i → h = h'
  release : ∀ h i, d.tuner h = .releasing i →
    ∃ d', Step B d (.release h i (.ok ())) d' ∧ d'.tuner h = .released i

theorem Follows.accounts (hB : B.Keeps I F) {tr : List (BoardDevice ι σ × Act ι)}
    {d : BoardDevice ι σ} (hd : Follows I d) (ht : Once tr d) : Accounts B tr d where
  once := ht
  opened := hd.opened
  unique := hd.unique
  release h i hh := by
    have hi : d.state.opened i = true := (hd.opened i).2 ⟨h, by rw [hh]; rfl⟩
    have hok : (B.release i d.state).1 = .ok () := by
      have hends := Board.release_keeps hB hi d.state ⟨rfl, hd.board⟩
      split at hends
      · next hr => rw [hr]
      · exact hends.elim
    refine ⟨_, .release hh (Prod.ext hok rfl), ?_⟩
    rw [setTuner_tuner, Function.update_self]

/-- A run that opens a tuner. -/
theorem run_openTuner (B : Board ι σ) (id : String) (board : σ) (index : Nat) {i : ι}
    (h : (B.openTuner id index (init id board : BoardDevice ι σ).state).1 = .ok i) :
    ∃ tr d, Lts.Run (Step B) (init id board) tr d ∧ d.tuner 0 = .live i ∧
      d.state = (B.openTuner id index (init id board : BoardDevice ι σ).state).2 := by
  refine ⟨_, _, .snoc .nil (.openTuner (h := 0) rfl (Prod.ext h rfl)), ?_, rfl⟩
  rw [BoardDevice.opened, setTuner_tuner, Function.update_self]

/-- A tuner that is open is asked for `qs`. -/
theorem run_requests {d₀ d : BoardDevice ι σ} {tr : List (BoardDevice ι σ × Act ι)} {h : TunerId}
    {i : ι} (hr : Lts.Run (Step B) d₀ tr d) (hh : d.tuner h = .live i) (qs : List Request) :
    ∃ tr' d', Lts.Run (Step B) d₀ tr' d' ∧
      d'.state = qs.foldl (fun s q => (Board.onBoard (B.request i q) s).2) d.state := by
  induction qs generalizing d tr with
  | nil => exact ⟨tr, d, hr, rfl⟩
  | cons q qs ih => exact ih (hr.snoc (.request (q := q) hh rfl)) hh

end BoardDevice

end Tunelith.Px4
