import Tunelith.Px4.AtRest
import Tunelith.Px4.Silent

/-!
# The LNB supply

GPIO 11 of a bridge is high exactly while some tuner on it wants the supply, whatever is asked for
and whatever fails.

* `Supply` — who wants the supply, and what GPIO 11 of the bridges was told.
* `Supply.Right` — the two go together.
* `Board.Supplies` — what a model is to show, one call at a time.
-/

set_option linter.dupNamespace false

namespace Tunelith.Px4

/-- Who can want the supply and who does, and what GPIO 11 of the bridges was told. -/
structure Supply (ι β : Type) where
  takes : ι → Bool
  wants : ι → Bool
  told : List (Write β)

namespace Supply

variable {ι β : Type} [DecidableEq ι] (bridge : ι → β)

/-- Another tuner of its bridge wants it. -/
def Shared (v : Supply ι β) (i : ι) : Prop := ∃ j, j ≠ i ∧ bridge j = bridge i ∧ v.wants j = true

/-- The supply is set for a tuner: it is switched unless another one needs it, or it is as asked
for. -/
structure Turned (v : Supply ι β) (i : ι) (on : Bool) (v' : Supply ι β) : Prop where
  takes : v'.takes = v.takes
  takesIt : v.takes i = true
  wants : v'.wants = Function.update v.wants i on
  told : v'.told = v.told ∧ (v.wants i = on ∨ v.Shared bridge i) ∨
    v'.told = v.told ++ [⟨bridge i, Lnb.GPIO, on, true⟩] ∧ ¬ v.Shared bridge i

omit [DecidableEq ι] in
/-- It is not set: the tuner does not take it, or the write to the GPIO failed. -/
structure Refused (v : Supply ι β) (i : ι) (on : Bool) (v' : Supply ι β) : Prop where
  takes : v'.takes = v.takes
  wants : v'.wants = v.wants
  told : v.takes i = false ∧ v'.told = v.told ∨
    v'.told = v.told ++ [⟨bridge i, Lnb.GPIO, on, false⟩]

/-- What comes of a `set_lnb`, by what it returns. -/
def Set (v : Supply ι β) (i : ι) (on : Bool) (r : Except Fault Unit) (v' : Supply ι β) : Prop :=
  match r with
  | .ok _ => v.Turned bridge i on v'
  | .error _ => v.Refused bridge i on v'

/-- Only those that take it want it, and GPIO 11 of a bridge is high exactly if one of its tuners
does. -/
structure Right [DecidableEq β] (v : Supply ι β) : Prop where
  takes : ∀ i, v.wants i = true → v.takes i = true
  level : ∀ k, level k Lnb.GPIO v.told false = true ↔ ∃ i, bridge i = k ∧ v.wants i = true

variable {bridge} {v v' : Supply ι β} {i : ι} {on : Bool} {r : Except Fault Unit}

section

variable [DecidableEq β]

omit [DecidableEq ι] in
theorem level_append_singleton (k : β) (gpio : UInt8) (log : List (Write β)) (e : Write β)
    (start : Bool) : level k gpio (log ++ [e]) start =
      if e.ok ∧ e.bridge = k ∧ e.gpio = gpio then e.high else level k gpio log start := by
  rw [level_append, level, List.foldl_cons, List.foldl_nil]

omit [DecidableEq ι] in
theorem Refused.level (h : Refused bridge v i on v') (k : β) :
    level k Lnb.GPIO v'.told false = level k Lnb.GPIO v.told false := by
  obtain ⟨-, ht⟩ | ht := h.told
  · rw [ht]
  · rw [ht, level_append_singleton, if_neg (by simp)]

omit [DecidableEq ι] in
theorem Refused.right (h : Refused bridge v i on v') (hv : Right bridge v) : Right bridge v' where
  takes := h.wants ▸ h.takes ▸ hv.takes
  level k := by rw [h.level, hv.level, h.wants]

omit [DecidableEq β] in
/-- What a tuner of another bridge wants makes no difference. -/
theorem exists_wants_update {k : β} (hki : bridge i ≠ k) :
    (∃ j, bridge j = k ∧ Function.update v.wants i on j = true) ↔
      ∃ j, bridge j = k ∧ v.wants j = true := by
  refine exists_congr fun j => and_congr_right fun hj => ?_
  rw [Function.update_of_ne]
  rintro rfl
  exact hki hj

theorem Turned.right (h : Turned bridge v i on v') (hv : Right bridge v) : Right bridge v' where
  takes j hj := by
    rw [h.takes]
    rw [h.wants, Function.update_apply] at hj
    split at hj
    · next hji => exact hji ▸ h.takesIt
    · exact hv.takes j hj
  level k := by
    rw [h.wants]
    obtain ⟨ht, hsame⟩ | ⟨ht, hshared⟩ := h.told
    · rw [ht, hv.level]
      obtain rfl | ⟨j, hj, hk, hw⟩ := hsame
      · rw [Function.update_eq_self]
      -- With another one that wants it, it makes no difference whether this one does.
      · by_cases hki : bridge i = k
        · exact iff_of_true ⟨j, hk.trans hki, hw⟩
            ⟨j, hk.trans hki, by rwa [Function.update_of_ne hj]⟩
        · exact (exists_wants_update hki).symm
    · rw [ht, level_append_singleton]
      by_cases hki : bridge i = k
      · rw [if_pos ⟨rfl, hki, rfl⟩]
        constructor
        · intro hon
          exact ⟨i, hki, by rwa [Function.update_self]⟩
        · rintro ⟨l, hl, hw⟩
          by_cases hli : l = i
          · rwa [hli, Function.update_self] at hw
          · rw [Function.update_of_ne hli] at hw
            exact absurd ⟨l, hli, hl.trans hki.symm, hw⟩ hshared
      · rw [if_neg fun he => hki he.2.1, hv.level]
        exact (exists_wants_update hki).symm

theorem Set.right (h : v.Set bridge i on r v') (hv : v.Right bridge) : v'.Right bridge := by
  cases r with
  | ok _ => exact Turned.right h hv
  | error e => exact Refused.right h hv

omit [DecidableEq β] in
/-- Nothing changes for the others. -/
theorem Set.wants_ne (h : v.Set bridge i on r v') {j : ι} (hj : j ≠ i) :
    v'.wants j = v.wants j := by
  cases r with
  | ok _ => rw [Turned.wants h, Function.update_of_ne hj]
  | error e => rw [Refused.wants h]

/-- Set to off, it is wanted on only if the write failed. -/
theorem Set.wants_self (h : v.Set bridge i false r v') (hv : v.Right bridge)
    (hw : v'.wants i = true) : v'.told = v.told ++ [⟨bridge i, Lnb.GPIO, false, false⟩] := by
  cases r with
  | ok _ =>
    rw [Turned.wants h, Function.update_self] at hw
    cases hw
  | error e =>
    obtain ⟨ht, -⟩ | ht := Refused.told h
    · rw [Refused.wants h] at hw
      rw [hv.takes i hw] at ht
      cases ht
    · exact ht

end

end Supply

/-! ## Runs of a device -/

variable {ι β σ : Type} [DecidableEq ι] {B : Board ι σ} {bridge : ι → β} {view : σ → Supply ι β}

/-- Nothing but `set_lnb` does anything to the supply. -/
structure Board.Supplies (B : Board ι σ) (bridge : ι → β) (view : σ → Supply ι β) : Prop where
  «open» : ∀ i, Eff.Leaves view (B.open i)
  close : ∀ i, Eff.Leaves view (B.close i)
  tune : ∀ i params, Eff.Leaves view (B.tune i params)
  lock : ∀ i system, Eff.Leaves view (B.lock i system)
  select : ∀ i params, Eff.Leaves view (B.select i params)
  setCapture : ∀ i on, Eff.Leaves view (B.setCapture i on)
  setLnb : ∀ i on s,
    (view s).Set bridge i on (B.setLnb i on s).1 (view (B.setLnb i on s).2)

namespace BoardDevice

/-- The last release of the tuner failed to write to the GPIO, and the tuner has not been opened
since. -/
def ReleaseFailed (B : Board ι σ) (bridge : ι → β) (told : σ → List (Write β))
    (tr : List (BoardDevice ι σ × Act ι)) (i : ι) : Prop :=
  ∃ later d h r earlier d', tr = later ++ (d, .release h i r) :: earlier ∧
    (∀ x ∈ later, x.2.opens i = false) ∧ Step B d (.release h i r) d' ∧
    told d'.state.board = told d.state.board ++ [⟨bridge i, Lnb.GPIO, false, false⟩]

theorem ReleaseFailed.later {told : σ → List (Write β)} {tr : List (BoardDevice ι σ × Act ι)}
    {i : ι} (h : ReleaseFailed B bridge told tr i) {d : BoardDevice ι σ} {a : Act ι}
    (ha : a.opens i = false) : ReleaseFailed B bridge told ((d, a) :: tr) i := by
  obtain ⟨later, d₁, h₁, r, earlier, d₂, rfl, hlater, hstep, htold⟩ := h
  refine ⟨(d, a) :: later, d₁, h₁, r, earlier, d₂, rfl, ?_, hstep, htold⟩
  intro x hx
  cases hx with
  | head => exact ha
  | tail _ hx => exact hlater x hx

/-- What the supply is like after a run. -/
structure Supplied [DecidableEq β] (B : Board ι σ) (bridge : ι → β) (view : σ → Supply ι β)
    (tr : List (BoardDevice ι σ × Act ι)) (d : BoardDevice ι σ) : Prop where
  right : (view d.state.board).Right bridge
  released : ∀ i, d.state.opened i = false → (view d.state.board).wants i = true →
    ReleaseFailed B bridge (fun s => (view s).told) tr i

theorem view_openTuner (hB : B.Supplies bridge view) (id : String) (index : Nat) :
    Eff.Leaves (fun s : Board.State ι σ => view s.board) (B.openTuner id index) := by
  unfold Board.openTuner
  split
  · exact Eff.Leaves.throw _
  · next i _ =>
    refine Eff.Leaves.bind (fun _ => rfl) fun _ => Eff.Leaves.require.bind fun _ => ?_
    refine Eff.Leaves.bind (fun s => hB.open i s.board) fun _ => ?_
    exact Eff.Leaves.bind (Eff.Leaves.modify fun _ => rfl) fun _ => Eff.Leaves.pure _

/-- A request does nothing to the supply, or sets it. -/
theorem view_request (hB : B.Supplies bridge view) (i : ι) (q : Request) (s : Board.State ι σ) :
    view (Board.onBoard (B.request i q) s).2.board = view s.board ∨
      ∃ on, (view s.board).Set bridge i on (Board.onBoard (B.request i q) s).1
        (view (Board.onBoard (B.request i q) s).2.board) := by
  cases q with
  | tune params => exact .inl (hB.tune i params s.board)
  | lock system => exact .inl (((hB.lock i system).bind fun _ => Eff.Leaves.pure ()) s.board)
  | select params => exact .inl (hB.select i params s.board)
  | setCapture on => exact .inl (hB.setCapture i on s.board)
  | setLnb on => exact .inr ⟨on, hB.setLnb i on s.board⟩

/-- A release sets it to off. -/
theorem view_release (hB : B.Supplies bridge view) (i : ι) (s : Board.State ι σ) :
    ∃ r, (view s.board).Set bridge i false r (view (B.release i s).2.board) := by
  have hend : Eff.Leaves (fun s : Board.State ι σ => view s.board)
      (Board.onBoard (B.close i) >>= fun _ => Board.mark i false) :=
    Eff.Leaves.bind (fun s => hB.close i s.board) fun _ => Eff.Leaves.modify fun _ => rfl
  have hcapture : view (B.setCapture i false s.board).2 = view s.board := hB.setCapture i false _
  have hview : view (B.release i s).2.board =
      view (B.setLnb i false (B.setCapture i false s.board).2).2 := by
    rw [Board.release, Eff.bind_of_ok (Eff.attempt_apply _ _),
      Eff.bind_of_ok (Eff.attempt_apply _ _)]
    refine (hend _).trans ?_
    rfl
  rw [hview, ← hcapture]
  exact ⟨_, hB.setLnb i false (B.setCapture i false s.board).2⟩

variable [DecidableEq β] {I : (ι → Bool) → σ → Prop} {F : Fault → Prop}

theorem Supplied.step (hB : B.Supplies bridge view) (hK : B.Keeps I F)
    {tr : List (BoardDevice ι σ × Act ι)} {d d' : BoardDevice ι σ} {a : Act ι} (hd : Follows I d)
    (h : Supplied B bridge view tr d) (hs : Step B d a d') :
    Supplied B bridge view ((d, a) :: tr) d' := by
  have hstep := hs
  cases hs with
  | @openTuner index h' r s hh hr =>
    have hview : view s.board = view d.state.board := by
      have := view_openTuner hB d.id index d.state
      rwa [hr] at this
    have hends := (Board.openTuner_keeps hK d.id index d.state.opened).ends ⟨rfl, hd.board⟩ hr
    cases r with
    | error e =>
      refine ⟨hview ▸ h.right, fun i hi hw => (h.released i ?_ (hview ▸ hw)).later rfl⟩
      rw [← hends.2.1]
      exact hi
    | ok j =>
      refine ⟨hview ▸ h.right, fun i hi hw => ?_⟩
      have hi : Function.update d.state.opened j true i = false := hends.2.1 ▸ hi
      have hij : i ≠ j := by
        rintro rfl
        rw [Function.update_self] at hi
        cases hi
      rw [Function.update_of_ne hij] at hi
      exact (h.released i hi (hview ▸ hw)).later (decide_eq_false hij.symm)
  | @request h' i q r s hh hr =>
    have hi : d.state.opened i = true := (hd.opened i).2 ⟨h', by rw [hh]; rfl⟩
    have hopened : s.opened = d.state.opened := congrArg (fun x => x.2.opened) hr.symm
    have hset := view_request hB i q d.state
    rw [hr] at hset
    have hwants : ∀ j, j ≠ i → (view s.board).wants j = (view d.state.board).wants j := by
      intro j hj
      obtain hsame | ⟨on, hset⟩ := hset
      · rw [hsame]
      · exact hset.wants_ne hj
    refine ⟨?_, fun j hj hw => ?_⟩
    · obtain hsame | ⟨on, hset⟩ := hset
      · exact hsame ▸ h.right
      · exact hset.right h.right
    · have hj : d.state.opened j = false := hopened ▸ hj
      have hji : j ≠ i := by
        rintro rfl
        rw [hi] at hj
        cases hj
      exact (h.released j hj (hwants j hji ▸ hw)).later rfl
  | close hh => exact ⟨h.right, fun i hi hw => (h.released i hi hw).later rfl⟩
  | drop hh => exact ⟨h.right, fun i hi hw => (h.released i hi hw).later rfl⟩
  | @release h' i r s hh hr =>
    have hi : d.state.opened i = true := (hd.opened i).2 ⟨h', by rw [hh]; rfl⟩
    have hends := (Board.release_keeps hK hi).ends ⟨rfl, hd.board⟩ hr
    obtain ⟨r', hset⟩ := view_release hB i d.state
    rw [hr] at hset
    have hopened : s.opened = Function.update d.state.opened i false := by
      cases r with
      | ok _ => exact hends.1
      | error e => exact hends.elim
    refine ⟨hset.right h.right, fun j hj hw => ?_⟩
    by_cases hji : j = i
    · subst hji
      exact ⟨[], d, h', r, tr, _, rfl, fun _ hx => absurd hx List.not_mem_nil, hstep,
        hset.wants_self h.right hw⟩
    · have hj : Function.update d.state.opened i false j = false := hopened ▸ hj
      rw [Function.update_of_ne hji] at hj
      exact (h.released j hj (hset.wants_ne hji ▸ hw)).later rfl

/-- Over every run of a device that starts with the GPIO low. -/
theorem Supplied.run (hB : B.Supplies bridge view) (hK : B.Keeps I F) {id : String} {board : σ}
    (hI : I (fun _ => false) board) (hwants : ∀ i, (view board).wants i = false)
    (htold : (view board).told = []) {tr : List (BoardDevice ι σ × Act ι)} {d : BoardDevice ι σ}
    (hr : Lts.Run (Step B) (init id board) tr d) : Supplied B bridge view tr d := by
  induction hr with
  | nil =>
    refine ⟨⟨fun i hi => ?_, fun k => ?_⟩, fun i _ hi => ?_⟩
    · exact absurd (hwants i) (by rw [show (view board).wants i = true from hi]; decide)
    · change level k Lnb.GPIO (view board).told false = true ↔ _
      rw [htold]
      refine iff_of_false nofun ?_
      rintro ⟨i, -, hi⟩
      exact absurd (hwants i) (by rw [show (view board).wants i = true from hi]; decide)
    · exact absurd (hwants i) (by rw [show (view board).wants i = true from hi]; decide)
  | snoc hr hs ih => exact ih.step hB hK (Once.run hK hI hr).2.1 hs

end BoardDevice

/-! ## The models -/

/-- What GPIO 11 was told. -/
def Lnb.told {β : Type} (log : List (Write β)) : List (Write β) :=
  log.filter fun e => e.gpio = Lnb.GPIO

theorem Lnb.level_told {β : Type} [DecidableEq β] (k : β) (log : List (Write β)) (start : Bool) :
    level k Lnb.GPIO (Lnb.told log) start = level k Lnb.GPIO log start := by
  induction log generalizing start with
  | nil => rfl
  | cons e log ih =>
    rw [Lnb.told, List.filter_cons]
    split
    · exact ih _
    · next he =>
      have hcons : level k Lnb.GPIO (e :: log) start = level k Lnb.GPIO log
          (if e.ok ∧ e.bridge = k ∧ e.gpio = Lnb.GPIO then e.high else start) := rfl
      rw [hcons, if_neg fun h => he (decide_eq_true h.2.2)]
      exact ih start

section

variable {β ω : Type} {n : Nat} (ops : β → Ops ω) (k : β)

/-- The other GPIO are another matter. -/
theorem told_writeGpio {gpio : UInt8} (hg : gpio ≠ Lnb.GPIO) (high : Bool) :
    Eff.Leaves (fun s => Lnb.told s.1) ((traced ops k).writeGpio gpio high) := by
  intro s
  change Lnb.told (s.1 ++ [_]) = _
  simp [Lnb.told, hg]

theorem told_powerBackend {reset power : UInt8} (hr : reset ≠ Lnb.GPIO) (hp : power ≠ Lnb.GPIO)
    (on : Bool) :
    Eff.Leaves (fun s => Lnb.told s.1) (powerBackend (traced ops k) reset power on) := by
  unfold powerBackend
  split
  · exact (told_writeGpio ops k hr _).bind fun _ => told_writeGpio ops k hp _
  · exact (told_writeGpio ops k hp _).attempt.bind fun _ =>
      (told_writeGpio ops k hr _).attempt.bind fun _ => Eff.Leaves.ofExcept _

/-- The supply of the tuners of one bridge, all of which take it. -/
def Lnb.supply (s : Lnb n × List (Write β) × ω) : Supply (Fin n) β :=
  ⟨fun _ => true, s.1, Lnb.told s.2.1⟩

theorem Lnb.set_spec (i : Fin n) (on : Bool) (s : Lnb n × List (Write β) × ω) :
    (Lnb.supply s).Set (fun _ => k) i on (Lnb.set (traced ops k) i on s).1
      (Lnb.supply (Lnb.set (traced ops k) i on s).2) := by
  obtain ⟨lnb, log, w⟩ := s
  have hothers : ((List.finRange n).any fun j => j ≠ i && lnb j) = true ↔
      (Lnb.supply (lnb, log, w)).Shared (fun _ => k) i := by
    simp [Supply.Shared, Lnb.supply]
  rw [Lnb.set, Eff.bind_of_ok (m := OnChip.self) rfl]
  by_cases hon : lnb i = on
  · rw [Eff.when, if_neg (not_not.2 hon)]
    refine ⟨rfl, rfl, ?_, .inl ⟨rfl, .inl hon⟩⟩
    exact (Function.update_eq_self_iff.2 hon.symm).symm
  rw [Eff.when, if_pos hon]
  dsimp only
  generalize (List.finRange n).any (fun j => j ≠ i && lnb j) = others at hothers
  cases others with
  | true => exact ⟨rfl, rfl, rfl, .inl ⟨rfl, .inr (hothers.1 rfl)⟩⟩
  | false =>
    have hshared : ¬ (Lnb.supply (lnb, log, w)).Shared (fun _ => k) i := fun h =>
      Bool.noConfusion (hothers.2 h)
    rw [Eff.when, if_pos rfl]
    cases hw : (ops k).writeGpio Lnb.GPIO on w with
    | mk r w' =>
      have hbus : (OnChip.bus ((traced ops k).writeGpio Lnb.GPIO on) : OnChip (Lnb n) _ Unit)
          (lnb, log, w) =
          (r.mapError .bus, lnb, log ++ [⟨k, Lnb.GPIO, on, r.toOption.isSome⟩], w') := by
        simp only [OnChip.bus, Eff.zoom_apply, Eff.mapError_apply, traced_writeGpio, hw]
      cases r with
      | ok _ =>
        rw [Eff.bind_of_ok hbus]
        exact ⟨rfl, rfl, rfl, .inr ⟨List.filter_append .., hshared⟩⟩
      | error e =>
        rw [Eff.bind_of_error hbus]
        exact ⟨rfl, rfl, .inr (List.filter_append ..)⟩

end

/-! ### A half -/

theorem silent_waitPll {χ τ ω : Type} {isPllLocked : OnChip χ (τ × ω) Bool}
    (h : Silent isPllLocked) (message : String) (polls : Nat) (last : Except Fault Bool) :
    Silent (waitPll isPllLocked message polls last) := by
  induction polls generalizing last with
  | zero => exact (Eff.Leaves.ofExcept _).bind fun _ => Eff.Leaves.throw _
  | succ polls ih =>
    apply Eff.Leaves.bind h.attempt
    intro r
    split
    · exact Eff.Leaves.pure _
    · exact ih _

/-- It is an ISDB-S tuner. -/
def Tuner.satellite : Tuner → Bool
  | .s _ => true
  | .t _ => false

namespace Half

variable {β ω α : Type} {v : Supply (Fin 4) β}

def supply (s : Half × List (Write β) × ω) : Supply (Fin 4) β :=
  ⟨fun j => (s.1.chips j).tuner.satellite, s.1.lnb, Lnb.told s.2.1⟩

/-- With a supply as in `v`, `m` does nothing to it. -/
abbrev Leaves (v : Supply (Fin 4) β) (m : OnChip Half (List (Write β) × ω) α) : Prop :=
  Eff.Safe (fun s => supply s = v) (fun _ => True) m

theorem leaves_bus {m : Eff Error (List (Write β) × ω) α} (h : Eff.Leaves Prod.fst m) :
    Leaves v (OnChip.bus m) := by
  refine Eff.Safe.of_kept fun s hs => ?_
  rw [← hs]
  change Supply.mk _ _ (Lnb.told (m s.2).2.1) = _
  rw [h]
  rfl

theorem leaves_self {f : Half → OnChip Half (List (Write β) × ω) α}
    (h : ∀ c, (∀ j, (c.chips j).tuner.satellite = v.takes j) → Leaves v (f c)) :
    Leaves v (OnChip.self >>= f) := by
  intro s hs
  rw [Eff.bind_of_ok (m := OnChip.self) rfl]
  exact h s.1 (fun j => by rw [← hs]; rfl) s hs

theorem leaves_openCount (f : Half → Nat) :
    Leaves v (OnChip.modifySelf fun h => { h with openCount := f h } :
      OnChip Half (List (Write β) × ω) Unit) :=
  Eff.Safe.modify fun _ hs => hs

/-- A tuner may be replaced by one of its kind. -/
theorem supply_setTuner {s : Half × List (Write β) × ω} (hs : supply s = v) {j : Fin 4}
    {t : Tuner} (ht : t.satellite = v.takes j) (w : ω) :
    supply (s.1.setTuner j t, s.2.1, w) = v := by
  rw [← hs] at ht ⊢
  rw [supply, supply, Supply.mk.injEq]
  refine ⟨funext fun i => ?_, rfl, rfl⟩
  by_cases hi : i = j
  · subst hi
    simpa [setTuner, supply] using ht
  · simp [setTuner, hi]

theorem leaves_onRt710 {j : Fin 4} {rt710 : Rt710} {m : OnChip Rt710 (List (Write β) × ω) α}
    (hj : v.takes j = true) (hm : Silent m) : Leaves v (onRt710 j rt710 m) := by
  refine Eff.Safe.of_kept fun s hs => ?_
  have := supply_setTuner hs (t := .s (m (rt710, s.2)).2.1) hj.symm (m (rt710, s.2)).2.2.2
  have hlog : (m (rt710, s.2)).2.2.1 = s.2.1 := hm (rt710, s.2)
  rwa [← hlog] at this

theorem leaves_onR850 {j : Fin 4} {r850 : R850} {m : OnChip R850 (List (Write β) × ω) α}
    (hj : v.takes j = false) (hm : Silent m) : Leaves v (onR850 j r850 m) := by
  refine Eff.Safe.of_kept fun s hs => ?_
  have := supply_setTuner hs (t := .t (m (r850, s.2)).2.1) hj.symm (m (r850, s.2)).2.2.2
  have hlog : (m (r850, s.2)).2.2.1 = s.2.1 := hm (r850, s.2)
  rwa [← hlog] at this

section

variable {ops : Ops (List (Write β) × ω)} (hops : ∀ bus, (ops.i2c bus).Quiet)

include hops

theorem leaves_sleep (j : Fin 4) : Leaves v (sleep ops j) := by
  refine leaves_self fun c hc => ?_
  have hj := hc j
  dsimp only
  split
  · next rt710 ht =>
    rw [ht] at hj
    apply Eff.Safe.bind
      (leaves_onRt710 hj.symm (Rt710.silent_sleep (Tc90522.quiet_tunerBus (hops 2) _)))
    intro _
    exact leaves_bus (Tc90522.quiet_sleepS (hops 2) _ _)
  · next r850 ht =>
    rw [ht] at hj
    apply Eff.Safe.bind (leaves_onR850 hj.symm R850.silent_checkInit)
    intro _
    exact leaves_bus (Tc90522.quiet_sleepT (hops 2) _ _)

theorem leaves_initChip (j : Fin 4) : Leaves v (initChip ops j) := by
  refine leaves_self fun c hc => ?_
  have hj := hc j
  dsimp only
  split
  · next rt710 ht =>
    rw [ht] at hj
    exact leaves_onRt710 hj.symm (Rt710.silent_init (Tc90522.quiet_tunerBus (hops 2) _))
  · next r850 ht =>
    rw [ht] at hj
    exact leaves_onR850 hj.symm (R850.silent_init (Tc90522.quiet_tunerBus (hops 2) _))

theorem leaves_init (j : Fin 4) : Leaves v (init ops j) :=
  (Eff.Safe.forEach fun i _ => leaves_initChip hops i).bind fun _ =>
    Eff.Safe.forEach fun i _ => leaves_sleep hops i

omit hops in
theorem leaves_term : Leaves v (term : OnChip Half (List (Write β) × ω) Unit) := by
  refine Eff.Safe.forEach fun j _ => leaves_self fun c hc => ?_
  have hj := hc j
  split
  · next rt710 ht =>
    rw [ht] at hj
    exact leaves_onRt710 hj.symm (Silent.modifySelf _)
  · next r850 ht =>
    rw [ht] at hj
    exact leaves_onR850 hj.symm (Silent.modifySelf _)

theorem leaves_wakeup (j : Fin 4) : Leaves v (wakeup ops j) := by
  refine leaves_self fun c hc => ?_
  have hj := hc j
  dsimp only
  split
  · apply Eff.Safe.bind (leaves_bus (Tc90522.quiet_writeMultipleRegs (hops 2) _ _))
    intro _
    apply Eff.Safe.bind (leaves_bus (Tc90522.quiet_writeReg (hops 2) _ _ _))
    intro _
    apply Eff.Safe.bind (leaves_bus (Tc90522.quiet_enableTsPinsS (hops 2) _ _))
    intro _
    exact leaves_bus (Tc90522.quiet_sleepS (hops 2) _ _)
  · next r850 ht =>
    rw [ht] at hj
    apply Eff.Safe.bind (leaves_bus (Tc90522.quiet_writeMultipleRegs (hops 2) _ _))
    intro _
    apply Eff.Safe.bind (leaves_bus (Tc90522.quiet_writeReg (hops 2) _ _ _))
    intro _
    apply Eff.Safe.bind (leaves_bus (Tc90522.quiet_writeReg (hops 2) _ _ _))
    intro _
    apply Eff.Safe.bind (leaves_bus (Tc90522.quiet_enableTsPinsT (hops 2) _ _))
    intro _
    apply Eff.Safe.bind (leaves_bus (Tc90522.quiet_sleepT (hops 2) _ _))
    intro _
    exact leaves_onR850 hj.symm (R850.silent_checkInit.bind fun _ => R850.silent_setSystem _)

theorem leaves_tryOpen (j : Fin 4) : Leaves v (tryOpen ops j) := by
  refine leaves_self fun c _ => ?_
  apply Eff.Safe.bind (Eff.Safe.when fun _ => leaves_init hops j)
  intro _
  apply Eff.Safe.bind (leaves_wakeup hops j)
  intro _
  refine Eff.Safe.when fun _ => ?_
  apply Eff.Safe.bind (leaves_bus (Tc90522.quiet_writeMultipleRegs (hops 2) _ _))
  intro _
  exact leaves_bus (Tc90522.quiet_writeMultipleRegs (hops 2) _ _)

theorem leaves_tune (j : Fin 4) (params : TuneParams) : Leaves v (tune ops j params) := by
  refine leaves_self fun c hc => ?_
  have hj := hc j
  dsimp only
  split
  · next r850 ht =>
    rw [ht] at hj
    have hbus : (((c.chips j).demod).tunerBus (ops.i2c 2)).Quiet :=
      Tc90522.quiet_tunerBus (hops 2) _
    apply Eff.Safe.bind (leaves_bus (Tc90522.quiet_writeReg (hops 2) _ _ _))
    intro _
    apply Eff.Safe.bind (leaves_bus (Tc90522.quiet_setAgcT (hops 2) _ _))
    intro _
    apply Eff.Safe.bind (leaves_bus (Tc90522.quiet_writeReg (hops 2) _ _ _))
    intro _
    apply Eff.Safe.bind (leaves_onR850 hj.symm ((R850.silent_setFrequency hbus _).bind fun _ =>
      silent_waitPll (R850.silent_isPllLocked hbus) _ _ _))
    intro _
    apply Eff.Safe.bind (leaves_bus (Tc90522.quiet_setAgcT (hops 2) _ _))
    intro _
    apply Eff.Safe.bind (leaves_bus (Tc90522.quiet_writeReg (hops 2) _ _ _))
    intro _
    apply Eff.Safe.bind (leaves_bus (Tc90522.quiet_writeReg (hops 2) _ _ _))
    intro _
    exact leaves_bus (Tc90522.quiet_writeReg (hops 2) _ _ _)
  · next rt710 ht =>
    rw [ht] at hj
    have hbus : (((c.chips j).demod).tunerBus (ops.i2c 2)).Quiet :=
      Tc90522.quiet_tunerBus (hops 2) _
    apply Eff.Safe.bind (leaves_bus (Tc90522.quiet_setAgcS (hops 2) _ _))
    intro _
    apply Eff.Safe.bind (leaves_bus (Tc90522.quiet_writeReg (hops 2) _ _ _))
    intro _
    apply Eff.Safe.bind (leaves_bus (Tc90522.quiet_writeReg (hops 2) _ _ _))
    intro _
    apply Eff.Safe.bind (Eff.Safe.ofExcept fun _ _ => trivial)
    intro _
    apply Eff.Safe.bind (leaves_onRt710 hj.symm ((Rt710.silent_setParams hbus _ _ _).bind fun _ =>
      silent_waitPll (Rt710.silent_isPllLocked hbus) _ _ _))
    intro _
    exact leaves_bus (Tc90522.quiet_setAgcS (hops 2) _ _)

theorem leaves_lock (j : Fin 4) : Leaves v (lock ops j) := by
  refine leaves_self fun c _ => ?_
  dsimp only
  split
  · exact (leaves_bus (Tc90522.quiet_isSignalLockedT (hops 2) _)).bind fun _ => Eff.Safe.pure _
  · exact (leaves_bus (Tc90522.quiet_isSignalLockedS (hops 2) _)).bind fun _ => Eff.Safe.pure _

theorem leaves_select (j : Fin 4) (params : TuneParams) : Leaves v (select ops j params) := by
  unfold select
  split
  · exact Eff.Safe.pure _
  · next streamId _ =>
    refine leaves_self fun c _ => ?_
    apply Eff.Safe.bind (leaves_bus (Tc90522.quiet_setTsidS (hops 2) _ _))
    intro _
    generalize 100 = polls
    induction polls with
    | zero => exact Eff.Safe.throw trivial
    | succ polls ih =>
      refine Eff.Safe.bind (Eff.Safe.attempt (leaves_bus (Tc90522.quiet_getTsidS (hops 2) _)))
        fun r => ?_
      cases r with
      | error e => exact ih
      | ok got =>
        dsimp only
        split
        · exact Eff.Safe.pure _
        · exact ih

theorem leaves_setCapture (j : Fin 4) (on : Bool) : Leaves v (setCapture ops j on) := by
  refine leaves_self fun c _ => ?_
  dsimp only
  split
  · exact leaves_bus (Tc90522.quiet_enableTsPinsT (hops 2) _ _)
  · exact leaves_bus (Tc90522.quiet_enableTsPinsS (hops 2) _ _)

end

theorem leaves_settle (r : Except Fault Unit) :
    Leaves v (Px4.settle r : OnChip Half (List (Write β) × ω) Unit) := by
  cases r with
  | ok _ => exact leaves_openCount fun h => h.openCount + 1
  | error e => exact leaves_self fun c _ => Eff.Safe.when fun _ => leaves_term

theorem leaves_closeHalf {m : Nat} {ops : Fin m → Ops (List (Write β) × ω)}
    (hops : ∀ k bus, ((ops k).i2c bus).Quiet) (k : Fin m) (i : Fin 4) :
    Leaves v (Px4.closeHalf ops k i) := by
  refine leaves_self fun c _ => ?_
  apply Eff.Safe.bind (Eff.Safe.require trivial)
  intro _
  apply Eff.Safe.bind (leaves_openCount fun h => h.openCount - 1)
  intro _
  refine leaves_self fun c _ => ?_
  split
  · exact leaves_term
  · exact Eff.Safe.bind (Eff.Safe.attempt (leaves_sleep (hops k) i)) fun _ => Eff.Safe.pure _

/-- `set_lnb` of an ISDB-T tuner is refused. -/
theorem setLnb_spec (ops : β → Ops ω) (k : β) (i : Fin 4) (on : Bool)
    (s : Half × List (Write β) × ω) :
    (supply s).Set (fun _ => k) i on (setLnb (traced ops k) i on s).1
      (supply (setLnb (traced ops k) i on s).2) := by
  rw [setLnb, Eff.bind_of_ok (m := OnChip.self) rfl]
  cases ht : (s.1.chips i).tuner with
  | t r850 => exact ⟨rfl, rfl, .inl ⟨by simp [supply, ht, Tuner.satellite], rfl⟩⟩
  | s rt710 =>
    dsimp only
    have htakes : (supply s).takes i = true := by simp [supply, ht, Tuner.satellite]
    have h := Lnb.set_spec ops k i on (s.1.lnb, s.2)
    have hpart : OnChip.part Half.lnb (fun h lnb => { h with lnb := lnb })
        (Lnb.set (traced ops k) i on) s =
        ((Lnb.set (traced ops k) i on (s.1.lnb, s.2)).1,
          { s.1 with lnb := (Lnb.set (traced ops k) i on (s.1.lnb, s.2)).2.1 },
          (Lnb.set (traced ops k) i on (s.1.lnb, s.2)).2.2) := rfl
    rw [hpart]
    cases hr : (Lnb.set (traced ops k) i on (s.1.lnb, s.2)).1 with
    | ok _ =>
      rw [hr] at h
      exact ⟨rfl, htakes, h.wants, h.told⟩
    | error e =>
      rw [hr] at h
      exact ⟨rfl, h.wants, .inr (h.told.resolve_left fun ht => nomatch ht.1)⟩

end Half

/-! ### The card -/

namespace Px4

variable {m : Nat} {ω α : Type} (ops : Fin m → Ops ω)

def supply (s : Px4 m × List (Write (Fin m)) × ω) : Supply (Fin m × Fin 4) (Fin m) :=
  ⟨fun i => ((s.1.halves i.1).chips i.2).tuner.satellite, fun i => (s.1.halves i.1).lnb i.2,
    Lnb.told s.2.1⟩

/-- What leaves the supply of a half leaves that of the card. -/
theorem leaves_onHalf {k : Fin m} {op : OnChip Half (List (Write (Fin m)) × ω) α}
    (h : ∀ v, Half.Leaves v op) : Eff.Leaves supply (onHalf k op) := by
  intro s
  have hhalf : Half.supply (op (s.1.halves k, s.2)).2 = Half.supply (s.1.halves k, s.2) :=
    (h _).kept rfl
  simp only [Half.supply, Supply.mk.injEq] at hhalf
  obtain ⟨htakes, hlnb, htold⟩ := hhalf
  have hk : ∀ i, (Function.update s.1.halves k (op (s.1.halves k, s.2)).2.1 i).lnb =
      (s.1.halves i).lnb ∧
      ∀ j, ((Function.update s.1.halves k (op (s.1.halves k, s.2)).2.1 i).chips j).tuner.satellite =
        ((s.1.halves i).chips j).tuner.satellite := by
    intro i
    by_cases hi : i = k
    · subst hi
      rw [Function.update_self]
      exact ⟨hlnb, congrFun htakes⟩
    · rw [Function.update_of_ne hi]
      exact ⟨rfl, fun _ => rfl⟩
  rw [supply, supply, Supply.mk.injEq]
  exact ⟨funext fun i => (hk i.1).2 i.2, funext fun i => congrFun (hk i.1).1 i.2, htold⟩

/-- Powering the boards is another matter. -/
theorem leaves_power (on : Bool) : Eff.Leaves supply
    (OnChip.bus (power (traced ops) on) : OnChip (Px4 m) (List (Write (Fin m)) × ω) Unit) := by
  have hloop : ∀ (ks : List (Fin m)) (result : Except Error Unit),
      Eff.Leaves (fun s => Lnb.told s.1) (powerLoop (traced ops) on ks result) := by
    intro ks
    induction ks with
    | nil => exact fun result => Eff.Leaves.ofExcept _
    | cons k ks ih =>
      exact fun result => (told_powerBackend ops k (by decide) (by decide) on).attempt.bind
        fun _ => ih _
  intro s
  exact congrArg (Supply.mk (supply s).takes (supply s).wants) (hloop _ _ s.2)

/-- What is set for a tuner of a half is set for it on the card. -/
theorem set_onHalf {k : Fin m} {j : Fin 4} {on : Bool} {r : Except Fault Unit}
    {s : Px4 m × List (Write (Fin m)) × ω} {t : Half × List (Write (Fin m)) × ω}
    (h : (Half.supply (s.1.halves k, s.2)).Set (fun _ => k) j on r (Half.supply t)) :
    (supply s).Set Prod.fst (k, j) on r (supply (⟨Function.update s.1.halves k t.1⟩, t.2)) := by
  have hshared : (supply s).Shared Prod.fst (k, j) ↔
      (Half.supply (s.1.halves k, s.2)).Shared (fun _ => k) j := by
    constructor
    · rintro ⟨⟨k', j'⟩, hne, rfl, hw⟩
      exact ⟨j', fun hj => hne (by rw [hj]), rfl, hw⟩
    · rintro ⟨j', hne, -, hw⟩
      exact ⟨(k, j'), fun hj => hne (congrArg Prod.snd hj), rfl, hw⟩
  have htakes : (Half.supply t).takes = (Half.supply (s.1.halves k, s.2)).takes →
      (supply (⟨Function.update s.1.halves k t.1⟩, t.2)).takes = (supply s).takes := by
    intro ht
    funext ⟨k', j'⟩
    by_cases hk : k' = k
    · subst hk
      simpa [supply, Half.supply] using congrFun ht j'
    · simp [supply, hk]
  cases r with
  | ok _ =>
    refine ⟨htakes h.takes, h.takesIt, ?_, ?_⟩
    · funext ⟨k', j'⟩
      by_cases hk : k' = k
      · subst hk
        have := congrFun h.wants j'
        simp only [supply, Half.supply, Function.update_self] at this ⊢
        rw [this, Function.update_apply, Function.update_apply]
        simp
      · simp [supply, Function.update_apply, hk]
    · rw [hshared]
      exact h.told
  | error e =>
    refine ⟨htakes h.takes, ?_, h.told⟩
    funext ⟨k', j'⟩
    by_cases hk : k' = k
    · subst hk
      simpa [supply, Half.supply] using congrFun h.wants j'
    · simp [supply, hk]

theorem supplies (ops : Fin m → Ops ω) : (board (traced ops)).Supplies Prod.fst supply where
  «open» i := by
    apply Eff.Leaves.bind (fun _ => rfl)
    intro c
    apply Eff.Leaves.bind (Eff.Leaves.when (leaves_power ops true))
    intro _
    apply Eff.Leaves.bind (leaves_onHalf fun _ =>
      Half.leaves_tryOpen (fun _ => I2c.quiet_beside _) i.2).attempt
    intro r
    apply Eff.Leaves.bind (leaves_onHalf fun _ => Half.leaves_settle r)
    intro _
    refine Eff.Leaves.bind (Eff.Leaves.when ?_) fun _ => Eff.Leaves.ofExcept _
    exact (leaves_power ops false).attempt.bind fun _ => Eff.Leaves.pure _
  close i := by
    apply Eff.Leaves.bind (leaves_onHalf fun _ =>
      Half.leaves_closeHalf (fun _ _ => I2c.quiet_beside _) i.1 i.2)
    intro _
    apply Eff.Leaves.bind (fun _ => rfl)
    intro c
    exact Eff.Leaves.when ((leaves_power ops false).attempt.bind fun _ => Eff.Leaves.pure _)
  tune i params := leaves_onHalf fun _ => Half.leaves_tune (fun _ => I2c.quiet_beside _) _ _
  lock i system := leaves_onHalf fun _ => Half.leaves_lock (fun _ => I2c.quiet_beside _) _
  select i params := leaves_onHalf fun _ => Half.leaves_select (fun _ => I2c.quiet_beside _) _ _
  setCapture i on := leaves_onHalf fun _ => Half.leaves_setCapture (fun _ => I2c.quiet_beside _) _ _
  setLnb i on s := set_onHalf (Half.setLnb_spec ops i.1 i.2 on (s.1.halves i.1, s.2))

end Px4

/-! ### The PX-MLT series -/

namespace PxMlt

variable {n : Nat} {ω α : Type} (ops : Ops ω)

/-- Its one bridge, with a log of what its GPIO are told. -/
abbrev tracedOps : Ops (List (Write Unit) × ω) := traced (fun _ : Unit => ops) ()

def supply (s : PxMlt n × List (Write Unit) × ω) : Supply (Fin n) Unit :=
  Lnb.supply (s.1.lnb, s.2)

theorem leaves_bus {m : Eff Error (List (Write Unit) × ω) α} (h : Eff.Leaves Prod.fst m) :
    Eff.Leaves supply (OnChip.bus m : OnChip (PxMlt n) _ α) := by
  intro s
  exact congrArg (fun log => Supply.mk _ s.1.lnb (Lnb.told log)) (h s.2)

theorem leaves_onDemod {i : Fin n} {m : OnChip Cxd2856er (List (Write Unit) × ω) α}
    (h : Silent m) : Eff.Leaves supply (onDemod i m) := by
  intro s
  exact congrArg (fun log => Supply.mk _ s.1.lnb (Lnb.told log)) (h _)

theorem leaves_onTuner {i : Fin n} {m : OnChip Cxd2858er (List (Write Unit) × ω) α}
    (h : Silent m) : Eff.Leaves supply (onTuner i m) := by
  intro s
  exact congrArg (fun log => Supply.mk _ s.1.lnb (Lnb.told log)) (h _)

theorem leaves_power (on : Bool) : Eff.Leaves supply
    (OnChip.bus (power (tracedOps ops) on) : OnChip (PxMlt n) (List (Write Unit) × ω) Unit) := by
  have hpower : Eff.Leaves (fun s => Lnb.told s.1) (power (tracedOps ops) on) :=
    told_powerBackend _ () (by decide) (by decide) on
  intro s
  exact congrArg (Supply.mk _ s.1.lnb) (hpower s.2)

theorem leaves_initChip (i : Fin n) : Eff.Leaves supply (initChip (tracedOps ops) i) := by
  apply Eff.Leaves.bind (fun _ => rfl)
  intro c
  apply Eff.Leaves.bind (leaves_onDemod (Cxd2856er.silent_init (I2c.quiet_beside _)))
  intro _
  apply Eff.Leaves.bind (leaves_onTuner (Cxd2858er.silent_init (I2c.quiet_beside _) _))
  intro _
  exact leaves_bus (Cxd2856er.quiet_setup (I2c.quiet_beside _) _ _)

theorem leaves_tune (i : Fin n) (params : TuneParams) :
    Eff.Leaves supply (tune (tracedOps ops) i params) := by
  apply Eff.Leaves.bind (Eff.Leaves.ofExcept _)
  intro mode
  apply Eff.Leaves.bind (Eff.Leaves.ofExcept _)
  intro khz
  apply Eff.Leaves.bind (fun _ => rfl)
  intro c
  refine Eff.Leaves.bind (Eff.Leaves.forEach fun streamId _ => ?_) fun _ => ?_
  · exact leaves_bus (Cxd2856er.quiet_setTsid (I2c.quiet_beside _) _ _)
  apply Eff.Leaves.bind (leaves_onDemod (Cxd2856er.silent_wakeup (I2c.quiet_beside _) _))
  intro _
  refine Eff.Leaves.bind (leaves_onTuner ?_) fun _ =>
    leaves_bus (Cxd2856er.quiet_run (I2c.quiet_beside _) _ _)
  cases mode with
  | t =>
    apply Cxd2858er.silent_gated (I2c.quiet_beside _)
    exact Cxd2858er.silent_setT (I2c.quiet_beside _) _
  | s =>
    apply Cxd2858er.silent_gated (I2c.quiet_beside _)
    exact Cxd2858er.silent_setS (I2c.quiet_beside _) _

theorem supplies : (board (n := n) (tracedOps ops)).Supplies (fun _ => ()) supply where
  «open» i := by
    apply Eff.Leaves.bind (fun _ => rfl)
    intro c
    apply Eff.Leaves.bind (Eff.Leaves.when (leaves_power ops true))
    intro _
    apply Eff.Leaves.bind (leaves_initChip ops i).attempt
    intro r
    apply Eff.Leaves.bind (fun _ => rfl)
    intro c'
    refine Eff.Leaves.bind (Eff.Leaves.when ?_) fun _ => ?_
    · exact (leaves_power ops false).attempt.bind fun _ => Eff.Leaves.pure _
    · exact (Eff.Leaves.ofExcept _).bind fun _ => Eff.Leaves.modify fun _ => rfl
  close i := by
    apply Eff.Leaves.bind (fun _ => rfl)
    intro c
    apply Eff.Leaves.bind (leaves_onTuner (Cxd2858er.silent_term (I2c.quiet_beside _) _)).attempt
    intro _
    apply Eff.Leaves.bind (leaves_onDemod (Cxd2856er.silent_sleep (I2c.quiet_beside _))).attempt
    intro _
    apply Eff.Leaves.bind (fun _ => rfl)
    intro c'
    apply Eff.Leaves.bind Eff.Leaves.require
    intro _
    apply Eff.Leaves.bind (fun _ => rfl)
    intro _
    apply Eff.Leaves.bind (fun _ => rfl)
    intro c''
    exact Eff.Leaves.when ((leaves_power ops false).attempt.bind fun _ => Eff.Leaves.pure _)
  tune := leaves_tune ops
  lock i system := by
    apply Eff.Leaves.bind (fun _ => rfl)
    intro c
    refine Eff.Leaves.bind (leaves_bus (Cxd2856er.quiet_lockStatus (I2c.quiet_beside _) _))
      fun status => ?_
    split <;> exact Eff.Leaves.pure _
  select i params := Eff.Leaves.pure _
  setCapture i on := Eff.Leaves.pure _
  setLnb i on s := Lnb.set_spec (fun _ : Unit => ops) () i on (s.1.lnb, s.2)

end PxMlt

/-! ## The LNB of a device -/

/-- After the run, the GPIO of every bridge is high exactly if a tuner on it wants the supply, and a
tuner that is not open wants it only if its own release failed to switch it off. A set that returns
leaves the tuner wanting what was asked, having switched the GPIO unless another one needs it or it
is a repeat; one that fails does so because the tuner does not take it or the write failed, and
changes neither what is wanted nor the GPIO. -/
structure BoardDevice.LnbHolds {ι β σ : Type} [DecidableEq ι] [DecidableEq β] (B : Board ι σ)
    (bridge : ι → β) (takes wants : σ → ι → Bool) (log : σ → List (Write β))
    (tr : List (BoardDevice ι σ × BoardDevice.Act ι)) (d : BoardDevice ι σ) : Prop where
  level : ∀ k, level k Lnb.GPIO (log d.state.board) false = true ↔
    ∃ i, bridge i = k ∧ wants d.state.board i = true
  set : ∀ s i on s', B.setLnb i on s = (.ok (), s') →
    takes s i = true ∧ wants s' = Function.update (wants s) i on ∧
      (Lnb.told (log s') = Lnb.told (log s) ∧
          (wants s i = on ∨ ∃ j, j ≠ i ∧ bridge j = bridge i ∧ wants s j = true) ∨
        Lnb.told (log s') = Lnb.told (log s) ++ [⟨bridge i, Lnb.GPIO, on, true⟩] ∧
          ¬ ∃ j, j ≠ i ∧ bridge j = bridge i ∧ wants s j = true)
  setLevel : ∀ i on r s', B.setLnb i on d.state.board = (r, s') →
    ∀ k, Px4.level k Lnb.GPIO (log s') false = true ↔ ∃ j, bridge j = k ∧ wants s' j = true
  failed : ∀ s i on e s', B.setLnb i on s = (.error e, s') →
    wants s' = wants s ∧
      (takes s i = false ∧ Lnb.told (log s') = Lnb.told (log s) ∨
        Lnb.told (log s') = Lnb.told (log s) ++ [⟨bridge i, Lnb.GPIO, on, false⟩]) ∧
      ∀ k, Px4.level k Lnb.GPIO (log s') false = Px4.level k Lnb.GPIO (log s) false
  released : ∀ i, d.state.opened i = false → wants d.state.board i = true →
    BoardDevice.ReleaseFailed B bridge (fun s => Lnb.told (log s)) tr i

theorem BoardDevice.Supplied.holds [DecidableEq β] {takes wants : σ → ι → Bool}
    {log : σ → List (Write β)} (hB : B.Supplies bridge view)
    (hview : ∀ s, view s = ⟨takes s, wants s, Lnb.told (log s)⟩)
    {tr : List (BoardDevice ι σ × BoardDevice.Act ι)} {d : BoardDevice ι σ}
    (h : BoardDevice.Supplied B bridge view tr d) :
    BoardDevice.LnbHolds B bridge takes wants log tr d where
  level k := by
    have hlevel := h.right.level k
    rw [hview] at hlevel
    rw [← Lnb.level_told, hlevel]
  set s i on s' hs := by
    have hset := hB.setLnb i on s
    rw [hs, hview, hview] at hset
    exact ⟨Supply.Turned.takesIt hset, Supply.Turned.wants hset, Supply.Turned.told hset⟩
  setLevel i on r s' hs k := by
    have hset := hB.setLnb i on d.state.board
    rw [hs] at hset
    have hlevel := (hset.right h.right).level k
    rw [hview] at hlevel
    rw [← Lnb.level_told, hlevel]
  failed s i on e s' hs := by
    have hset := hB.setLnb i on s
    rw [hs, hview, hview] at hset
    refine ⟨Supply.Refused.wants hset, Supply.Refused.told hset, fun k => ?_⟩
    rw [← Lnb.level_told k (log s'), ← Lnb.level_told k (log s)]
    exact Supply.Refused.level hset k
  released i hi hw := by
    have hfailed := h.released i hi (by rw [hview]; exact hw)
    simp only [hview] at hfailed
    exact hfailed

/-- Over every run of a card or of a PX-MLT, whatever fails. -/
theorem lnb_follows {ω : Type} :
    (∀ (m : Nat) (ops : Fin m → Ops ω) (id : String) (w : ω) tr d,
      Lts.Run (BoardDevice.Step (Px4.board (traced ops))) (.init id (Px4.new m, [], w)) tr d →
      BoardDevice.LnbHolds (Px4.board (traced ops)) Prod.fst
        (fun s i => ((s.1.halves i.1).chips i.2).tuner.satellite)
        (fun s i => (s.1.halves i.1).lnb i.2) (fun s => s.2.1) tr d) ∧
    ∀ (n : Nat) (ops : Ops ω) (layout : PxMlt.Layout n) (id : String) (w : ω) tr d,
      Lts.Run (BoardDevice.Step (PxMlt.board (PxMlt.tracedOps ops)))
        (.init id (PxMlt.new layout, [], w)) tr d →
      BoardDevice.LnbHolds (PxMlt.board (PxMlt.tracedOps ops)) (fun _ => ())
        (fun _ _ => true) (fun s => s.1.lnb) (fun s => s.2.1) tr d := by
  constructor
  · intro m ops id w tr d hr
    have hB := Px4.supplies ops
    exact (BoardDevice.Supplied.run hB (Px4.board_keeps _) Px4.inv_new (fun _ => rfl) rfl hr).holds
      hB fun _ => rfl
  · intro n ops layout id w tr d hr
    have hB := PxMlt.supplies (n := n) ops
    exact (BoardDevice.Supplied.run hB (PxMlt.board_keeps _) (PxMlt.counts_new layout)
      (fun _ => rfl) rfl hr).holds hB fun _ => rfl

/-- The supply of a tuner asked for and given up, on a card and on a PX-MLT. -/
theorem lnb_follows_on_off :
    (∃ tr d, Lts.Run (BoardDevice.Step (Px4.board (traced fun _ : Fin 1 => quiet)))
      (.init "card" (Px4.new 1, [], ())) tr d ∧ (d.state.board.1.halves 0).lnb 0 = true ∧
      level 0 Lnb.GPIO d.state.board.2.1 false = true ∧
      BoardDevice.LnbHolds (Px4.board (traced fun _ : Fin 1 => quiet)) Prod.fst
        (fun s i => ((s.1.halves i.1).chips i.2).tuner.satellite)
        (fun s i => (s.1.halves i.1).lnb i.2) (fun s => s.2.1) tr d) ∧
    (∃ tr d, Lts.Run (BoardDevice.Step (Px4.board (traced fun _ : Fin 1 => quiet)))
      (.init "card" (Px4.new 1, [], ())) tr d ∧ (d.state.board.1.halves 0).lnb 0 = false ∧
      Lnb.told d.state.board.2.1 = [⟨0, Lnb.GPIO, true, true⟩, ⟨0, Lnb.GPIO, false, true⟩] ∧
      BoardDevice.LnbHolds (Px4.board (traced fun _ : Fin 1 => quiet)) Prod.fst
        (fun s i => ((s.1.halves i.1).chips i.2).tuner.satellite)
        (fun s i => (s.1.halves i.1).lnb i.2) (fun s => s.2.1) tr d) ∧
    ∃ tr d, Lts.Run (BoardDevice.Step (PxMlt.board (PxMlt.tracedOps quiet)))
      (.init "mlt" (PxMlt.new (fun _ : Fin 1 => (0x65, 3, 0)), [], ())) tr d ∧
      Lnb.told d.state.board.2.1 = [⟨(), Lnb.GPIO, true, true⟩, ⟨(), Lnb.GPIO, false, true⟩] ∧
      BoardDevice.LnbHolds (PxMlt.board (PxMlt.tracedOps quiet)) (fun _ => ())
        (fun _ _ => true) (fun s => s.1.lnb) (fun s => s.2.1) tr d := by
  refine ⟨?_, ?_, ?_⟩
  · obtain ⟨_, _, hopen, hlive, hs₀⟩ := BoardDevice.run_openTuner
      (Px4.board (traced fun _ : Fin 1 => quiet)) "card" (Px4.new 1, [], ()) 0 (i := (0, 0))
      (by decide +kernel)
    obtain ⟨tr, d, hrun, hs⟩ := BoardDevice.run_requests hopen hlive [.setLnb true]
    refine ⟨tr, d, hrun, ?_, ?_, lnb_follows.1 1 _ "card" () tr d hrun⟩ <;> rw [hs, hs₀] <;>
      decide +kernel
  · obtain ⟨_, _, hopen, hlive, hs₀⟩ := BoardDevice.run_openTuner
      (Px4.board (traced fun _ : Fin 1 => quiet)) "card" (Px4.new 1, [], ()) 0 (i := (0, 0))
      (by decide +kernel)
    obtain ⟨tr, d, hrun, hs⟩ := BoardDevice.run_requests hopen hlive
      [.setLnb true, .setLnb false]
    refine ⟨tr, d, hrun, ?_, ?_, lnb_follows.1 1 _ "card" () tr d hrun⟩ <;> rw [hs, hs₀] <;>
      decide +kernel
  · obtain ⟨_, _, hopen, hlive, hs₀⟩ := BoardDevice.run_openTuner
      (PxMlt.board (PxMlt.tracedOps quiet)) "mlt"
      (PxMlt.new (fun _ : Fin 1 => (0x65, 3, 0)), [], ()) 0 (i := 0) (by decide +kernel)
    obtain ⟨tr, d, hrun, hs⟩ := BoardDevice.run_requests hopen hlive
      [.setLnb true, .setLnb false]
    refine ⟨tr, d, hrun, ?_, lnb_follows.2 1 quiet _ "mlt" () tr d hrun⟩
    rw [hs, hs₀]
    decide +kernel

end Tunelith.Px4
