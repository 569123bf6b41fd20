import Mathlib.Logic.Function.Basic
import Tunelith.Core.Types
import Tunelith.Lib.Transition

/-!
# The LNB of a tuner of BDA

`set_lnb` numbers its request under a lock and sends the command from a closure on another thread,
which the caller may give up on. The closure takes the same lock and sends nothing unless its
request is still the last one. The drop of the tuner closes the requests under the lock, and turns
the LNB off if it may be on.

A step is what is done under the lock, or by the caller between two awaits. A request counts as
asked for once it has its number. The invariant is `Inv`: commands have the lock, and where the
mark of the tuner is off, the supply was last told so and nothing is left that could turn it on.

* `lnb_ends_off` — the commands sent in every run.
-/

namespace Tunelith.Bda

/-! ## Steps -/

/-- Which commands may be sent still. -/
structure LnbRequests where
  last : Nat := 0
  closed : Bool := false
deriving DecidableEq, Repr

inductive Command
  | absent
  | queued (on : Bool)
  | sending (on : Bool)
  | done (r : Except Error Unit)
  | cancelled
deriving DecidableEq

inductive Caller
  | idle
  /-- In `set_lnb`, with its request still to be numbered. -/
  | asking (on : Bool)
  /-- At the await of the closure. -/
  | waiting (request : Nat) (on : Bool)
  | dropping
  | gone
deriving DecidableEq, Repr

inductive Sender
  | command (request : Nat)
  | drop
deriving DecidableEq, Repr

structure Lnb where
  requests : LnbRequests := {}
  /-- Who has the lock on the requests. -/
  holder : Option Sender := none
  /-- Whether the LNB was powered through this tuner, to be turned off with it. -/
  lnb : Bool := false
  caller : Caller := .idle
  command : Nat → Command := fun _ => .absent

/-- What the closure makes of what the supply answers: where there is no way to turn it on, there
is nothing to turn off. -/
def answer (on : Bool) : Except Error Unit → Except Error Unit
  | .error (.io .unsupported message) =>
    if on then .error (.io .unsupported message) else .ok ()
  | r => r

namespace Lnb

@[simps] def setCommand (s : Lnb) (request : Nat) (c : Command) : Lnb :=
  { s with command := Function.update s.command request c }

/-- `set_lnb` up to its lock: marked before it may be done. -/
@[simps] def mark (s : Lnb) (on : Bool) : Lnb :=
  { s with lnb := s.lnb || on, caller := .asking on }

/-- The request is numbered, and its closure started. -/
@[simps!] def ask (s : Lnb) (on : Bool) : Lnb :=
  { s with requests.last := s.requests.last + 1,
           caller := .waiting (s.requests.last + 1) on }.setCommand (s.requests.last + 1)
    (.queued on)

@[simps] def resume (s : Lnb) (on : Bool) (r : Except Error Unit) : Lnb :=
  { s with caller := .idle, lnb := if r = .ok () then on else s.lnb }

@[simps] def drop (s : Lnb) : Lnb :=
  { s with requests.closed := true, holder := some .drop, caller := .dropping }

inductive Act
  | mark (on : Bool)
  | ask (on : Bool)
  /-- The closure of a request sends its command. -/
  | send (request : Nat) (on : Bool)
  /-- It sends none, asked for again since or the tuner gone. -/
  | skip (request : Nat)
  | answer (request : Nat) (r : Except Error Unit)
  | resume (r : Except Error Unit)
  | giveUp
  /-- A closure given up on before it started is dropped. -/
  | cancel (request : Nat)
  | drop
  | dropped
deriving DecidableEq

inductive Step : Lnb → Act → Lnb → Prop
  | mark {s : Lnb} {on : Bool} (hc : s.caller = .idle) : Step s (.mark on) (s.mark on)
  | ask {s : Lnb} {on : Bool} (hc : s.caller = .asking on) (hl : s.holder = none) :
      Step s (.ask on) (s.ask on)
  | send {s : Lnb} {request : Nat} {on : Bool} (hq : s.command request = .queued on)
      (hl : s.holder = none) (hopen : s.requests.closed = false)
      (hlast : s.requests.last = request) :
      Step s (.send request on)
        ({ s with holder := some (.command request) }.setCommand request (.sending on))
  | skip {s : Lnb} {request : Nat} {on : Bool} (hq : s.command request = .queued on)
      (hl : s.holder = none) (hskip : s.requests.closed = true ∨ s.requests.last ≠ request) :
      Step s (.skip request) (s.setCommand request (.done (.ok ())))
  | answer {s : Lnb} {request : Nat} {on : Bool} {r : Except Error Unit}
      (hq : s.command request = .sending on) :
      Step s (.answer request r)
        ({ s with holder := none }.setCommand request (.done (Bda.answer on r)))
  | resume {s : Lnb} {request : Nat} {on : Bool} {r : Except Error Unit}
      (hc : s.caller = .waiting request on) (hd : s.command request = .done r) :
      Step s (.resume r) (s.resume on r)
  | giveUp {s : Lnb} {request : Nat} {on : Bool} (hc : s.caller = .waiting request on) :
      Step s .giveUp { s with caller := .idle }
  | cancel {s : Lnb} {request : Nat} {on : Bool} (hq : s.command request = .queued on)
      (hc : ∀ on, s.caller ≠ .waiting request on) :
      Step s (.cancel request) (s.setCommand request .cancelled)
  | drop {s : Lnb} (hc : s.caller = .idle) (hl : s.holder = none) : Step s .drop s.drop
  | dropped {s : Lnb} (hc : s.caller = .dropping) :
      Step s .dropped { s with holder := none, caller := .gone }

/-! ## What is sent -/

/-- The command a step sends. The drop turns off what is marked. -/
def sends (s : Lnb) : Act → Option (Sender × Bool)
  | .send request on => some (.command request, on)
  | .drop => if s.lnb then some (.drop, false) else none
  | _ => none

def sent (tr : List (Lnb × Act)) : List (Sender × Bool) := tr.filterMap fun x => x.1.sends x.2

def Sending (s : Lnb) : Sender → Prop
  | .command request => ∃ on, s.command request = .sending on
  | .drop => s.caller = .dropping

/-- What comes of an on command is an off command, the last one. -/
def OffAtEnd (l : List (Sender × Bool)) : Prop :=
  (∃ c, (c, true) ∈ l) → ∃ c, l.head? = some (c, false)

variable {s s' : Lnb} {a : Act} {tr : List (Lnb × Act)}

theorem sent_cons : sent ((s, a) :: tr) = (s.sends a).toList ++ sent tr := by
  unfold sent
  rw [List.filterMap_cons]
  cases s.sends a <;> rfl

theorem sent_cons_of_none (h : s.sends a = none) : sent ((s, a) :: tr) = sent tr := by
  rw [sent_cons, h]
  rfl

theorem offAtEnd_cons {c : Sender} {l : List (Sender × Bool)} : OffAtEnd ((c, false) :: l) :=
  fun _ => ⟨c, rfl⟩

/-! ## The invariant -/

structure Inv (tr : List (Lnb × Act)) (s : Lnb) : Prop where
  holder : ∀ c, s.holder = some c ↔ s.Sending c
  fresh : ∀ k, s.requests.last < k → s.command k = .absent
  closed : s.requests.closed = true ↔ s.caller = .dropping ∨ s.caller = .gone
  marked : s.caller = .asking true → s.lnb = true
  last : ∀ k on, s.caller = .waiting k on → s.requests.last = k
  waiting : ∀ k on, s.caller = .waiting k on → s.command k = .queued on ∨
    ((∃ on, s.command k = .sending on) ∨ ∃ r, s.command k = .done r) ∧
      (sent tr).head? = some (.command k, on)
  unmarked : s.lnb = false → s.command s.requests.last ≠ .queued true
  settled : s.lnb = false ∨ s.requests.closed = true → OffAtEnd (sent tr)

theorem inv_init : Inv [] {} where
  holder c := by cases c <;> simp [Sending]
  fresh _ _ := rfl
  closed := by simp
  marked := nofun
  last := nofun
  waiting := nofun
  unmarked _ := nofun
  settled _ := by simp [OffAtEnd, sent]

theorem not_sending (h : Inv tr s) (hl : s.holder = none) (c : Sender) : ¬ s.Sending c := by
  intro hc
  rw [(h.holder c).2 hc] at hl
  cases hl

theorem open_of_caller (h : Inv tr s) (hd : s.caller ≠ .dropping) (hg : s.caller ≠ .gone) :
    s.requests.closed = false :=
  Bool.eq_false_iff.2 fun hc => (h.closed.1 hc).elim hd hg

theorem inv_caller (h : Inv tr s) (ha : s.sends a = none) {c : Caller} {lnb : Bool}
    (hopen : s.requests.closed = false) (hd : c ≠ .dropping) (hg : c ≠ .gone)
    (hm : c = .asking true → lnb = true) (hw : ∀ k on, c ≠ .waiting k on)
    (hoff : lnb = false → s.command s.requests.last ≠ .queued true ∧ OffAtEnd (sent tr)) :
    Inv ((s, a) :: tr) { s with caller := c, lnb := lnb } := by
  have hnd : s.caller ≠ .dropping := fun hc => by simp [h.closed.2 (.inl hc)] at hopen
  refine ⟨fun x => ?_, h.fresh, ?_, hm, fun k on hc => absurd hc (hw k on),
    fun k on hc => absurd hc (hw k on), fun hl => (hoff hl).1, fun hl => ?_⟩
  · cases x with
    | command k => exact h.holder (.command k)
    | drop =>
      have := h.holder .drop
      simp only [Sending, hnd, iff_false] at this
      simp [Sending, hd, this]
  · simp [hopen, hd, hg]
  · rw [sent_cons_of_none ha]
    exact (hoff (hl.resolve_right (by simp [hopen]))).2

theorem ne_of_queued {k j : Nat} {on : Bool} (hq : s.command k = .queued on)
    (hj : s.command j ≠ .queued on) : j ≠ k := by
  rintro rfl
  exact hj hq

theorem inv_end (h : Inv tr s) (ha : s.sends a = none) {k : Nat} {on : Bool} {c : Command}
    (hq : s.command k = .queued on) (hw : ∀ on, s.caller ≠ .waiting k on)
    (hsend : ∀ on, c ≠ .sending on) (hqueue : ∀ on, c ≠ .queued on) :
    Inv ((s, a) :: tr) (s.setCommand k c) := by
  have hother : ∀ j on, s.caller = .waiting j on → (s.setCommand k c).command j = s.command j := by
    intro j on hj
    refine Function.update_of_ne ?_ _ _
    rintro rfl
    exact hw on hj
  refine ⟨fun x => ?_, fun j hj => ?_, h.closed, h.marked, h.last, fun j on hj => ?_,
    fun hl => ?_, fun hl => ?_⟩
  · cases x with
    | command j =>
      rw [show (s.setCommand k c).holder = s.holder from rfl, h.holder]
      by_cases hjk : j = k
      · subst hjk
        simp [Sending, hq, hsend]
      · simp [Sending, Function.update_of_ne hjk]
    | drop => exact h.holder .drop
  · have hjk : j ≠ k := ne_of_queued hq (by rw [h.fresh j hj]; nofun)
    exact (Function.update_of_ne hjk _ _).trans (h.fresh j hj)
  · rw [hother j on hj, sent_cons_of_none ha]
    exact h.waiting j on hj
  · by_cases hk : s.requests.last = k
    · show Function.update s.command k c s.requests.last ≠ _
      rw [hk, Function.update_self]
      exact hqueue true
    · show Function.update s.command k c s.requests.last ≠ _
      rw [Function.update_of_ne hk]
      exact h.unmarked hl
  · rw [sent_cons_of_none ha]
    exact h.settled hl

theorem inv_step (h : Inv tr s) (hs : Step s a s') : Inv ((s, a) :: tr) s' := by
  cases hs with
  | @mark on hc =>
    refine inv_caller h rfl (open_of_caller h (by simp [hc]) (by simp [hc])) nofun nofun ?_ nofun ?_
    · intro hon
      cases hon
      exact Bool.or_true _
    · intro hl
      have hl : s.lnb = false := (Bool.or_eq_false_iff.1 hl).1
      exact ⟨h.unmarked hl, h.settled (.inl hl)⟩
  | @ask on hc hl =>
    have hopen := open_of_caller h (by simp [hc]) (by simp [hc])
    refine ⟨fun x => ?_, fun k hk => ?_, by simp [hopen], nofun, ?_, ?_, fun hlnb => ?_,
      fun hoff => ?_⟩
    · refine iff_of_false (by simp [hl]) ?_
      have hns := not_sending h hl x
      cases x with
      | command k =>
        by_cases hk : k = s.requests.last + 1
        · simp [Sending, hk]
        · simpa [Sending, Function.update_of_ne hk] using hns
      | drop => simp [Sending]
    · have hk : s.requests.last + 1 < k := hk
      exact (Function.update_of_ne (Nat.ne_of_gt hk) _ _).trans (h.fresh k (by omega))
    · intro k on hk
      cases hk
      rfl
    · intro k on hk
      cases hk
      exact .inl (Function.update_self ..)
    · have hon : on = false := by
        rw [← Bool.not_eq_true]
        rintro rfl
        have hlnb : s.lnb = false := hlnb
        rw [h.marked hc] at hlnb
        cases hlnb
      show Function.update s.command (s.requests.last + 1) (.queued on) (s.requests.last + 1) ≠ _
      rw [Function.update_self, hon]
      nofun
    · exact h.settled hoff
  | @send k on hq hl hopen hlast =>
    have hcaller : s.caller ≠ .dropping := fun hc => by simp [h.closed.2 (.inl hc)] at hopen
    refine ⟨fun x => ?_, fun j hj => ?_, h.closed, h.marked, h.last, fun j on' hj => ?_,
      fun _ => ?_, fun hoff => ?_⟩
    · have hns := not_sending h hl x
      cases x with
      | command j =>
        by_cases hj : j = k
        · subst hj
          simp [Sending]
        · simpa [Sending, Function.update_of_ne hj, Ne.symm hj] using hns
      | drop => simpa [Sending] using hcaller
    · have hjk : j ≠ k := by
        subst hlast
        exact Nat.ne_of_gt hj
      exact (Function.update_of_ne hjk _ _).trans (h.fresh j hj)
    · obtain rfl : k = j := hlast.symm.trans (h.last j on' hj)
      obtain hq' | ⟨hq', -⟩ := h.waiting k on' hj
      · obtain rfl : on = on' := Command.queued.inj (hq.symm.trans hq')
        exact .inr ⟨.inl ⟨on, Function.update_self ..⟩, rfl⟩
      · rw [hq] at hq'
        simp at hq'
    · show Function.update s.command k (.sending on) s.requests.last ≠ _
      rw [hlast, Function.update_self]
      nofun
    · have hlnb : s.lnb = false := hoff.resolve_right (by simp [hopen])
      have hon : on ≠ true := by
        rintro rfl
        exact h.unmarked hlnb (hlast ▸ hq)
      rw [sent_cons, show on = false from Bool.eq_false_iff.2 hon]
      exact offAtEnd_cons
  | skip hq hl hskip =>
    refine inv_end h rfl hq (fun on hc => ?_) nofun nofun
    refine hskip.elim (fun hclosed => ?_) fun hne => hne (h.last _ on hc)
    obtain hd | hd := h.closed.1 hclosed <;> rw [hc] at hd <;> cases hd
  | @answer k on r hq =>
    have hholder : s.holder = some (.command k) := (h.holder (.command k)).2 ⟨on, hq⟩
    have hcaller : s.caller ≠ .dropping := by
      intro hc
      have := (h.holder .drop).2 hc
      rw [hholder] at this
      cases this
    refine ⟨fun x => ?_, fun j hj => ?_, h.closed, h.marked, h.last, fun j on' hj => ?_,
      fun hl => ?_, h.settled⟩
    · refine iff_of_false (by simp) ?_
      cases x with
      | command j =>
        by_cases hj : j = k
        · subst hj
          simp [Sending]
        · rintro ⟨on', hs⟩
          rw [setCommand_command, Function.update_of_ne hj] at hs
          have := (h.holder (.command j)).2 ⟨on', hs⟩
          rw [hholder] at this
          exact hj (Sender.command.inj (Option.some.inj this)).symm
      | drop => exact hcaller
    · have hjk : j ≠ k := by
        rintro rfl
        rw [h.fresh j hj] at hq
        cases hq
      exact (Function.update_of_ne hjk _ _).trans (h.fresh j hj)
    · by_cases hjk : j = k
      · subst hjk
        obtain hq' | ⟨-, hhead⟩ := h.waiting j on' hj
        · rw [hq] at hq'
          cases hq'
        · exact .inr ⟨.inr ⟨_, Function.update_self ..⟩, hhead⟩
      · rw [setCommand_command, Function.update_of_ne hjk]
        exact h.waiting j on' hj
    · show Function.update s.command k (.done _) s.requests.last ≠ _
      by_cases hk : s.requests.last = k
      · rw [hk, Function.update_self]
        nofun
      · rw [Function.update_of_ne hk]
        exact h.unmarked hl
  | @resume k on r hc hd =>
    have hopen := open_of_caller h (by simp [hc]) (by simp [hc])
    refine inv_caller h rfl hopen nofun nofun nofun nofun fun hl => ?_
    have hlast := h.last k on hc
    split at hl
    · next hr =>
      obtain hq | ⟨-, hhead⟩ := h.waiting k on hc
      · rw [hd] at hq
        cases hq
      · rw [hlast, hd]
        exact ⟨nofun, fun _ => ⟨_, hl ▸ hhead⟩⟩
    · exact ⟨h.unmarked hl, h.settled (.inl hl)⟩
  | giveUp hc =>
    exact inv_caller h rfl (open_of_caller h (by simp [hc]) (by simp [hc])) nofun nofun nofun nofun
      fun hl => ⟨h.unmarked hl, h.settled (.inl hl)⟩
  | cancel hq hc => exact inv_end h rfl hq hc nofun nofun
  | drop hc hl =>
    refine ⟨fun x => ?_, h.fresh, by simp, nofun, nofun, nofun, h.unmarked, fun _ => ?_⟩
    · have hns := not_sending h hl x
      cases x with
      | command k => exact iff_of_false (by simp) hns
      | drop => exact iff_of_true rfl rfl
    · rw [sent_cons]
      by_cases hlnb : s.lnb = true
      · rw [sends, if_pos hlnb]
        exact offAtEnd_cons
      · rw [sends, if_neg hlnb]
        exact h.settled (.inl (Bool.eq_false_iff.2 hlnb))
  | dropped hc =>
    have hholder : s.holder = some .drop := (h.holder .drop).2 hc
    have hclosed : s.requests.closed = true := h.closed.2 (.inl hc)
    refine ⟨fun x => iff_of_false (by simp) ?_, h.fresh, by simp [hclosed], nofun, nofun, nofun,
      h.unmarked, fun _ => h.settled (.inr hclosed)⟩
    cases x with
    | command k =>
      intro hs
      have := (h.holder (.command k)).2 hs
      rw [hholder] at this
      cases this
    | drop => nofun

theorem inv_of_run (h : Lts.Run Step {} tr s) : Inv tr s := by
  induction h with
  | nil => exact inv_init
  | snoc _ hs ih => exact inv_step ih hs

/-! ## Runs -/

/-- A command is sent while none is, and only the last one asked for. -/
theorem sends_alone (h : Inv tr s) (hs : Step s a s') {c : Sender} {on : Bool}
    (hc : s.sends a = some (c, on)) :
    (∀ c', ¬ s.Sending c') ∧ ∀ request, c = .command request → s.requests.last = request := by
  cases hs with
  | send hq hl hopen hlast =>
    cases hc
    exact ⟨not_sending h hl, fun k hk => hlast.trans (Sender.command.inj hk)⟩
  | drop _ hl =>
    refine ⟨not_sending h hl, ?_⟩
    rintro k rfl
    rw [sends] at hc
    split at hc <;> cases hc
  | mark | ask | skip | answer | resume | giveUp | cancel | dropped => cases hc

theorem closed_step (hc : s.requests.closed = true) (hd : s.caller = .dropping ∨ s.caller = .gone)
    (hs : Step s a s') : s.sends a = none ∧ s'.requests.closed = true ∧
      (s'.caller = .dropping ∨ s'.caller = .gone) := by
  cases hs with
  | skip | answer | cancel => exact ⟨rfl, hc, hd⟩
  | dropped => exact ⟨rfl, hc, .inr rfl⟩
  | send _ _ hopen =>
    rw [hc] at hopen
    cases hopen
  | mark h | ask h | resume h | giveUp h | drop h => rw [h] at hd; simp at hd

theorem sent_of_closed (hc : s.requests.closed = true)
    (hd : s.caller = .dropping ∨ s.caller = .gone) (h : Lts.Run Step s tr s') : sent tr = [] := by
  have hkept : s'.requests.closed = true ∧ (s'.caller = .dropping ∨ s'.caller = .gone) ∧
      sent tr = [] := by
    induction h with
    | nil => exact ⟨hc, hd, rfl⟩
    | snoc _ hs ih =>
      obtain ⟨hnone, hc', hd'⟩ := closed_step ih.1 ih.2.1 hs
      exact ⟨hc', hd', (sent_cons_of_none hnone).trans ih.2.2⟩
  exact hkept.2.2

/-- **The LNB is off once the tuner is gone.** In every run commands are sent one at a time, and
only the last one asked for; a call that returns has had its own sent, as the last one; none is sent
after the drop; and what was turned on is turned off in the end. -/
theorem lnb_ends_off (h : Lts.Run Step {} tr s) :
    (∀ later t a earlier c on, tr = later ++ (t, a) :: earlier → t.sends a = some (c, on) →
      (∀ c', ¬ t.Sending c') ∧ ∀ request, c = .command request → t.requests.last = request) ∧
      (∀ later t r earlier request on, tr = later ++ (t, .resume r) :: earlier →
        t.caller = .waiting request on → (sent earlier).head? = some (.command request, on)) ∧
      (∀ later t earlier, tr = later ++ (t, .drop) :: earlier → sent later = []) ∧
      (s.caller = .gone → OffAtEnd (sent tr)) := by
  refine ⟨fun later t a earlier c on htr hc => ?_, fun later t r earlier request on htr hw => ?_,
    fun later t earlier htr => ?_, fun hg => ?_⟩
  · obtain ⟨t', hr, hs, -⟩ := Lts.Run.split (htr ▸ h)
    exact sends_alone (inv_of_run hr) hs hc
  · obtain ⟨t', hr, hs, -⟩ := Lts.Run.split (htr ▸ h)
    cases hs with
    | resume hc hd =>
      cases hc.symm.trans hw
      obtain hq | ⟨-, hhead⟩ := (inv_of_run hr).waiting _ _ hw
      · rw [hd] at hq
        cases hq
      · exact hhead
  · obtain ⟨t', -, hs, hl⟩ := Lts.Run.split (htr ▸ h)
    cases hs
    exact sent_of_closed rfl (.inl rfl) hl
  · have hi := inv_of_run h
    exact hi.settled (.inr (hi.closed.2 (.inr hg)))

/-- Turned on and the call given up on while the command is sent, then the tuner is dropped. -/
theorem lnb_ends_off_given_up : ∃ tr s, Lts.Run Step {} tr s ∧
    sent tr = [(.drop, false), (.command 1, true)] ∧ OffAtEnd (sent tr) := by
  have h₁ := (Lts.Run.nil (s := ({} : Lnb))).snoc (show Step _ (.mark true) _ from .mark rfl)
  have h₂ := h₁.snoc (show Step _ (.ask true) _ from .ask rfl rfl)
  have h₃ := h₂.snoc (show Step _ (.send 1 true) _ from .send rfl rfl rfl rfl)
  have h₄ := h₃.snoc (.giveUp rfl)
  have h₅ := h₄.snoc (show Step _ (.answer 1 (.ok ())) _ from .answer rfl)
  have h₆ := h₅.snoc (.drop rfl rfl)
  have h₇ := h₆.snoc (.dropped rfl)
  exact ⟨_, _, h₇, rfl, (lnb_ends_off h₇).2.2.2 rfl⟩

end Lnb

end Tunelith.Bda
