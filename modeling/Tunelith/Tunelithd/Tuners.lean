import Tunelith.Lib.Lease
import Tunelith.Tunelithd.Frame

/-!
# Every tuner is in one pair of hands

A busy tuner is held by one acquire between its `reserve` and its `publish` or `free`, or by one
session until its `end` has finished. `busy`, the holders and the open handles of the drivers are
an exclusive lease (`Lease.Exclusive`), the invariant `Leased` of every step.

* `exclusive_use` — in every reachable state, with what follows for `open_tuner`, `closing` and
  the acquires that fail.
-/

namespace Tunelith.Tunelithd

open Daemon Lts Proto

/-! ## Holders -/

/-- Who may hold a tuner. -/
inductive Holder
  | acquire (h : HandlerId)
  | session (s : SessionId)
deriving DecidableEq, Repr

/-- The tuner an acquire holds at a stage, and whether it has it open. -/
def Stage.holds : Stage → Option (TunerId × Bool)
  | .holding _ id _ phase => some (id, phase.isOpen)
  | _ => none

/-- The tuner a session holds, and whether it has it open. -/
def Session.holds (S : Session) : Option (TunerId × Bool) :=
  match S.fanOut with
  | .absent | .ended => .none
  | .closed => some (S.tunerId, false)
  | _ => some (S.tunerId, true)

def Daemon.holds (d : Daemon) : Holder → Option (TunerId × Bool)
  | .acquire h => (d.handler h).stage.holds
  | .session s => (d.session s).holds

/-- `x` holds the tuner: an acquire whose `reserve` returned true and which has neither pushed its
session nor removed the id, or a session whose `end` has not finished. -/
def Daemon.Has (d : Daemon) (id : TunerId) : Holder → Prop
  | .acquire h => ∃ job left phase, (d.handler h).stage = .holding job id left phase
  | .session s =>
    (d.session s).tunerId = id ∧ (d.session s).fanOut ≠ .absent ∧ (d.session s).fanOut ≠ .ended

/-- The session still has its tuner in `tuner`. -/
def FanOut.hasTuner : FanOut → Bool
  | .running | .checking | .left _ | .ending => true
  | _ => false

/-- The same, as far as the tuner goes. -/
def FanOut.Like (f g : FanOut) : Prop := f = g ∨ f.isLooping ∧ g.isLooping

theorem FanOut.Like.hasTuner {f g : FanOut} (h : f.Like g) : f.hasTuner = g.hasTuner := by
  rcases h with rfl | ⟨hf, hg⟩
  · rfl
  · cases f <;> cases g <;> simp_all [FanOut.isLooping, FanOut.hasTuner]

theorem FanOut.Like.isEnding {f g : FanOut} (h : f.Like g) : f.isEnding = g.isEnding := by
  rcases h with rfl | ⟨hf, hg⟩
  · rfl
  · cases f <;> cases g <;> simp_all [FanOut.isLooping, FanOut.isEnding]

theorem Session.holds_congr {S T : Session} (hi : S.tunerId = T.tunerId)
    (hf : S.fanOut.Like T.fanOut) : S.holds = T.holds := by
  unfold Session.holds
  rcases hf with hf | ⟨hS, hT⟩
  · rw [hf, hi]
  · cases hfS : S.fanOut <;> cases hfT : T.fanOut <;> simp_all [FanOut.isLooping]

theorem Stage.holds_eq_some {st : Stage} {id : TunerId} {b : Bool} (h : st.holds = some (id, b)) :
    ∃ job left phase, st = .holding job id left phase ∧ phase.isOpen = b := by
  cases st <;> simp only [Stage.holds, Option.some.injEq, Prod.mk.injEq, reduceCtorEq] at h
  obtain ⟨rfl, rfl⟩ := h
  exact ⟨_, _, _, rfl, rfl⟩

theorem Daemon.has_iff {d : Daemon} {id : TunerId} {x : Holder} :
    d.Has id x ↔ ∃ b, d.holds x = some (id, b) := by
  cases x with
  | acquire h =>
    constructor
    · rintro ⟨job, left, phase, hh⟩
      exact ⟨phase.isOpen, by simp [holds, hh, Stage.holds]⟩
    · rintro ⟨b, hb⟩
      obtain ⟨job, left, phase, hh, -⟩ := Stage.holds_eq_some hb
      exact ⟨job, left, phase, hh⟩
  | session s =>
    simp only [Has, holds, Session.holds]
    cases (d.session s).fanOut <;> simp

/-! ## The invariant -/

structure Leased (d : Daemon) : Prop where
  exclusive : Lease.Exclusive d.busy d.holds d.handles
  tuner : ∀ s, (d.session s).fanOut.hasTuner → (d.session s).tuner = some (d.session s).tunerId
  closing_iff : ∀ id, id ∈ d.closing ↔
    ∃ s, (d.session s).fanOut.isEnding ∧ (d.session s).tunerId = id

theorem leased_init (devices : List Device) : Leased (init devices) where
  exclusive := by
    have hnone : (init devices).holds = fun _ => none := by
      funext x
      cases x <;> rfl
    rw [hnone]
    exact .nothing
  tuner s h := by simp [init, Session.none, FanOut.hasTuner] at h
  closing_iff id := by simp [init, Session.none, FanOut.isEnding]

variable {d d' : Daemon}

/-- A step that moves no tuner keeps the invariant. -/
theorem Leased.alike (hL : Leased d) (hb : d'.busy = d.busy) (hc : d'.closing = d.closing)
    (hu : d'.handles = d.handles)
    (hh : ∀ h, (d'.handler h).stage.holds = (d.handler h).stage.holds)
    (hi : ∀ s, (d'.session s).tunerId = (d.session s).tunerId)
    (ht : ∀ s, (d'.session s).tuner = (d.session s).tuner)
    (hf : ∀ s, (d'.session s).fanOut.Like (d.session s).fanOut) : Leased d' := by
  have hholds : d'.holds = d.holds := by
    funext x
    cases x with
    | acquire h => exact hh h
    | session s => exact Session.holds_congr (hi s) (hf s)
  refine ⟨by rw [hb, hu, hholds]; exact hL.exclusive, fun s hs => ?_, fun id => ?_⟩
  · rw [ht, hi]
    exact hL.tuner s ((hf s).hasTuner ▸ hs)
  · rw [hc, hL.closing_iff]
    simp only [hi, (hf _).isEnding]

theorem Leased.frame (hL : Leased d) (f : Frame d d') : Leased d' :=
  hL.alike f.busy f.closing f.handles (fun h => by rw [f.handler]) f.tunerId f.tuner
    fun s => .inl (f.fanOut s)

theorem Leased.same (hL : Leased d) (hb : d'.busy = d.busy) (hc : d'.closing = d.closing)
    (hu : d'.handles = d.handles) (hh : d'.handler = d.handler)
    (hs : d'.session = d.session) : Leased d' :=
  hL.alike hb hc hu (fun h => by rw [hh]) (fun s => by rw [hs]) (fun s => by rw [hs])
    fun s => .inl (by rw [hs])

theorem holds_goto (d : Daemon) (h : HandlerId) (st : Stage) :
    (d.goto h st).holds = Function.update d.holds (.acquire h) st.holds := by
  funext x
  cases x with
  | acquire h' =>
    simp only [holds, stage_goto, Function.update_apply, Holder.acquire.injEq]
    split_ifs <;> rfl
  | session s => rfl

theorem holds_setSession (d : Daemon) (s : SessionId) (S : Session) :
    (d.setSession s S).holds = Function.update d.holds (.session s) S.holds := by
  funext x
  cases x with
  | acquire h => rfl
  | session r =>
    simp only [holds, setSession_session, Function.update_apply, Holder.session.injEq]
    split_ifs <;> rfl

/-- A handler that goes on with as much as it had. -/
theorem Leased.goto (hL : Leased d) {h : HandlerId} {st : Stage}
    (hst : st.holds = (d.handler h).stage.holds) : Leased (d.goto h st) := by
  refine hL.alike rfl rfl rfl (fun h' => ?_) (fun _ => rfl) (fun _ => rfl) (fun _ => .inl rfl)
  rw [stage_goto]
  split_ifs with e
  · rw [hst, e]
  · rfl

/-- A handler that goes on, the leases told apart. -/
theorem Leased.of_exclusive (hL : Leased d) (hE : Lease.Exclusive d'.busy d'.holds d'.handles)
    (hc : d'.closing = d.closing) (hs : d'.session = d.session) : Leased d' := by
  refine ⟨hE, ?_, ?_⟩
  · rw [hs]
    exact hL.tuner
  · rw [hc, hs]
    exact hL.closing_iff

/-! ## The steps that move a tuner -/

theorem Leased.reserve (hL : Leased d) {h : HandlerId} {job : Job} {id : TunerId} {wait : Bool}
    {left : List Attempt} (hst : (d.handler h).stage.holds = none) :
    Leased (d.reserve h job id wait left) := by
  unfold Daemon.reserve
  by_cases hc : id ∈ d.closing
  · rw [if_neg (not_not.2 hc)]
    split <;> exact hL.goto hst.symm
  · rw [if_pos hc]
    by_cases hb : id ∈ d.busy
    · rw [if_pos hb]
      exact hL.goto hst.symm
    · rw [if_neg hb]
      refine hL.of_exclusive ?_ rfl rfl
      rw [holds_goto]
      exact hL.exclusive.take (h := Holder.acquire h) hb hst

/-- The driver opens the tuner of an acquire, or closes it. -/
theorem Leased.setOpen (hL : Leased d) {h : HandlerId} {id : TunerId} {b : Bool} (b' : Bool)
    {st : Stage} (hh : (d.handler h).stage.holds = some (id, b)) (hst : st.holds = some (id, b')) :
    Leased ({ d with handles := Function.update d.handles id b'.toNat }.goto h st) := by
  refine hL.of_exclusive ?_ rfl rfl
  rw [holds_goto, hst]
  exact hL.exclusive.set (h := Holder.acquire h) hh b'

theorem Leased.free (hL : Leased d) {h : HandlerId} {id : TunerId} {st : Stage}
    (hh : (d.handler h).stage.holds = some (id, false)) (hst : st.holds = none) :
    Leased ({ d with busy := d.busy.erase id }.goto h st) := by
  refine hL.of_exclusive ?_ rfl rfl
  rw [holds_goto, hst]
  exact hL.exclusive.free (h := Holder.acquire h) hh

/-- `subscribe` moves no tuner, so what counts is that the acquire is through. -/
theorem Leased.subscribed {h : HandlerId} {s : SessionId} {draw : Option (Token × ChanId)}
    (hL : Leased (d.goto h .done)) : Leased (d.subscribed h s draw) := by
  have hst : ∀ (e : Daemon) (st : Stage), e.handler = d.handler → st.holds = none →
      ∀ h', ((e.goto h st).handler h').stage.holds = ((d.goto h .done).handler h').stage.holds := by
    intro e st he hn h'
    rw [stage_goto, stage_goto, he]
    split_ifs
    · exact hn
    · rfl
  refine hL.alike ?_ ?_ ?_ ?_ (fun r => d.tunerId_subscribed h s r draw)
    (fun r => d.tuner_subscribed h s r draw) fun r => .inl (d.fanOut_subscribed h s r draw)
  · cases draw <;> rfl
  · cases draw <;> rfl
  · cases draw <;> rfl
  · cases draw <;> exact hst _ _ rfl rfl

/-- `publish` hands the tuner from the acquire to its session. -/
theorem Leased.publish (hL : Leased d) {h : HandlerId} {s : SessionId} {id : TunerId}
    {S : Session} (hh : (d.handler h).stage.holds = some (id, true))
    (hs : (d.session s).fanOut = .absent) (hi : S.tunerId = id) (hf : S.fanOut = .running)
    (ht : S.tuner = some id) :
    Leased ((d.addSession s S).goto h .done) := by
  have hnone : d.holds (.session s) = none := by simp [holds, Session.holds, hs]
  refine ⟨?_, fun r hr => ?_, fun i => ?_⟩
  · have hE := hL.exclusive.pass (h := Holder.acquire h) hh hnone
    have hholds : ((d.addSession s S).goto h .done).holds =
        Function.update (Function.update d.holds (.acquire h) none) (.session s)
          (some (id, true)) := by
      rw [holds_goto, Function.update_comm (by simp)]
      refine congrArg (fun f => Function.update f _ _) ?_
      have := holds_setSession d s S
      rw [show S.holds = some (id, true) by simp [Session.holds, hf, hi]] at this
      exact this
    rw [hholds]
    exact hE
  · simp only [goto_session, addSession_session, Function.update_apply] at hr ⊢
    split_ifs at hr ⊢ with e
    · rw [ht, hi]
    · exact hL.tuner r hr
  · refine (hL.closing_iff i).trans (exists_congr fun r => ?_)
    simp only [goto_session, addSession_session, Function.update_apply]
    split_ifs with e
    · subst e
      simp [hs, hf, FanOut.isEnding]
    · rfl

/-- A session that stays before its `end`. -/
theorem Leased.setSession (hL : Leased d) {s : SessionId} {S : Session}
    (hi : S.tunerId = (d.session s).tunerId) (ht : S.tuner = (d.session s).tuner)
    (hf : S.fanOut.Like (d.session s).fanOut) : Leased (d.setSession s S) := by
  refine hL.alike rfl rfl rfl (fun _ => rfl) (fun r => ?_) (fun r => ?_) fun r => ?_ <;>
    simp only [setSession_session, Function.update_apply] <;> split_ifs with e
  · rw [hi, e]
  · rfl
  · rw [ht, e]
  · rfl
  · rw [e]
    exact hf
  · exact .inl rfl

theorem Leased.fanOutChunk (hL : Leased d) {s : SessionId} {order : List Token} {c : Chunk}
    (hs : (d.session s).fanOut = .running) : Leased (d.fanOutChunk s order c) := by
  have f := Frame.foldl (fun d t => d.frame_offer s c t) order d
  refine (hL.frame f).setSession rfl rfl (.inr ⟨?_, ?_⟩)
  · dsimp only
    split <;> rfl
  · rw [f.fanOut, hs]
    rfl

theorem Leased.closeIfIdle (hL : Leased d) {s : SessionId}
    (hs : (d.session s).fanOut = .checking) : Leased (d.closeIfIdle s) := by
  unfold Daemon.closeIfIdle
  split
  · refine (hL.frame (d.frame_unlist s)).setSession rfl rfl (.inr ⟨rfl, ?_⟩)
    simp [hs, FanOut.isLooping]
  · refine hL.setSession rfl rfl (.inr ⟨rfl, ?_⟩)
    simp [hs, FanOut.isLooping]

/-- The first critical section of `end` begins the closing of the tuner. -/
theorem Leased.endFirst (hL : Leased d) {s : SessionId} {walk order : List Token}
    {error : Option String} (hs : (d.session s).fanOut = .left error) :
    Leased (d.endFirst s walk order error) := by
  -- The folds in the middle move no tuner.
  have key : ∀ e : Daemon, Frame { d with closing := insert (d.session s).tunerId d.closing } e →
      Leased (e.setFanOut s .ending) := by
    intro e f
    have hfo : ∀ r, (e.session r).fanOut = (d.session r).fanOut := f.fanOut
    have hid : ∀ r, (e.session r).tunerId = (d.session r).tunerId := f.tunerId
    have hholds : (e.setFanOut s .ending).holds = d.holds := by
      funext x
      cases x with
      | acquire h => simp [setFanOut, holds, f.handler]
      | session r =>
        simp only [setFanOut, holds, setSession_session, Function.update_apply]
        split_ifs with e'
        · simp [Session.holds, e', hs, hid]
        · simp [Session.holds, hfo, hid]
    refine ⟨?_, fun r hr => ?_, fun id => ?_⟩
    · rw [hholds, show (e.setFanOut s .ending).busy = d.busy from f.busy,
        show (e.setFanOut s .ending).handles = d.handles from f.handles]
      exact hL.exclusive
    · have ht : ∀ r, (e.session r).tuner = (d.session r).tuner := f.tuner
      simp only [setFanOut, setSession_session, Function.update_apply] at hr ⊢
      split_ifs at hr ⊢ with e'
      · rw [ht, hid]
        exact hL.tuner s (by simp [hs, FanOut.hasTuner])
      · rw [ht, hid]
        exact hL.tuner r (hfo r ▸ hr)
    · have hcl : (e.setFanOut s .ending).closing = insert (d.session s).tunerId d.closing :=
        f.closing
      have hses : ∀ r, ((e.setFanOut s .ending).session r).tunerId = (d.session r).tunerId ∧
          ((e.setFanOut s .ending).session r).fanOut =
            if r = s then .ending else (d.session r).fanOut := by
        intro r
        simp only [setFanOut, setSession_session, Function.update_apply]
        split_ifs with e'
        · exact ⟨by rw [e']; exact hid s, rfl⟩
        · exact ⟨hid r, hfo r⟩
      simp only [hcl, hses, Finset.mem_insert, hL.closing_iff]
      constructor
      · rintro (rfl | ⟨r, hr, rfl⟩)
        · exact ⟨s, by simp [FanOut.isEnding], rfl⟩
        · refine ⟨r, ?_, rfl⟩
          split_ifs
          · rfl
          · exact hr
      · rintro ⟨r, hr, rfl⟩
        split_ifs at hr with e'
        · exact .inl (by rw [e'])
        · exact .inr ⟨r, hr, rfl⟩
  exact key _ (d.frame_endFirst s walk order error)

theorem Leased.takeTuner (hL : Leased d) {s : SessionId}
    (hs : (d.session s).fanOut = .ending) :
    Leased (d.setSession s { d.session s with tuner := none, fanOut := .closing }) := by
  refine ⟨?_, fun r hr => ?_, fun id => (hL.closing_iff id).trans (exists_congr fun r => ?_)⟩
  · rw [holds_setSession, Function.update_eq_self_iff.2]
    · exact hL.exclusive
    · simp [holds, Session.holds, hs]
  · simp only [setSession_session, Function.update_apply] at hr ⊢
    split_ifs at hr ⊢
    · simp [FanOut.hasTuner] at hr
    · exact hL.tuner r hr
  · simp only [setSession_session, Function.update_apply]
    split_ifs with e
    · simp [e, hs, FanOut.isEnding]
    · rfl

/-- The driver closed the tuner of a session. -/
theorem Leased.closed (hL : Leased d) {s : SessionId} (hs : (d.session s).fanOut = .closing) :
    Leased ({ d with
      handles := Function.update d.handles (d.session s).tunerId
        (d.handles (d.session s).tunerId - 1) }.setFanOut s .closed) := by
  have hh : d.holds (.session s) = some ((d.session s).tunerId, true) := by
    simp [holds, Session.holds, hs]
  refine ⟨?_, fun r hr => ?_, fun id => (hL.closing_iff id).trans (exists_congr fun r => ?_)⟩
  · have hE := hL.exclusive.set hh false
    rw [hL.exclusive.uses_of_holds hh, setFanOut, holds_setSession]
    exact hE
  · simp only [setFanOut, setSession_session, Function.update_apply] at hr ⊢
    split_ifs at hr ⊢
    · simp [FanOut.hasTuner] at hr
    · exact hL.tuner r hr
  · simp only [setFanOut, setSession_session, Function.update_apply]
    split_ifs with e
    · simp [e, hs, FanOut.isEnding]
    · rfl

theorem holds_wake (x : Handler) : x.wake.stage.holds = x.stage.holds := by
  unfold Handler.wake
  split
  · rename_i h
    rw [h]
    rfl
  · rfl

/-- The last critical section of `end` marks the tuner free. -/
theorem Leased.endLast (hL : Leased d) {s : SessionId} (hs : (d.session s).fanOut = .closed) :
    Leased (d.endLast s) := by
  have hh : d.holds (.session s) = some ((d.session s).tunerId, false) := by
    simp [holds, Session.holds, hs]
  have hholds : (d.endLast s).holds = Function.update d.holds (.session s) none := by
    funext x
    cases x with
    | acquire h => exact holds_wake _
    | session r =>
      simp only [holds, Daemon.endLast, setFanOut, setSession_session, Function.update_apply,
        Holder.session.injEq]
      split_ifs <;> rfl
  have hses : ∀ r, ((d.endLast s).session r).tunerId = (d.session r).tunerId ∧
      ((d.endLast s).session r).tuner = (d.session r).tuner ∧
      ((d.endLast s).session r).fanOut = if r = s then .ended else (d.session r).fanOut := by
    intro r
    simp only [Daemon.endLast, setFanOut, setSession_session, Function.update_apply]
    split_ifs with e
    · simp [e]
    · exact ⟨rfl, rfl, rfl⟩
  refine ⟨?_, fun r hr => ?_, fun id => ?_⟩
  · rw [hholds]
    exact hL.exclusive.free hh
  · rw [(hses r).1, (hses r).2.1]
    rw [(hses r).2.2] at hr
    split_ifs at hr
    · simp [FanOut.hasTuner] at hr
    · exact hL.tuner r hr
  · have hcl : (d.endLast s).closing = d.closing.erase (d.session s).tunerId := rfl
    simp only [hcl, hses, Finset.mem_erase, hL.closing_iff]
    constructor
    · rintro ⟨hne, r, hr, rfl⟩
      refine ⟨r, ?_, rfl⟩
      rw [if_neg, hr]
      rintro rfl
      exact hne rfl
    · rintro ⟨r, hr, rfl⟩
      split_ifs at hr with e
      · simp [FanOut.isEnding] at hr
      · refine ⟨fun heq => e ?_, r, hr, rfl⟩
        -- Two sessions between the sections of `end` cannot be of one tuner.
        have hr' : ∃ b, d.holds (.session r) = some ((d.session r).tunerId, b) := by
          unfold holds Session.holds
          cases hfo : (d.session r).fanOut <;> simp_all [FanOut.isEnding]
        obtain ⟨b, hb⟩ := hr'
        exact Holder.session.inj (hL.exclusive.unique (heq ▸ hb) hh)

/-! ## Every step -/

theorem holds_handle (b : Option Body) : (handle b).holds = none := by
  unfold handle
  split <;> rfl

theorem holds_search (request : AcquireRequest) (params : TuneParams) :
    (d.search request params).holds = none := by
  unfold Daemon.search
  split <;> rfl

theorem leased_step {a : Act} (hL : Leased d) (h : Step d a d') : Leased d' := by
  cases h with
  | accept hc => exact hL.frame (d.frame_setConn _ _)
  | @request c h e hc hh =>
    refine hL.alike rfl rfl rfl (fun h' => ?_) (fun _ => rfl) (fun _ => rfl) fun _ => .inl rfl
    simp only [Function.update_apply]
    split_ifs with e'
    · rw [e', hh, holds_handle]
      rfl
    · rfl
  | hangUp hc => exact hL.frame (d.frame_setConn _ _)
  | cleanUp ht => exact hL.frame ((d.frame_release _).trans (frame_setConn _ _ _))
  | write he => exact hL.frame (d.frame_setConn _ _)
  | misasked hh hp => exact hL.goto (by rw [hh]; rfl)
  | join hh hp hs hd => exact (hL.goto (by rw [hh]; rfl)).subscribed
  | search hh hp hs => exact hL.goto (by rw [hh, holds_search]; rfl)
  | reserve hh => exact hL.reserve (by rw [hh]; rfl)
  | retry hh => exact hL.reserve (by rw [hh]; rfl)
  | timeOut hh => exact hL.goto (by rw [hh]; rfl)
  | giveUp hh => exact hL.goto (by rw [hh]; rfl)
  | openTuner hh => exact hL.goto (by rw [hh]; rfl)
  | @opened h job id left hh =>
    have hold : d.holds (.acquire h) = some (id, false) := by rw [holds, hh]; rfl
    rw [hL.exclusive.uses_of_holds hold]
    exact hL.setOpen true hold (by split <;> rfl)
  | notOpened hh => exact hL.goto (by rw [hh]; rfl)
  | lnbSet hh => exact hL.goto (by rw [hh]; split <;> rfl)
  | tuned hh => exact hL.goto (by rw [hh]; split <;> rfl)
  | streamed hh => exact hL.goto (by rw [hh]; split <;> rfl)
  | @tunerClosed h job id left e hh =>
    have hold : d.holds (.acquire h) = some (id, true) := by rw [holds, hh]; rfl
    rw [hL.exclusive.uses_of_holds hold]
    exact hL.setOpen false hold rfl
  | free hh => exact hL.free (by rw [hh]; rfl) (by split <;> rfl)
  | publish hh hs hd => exact (hL.publish (by rw [hh]; rfl) hs rfl rfl rfl).subscribed
  | own hh hc =>
    exact (hL.frame (d.frame_setConn _ _)).goto (by
      rw [setConn_handler, hh]
      split <;> rfl)
  | disused hh hc => exact hL.goto (by rw [hh]; rfl)
  | forsake hh =>
    exact (hL.frame (d.frame_release _)).goto (by rw [(d.frame_release _).handler, hh]; rfl)
  | disown hh =>
    exact (hL.frame (d.frame_setConn _ _)).goto (by rw [setConn_handler, hh]; rfl)
  | release hh =>
    exact (hL.frame (d.frame_release _)).goto (by rw [(d.frame_release _).handler, hh]; rfl)
  | find hh => exact hL.goto (by rw [hh]; split <;> rfl)
  | @lock h t s hh hl ht =>
    have hS := hL.setSession (s := s) (S := { d.session s with tunerLock := some h }) rfl rfl
      (.inl rfl)
    exact hS.goto (by rw [setSession_handler, hh]; rfl)
  | noTuner hh hl ht => exact hL.goto (by rw [hh]; rfl)
  | @measured h t s r hh =>
    have hS := hL.setSession (s := s) (S := { d.session s with tunerLock := none }) rfl rfl
      (.inl rfl)
    exact hS.goto (by
      rw [setSession_handler, hh]
      cases r <;> rfl)
  | list hh => exact hL.goto (by rw [hh]; rfl)
  | respond hh =>
    exact (hL.frame (d.frame_setConn _ _)).goto (by
      rw [(d.frame_setConn _ _).handler, hh]
      rfl)
  | attach hx ht => exact hL.same rfl rfl rfl rfl rfl
  | unknownStream hx ht => exact hL.same rfl rfl rfl rfl rfl
  | greeted hx => exact hL.same rfl rfl rfl rfl rfl
  | recv hx hc => exact hL.same rfl rfl rfl rfl rfl
  | dataEnd hx hq hk => exact hL.same rfl rfl rfl rfl rfl
  | dataFail hx => exact hL.same rfl rfl rfl rfl rfl
  | @detach x t k hx =>
    have hR := hL.frame (d.frame_release t)
    split <;> exact hR.same rfl rfl rfl rfl rfl
  | chunk hs hn ho => exact hL.fanOutChunk hs
  | closeIfIdle hs => exact hL.closeIfIdle hs
  | sourceEnd hs => exact hL.setSession rfl rfl (.inr ⟨rfl, by rw [hs]; rfl⟩)
  | stopped hs hp => exact hL.setSession rfl rfl (.inr ⟨rfl, by rw [hs]; rfl⟩)
  | endFirst hs hw hn ho => exact hL.endFirst hs
  | takeTuner hs hl ht => exact hL.takeTuner hs
  | @noTunerLeft s hs hl ht =>
    have := hL.tuner s (by rw [hs]; rfl)
    rw [ht] at this
    cases this
  | closed hs => exact hL.closed hs
  | endLast hs => exact hL.endLast hs

theorem leased_reachable {devices : List Device} (h : Reachable Step (init devices) d) :
    Leased d :=
  h.invariant (leased_init devices) fun _ _ _ _ hL hs => leased_step hL hs

/-! ## Consequences -/

/-- `open_tuner` is called with no handle of the tuner open. -/
theorem Leased.closed_of_openTuner (hL : Leased d) {h : HandlerId} {id : TunerId}
    (hs : Step d (.openTuner h) d') (hid : d.Has id (.acquire h)) : d.handles id = 0 := by
  cases hs with
  | openTuner hh =>
    obtain ⟨job, left, phase, hh'⟩ := hid
    cases hh.symm.trans hh'
    exact hL.exclusive.uses_of_holds (h := Holder.acquire h) (by rw [holds, hh]; rfl)

/-- An acquire that lets go of a tuner has either made a session of it and returns a stream, or
has closed it and marked it free. -/
theorem Leased.given_back (hL : Leased d) {a : Act} {h : HandlerId} {id : TunerId}
    (hs : Step d a d') (hdrew : a.Drew) (hid : d.Has id (.acquire h))
    (hno : ¬ d'.Has id (.acquire h)) :
    (∃ s r, d'.Has id (.session s) ∧ (d'.handler h).stage = .owning r) ∨
      id ∉ d'.busy ∧ d'.handles id = 0 := by
  obtain ⟨job, left, phase, hst⟩ := hid
  by_cases ha : a.handler = some h
  · cases hs <;> simp only [Act.handler, Option.some.injEq, reduceCtorEq] at ha
    all_goals subst ha
    case publish h job' id' left' format s draw hh hs hd =>
      cases hh.symm.trans hst
      have hfo : (((d.addSession s (newSession job id format)).subscribed h s draw).session
          s).fanOut = .running := by
        rw [fanOut_subscribed, addSession_session, Function.update_self]
        rfl
      obtain ⟨p, rfl⟩ := Option.ne_none_iff_exists'.1 hdrew
      refine .inl ⟨s, _, ⟨?_, by simp [hfo], by simp [hfo]⟩, (stage_goto ..).trans (if_pos rfl)⟩
      rw [tunerId_subscribed, addSession_session, Function.update_self]
      rfl
    case free h job' id' left' e hh =>
      cases hh.symm.trans hst
      refine .inr ⟨Finset.notMem_erase _ _, ?_⟩
      exact hL.exclusive.uses_of_holds (h := Holder.acquire h) (b := false)
        (by rw [holds, hh]; rfl)
    -- The others keep the tuner, or were never at this stage.
    all_goals first
      | rename_i hh
        cases hh.symm.trans hst
        exact absurd ⟨_, _, _, by rw [stage_goto, if_pos rfl]⟩ hno
      | simp_all only [reduceCtorEq]
  · exfalso
    apply hno
    rcases stage_of_other hs ha with hsame | hwake
    · exact ⟨job, left, phase, hsame.trans hst⟩
    · refine ⟨job, left, phase, ?_⟩
      simp only [hwake, Handler.wake, hst]

theorem Leased.closing_subset (hL : Leased d) : d.closing ⊆ d.busy := by
  intro id hid
  obtain ⟨s, hs, rfl⟩ := (hL.closing_iff id).1 hid
  have hhas : d.Has (d.session s).tunerId (.session s) := by
    refine ⟨rfl, ?_, ?_⟩ <;> rintro hf <;> rw [hf] at hs <;> cases hs
  obtain ⟨b, hb⟩ := has_iff.1 hhas
  exact hL.exclusive.busy_of_holds hb

/-- **Every tuner is in one pair of hands.** A tuner is busy exactly if one acquire or one session
has it; those being closed are among them; none is opened while it is open; and an acquire that
lets go of a tuner without a stream to show for it leaves it closed and free. -/
theorem exclusive_use {devices : List Device} (hd : Reachable Step (init devices) d) :
    (∀ id, id ∈ d.busy ↔ ∃! x, d.Has id x) ∧
    (∀ id x y, d.Has id x → d.Has id y → x = y) ∧
    d.closing ⊆ d.busy ∧
    (∀ id h d', Step d (.openTuner h) d' → d.Has id (.acquire h) → d.handles id = 0) ∧
    (∀ id h a d', Step d a d' → a.Drew → d.Has id (.acquire h) → ¬ d'.Has id (.acquire h) →
      (∃ s r, d'.Has id (.session s) ∧ (d'.handler h).stage = .owning r) ∨
        id ∉ d'.busy ∧ d'.handles id = 0) := by
  have hL := leased_reachable hd
  refine ⟨fun id => ?_, fun id x y hx hy => ?_, hL.closing_subset,
    fun id h d' hs hid => hL.closed_of_openTuner hs hid,
    fun id h a d' hs hdrew hid hno => hL.given_back hs hdrew hid hno⟩
  · simp only [has_iff]
    exact hL.exclusive.busy_iff id
  · obtain ⟨b, hb⟩ := has_iff.1 hx
    obtain ⟨c, hc⟩ := has_iff.1 hy
    exact hL.exclusive.unique hb hc

/-! ## A run -/

def oneTuner : List Device := [⟨"0", "mock", [⟨"0#0", [.isdbT]⟩]⟩]

def askT : AcquireRequest where
  params := some ⟨.known .isdbT, 521143, none, .known .unspecified⟩
  tuner := ""
  lnb := false

/-- A client has connected as `0`, and its acquire has got the stream `7` of the only tuner. -/
def granted : Daemon :=
  let d := (init oneTuner).setConn 0 { accepted := true, owned := some ∅ }
  let d := { d with handler := Function.update d.handler 0 ⟨0, 1, .looking askT⟩ }
  let job : Job := ⟨askT, ⟨.isdbT, 521143, none, none⟩⟩
  let left : List Attempt := [⟨"0#0", true⟩]
  let d := (d.goto 0 (.trying job (⟨"0#0", false⟩ :: left))).reserve 0 job "0#0" false left
  let d := d.goto 0 (.holding job "0#0" left .opening)
  let d := { d with handles := Function.update d.handles "0#0" 1 }
  let d := d.goto 0 (.holding job "0#0" left .tuning)
  let d := d.goto 0 (.holding job "0#0" left .streaming)
  let d := d.goto 0 (.holding job "0#0" left (.started .ts))
  (d.addSession 0 (newSession job "0#0" .ts)).subscribed 0 0 (some (7, 0))

theorem reachable_granted :
    Reachable (Restrict Step fun d a => Fresh d a ∧ a.Drew) (init oneTuner) granted := by
  have hno : ∀ {d : Daemon} {a : Act} {d' : Daemon}, Step d a d' → a.draws = none → a.Drew →
      Restrict Step (fun d a => Fresh d a ∧ a.Drew) d a d' :=
    fun hs hn hd => ⟨hs, .of_draws_none hn, hd⟩
  have hrun := (((((((Reachable.refl (init oneTuner)).snoc
    (hno (.accept (c := 0) rfl) rfl trivial)).snoc
    (hno (.request (c := 0) (h := 0) (e := ⟨1, some (.acquireRequest askT)⟩) (by decide) rfl)
      rfl trivial)).snoc
    (hno (.search (h := 0) rfl rfl rfl) rfl trivial)).snoc
    (hno (.reserve (h := 0) rfl) rfl trivial)).snoc
    (hno (.openTuner (h := 0) rfl) rfl trivial)).snoc
    (hno (.opened (h := 0) rfl) rfl trivial)).snoc
    (hno (.tuned (h := 0) (r := .ok ()) rfl) rfl trivial)
  have hstart := hrun.snoc (hno (.streamed (h := 0) (r := .ok .ts) rfl) rfl trivial)
  refine hstart.snoc ⟨(.publish rfl rfl ?_ : Step _ (.publish 0 0 (some (7, 0))) _), ?_, ?_⟩
  · rintro t k ⟨⟩
    exact ⟨by decide, rfl, rfl⟩
  · rintro t ⟨⟩
    rfl
  · exact Option.some_ne_none _

theorem exclusive_use_granted :
    "0#0" ∈ granted.busy ∧ ∃! x, granted.Has "0#0" x :=
  have h := (exclusive_use reachable_granted.of_restrict).1 "0#0"
  ⟨by decide, h.1 (by decide)⟩

end Tunelith.Tunelithd
