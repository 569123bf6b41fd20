import Tunelith.Tunelithd.Frame

/-!
# What a step does to the streams

Most steps leave alone who takes which stream and what was sent to whom: they are `Calm`. Every
step is one operation on the streams, a `Shift`, and something calm after it, so what the
operations and calm keep, every step keeps.

* `step_shift` — every step is a shift and a calm rest.
-/

namespace Tunelith.Tunelithd

open Daemon Proto

/-- From `d` to `d'` no stream moves: at most a receiver is taken, a tuner is closed, a chunk is
read, or an answer is sent. -/
structure Calm (d d' : Daemon) : Prop where
  tokens : d'.tokens = d.tokens
  sessions : d'.sessions = d.sessions
  unattached : ∀ t, d'.unattached t = d.unattached t ∨ d'.unattached t = none
  drawn : d'.drawn = d.drawn
  tunerId : ∀ s, (d'.session s).tunerId = (d.session s).tunerId
  subscribers : ∀ s, (d'.session s).subscribers = (d.session s).subscribers
  stop : ∀ s, (d'.session s).stop = (d.session s).stop
  chunks : ∀ s, (d'.session s).chunks = (d.session s).chunks
  fanOut : ∀ s, (d'.session s).fanOut = (d.session s).fanOut ∨
    (d.session s).fanOut.isEnding ∧
      ((d'.session s).fanOut.isEnding ∨ (d'.session s).fanOut = .ended)
  made : ∀ k, (d'.chan k).made = (d.chan k).made
  sent : ∀ k, (d'.chan k).queue.sent = (d.chan k).queue.sent
  events : ∀ c, ∃ l, (d'.conn c).events.sent = (d.conn c).events.sent ++ l ∧
    ∀ e ∈ l, ∃ h body, (d.handler h).stage = .responding body ∧
      e = envelope (d.handler h).id body

/-- What an action does to the streams. -/
inductive Shift (d : Daemon) (a : Act) : Daemon → Prop
  | calm (ha : d.released a = none) : Shift d a d
  | release {t : Token} (ha : d.released a = some t) : Shift d a (d.release t)
  | join {h : HandlerId} {s : SessionId} {c : ConnId} {t : Token} {k : ChanId}
      (ha : a = .join h s (some (t, k))) (hs : s ∈ d.sessions) (hd : d.MayDraw t k) :
      Shift d a (d.subscribe s c t k)
  | publish {h : HandlerId} {s : SessionId} {c : ConnId} {t : Token} {k : ChanId} {job : Job}
      {id : TunerId} {format : StreamFormat} (ha : a = .publish h s (some (t, k)))
      (hs : (d.session s).fanOut = .absent) (hd : d.MayDraw t k) :
      Shift d a ((d.addSession s (newSession job id format)).subscribe s c t k)
  | unsubscribed {h : HandlerId} {s : SessionId} {job : Job} {id : TunerId}
      {format : StreamFormat} (ha : a = .publish h s none)
      (hs : (d.session s).fanOut = .absent) :
      Shift d a (d.addSession s (newSession job id format))
  | chunk {s : SessionId} {order : List Token} {c : Chunk} (ha : a = .chunk s order c)
      (hs : (d.session s).fanOut = .running) (hn : order.Nodup)
      (ho : order.toFinset = (d.session s).subscribers.keys) :
      Shift d a (d.fanOutChunk s order c)
  | closeIfIdle {s : SessionId} (ha : a = .closeIfIdle s)
      (hs : (d.session s).fanOut = .checking) : Shift d a (d.closeIfIdle s)
  | leave {s : SessionId} {b : Bool} {error : Option String} (ha : d.released a = none)
      (hs : (d.session s).fanOut = .running) (hb : b = true → (d.session s).stop = true) :
      Shift d a (d.setSession s { d.session s with stop := b, fanOut := .left error })
  | endFirst {s : SessionId} {walk order : List Token} {error : Option String}
      (ha : a = .endFirst s walk order) (hs : (d.session s).fanOut = .left error)
      (hw : ∀ t, d.tokens t = some s → t ∈ walk) (hn : order.Nodup)
      (ho : order.toFinset = (d.session s).subscribers.keys) :
      Shift d a (d.endFirst s walk order error)

/-! ## Calm steps -/

namespace Calm

theorem refl (d : Daemon) : Calm d d where
  tokens := rfl
  sessions := rfl
  unattached _ := .inl rfl
  drawn := rfl
  tunerId _ := rfl
  subscribers _ := rfl
  stop _ := rfl
  chunks _ := rfl
  fanOut _ := .inl rfl
  made _ := rfl
  sent _ := rfl
  events _ := ⟨[], (List.append_nil _).symm, fun _ he => absurd he List.not_mem_nil⟩

variable (d : Daemon)

theorem goto (h : HandlerId) (st : Stage) : Calm d (d.goto h st) := { refl d with }

theorem setData (x : DataId) (X : DataTask) : Calm d (d.setData x X) := { refl d with }

/-- A connection that is sent nothing. -/
theorem setConn {c : ConnId} {C : Conn} (hC : C.events.sent = (d.conn c).events.sent) :
    Calm d (d.setConn c C) := by
  refine { refl d with events := fun c' => ⟨[], ?_, fun _ he => absurd he List.not_mem_nil⟩ }
  rw [List.append_nil, setConn_conn, Function.update_apply]
  split_ifs with e
  · rw [e, hC]
  · rfl

/-- A channel that is sent nothing. -/
theorem setChan {k : ChanId} {K : Chan} (hm : K.made = (d.chan k).made)
    (hK : K.queue.sent = (d.chan k).queue.sent) : Calm d (d.setChan k K) := by
  refine { refl d with made := fun k' => ?_, sent := fun k' => ?_ } <;>
    rw [setChan_chan, Function.update_apply] <;> split_ifs with e
  · rw [e, hm]
  · rfl
  · rw [e, hK]
  · rfl

/-- A session that goes on with its subscribers. -/
theorem setSession {s : SessionId} {S : Session}
    (hS : { S with tuner := none, tunerLock := none, fanOut := .absent } =
      { d.session s with tuner := none, tunerLock := none, fanOut := .absent })
    (hf : S.fanOut = (d.session s).fanOut ∨
      (d.session s).fanOut.isEnding ∧ (S.fanOut.isEnding ∨ S.fanOut = .ended)) :
    Calm d (d.setSession s S) := by
  have hi : S.tunerId = (d.session s).tunerId := congrArg (·.tunerId) hS
  have hm : S.subscribers = (d.session s).subscribers := congrArg (·.subscribers) hS
  have hp : S.stop = (d.session s).stop := congrArg (·.stop) hS
  have hc : S.chunks = (d.session s).chunks := congrArg (·.chunks) hS
  refine { refl d with
    tunerId := fun r => ?_, subscribers := fun r => ?_, stop := fun r => ?_,
    chunks := fun r => ?_, fanOut := fun r => ?_ } <;>
    rw [setSession_session, Function.update_apply] <;> split_ifs with e
  · rw [e, hi]
  · rfl
  · rw [e, hm]
  · rfl
  · rw [e, hp]
  · rfl
  · rw [e, hc]
  · rfl
  · rw [e]
    exact hf
  · exact .inl rfl

/-- The answer of a handler. -/
theorem respond {h : HandlerId} {body : Body} (hh : (d.handler h).stage = .responding body) :
    Calm d ((d.send (d.handler h).conn (envelope (d.handler h).id body)).goto h .done) := by
  refine { refl d with events := fun c => ?_ }
  by_cases hc : c = (d.handler h).conn
  · subst hc
    refine ⟨[envelope (d.handler h).id body], ?_, fun e he => ⟨h, body, hh, ?_⟩⟩
    · simp [send]
    · rwa [List.mem_singleton] at he
  · exact ⟨[], by simp [send, hc], fun _ he => absurd he List.not_mem_nil⟩

theorem endLast {s : SessionId} (hs : (d.session s).fanOut = .closed) :
    Calm d (d.endLast s) := by
  have h := setSession d (s := s) (S := { d.session s with fanOut := .ended }) rfl
    (.inr ⟨by rw [hs]; rfl, .inr rfl⟩)
  exact { h with }

end Calm

/-! ## Every step -/

theorem step_shift {d d' : Daemon} {a : Act} (h : Step d a d') : ∃ e, Shift d a e ∧ Calm e d' := by
  cases h with
  | accept hc => exact ⟨d, .calm rfl, .setConn d rfl⟩
  | request hc hh => exact ⟨d, .calm rfl, { Calm.refl d with }⟩
  | hangUp hc => exact ⟨d, .calm rfl, .setConn d rfl⟩
  | cleanUp ht => exact ⟨_, .release rfl, .setConn _ (by rw [conn_release])⟩
  | write he => exact ⟨d, .calm rfl, .setConn d (Fifo.sent_pop _)⟩
  | misasked hh hp => exact ⟨d, .calm rfl, .goto d _ _⟩
  | @join h request params s draw hh hp hs hd =>
    cases draw with
    | none => exact ⟨d, .calm rfl, .goto d _ _⟩
    | some p =>
      exact ⟨_, .join rfl (List.mem_of_find?_eq_some hs) (hd _ _ rfl), .goto _ _ _⟩
  | search hh hp hs => exact ⟨d, .calm rfl, .goto d _ _⟩
  | @reserve h job a left hh =>
    refine ⟨d, .calm rfl, ?_⟩
    unfold Daemon.reserve
    split
    · split <;> exact { Calm.refl d with }
    · split <;> exact .goto d _ _
  | retry hh =>
    refine ⟨d, .calm rfl, ?_⟩
    unfold Daemon.reserve
    split
    · split <;> exact { Calm.refl d with }
    · split <;> exact .goto d _ _
  | timeOut hh => exact ⟨d, .calm rfl, .goto d _ _⟩
  | giveUp hh => exact ⟨d, .calm rfl, .goto d _ _⟩
  | openTuner hh => exact ⟨d, .calm rfl, .goto d _ _⟩
  | opened hh => exact ⟨d, .calm rfl, { Calm.refl d with }⟩
  | notOpened hh => exact ⟨d, .calm rfl, .goto d _ _⟩
  | lnbSet hh => exact ⟨d, .calm rfl, .goto d _ _⟩
  | tuned hh => exact ⟨d, .calm rfl, .goto d _ _⟩
  | streamed hh => exact ⟨d, .calm rfl, .goto d _ _⟩
  | tunerClosed hh => exact ⟨d, .calm rfl, { Calm.refl d with }⟩
  | free hh => exact ⟨d, .calm rfl, { Calm.refl d with }⟩
  | @publish h job id left format s draw hh hs hd =>
    cases draw with
    | none => exact ⟨_, .unsubscribed rfl hs, .goto _ _ _⟩
    | some p => exact ⟨_, .publish rfl hs (hd _ _ rfl), .goto _ _ _⟩
  | @own h r ts hh hc =>
    have hC := Calm.setConn d (c := (d.handler h).conn)
      (C := { d.conn (d.handler h).conn with owned := some (insert r.streamToken ts) }) rfl
    exact ⟨d, .calm rfl, { hC with }⟩
  | disused hh hc => exact ⟨d, .calm rfl, .goto d _ _⟩
  | forsake hh => exact ⟨_, .release (by simp [released, hh]), .goto _ _ _⟩
  | @disown h t hh =>
    have hC := Calm.setConn d (c := (d.handler h).conn)
      (C := { d.conn (d.handler h).conn with
        owned := (d.conn (d.handler h).conn).owned.map (·.erase t) }) rfl
    exact ⟨d, .calm rfl, { hC with }⟩
  | release hh => exact ⟨_, .release (by simp [released, hh]), .goto _ _ _⟩
  | find hh => exact ⟨d, .calm rfl, .goto d _ _⟩
  | @lock h t s hh hl ht =>
    have hS := Calm.setSession d (s := s) (S := { d.session s with tunerLock := some h }) rfl
      (.inl rfl)
    exact ⟨d, .calm rfl, { hS with }⟩
  | noTuner hh hl ht => exact ⟨d, .calm rfl, .goto d _ _⟩
  | @measured h t s r hh =>
    have hS := Calm.setSession d (s := s) (S := { d.session s with tunerLock := none }) rfl
      (.inl rfl)
    exact ⟨d, .calm rfl, { hS with }⟩
  | list hh => exact ⟨d, .calm rfl, .goto d _ _⟩
  | respond hh => exact ⟨d, .calm rfl, .respond d hh⟩
  | @attach x t k hx ht =>
    refine ⟨d, .calm rfl, { Calm.refl d with unattached := fun u => ?_ }⟩
    by_cases hu : u = t
    · exact .inr (by simp [hu])
    · exact .inl (by simp [hu])
  | unknownStream hx ht => exact ⟨d, .calm rfl, .setData d _ _⟩
  | greeted hx => exact ⟨d, .calm rfl, .setData d _ _⟩
  | @recv x t k c hx hc =>
    have hK := Calm.setChan d (k := k) (K := { d.chan k with queue := (d.chan k).queue.pop }) rfl
      (Fifo.sent_pop _)
    exact ⟨d, .calm rfl, { hK with }⟩
  | @dataEnd x t k hx hq hk =>
    have hK := Calm.setChan d (k := k) (K := { d.chan k with rx := false }) rfl rfl
    exact ⟨d, .calm rfl, { hK with }⟩
  | @dataFail x t k hx =>
    have hK := Calm.setChan d (k := k) (K := { d.chan k with rx := false }) rfl rfl
    exact ⟨d, .calm rfl, { hK with }⟩
  | @detach x t k hx =>
    refine ⟨_, .release (t := t) (by simp [released, hx]), ?_⟩
    cases k with
    | none => exact .setData _ _ _
    | some k =>
      have hK := Calm.setChan (d.release t) (k := k)
        (K := { (d.release t).chan k with rx := false }) rfl rfl
      exact { hK with }
  | chunk hs hn ho => exact ⟨_, .chunk rfl hs hn ho, .refl _⟩
  | closeIfIdle hs => exact ⟨_, .closeIfIdle rfl hs, .refl _⟩
  | sourceEnd hs => exact ⟨_, .leave rfl hs id, .refl _⟩
  | stopped hs hp =>
    exact ⟨_, .leave rfl hs (b := false) (fun h => absurd h Bool.false_ne_true), .refl _⟩
  | endFirst hs hw hn ho => exact ⟨_, .endFirst rfl hs hw hn ho, .refl _⟩
  | takeTuner hs hl ht =>
    exact ⟨d, .calm rfl, .setSession d rfl (.inr ⟨by rw [hs]; rfl, .inl rfl⟩)⟩
  | noTunerLeft hs hl ht =>
    exact ⟨d, .calm rfl, .setSession d rfl (.inr ⟨by rw [hs]; rfl, .inl rfl⟩)⟩
  | @closed s hs =>
    have hS := Calm.setSession d (s := s) (S := { d.session s with fanOut := .closed }) rfl
      (.inr ⟨by rw [hs]; rfl, .inl rfl⟩)
    exact ⟨d, .calm rfl, { hS with }⟩
  | endLast hs => exact ⟨d, .calm rfl, .endLast d hs⟩

/-- The streams are one thing, the handlers another. -/
theorem handler_shift {d e : Daemon} {a : Act} (h : Shift d a e) : e.handler = d.handler := by
  cases h with
  | release ha => exact (d.frame_release _).handler
  | chunk ha hs hn ho => exact d.frame_fanOutChunk_handler _ _ _
  | closeIfIdle ha hs =>
    unfold Daemon.closeIfIdle
    split <;> rfl
  | endFirst ha hs hw hn ho => exact (d.frame_endFirst _ _ _ _).handler
  | _ => rfl

/-- A release of `t` is nothing else. -/
theorem step_released {d d' : Daemon} {a : Act} (h : Step d a d') {t : Token}
    (ha : d.released a = some t) : Calm (d.release t) d' := by
  obtain ⟨e, hshift, hcalm⟩ := step_shift h
  cases hshift with
  | release ha' =>
    cases ha.symm.trans ha'
    exact hcalm
  | calm ha' => cases ha.symm.trans ha'
  | leave ha' hs hb => cases ha.symm.trans ha'
  | endFirst ha' hs hw hn ho => subst ha'; cases ha
  | join ha' hs hd => subst ha'; cases ha
  | publish ha' hs hd => subst ha'; cases ha
  | unsubscribed ha' hs => subst ha'; cases ha
  | chunk ha' hs hn ho => subst ha'; cases ha
  | closeIfIdle ha' hs => subst ha'; cases ha

/-! ## Tokens -/

/-- A token in use was in use before and not released, or has just been drawn. -/
theorem token_of_step {d d' : Daemon} {a : Act} (h : Step d a d') {t : Token}
    (ht : d'.tokens t ≠ none) :
    d.tokens t ≠ none ∧ d.released a ≠ some t ∧ d'.drawn t = d.drawn t ∨
      a.draws = some t := by
  obtain ⟨e, hshift, hcalm⟩ := step_shift h
  rw [hcalm.tokens] at ht
  rw [hcalm.drawn]
  -- Whoever subscribes leaves the other tokens as they are.
  have hsub : ∀ {e : Daemon} {s c u k}, (e.subscribe s c u k).tokens t ≠ none → t ≠ u →
      e.tokens t ≠ none ∧ (e.subscribe s c u k).drawn t = e.drawn t := by
    intro e s c u k ht hne
    rw [tokens_subscribe, Function.update_of_ne hne] at ht
    exact ⟨ht, Function.update_of_ne hne _ _⟩
  cases hshift with
  | calm ha => exact .inl ⟨ht, by rw [ha]; exact nofun, rfl⟩
  | @release u ha =>
    rw [tokens_release, Function.update_apply] at ht
    split_ifs at ht with e
    · exact absurd rfl ht
    · refine .inl ⟨ht, ?_, congrFun (d.frame_release u).drawn t⟩
      rw [ha]
      exact fun heq => e (Option.some.inj heq).symm
  | @join h s c u k ha hs hd =>
    subst ha
    by_cases e : t = u
    · exact .inr (by rw [e]; rfl)
    · exact .inl ⟨(hsub ht e).1, nofun, (hsub ht e).2⟩
  | @publish h s c u k job id format ha hs hd =>
    subst ha
    by_cases e : t = u
    · exact .inr (by rw [e]; rfl)
    · exact .inl ⟨(hsub ht e).1, nofun, (hsub ht e).2⟩
  | unsubscribed ha hs =>
    subst ha
    exact .inl ⟨ht, nofun, rfl⟩
  | @chunk s order c ha hs hn ho =>
    subst ha
    obtain ⟨e, f, he⟩ := d.exists_fanOutChunk s order c
    rw [he] at ht ⊢
    exact .inl ⟨f.tokens ▸ ht, nofun, congrFun f.frame.drawn t⟩
  | @closeIfIdle s ha hs =>
    subst ha
    unfold Daemon.closeIfIdle at ht ⊢
    split at ht <;> split <;> exact .inl ⟨ht, nofun, rfl⟩
  | leave ha hs hb => exact .inl ⟨ht, by rw [ha]; exact nofun, rfl⟩
  | @endFirst s walk order error ha hs hw hn ho =>
    subst ha
    have hE := d.ended_endFirst walk error hw ho
    rw [hE.tokens] at ht
    split_ifs at ht
    · exact absurd rfl ht
    · exact .inl ⟨ht, nofun, by rw [hE.drawn]⟩

end Tunelith.Tunelithd
