import Tunelith.Tunelithd.Answers

/-!
# What is granted is what was asked

An acquire is granted a stream of a session. The session's parameters, tuner and format are set as
it is made and stay, so it is what the client asked for, whether it was made for this acquire or is
shared.

* `asked_reachable` — the invariant: what each handler has to do with the request it was given.
* `granted_as_asked` — every acquire that is answered with a stream asked for what the stream is of.
-/

namespace Tunelith.Tunelithd

open Daemon Lts Proto

variable {d d' : Daemon} {a : Act} {c : ConnId} {h : HandlerId} {b : Option Body}
  {request : AcquireRequest} {r : AcquireResponse}

/-- A tuner of the daemon receives the system. -/
def Daemon.Receives (d : Daemon) (id : TunerId) (system : System) : Prop :=
  ∃ device ∈ d.devices, ∃ info ∈ device.tuners, info.id = id ∧ system ∈ info.systems

/-- The acquire is right to take the tuner. -/
structure Daemon.Suits (d : Daemon) (job : Job) (id : TunerId) : Prop where
  wanted : wanted job.request id = true
  receives : d.Receives id job.params.system

/-- The session of the stream `r` hands out, which was drawn for `c`, is what `request` asks for;
and `r` says what it is. -/
structure Daemon.Meets (d : Daemon) (c : ConnId) (request : AcquireRequest) (r : AcquireResponse)
    (D : Draw) : Prop where
  drawn : d.drawn r.streamToken = some D
  conn : D.conn = c
  params : acquireParams request = .ok (d.session D.session).params
  wanted : wanted request (d.session D.session).tunerId = true
  receives : d.Receives (d.session D.session).tunerId (d.session D.session).params.system
  tuner : r.tuner = (d.session D.session).tunerId
  format : r.format = ofStreamFormat (d.session D.session).format

/-- What the handler of an envelope from `c` with the body `b` has to do with it. -/
def Daemon.Serves (d : Daemon) (c : ConnId) (b : Option Body) : Stage → Prop
  | .looking request => b = some (.acquireRequest request)
  | .trying job left => b = some (.acquireRequest job.request) ∧
    acquireParams job.request = .ok job.params ∧ ∀ a ∈ left, d.Suits job a.id
  | .waiting job id left _ | .holding job id left _ => b = some (.acquireRequest job.request) ∧
    acquireParams job.request = .ok job.params ∧ d.Suits job id ∧ ∀ a ∈ left, d.Suits job a.id
  | .owning r | .forsaking r | .responding (.acquireResponse r) =>
    ∃ request D, b = some (.acquireRequest request) ∧ d.Meets c request r D
  | _ => True

/-! ## What stays -/

/-- What a session is. -/
def Session.terms (S : Session) : TuneParams × TunerId × StreamFormat :=
  (S.params, S.tunerId, S.format)

/-- The session was made. -/
def Daemon.Made (d : Daemon) (s : SessionId) : Prop := (d.session s).fanOut ≠ .absent

/-- From `d` to `d'` no session made becomes another. -/
structure Keeps (d d' : Daemon) : Prop where
  devices : d'.devices = d.devices
  session : ∀ s, d.Made s → d'.Made s ∧ (d'.session s).terms = (d.session s).terms

namespace Keeps

theorem same (hd : d'.devices = d.devices) (hs : d'.session = d.session) : Keeps d d' :=
  ⟨hd, fun s hm => ⟨by rwa [Made, hs], by rw [hs]⟩⟩

theorem trans {d'' : Daemon} (h : Keeps d d') (h' : Keeps d' d'') : Keeps d d'' :=
  ⟨h'.devices.trans h.devices, fun s hm =>
    ⟨(h'.session s (h.session s hm).1).1,
      (h'.session s (h.session s hm).1).2.trans (h.session s hm).2⟩⟩

theorem frame (f : Frame d d') : Keeps d d' := by
  refine ⟨f.devices, fun s hm => ⟨?_, ?_⟩⟩
  · rwa [Made, f.fanOut]
  · have := congrArg Session.terms (f.session s)
    exact this

theorem update {s : SessionId} {S : Session} (hd : d'.devices = d.devices)
    (hs : d'.session = Function.update d.session s S) (hm : d.Made s → S.fanOut ≠ .absent)
    (hS : d.Made s → S.terms = (d.session s).terms) : Keeps d d' := by
  refine ⟨hd, fun r hr => ?_⟩
  rw [Made, hs, Function.update_apply]
  split_ifs with e
  · subst e
    exact ⟨hm hr, hS hr⟩
  · exact ⟨hr, rfl⟩

theorem subscribed (h : HandlerId) (s : SessionId) (draw : Option (Token × ChanId)) :
    Keeps d (d.subscribed h s draw) := by
  refine ⟨by cases draw <;> rfl, fun r hr => ⟨?_, ?_⟩⟩
  · rwa [Made, fanOut_subscribed]
  · have := congrArg Session.terms (d.session_subscribed h s r draw)
    exact this

end Keeps

theorem keeps_step (hs : Step d a d') : Keeps d d' := by
  have hR : ∀ t, Keeps d (d.release t) := fun t => .frame (d.frame_release t)
  cases hs
  case cleanUp => exact (hR _).trans (.same rfl rfl)
  case join => exact .subscribed _ _ _
  case reserve =>
    unfold Daemon.reserve
    split <;> split <;> exact .same rfl rfl
  case retry =>
    unfold Daemon.reserve
    split <;> split <;> exact .same rfl rfl
  case publish h job id left format s draw hh hs hd =>
    have hadd : Keeps d (d.addSession s (newSession job id format)) :=
      .update rfl rfl (fun hm => absurd hs hm) fun hm => absurd hs hm
    exact hadd.trans (.subscribed _ _ _)
  case forsake => exact (hR _).trans (.same rfl rfl)
  case release => exact (hR _).trans (.same rfl rfl)
  case lock => exact .update rfl rfl id fun _ => rfl
  case measured => exact .update rfl rfl id fun _ => rfl
  case detach x t k hx => cases k <;> exact (hR t).trans (.same rfl rfl)
  case chunk s order b hs hn ho =>
    obtain ⟨e, f, he⟩ := d.exists_fanOutChunk s order b
    rw [he]
    refine (Keeps.frame f.frame).trans (.update rfl rfl (fun _ => ?_) fun _ => rfl)
    dsimp only
    split <;> exact FanOut.noConfusion
  case closeIfIdle =>
    unfold Daemon.closeIfIdle
    split <;> exact .update rfl rfl (fun _ => FanOut.noConfusion) fun _ => rfl
  case sourceEnd => exact .update rfl rfl (fun _ => FanOut.noConfusion) fun _ => rfl
  case stopped => exact .update rfl rfl (fun _ => FanOut.noConfusion) fun _ => rfl
  case endFirst s walk order error hs hw hn ho =>
    have hclosing : Keeps d { d with closing := insert (d.session s).tunerId d.closing } :=
      .same rfl rfl
    refine (hclosing.trans (.frame (d.frame_endFirst s walk order error))).trans ?_
    exact .update rfl rfl (fun _ => FanOut.noConfusion) fun _ => rfl
  case takeTuner => exact .update rfl rfl (fun _ => FanOut.noConfusion) fun _ => rfl
  case noTunerLeft => exact .update rfl rfl (fun _ => FanOut.noConfusion) fun _ => rfl
  case closed => exact .update rfl rfl (fun _ => FanOut.noConfusion) fun _ => rfl
  case endLast => exact .update rfl rfl (fun _ => FanOut.noConfusion) fun _ => rfl
  all_goals exact .same rfl rfl

theorem Daemon.Receives.keeps {id : TunerId} {system : System} (hr : d.Receives id system)
    (hK : Keeps d d') : d'.Receives id system := by
  rwa [Receives, hK.devices]

theorem Daemon.Suits.keeps {job : Job} {id : TunerId} (hj : d.Suits job id) (hK : Keeps d d') :
    d'.Suits job id := ⟨hj.wanted, hj.receives.keeps hK⟩

theorem Daemon.Meets.step {D : Draw} (hM : d.Meets c request r D) (hm : d.Made D.session)
    (hs : Restrict Step Fresh d a d') : d'.Meets c request r D := by
  have hK := keeps_step hs.1
  have hterms := (hK.session D.session hm).2
  have hp : (d'.session D.session).params = (d.session D.session).params :=
    congrArg Prod.fst hterms
  have hi : (d'.session D.session).tunerId = (d.session D.session).tunerId :=
    congrArg (·.2.1) hterms
  have hf : (d'.session D.session).format = (d.session D.session).format :=
    congrArg (·.2.2) hterms
  refine ⟨drawn_step hs hM.drawn, hM.conn, ?_, ?_, ?_, ?_, ?_⟩
  · rw [hp, hM.params]
  · rw [hi, hM.wanted]
  · rw [hi, hp]
    exact hM.receives.keeps hK
  · rw [hi, hM.tuner]
  · rw [hf, hM.format]

/-- What a handler has done stays done. -/
theorem serves_keeps {st : Stage} (hmade : ∀ t D, d.drawn t = some D → d.Made D.session)
    (hs : Restrict Step Fresh d a d') (h : d.Serves c b st) : d'.Serves c b st := by
  have hK := keeps_step hs.1
  have hmeets : ∀ r, (∃ request D, b = some (.acquireRequest request) ∧ d.Meets c request r D) →
      ∃ request D, b = some (.acquireRequest request) ∧ d'.Meets c request r D := by
    intro r ⟨request, D, hb, hM⟩
    exact ⟨request, D, hb, hM.step (hmade _ _ hM.drawn) hs⟩
  cases st with
  | trying job left => exact ⟨h.1, h.2.1, fun a ha => (h.2.2 a ha).keeps hK⟩
  | waiting job id left woken =>
    exact ⟨h.1, h.2.1, h.2.2.1.keeps hK, fun a ha => (h.2.2.2 a ha).keeps hK⟩
  | holding job id left phase =>
    exact ⟨h.1, h.2.1, h.2.2.1.keeps hK, fun a ha => (h.2.2.2 a ha).keeps hK⟩
  | owning r => exact hmeets r h
  | forsaking r => exact hmeets r h
  | responding body =>
    cases body with
    | acquireResponse r => exact hmeets r h
    | _ => trivial
  | looking => exact h
  | _ => trivial

theorem serves_wake {x : Handler} (h : d.Serves c b x.stage) : d.Serves c b x.wake.stage := by
  unfold Handler.wake
  split
  · next hx =>
    rw [hx] at h
    exact h
  · exact h

/-- A session is made by the acquire that publishes it. -/
theorem made_step {s : SessionId} (hs : Step d a d') (hm : d'.Made s) :
    d.Made s ∨ ∃ h draw, a = .publish h s draw := by
  obtain ⟨e, hshift, hcalm⟩ := step_shift hs
  have hme : e.Made s := by
    rcases hcalm.fanOut s with he | ⟨he, -⟩
    · rwa [Made, ← he]
    · intro h
      rw [h] at he
      cases he
  -- But for the one published, the sessions are made that were.
  have hset : ∀ {s' S} {f : FanOut}, (d.session s').fanOut = f → f ≠ .absent →
      (Function.update d.session s' S s).fanOut ≠ .absent → d.Made s := by
    intro s' S f hf hne hm
    rw [Function.update_apply] at hm
    split at hm
    · next hss =>
      rw [Made, hss, hf]
      exact hne
    · exact hm
  cases hshift with
  | calm ha => exact .inl hme
  | release ha => exact .inl (by rwa [Made, (d.frame_release _).fanOut] at hme)
  | @join h s' c t k ha hs' hd =>
    refine .inl ?_
    rw [Made, session_subscribe, Function.update_apply] at hme
    split at hme
    · next hss =>
      rw [hss]
      exact hme
    · exact hme
  | @publish h s' c t k job id format ha hs' hd =>
    by_cases hss : s = s'
    · subst hss
      exact .inr ⟨h, _, ha⟩
    · refine .inl ?_
      rw [Made, session_subscribe, Function.update_of_ne hss] at hme
      rwa [addSession_session, Function.update_of_ne hss] at hme
  | @unsubscribed h s' job id format ha hs' =>
    by_cases hss : s = s'
    · subst hss
      exact .inr ⟨h, _, ha⟩
    · refine .inl ?_
      rwa [Made, addSession_session, Function.update_of_ne hss] at hme
  | @chunk s' order b ha hs' hn ho =>
    obtain ⟨e, f, he⟩ := d.exists_fanOutChunk s' order b
    rw [he, Made, setSession_session, Function.update_apply] at hme
    refine .inl ?_
    split at hme
    · next hss =>
      rw [hss, Made, hs']
      exact FanOut.noConfusion
    · rwa [f.frame.fanOut] at hme
  | @closeIfIdle s' ha hs' =>
    refine .inl ?_
    unfold Daemon.closeIfIdle at hme
    split at hme <;> exact hset hs' FanOut.noConfusion hme
  | leave ha hs' hb => exact .inl (hset hs' FanOut.noConfusion hme)
  | @endFirst s' walk order error ha hs' hw hn ho =>
    have hE := d.ended_endFirst walk error hw ho
    refine .inl ?_
    by_cases hss : s = s'
    · rw [hss, Made, hs']
      exact FanOut.noConfusion
    · rwa [Made, hE.session_of_ne s hss] at hme

/-- A token is drawn for a session that was made. -/
theorem made_of_drawn {t : Token} {D : Draw} (hs : Step d a d')
    (hlisted : ∀ s ∈ d.sessions, d.Made s) (hD : d'.drawn t = some D) :
    d.drawn t = some D ∨ d'.Made D.session := by
  rcases drawn_cases hs t with he | ⟨ha, -⟩
  · exact .inl (he ▸ hD)
  · have hsub : ∀ (e : Daemon) {h s p}, p.1 = t → e.Made s → (e.subscribed h s (some p)).drawn t =
        some D → (e.subscribed h s (some p)).Made D.session := by
      intro e h s p hp hm hD
      have hself : (e.subscribed h s (some p)).drawn t =
          some ⟨(e.handler h).conn, s, p.2, (e.session s).chunks.length⟩ := by
        rw [← hp]
        exact Function.update_self ..
      rw [hself] at hD
      cases hD
      rwa [Made, fanOut_subscribed]
    cases hs <;> simp only [Act.draws, reduceCtorEq, Option.map_eq_some_iff] at ha
    case join h request params s draw hh hp hs hd =>
      obtain ⟨p, rfl, hp⟩ := ha
      exact .inr (hsub d hp (hlisted s (List.mem_of_find?_eq_some hs)) hD)
    case publish h job id left format s draw hh hs hd =>
      obtain ⟨p, rfl, hp⟩ := ha
      refine .inr (hsub (d.addSession s (newSession job id format)) hp ?_ hD)
      rw [Made, addSession_session, Function.update_self]
      exact FanOut.noConfusion

/-! ## What each handler does -/

theorem serves_handle (b : Option Body) : d.Serves c b (handle b) := by
  unfold handle
  split <;> trivial

theorem serves_search {params : TuneParams} (hb : b = some (.acquireRequest request))
    (hp : acquireParams request = .ok params) : d.Serves c b (d.search request params) := by
  unfold Daemon.search
  split
  · trivial
  · next hc =>
    refine ⟨hb, hp, fun x hx => ?_⟩
    have hid : ∃ info ∈ d.candidates request params, info.id = x.id := by
      rcases List.mem_append.1 hx with hx | hx
      · obtain ⟨info, hi, rfl⟩ := List.mem_map.1 hx
        exact ⟨info, hi, rfl⟩
      · obtain ⟨info, hi, rfl⟩ := List.mem_map.1 hx
        exact ⟨info, hi, rfl⟩
    obtain ⟨info, hi, hx⟩ := hid
    simp only [candidates, List.mem_filter, List.mem_flatMap, Bool.and_eq_true,
      decide_eq_true_eq] at hi
    obtain ⟨⟨device, hd, hi⟩, hsys, hw⟩ := hi
    exact ⟨hx ▸ hw, device, hd, info, hi, hx, hsys⟩

theorem serves_reserve {job : Job} {id : TunerId} {wait : Bool} {left : List Attempt}
    (h : d.Serves c b (.waiting job id left false)) (h' : HandlerId) :
    d.Serves c b ((d.reserve h' job id wait left).handler h').stage := by
  obtain ⟨hb, hp, hid, hleft⟩ := h
  unfold Daemon.reserve
  split
  · split
    · rw [stage_goto, if_pos rfl]
      exact ⟨hb, hp, hleft⟩
    · rw [stage_goto, if_pos rfl]
      exact ⟨hb, hp, hid, hleft⟩
  · split
    · rw [stage_goto, if_pos rfl]
      exact ⟨hb, hp, hleft⟩
    · rw [stage_goto, if_pos rfl]
      exact ⟨hb, hp, hid, hleft⟩

theorem serves_ite {p : Prop} [Decidable p] {st st' : Stage} (h : d.Serves c b st)
    (h' : d.Serves c b st') : d.Serves c b (if p then st else st') := by
  split
  · exact h
  · exact h'

/-- A session is subscribed to that is what was asked for. -/
theorem serves_subscribed {s : SessionId} {draw : Option (Token × ChanId)}
    (hb : b = some (.acquireRequest request))
    (hp : acquireParams request = .ok (d.session s).params)
    (hw : wanted request (d.session s).tunerId = true)
    (hr : d.Receives (d.session s).tunerId (d.session s).params.system) :
    (d.subscribed h s draw).Serves (d.handler h).conn b
      ((d.subscribed h s draw).handler h).stage := by
  cases draw with
  | none =>
    rw [Daemon.subscribed, stage_goto, if_pos rfl]
    trivial
  | some p =>
    have hS := d.session_subscribed h s s (some p)
    have hp' : ((d.subscribed h s (some p)).session s).params = (d.session s).params :=
      congrArg (·.params) hS
    have hi' := d.tunerId_subscribed h s s (some p)
    have hf' : ((d.subscribed h s (some p)).session s).format = (d.session s).format :=
      congrArg (·.format) hS
    have hstage : ((d.subscribed h s (some p)).handler h).stage = .owning (d.acquired s p.1) := by
      rw [Daemon.subscribed, stage_goto, if_pos rfl]
    rw [hstage]
    refine ⟨request, ⟨(d.handler h).conn, s, p.2, (d.session s).chunks.length⟩, hb, ?_, rfl, ?_, ?_,
      ?_, ?_, ?_⟩
    · exact Function.update_self ..
    · rw [hp', hp]
    · rw [hi', hw]
    · rw [hi', hp']
      exact hr.keeps (Keeps.subscribed ..)
    · exact hi'.symm
    · exact congrArg ofStreamFormat hf'.symm

/-- The handler whose step it is has to do with its envelope after it what it had before. -/
theorem serves_own (hs : Restrict Step Fresh d a d') (ha : a.handler = some h)
    (hreq : ∀ c e, a ≠ .request c h e) (hmade : ∀ t D, d.drawn t = some D → d.Made D.session)
    (hlisted : ∀ s ∈ d.sessions, d.Made s)
    (hrec : ∀ s, d.Made s → d.Receives (d.session s).tunerId (d.session s).params.system)
    (hb : d.Serves (d.handler h).conn b (d.handler h).stage) :
    d'.Serves (d.handler h).conn b (d'.handler h).stage := by
  have hkeep : ∀ st, d.Serves (d.handler h).conn b st → d'.Serves (d.handler h).conn b st :=
    fun _ => serves_keeps hmade hs
  obtain ⟨hs, -⟩ := hs
  cases hs <;> simp only [Act.handler, Option.some.injEq, reduceCtorEq] at ha <;> subst ha
  case request c h' e hc hh => exact absurd rfl (hreq _ _)
  case join h request params s draw hh hp hs hd =>
    rw [hh] at hb
    have hfind := List.find?_some hs
    rw [Bool.and_eq_true, decide_eq_true_eq] at hfind
    have hm := hlisted s (List.mem_of_find?_eq_some hs)
    exact serves_subscribed hb (hfind.1 ▸ hp) hfind.2 (hrec s hm)
  case search h request params hh hp hs =>
    rw [stage_goto, if_pos rfl]
    rw [hh] at hb
    exact hkeep _ (serves_search hb hp)
  case reserve h job x left hh =>
    rw [hh] at hb
    refine hkeep _ (serves_reserve ⟨hb.1, hb.2.1, hb.2.2 x List.mem_cons_self, fun y hy => ?_⟩ h)
    exact hb.2.2 y (List.mem_cons_of_mem x hy)
  case retry h job id left hh =>
    rw [hh] at hb
    exact hkeep _ (serves_reserve hb h)
  case timeOut h job id left woken hh =>
    rw [stage_goto, if_pos rfl]
    rw [hh] at hb
    exact hkeep (.trying job left) ⟨hb.1, hb.2.1, hb.2.2.2⟩
  case free h job id left e hh =>
    rw [stage_goto, if_pos rfl]
    rw [hh] at hb
    exact serves_ite (hkeep (.trying job left) ⟨hb.1, hb.2.1, hb.2.2.2⟩) trivial
  case publish h job id left format s draw hh hs hd =>
    rw [hh] at hb
    obtain ⟨hb, hp, hid, -⟩ := hb
    have hS : (d.addSession s (newSession job id format)).session s = newSession job id format :=
      Function.update_self ..
    refine serves_subscribed (d := d.addSession s _) hb ?_ ?_ ?_
    · rw [hS]
      exact hp
    · rw [hS]
      exact hid.wanted
    · rw [hS]
      exact hid.receives
  case own h r ts hh hc =>
    rw [stage_goto, if_pos rfl]
    rw [hh] at hb
    exact serves_ite (hkeep (.owning r) hb) (hkeep (.owning r) hb)
  case disused h r hh hc =>
    rw [stage_goto, if_pos rfl]
    rw [hh] at hb
    exact hkeep (.owning r) hb
  case forsake h r hh =>
    rw [stage_goto, if_pos rfl]
    rw [hh] at hb
    exact hkeep (.owning r) hb
  case lnbSet hh =>
    rw [stage_goto, if_pos rfl]
    rw [hh] at hb
    exact hkeep (.holding _ _ _ _) hb
  case tuned hh =>
    rw [stage_goto, if_pos rfl]
    rw [hh] at hb
    exact hkeep (.holding _ _ _ _) hb
  case streamed hh =>
    rw [stage_goto, if_pos rfl]
    rw [hh] at hb
    exact hkeep (.holding _ _ _ _) hb
  case openTuner hh =>
    rw [stage_goto, if_pos rfl]
    rw [hh] at hb
    exact hkeep (.holding _ _ _ _) hb
  case opened hh =>
    rw [stage_goto, if_pos rfl]
    rw [hh] at hb
    exact hkeep (.holding _ _ _ _) hb
  case notOpened hh =>
    rw [stage_goto, if_pos rfl]
    rw [hh] at hb
    exact hkeep (.holding _ _ _ _) hb
  case tunerClosed hh =>
    rw [stage_goto, if_pos rfl]
    rw [hh] at hb
    exact hkeep (.holding _ _ _ _) hb
  case find hh =>
    rw [stage_goto, if_pos rfl]
    split <;> trivial
  case measured hh =>
    rw [stage_goto, if_pos rfl]
    split <;> trivial
  all_goals
    rw [stage_goto, if_pos rfl]
    trivial

/-! ## Whose envelope it is -/

theorem id_goto (d : Daemon) (h h' : HandlerId) (st : Stage) :
    ((d.goto h' st).handler h).id = (d.handler h).id := by
  rw [goto_handler, Function.update_apply]
  split_ifs with e
  · rw [e]
  · rfl

theorem id_reserve (d : Daemon) (h h' : HandlerId) (job : Job) (id : TunerId) (wait : Bool)
    (left : List Attempt) : ((d.reserve h' job id wait left).handler h).id = (d.handler h).id := by
  unfold Daemon.reserve
  split
  · split <;> exact id_goto ..
  · split <;> exact id_goto ..

theorem id_wake (x : Handler) : x.wake.id = x.id := by
  unfold Handler.wake
  split <;> rfl

/-- A handler is of one envelope throughout. -/
theorem id_step (hs : Step d a d') (ha : ∀ c e, a ≠ .request c h e) :
    (d'.handler h).id = (d.handler h).id := by
  have hR : ∀ (u : Token), ((d.release u).handler h).id = (d.handler h).id := fun u => by
    rw [(d.frame_release u).handler]
  cases hs
  case request c h' e hc hh =>
    have hne : h ≠ h' := by
      intro he
      subst he
      exact ha c e rfl
    exact congrArg Handler.id (Function.update_of_ne hne ..)
  case cleanUp => exact hR _
  case join h request params s draw hh hp hs hd => cases draw <;> exact id_goto ..
  case publish h job id left format s draw hh hs hd => cases draw <;> exact id_goto ..
  case reserve => exact id_reserve ..
  case retry => exact id_reserve ..
  case forsake => exact (id_goto ..).trans (hR _)
  case release => exact (id_goto ..).trans (hR _)
  case detach x t k hx => cases k <;> exact hR _
  case chunk => rw [frame_fanOutChunk_handler]
  case closeIfIdle =>
    unfold Daemon.closeIfIdle
    split <;> rfl
  case endFirst => exact congrArg (fun f => (f h).id) (d.frame_endFirst _ _ _ _).handler
  case endLast => exact id_wake _
  all_goals first
    | rfl
    | exact id_goto ..

/-- A connection is sent the grant of a stream only by the handler whose answer it is. -/
theorem granted_step (hs : Step d a d') {e : Envelope} (he : e ∈ (d'.conn c).events.sent)
    (hb : e.body = some (.acquireResponse r)) : e ∈ (d.conn c).events.sent ∨
      ∃ h, (d.handler h).conn = c ∧ (d.handler h).stage = .responding (.acquireResponse r) ∧
        (d.handler h).id = e.id := by
  have hgrant : grant e = some r.streamToken := by rw [grant, hb]
  rcases step_tells hs with ⟨c', e', rfl⟩ | ⟨h, rfl⟩ | hT
  · cases hs with
    | write hw =>
      rw [setConn_conn, Function.update_apply] at he
      split at he
      · next hc =>
        rw [hc]
        exact .inl (by simpa using he)
      · exact .inl he
  · cases hs with
    | @respond _ body hh =>
      rw [goto_conn, Daemon.send, setConn_conn, Function.update_apply] at he
      split at he
      · next hc =>
        rw [Fifo.sent_push, List.mem_append, List.mem_singleton] at he
        rcases he with he | he
        · rw [hc]
          exact .inl he
        · subst he
          rw [hc]
          cases hb
          exact .inr ⟨h, rfl, hh, rfl⟩
      · exact .inl he
  · obtain ⟨hext, hsame⟩ := hT c
    obtain ⟨l, hl⟩ := hext.sent
    unfold Daemon.answered at hsame
    rw [← hl, List.filterMap_append] at hsame
    have hnil : l.filterMap grant = [] :=
      List.append_cancel_left (hsame.trans (List.append_nil _).symm)
    rw [← hl, List.mem_append] at he
    refine he.imp_right fun hm => ?_
    rw [List.filterMap_eq_nil_iff.1 hnil e hm] at hgrant
    cases hgrant

/-! ## Runs -/

/-- The handler was given the envelope `e` from `c` in the run. -/
def Given (tr : List (Daemon × Act)) (c : ConnId) (h : HandlerId) (e : Envelope) : Prop :=
  ∃ t, (t, .request c h e) ∈ tr

/-- What the daemon does is what it was asked in the run. -/
structure Asked (tr : List (Daemon × Act)) (d : Daemon) : Prop where
  serves : ∀ h, (d.handler h).stage ≠ .absent → ∃ e, Given tr (d.handler h).conn h e ∧
    (d.handler h).id = e.id ∧ d.Serves (d.handler h).conn e.body (d.handler h).stage
  made : ∀ t D, d.drawn t = some D → d.Made D.session
  receives : ∀ s, d.Made s → d.Receives (d.session s).tunerId (d.session s).params.system
  sent : ∀ c e r, e ∈ (d.conn c).events.sent → e.body = some (.acquireResponse r) →
    ∃ h e' request D, Given tr c h e' ∧ e'.id = e.id ∧
      e'.body = some (.acquireRequest request) ∧ d.Meets c request r D

theorem asked_init (devices : List Device) : Asked [] (init devices) where
  serves h hh := absurd rfl hh
  made _ _ h := by cases h
  receives s hm := absurd rfl hm
  sent _ _ _ h := absurd h List.not_mem_nil

theorem asked_step {tr : List (Daemon × Act)} (hA : Asked tr d)
    (hlisted : ∀ s ∈ d.sessions, d.Made s) (hs : Restrict Step Fresh d a d') :
    Asked ((d, a) :: tr) d' := by
  have hgiven : ∀ {c h e}, Given tr c h e → Given ((d, a) :: tr) c h e :=
    fun ⟨t, ht⟩ => ⟨t, List.mem_cons_of_mem _ ht⟩
  have hK := keeps_step hs.1
  refine ⟨fun h hh => ?_, fun t D hD => ?_, fun s hm => ?_, fun c e r he hb => ?_⟩
  · by_cases hreq : ∃ c e, a = .request c h e
    · obtain ⟨c, e, rfl⟩ := hreq
      cases hs.1 with
      | request hc hh =>
        dsimp only
        rw [Function.update_self]
        exact ⟨e, ⟨d, List.mem_cons_self⟩, rfl, serves_handle _⟩
    · have hreq : ∀ c e, a ≠ .request c h e := fun c e he => hreq ⟨c, e, he⟩
      rw [conn_step hs.1 hreq, id_step hs.1 hreq]
      have hbefore : (d.handler h).stage ≠ .absent := by
        intro habs
        rcases idle_step hs.1 (.inl habs) with ⟨c, e, he⟩ | he
        · exact hreq c e he
        · rw [he, habs] at hh
          exact hh rfl
      obtain ⟨e, he, hid, hserves⟩ := hA.serves h hbefore
      refine ⟨e, hgiven he, hid, ?_⟩
      by_cases ha : a.handler = some h
      · exact serves_own hs ha hreq hA.made hlisted hA.receives hserves
      · have hkept := serves_keeps hA.made hs hserves
        rcases stage_of_other hs.1 ha with hst | hst
        · rwa [hst]
        · rw [hst]
          exact serves_wake hkept
  · rcases made_of_drawn hs.1 hlisted hD with hold | hm
    · exact (hK.session _ (hA.made t D hold)).1
    · exact hm
  · rcases made_step hs.1 hm with hold | ⟨h, draw, rfl⟩
    · have hterms := (hK.session s hold).2
      rw [show (d'.session s).tunerId = (d.session s).tunerId from congrArg (·.2.1) hterms,
        show (d'.session s).params = (d.session s).params from congrArg Prod.fst hterms]
      exact (hA.receives s hold).keeps hK
    · cases hs.1 with
      | @publish _ job id left format _ _ hh hs' hd =>
        have hstage : (d.handler h).stage ≠ .absent := by
          rw [hh]
          exact Stage.noConfusion
        obtain ⟨e, -, -, hserves⟩ := hA.serves h hstage
        rw [hh] at hserves
        have hS := (d.addSession s (newSession job id format)).session_subscribed h s s draw
        rw [addSession_session, Function.update_self] at hS
        have hp := congrArg Session.params hS
        have hi := congrArg Session.tunerId hS
        dsimp only at hp hi
        rw [hp, hi]
        exact hserves.2.2.1.receives.keeps hK
  · rcases granted_step hs.1 he hb with hold | ⟨h, hc, hst, hid⟩
    · obtain ⟨h, e', request, D, hg, hid, hq, hM⟩ := hA.sent c e r hold hb
      exact ⟨h, e', request, D, hgiven hg, hid, hq, hM.step (hA.made _ _ hM.drawn) hs⟩
    · obtain ⟨e', hg, hid', hserves⟩ := hA.serves h (by rw [hst]; exact Stage.noConfusion)
      rw [hst] at hserves
      obtain ⟨request, D, hq, hM⟩ := hserves
      subst hc
      exact ⟨h, e', request, D, hgiven hg, hid'.symm.trans hid, hq,
        hM.step (hA.made _ _ hM.drawn) hs⟩

theorem asked_of_run {devices : List Device} {tr : List (Daemon × Act)}
    (h : Run (Restrict Step Fresh) (init devices) tr d) : Asked tr d := by
  induction h with
  | nil => exact asked_init devices
  | snoc hr hs ih =>
    have hL := linked_reachable hr.reachable.of_restrict
    refine asked_step ih (fun s hs habs => ?_) hs
    have := hL.looping_of_listed s hs
    rw [habs] at this
    cases this

/-- **What is granted is what was asked.** In every run, whatever the tasks do in between, a stream
that a client was sent in answer to an envelope is the answer to an acquire that it sent under this
id. The stream's token was drawn for the client, and the session it is of, whether made for it or
shared, has the parameters of the request in normal form and to this day a tuner that the request
allows and that receives the system; and the answer names this tuner and its format. -/
theorem granted_as_asked {devices : List Device} {tr : List (Daemon × Act)}
    (h : Run (Restrict Step Fresh) (init devices) tr d) {e : Envelope}
    (he : e ∈ (d.conn c).events.sent) (hb : e.body = some (.acquireResponse r)) :
    ∃ h e' request D, Given tr c h e' ∧ e'.id = e.id ∧
      e'.body = some (.acquireRequest request) ∧ d.Meets c request r D :=
  (asked_of_run h).sent c e r he hb

/-- The first acquire of `reachable_granted` is answered with the stream of the only tuner. -/
theorem granted_as_asked_first : ∃ (tr : List (Daemon × Act)) (d : Daemon) (e : Envelope)
    (r : AcquireResponse), e ∈ (d.conn 0).events.sent ∧ r.tuner = "0#0" ∧
      ∃ h e' request D, Given tr 0 h e' ∧ e'.id = e.id ∧
        e'.body = some (.acquireRequest request) ∧ d.Meets 0 request r D := by
  obtain ⟨tr, hr⟩ := reachable_granted.mono fun (_ : Daemon) (_ : Act) h => h.1
  have hown := hr.snoc ⟨.own (h := 0) (r := granted.acquired 0 7) rfl rfl, .of_draws_none rfl⟩
  have hanswer := hown.snoc
    ⟨@Step.respond _ 0 (.acquireResponse (granted.acquired 0 7)) rfl, .of_draws_none rfl⟩
  have hsent : Envelope.mk 1 (some (.acquireResponse (granted.acquired 0 7))) ∈ _ :=
    List.mem_singleton_self _
  exact ⟨_, _, _, granted.acquired 0 7, hsent, rfl, granted_as_asked hanswer hsent rfl⟩

end Tunelith.Tunelithd
