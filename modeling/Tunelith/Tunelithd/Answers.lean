import Tunelith.Tunelithd.Delivery
import Tunelith.Tunelithd.Departure

/-!
# Whose token is in which answer

A token drawn for a connection is handed on by the acquire that drew it, and answered to that
connection, once: an acquire is never answered with another's token, nor two with the same
(`Once`).

* `step_tells` — but for an answer, a connection is only sent notices.
* `once_reachable` — for every reachable state.
-/

namespace Tunelith.Tunelithd

open Daemon Lts Proto

/-- The tokens connection `c` was answered with. -/
def Daemon.answered (d : Daemon) (c : ConnId) : List Token :=
  (d.conn c).events.sent.filterMap grant

/-- The token the handler at this stage is to answer with. -/
def Stage.gives : Stage → Option Token
  | .owning response | .forsaking response | .responding (.acquireResponse response) =>
    some response.streamToken
  | _ => none

/-- The read loop of `c` has ended. -/
def Daemon.Gone (d : Daemon) (c : ConnId) : Prop :=
  (d.conn c).accepted = true ∧ (d.conn c).owned = none

/-- The token `t` was drawn for the connection `c`. -/
def Daemon.DrawnFor (d : Daemon) (c : ConnId) (t : Token) : Prop :=
  ∃ D, d.drawn t = some D ∧ D.conn = c

variable {d d' d'' : Daemon} {c : ConnId} {t : Token} {h : HandlerId}

/-! ## What connections are sent -/

/-- Every connection is sent at most notices. -/
def Tells (d d' : Daemon) : Prop :=
  ∀ c, (d.conn c).events.Extends (d'.conn c).events ∧ d'.answered c = d.answered c

namespace Tells

theorem refl (d : Daemon) : Tells d d := fun _ => ⟨.refl _, rfl⟩

theorem trans (h : Tells d d') (h' : Tells d' d'') : Tells d d'' :=
  fun c => ⟨(h c).1.trans (h' c).1, (h' c).2.trans (h c).2⟩

theorem foldl {α : Type*} {f : Daemon → α → Daemon} (hf : ∀ d a, Tells d (f d a)) (l : List α)
    (d : Daemon) : Tells d (l.foldl f d) := by
  induction l generalizing d with
  | nil => exact refl d
  | cons a l ih => exact (hf d a).trans (ih _)

/-- What is not a connection is none of its business. -/
theorem same (h : d'.conn = d.conn) : Tells d d' := by
  intro c
  unfold Daemon.answered
  rw [h]
  exact ⟨.refl _, rfl⟩

theorem setConn {C : Conn} (h : C.events = (d.conn c).events) : Tells d (d.setConn c C) := by
  intro c'
  unfold Daemon.answered
  rw [setConn_conn, Function.update_apply]
  split_ifs with hc
  · rw [h, hc]
    exact ⟨.refl _, rfl⟩
  · exact ⟨.refl _, rfl⟩

theorem send {e : Envelope} (he : grant e = none) : Tells d (d.send c e) := by
  intro c'
  unfold Daemon.answered Daemon.send
  rw [setConn_conn, Function.update_apply]
  split_ifs with hc
  · subst hc
    refine ⟨.push _ e, ?_⟩
    rw [Fifo.sent_push, List.filterMap_append, List.filterMap_cons, he]
    exact List.append_nil _
  · exact ⟨.refl _, rfl⟩

theorem flushDrops (d : Daemon) (t : Token) (x : Subscriber) : Tells d (d.flushDrops t x).1 := by
  unfold Daemon.flushDrops
  split
  · exact .send rfl
  · exact refl d

theorem offer (d : Daemon) (s : SessionId) (b : Chunk) (t : Token) : Tells d (d.offer s b t) := by
  rcases d.offer_cases s b t with ⟨-, he⟩ | ⟨x, -, ⟨k, -, he⟩ | ⟨-, he⟩ | ⟨-, he⟩⟩
  · rw [he]
    exact refl d
  · rw [he]
    have hk : Tells d (d.setChan x.tx k) := same rfl
    exact (hk.trans (flushDrops _ t x)).trans (same rfl)
  · rw [he]
    exact same rfl
  · rw [he]
    exact same rfl

theorem drain (d : Daemon) (s : SessionId) (error : Option String) (t : Token) :
    Tells d (d.drain s error t) := by
  unfold Daemon.drain
  split
  · exact refl d
  · exact ((flushDrops d t _).trans (send rfl)).trans (same rfl)

theorem fanOutChunk (d : Daemon) (s : SessionId) (order : List Token) (b : Chunk) :
    Tells d (d.fanOutChunk s order b) :=
  (foldl (fun d t => offer d s b t) order d).trans (same rfl)

theorem endFirst (d : Daemon) (s : SessionId) (walk order : List Token)
    (error : Option String) : Tells d (d.endFirst s walk order error) := by
  obtain ⟨-, -, hconn, -⟩ := (d.beginEnd s).foldl_retainToken s walk
  exact ((same hconn : Tells d _).trans (foldl (fun d t => drain d s error t) order _)).trans
    (same rfl)

end Tells

/-- But for an answer, and what the writer takes out, a connection is only sent notices. -/
theorem step_tells {a : Act} (hs : Step d a d') :
    (∃ c e, a = .write c e) ∨ (∃ h, a = .respond h) ∨ Tells d d' := by
  cases hs
  case write => exact .inl ⟨_, _, rfl⟩
  case respond => exact .inr (.inl ⟨_, rfl⟩)
  all_goals refine .inr (.inr ?_)
  case accept => exact .setConn rfl
  case hangUp => exact .setConn rfl
  case cleanUp c t ht =>
    exact (Tells.same (d.conn_release t)).trans (.setConn (by rw [conn_release]))
  case own =>
    exact (Tells.setConn (C := { d.conn _ with owned := some _ }) rfl).trans (.same rfl)
  case disown h t hh =>
    exact (Tells.setConn (c := (d.handler h).conn) (C := { d.conn (d.handler h).conn with
      owned := (d.conn (d.handler h).conn).owned.map (·.erase t) }) rfl).trans (.same rfl)
  case forsake => exact (Tells.same (d.conn_release _)).trans (.same rfl)
  case release => exact (Tells.same (d.conn_release _)).trans (.same rfl)
  case join h request params s draw hh hp hs hd => cases draw <;> exact .same rfl
  case publish h job id left format s draw hh hs hd => cases draw <;> exact .same rfl
  case reserve =>
    unfold Daemon.reserve
    split <;> split <;> exact .same rfl
  case retry =>
    unfold Daemon.reserve
    split <;> split <;> exact .same rfl
  case detach x t k hx =>
    have hR : Tells d (d.release t) := .same (d.conn_release t)
    cases k <;> exact hR.trans (.same rfl)
  case chunk => exact .fanOutChunk d _ _ _
  case closeIfIdle =>
    unfold Daemon.closeIfIdle
    split <;> exact .same rfl
  case endFirst => exact .endFirst d _ _ _ _
  all_goals exact .same rfl

theorem answered_write {e : Envelope} (hs : Step d (.write c e) d') (c' : ConnId) :
    d'.answered c' = d.answered c' := by
  cases hs with
  | write he =>
    unfold Daemon.answered
    rw [setConn_conn, Function.update_apply]
    split_ifs with hc
    · rw [Fifo.sent_pop, hc]
    · rfl

/-- An answer hands out the token it names, and then the handler is done. -/
theorem answered_respond (hs : Step d (.respond h) d') (c : ConnId) :
    d'.answered c = d.answered c ++
        (if c = (d.handler h).conn then (d.handler h).stage.gives.toList else []) ∧
      (d'.handler h).stage = .done := by
  cases hs with
  | @respond _ body hh =>
    refine ⟨?_, (stage_goto ..).trans (if_pos rfl)⟩
    have hg : grant (envelope (d.handler h).id body) = (d.handler h).stage.gives := by
      rw [hh]
      cases body <;> rfl
    unfold Daemon.answered Daemon.send
    rw [goto_conn, setConn_conn, Function.update_apply]
    split_ifs with hc
    · rw [Fifo.sent_push, List.filterMap_append, hc, List.filterMap_cons, hg]
      cases (d.handler h).stage.gives <;> rfl
    · exact (List.append_nil _).symm

/-- The writer takes out what was sent, in order. -/
theorem received_write {e : Envelope} (hs : Step d (.write c e) d') :
    (d'.conn c).events.received = (d.conn c).events.received ++ [e] := by
  cases hs with
  | write he =>
    rw [setConn_conn, Function.update_self]
    exact Fifo.received_pop he

/-- Nobody else takes anything out. -/
theorem received_step {a : Act} (hs : Step d a d') (ha : ∀ e, a ≠ .write c e) :
    (d'.conn c).events.received = (d.conn c).events.received := by
  rcases step_tells hs with ⟨c', e, rfl⟩ | ⟨h, rfl⟩ | hT
  · have hc : c ≠ c' := by
      rintro rfl
      exact ha e rfl
    cases hs with
    | write he => rw [setConn_conn, Function.update_of_ne hc]
  · cases hs with
    | respond hh =>
      rw [goto_conn, Daemon.send, setConn_conn, Function.update_apply]
      split_ifs with hc
      · rw [hc]
        exact Fifo.received_push _ _
      · rfl
  · exact (hT c).1.received

/-! ## What handlers are to answer -/

theorem conn_goto (d : Daemon) (h h' : HandlerId) (st : Stage) :
    ((d.goto h' st).handler h).conn = (d.handler h).conn := by
  rw [goto_handler, Function.update_apply]
  split_ifs with e
  · rw [e]
  · rfl

theorem conn_reserve (d : Daemon) (h h' : HandlerId) (job : Job) (id : TunerId) (wait : Bool)
    (left : List Attempt) : ((d.reserve h' job id wait left).handler h).conn =
      (d.handler h).conn := by
  unfold Daemon.reserve
  split
  · split <;> exact conn_goto ..
  · split <;> exact conn_goto ..

theorem conn_wake (x : Handler) : x.wake.conn = x.conn := by
  unfold Handler.wake
  split <;> rfl

/-- A handler is of one connection throughout. -/
theorem conn_step {a : Act} (hs : Step d a d') (ha : ∀ c e, a ≠ .request c h e) :
    (d'.handler h).conn = (d.handler h).conn := by
  have hR : ∀ (u : Token), ((d.release u).handler h).conn = (d.handler h).conn := fun u => by
    rw [(d.frame_release u).handler]
  cases hs
  case request c h' e hc hh =>
    have hne : h ≠ h' := by
      rintro rfl
      exact ha c e rfl
    exact congrArg Handler.conn (Function.update_of_ne hne ..)
  case cleanUp => exact hR _
  case join h request params s draw hh hp hs hd => cases draw <;> exact conn_goto ..
  case publish h job id left format s draw hh hs hd => cases draw <;> exact conn_goto ..
  case reserve => exact conn_reserve ..
  case retry => exact conn_reserve ..
  case forsake => exact (conn_goto ..).trans (hR _)
  case release => exact (conn_goto ..).trans (hR _)
  case detach x t k hx => cases k <;> exact hR _
  case chunk => rw [frame_fanOutChunk_handler]
  case closeIfIdle =>
    unfold Daemon.closeIfIdle
    split <;> rfl
  case endFirst => exact congrArg (fun f => (f h).conn) (d.frame_endFirst _ _ _ _).handler
  case endLast => exact conn_wake _
  all_goals first
    | rfl
    | exact conn_goto ..

theorem gives_handle (b : Option Body) : (handle b).gives = none := by
  unfold handle
  split <;> rfl

theorem gives_search (d : Daemon) (request : AcquireRequest) (params : TuneParams) :
    (d.search request params).gives = none := by
  unfold Daemon.search
  split <;> rfl

theorem gives_reserve (d : Daemon) (h : HandlerId) (job : Job) (id : TunerId) (wait : Bool)
    (left : List Attempt) : ((d.reserve h job id wait left).handler h).stage.gives = none := by
  unfold Daemon.reserve
  split
  · split <;> rw [stage_goto, if_pos rfl] <;> rfl
  · split <;> rw [stage_goto, if_pos rfl] <;> rfl

/-- Where the token comes from that a handler is to answer with after a step. -/
theorem gives_step {a : Act} (hs : Step d a d') (ht : (d'.handler h).stage.gives = some t) :
    a.handler ≠ some h ∧ (d'.handler h).stage = (d.handler h).stage ∨
      a.handler = some h ∧ (∀ c e, a ≠ .request c h e) ∧ a ≠ .respond h ∧
        (a.draws = some t ∧ (∃ r, (d'.handler h).stage = .owning r) ∨
        (d.handler h).stage.gives = some t ∧
          ((∃ r, (d'.handler h).stage = .responding (.acquireResponse r)) ∨
          ∃ r, (d.handler h).stage = .owning r ∧ (d'.handler h).stage = .forsaking r ∧
            ∀ ts, (d.conn (d.handler h).conn).owned = some ts → r.streamToken ∈ ts)) := by
  by_cases ha : a.handler = some h
  · -- The stages a handler goes on to, but for the few that hand out a token, hand out none.
    have hsub : ∀ (e : Daemon) (s : SessionId) (draw : Option (Token × ChanId)),
        ((e.subscribed h s draw).handler h).stage.gives = some t →
        draw.map Prod.fst = some t ∧
          ∃ r, ((e.subscribed h s draw).handler h).stage = .owning r := by
      intro e s draw ht
      cases draw <;> rw [Daemon.subscribed, stage_goto, if_pos rfl] at ht ⊢ <;> cases ht
      exact ⟨rfl, _, rfl⟩
    cases hs <;> simp only [Act.handler, Option.some.injEq, reduceCtorEq] at ha <;> subst ha
    case request =>
      dsimp only at ht
      rw [Function.update_self, gives_handle] at ht
      cases ht
    case join => exact .inr ⟨rfl, fun _ _ => Act.noConfusion, Act.noConfusion, .inl (hsub d _ _ ht)⟩
    case publish =>
      exact .inr ⟨rfl, fun _ _ => Act.noConfusion, Act.noConfusion,
        .inl (hsub (d.addSession _ _) _ _ ht)⟩
    case search =>
      rw [stage_goto, if_pos rfl, gives_search] at ht
      cases ht
    case reserve =>
      rw [gives_reserve] at ht
      cases ht
    case retry =>
      rw [gives_reserve] at ht
      cases ht
    case free =>
      rw [stage_goto, if_pos rfl] at ht
      split at ht <;> cases ht
    case own r ts hh hc =>
      rw [stage_goto, if_pos rfl] at ht ⊢
      rw [hh]
      refine .inr ⟨rfl, fun _ _ => Act.noConfusion, Act.noConfusion, .inr ?_⟩
      split_ifs at ht ⊢ with hr
      · refine ⟨ht, .inr ⟨r, rfl, rfl, fun us hus => ?_⟩⟩
        cases hc.symm.trans hus
        exact hr
      · exact ⟨ht, .inl ⟨r, rfl⟩⟩
    case disused r hh hc =>
      rw [stage_goto, if_pos rfl] at ht ⊢
      rw [hh, hc]
      exact .inr ⟨rfl, fun _ _ => Act.noConfusion, Act.noConfusion,
        .inr ⟨ht, .inr ⟨r, rfl, rfl, fun _ h => by cases h⟩⟩⟩
    case forsake r hh =>
      rw [stage_goto, if_pos rfl] at ht ⊢
      rw [hh]
      exact .inr ⟨rfl, fun _ _ => Act.noConfusion, Act.noConfusion, .inr ⟨ht, .inl ⟨r, rfl⟩⟩⟩
    case find =>
      rw [stage_goto, if_pos rfl] at ht
      split at ht <;> cases ht
    case measured =>
      rw [stage_goto, if_pos rfl] at ht
      split at ht <;> cases ht
    all_goals
      rw [stage_goto, if_pos rfl] at ht
      cases ht
  · refine .inl ⟨ha, ?_⟩
    rcases stage_of_other hs ha with he | he
    · exact he
    · rw [he] at ht ⊢
      unfold Handler.wake at ht ⊢
      split at ht
      · cases ht
      · rfl

/-- A handler that has not begun, or is done, is not on its way. -/
theorem idle_step {a : Act} (hs : Step d a d')
    (hi : (d.handler h).stage = .absent ∨ (d.handler h).stage = .done) :
    (∃ c e, a = .request c h e) ∨ (d'.handler h).stage = (d.handler h).stage := by
  by_cases ha : a.handler = some h
  · cases hs <;> simp only [Act.handler, Option.some.injEq, reduceCtorEq] at ha <;> subst ha
    case request => exact .inl ⟨_, _, rfl⟩
    all_goals rcases hi with hi | hi <;> simp_all only [reduceCtorEq]
  · refine .inr ?_
    rcases stage_of_other hs ha with he | he
    · exact he
    · rw [he]
      rcases hi with hi | hi <;> simp only [Handler.wake, hi]

/-! ## What connections have -/

/-- What a step does to a connection, but for what it is sent. -/
inductive Conn.Turn (d : Daemon) (c : ConnId) : Act → Conn → Prop
  | stay {a : Act} {C : Conn} (hC : { C with events := .empty } =
      { d.conn c with events := .empty }) : Conn.Turn d c a C
  | accept (ha : (d.conn c).accepted = false) :
      Conn.Turn d c (.accept c) { d.conn c with accepted := true, owned := some ∅ }
  | hangUp {ts : Finset Token} (hc : (d.conn c).owned = some ts) :
      Conn.Turn d c (.hangUp c) { d.conn c with owned := none, cleaning := ts }
  | cleanUp {t : Token} (ht : t ∈ (d.conn c).cleaning) :
      Conn.Turn d c (.cleanUp c t)
        { d.conn c with cleaning := (d.conn c).cleaning.erase t }
  | own {h : HandlerId} {r : AcquireResponse} {ts : Finset Token}
      (hh : (d.handler h).stage = .owning r) (hc : (d.handler h).conn = c)
      (ho : (d.conn c).owned = some ts) :
      Conn.Turn d c (.own h) { d.conn c with owned := some (insert r.streamToken ts) }
  | disown {h : HandlerId} {t : Token} (hh : (d.handler h).stage = .disowning t)
      (hc : (d.handler h).conn = c) :
      Conn.Turn d c (.disown h) { d.conn c with owned := (d.conn c).owned.map (·.erase t) }

theorem conn_turn {a : Act} (hs : Step d a d') (c : ConnId) : Conn.Turn d c a (d'.conn c) := by
  have hset : ∀ {c' : ConnId} {C : Conn}, (c' = c → Conn.Turn d c a C) →
      Conn.Turn d c a ((d.setConn c' C).conn c) := by
    intro c' C hC
    rw [setConn_conn, Function.update_apply]
    split_ifs with hc
    · exact hC hc.symm
    · exact .stay rfl
  cases hs
  case accept c' hc =>
    refine hset ?_
    rintro rfl
    exact .accept hc
  case hangUp c' ts hc =>
    refine hset ?_
    rintro rfl
    exact .hangUp hc
  case cleanUp c' t ht =>
    rw [setConn_conn, conn_release, Function.update_apply]
    split_ifs with hc
    · subst hc
      exact .cleanUp ht
    · exact .stay rfl
  case write c' e he =>
    refine hset ?_
    rintro rfl
    exact .stay rfl
  case respond h body hh =>
    refine hset ?_
    rintro rfl
    exact .stay rfl
  case own h r ts hh hc =>
    refine hset ?_
    rintro rfl
    exact .own hh rfl hc
  case disown h t hh =>
    refine hset ?_
    rintro rfl
    exact .disown hh rfl
  case forsake => exact .stay (by rw [goto_conn, conn_release])
  case release => exact .stay (by rw [goto_conn, conn_release])
  case detach x t k hx =>
    refine .stay ?_
    cases k <;> exact congrArg (fun f => { f c with events := .empty }) (d.conn_release t)
  case reserve =>
    refine .stay ?_
    unfold Daemon.reserve
    split <;> split <;> rfl
  case retry =>
    refine .stay ?_
    unfold Daemon.reserve
    split <;> split <;> rfl
  case join h request params s draw hh hp hs hd => cases draw <;> exact .stay rfl
  case publish h job id left format s draw hh hs hd => cases draw <;> exact .stay rfl
  case chunk s order b hs hn ho =>
    obtain ⟨e, f, he⟩ := d.exists_fanOutChunk s order b
    rw [he]
    exact .stay (f.conn c)
  case endFirst s walk order error hs hw hn ho =>
    exact .stay ((d.ended_endFirst walk error hw ho).conn c)
  case closeIfIdle =>
    unfold Daemon.closeIfIdle
    split <;> exact .stay rfl
  all_goals exact .stay rfl

/-- The connection has the token `t`, among its streams or to release. -/
def Conn.Lists (C : Conn) (t : Token) : Prop :=
  (∃ ts, C.owned = some ts ∧ t ∈ ts) ∨ t ∈ C.cleaning

/-- A connection comes by a token only from the acquire that is to answer with it. -/
theorem lists_step {a : Act} (hs : Step d a d') (ht : (d'.conn c).Lists t) :
    (d.conn c).Lists t ∨ ∃ h r, a = .own h ∧ (d.handler h).conn = c ∧
      (d.handler h).stage = .owning r ∧ r.streamToken = t := by
  have hturn := conn_turn hs c
  generalize d'.conn c = C at hturn ht
  cases hturn with
  | stay hC =>
    have ho : C.owned = (d.conn c).owned := congrArg (·.owned) hC
    have hc : C.cleaning = (d.conn c).cleaning := congrArg (·.cleaning) hC
    rw [Conn.Lists, ho, hc] at ht
    exact .inl ht
  | accept ha =>
    rcases ht with ⟨ts, hts, ht⟩ | ht
    · cases hts
      exact absurd ht (Finset.notMem_empty t)
    · exact .inl (.inr ht)
  | hangUp hc =>
    rcases ht with ⟨ts, hts, ht⟩ | ht
    · cases hts
    · exact .inl (.inl ⟨_, hc, ht⟩)
  | cleanUp hu =>
    rcases ht with ht | ht
    · exact .inl (.inl ht)
    · exact .inl (.inr (Finset.mem_of_mem_erase ht))
  | own hh hc ho =>
    rcases ht with ⟨ts, hts, ht⟩ | ht
    · cases hts
      rcases Finset.mem_insert.1 ht with rfl | ht
      · exact .inr ⟨_, _, rfl, hc, hh, rfl⟩
      · exact .inl (.inl ⟨_, ho, ht⟩)
    · exact .inl (.inr ht)
  | disown hh hc =>
    rcases ht with ⟨ts, hts, ht⟩ | ht
    · obtain ⟨us, hus, rfl⟩ := Option.map_eq_some_iff.1 hts
      exact .inl (.inl ⟨us, hus, Finset.mem_of_mem_erase ht⟩)
    · exact .inl (.inr ht)

theorem accepted_step {a : Act} (hs : Step d a d') (hc : (d.conn c).accepted = true) :
    (d'.conn c).accepted = true := by
  have hturn := conn_turn hs c
  generalize d'.conn c = C at hturn
  cases hturn with
  | stay hC =>
    have ha : C.accepted = (d.conn c).accepted := congrArg (·.accepted) hC
    exact ha.trans hc
  | accept ha => rfl
  | _ => exact hc

/-- Once gone, a client is gone. -/
theorem Daemon.Gone.step {a : Act} (hs : Step d a d') (hg : d.Gone c) : d'.Gone c := by
  refine ⟨accepted_step hs hg.1, ?_⟩
  have hturn := conn_turn hs c
  generalize d'.conn c = C at hturn
  cases hturn with
  | stay hC =>
    have ho : C.owned = (d.conn c).owned := congrArg (·.owned) hC
    exact ho.trans hg.2
  | accept ha =>
    rw [hg.1] at ha
    cases ha
  | hangUp => rfl
  | cleanUp => exact hg.2
  | own hh hc ho =>
    rw [hg.2] at ho
    cases ho
  | disown =>
    dsimp only
    rw [hg.2]
    rfl

/-! ## Tokens drawn -/

/-- A draw is for the connection of the handler whose step it is. -/
theorem drawn_cases {a : Act} (hs : Step d a d') (t : Token) :
    d'.drawn t = d.drawn t ∨ a.draws = some t ∧ ∃ h D, a.handler = some h ∧
      (d.handler h).stage ≠ .absent ∧ d'.drawn t = some D ∧ D.conn = (d.handler h).conn := by
  have hsub : ∀ {e : Daemon} {h s draw}, e.drawn = d.drawn → e.handler = d.handler →
      (e.subscribed h s draw).drawn t = d.drawn t ∨ draw.map Prod.fst = some t ∧
        ∃ D, (e.subscribed h s draw).drawn t = some D ∧ D.conn = (d.handler h).conn := by
    intro e h s draw he hh
    cases draw with
    | none => exact .inl (congrFun he t)
    | some p =>
      by_cases hp : t = p.1
      · subst hp
        exact .inr ⟨rfl, _, Function.update_self .., by rw [hh]⟩
      · exact .inl ((Function.update_of_ne hp ..).trans (congrFun he t))
  have hR : ∀ u, (d.release u).drawn t = d.drawn t := fun u => congrFun (d.frame_release u).drawn t
  cases hs
  case join h request params s draw hh hp hs hd =>
    refine (hsub rfl rfl).imp_right fun hu => ⟨hu.1, h, hu.2.choose, rfl, ?_, hu.2.choose_spec⟩
    rw [hh]
    exact Stage.noConfusion
  case publish h job id left format s draw hh hs hd =>
    refine (hsub (e := d.addSession _ _) rfl rfl).imp_right fun hu =>
      ⟨hu.1, h, hu.2.choose, rfl, ?_, hu.2.choose_spec⟩
    rw [hh]
    exact Stage.noConfusion
  all_goals refine .inl ?_
  case cleanUp => exact hR _
  case forsake => exact hR _
  case release => exact hR _
  case detach x u k hx => cases k <;> exact hR u
  case reserve =>
    unfold Daemon.reserve
    split <;> split <;> rfl
  case retry =>
    unfold Daemon.reserve
    split <;> split <;> rfl
  case chunk s order b hs hn ho =>
    obtain ⟨e, f, he⟩ := d.exists_fanOutChunk s order b
    rw [he]
    exact congrFun f.frame.drawn t
  case closeIfIdle =>
    unfold Daemon.closeIfIdle
    split <;> rfl
  case endFirst s walk order error hs hw hn ho => rw [(d.ended_endFirst _ _ hw ho).drawn]
  all_goals rfl

theorem drawn_step {a : Act} (hs : Restrict Step Fresh d a d') {D : Draw}
    (ht : d.drawn t = some D) : d'.drawn t = some D := by
  rcases drawn_cases hs.1 t with he | ⟨ha, -⟩
  · rw [he, ht]
  · rw [hs.2 t ha] at ht
    cases ht

theorem Daemon.DrawnFor.step {a : Act} (hs : Restrict Step Fresh d a d') (ht : d.DrawnFor c t) :
    d'.DrawnFor c t := by
  obtain ⟨D, hD, hc⟩ := ht
  exact ⟨D, drawn_step hs hD, hc⟩

/-- A token is with one acquire, which is to answer its connection with it, or was answered to it,
once; and it is among the streams of that connection at most. -/
structure Once (d : Daemon) : Prop where
  accepted : ∀ h, (d.handler h).stage ≠ .absent → (d.conn (d.handler h).conn).accepted = true
  accepted_of_drawn : ∀ t D, d.drawn t = some D → (d.conn D.conn).accepted = true
  answered : ∀ c t, t ∈ d.answered c → d.DrawnFor c t
  nodup : ∀ c, (d.answered c).Nodup
  gives : ∀ h t, (d.handler h).stage.gives = some t →
    d.DrawnFor (d.handler h).conn t ∧ t ∉ d.answered (d.handler h).conn
  sole : ∀ h h' t, (d.handler h).stage.gives = some t → (d.handler h').stage.gives = some t →
    h = h'
  lists : ∀ c t, (d.conn c).Lists t → d.DrawnFor c t
  owning : ∀ h r, (d.handler h).stage = .owning r →
    ¬ (d.conn (d.handler h).conn).Lists r.streamToken
  forsaking : ∀ h r, (d.handler h).stage = .forsaking r → d.Gone (d.handler h).conn

theorem once_init (devices : List Device) : Once (init devices) where
  accepted _ h := absurd rfl h
  accepted_of_drawn _ _ h := by cases h
  answered _ _ h := absurd h List.not_mem_nil
  nodup _ := List.nodup_nil
  gives _ _ h := by cases h
  sole _ _ _ h := by cases h
  lists _ _ h := by
    rcases h with ⟨_, h, _⟩ | h
    · cases h
    · exact absurd h (Finset.notMem_empty _)
  owning _ _ h := by cases h
  forsaking _ _ h := by cases h

/-! ## Every step -/

variable {a : Act}

theorem Once.drawn_of_gives (hO : Once d) (ht : (d.handler h).stage.gives = some t) :
    d.drawn t ≠ none := by
  obtain ⟨D, hD, -⟩ := (hO.gives h t ht).1
  rw [hD]
  exact Option.some_ne_none D

theorem Once.accepted_handler (hO : Once d) (hS : ∀ c, (d.conn c).Sound) (hs : Step d a d')
    (hh : (d'.handler h).stage ≠ .absent) : (d'.conn (d'.handler h).conn).accepted = true := by
  by_cases ha : ∃ c e, a = .request c h e
  · obtain ⟨c, e, rfl⟩ := ha
    cases hs with
    | request hc =>
      dsimp only
      rw [Function.update_self]
      by_contra hno
      exact hc ((hS c).1 (Bool.eq_false_of_not_eq_true hno))
  · rw [conn_step hs fun c e he => ha ⟨c, e, he⟩]
    refine accepted_step hs (hO.accepted h fun habs => hh ?_)
    exact ((idle_step hs (.inl habs)).resolve_left ha).trans habs

/-- What a handler is to answer with, it has just drawn, or was to answer with before. -/
theorem gives_cases (hs : Restrict Step Fresh d a d')
    (ht : (d'.handler h).stage.gives = some t) :
    (d'.handler h).conn = (d.handler h).conn ∧ a ≠ .respond h ∧
      (a.handler = some h ∧ a.draws = some t ∧ d.drawn t = none ∨
        (d.handler h).stage.gives = some t) := by
  rcases gives_step hs.1 ht with ⟨ha, he⟩ | ⟨ha, hreq, hres, hrest⟩
  · refine ⟨conn_step hs.1 fun c e => ?_, ?_, .inr (he ▸ ht)⟩
    · rintro rfl
      exact ha rfl
    · rintro rfl
      exact ha rfl
  · exact ⟨conn_step hs.1 hreq, hres, hrest.imp (fun h => ⟨ha, h.1, hs.2 t h.1⟩) And.left⟩

theorem once_step (hO : Once d) (hS : ∀ c, (d.conn c).Sound) (hs : Restrict Step Fresh d a d') :
    Once d' := by
  -- What is answered was, or is given by the handler that answers.
  have hans : ∀ c, d'.answered c = d.answered c ∨ ∃ h, a = .respond h ∧ d'.answered c =
      d.answered c ++ if c = (d.handler h).conn then (d.handler h).stage.gives.toList else [] := by
    intro c
    rcases step_tells hs.1 with ⟨c', e, rfl⟩ | ⟨h, rfl⟩ | hT
    · exact .inl (answered_write hs.1 c)
    · exact .inr ⟨h, rfl, (answered_respond hs.1 c).1⟩
    · exact .inl (hT c).2
  refine ⟨fun h hh => hO.accepted_handler hS hs.1 hh, fun t D hD => ?_, fun c t ht => ?_,
    fun c => ?_, fun h t ht => ?_, fun h h' t ht ht' => ?_, fun c t ht => ?_, fun h r hr ht => ?_,
    fun h r hr => ?_⟩
  · rcases drawn_cases hs.1 t with he | ⟨-, h, E, -, hh, hE, hc⟩
    · exact accepted_step hs.1 (hO.accepted_of_drawn t D (he ▸ hD))
    · cases hD.symm.trans hE
      rw [hc]
      exact accepted_step hs.1 (hO.accepted h hh)
  · rcases hans c with he | ⟨h, rfl, he⟩
    · exact (hO.answered c t (he ▸ ht)).step hs
    · rw [he, List.mem_append] at ht
      rcases ht with ht | ht
      · exact (hO.answered c t ht).step hs
      · split_ifs at ht with hc
        · subst hc
          exact (hO.gives h t (Option.mem_toList.1 ht)).1.step hs
        · exact absurd ht List.not_mem_nil
  · rcases hans c with he | ⟨h, rfl, he⟩
    · rw [he]
      exact hO.nodup c
    · rw [he]
      refine List.Nodup.append (hO.nodup c) ?_ fun t ht ht' => ?_
      · split_ifs
        · cases (d.handler h).stage.gives <;> simp
        · exact List.nodup_nil
      · split_ifs at ht' with hc
        · subst hc
          exact (hO.gives h t (Option.mem_toList.1 ht')).2 ht
        · exact absurd ht' List.not_mem_nil
  · obtain ⟨hconn, hres, hrest⟩ := gives_cases hs ht
    rw [hconn]
    have hno : ∀ {c}, t ∈ d'.answered c → t ∈ d.answered c ∨
        ∃ h', a = .respond h' ∧ (d.handler h').stage.gives = some t := by
      intro c hmem
      rcases hans c with he | ⟨h', rfl, he⟩
      · exact .inl (he ▸ hmem)
      · rw [he, List.mem_append] at hmem
        refine hmem.imp_right fun hmem => ⟨h', rfl, ?_⟩
        split_ifs at hmem
        · exact Option.mem_toList.1 hmem
        · exact absurd hmem List.not_mem_nil
    rcases hrest with ⟨hah, had, hfresh⟩ | hold
    · refine ⟨?_, fun hmem => ?_⟩
      · rcases drawn_cases hs.1 t with he | ⟨-, h', D, hah', -, hD, hc⟩
        · obtain ⟨D, hD, -⟩ := kept_of_draws hs.1 had
          rw [he, hfresh] at hD
          cases hD
        · cases hah.symm.trans hah'
          exact ⟨D, hD, hc⟩
      · rcases hno hmem with hmem | ⟨h', rfl, -⟩
        · obtain ⟨D, hD, -⟩ := hO.answered _ t hmem
          rw [hfresh] at hD
          cases hD
        · cases had
    · refine ⟨(hO.gives h t hold).1.step hs, fun hmem => ?_⟩
      rcases hno hmem with hmem | ⟨h', rfl, hg⟩
      · exact (hO.gives h t hold).2 hmem
      · exact hres (by rw [hO.sole h h' t hold hg])
  · obtain ⟨-, -, hrest⟩ := gives_cases hs ht
    obtain ⟨-, -, hrest'⟩ := gives_cases hs ht'
    rcases hrest with ⟨hah, had, hfresh⟩ | hold
    · rcases hrest' with ⟨hah', -, -⟩ | hold'
      · exact Option.some.inj (hah.symm.trans hah')
      · exact absurd hfresh (hO.drawn_of_gives hold')
    · rcases hrest' with ⟨-, -, hfresh⟩ | hold'
      · exact absurd hfresh (hO.drawn_of_gives hold)
      · exact hO.sole h h' t hold hold'
  · rcases lists_step hs.1 ht with ht | ⟨h, r, rfl, rfl, hh, rfl⟩
    · exact (hO.lists c t ht).step hs
    · exact (hO.gives h _ (by rw [hh]; rfl)).1.step hs
  · -- An acquire that is yet to enter its token finds it entered by no one.
    have hg : (d'.handler h).stage.gives = some r.streamToken := by
      rw [hr]
      rfl
    have hcases := gives_cases hs hg
    rw [hcases.1] at ht
    have hlist := lists_step hs.1 ht
    rcases gives_step hs.1 hg with
      ⟨ha, he⟩ | ⟨ha, -, -, ⟨had, -⟩ | ⟨-, ⟨r', hr'⟩ | ⟨r', -, hr', -⟩⟩⟩
    · rw [he] at hr hg
      rcases hlist with hl | ⟨h', r', rfl, -, hh', ht'⟩
      · exact hO.owning h r hr hl
      · obtain rfl := hO.sole h h' _ hg (by rw [hh', ← ht']; rfl)
        exact ha rfl
    · have hfresh := hs.2 _ had
      rcases hlist with hl | ⟨h', r', rfl, -⟩
      · obtain ⟨D, hD, -⟩ := hO.lists _ _ hl
        rw [hfresh] at hD
        cases hD
      · cases had
    · rw [hr] at hr'
      cases hr'
    · rw [hr] at hr'
      cases hr'
  · have hg : (d'.handler h).stage.gives = some r.streamToken := by
      rw [hr]
      rfl
    rw [(gives_cases hs hg).1]
    rcases gives_step hs.1 hg with ⟨ha, he⟩ | ⟨ha, -, -, ⟨-, r', hr'⟩ | ⟨-, ⟨r', hr'⟩ |
      ⟨r', hr', -, hts⟩⟩⟩
    · exact (hO.forsaking h r (he ▸ hr)).step hs.1
    · rw [hr] at hr'
      cases hr'
    · rw [hr] at hr'
      cases hr'
    · -- It was not among the streams of its connection, so the client had gone.
      refine Daemon.Gone.step hs.1 ⟨hO.accepted h ?_, ?_⟩
      · rw [hr']
        exact Stage.noConfusion
      · cases ho : (d.conn (d.handler h).conn).owned with
        | none => rfl
        | some ts => exact absurd (.inl ⟨ts, ho, hts ts ho⟩) (hO.owning h r' hr')

theorem once_reachable {devices : List Device}
    (h : Reachable (Restrict Step Fresh) (init devices) d) : Once d :=
  h.invariant (once_init devices) fun _ _ _ hreach hO hs =>
    once_step hO (owned_reachable hreach.of_restrict).sound hs

/-! ## Who releases -/

/-- The token the handler at this stage was asked to release. -/
def Stage.releases : Stage → Option Token
  | .disowning t | .releasing t => some t
  | _ => none

theorem releases_handle {b : Option Body} (h : (handle b).releases = some t) :
    b = some (.releaseRequest t) := by
  unfold handle at h
  split at h <;> cases h
  rfl

/-- A handler releases what the request it was made for says. -/
theorem releases_step (hs : Step d a d') (ht : (d'.handler h).stage.releases = some t) :
    (d'.handler h).conn = (d.handler h).conn ∧ (d.handler h).stage.releases = some t ∨
      ∃ c e, a = .request c h e ∧ (d'.handler h).conn = c ∧
        e.body = some (.releaseRequest t) := by
  by_cases ha : ∃ c e, a = .request c h e
  · obtain ⟨c, e, rfl⟩ := ha
    cases hs with
    | request hc hh =>
      dsimp only at ht ⊢
      rw [Function.update_self] at ht ⊢
      exact .inr ⟨c, e, rfl, rfl, releases_handle ht⟩
  refine .inl ⟨conn_step hs fun c e he => ha ⟨c, e, he⟩, ?_⟩
  by_cases hh : a.handler = some h
  · cases hs <;> simp only [Act.handler, Option.some.injEq, reduceCtorEq] at hh <;> subst hh
    case request => exact absurd ⟨_, _, rfl⟩ ha
    case join h request params s draw hh hp hs hd =>
      cases draw <;> rw [Daemon.subscribed, stage_goto, if_pos rfl] at ht <;> cases ht
    case publish h job id left format s draw hh hs hd =>
      cases draw <;> rw [Daemon.subscribed, stage_goto, if_pos rfl] at ht <;> cases ht
    case search =>
      rw [stage_goto, if_pos rfl] at ht
      unfold Daemon.search at ht
      split at ht <;> cases ht
    case reserve =>
      unfold Daemon.reserve at ht
      split at ht <;> split at ht <;> rw [stage_goto, if_pos rfl] at ht <;> cases ht
    case retry =>
      unfold Daemon.reserve at ht
      split at ht <;> split at ht <;> rw [stage_goto, if_pos rfl] at ht <;> cases ht
    case disown hh =>
      rw [stage_goto, if_pos rfl] at ht
      rw [hh]
      exact ht
    all_goals
      rw [stage_goto, if_pos rfl] at ht
      try split at ht
      all_goals cases ht
  · rcases stage_of_other hs hh with he | he
    · rwa [← he]
    · rw [he] at ht
      unfold Handler.wake at ht
      split at ht
      · cases ht
      · exact ht

/-- While a client is there, its streams are released only at its own request, by their data
connection, or by a handler of another connection. -/
theorem Once.released_cases (hO : Once d) (hS : ∀ c, (d.conn c).Sound) (hs : Step d a d')
    (ha : d.released a = some t) (ht : d.DrawnFor c t) :
    d.Gone c ∨ (∃ h, a = .release h ∧ (d.handler h).stage = .releasing t) ∨
      ∃ x k, a = .detach x ∧ (d.data x).stage = .leaving t k := by
  have hconn : ∀ {c'}, d.DrawnFor c' t → c' = c := by
    rintro c' ⟨D, hD, rfl⟩
    obtain ⟨E, hE, rfl⟩ := ht
    cases hD.symm.trans hE
    rfl
  cases hs with
  | @cleanUp c' u hu =>
    cases ha
    obtain rfl := hconn (hO.lists c' t (.inr hu))
    have hcl : ¬ ((d.conn c').accepted = false ∨ (d.conn c').owned ≠ none) := by
      intro h
      rw [(hS c').2 h] at hu
      exact Finset.notMem_empty t hu
    refine .inl ⟨?_, ?_⟩
    · exact Bool.eq_true_of_not_eq_false fun h => hcl (.inl h)
    · exact not_not.1 fun h => hcl (.inr h)
  | @forsake h r hh =>
    simp only [released, hh, Option.some.injEq] at ha
    subst ha
    obtain rfl := hconn (hO.gives h _ (by rw [hh]; rfl)).1
    exact .inl (hO.forsaking h r hh)
  | @release h u hh =>
    simp only [released, hh, Option.some.injEq] at ha
    subst ha
    exact .inr (.inl ⟨h, rfl, hh⟩)
  | @detach x u k hx =>
    simp only [released, hx, Option.some.injEq] at ha
    subst ha
    exact .inr (.inr ⟨x, k, rfl, hx⟩)
  | _ => cases ha

/-- The client of `c` has gone, its streams are released and its requests answered. -/
structure Daemon.Finished (d : Daemon) (c : ConnId) : Prop where
  gone : d.Gone c
  cleaning : (d.conn c).cleaning = ∅
  idle : ∀ h, (d.handler h).conn = c →
    (d.handler h).stage = .absent ∨ (d.handler h).stage = .done

theorem Daemon.Finished.step (hs : Step d a d') (hF : d.Finished c) : d'.Finished c := by
  refine ⟨hF.gone.step hs, ?_, fun h hc => ?_⟩
  · have hturn := conn_turn hs c
    generalize d'.conn c = C at hturn
    cases hturn with
    | stay hC =>
      have hcl : C.cleaning = (d.conn c).cleaning := congrArg (·.cleaning) hC
      exact hcl.trans hF.cleaning
    | hangUp hc =>
      rw [hF.gone.2] at hc
      cases hc
    | cleanUp ht =>
      rw [hF.cleaning] at ht
      exact absurd ht (Finset.notMem_empty _)
    | _ => exact hF.cleaning
  · by_cases ha : ∃ c e, a = .request c h e
    · obtain ⟨c', e, rfl⟩ := ha
      cases hs with
      | request hc' hh =>
        dsimp only at hc
        rw [Function.update_self] at hc
        obtain rfl : c' = c := hc
        exact absurd hF.gone.2 hc'
    · rw [conn_step hs fun c e he => ha ⟨c, e, he⟩] at hc
      have hi := hF.idle h hc
      rw [(idle_step hs hi).resolve_left ha]
      exact hi

/-- Nothing is left of a client that has finished. -/
theorem Daemon.Finished.nothing_left (hO : Owned d) (hL : Linked d) (hF : d.Finished c)
    (ht : d.DrawnFor c t) :
    d.tokens t = none ∧ d.unattached t = none ∧ ∀ s, t ∉ (d.session s).subscribers := by
  obtain ⟨D, hD, rfl⟩ := ht
  exact hO.nothing_left hL hD (not_kept_of_gone hF.gone.2 hF.cleaning hF.idle)

end Tunelith.Tunelithd
