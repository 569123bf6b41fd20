import Tunelith.Tunelithd.Step

/-!
# What the operations leave alone, and what they change

The operations on streams (`offer`, `drain`, `retainToken`, `release`) touch only who takes them:
the sessions' subscribers and permits, the tokens, the channels and the events. `Frame` says so,
once for all of them, and the lemmas after it say field by field what each does change.
-/

namespace Tunelith.Tunelithd

namespace Daemon

/-- `d'` is `d` but for who takes the streams. -/
structure Frame (d d' : Daemon) : Prop where
  devices : d'.devices = d.devices
  busy : d'.busy = d.busy
  closing : d'.closing = d.closing
  handler : d'.handler = d.handler
  data : d'.data = d.data
  handles : d'.handles = d.handles
  drawn : d'.drawn = d.drawn
  session : ∀ s, { d'.session s with subscribers := ∅, stop := false } =
    { d.session s with subscribers := ∅, stop := false }

namespace Frame

variable {d d' d'' : Daemon}

theorem refl (d : Daemon) : Frame d d :=
  ⟨rfl, rfl, rfl, rfl, rfl, rfl, rfl, fun _ => rfl⟩

theorem trans (f : Frame d d') (g : Frame d' d'') : Frame d d'' :=
  ⟨g.devices.trans f.devices, g.busy.trans f.busy, g.closing.trans f.closing,
    g.handler.trans f.handler, g.data.trans f.data, g.handles.trans f.handles,
    g.drawn.trans f.drawn, fun s => (g.session s).trans (f.session s)⟩

theorem foldl {α : Type*} {f : Daemon → α → Daemon} (hf : ∀ d a, Frame d (f d a)) (l : List α)
    (d : Daemon) : Frame d (l.foldl f d) := by
  induction l generalizing d with
  | nil => exact refl d
  | cons a l ih => exact (hf d a).trans (ih _)

theorem tunerId (f : Frame d d') (s : SessionId) :
    (d'.session s).tunerId = (d.session s).tunerId := congrArg (·.tunerId) (f.session s)

theorem fanOut (f : Frame d d') (s : SessionId) :
    (d'.session s).fanOut = (d.session s).fanOut := congrArg (·.fanOut) (f.session s)

theorem tuner (f : Frame d d') (s : SessionId) :
    (d'.session s).tuner = (d.session s).tuner := congrArg (·.tuner) (f.session s)

theorem chunks (f : Frame d d') (s : SessionId) :
    (d'.session s).chunks = (d.session s).chunks := congrArg (·.chunks) (f.session s)

end Frame

variable (d : Daemon)

theorem frame_setChan (k : ChanId) (K : Chan) : Frame d (d.setChan k K) :=
  ⟨rfl, rfl, rfl, rfl, rfl, rfl, rfl, fun _ => rfl⟩

theorem frame_setConn (c : ConnId) (C : Conn) : Frame d (d.setConn c C) :=
  ⟨rfl, rfl, rfl, rfl, rfl, rfl, rfl, fun _ => rfl⟩

theorem frame_unlist (s : SessionId) : Frame d (d.unlist s) :=
  ⟨rfl, rfl, rfl, rfl, rfl, rfl, rfl, fun _ => rfl⟩

theorem frame_setTokens (ts : Token → Option SessionId) : Frame d { d with tokens := ts } :=
  ⟨rfl, rfl, rfl, rfl, rfl, rfl, rfl, fun _ => rfl⟩

theorem frame_setSession {s : SessionId} {S : Session}
    (hS : { S with subscribers := ∅, stop := false } =
      { d.session s with subscribers := ∅, stop := false }) : Frame d (d.setSession s S) := by
  refine ⟨rfl, rfl, rfl, rfl, rfl, rfl, rfl, fun r => ?_⟩
  by_cases hr : r = s
  · subst hr
    simpa using hS
  · simp [hr]

theorem frame_setSubscribers (s : SessionId) (m : Finmap fun _ : Token => Subscriber) :
    Frame d (d.setSubscribers s m) := d.frame_setSession rfl

theorem frame_dropUnattached (t : Token) : Frame d (d.dropUnattached t) := by
  unfold dropUnattached
  split
  · exact .refl d
  · exact ⟨rfl, rfl, rfl, rfl, rfl, rfl, rfl, fun _ => rfl⟩

theorem frame_flushDrops (t : Token) (x : Subscriber) : Frame d (d.flushDrops t x).1 := by
  unfold flushDrops
  split
  · exact d.frame_setConn _ _
  · exact .refl d

theorem frame_offer (s : SessionId) (c : Chunk) (t : Token) : Frame d (d.offer s c t) := by
  unfold offer
  split
  · exact .refl d
  · split
    · exact ((d.frame_setChan _ _).trans (frame_flushDrops _ _ _)).trans
        (frame_setSubscribers _ _ _)
    · exact d.frame_setSubscribers _ _
    · exact d.frame_setSubscribers _ _

theorem frame_retainToken (s : SessionId) (t : Token) : Frame d (d.retainToken s t) := by
  unfold retainToken
  split
  · exact (d.frame_dropUnattached t).trans (frame_setTokens _ _)
  · exact .refl d

theorem frame_drain (s : SessionId) (error : Option String) (t : Token) :
    Frame d (d.drain s error t) := by
  unfold drain
  split
  · exact .refl d
  · exact ((d.frame_flushDrops _ _).trans (frame_setConn _ _ _)).trans
      (frame_setSubscribers _ _ _)

theorem frame_leave (s : SessionId) (t : Token) : Frame d (d.leave s t) := by
  unfold leave
  dsimp only
  split
  · exact ((d.frame_setSubscribers _ _).trans (frame_unlist _ _)).trans (frame_setSession _ rfl)
  · exact d.frame_setSubscribers _ _

theorem frame_release (t : Token) : Frame d (d.release t) := by
  unfold release
  dsimp only
  split
  · exact d.frame_dropUnattached t
  · exact ((d.frame_dropUnattached t).trans (frame_setTokens _ _)).trans (frame_leave _ _ _)

theorem frame_fanOutChunk_handler (s : SessionId) (order : List Token) (c : Chunk) :
    (d.fanOutChunk s order c).handler = d.handler :=
  (Frame.foldl (fun d t => d.frame_offer s c t) order d).handler

theorem frame_endFirst (s : SessionId) (walk order : List Token) (error : Option String) :
    Frame { d with closing := insert (d.session s).tunerId d.closing }
      (order.foldl (fun d t => d.drain s error t)
        (walk.foldl (fun d t => d.retainToken s t) (d.beginEnd s))) := by
  have f : Frame { d with closing := insert (d.session s).tunerId d.closing } (d.beginEnd s) :=
    ⟨rfl, rfl, rfl, rfl, rfl, rfl, rfl, fun _ => rfl⟩
  exact (f.trans (.foldl (fun d t => d.frame_retainToken s t) walk _)).trans
    (.foldl (fun d t => d.frame_drain s error t) order _)

/-- Subscribing changes of the sessions only their subscribers. -/
theorem session_subscribed (h : HandlerId) (s r : SessionId) (draw : Option (Token × ChanId)) :
    { (d.subscribed h s draw).session r with subscribers := ∅ } =
      { d.session r with subscribers := ∅ } := by
  cases draw with
  | none => rfl
  | some p =>
    simp only [subscribed, goto_session, subscribe, setSubscribers, setSession_session,
      setChan_session, Function.update_apply]
    split_ifs with e
    · rw [e]
    · rfl

theorem tunerId_subscribed (h : HandlerId) (s r : SessionId) (draw : Option (Token × ChanId)) :
    ((d.subscribed h s draw).session r).tunerId = (d.session r).tunerId :=
  congrArg (·.tunerId) (d.session_subscribed h s r draw)

theorem tuner_subscribed (h : HandlerId) (s r : SessionId) (draw : Option (Token × ChanId)) :
    ((d.subscribed h s draw).session r).tuner = (d.session r).tuner :=
  congrArg (·.tuner) (d.session_subscribed h s r draw)

theorem fanOut_subscribed (h : HandlerId) (s r : SessionId) (draw : Option (Token × ChanId)) :
    ((d.subscribed h s draw).session r).fanOut = (d.session r).fanOut :=
  congrArg (·.fanOut) (d.session_subscribed h s r draw)

/-! ## Inside a session -/

/-- `d'` is `d` but for the channels, the events, and the subscribers of `s`, of which none has
come. -/
structure Inside (s : SessionId) (d d' : Daemon) : Prop where
  frame : Frame d d'
  conn : ∀ c, { d'.conn c with events := .empty } = { d.conn c with events := .empty }
  tokens : d'.tokens = d.tokens
  unattached : d'.unattached = d.unattached
  sessions : d'.sessions = d.sessions
  session_of_ne : ∀ r, r ≠ s → d'.session r = d.session r
  stop : (d'.session s).stop = (d.session s).stop
  keys : (d'.session s).subscribers.keys ⊆ (d.session s).subscribers.keys

namespace Inside

variable {d d' d'' : Daemon} {s : SessionId}

theorem refl (d : Daemon) : Inside s d d :=
  ⟨.refl d, fun _ => rfl, rfl, rfl, rfl, fun _ _ => rfl, rfl, fun _ h => h⟩

theorem trans (f : Inside s d d') (g : Inside s d' d'') : Inside s d d'' :=
  ⟨f.frame.trans g.frame, fun c => (g.conn c).trans (f.conn c), g.tokens.trans f.tokens,
    g.unattached.trans f.unattached, g.sessions.trans f.sessions,
    fun r hr => (g.session_of_ne r hr).trans (f.session_of_ne r hr),
    g.stop.trans f.stop, g.keys.trans f.keys⟩

theorem foldl {α : Type*} {f : Daemon → α → Daemon} (hf : ∀ d a, Inside s d (f d a)) (l : List α)
    (d : Daemon) : Inside s d (l.foldl f d) := by
  induction l generalizing d with
  | nil => exact refl d
  | cons a l ih => exact (hf d a).trans (ih _)

end Inside

theorem inside_setChan (s : SessionId) (k : ChanId) (K : Chan) : Inside s d (d.setChan k K) :=
  ⟨d.frame_setChan k K, fun _ => rfl, rfl, rfl, rfl, fun _ _ => rfl, rfl, fun _ h => h⟩

theorem inside_send (s : SessionId) (c : ConnId) (e : Proto.Envelope) :
    Inside s d (d.send c e) := by
  refine ⟨d.frame_setConn c _, fun c' => ?_, rfl, rfl, rfl, fun _ _ => rfl, rfl, fun _ h => h⟩
  rw [send, setConn_conn, Function.update_apply]
  split_ifs with h
  · rw [h]
  · rfl

theorem inside_setSubscribers {s : SessionId} {m : Finmap fun _ : Token => Subscriber}
    (hm : m.keys ⊆ (d.session s).subscribers.keys) : Inside s d (d.setSubscribers s m) := by
  refine ⟨d.frame_setSubscribers s m, fun _ => rfl, rfl, rfl, rfl, fun r hr => ?_, ?_, ?_⟩
  · exact Function.update_of_ne hr _ _
  · simp [setSubscribers]
  · simpa [setSubscribers] using hm

theorem inside_flushDrops (s : SessionId) (t : Token) (x : Subscriber) :
    Inside s d (d.flushDrops t x).1 := by
  unfold flushDrops
  split
  · exact d.inside_send s _ _
  · exact .refl d

theorem session_flushDrops (t : Token) (x : Subscriber) :
    (d.flushDrops t x).1.session = d.session := by
  unfold flushDrops
  split <;> rfl

theorem keys_insert_of_lookup {m : Finmap fun _ : Token => Subscriber} {t : Token}
    {x y : Subscriber} (hx : m.lookup t = some x) : (m.insert t y).keys ⊆ m.keys := by
  intro u hu
  rw [Finmap.mem_keys, Finmap.mem_insert] at hu
  rcases hu with rfl | hu
  · exact Finmap.mem_keys.2 (Finmap.mem_of_lookup_eq_some hx)
  · exact Finmap.mem_keys.2 hu

theorem keys_erase_subset (m : Finmap fun _ : Token => Subscriber) (t : Token) :
    (m.erase t).keys ⊆ m.keys := by
  rw [Finmap.keys_erase]
  exact Finset.erase_subset _ _

theorem inside_offer (s : SessionId) (c : Chunk) (t : Token) : Inside s d (d.offer s c t) := by
  unfold offer
  split
  · exact .refl d
  · rename_i x hx
    split
    · rename_i K _
      have f := (d.inside_setChan s x.tx K).trans (inside_flushDrops _ s t x)
      refine f.trans (inside_setSubscribers _ ?_)
      rw [session_flushDrops]
      exact keys_insert_of_lookup hx
    · exact d.inside_setSubscribers (keys_insert_of_lookup hx)
    · exact d.inside_setSubscribers (keys_erase_subset _ _)

/-- What draining does to a session, whether or not it found the subscriber. -/
theorem session_drain (s : SessionId) (error : Option String) (t : Token) :
    (d.drain s error t).session = Function.update d.session s
      { d.session s with subscribers := (d.session s).subscribers.erase t } := by
  unfold drain
  split
  · rename_i hx
    have he : (d.session s).subscribers.erase t = (d.session s).subscribers :=
      Finmap.ext_lookup fun u => by
        by_cases hu : u = t
        · rw [hu, Finmap.lookup_erase, hx]
        · rw [Finmap.lookup_erase_ne hu]
    rw [he]
    exact (Function.update_eq_self s d.session).symm
  · rename_i x hx
    dsimp only
    unfold flushDrops
    split <;> rfl

theorem inside_drain (s : SessionId) (error : Option String) (t : Token) :
    Inside s d (d.drain s error t) := by
  have hs := d.session_drain s error t
  refine ⟨d.frame_drain s error t, fun c => ?_, ?_, ?_, ?_, fun r hr => ?_, ?_, ?_⟩
  · unfold drain
    split
    · rfl
    · exact ((d.inside_flushDrops s t _).trans (inside_send _ s _ _)).conn c
  · unfold drain flushDrops
    split
    · rfl
    · split <;> rfl
  · unfold drain flushDrops
    split
    · rfl
    · split <;> rfl
  · unfold drain flushDrops
    split
    · rfl
    · split <;> rfl
  · rw [hs, Function.update_of_ne hr]
  · rw [hs, Function.update_self]
  · rw [hs, Function.update_self]
    exact keys_erase_subset _ _

/-- Draining every subscriber leaves none. -/
theorem keys_foldl_drain (s : SessionId) (error : Option String) (order : List Token) :
    ((order.foldl (fun d t => d.drain s error t) d).session s).subscribers.keys =
      (d.session s).subscribers.keys \ order.toFinset := by
  induction order generalizing d with
  | nil => simp
  | cons t order ih =>
    rw [List.foldl_cons, ih, session_drain, Function.update_self, Finmap.keys_erase]
    ext u
    simp only [Finset.mem_sdiff, Finset.mem_erase, List.toFinset_cons, Finset.mem_insert]
    tauto

/-! ## Tokens -/

@[simp] theorem unattached_dropUnattached (t : Token) :
    (d.dropUnattached t).unattached = Function.update d.unattached t none := by
  unfold dropUnattached
  split
  · rename_i h
    rw [← h, Function.update_eq_self]
  · rfl

@[simp] theorem tokens_dropUnattached (t : Token) : (d.dropUnattached t).tokens = d.tokens := by
  unfold dropUnattached
  split <;> rfl

@[simp] theorem sessions_dropUnattached (t : Token) :
    (d.dropUnattached t).sessions = d.sessions := by
  unfold dropUnattached
  split <;> rfl

@[simp] theorem session_dropUnattached (t : Token) :
    (d.dropUnattached t).session = d.session := by
  unfold dropUnattached
  split <;> rfl

@[simp] theorem conn_dropUnattached (t : Token) : (d.dropUnattached t).conn = d.conn := by
  unfold dropUnattached
  split <;> rfl

/-- Of the channels, only a receiver is dropped. -/
theorem chan_dropUnattached (t : Token) (k : ChanId) :
    { (d.dropUnattached t).chan k with rx := false } = { d.chan k with rx := false } := by
  unfold dropUnattached
  split
  · rfl
  · simp only [dropReceiver, setChan_chan, Function.update_apply]
    split_ifs with e
    · rw [e]
    · rfl

theorem chan_retainToken (s : SessionId) (t : Token) (k : ChanId) :
    { (d.retainToken s t).chan k with rx := false } = { d.chan k with rx := false } := by
  unfold retainToken
  split
  · exact d.chan_dropUnattached t k
  · rfl

theorem chan_foldl_retainToken (s : SessionId) (walk : List Token) (k : ChanId) :
    { (walk.foldl (fun d t => d.retainToken s t) d).chan k with rx := false } =
      { d.chan k with rx := false } := by
  induction walk generalizing d with
  | nil => rfl
  | cons t walk ih => exact (ih _).trans (d.chan_retainToken s t k)

theorem chan_drain (s : SessionId) (error : Option String) (t : Token) :
    (d.drain s error t).chan = d.chan := by
  unfold drain flushDrops
  split
  · rfl
  · split <;> rfl

theorem chan_foldl_drain (s : SessionId) (error : Option String) (order : List Token) :
    (order.foldl (fun d t => d.drain s error t) d).chan = d.chan := by
  induction order generalizing d with
  | nil => rfl
  | cons t order ih => exact (ih _).trans (d.chan_drain s error t)

theorem session_retainToken (s : SessionId) (t : Token) :
    (d.retainToken s t).session = d.session := by
  unfold retainToken
  split <;> simp

theorem sessions_retainToken (s : SessionId) (t : Token) :
    (d.retainToken s t).sessions = d.sessions := by
  unfold retainToken
  split <;> simp

theorem tokens_retainToken (s : SessionId) (t u : Token) :
    (d.retainToken s t).tokens u =
      if u = t ∧ d.tokens u = some s then none else d.tokens u := by
  unfold retainToken
  by_cases hu : u = t
  · subst hu
    split <;> rename_i h <;> simp [h]
  · split <;> simp [hu]

theorem unattached_retainToken (s : SessionId) (t u : Token) :
    (d.retainToken s t).unattached u =
      if u = t ∧ d.tokens u = some s then none else d.unattached u := by
  unfold retainToken
  by_cases hu : u = t
  · subst hu
    split <;> rename_i h <;> simp [h]
  · split <;> simp [hu]

theorem conn_retainToken (s : SessionId) (t : Token) : (d.retainToken s t).conn = d.conn := by
  unfold retainToken
  split <;> simp

/-- What `end` leaves of the tokens. -/
theorem foldl_retainToken (s : SessionId) (walk : List Token) :
    let d' := walk.foldl (fun d t => d.retainToken s t) d
    d'.session = d.session ∧ d'.sessions = d.sessions ∧ d'.conn = d.conn ∧
    (∀ u, d'.tokens u = if u ∈ walk ∧ d.tokens u = some s then none else d.tokens u) ∧
    ∀ u, d'.unattached u = if u ∈ walk ∧ d.tokens u = some s then none else d.unattached u := by
  induction walk generalizing d with
  | nil => simp
  | cons t walk ih =>
    obtain ⟨h₁, h₂, hc, h₃, h₄⟩ := ih (d.retainToken s t)
    refine ⟨h₁.trans (d.session_retainToken s t), h₂.trans (d.sessions_retainToken s t),
      hc.trans (d.conn_retainToken s t), fun u => ?_, fun u => ?_⟩
    · rw [List.foldl_cons, h₃, tokens_retainToken]
      by_cases hu : u = t <;> by_cases hs : d.tokens u = some s <;> simp [hu, hs]
    · rw [List.foldl_cons, h₄, tokens_retainToken, unattached_retainToken]
      by_cases hu : u = t <;> by_cases hs : d.tokens u = some s <;> simp [hu, hs]

/-! ## `subscribe` and `fan_out` -/

theorem session_subscribe (s : SessionId) (c : ConnId) (t : Token) (k : ChanId) :
    (d.subscribe s c t k).session = Function.update d.session s
      { d.session s with
        subscribers := (d.session s).subscribers.insert t ⟨k, c, 0⟩ } := rfl

theorem tokens_subscribe (s : SessionId) (c : ConnId) (t : Token) (k : ChanId) :
    (d.subscribe s c t k).tokens = Function.update d.tokens t (some s) := rfl

theorem unattached_subscribe (s : SessionId) (c : ConnId) (t : Token) (k : ChanId) :
    (d.subscribe s c t k).unattached = Function.update d.unattached t (some k) := rfl

/-- A turn of the loop of `fan_out` is the offers, and then its own end. -/
theorem exists_fanOutChunk (s : SessionId) (order : List Token) (c : Chunk) :
    ∃ e, Inside s d e ∧ d.fanOutChunk s order c = e.setSession s
      { e.session s with
        chunks := (e.session s).chunks ++ [c]
        fanOut := if (e.session s).subscribers.keys = ∅ then .checking else .running } :=
  ⟨_, .foldl (fun d t => d.inside_offer s c t) order d, rfl⟩

/-! ## The first critical section of `end` -/

/-- What `end` does to the four maps, whatever the order it walks them in. -/
structure Ended (s : SessionId) (d d' : Daemon) : Prop where
  sessions : d'.sessions = d.sessions.filter (· ≠ s)
  tokens : ∀ u, d'.tokens u = if d.tokens u = some s then none else d.tokens u
  unattached : ∀ u, d'.unattached u = if d.tokens u = some s then none else d.unattached u
  session_of_ne : ∀ r, r ≠ s → d'.session r = d.session r
  keys : (d'.session s).subscribers.keys = ∅
  stop : (d'.session s).stop = (d.session s).stop
  fanOut : (d'.session s).fanOut = .ending
  drawn : d'.drawn = d.drawn
  conn : ∀ c, { d'.conn c with events := .empty } = { d.conn c with events := .empty }
  handler : d'.handler = d.handler
  chan : ∀ k, { d'.chan k with rx := false } = { d.chan k with rx := false }

theorem ended_endFirst {s : SessionId} (walk : List Token) {order : List Token}
    (error : Option String) (hw : ∀ t, d.tokens t = some s → t ∈ walk)
    (ho : order.toFinset = (d.session s).subscribers.keys) :
    Ended s d (d.endFirst s walk order error) := by
  obtain ⟨hses, hlist, hconn, htok, hun⟩ := (d.beginEnd s).foldl_retainToken s walk
  have hif : ∀ u, (u ∈ walk ∧ d.tokens u = some s) ↔ d.tokens u = some s := fun u =>
    ⟨And.right, fun h => ⟨hw u h, h⟩⟩
  have f := Inside.foldl (fun d t => d.inside_drain s error t) order
    (walk.foldl (fun d t => d.retainToken s t) (d.beginEnd s))
  have hkeys := keys_foldl_drain (walk.foldl (fun d t => d.retainToken s t) (d.beginEnd s)) s
    error order
  unfold endFirst setFanOut
  refine ⟨f.sessions.trans hlist, fun u => ?_, fun u => ?_, fun r hr => ?_, ?_, ?_, ?_,
    (d.frame_endFirst s walk order error).drawn, fun c => ?_,
    (d.frame_endFirst s walk order error).handler, fun k => ?_⟩
  · refine (congrFun f.tokens u).trans ((htok u).trans ?_)
    simp only [beginEnd_tokens, hif]
  · refine (congrFun f.unattached u).trans ((hun u).trans ?_)
    simp only [beginEnd_tokens, beginEnd_unattached, hif]
  · rw [setSession_session, Function.update_of_ne hr]
    exact (f.session_of_ne r hr).trans (congrFun hses r)
  · rw [setSession_session, Function.update_self]
    refine hkeys.trans ?_
    rw [hses, beginEnd_session, ho, sdiff_self, Finset.bot_eq_empty]
  · rw [setSession_session, Function.update_self]
    exact f.stop.trans (by rw [hses, beginEnd_session])
  · rw [setSession_session, Function.update_self]
  · exact (f.conn c).trans (by rw [hconn]; rfl)
  · rw [show ∀ e : Daemon, (e.setSession s { e.session s with fanOut := .ending }).chan = e.chan
      from fun _ => rfl, chan_foldl_drain]
    exact chan_foldl_retainToken (d.beginEnd s) s walk k

/-! ## `release` -/

/-- The token `t` is of `s`, which has no other subscriber. -/
def LastOf (d : Daemon) (t : Token) (s : SessionId) : Prop :=
  d.tokens t = some s ∧ ((d.session s).subscribers.erase t).keys = ∅

instance (t : Token) (s : SessionId) : Decidable (d.LastOf t s) :=
  inferInstanceAs (Decidable (_ ∧ _))

theorem tokens_leave (s : SessionId) (t : Token) : (d.leave s t).tokens = d.tokens := by
  unfold leave
  dsimp only
  split <;> rfl

theorem unattached_leave (s : SessionId) (t : Token) :
    (d.leave s t).unattached = d.unattached := by
  unfold leave
  dsimp only
  split <;> rfl

theorem sessions_leave (s : SessionId) (t : Token) : (d.leave s t).sessions =
    if ((d.session s).subscribers.erase t).keys = ∅ then d.sessions.filter (· ≠ s)
    else d.sessions := by
  unfold leave
  simp only [setSubscribers, setSession_session, Function.update_self]
  split <;> rfl

theorem session_leave (s : SessionId) (t : Token) : (d.leave s t).session =
    Function.update d.session s { d.session s with
      subscribers := (d.session s).subscribers.erase t
      stop := (d.session s).stop || decide (((d.session s).subscribers.erase t).keys = ∅) } := by
  unfold leave
  simp only [setSubscribers, setSession_session, Function.update_self]
  split
  · rename_i h
    rw [decide_eq_true h, Bool.or_true]
    exact Function.update_idem _ _ _
  · rename_i h
    rw [decide_eq_false h, Bool.or_false]
    rfl

@[simp] theorem tokens_release (t : Token) :
    (d.release t).tokens = Function.update d.tokens t none := by
  unfold release
  simp only [tokens_dropUnattached]
  split
  · rename_i h
    rw [tokens_dropUnattached, ← h, Function.update_eq_self]
  · rw [tokens_leave]

@[simp] theorem unattached_release (t : Token) :
    (d.release t).unattached = Function.update d.unattached t none := by
  unfold release
  simp only [tokens_dropUnattached]
  split
  · rw [unattached_dropUnattached]
  · rw [unattached_leave]
    exact d.unattached_dropUnattached t

@[simp] theorem conn_release (t : Token) : (d.release t).conn = d.conn := by
  unfold release leave
  simp only [tokens_dropUnattached, setSubscribers]
  split
  · exact d.conn_dropUnattached t
  · split <;> exact d.conn_dropUnattached t

theorem chan_release (t : Token) (k : ChanId) :
    { (d.release t).chan k with rx := false } = { d.chan k with rx := false } := by
  have h := d.chan_dropUnattached t k
  unfold release leave
  simp only [tokens_dropUnattached, setSubscribers]
  split
  · exact h
  · split <;> exact h

theorem mem_sessions_release {t : Token} {s : SessionId} :
    s ∈ (d.release t).sessions ↔ s ∈ d.sessions ∧ ¬ d.LastOf t s := by
  unfold release
  simp only [tokens_dropUnattached]
  split
  · rename_i h
    simp [LastOf, h]
  · rename_i r h
    rw [sessions_leave]
    simp only [session_dropUnattached, sessions_dropUnattached, LastOf, h, Option.some.injEq]
    split
    · simp only [List.mem_filter, decide_eq_true_eq]
      grind
    · grind

/-- What a release leaves of a session. -/
theorem session_release (t : Token) (s : SessionId) : (d.release t).session s =
    if d.tokens t = some s then
      { d.session s with
        subscribers := (d.session s).subscribers.erase t
        stop := (d.session s).stop || decide (((d.session s).subscribers.erase t).keys = ∅) }
    else d.session s := by
  unfold release
  simp only [tokens_dropUnattached]
  split
  · rename_i h
    simp [h]
  · rename_i r h
    rw [session_leave]
    simp only [session_dropUnattached, h, Option.some.injEq, Function.update_apply]
    by_cases hr : r = s
    · simp [hr]
    · simp [hr, Ne.symm hr]

/-! ## Whose step it is -/

theorem stage_goto (h h' : HandlerId) (st : Stage) :
    ((d.goto h st).handler h').stage = if h' = h then st else (d.handler h').stage := by
  simp only [goto_handler, Function.update_apply]
  split_ifs <;> rfl

theorem stage_goto_of_ne {h h' : HandlerId} {st : Stage} (hne : h ≠ h') :
    ((d.goto h st).handler h').stage = (d.handler h').stage := by
  rw [stage_goto, if_neg hne.symm]

theorem handler_reserve_of_ne {h h' : HandlerId} {job : Job} {id : TunerId} {wait : Bool}
    {left : List Attempt} (hne : h ≠ h') :
    ((d.reserve h job id wait left).handler h').stage = (d.handler h').stage := by
  unfold reserve
  split
  · split <;> exact stage_goto_of_ne _ hne
  · split <;> exact stage_goto_of_ne _ hne

theorem handler_subscribed_of_ne {h h' : HandlerId} {s : SessionId}
    {draw : Option (Token × ChanId)} (hne : h ≠ h') :
    ((d.subscribed h s draw).handler h').stage = (d.handler h').stage := by
  cases draw <;> exact stage_goto_of_ne _ hne

end Daemon

open Daemon

/-- Only its own steps move a handler, but for the wake-up at the end of a session. -/
theorem stage_of_other {d d' : Daemon} {a : Act} {h : HandlerId} (hs : Step d a d')
    (ha : a.handler ≠ some h) :
    (d'.handler h).stage = (d.handler h).stage ∨ d'.handler h = (d.handler h).wake := by
  have hne : ∀ {h'}, some h' ≠ some h → h' ≠ h := fun hn e => hn (congrArg some e)
  cases hs with
  | accept hc => exact .inl rfl
  | request hc hh => exact .inl (by simp [Function.update_of_ne (hne ha).symm])
  | hangUp hc => exact .inl rfl
  | cleanUp ht => exact .inl (congrArg (fun f => (f h).stage) (d.frame_release _).handler)
  | write he => exact .inl rfl
  | misasked hh hp => exact .inl (stage_goto_of_ne _ (hne ha))
  | join hh hp hs hd => exact .inl (handler_subscribed_of_ne _ (hne ha))
  | search hh hp hs => exact .inl (stage_goto_of_ne _ (hne ha))
  | reserve hh => exact .inl (handler_reserve_of_ne _ (hne ha))
  | retry hh => exact .inl (handler_reserve_of_ne _ (hne ha))
  | timeOut hh => exact .inl (stage_goto_of_ne _ (hne ha))
  | giveUp hh => exact .inl (stage_goto_of_ne _ (hne ha))
  | openTuner hh => exact .inl (stage_goto_of_ne _ (hne ha))
  | opened hh => exact .inl (stage_goto_of_ne _ (hne ha))
  | notOpened hh => exact .inl (stage_goto_of_ne _ (hne ha))
  | lnbSet hh => exact .inl (stage_goto_of_ne _ (hne ha))
  | tuned hh => exact .inl (stage_goto_of_ne _ (hne ha))
  | streamed hh => exact .inl (stage_goto_of_ne _ (hne ha))
  | tunerClosed hh => exact .inl (stage_goto_of_ne _ (hne ha))
  | free hh => exact .inl (stage_goto_of_ne _ (hne ha))
  | publish hh hs hd => exact .inl (handler_subscribed_of_ne _ (hne ha))
  | own hh hc => exact .inl (stage_goto_of_ne _ (hne ha))
  | disused hh hc => exact .inl (stage_goto_of_ne _ (hne ha))
  | forsake hh =>
    exact .inl ((stage_goto_of_ne _ (hne ha)).trans (by rw [(frame_release _ _).handler]))
  | disown hh => exact .inl (stage_goto_of_ne _ (hne ha))
  | release hh =>
    exact .inl ((stage_goto_of_ne _ (hne ha)).trans (by rw [(frame_release _ _).handler]))
  | find hh => exact .inl (stage_goto_of_ne _ (hne ha))
  | lock hh hl ht => exact .inl (stage_goto_of_ne _ (hne ha))
  | noTuner hh hl ht => exact .inl (stage_goto_of_ne _ (hne ha))
  | measured hh => exact .inl (stage_goto_of_ne _ (hne ha))
  | list hh => exact .inl (stage_goto_of_ne _ (hne ha))
  | respond hh => exact .inl (stage_goto_of_ne _ (hne ha))
  | attach hx ht => exact .inl rfl
  | unknownStream hx ht => exact .inl rfl
  | greeted hx => exact .inl rfl
  | recv hx hc => exact .inl rfl
  | dataEnd hx hq hk => exact .inl rfl
  | dataFail hx => exact .inl rfl
  | @detach x t k hx =>
    have hf := (d.frame_release t).handler
    cases k <;> exact .inl (congrArg (fun f => (f h).stage) hf)
  | chunk hs hn ho => exact .inl (by rw [frame_fanOutChunk_handler])
  | closeIfIdle hs =>
    unfold Daemon.closeIfIdle
    split <;> exact .inl rfl
  | sourceEnd hs => exact .inl rfl
  | stopped hs hp => exact .inl rfl
  | @endFirst s walk order error hs hw hn ho =>
    exact .inl (congrArg (fun f => (f h).stage) (d.frame_endFirst s walk order error).handler)
  | takeTuner hs hl ht => exact .inl rfl
  | noTunerLeft hs hl ht => exact .inl rfl
  | closed hs => exact .inl rfl
  | endLast hs => exact .inr rfl

end Tunelith.Tunelithd
