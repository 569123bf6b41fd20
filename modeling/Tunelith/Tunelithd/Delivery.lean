import Tunelith.Tunelithd.Notices

/-!
# Delivered in order, or counted as dropped

A subscriber and its channel are a link that loses (`Lossy.Link`): of the chunks its session has
fanned out since it joined, those in its channel are a part in order, and the others are in the
drops it was told of or in `dropped`. `Ledger` says so of every subscriber, and that a token is
told of nothing after its end.

* `delivered_or_dropped_once` — for every reachable state, with what a chunk, `end` and `release`
  do to one subscriber.
-/

namespace Tunelith.Tunelithd

open Daemon Lts Proto

/-! ## What handlers answer -/

/-- An answer is no event of a stream. -/
def Stage.Answers : Stage → Prop
  | .responding body => ∀ t id, notice t (envelope id body) = none
  | _ => True

def Answering (d : Daemon) : Prop := ∀ h, (d.handler h).stage.Answers

variable {d d' : Daemon}

theorem answering_init (devices : List Device) : Answering (init devices) := fun _ => trivial

theorem Answering.goto (hA : Answering d) {e : Daemon} {h : HandlerId} {st : Stage}
    (he : e.handler = d.handler) (hst : st.Answers) : Answering (e.goto h st) := by
  intro h'
  rw [stage_goto, he]
  split_ifs
  · exact hst
  · exact hA h'

theorem Answering.same (hA : Answering d) (he : d'.handler = d.handler) : Answering d' := by
  intro h
  rw [he]
  exact hA h

theorem answers_refused (e : Error) : (refused e).Answers := fun _ _ => rfl

theorem answers_handle (b : Option Body) : (handle b).Answers := by
  unfold handle
  split
  · trivial
  · trivial
  · trivial
  · trivial
  · exact fun _ _ => rfl

theorem answers_search (d : Daemon) (request : AcquireRequest) (params : TuneParams) :
    (d.search request params).Answers := by
  unfold Daemon.search
  split
  · exact answers_refused _
  · trivial

theorem Answering.reserve (hA : Answering d) (h : HandlerId) (job : Job) (id : TunerId)
    (wait : Bool) (left : List Attempt) : Answering (d.reserve h job id wait left) := by
  unfold Daemon.reserve
  split
  · split <;> exact hA.goto rfl trivial
  · split <;> exact hA.goto rfl trivial

theorem answers_wake {x : Handler} (h : x.stage.Answers) : x.wake.stage.Answers := by
  unfold Handler.wake
  split
  · trivial
  · exact h

theorem answering_step {a : Act} (hA : Answering d) (hs : Step d a d') : Answering d' := by
  cases hs
  case request c h e hc hh =>
    intro h'
    dsimp only
    by_cases e' : h' = h
    · rw [e', Function.update_self]
      exact answers_handle _
    · rw [Function.update_of_ne e']
      exact hA h'
  case cleanUp c t ht => exact hA.same (d.frame_release t).handler
  case misasked => exact hA.goto rfl (answers_refused _)
  case join h request params s draw hh hp hs hd =>
    cases draw with
    | none => exact hA.goto rfl (answers_refused _)
    | some p => exact hA.goto (e := d.subscribe s _ p.1 p.2) rfl trivial
  case search => exact hA.goto rfl (answers_search _ _ _)
  case reserve => exact hA.reserve _ _ _ _ _
  case retry => exact hA.reserve _ _ _ _ _
  case giveUp => exact hA.goto rfl (answers_refused _)
  case free =>
    refine hA.goto rfl ?_
    split
    · trivial
    · exact answers_refused _
  case publish h job id left format s draw hh hs hd =>
    cases draw with
    | none => exact hA.goto rfl (answers_refused _)
    | some p =>
      exact hA.goto (e := (d.addSession s (newSession job id format)).subscribe s _ p.1 p.2) rfl
        trivial
  case own =>
    refine hA.goto rfl ?_
    split
    · exact fun _ _ => rfl
    · trivial
  case forsake => exact hA.goto (d.frame_release _).handler fun _ _ => rfl
  case release => exact hA.goto (d.frame_release _).handler fun _ _ => rfl
  case find =>
    refine hA.goto rfl ?_
    split
    · trivial
    · exact answers_refused _
  case noTuner => exact hA.goto rfl (answers_refused _)
  case measured =>
    refine hA.goto rfl ?_
    split
    · exact fun _ _ => rfl
    · exact answers_refused _
  case list => exact hA.goto rfl fun _ _ => rfl
  case detach x t k hx =>
    have hR := hA.same (d.frame_release t).handler
    cases k <;> exact hR.same rfl
  case chunk => exact hA.same (d.frame_fanOutChunk_handler _ _ _)
  case closeIfIdle =>
    unfold Daemon.closeIfIdle
    split <;> exact hA.same rfl
  case endFirst s walk order error hs hw hn ho =>
    exact hA.same (d.frame_endFirst s walk order error).handler
  case endLast => exact fun h => answers_wake (hA h)
  all_goals first
    | exact hA.same rfl
    | exact hA.goto rfl trivial

theorem Calm.told (h : Calm d d') (hA : Answering d) (t : Token) (c : ConnId) :
    d'.told t c = d.told t c := by
  obtain ⟨l, hl, hall⟩ := h.events c
  unfold Daemon.told
  rw [hl, List.filterMap_append]
  have hnil : l.filterMap (notice t) = [] := by
    refine List.filterMap_eq_nil_iff.2 fun e he => ?_
    obtain ⟨h', body, hh, rfl⟩ := hall e he
    have := hA h'
    rw [hh] at this
    exact this t _
  rw [hnil, List.append_nil]

/-! ## The ledger -/

/-- The account of the subscriber `x` of `s`, which joined after `since` chunks. -/
structure Account (d : Daemon) (s : SessionId) (t : Token) (x : Subscriber) (since : Nat) :
    Prop where
  drawn : d.drawn t = some ⟨x.events, s, x.tx, since⟩
  since_le : since ≤ (d.session s).chunks.length
  balanced : ∃ ns : List Nat, d.told t x.events = ns.map .dropped ∧
    Lossy.Balanced List.length ((d.session s).chunks.drop since)
      ⟨(d.chan x.tx).queue.sent, ns, x.dropped⟩

/-- Drops, and then at most one end. -/
def Told (l : List Notice) : Prop :=
  ∃ (ns : List Nat) (es : List String), l = ns.map .dropped ++ es.map .ended ∧ es.length ≤ 1

structure Ledger (d : Daemon) : Prop where
  account : ∀ s t x, (d.session s).subscribers.lookup t = some x → ∃ since, Account d s t x since
  told : ∀ t c, Told (d.told t c)
  drawn_of_told : ∀ t c, d.told t c ≠ [] → ∃ D, d.drawn t = some D ∧ D.conn = c
  chan_inj : ∀ t u D E, d.drawn t = some D → d.drawn u = some E → D.chan = E.chan → t = u
  made : ∀ t D, d.drawn t = some D → (d.chan D.chan).made = true

theorem ledger_init (devices : List Device) : Ledger (init devices) where
  account _ _ _ h := by cases h
  told _ _ := ⟨[], [], rfl, Nat.zero_le 1⟩
  drawn_of_told _ _ h := absurd rfl h
  chan_inj _ _ _ _ h := by cases h
  made _ _ h := by cases h

theorem Ledger.apart (hG : Ledger d) (s : SessionId) : Apart d s := by
  intro t u x y hx hy htx
  obtain ⟨i, hi⟩ := hG.account s t x hx
  obtain ⟨j, hj⟩ := hG.account s u y hy
  exact hG.chan_inj t u _ _ hi.drawn hj.drawn htx

/-- A step that leaves the subscribers' chunks, channels and notices alone, but may remove some. -/
theorem Ledger.same (hG : Ledger d)
    (hsub : ∀ s t x, (d'.session s).subscribers.lookup t = some x →
      (d.session s).subscribers.lookup t = some x ∧
        (d'.session s).chunks = (d.session s).chunks)
    (htold : ∀ t c, d'.told t c = d.told t c)
    (hsent : ∀ k, (d'.chan k).queue.sent = (d.chan k).queue.sent)
    (hmade : ∀ k, (d'.chan k).made = (d.chan k).made) (hdrawn : d'.drawn = d.drawn) :
    Ledger d' where
  account s _ _ hx := by
    obtain ⟨hx', hc⟩ := hsub s _ _ hx
    obtain ⟨since, hi⟩ := hG.account s _ _ hx'
    refine ⟨since, by rw [hdrawn]; exact hi.drawn, by rw [hc]; exact hi.since_le, ?_⟩
    rw [htold, hc, hsent]
    exact hi.balanced
  told t c := by
    rw [htold]
    exact hG.told t c
  drawn_of_told t c h := by
    rw [hdrawn]
    exact hG.drawn_of_told t c (htold t c ▸ h)
  chan_inj t u D E hD hE := by
    rw [hdrawn] at hD hE
    exact hG.chan_inj t u D E hD hE
  made t D hD := by
    rw [hmade]
    exact hG.made t D (hdrawn ▸ hD)

theorem Ledger.calm (hG : Ledger d) (hA : Answering d) (h : Calm d d') : Ledger d' :=
  hG.same (fun s _ _ hx => ⟨h.subscribers s ▸ hx, h.chunks s⟩) (h.told hA) h.sent h.made h.drawn

theorem told_release (d : Daemon) (u t : Token) (c : ConnId) :
    (d.release u).told t c = d.told t c := by
  unfold Daemon.told
  rw [conn_release]

theorem lookup_of_lookup_erase {m : Finmap fun _ : Token => Subscriber} {u t : Token}
    {x : Subscriber} (h : (m.erase u).lookup t = some x) : m.lookup t = some x := by
  by_cases ht : t = u
  · rw [ht, Finmap.lookup_erase] at h
    cases h
  · rwa [Finmap.lookup_erase_ne ht] at h

theorem Ledger.release (hG : Ledger d) (u : Token) : Ledger (d.release u) := by
  refine hG.same (fun s t x hx => ?_) (told_release d u) (fun k => ?_) (fun k => ?_)
    (d.frame_release u).drawn
  · refine ⟨?_, (d.frame_release u).chunks s⟩
    rw [session_release] at hx
    split_ifs at hx
    · exact lookup_of_lookup_erase hx
    · exact hx
  · exact congrArg (·.queue.sent) (d.chan_release u k)
  · exact congrArg (·.made) (d.chan_release u k)

/-- A session whose clients and chunks stay. -/
theorem Ledger.setSession (hG : Ledger d) {s : SessionId} {S : Session}
    (hm : S.subscribers = (d.session s).subscribers) (hc : S.chunks = (d.session s).chunks) :
    Ledger (d.setSession s S) := by
  refine hG.same (fun r t x hx => ?_) (fun _ _ => rfl) (fun _ => rfl) (fun _ => rfl) rfl
  rw [setSession_session, Function.update_apply] at hx ⊢
  split_ifs at hx ⊢ with e
  · rw [e, ← hm]
    exact ⟨hx, hc⟩
  · exact ⟨hx, rfl⟩

theorem Ledger.addSession (hG : Ledger d) {s : SessionId} {S : Session}
    (hm : S.subscribers = ∅) : Ledger (d.addSession s S) := by
  refine hG.same (fun r t x hx => ?_) (fun _ _ => rfl) (fun _ => rfl) (fun _ => rfl) rfl
  rw [addSession_session, Function.update_apply] at hx ⊢
  split_ifs at hx ⊢
  · rw [hm, Finmap.lookup_empty] at hx
    cases hx
  · exact ⟨hx, rfl⟩

theorem Ledger.closeIfIdle (hG : Ledger d) (s : SessionId) : Ledger (d.closeIfIdle s) := by
  unfold Daemon.closeIfIdle
  split
  · have hU : Ledger (d.unlist s) := hG.same (fun _ _ _ hx => ⟨hx, rfl⟩) (fun _ _ => rfl)
      (fun _ => rfl) (fun _ => rfl) rfl
    exact hU.setSession rfl rfl
  · exact hG.setSession rfl rfl

/-! ### Joining -/

/-- A subscriber joins with an empty account. -/
theorem Ledger.subscribe (hG : Ledger d) {s : SessionId} {c : ConnId} {t : Token}
    {k : ChanId} (hd : d.MayDraw t k) (hf : d.drawn t = none) : Ledger (d.subscribe s c t k) := by
  obtain ⟨-, -, hk⟩ := hd
  have hdrawn : ∀ u, (d.subscribe s c t k).drawn u =
      if u = t then some ⟨c, s, k, (d.session s).chunks.length⟩ else d.drawn u := by
    intro u
    exact Function.update_apply ..
  have hchan : ∀ j, (d.subscribe s c t k).chan j =
      if j = k then { made := true, rx := true } else d.chan j := by
    intro j
    exact Function.update_apply ..
  have hchunks : ∀ r, ((d.subscribe s c t k).session r).chunks = (d.session r).chunks := by
    intro r
    rw [session_subscribe, Function.update_apply]
    split_ifs with e
    · rw [e]
    · rfl
  have htold : ∀ u c', (d.subscribe s c t k).told u c' = d.told u c' := fun _ _ => rfl
  -- The channel is new, so it is no other token's.
  have hnew : ∀ {u D}, d.drawn u = some D → D.chan ≠ k := by
    rintro u D hD rfl
    rw [hG.made u D hD] at hk
    cases hk
  have hsilent : ∀ c', d.told t c' = [] := by
    intro c'
    by_contra hne
    obtain ⟨D, hD, -⟩ := hG.drawn_of_told t c' hne
    rw [hf] at hD
    cases hD
  refine ⟨fun r u x hx => ?_, fun u c' => ?_, fun u c' h => ?_, fun u v D E hD hE hDE => ?_,
    fun u D hD => ?_⟩
  · have hold : (d.session r).subscribers.lookup u = some x → ∃ since,
        Account (d.subscribe s c t k) r u x since := by
      intro hx
      obtain ⟨since, hi⟩ := hG.account r u x hx
      have hut : u ≠ t := by
        rintro rfl
        have := hi.drawn
        rw [hf] at this
        cases this
      refine ⟨since, ?_, by rw [hchunks]; exact hi.since_le, ?_⟩
      · rw [hdrawn, if_neg hut]
        exact hi.drawn
      · rw [htold, hchunks, hchan, if_neg (hnew hi.drawn)]
        exact hi.balanced
    rw [session_subscribe, Function.update_apply] at hx
    split_ifs at hx with e
    · subst e
      by_cases hut : u = t
      · subst hut
        rw [Finmap.lookup_insert] at hx
        cases hx
        refine ⟨(d.session r).chunks.length, ?_, by rw [hchunks], [], ?_, ?_⟩
        · rw [hdrawn, if_pos rfl]
        · rw [htold, hsilent]
          rfl
        · rw [hchunks, hchan, if_pos rfl, List.drop_length]
          exact .new
      · rw [Finmap.lookup_insert_of_ne _ hut] at hx
        exact hold hx
    · exact hold hx
  · rw [htold]
    exact hG.told u c'
  · rw [htold] at h
    obtain ⟨D, hD, hc⟩ := hG.drawn_of_told u c' h
    refine ⟨D, ?_, hc⟩
    rw [hdrawn, if_neg, hD]
    rintro rfl
    rw [hf] at hD
    cases hD
  · rw [hdrawn] at hD hE
    split_ifs at hD hE with h₁ h₂ h₂
    · rw [h₁, h₂]
    · cases hD
      exact absurd hDE.symm (hnew hE)
    · cases hE
      exact absurd hDE (hnew hD)
    · exact hG.chan_inj u v D E hD hE hDE
  · rw [hdrawn] at hD
    rw [hchan]
    by_cases hu : u = t
    · rw [if_pos hu] at hD
      cases hD
      rw [if_pos rfl]
    · rw [if_neg hu] at hD
      rw [if_neg (hnew hD)]
      exact hG.made u D hD

/-! ### Chunks -/

theorem Chan.sent_trySend {k k' : Chan} {b : Chunk} (h : k.trySend b = .ok k') :
    k'.queue.sent = k.queue.sent ++ [b] := by
  unfold Chan.trySend at h
  split_ifs at h
  cases h
  rfl

/-- A chunk balances an account that was balanced: it is carried or lost. -/
theorem Tap.balanced_offer {p q : Tap} {b : Chunk} (h : p.offer b = some q) {l : List Chunk}
    {ns : List Nat} (hp : p.told = ns.map .dropped)
    (hb : Lossy.Balanced List.length l ⟨p.chan.queue.sent, ns, p.sub.dropped⟩) :
    q.sub.tx = p.sub.tx ∧ q.sub.events = p.sub.events ∧ ∃ ns' : List Nat,
      q.told = ns'.map .dropped ∧
      Lossy.Balanced List.length (l ++ [b]) ⟨q.chan.queue.sent, ns', q.sub.dropped⟩ := by
  unfold Tap.offer at h
  cases hk : p.chan.trySend b with
  | ok k =>
    simp only [hk, Option.some.injEq] at h
    subst h
    have htake := hb.take b
    unfold Lossy.Link.take Lossy.Link.flush at htake
    refine ⟨rfl, rfl, ?_⟩
    dsimp only [Subscriber.flush]
    rw [Chan.sent_trySend hk, hp]
    by_cases hpos : p.sub.dropped > 0
    · rw [if_pos hpos] at htake ⊢
      exact ⟨ns ++ [p.sub.dropped], by rw [List.map_append]; rfl, htake⟩
    · rw [if_neg hpos] at htake ⊢
      rw [show p.sub.dropped = 0 by omega] at htake
      exact ⟨ns, List.append_nil _, htake⟩
  | error e =>
    cases e with
    | full =>
      simp only [hk, Option.some.injEq] at h
      subst h
      exact ⟨rfl, rfl, ns, hp, hb.lose b⟩
    | closed => simp [hk] at h

theorem Told.append_flush {ns : List Nat} (x : Subscriber) :
    Told (ns.map Notice.dropped ++ x.flush) := by
  unfold Subscriber.flush
  split
  · exact ⟨ns ++ [x.dropped], [], by simp, Nat.zero_le 1⟩
  · exact ⟨ns, [], by simp, Nat.zero_le 1⟩

theorem Ledger.fanOutChunk (hG : Ledger d) (hL : Linked d) {s : SessionId} {order : List Token}
    {b : Chunk} (hn : order.Nodup) (ho : order.toFinset = (d.session s).subscribers.keys) :
    Ledger (d.fanOutChunk s order b) := by
  obtain ⟨e, f, he⟩ := d.exists_fanOutChunk s order b
  have hdrawn : (d.fanOutChunk s order b).drawn = d.drawn := by
    rw [he]
    exact f.frame.drawn
  have hchunks : ((d.fanOutChunk s order b).session s).chunks = (d.session s).chunks ++ [b] := by
    rw [he, setSession_session, Function.update_self, f.frame.chunks]
  refine ⟨fun r t y hy => ?_, fun t c => ?_, fun t c h => ?_, fun t u D E hD hE => ?_,
    fun t D hD => ?_⟩
  · by_cases hr : r = s
    · -- What the chunk does to a subscriber of the session is in its tap.
      subst hr
      have htap := tap_fanOutChunk (b := b) (hG.apart r) hn ho t
      rw [tap, hy, Option.map_some] at htap
      obtain ⟨p, hp, hq⟩ := Option.bind_eq_some_iff.1 htap.symm
      obtain ⟨x, hx, rfl⟩ := Option.map_eq_some_iff.1 hp
      obtain ⟨since, hi⟩ := hG.account r t x hx
      obtain ⟨ns, hns, hbal⟩ := hi.balanced
      obtain ⟨htx, hev, ns', hns', hbal'⟩ := Tap.balanced_offer hq hns hbal
      refine ⟨since, ?_, ?_, ns', hns', ?_⟩
      · rw [hdrawn, htx, hev]
        exact hi.drawn
      · rw [hchunks, List.length_append]
        exact Nat.le_add_right_of_le hi.since_le
      · rw [hchunks, List.drop_append_of_le_length hi.since_le]
        exact hbal'
    · -- The others have nothing to do with it.
      have hses : (d.fanOutChunk s order b).session r = d.session r := by
        rw [he, setSession_session, Function.update_of_ne hr, f.session_of_ne r hr]
      rw [hses] at hy
      obtain ⟨since, hi⟩ := hG.account r t y hy
      have hno : t ∉ (d.session s).subscribers := by
        intro hmem
        have h₁ := hL.token_of_subscriber s t hmem
        rw [hL.token_of_subscriber r t (Finmap.mem_of_lookup_eq_some hy)] at h₁
        exact hr (Option.some.inj h₁)
      have hchan : (d.fanOutChunk s order b).chan y.tx = d.chan y.tx := by
        refine chan_fanOutChunk_of_ne fun u x hx htx => ?_
        obtain ⟨since', hi'⟩ := hG.account s u x hx
        rw [hG.chan_inj t u _ _ hi.drawn hi'.drawn htx] at hno
        exact hno (Finmap.mem_of_lookup_eq_some hx)
      refine ⟨since, by rw [hdrawn]; exact hi.drawn, by rw [hses]; exact hi.since_le, ?_⟩
      rw [told_fanOutChunk_of_notMem ho hno, hses, hchan]
      exact hi.balanced
  · cases hx : (d.session s).subscribers.lookup t with
    | none =>
      rw [told_fanOutChunk_of_notMem ho (Finmap.lookup_eq_none.1 hx)]
      exact hG.told t c
    | some x =>
      by_cases hc : c = x.events
      · subst hc
        obtain ⟨since, hi⟩ := hG.account s t x hx
        obtain ⟨ns, hns, -⟩ := hi.balanced
        rcases told_fanOutChunk (b := b) hn hx with h | h <;> rw [h]
        · exact hG.told t x.events
        · rw [hns]
          exact .append_flush x
      · rw [told_fanOutChunk_of_ne hx hc]
        exact hG.told t c
  · rw [hdrawn]
    cases hx : (d.session s).subscribers.lookup t with
    | none =>
      rw [told_fanOutChunk_of_notMem ho (Finmap.lookup_eq_none.1 hx)] at h
      exact hG.drawn_of_told t c h
    | some x =>
      by_cases hc : c = x.events
      · obtain ⟨since, hi⟩ := hG.account s t x hx
        exact ⟨_, hi.drawn, hc.symm⟩
      · rw [told_fanOutChunk_of_ne hx hc] at h
        exact hG.drawn_of_told t c h
  · rw [hdrawn] at hD hE
    exact hG.chan_inj t u D E hD hE
  · rw [hdrawn] at hD
    rw [made_fanOutChunk]
    exact hG.made t D hD

/-! ### The end -/

theorem Ledger.endFirst (hG : Ledger d) (hL : Linked d) {s : SessionId}
    {walk order : List Token} {error : Option String} (hw : ∀ t, d.tokens t = some s → t ∈ walk)
    (hn : order.Nodup) (ho : order.toFinset = (d.session s).subscribers.keys) :
    Ledger (d.endFirst s walk order error) := by
  have hE := d.ended_endFirst walk error hw ho
  have hsent : ∀ k, ((d.endFirst s walk order error).chan k).queue.sent =
      (d.chan k).queue.sent := fun k => congrArg (·.queue.sent) (hE.chan k)
  have hmade : ∀ k, ((d.endFirst s walk order error).chan k).made = (d.chan k).made :=
    fun k => congrArg (·.made) (hE.chan k)
  refine ⟨fun r t y hy => ?_, fun t c => ?_, fun t c h => ?_, fun t u D E hD hE' => ?_,
    fun t D hD => ?_⟩
  · by_cases hr : r = s
    · subst hr
      have := Finmap.mem_keys.2 (Finmap.mem_of_lookup_eq_some hy)
      rw [hE.keys] at this
      exact absurd this (Finset.notMem_empty t)
    · rw [hE.session_of_ne r hr] at hy
      obtain ⟨since, hi⟩ := hG.account r t y hy
      have hno : t ∉ (d.session s).subscribers := by
        intro hmem
        have h₁ := hL.token_of_subscriber s t hmem
        rw [hL.token_of_subscriber r t (Finmap.mem_of_lookup_eq_some hy)] at h₁
        exact hr (Option.some.inj h₁)
      refine ⟨since, by rw [hE.drawn]; exact hi.drawn,
        by rw [hE.session_of_ne r hr]; exact hi.since_le, ?_⟩
      rw [told_endFirst_of_notMem ho hno, hE.session_of_ne r hr, hsent]
      exact hi.balanced
  · cases hx : (d.session s).subscribers.lookup t with
    | none =>
      rw [told_endFirst_of_notMem ho (Finmap.lookup_eq_none.1 hx)]
      exact hG.told t c
    | some x =>
      rw [told_endFirst hn ho hx]
      split_ifs with hc
      · subst hc
        obtain ⟨since, hi⟩ := hG.account s t x hx
        obtain ⟨ns, hns, -⟩ := hi.balanced
        rw [hns, ← List.append_assoc]
        unfold Subscriber.flush
        split
        · exact ⟨ns ++ [x.dropped], [error.getD ""], by simp, le_refl 1⟩
        · exact ⟨ns, [error.getD ""], by simp, le_refl 1⟩
      · rw [List.append_nil]
        exact hG.told t c
  · rw [hE.drawn]
    cases hx : (d.session s).subscribers.lookup t with
    | none =>
      rw [told_endFirst_of_notMem ho (Finmap.lookup_eq_none.1 hx)] at h
      exact hG.drawn_of_told t c h
    | some x =>
      rw [told_endFirst hn ho hx] at h
      by_cases hc : c = x.events
      · obtain ⟨since, hi⟩ := hG.account s t x hx
        exact ⟨_, hi.drawn, hc.symm⟩
      · rw [if_neg hc, List.append_nil] at h
        exact hG.drawn_of_told t c h
  · rw [hE.drawn] at hD hE'
    exact hG.chan_inj t u D E hD hE'
  · rw [hE.drawn] at hD
    rw [hmade]
    exact hG.made t D hD

/-! ### Every step -/

theorem Ledger.shift (hG : Ledger d) (hL : Linked d) {a : Act} (hf : Fresh d a)
    (h : Shift d a d') : Ledger d' := by
  cases h with
  | calm ha => exact hG
  | release ha => exact hG.release _
  | join ha hs hd =>
    subst ha
    exact hG.subscribe hd (hf _ rfl)
  | publish ha hs hd =>
    subst ha
    exact (hG.addSession rfl).subscribe hd (hf _ rfl)
  | unsubscribed ha hs => exact hG.addSession rfl
  | chunk ha hs hn ho => exact hG.fanOutChunk hL hn ho
  | closeIfIdle ha hs => exact hG.closeIfIdle _
  | leave ha hs hb => exact hG.setSession rfl rfl
  | endFirst ha hs hw hn ho => exact hG.endFirst hL hw hn ho

theorem answering_reachable {devices : List Device} (h : Reachable Step (init devices) d) :
    Answering d :=
  h.invariant (answering_init devices) fun _ _ _ _ hA hs => answering_step hA hs

theorem ledger_step (hG : Ledger d) (hL : Linked d) (hA : Answering d) {a : Act}
    (hs : Restrict Step Fresh d a d') : Ledger d' := by
  obtain ⟨e, hshift, hcalm⟩ := step_shift hs.1
  exact (hG.shift hL hs.2 hshift).calm (hA.same (handler_shift hshift)) hcalm

theorem ledger_reachable {devices : List Device}
    (h : Reachable (Restrict Step Fresh) (init devices) d) : Ledger d :=
  h.invariant (ledger_init devices) fun _ _ _ hreach hG hs =>
    ledger_step hG (linked_reachable hreach.of_restrict)
      (answering_reachable hreach.of_restrict) hs

/-! ## Tokens no one takes any more -/

/-- The token `t` was drawn, no one takes its stream any more, and `m` is all it was told. -/
structure Silent (t : Token) (m : ConnId → List Notice) (d : Daemon) : Prop where
  drawn : d.drawn t ≠ none
  left : ∀ s, (d.session s).subscribers.lookup t = none
  told : ∀ c, d.told t c = m c

variable {t : Token} {m : ConnId → List Notice}

theorem Silent.calm (hS : Silent t m d) (hA : Answering d) (h : Calm d d') : Silent t m d' :=
  ⟨by rw [h.drawn]; exact hS.drawn, fun s => by rw [h.subscribers]; exact hS.left s,
    fun c => (h.told hA t c).trans (hS.told c)⟩

theorem Silent.setSession (hS : Silent t m d) {s : SessionId} {S : Session}
    (hm : S.subscribers.lookup t = none) : Silent t m (d.setSession s S) := by
  refine ⟨hS.drawn, fun r => ?_, hS.told⟩
  rw [setSession_session, Function.update_apply]
  split_ifs
  · exact hm
  · exact hS.left r

theorem Silent.subscribe (hS : Silent t m d) {s : SessionId} {c : ConnId} {u : Token} {k : ChanId}
    (hu : d.drawn u = none) : Silent t m (d.subscribe s c u k) := by
  have hne : t ≠ u := by
    rintro rfl
    exact hS.drawn hu
  refine ⟨?_, fun r => ?_, hS.told⟩
  · rw [show (d.subscribe s c u k).drawn t = d.drawn t from Function.update_of_ne hne ..]
    exact hS.drawn
  · rw [session_subscribe, Function.update_apply]
    split_ifs with e
    · exact (Finmap.lookup_insert_of_ne _ hne).trans (hS.left s)
    · exact hS.left r

theorem Silent.shift (hS : Silent t m d) {a : Act} (hf : Fresh d a) (h : Shift d a d') :
    Silent t m d' := by
  have hadd : ∀ {s : SessionId} {S : Session}, S.subscribers = ∅ →
      Silent t m (d.addSession s S) := by
    intro s S hm
    refine ⟨hS.drawn, fun r => ?_, hS.told⟩
    rw [addSession_session, Function.update_apply]
    split_ifs
    · rw [hm, Finmap.lookup_empty]
    · exact hS.left r
  cases h with
  | calm ha => exact hS
  | @release u ha =>
    refine ⟨by rw [(d.frame_release u).drawn]; exact hS.drawn, fun s => ?_,
      fun c => (told_release d u t c).trans (hS.told c)⟩
    rw [session_release]
    split_ifs
    · refine Finmap.lookup_eq_none.2 fun h => ?_
      exact Finmap.lookup_eq_none.1 (hS.left s) (Finmap.mem_erase.1 h).2
    · exact hS.left s
  | join ha hs hd =>
    subst ha
    exact hS.subscribe (hf _ rfl)
  | publish ha hs hd =>
    subst ha
    exact (hadd rfl).subscribe (hf _ rfl)
  | unsubscribed ha hs => exact hadd rfl
  | @chunk s order b ha hs hn ho =>
    obtain ⟨e, f, he⟩ := d.exists_fanOutChunk s order b
    refine ⟨by rw [he, setSession_drawn, f.frame.drawn]; exact hS.drawn, fun r => ?_, fun c => ?_⟩
    · rw [he, setSession_session, Function.update_apply]
      by_cases hr : r = s
      · rw [if_pos hr]
        refine Finmap.lookup_eq_none.2 fun h => ?_
        exact Finmap.lookup_eq_none.1 (hS.left s) (Finmap.mem_keys.1 (f.keys (Finmap.mem_keys.2 h)))
      · rw [if_neg hr, f.session_of_ne r hr]
        exact hS.left r
    · exact (told_fanOutChunk_of_notMem ho (Finmap.lookup_eq_none.1 (hS.left s)) c).trans
        (hS.told c)
  | @closeIfIdle s ha hs =>
    unfold Daemon.closeIfIdle
    split
    · have hU : Silent t m (d.unlist s) := ⟨hS.drawn, hS.left, hS.told⟩
      exact hU.setSession (hS.left s)
    · exact hS.setSession (hS.left s)
  | @leave s b error ha hs hb => exact hS.setSession (hS.left s)
  | @endFirst s walk order error ha hs hw hn ho =>
    have hE := d.ended_endFirst walk error hw ho
    refine ⟨by rw [hE.drawn]; exact hS.drawn, fun r => ?_, fun c => ?_⟩
    · by_cases hr : r = s
      · rw [hr]
        refine Finmap.lookup_eq_none.2 fun h => ?_
        rw [← Finmap.mem_keys, hE.keys] at h
        exact absurd h (Finset.notMem_empty t)
      · rw [hE.session_of_ne r hr]
        exact hS.left r
    · exact (told_endFirst_of_notMem ho (Finmap.lookup_eq_none.1 (hS.left s)) c).trans
        (hS.told c)

theorem Silent.step (hS : Silent t m d) (hA : Answering d) {a : Act}
    (hs : Restrict Step Fresh d a d') : Silent t m d' := by
  obtain ⟨e, hshift, hcalm⟩ := step_shift hs.1
  exact (hS.shift hs.2 hshift).calm (hA.same (handler_shift hshift)) hcalm

/-- Nothing is said of a token no one takes any more. -/
theorem Silent.reachable {devices : List Device} (hS : Silent t m d)
    (hd : Reachable Step (init devices) d) (h : Reachable (Restrict Step Fresh) d d') :
    Silent t m d' :=
  h.invariant hS fun _ _ _ hreach hS hs =>
    hS.step (answering_reachable (hd.trans hreach.of_restrict)) hs

/-- A release leaves no one to take the stream of its token. -/
theorem silent_of_released (hL : Linked d) (hA : Answering d) {a : Act} (hs : Step d a d')
    (ha : d.released a = some t) (ht : d.drawn t ≠ none) : Silent t (d.told t) d' := by
  have hcalm := step_released hs ha
  have hR : Silent t (d.told t) (d.release t) := by
    refine ⟨by rw [(d.frame_release t).drawn]; exact ht, fun s => ?_, told_release d t t⟩
    rw [session_release]
    split_ifs with e
    · exact Finmap.lookup_erase _ _
    · exact Finmap.lookup_eq_none.2 fun h => e (hL.token_of_subscriber s t h)
  exact hR.calm (hA.same (d.frame_release t).handler) hcalm

/-! ## The law -/

/-- The bytes of some chunks. -/
def bytes (l : List Chunk) : Nat := (l.map List.length).sum

theorem Account.law {s : SessionId} {x : Subscriber} {since : Nat} (h : Account d s t x since) :
    (d.chan x.tx).queue.sent.Sublist ((d.session s).chunks.drop since) ∧
      bytes ((d.session s).chunks.drop since) =
        bytes (d.chan x.tx).queue.sent + droppedBytes (d.told t x.events) + x.dropped := by
  obtain ⟨ns, hns, hb⟩ := h.balanced
  refine ⟨hb.sublist, ?_⟩
  rw [hns, droppedBytes_map]
  exact hb.total

/-- **Every byte fanned out is delivered in order or counted as dropped, once.** In order: the
account of each subscriber balances; a chunk does to each what it would do to it alone; `end`
tells each what it lost before the end; a token is told of drops and then of at most one end, on
one connection; and after a release it is told nothing more. -/
theorem delivered_or_dropped_once {devices : List Device}
    (hd : Reachable (Restrict Step Fresh) (init devices) d) :
    (∀ s t x, (d.session s).subscribers.lookup t = some x →
      ∃ since, d.drawn t = some ⟨x.events, s, x.tx, since⟩ ∧
        (d.chan x.tx).queue.sent.Sublist ((d.session s).chunks.drop since) ∧
        bytes ((d.session s).chunks.drop since) =
          bytes (d.chan x.tx).queue.sent + droppedBytes (d.told t x.events) + x.dropped) ∧
    (∀ s order c d', Step d (.chunk s order c) d' →
      ∀ t, d'.tap s t = (d.tap s t).bind (Tap.offer c)) ∧
    (∀ s walk order d', Step d (.endFirst s walk order) d' → ∃ error : String,
      ∀ t x, (d.session s).subscribers.lookup t = some x →
        d'.told t x.events = d.told t x.events ++ x.flush ++ [.ended error]) ∧
    (∀ t c, Told (d.told t c) ∧ ∀ c', d.told t c ≠ [] → d.told t c' ≠ [] → c' = c) ∧
    (∀ t a d₁ d₂, d.drawn t ≠ none → d.released a = some t → Restrict Step Fresh d a d₁ →
      Reachable (Restrict Step Fresh) d₁ d₂ → ∀ c, d₂.told t c = d.told t c) := by
  have hG := ledger_reachable hd
  have hL := linked_reachable hd.of_restrict
  have hA := answering_reachable hd.of_restrict
  refine ⟨fun s t x hx => ?_, fun s order c d' hs t => ?_, fun s walk order d' hs => ?_,
    fun t c => ⟨hG.told t c, fun c' h h' => ?_⟩, fun t a d₁ d₂ ht ha hs hreach c => ?_⟩
  · obtain ⟨since, hi⟩ := hG.account s t x hx
    exact ⟨since, hi.drawn, hi.law⟩
  · cases hs with
    | chunk hr hn ho => exact tap_fanOutChunk (hG.apart s) hn ho t
  · cases hs with
    | @endFirst _ _ _ error hr hw hn ho =>
      refine ⟨error.getD "", fun t x hx => ?_⟩
      rw [told_endFirst hn ho hx, if_pos rfl, List.append_assoc]
  · obtain ⟨D, hD, rfl⟩ := hG.drawn_of_told t c h
    obtain ⟨E, hE, rfl⟩ := hG.drawn_of_told t c' h'
    cases hD.symm.trans hE
    rfl
  · have hS := silent_of_released hL hA hs.1 ha ht
    exact (hS.reachable ((hd.snoc hs).of_restrict) hreach).told c

/-! ## Falling behind -/

/-- The one subscriber of the session 0 takes nothing: the chunks `bs` wait for it, and it has lost
`lost` bytes. -/
structure Behind (d : Daemon) (bs : List Chunk) (lost : Nat) : Prop where
  running : (d.session 0).fanOut = .running
  keys : (d.session 0).subscribers.keys = {7}
  sub : (d.session 0).subscribers.lookup 7 = some ⟨0, 0, lost⟩
  rx : (d.chan 0).rx = true
  sent : (d.chan 0).queue.sent = bs
  taken : (d.chan 0).queue.taken = 0

theorem behind_granted : Behind granted [] 0 where
  running := rfl
  keys := rfl
  sub := rfl
  rx := rfl
  sent := rfl
  taken := rfl

section Behind

variable {bs : List Chunk} {n : Nat}

theorem Behind.length_queue (h : Behind d bs n) : (d.chan 0).queue.queue.length = bs.length := by
  rw [Fifo.queue, h.sent, h.taken, List.drop_zero]

theorem keys_insert_seven {m : Finmap fun _ : Token => Subscriber} (h : m.keys = {7})
    (x : Subscriber) : (m.insert 7 x).keys = {7} := by
  ext t
  rw [Finmap.mem_keys, Finmap.mem_insert, ← Finmap.mem_keys, h, Finset.mem_singleton, or_self]

/-- A turn of the loop after which the subscriber is `⟨0, 0, n⟩` and `bs` was sent. -/
theorem behind_turn {b : Chunk} (hk : ((d.offer 0 b 7).session 0).subscribers.keys = {7})
    (hx : ((d.offer 0 b 7).session 0).subscribers.lookup 7 = some ⟨0, 0, n⟩)
    (hr : ((d.offer 0 b 7).chan 0).rx = true) (hs : ((d.offer 0 b 7).chan 0).queue.sent = bs)
    (ht : ((d.offer 0 b 7).chan 0).queue.taken = 0) : Behind (d.fanOutChunk 0 [7] b) bs n := by
  have hS : (d.fanOutChunk 0 [7] b).session 0 = { (d.offer 0 b 7).session 0 with
      chunks := ((d.offer 0 b 7).session 0).chunks ++ [b]
      fanOut := if ((d.offer 0 b 7).session 0).subscribers.keys = ∅ then .checking
        else .running } := by
    unfold fanOutChunk
    rw [setSession_session, Function.update_self]
    rfl
  refine ⟨?_, by rwa [hS], by rwa [hS], hr, hs, ht⟩
  rw [hS, hk]
  rfl

/-- While its channel has room a chunk is put into it. -/
theorem Behind.keep (h : Behind d bs 0) (hl : bs.length < BACKLOG) (b : Chunk) :
    Behind (d.fanOutChunk 0 [7] b) (bs ++ [b]) 0 := by
  have hk : (d.chan 0).trySend b =
      .ok { d.chan 0 with queue := (d.chan 0).queue.push b } := by
    rw [Chan.trySend, if_neg (by rw [h.rx]; nofun), h.length_queue, if_pos hl]
  have he : d.offer 0 b 7 = (d.setChan 0 { d.chan 0 with
      queue := (d.chan 0).queue.push b }).setSubscribers 0
        ((d.session 0).subscribers.insert 7 ⟨0, 0, 0⟩) := by
    unfold offer
    rw [h.sub]
    dsimp only
    rw [hk]
    rfl
  refine behind_turn ?_ ?_ ?_ ?_ ?_ <;> rw [he]
  · rw [lookup_setSubscribers]
    exact keys_insert_seven h.keys _
  · rw [lookup_setSubscribers]
    exact Finmap.lookup_insert _
  · exact h.rx
  · exact congrArg (· ++ [b]) h.sent
  · exact h.taken

/-- With its channel full the bytes of a chunk are counted as lost. -/
theorem Behind.lose (h : Behind d bs n) (hl : bs.length = BACKLOG) (b : Chunk) :
    Behind (d.fanOutChunk 0 [7] b) bs (n + b.length) := by
  have hk : (d.chan 0).trySend b = .error .full := by
    rw [Chan.trySend, if_neg (by rw [h.rx]; nofun), h.length_queue, hl, if_neg (Nat.lt_irrefl _)]
  have he : d.offer 0 b 7 = d.setSubscribers 0
      ((d.session 0).subscribers.insert 7 ⟨0, 0, n + b.length⟩) := by
    unfold offer
    rw [h.sub]
    dsimp only
    rw [hk]
  refine behind_turn ?_ ?_ ?_ ?_ ?_ <;> rw [he]
  · rw [lookup_setSubscribers]
    exact keys_insert_seven h.keys _
  · rw [lookup_setSubscribers]
    exact Finmap.lookup_insert _
  · exact h.rx
  · exact h.sent
  · exact h.taken

theorem Behind.step (h : Behind d bs n) (b : Chunk) :
    Restrict Step Fresh d (.chunk 0 [7] b) (d.fanOutChunk 0 [7] b) :=
  (Step.chunk h.running (List.nodup_singleton 7) h.keys.symm).fresh rfl

end Behind

theorem exists_behind {n : Nat} (hn : n ≤ BACKLOG) : ∃ d,
    Reachable (Restrict Step Fresh) (init oneTuner) d ∧ Behind d (List.replicate n [0x47]) 0 := by
  induction n with
  | zero => exact ⟨granted, reachable_granted.mono fun _ _ h => h.1, behind_granted⟩
  | succ n ih =>
    obtain ⟨d, hd, h⟩ := ih (Nat.le_of_succ_le hn)
    refine ⟨_, hd.snoc (h.step [0x47]), ?_⟩
    rw [List.replicate_succ']
    exact h.keep (by rwa [List.length_replicate]) _

/-- As many chunks as a client may fall behind by, and one more, which is lost. -/
theorem delivered_or_dropped_once_behind : ∃ d,
    Reachable (Restrict Step Fresh) (init oneTuner) d ∧
      (d.session 0).subscribers.lookup 7 = some ⟨0, 0, 2⟩ ∧
      (d.chan 0).queue.sent = List.replicate BACKLOG [0x47] ∧
      ∃ since, bytes ((d.session 0).chunks.drop since) =
        bytes (d.chan 0).queue.sent + droppedBytes (d.told 7 0) + 2 := by
  obtain ⟨d, hd, h⟩ := exists_behind (Nat.le_refl BACKLOG)
  have hd' := hd.snoc (h.step [0x47, 0x1f])
  have h' := h.lose List.length_replicate [0x47, 0x1f]
  obtain ⟨since, -, -, hb⟩ := (delivered_or_dropped_once hd').1 0 7 _ h'.sub
  exact ⟨_, hd', h'.sub, h'.sent, since, hb⟩

end Tunelith.Tunelithd
