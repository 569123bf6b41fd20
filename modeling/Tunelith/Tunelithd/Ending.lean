import Tunelith.Tunelithd.Receivers

/-!
# How a stream ends

As long as someone has the receiver of a stream and no one releases it, its session has it among
its subscribers, until `end` tells its client (`Fed.step`). The client is told nothing before its
data connection attaches (`Unheard`), and by its end all that it lost (`Settled`).
-/

namespace Tunelith.Tunelithd

open Daemon Lts Proto

variable {d d' : Daemon} {a : Act} {s : SessionId} {t : Token} {c : ConnId}

/-! ## What a step does to a subscriber -/

/-- What a step leaves of the subscriber under `t` of the session `s`. -/
inductive Subscriber.Turn (d d' : Daemon) (s : SessionId) (t : Token) :
    Act → Option Subscriber → Prop
  | stay {a : Act} : Subscriber.Turn d d' s t a ((d.session s).subscribers.lookup t)
  | draw {a : Act} {x : Subscriber} (ha : a.draws = some t) (hx : x.dropped = 0)
      (hrx : (d'.chan x.tx).rx = true) : Subscriber.Turn d d' s t a (some x)
  | chunk {order : List Token} {b : Chunk}
      (hp : d'.tap s t = (d.tap s t).bind (Tap.offer b)) :
      Subscriber.Turn d d' s t (.chunk s order b) (((d.tap s t).bind (Tap.offer b)).map (·.sub))
  | release {a : Act} (ha : d.released a = some t) : Subscriber.Turn d d' s t a none
  | endFirst {walk order : List Token} : Subscriber.Turn d d' s t (.endFirst s walk order) none

theorem sub_tap (d : Daemon) (s : SessionId) (t : Token) :
    (d.tap s t).map (·.sub) = (d.session s).subscribers.lookup t := by
  unfold tap
  cases (d.session s).subscribers.lookup t <;> rfl

theorem subscribers_closeIfIdle (d : Daemon) (r s : SessionId) :
    ((d.closeIfIdle r).session s).subscribers = (d.session s).subscribers := by
  unfold Daemon.closeIfIdle setFanOut
  split <;> rw [setSession_session, Function.update_apply] <;> split_ifs with h
  · rw [h]
    rfl
  · rfl
  · rw [h]
  · rfl

theorem sub_turn (hL : Linked d) (hG : Ledger d) (hs : Step d a d') (s : SessionId) (t : Token) :
    Subscriber.Turn d d' s t a ((d'.session s).subscribers.lookup t) := by
  -- A session whose subscribers stay.
  have hset : ∀ {r : SessionId} {S : Session}, S.subscribers = (d.session r).subscribers →
      Subscriber.Turn d d' s t a (((d.setSession r S).session s).subscribers.lookup t) := by
    intro r S hS
    rw [setSession_session, Function.update_apply]
    split_ifs with hr
    · rw [hS, ← hr]
      exact .stay
    · exact .stay
  have hR : ∀ {u}, d.released a = some u →
      Subscriber.Turn d d' s t a (((d.release u).session s).subscribers.lookup t) := by
    intro u hu
    rw [session_release]
    split_ifs with hus
    · by_cases htu : t = u
      · subst htu
        rw [Finmap.lookup_erase]
        exact .release hu
      · rw [Finmap.lookup_erase_ne htu]
        exact .stay
    · exact .stay
  have hsub : ∀ {e : Daemon} {h r draw}, a.draws = draw.map Prod.fst →
      (e.subscribed h r draw).chan = d'.chan →
      (e.session s).subscribers.lookup t = (d.session s).subscribers.lookup t →
      Subscriber.Turn d d' s t a
        (((e.subscribed h r draw).session s).subscribers.lookup t) := by
    intro e h r draw ha hchan he
    cases draw with
    | none =>
      refine (?_ : Subscriber.Turn d d' s t a ((e.session s).subscribers.lookup t))
      rw [he]
      exact .stay
    | some p =>
      obtain ⟨u, k⟩ := p
      rw [Daemon.subscribed, goto_session, session_subscribe, Function.update_apply]
      split_ifs with hr
      · by_cases htu : t = u
        · subst htu
          rw [Finmap.lookup_insert]
          refine .draw ha rfl ?_
          rw [← hchan]
          exact congrArg (fun K : Chan => K.rx)
            (Function.update_self k ({ made := true, rx := true } : Chan) e.chan)
        · rw [Finmap.lookup_insert_of_ne _ htu, ← hr, he]
          exact .stay
      · rw [he]
        exact .stay
  cases hs
  case cleanUp => exact hR rfl
  case forsake hh => exact hR (by simp [released, hh])
  case release hh => exact hR (by simp [released, hh])
  case join => exact hsub rfl rfl rfl
  case publish h job id left format r draw hh hr hd =>
    refine hsub rfl rfl ?_
    rw [addSession_session, Function.update_apply]
    split_ifs with hrs
    · -- A session that is new had no subscriber.
      subst hrs
      have hnone : (d.session s).subscribers.lookup t = none :=
        Finmap.lookup_eq_none.2 fun hm => hL.ne_absent (hL.token_of_subscriber s t hm) hr
      rw [hnone]
      exact Finmap.lookup_empty t
    · rfl
  case detach x u k hx =>
    have hrel := hR (u := u) (by simp [released, hx])
    cases k <;> exact hrel
  case lock => exact hset rfl
  case measured => exact hset rfl
  case reserve =>
    unfold Daemon.reserve
    split <;> split <;> exact .stay
  case retry =>
    unfold Daemon.reserve
    split <;> split <;> exact .stay
  case chunk r order b hr hn ho =>
    by_cases hrs : s = r
    · subst hrs
      have htap := tap_fanOutChunk (b := b) (hG.apart s) hn ho t
      rw [← sub_tap, htap]
      exact .chunk htap
    · obtain ⟨e, f, he⟩ := d.exists_fanOutChunk r order b
      have hses : (d.fanOutChunk r order b).session s = d.session s := by
        rw [he, setSession_session, Function.update_of_ne hrs, f.session_of_ne s hrs]
      rw [hses]
      exact .stay
  case closeIfIdle r hr =>
    rw [subscribers_closeIfIdle]
    exact .stay
  case sourceEnd => exact hset rfl
  case stopped => exact hset rfl
  case endFirst r walk order error hr hw hn ho =>
    have hE := d.ended_endFirst walk error hw ho
    by_cases hrs : s = r
    · subst hrs
      rw [Finmap.lookup_eq_none.2 fun hm => ?_]
      · exact .endFirst
      · rw [← Finmap.mem_keys, hE.keys] at hm
        exact Finset.notMem_empty t hm
    · rw [hE.session_of_ne s hrs]
      exact .stay
  case takeTuner => exact hset rfl
  case noTunerLeft => exact hset rfl
  case closed => exact hset rfl
  case endLast => exact hset rfl
  all_goals exact .stay

/-! ## What a step tells of a stream -/

/-- A client is told of a stream as its session fans out, what it lost, or ends, for good. -/
theorem told_cases (hA : Answering d) (hs : Step d a d') (t : Token) (c : ConnId) :
    d'.told t c = d.told t c ∨
      (∃ s order b x, a = .chunk s order b ∧ (d.session s).subscribers.lookup t = some x ∧
        x.events = c ∧ d'.told t c = d.told t c ++ x.flush) ∨
      ∃ s walk order x error, a = .endFirst s walk order ∧
        (d.session s).subscribers.lookup t = some x ∧ x.events = c ∧
        d'.told t c = d.told t c ++ x.flush ++ [.ended error] := by
  obtain ⟨e, hshift, hcalm⟩ := step_shift hs
  rw [hcalm.told (hA.same (handler_shift hshift))]
  cases hshift with
  | calm ha => exact .inl rfl
  | release ha => exact .inl (told_release d _ t c)
  | join ha hs hd => exact .inl rfl
  | publish ha hs hd => exact .inl rfl
  | unsubscribed ha hs => exact .inl rfl
  | @chunk s order b ha hr hn ho =>
    subst ha
    cases hx : (d.session s).subscribers.lookup t with
    | none => exact .inl (told_fanOutChunk_of_notMem ho (Finmap.lookup_eq_none.1 hx) c)
    | some x =>
      by_cases hc : x.events = c
      · subst hc
        exact (told_fanOutChunk hn hx).imp_right fun h =>
          .inl ⟨s, order, b, x, rfl, hx, rfl, h⟩
      · exact .inl (told_fanOutChunk_of_ne hx (Ne.symm hc))
  | closeIfIdle ha hr =>
    unfold Daemon.closeIfIdle
    split <;> exact .inl rfl
  | leave ha hr hb => exact .inl rfl
  | @endFirst s walk order error ha hr hw hn ho =>
    subst ha
    cases hx : (d.session s).subscribers.lookup t with
    | none => exact .inl (told_endFirst_of_notMem ho (Finmap.lookup_eq_none.1 hx) c)
    | some x =>
      rw [told_endFirst hn ho hx]
      split_ifs with hc
      · rw [← List.append_assoc]
        exact .inr (.inr ⟨s, walk, order, x, error.getD "", rfl, hx, hc.symm, rfl⟩)
      · exact .inl (List.append_nil _)

/-- What a client was told it was told. -/
theorem mem_told_step (hA : Answering d) (hs : Step d a d') {n : Notice}
    (hn : n ∈ d.told t c) : n ∈ d'.told t c := by
  rcases told_cases hA hs t c with he | ⟨_, _, _, _, -, -, -, he⟩ |
    ⟨_, _, _, _, _, -, -, -, he⟩
  · rwa [he]
  · rw [he]
    exact List.mem_append_left _ hn
  · rw [he]
    exact List.mem_append_left _ (List.mem_append_left _ hn)

/-! ## Streams that go on -/

/-- A session has the stream `t` among its subscribers, and someone has its receiver. -/
def Daemon.Fed (d : Daemon) (t : Token) : Prop :=
  ∃ s x, (d.session s).subscribers.lookup t = some x ∧ (d.chan x.tx).rx = true

theorem fed_of_draws (hs : Step d a d') (ha : a.draws = some t) : d'.Fed t := by
  have hsub : ∀ (e : Daemon) (h : HandlerId) (s : SessionId) (k : ChanId),
      (e.subscribed h s (some (t, k))).Fed t := by
    intro e h s k
    have hchan : (e.subscribed h s (some (t, k))).chan k = { made := true, rx := true } :=
      Function.update_self ..
    refine ⟨s, ⟨k, (e.handler h).conn, 0⟩, ?_, by rw [hchan]⟩
    rw [Daemon.subscribed, goto_session, session_subscribe, Function.update_self]
    exact Finmap.lookup_insert _
  cases hs
  case join h request params s draw hh hp hs hd =>
    obtain ⟨⟨u, k⟩, rfl, rfl⟩ := Option.map_eq_some_iff.1 ha
    exact hsub d h s k
  case publish h job id left format s draw hh hs hd =>
    obtain ⟨⟨u, k⟩, rfl, rfl⟩ := Option.map_eq_some_iff.1 ha
    exact hsub (d.addSession s (newSession job id format)) h s k
  all_goals cases ha

theorem Tap.offer_of_rx {p : Tap} {b : Chunk} (h : p.chan.rx = true) :
    ∃ q, p.offer b = some q := by
  unfold Tap.offer
  cases hk : p.chan.trySend b with
  | ok K => exact ⟨_, rfl⟩
  | error e =>
    cases e with
    | full => exact ⟨_, rfl⟩
    | closed =>
      unfold Chan.trySend at hk
      rw [h] at hk
      simp only [Bool.not_true, Bool.false_eq_true, if_false] at hk
      split_ifs at hk
      cases hk

theorem Tap.sub_offer {p q : Tap} {b : Chunk} (h : p.offer b = some q) :
    q.sub.tx = p.sub.tx ∧ q.sub.events = p.sub.events := by
  unfold Tap.offer at h
  split at h <;> cases h <;> exact ⟨rfl, rfl⟩

theorem tap_eq_some {p : Tap} (h : d.tap s t = some p) :
    (d.session s).subscribers.lookup t = some p.sub ∧ p.chan = d.chan p.sub.tx ∧
      p.told = d.told t p.sub.events := by
  obtain ⟨x, hx, rfl⟩ := Option.map_eq_some_iff.1 h
  exact ⟨hx, rfl, rfl⟩

/-- A stream that is not released goes on, or its client is told of its end. -/
theorem Daemon.Fed.step (hF : d.Fed t) (hL : Linked d) (hG : Ledger d) (hV : Receivers d)
    (hs : Restrict Step Fresh d a d') (hrel : d.released a ≠ some t)
    (hfail : ∀ x, a = .dataFail x → (d.data x).stage.token ≠ some t) :
    d'.Fed t ∨ ∃ D error, d.drawn t = some D ∧ .ended error ∈ d'.told t D.conn := by
  obtain ⟨s, x, hx, hrx⟩ := hF
  obtain ⟨since, hi⟩ := hG.account s t x hx
  have htok := hL.token_of_subscriber s t (Finmap.mem_of_lookup_eq_some hx)
  by_cases hend : ∃ walk order, a = .endFirst s walk order
  · obtain ⟨walk, order, rfl⟩ := hend
    cases hs.1 with
    | @endFirst _ _ _ error hr hw hn ho =>
      refine .inr ⟨_, error.getD "", hi.drawn, ?_⟩
      rw [told_endFirst hn ho hx, if_pos rfl]
      exact List.mem_append_right _ (List.mem_append_right _ (List.mem_singleton_self _))
  · have hrx' : (d'.chan x.tx).rx = true := by
      refine rx_step hV hG hs.1 hi.drawn hrx hrel (fun y hy hty => ?_) fun r walk order ha ht => ?_
      · rcases hy with rfl | hy
        · -- A data connection that ends its stream finds its sender gone.
          cases hs.1 with
          | @dataEnd _ u k hy hq hk =>
            rw [hy] at hty
            cases hty
            obtain ⟨-, E, hE, he⟩ := hV.token y t (by rw [hy]; rfl)
            cases hi.drawn.symm.trans hE
            exact hk s t x hx (he k (by rw [hy]; rfl))
        · exact hfail y hy hty
      · rw [htok] at ht
        cases ht
        exact hend ⟨walk, order, ha⟩
    refine .inl ?_
    have hturn := sub_turn hL hG hs.1 s t
    generalize hlook : (d'.session s).subscribers.lookup t = o at hturn
    cases hturn with
    | stay => exact ⟨s, x, hlook.trans hx, hrx'⟩
    | draw ha =>
      have := hs.2 t ha
      rw [hi.drawn] at this
      cases this
    | @chunk order b hp =>
      -- The receiver is there, so the subscriber stays whether or not there is room.
      obtain ⟨q, hq⟩ := Tap.offer_of_rx (b := b) (p := ⟨x, d.chan x.tx, d.told t x.events⟩) hrx
      rw [Daemon.tap, hx, Option.map_some, Option.bind_some, hq] at hlook
      exact ⟨s, q.sub, hlook, by rw [(Tap.sub_offer hq).1]; exact hrx'⟩
    | release ha => exact absurd ha hrel
    | endFirst => exact absurd ⟨_, _, rfl⟩ hend

/-! ## Before the data connection -/

/-- Of a stream no one has attached to, the client was told nothing: what it lost is not reported
before there is room in its channel again. -/
def Unheard (d : Daemon) : Prop :=
  ∀ t k, d.unattached t = some k → (∀ c, d.told t c = []) ∧
    ∀ s x, (d.session s).subscribers.lookup t = some x → x.dropped > 0 →
      BACKLOG ≤ (d.chan x.tx).queue.queue.length

theorem unheard_init (devices : List Device) : Unheard (init devices) := by
  intro t k h
  cases h

/-- A chunk that finds the channel of a stream full, or nothing lost, tells nothing. -/
theorem Tap.told_offer {p q : Tap} {b : Chunk} (h : p.offer b = some q)
    (hfull : p.sub.dropped > 0 → BACKLOG ≤ p.chan.queue.queue.length) :
    q.sub.events = p.sub.events ∧ q.told = p.told ∧
      (q.sub.dropped > 0 → BACKLOG ≤ q.chan.queue.queue.length) := by
  unfold Tap.offer at h
  cases hk : p.chan.trySend b with
  | ok K =>
    simp only [hk, Option.some.injEq] at h
    subst h
    have hno : ¬ p.sub.dropped > 0 := by
      intro hpos
      unfold Chan.trySend at hk
      split_ifs at hk with h₁ h₂
      exact absurd (hfull hpos) (Nat.not_le.2 h₂)
    refine ⟨rfl, ?_, fun hpos => absurd hpos (Nat.lt_irrefl 0)⟩
    dsimp only [Subscriber.flush]
    rw [if_neg hno, List.append_nil]
  | error e =>
    cases e with
    | full =>
      simp only [hk, Option.some.injEq] at h
      subst h
      refine ⟨rfl, rfl, fun _ => ?_⟩
      unfold Chan.trySend at hk
      split_ifs at hk with h₁ h₂
      · cases hk
      · exact Nat.not_lt.1 h₂
    | closed => simp [hk] at h

theorem unheard_step (hU : Unheard d) (hL : Linked d) (hG : Ledger d) (hV : Receivers d)
    (hA : Answering d) (hs : Restrict Step Fresh d a d') : Unheard d' := by
  intro t k ht
  rcases unattached_step hs.1 ht with hold | ⟨ha, -⟩
  · obtain ⟨htold, hfull⟩ := hU t k hold
    obtain ⟨⟨D, hD, rfl⟩, -, hrx⟩ := hV.unattached t k hold
    -- What a chunk does to the subscriber, whose receiver is there.
    have hchunk : ∀ {s order b x}, a = .chunk s order b →
        (d.session s).subscribers.lookup t = some x → ∃ q, d'.tap s t = some q ∧
          q.sub.events = x.events ∧ q.told = [] ∧
          (q.sub.dropped > 0 → BACKLOG ≤ q.chan.queue.queue.length) := by
      rintro s order b x rfl hx
      obtain ⟨since, hi⟩ := hG.account s t x hx
      cases hD.symm.trans hi.drawn
      cases hs.1 with
      | chunk hr hn ho =>
        obtain ⟨q, hq⟩ := Tap.offer_of_rx (b := b) (p := ⟨x, d.chan x.tx, d.told t x.events⟩) hrx
        obtain ⟨he, hqt, hqd⟩ := Tap.told_offer hq (hfull s x hx)
        refine ⟨q, ?_, he, hqt.trans (htold _), hqd⟩
        rw [tap_fanOutChunk (hG.apart s) hn ho t, Daemon.tap, hx]
        exact hq
    refine ⟨fun c => ?_, fun s y hy hpos => ?_⟩
    · rcases told_cases hA hs.1 t c with he | ⟨s, order, b, x, ha, hx, rfl, -⟩ |
        ⟨s, walk, order, x, error, rfl, hx, -⟩
      · rw [he, htold]
      · obtain ⟨q, hq, he, hnil, -⟩ := hchunk ha hx
        obtain ⟨-, -, htq⟩ := tap_eq_some hq
        rw [← he, ← htq, hnil]
      · cases hs.1 with
        | endFirst hr hw hn ho =>
          rw [(d.ended_endFirst walk _ hw ho).unattached,
            if_pos (hL.token_of_subscriber s t (Finmap.mem_of_lookup_eq_some hx))] at ht
          cases ht
    · have hturn := sub_turn hL hG hs.1 s t
      generalize hlook : (d'.session s).subscribers.lookup t = o at hturn
      cases hturn with
      | stay =>
        have hx := hlook.symm.trans hy
        obtain ⟨since, hi⟩ := hG.account s t y hx
        cases hD.symm.trans hi.drawn
        have hlen := hfull s y hx hpos
        have hchan := chan_turn hs.1 (hG.made t _ hD)
        generalize d'.chan y.tx = K at hchan
        cases hchan with
        | feed hext => exact hlen.trans hext.length_queue
        | recv hx' hc =>
          -- No data connection has the receiver.
          obtain ⟨hno, E, hE, he⟩ := hV.token _ _ (by rw [hx']; rfl)
          obtain rfl := hG.chan_inj t _ _ E hD hE (he _ (by rw [hx']; rfl)).symm
          rw [hold] at hno
          cases hno
        | stay => exact hlen
        | drop => exact hlen
      | draw ha =>
        rw [hs.2 t ha] at hD
        cases hD
      | chunk hp =>
        cases hx : (d.session s).subscribers.lookup t with
        | none =>
          rw [Daemon.tap, hx, hy] at hlook
          cases hlook
        | some x =>
          obtain ⟨q, hq, -, -, hqd⟩ := hchunk rfl hx
          obtain ⟨hsub, hchan, -⟩ := tap_eq_some hq
          obtain rfl := Option.some.inj (hsub.symm.trans hy)
          rw [← hchan]
          exact hqd hpos
      | release => rw [hy] at hlook; cases hlook
      | endFirst => rw [hy] at hlook; cases hlook
  · have hfresh := hs.2 t ha
    have hno : ∀ {s x}, (d.session s).subscribers.lookup t ≠ some x := by
      intro s x hx
      obtain ⟨since, hi⟩ := hG.account s t x hx
      have hD := hi.drawn
      rw [hfresh] at hD
      cases hD
    refine ⟨fun c => ?_, fun s y hy hpos => ?_⟩
    · rcases told_cases hA hs.1 t c with he | ⟨s, order, b, x, rfl, -⟩ |
        ⟨s, walk, order, x, error, rfl, -⟩
      · rw [he]
        by_contra hne
        obtain ⟨D, hD, -⟩ := hG.drawn_of_told t c hne
        rw [hfresh] at hD
        cases hD
      · cases ha
      · cases ha
    · have hturn := sub_turn hL hG hs.1 s t
      generalize hlook : (d'.session s).subscribers.lookup t = o at hturn
      cases hturn with
      | stay => exact absurd (hlook.symm.trans hy) hno
      | draw _ hx =>
        cases hlook.symm.trans hy
        rw [hx] at hpos
        exact absurd hpos (Nat.lt_irrefl 0)
      | chunk => cases ha
      | release => rw [hy] at hlook; cases hlook
      | endFirst => cases ha

theorem unheard_reachable {devices : List Device}
    (h : Reachable (Restrict Step Fresh) (init devices) d) : Unheard d :=
  h.invariant (unheard_init devices) fun _ _ _ hreach hU hs =>
    unheard_step hU (linked_reachable hreach.of_restrict) (ledger_reachable hreach)
      (receivers_reachable hreach) (answering_reachable hreach.of_restrict) hs

/-! ## After the end -/

/-- The fan-out of the session `s` is through. -/
def Daemon.Over (d : Daemon) (s : SessionId) : Prop :=
  (d.session s).fanOut ≠ .absent ∧ (d.session s).fanOut.isLooping = false

/-- A session that is through fans nothing out. -/
theorem Daemon.Over.step (ho : d.Over s) (hs : Step d a d') :
    d'.Over s ∧ (d'.session s).chunks = (d.session s).chunks := by
  obtain ⟨hne, hl⟩ := ho
  have hcalm : ∀ {e : Daemon}, e.Over s → Calm e d' →
      d'.Over s ∧ (d'.session s).chunks = (e.session s).chunks := by
    intro e he h
    refine ⟨⟨?_, by rw [h.isLooping]; exact he.2⟩, h.chunks s⟩
    rcases h.fanOut s with hf | ⟨-, hf | hf⟩
    · rw [hf]
      exact he.1
    · intro habs
      rw [habs] at hf
      cases hf
    · rw [hf]
      exact FanOut.noConfusion
  have hsame : ∀ {e : Daemon}, e.session s = d.session s → Calm e d' →
      d'.Over s ∧ (d'.session s).chunks = (d.session s).chunks := by
    intro e he h
    have := hcalm (by rw [Daemon.Over, he]; exact ⟨hne, hl⟩) h
    rwa [he] at this
  have hloop : ∀ {r}, (d.session r).fanOut.isLooping = true → s ≠ r := by
    rintro r hr rfl
    rw [hl] at hr
    cases hr
  obtain ⟨e, hshift, h⟩ := step_shift hs
  cases hshift with
  | calm ha => exact hsame rfl h
  | @release u ha =>
    have := hcalm (by rw [Daemon.Over, fanOut_release]; exact ⟨hne, hl⟩) h
    rwa [(d.frame_release u).chunks] at this
  | @join h' r c u k ha hr hd =>
    have hses : (d.subscribe r c u k).Over s ∧
        ((d.subscribe r c u k).session s).chunks = (d.session s).chunks := by
      rw [Daemon.Over, session_subscribe, Function.update_apply]
      split_ifs with e
      · rw [← e]
        exact ⟨⟨hne, hl⟩, rfl⟩
      · exact ⟨⟨hne, hl⟩, rfl⟩
    exact (hcalm hses.1 h).imp_right fun he => he.trans hses.2
  | @publish h' r c u k job id format ha hr hd =>
    have hrs : s ≠ r := by
      rintro rfl
      exact hne hr
    refine hsame ?_ h
    rw [session_subscribe, Function.update_of_ne hrs, addSession_session,
      Function.update_of_ne hrs]
  | @unsubscribed h' r job id format ha hr =>
    have hrs : s ≠ r := by
      rintro rfl
      exact hne hr
    refine hsame ?_ h
    rw [addSession_session, Function.update_of_ne hrs]
  | @chunk r order b ha hr hn ho =>
    have hrs : s ≠ r := hloop (by rw [hr]; rfl)
    obtain ⟨e, f, he⟩ := d.exists_fanOutChunk r order b
    refine hsame ?_ h
    rw [he, setSession_session, Function.update_of_ne hrs, f.session_of_ne s hrs]
  | @closeIfIdle r ha hr =>
    have hrs : s ≠ r := hloop (by rw [hr]; rfl)
    refine hsame ?_ h
    unfold Daemon.closeIfIdle setFanOut
    split <;> rw [setSession_session, Function.update_of_ne hrs]
    rfl
  | @leave r b error ha hr hb =>
    have hrs : s ≠ r := hloop (by rw [hr]; rfl)
    refine hsame ?_ h
    rw [setSession_session, Function.update_of_ne hrs]
  | @endFirst r walk order error ha hr hw hn ho =>
    have hrs : s ≠ r := hloop (by rw [hr]; rfl)
    exact hsame ((d.ended_endFirst walk error hw ho).session_of_ne s hrs) h

/-- The stream `t`, drawn as `D`, has ended, and all that was fanned out for it was sent to its
channel or told as lost. -/
structure Settled (d : Daemon) (t : Token) (D : Draw) : Prop where
  left : d.Left t
  tokens : d.tokens t = none
  past : d.Over D.session
  law : bytes ((d.session D.session).chunks.drop D.since) =
    bytes (d.chan D.chan).queue.sent + droppedBytes (d.told t D.conn)

/-- A stream whose end its client was told of is settled. -/
def AllSettled (d : Daemon) : Prop :=
  ∀ t D error, d.drawn t = some D → .ended error ∈ d.told t D.conn → Settled d t D

theorem allSettled_init (devices : List Device) : AllSettled (init devices) := by
  intro t D error hD
  cases hD

theorem Settled.step {D : Draw} (hS : Settled d t D) (hD : d.drawn t = some D) (hG : Ledger d)
    (hA : Answering d) (hs : Restrict Step Fresh d a d') : Settled d' t D := by
  have hne : d.drawn t ≠ none := by
    rw [hD]
    exact Option.some_ne_none D
  have hsil : Silent t (d.told t) d := ⟨hne, hS.left, fun _ => rfl⟩
  obtain ⟨hover, hchunks⟩ := hS.past.step hs.1
  refine ⟨hS.left.step hA hne hs, ?_, hover, ?_⟩
  · by_contra htok
    rcases token_of_step hs.1 htok with ⟨htok, -⟩ | ha
    · exact htok hS.tokens
    · exact hne (hs.2 t ha)
  · rw [hchunks, hS.left.sent hG hD hs.1, (hsil.step hA hs).told, hS.law]

/-- Once told of the end, a client is told no more. -/
theorem Told.eq_of_begins {l m : List Notice} {error : String} (h : Told l) (hm : m <+: l)
    (he : .ended error ∈ m) : m = l := by
  obtain ⟨ns, es, rfl, hes⟩ := h
  have hno : ∀ {k : List Notice}, k <+: ns.map .dropped → .ended error ∉ k := by
    intro k hk hmem
    obtain ⟨n, -, hn⟩ := List.mem_map.1 (hk.subset hmem)
    cases hn
  cases es with
  | nil =>
    rw [List.map_nil, List.append_nil] at hm
    exact absurd he (hno hm)
  | cons e es =>
    obtain rfl : es = [] :=
      List.eq_nil_of_length_eq_zero (Nat.le_zero.1 (Nat.le_of_succ_le_succ hes))
    rcases List.prefix_concat_iff.1 hm with h | h
    · exact h
    · exact absurd he (hno h)

/-- A client is told of one end. -/
theorem Told.ended_unique {l : List Notice} {error error' : String} (h : Told l)
    (he : .ended error ∈ l) (he' : .ended error' ∈ l) : error = error' := by
  obtain ⟨ns, es, rfl, hes⟩ := h
  have hmem : ∀ {error}, .ended error ∈ ns.map .dropped ++ es.map Notice.ended → error ∈ es := by
    intro error h
    simpa using h
  have h₁ := hmem he
  have h₂ := hmem he'
  cases es with
  | nil => cases h₁
  | cons e es =>
    obtain rfl : es = [] :=
      List.eq_nil_of_length_eq_zero (Nat.le_zero.1 (Nat.le_of_succ_le_succ hes))
    exact (List.mem_singleton.1 h₁).trans (List.mem_singleton.1 h₂).symm

theorem droppedBytes_flush (x : Subscriber) : droppedBytes x.flush = x.dropped := by
  unfold droppedBytes Subscriber.flush
  split
  · exact Nat.add_zero _
  · rename_i h
    exact (Nat.eq_zero_of_not_pos h).symm

theorem chunks_endFirst (d : Daemon) (s : SessionId) (walk order : List Token)
    (error : Option String) :
    ((d.endFirst s walk order error).session s).chunks = (d.session s).chunks := by
  rw [Daemon.endFirst, setFanOut, setSession_session, Function.update_self]
  exact (d.frame_endFirst s walk order error).chunks s

/-- The `end` of its session settles the stream of a subscriber. -/
theorem settled_endFirst (hL : Linked d) {walk order : List Token} {error : Option String}
    (hw : ∀ t, d.tokens t = some s → t ∈ walk) (hn : order.Nodup)
    (ho : order.toFinset = (d.session s).subscribers.keys) {x : Subscriber} {since : Nat}
    (hx : (d.session s).subscribers.lookup t = some x) (hi : Account d s t x since) :
    Settled (d.endFirst s walk order error) t ⟨x.events, s, x.tx, since⟩ := by
  have hE := d.ended_endFirst walk error hw ho
  have htok := hL.token_of_subscriber s t (Finmap.mem_of_lookup_eq_some hx)
  refine ⟨fun r => ?_, ?_, ⟨?_, ?_⟩, ?_⟩
  · refine Finmap.lookup_eq_none.2 fun hm => ?_
    by_cases hr : r = s
    · subst hr
      rw [← Finmap.mem_keys, hE.keys] at hm
      exact Finset.notMem_empty t hm
    · rw [hE.session_of_ne r hr] at hm
      rw [hL.token_of_subscriber r t hm] at htok
      exact hr (Option.some.inj htok)
  · rw [hE.tokens, if_pos htok]
  · rw [hE.fanOut]
    exact FanOut.noConfusion
  · rw [hE.fanOut]
    rfl
  · have hsent : ((d.endFirst s walk order error).chan x.tx).queue.sent =
        (d.chan x.tx).queue.sent := congrArg (·.queue.sent) (hE.chan x.tx)
    have hend : droppedBytes [Notice.ended (error.getD "")] = 0 := rfl
    dsimp only
    rw [chunks_endFirst, hi.law.2, hsent, told_endFirst hn ho hx, if_pos rfl,
      droppedBytes_append, droppedBytes_append, droppedBytes_flush, hend]
    omega

theorem allSettled_step (hS : AllSettled d) (hL : Linked d) (hG : Ledger d) (hA : Answering d)
    (hs : Restrict Step Fresh d a d') : AllSettled d' := by
  intro t D error hD hend
  -- What was settled stays so.
  have hold : Notice.ended error ∈ d.told t D.conn → Settled d' t D := by
    intro hend
    obtain ⟨E, hE, -⟩ := hG.drawn_of_told t D.conn (List.ne_nil_of_mem hend)
    cases (drawn_step hs hE).symm.trans hD
    exact (hS t _ error hE hend).step hE hG hA hs
  rcases told_cases hA hs.1 t D.conn with he | ⟨s, order, b, x, rfl, hx, hev, he⟩ |
    ⟨s, walk, order, x, error', rfl, hx, hev, he⟩
  · exact hold (he ▸ hend)
  · refine hold ?_
    rw [he, List.mem_append] at hend
    refine hend.resolve_right fun hmem => ?_
    unfold Subscriber.flush at hmem
    split at hmem
    · cases List.mem_singleton.1 hmem
    · cases hmem
  · obtain ⟨since, hi⟩ := hG.account s t x hx
    cases (drawn_step hs hi.drawn).symm.trans hD
    cases hs.1 with
    | endFirst hr hw hn ho => exact settled_endFirst hL hw hn ho hx hi

theorem allSettled_reachable {devices : List Device}
    (h : Reachable (Restrict Step Fresh) (init devices) d) : AllSettled d :=
  h.invariant (allSettled_init devices) fun _ _ _ hreach hS hs =>
    allSettled_step hS (linked_reachable hreach.of_restrict) (ledger_reachable hreach)
      (answering_reachable hreach.of_restrict) hs

end Tunelith.Tunelithd
