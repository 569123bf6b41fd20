import Tunelith.Tunelithd.Asked
import Tunelith.Tunelithd.Ending

/-!
# What a stream carries

The channel of a stream is sent chunks only as its session fans them out, each at most once. So
what it was sent is to the end a part, in order, of what its session has fanned out since it was
drawn (`carried_reachable`), also once it is no subscriber any more.
-/

namespace Tunelith.Tunelithd

open Daemon Lts Proto

variable {d d' : Daemon} {a : Act} {s : SessionId} {b : Chunk} {k : ChanId}

/-- The chunks that an action adds to what the session `s` fanned out. -/
def Act.fansOut (s : SessionId) : Act → List Chunk
  | .chunk r _ b => if s = r then [b] else []
  | _ => []

theorem chunks_subscribe (e : Daemon) (r s : SessionId) (c : ConnId) (t : Token) (k : ChanId) :
    ((e.subscribe r c t k).session s).chunks = (e.session s).chunks := by
  rw [session_subscribe, Function.update_apply]
  split_ifs with h
  · rw [h]
  · rfl

theorem chunks_fanOutChunk (d : Daemon) (r s : SessionId) (order : List Token) (b : Chunk) :
    ((d.fanOutChunk r order b).session s).chunks =
      (d.session s).chunks ++ (Act.chunk r order b).fansOut s := by
  obtain ⟨e, f, he⟩ := d.exists_fanOutChunk r order b
  rw [he, setSession_session, Act.fansOut]
  by_cases h : s = r
  · subst h
    rw [if_pos rfl, Function.update_self]
    exact congrArg (· ++ [b]) (f.frame.chunks s)
  · rw [if_neg h, Function.update_of_ne h, f.session_of_ne s h, List.append_nil]

/-- A session that was made keeps what it fanned out, and fans out more. -/
theorem chunks_step (hs : Step d a d') (hm : d.Made s) :
    (d'.session s).chunks = (d.session s).chunks ++ a.fansOut s := by
  have hset : ∀ {r S}, S.chunks = (d.session r).chunks →
      ((d.setSession r S).session s).chunks = (d.session s).chunks := by
    intro r S hS
    rw [setSession_session, Function.update_apply]
    split_ifs with h
    · rw [h, hS]
    · rfl
  have hadd : ∀ {r S}, (d.session r).fanOut = .absent →
      ((d.addSession r S).session s).chunks = (d.session s).chunks := by
    intro r S hr
    have hne : s ≠ r := fun h => hm (h ▸ hr)
    rw [addSession_session, Function.update_of_ne hne]
  by_cases ha : ∃ r order b, a = .chunk r order b
  · obtain ⟨r, order, b, rfl⟩ := ha
    cases hs
    exact chunks_fanOutChunk ..
  · have hnil : a.fansOut s = [] := by
      unfold Act.fansOut
      split
      · exact absurd ⟨_, _, _, rfl⟩ ha
      · rfl
    obtain ⟨e, hshift, hcalm⟩ := step_shift hs
    rw [hcalm.chunks, hnil, List.append_nil]
    cases hshift with
    | calm => rfl
    | release => exact (d.frame_release _).chunks s
    | join => exact chunks_subscribe ..
    | publish _ hr => exact (chunks_subscribe ..).trans (hadd hr)
    | unsubscribed _ hr => exact hadd hr
    | chunk h => exact absurd ⟨_, _, _, h⟩ ha
    | closeIfIdle =>
      unfold Daemon.closeIfIdle
      split <;> exact hset rfl
    | leave => exact hset rfl
    | @endFirst r walk order error _ hr hw hn ho =>
      by_cases h : s = r
      · rw [h]
        exact chunks_endFirst ..
      · rw [(d.ended_endFirst walk error hw ho).session_of_ne s h]

/-! ## Channels -/

theorem chan_offer_of_closed (hrx : (d.chan k).rx = false) (s : SessionId) (b : Chunk)
    (u : Token) : (d.offer s b u).chan k = d.chan k := by
  rcases d.offer_cases s b u with ⟨-, he⟩ | ⟨x, -, ⟨K, hK, he⟩ | ⟨-, he⟩ | ⟨-, he⟩⟩ <;> rw [he]
  · refine (congrFun (chan_flushDrops _ _ _) _).trans ?_
    rw [setChan_chan, Function.update_of_ne]
    rintro rfl
    rw [Chan.trySend, hrx] at hK
    cases hK
  · rfl
  · rfl

/-- A channel without a receiver is sent nothing. -/
theorem chan_foldl_of_closed (hrx : (d.chan k).rx = false) (s : SessionId) (b : Chunk)
    (order : List Token) : (order.foldl (fun d t => d.offer s b t) d).chan k = d.chan k := by
  induction order generalizing d with
  | nil => rfl
  | cons u order ih =>
    have hone := chan_offer_of_closed hrx s b u
    exact (ih (by rw [hone, hrx])).trans hone

theorem Tap.sent_offer {p q : Tap} (h : p.offer b = some q) :
    q.chan.queue.sent = p.chan.queue.sent ∨ q.chan.queue.sent = p.chan.queue.sent ++ [b] := by
  unfold Tap.offer at h
  split at h
  · next hk =>
    cases h
    exact .inr (Chan.sent_trySend hk)
  · cases h
    exact .inl rfl
  · cases h

/-- The channel of a subscriber is sent a chunk at most once. -/
theorem sent_fanOutChunk (hG : Ledger d) {order : List Token} (hn : order.Nodup)
    (ho : order.toFinset = (d.session s).subscribers.keys) {t : Token} {x : Subscriber}
    (hx : (d.session s).subscribers.lookup t = some x) :
    (((d.fanOutChunk s order b).chan x.tx).queue.sent).Sublist
      ((d.chan x.tx).queue.sent ++ [b]) := by
  have hleft := List.sublist_append_left (d.chan x.tx).queue.sent [b]
  by_cases hrx : (d.chan x.tx).rx = true
  · obtain ⟨q, hq⟩ := Tap.offer_of_rx (b := b) (p := ⟨x, d.chan x.tx, d.told t x.events⟩) hrx
    have htap : (d.fanOutChunk s order b).tap s t = some q := by
      rw [tap_fanOutChunk (hG.apart s) hn ho t, Daemon.tap, hx, Option.map_some, Option.bind_some,
        hq]
    obtain ⟨-, hchan, -⟩ := tap_eq_some htap
    rw [(Tap.sub_offer hq).1] at hchan
    rw [← hchan]
    rcases Tap.sent_offer hq with he | he <;> rw [he]
    exact hleft
  · have hclosed : (d.fanOutChunk s order b).chan x.tx = d.chan x.tx :=
      chan_foldl_of_closed (Bool.eq_false_iff.2 hrx) s b order
    rw [hclosed]
    exact hleft

/-- The channel of a stream is sent a chunk at most once, and as its session fans it out. -/
theorem sent_step (hs : Step d a d') (hG : Ledger d) {t : Token} {D : Draw}
    (hD : d.drawn t = some D) :
    ((d'.chan D.chan).queue.sent).Sublist
      ((d.chan D.chan).queue.sent ++ a.fansOut D.session) := by
  by_cases ha : ∃ s order b x u, a = .chunk s order b ∧
      (d.session s).subscribers.lookup u = some x ∧ x.tx = D.chan
  · obtain ⟨s, order, b, x, u, rfl, hx, hk⟩ := ha
    obtain ⟨since, hi⟩ := hG.account s u x hx
    obtain rfl := hG.chan_inj t u D _ hD hi.drawn hk.symm
    cases hD.symm.trans hi.drawn
    cases hs with
    | chunk hr hn ho =>
      rw [Act.fansOut, if_pos rfl]
      exact sent_fanOutChunk hG hn ho hx
  · have hsame : (d'.chan D.chan).queue.sent = (d.chan D.chan).queue.sent := by
      have hturn := chan_turn hs (hG.made t D hD)
      generalize d'.chan D.chan = K at hturn
      cases hturn with
      | @feed s order b _ hq hr hk =>
        rw [hk fun u x hx htx => ha ⟨s, order, b, x, u, rfl, hx, htx.symm⟩]
      | recv => exact Fifo.sent_pop _
      | _ => rfl
    rw [hsame]
    exact List.sublist_append_left ..

/-! ## Runs -/

/-- What the channel of each stream was sent is a part of what its session fanned out since. -/
def Carried (d : Daemon) : Prop :=
  ∀ t D, d.drawn t = some D → d.Made D.session ∧ D.since ≤ (d.session D.session).chunks.length ∧
    ((d.chan D.chan).queue.sent).Sublist ((d.session D.session).chunks.drop D.since)

theorem carried_reachable {devices : List Device}
    (h : Reachable (Restrict Step Fresh) (init devices) d) : Carried d := by
  refine h.invariant (fun t D hD => by cases hD) fun d a d' hreach hC hs t D hD => ?_
  rcases drawn_cases hs.1 t with he | ⟨ha, -⟩
  · rw [he] at hD
    obtain ⟨hm, hle, hsub⟩ := hC t D hD
    refine ⟨((keeps_step hs.1).session _ hm).1, ?_, ?_⟩
    · rw [chunks_step hs.1 hm, List.length_append]
      exact Nat.le_add_right_of_le hle
    · rw [chunks_step hs.1 hm, List.drop_append_of_le_length hle]
      exact (sent_step hs.1 (ledger_reachable hreach) hD).trans (hsub.append_right _)
  · -- A stream just drawn has an account.
    obtain ⟨s, x, hx, -⟩ := fed_of_draws hs.1 ha
    obtain ⟨since, hi⟩ := (ledger_reachable (hreach.snoc hs)).account s t x hx
    cases hD.symm.trans hi.drawn
    have hL := linked_reachable (hreach.snoc hs).of_restrict
    have htok := hL.token_of_subscriber s t (Finmap.mem_of_lookup_eq_some hx)
    exact ⟨hL.ne_absent htok, hi.since_le, hi.law.1⟩

end Tunelith.Tunelithd
