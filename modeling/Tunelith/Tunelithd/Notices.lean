import Tunelith.Core.Notice
import Tunelith.Lib.Lossy
import Tunelith.Tunelithd.Sessions

/-!
# What a subscriber is sent

Of the events of a connection, those about one token (`told`), and of the daemon, what bears on
one subscriber (`tap`): its record, its channel and what it was told. A chunk and the `end` of a
session change the tap of each subscriber by itself, whatever the others are like.

* `tap_fanOutChunk` — a chunk does to a subscriber what `Tap.offer` does to its tap.
* `told_endFirst` — `end` tells it what it lost, if anything, and then the end.
-/

namespace Tunelith.Tunelithd

open Daemon Proto

/-- All that connection `c` was told of the stream `t`. -/
def Daemon.told (d : Daemon) (t : Token) (c : ConnId) : List Notice :=
  (d.conn c).events.sent.filterMap (notice t)

/-- What bears on one subscriber. -/
structure Tap where
  sub : Subscriber
  chan : Chan
  told : List Notice

def Daemon.tap (d : Daemon) (s : SessionId) (t : Token) : Option Tap :=
  ((d.session s).subscribers.lookup t).map fun x => ⟨x, d.chan x.tx, d.told t x.events⟩

/-- What `flush_drops` says. -/
def Subscriber.flush (x : Subscriber) : List Notice :=
  if x.dropped > 0 then [.dropped x.dropped] else []

/-- A chunk for one subscriber, which is removed if its receiver has gone. -/
def Tap.offer (b : Chunk) (p : Tap) : Option Tap :=
  match p.chan.trySend b with
  | .ok k => some ⟨{ p.sub with dropped := 0 }, k, p.told ++ p.sub.flush⟩
  | .error .full => some { p with sub := { p.sub with dropped := p.sub.dropped + b.length } }
  | .error .closed => none

namespace Daemon

/-! ## Telling -/

variable (d : Daemon)

theorem told_send (c c' : ConnId) (e : Envelope) (t : Token) :
    (d.send c e).told t c' = d.told t c' ++ if c' = c then (notice t e).toList else [] := by
  unfold told send
  rw [setConn_conn, Function.update_apply]
  split_ifs with h
  · rw [h, Fifo.sent_push, List.filterMap_append]
    cases hn : notice t e <;> simp [hn]
  · rw [List.append_nil]

theorem told_flushDrops (t u : Token) (c : ConnId) (x : Subscriber) :
    (d.flushDrops u x).1.told t c =
      d.told t c ++ if t = u ∧ c = x.events then x.flush else [] := by
  unfold flushDrops Subscriber.flush
  by_cases hx : x.dropped > 0
  · rw [if_pos hx, if_pos hx, told_send]
    by_cases ht : t = u
    · simp [ht, notice, envelope]
    · simp [ht, notice, envelope, Ne.symm ht]
  · rw [if_neg hx, if_neg hx]
    simp

theorem snd_flushDrops (t : Token) (x : Subscriber) :
    (d.flushDrops t x).2 = { x with dropped := 0 } := by
  unfold flushDrops
  split
  · rfl
  · have : x.dropped = 0 := by omega
    rw [← this]

theorem chan_flushDrops (t : Token) (x : Subscriber) : (d.flushDrops t x).1.chan = d.chan := by
  unfold flushDrops
  split <;> rfl

/-! ## A chunk -/

/-- The channels of the subscribers of `s` are their own. -/
def Apart (d : Daemon) (s : SessionId) : Prop :=
  ∀ t u x y, (d.session s).subscribers.lookup t = some x →
    (d.session s).subscribers.lookup u = some y → x.tx = y.tx → t = u

/-- An offer, by what comes of it. -/
theorem offer_cases (s : SessionId) (b : Chunk) (u : Token) :
    ((d.session s).subscribers.lookup u = none ∧ d.offer s b u = d) ∨
    ∃ x, (d.session s).subscribers.lookup u = some x ∧
      ((∃ k, (d.chan x.tx).trySend b = .ok k ∧
        d.offer s b u = ((d.setChan x.tx k).flushDrops u x).1.setSubscribers s
          ((d.session s).subscribers.insert u { x with dropped := 0 })) ∨
      ((d.chan x.tx).trySend b = .error .full ∧
        d.offer s b u = d.setSubscribers s
          ((d.session s).subscribers.insert u { x with dropped := x.dropped + b.length })) ∨
      ((d.chan x.tx).trySend b = .error .closed ∧
        d.offer s b u = d.setSubscribers s ((d.session s).subscribers.erase u))) := by
  unfold offer
  cases hx : (d.session s).subscribers.lookup u with
  | none => exact .inl ⟨rfl, rfl⟩
  | some x =>
    refine .inr ⟨x, rfl, ?_⟩
    dsimp only
    cases hk : (d.chan x.tx).trySend b with
    | ok k =>
      refine .inl ⟨k, rfl, ?_⟩
      dsimp only
      rw [snd_flushDrops]
    | error e =>
      cases e with
      | full => exact .inr (.inl ⟨rfl, rfl⟩)
      | closed => exact .inr (.inr ⟨rfl, rfl⟩)

theorem lookup_setSubscribers (s : SessionId) (m : Finmap fun _ : Token => Subscriber) :
    ((d.setSubscribers s m).session s).subscribers = m := by
  rw [setSubscribers, setSession_session, Function.update_self]

/-- An offer leaves the other subscribers' records alone. -/
theorem lookup_offer_of_ne {t u : Token} (ht : t ≠ u) (s : SessionId) (b : Chunk) :
    ((d.offer s b u).session s).subscribers.lookup t =
      (d.session s).subscribers.lookup t := by
  rcases d.offer_cases s b u with ⟨-, he⟩ | ⟨x, hx, ⟨k, -, he⟩ | ⟨-, he⟩ | ⟨-, he⟩⟩
  · rw [he]
  · rw [he, lookup_setSubscribers, Finmap.lookup_insert_of_ne _ ht]
  · rw [he, lookup_setSubscribers, Finmap.lookup_insert_of_ne _ ht]
  · rw [he, lookup_setSubscribers, Finmap.lookup_erase_ne ht]

/-- A record keeps its channel and its connection. -/
theorem lookup_offer {s : SessionId} {b : Chunk} {t u : Token} {y : Subscriber}
    (hy : ((d.offer s b u).session s).subscribers.lookup t = some y) :
    ∃ x, (d.session s).subscribers.lookup t = some x ∧ y.tx = x.tx ∧ y.events = x.events := by
  by_cases ht : t = u
  · subst ht
    rcases d.offer_cases s b t with ⟨hx, he⟩ | ⟨x, hx, ⟨k, -, he⟩ | ⟨-, he⟩ | ⟨-, he⟩⟩ <;>
      rw [he] at hy
    · exact ⟨y, hy, rfl, rfl⟩
    · rw [lookup_setSubscribers, Finmap.lookup_insert] at hy
      cases hy
      exact ⟨x, hx, rfl, rfl⟩
    · rw [lookup_setSubscribers, Finmap.lookup_insert] at hy
      cases hy
      exact ⟨x, hx, rfl, rfl⟩
    · rw [lookup_setSubscribers, Finmap.lookup_erase] at hy
      cases hy
  · rw [lookup_offer_of_ne d ht] at hy
    exact ⟨y, hy, rfl, rfl⟩

theorem Apart.offer {s : SessionId} (hA : Apart d s) (b : Chunk) (u : Token) :
    Apart (d.offer s b u) s := by
  intro t t' y y' hy hy' htx
  obtain ⟨x, hx, htx₁, -⟩ := d.lookup_offer hy
  obtain ⟨x', hx', htx₂, -⟩ := d.lookup_offer hy'
  exact hA t t' x x' hx hx' (by rw [← htx₁, ← htx₂, htx])

theorem told_setSubscribers (s : SessionId) (m : Finmap fun _ : Token => Subscriber) (t : Token)
    (c : ConnId) : (d.setSubscribers s m).told t c = d.told t c := rfl

theorem told_setChan (k : ChanId) (K : Chan) (t : Token) (c : ConnId) :
    (d.setChan k K).told t c = d.told t c := rfl

/-- An offer tells a subscriber nothing about another. -/
theorem told_offer_of_ne {t u : Token} (ht : t ≠ u) (s : SessionId) (b : Chunk) (c : ConnId) :
    (d.offer s b u).told t c = d.told t c := by
  rcases d.offer_cases s b u with ⟨-, he⟩ | ⟨x, hx, ⟨k, -, he⟩ | ⟨-, he⟩ | ⟨-, he⟩⟩ <;> rw [he]
  · rw [told_setSubscribers, told_flushDrops, if_neg (fun h => ht h.1), List.append_nil,
      told_setChan]
  · rfl
  · rfl

/-- Nor does it tell another connection. -/
theorem told_offer_of_events_ne {s : SessionId} {t : Token} {x : Subscriber}
    (hx : (d.session s).subscribers.lookup t = some x) {c : ConnId} (hc : c ≠ x.events)
    (b : Chunk) (u : Token) : (d.offer s b u).told t c = d.told t c := by
  by_cases ht : t = u
  · subst ht
    rcases d.offer_cases s b t with ⟨-, he⟩ | ⟨y, hy, ⟨k, -, he⟩ | ⟨-, he⟩ | ⟨-, he⟩⟩ <;> rw [he]
    · cases hx.symm.trans hy
      rw [told_setSubscribers, told_flushDrops, if_neg (fun h => hc h.2), List.append_nil,
        told_setChan]
    · rfl
    · rfl
  · exact d.told_offer_of_ne ht s b c

/-- A chunk offered to a subscriber. -/
theorem tap_offer_self (s : SessionId) (b : Chunk) (t : Token) :
    (d.offer s b t).tap s t = (d.tap s t).bind (Tap.offer b) := by
  rcases d.offer_cases s b t with ⟨hx, he⟩ | ⟨x, hx, ⟨k, hk, he⟩ | ⟨hk, he⟩ | ⟨hk, he⟩⟩ <;>
    rw [he]
  · rw [tap, hx]
    rfl
  · rw [tap, lookup_setSubscribers, Finmap.lookup_insert, tap, hx]
    simp only [Option.map_some, Option.bind_some, Tap.offer, hk, told_setSubscribers,
      told_flushDrops, told_setChan, and_self, if_true]
    refine congrArg some ?_
    rw [Tap.mk.injEq]
    refine ⟨rfl, ?_, rfl⟩
    exact (congrFun (chan_flushDrops _ _ _) _).trans (Function.update_self ..)
  · rw [tap, lookup_setSubscribers, Finmap.lookup_insert, tap, hx]
    simp only [Option.map_some, Option.bind_some, Tap.offer, hk]
    rfl
  · rw [tap, lookup_setSubscribers, Finmap.lookup_erase, tap, hx]
    simp only [Option.map_some, Option.bind_some, Tap.offer, hk, Option.map_none]

/-- A chunk offered to another. -/
theorem tap_offer_of_ne {s : SessionId} (hA : Apart d s) {t u : Token} (ht : t ≠ u) (b : Chunk) :
    (d.offer s b u).tap s t = d.tap s t := by
  unfold tap
  rw [d.lookup_offer_of_ne ht]
  cases hx : (d.session s).subscribers.lookup t with
  | none => rfl
  | some x =>
    rw [Option.map_some, Option.map_some, d.told_offer_of_ne ht]
    have hchan : (d.offer s b u).chan x.tx = d.chan x.tx := by
      rcases d.offer_cases s b u with ⟨-, he⟩ | ⟨y, hy, ⟨k, -, he⟩ | ⟨-, he⟩ | ⟨-, he⟩⟩ <;> rw [he]
      · refine (congrFun (chan_flushDrops _ _ _) _).trans ?_
        rw [setChan_chan, Function.update_of_ne]
        exact fun htx => ht (hA t u x y hx hy htx)
      · rfl
      · rfl
    rw [hchan]

/-! ## All the subscribers -/

theorem tap_foldl_of_notMem {s : SessionId} (b : Chunk) {order : List Token} {t : Token}
    (ht : t ∉ order) {d : Daemon} (hA : Apart d s) :
    (order.foldl (fun d t => d.offer s b t) d).tap s t = d.tap s t := by
  induction order generalizing d with
  | nil => rfl
  | cons u order ih =>
    rw [List.mem_cons, not_or] at ht
    exact (ih ht.2 (hA.offer d b u)).trans (d.tap_offer_of_ne hA ht.1 b)

/-- Whatever the order, a chunk is offered to a subscriber once. -/
theorem tap_foldl {s : SessionId} (b : Chunk) {order : List Token} (hn : order.Nodup) {t : Token}
    (ht : t ∈ order) {d : Daemon} (hA : Apart d s) :
    (order.foldl (fun d t => d.offer s b t) d).tap s t = (d.tap s t).bind (Tap.offer b) := by
  induction order generalizing d with
  | nil => cases ht
  | cons u order ih =>
    rw [List.nodup_cons] at hn
    rw [List.foldl_cons]
    by_cases hu : t = u
    · subst hu
      rw [tap_foldl_of_notMem b hn.1 (hA.offer d b t), tap_offer_self]
    · rw [ih hn.2 ((List.mem_cons.1 ht).resolve_left hu) (hA.offer d b u),
        d.tap_offer_of_ne hA hu]

theorem told_foldl_of_notMem {s : SessionId} (b : Chunk) {order : List Token} {t : Token}
    (ht : t ∉ order) (c : ConnId) (d : Daemon) :
    (order.foldl (fun d t => d.offer s b t) d).told t c = d.told t c := by
  induction order generalizing d with
  | nil => rfl
  | cons u order ih =>
    rw [List.mem_cons, not_or] at ht
    exact (ih ht.2 _).trans (d.told_offer_of_ne ht.1 s b c)

/-- A connection that is not a subscriber's own is told nothing about it. -/
theorem told_foldl_of_events_ne {s : SessionId} (b : Chunk) (order : List Token) {t : Token}
    {c : ConnId} {d : Daemon}
    (hc : ∀ x, (d.session s).subscribers.lookup t = some x → c ≠ x.events) :
    (order.foldl (fun d t => d.offer s b t) d).told t c = d.told t c := by
  induction order generalizing d with
  | nil => rfl
  | cons u order ih =>
    have hstep : (d.offer s b u).told t c = d.told t c := by
      cases hx : (d.session s).subscribers.lookup t with
      | some x => exact d.told_offer_of_events_ne hx (hc x hx) b u
      | none =>
        by_cases ht : t = u
        · subst ht
          rcases d.offer_cases s b t with ⟨-, he⟩ | ⟨x, hx', -⟩
          · rw [he]
          · rw [hx] at hx'
            cases hx'
        · exact d.told_offer_of_ne ht s b c
    refine (ih fun y hy => ?_).trans hstep
    obtain ⟨x, hx, -, he⟩ := d.lookup_offer hy
    rw [he]
    exact hc x hx

/-- A subscriber is told what it lost, or nothing. -/
theorem told_foldl {s : SessionId} (b : Chunk) {order : List Token} (hn : order.Nodup)
    {t : Token} {d : Daemon} {x : Subscriber}
    (hx : (d.session s).subscribers.lookup t = some x) :
    (order.foldl (fun d t => d.offer s b t) d).told t x.events = d.told t x.events ∨
      (order.foldl (fun d t => d.offer s b t) d).told t x.events =
        d.told t x.events ++ x.flush := by
  induction order generalizing d with
  | nil => exact .inl rfl
  | cons u order ih =>
    rw [List.nodup_cons] at hn
    rw [List.foldl_cons]
    by_cases hu : t = u
    · subst hu
      rw [told_foldl_of_notMem b hn.1]
      rcases d.offer_cases s b t with ⟨-, he⟩ | ⟨y, hy, ⟨k, -, he⟩ | ⟨-, he⟩ | ⟨-, he⟩⟩ <;> rw [he]
      · exact .inl rfl
      · cases hx.symm.trans hy
        rw [told_setSubscribers, told_flushDrops, if_pos ⟨rfl, rfl⟩, told_setChan]
        exact .inr rfl
      · exact .inl rfl
      · exact .inl rfl
    · rw [← d.told_offer_of_ne hu s b]
      exact ih hn.2 ((d.lookup_offer_of_ne hu s b).trans hx)

theorem made_foldl {s : SessionId} (b : Chunk) (order : List Token) (k : ChanId) (d : Daemon) :
    ((order.foldl (fun d t => d.offer s b t) d).chan k).made = (d.chan k).made := by
  induction order generalizing d with
  | nil => rfl
  | cons u order ih =>
    rw [List.foldl_cons, ih]
    rcases d.offer_cases s b u with ⟨-, he⟩ | ⟨x, hx, ⟨K, hK, he⟩ | ⟨-, he⟩ | ⟨-, he⟩⟩ <;> rw [he]
    · refine (congrArg Chan.made (congrFun (chan_flushDrops _ _ _) k)).trans ?_
      rw [setChan_chan, Function.update_apply]
      split_ifs with e
      · rw [e]
        unfold Chan.trySend at hK
        split_ifs at hK
        cases hK
        rfl
      · rfl
    · rfl
    · rfl

/-- The channels of no subscriber of the session are left alone. -/
theorem chan_foldl_of_ne {s : SessionId} (b : Chunk) (order : List Token) {k : ChanId}
    {d : Daemon} (hk : ∀ u x, (d.session s).subscribers.lookup u = some x → k ≠ x.tx) :
    (order.foldl (fun d t => d.offer s b t) d).chan k = d.chan k := by
  induction order generalizing d with
  | nil => rfl
  | cons u order ih =>
    have hstep : (d.offer s b u).chan k = d.chan k := by
      rcases d.offer_cases s b u with ⟨-, he⟩ | ⟨x, hx, ⟨K, -, he⟩ | ⟨-, he⟩ | ⟨-, he⟩⟩ <;> rw [he]
      · refine (congrFun (chan_flushDrops _ _ _) _).trans ?_
        rw [setChan_chan, Function.update_of_ne (hk u x hx)]
      · rfl
      · rfl
    refine (ih fun v y hy => ?_).trans hstep
    obtain ⟨x, hx, he, -⟩ := d.lookup_offer hy
    rw [he]
    exact hk v x hx

variable {d} {s : SessionId} {b : Chunk} {order : List Token}

theorem mem_order_iff (ho : order.toFinset = (d.session s).subscribers.keys) {t : Token} :
    t ∈ order ↔ t ∈ (d.session s).subscribers := by
  rw [← List.mem_toFinset, ho, Finmap.mem_keys]

/-- A chunk does the same to a subscriber whatever the others are like. -/
theorem tap_fanOutChunk (hA : Apart d s) (hn : order.Nodup)
    (ho : order.toFinset = (d.session s).subscribers.keys) (t : Token) :
    (d.fanOutChunk s order b).tap s t = (d.tap s t).bind (Tap.offer b) := by
  have hset : (d.fanOutChunk s order b).tap s t =
      (order.foldl (fun d t => d.offer s b t) d).tap s t := by
    unfold fanOutChunk tap
    rw [setSession_session, Function.update_self]
    rfl
  rw [hset]
  by_cases ht : t ∈ order
  · exact tap_foldl b hn ht hA
  · rw [tap_foldl_of_notMem b ht hA]
    have hx : (d.session s).subscribers.lookup t = none :=
      Finmap.lookup_eq_none.2 fun h => ht ((mem_order_iff ho).2 h)
    rw [tap, hx]
    rfl

theorem told_fanOutChunk_of_notMem (ho : order.toFinset = (d.session s).subscribers.keys)
    {t : Token} (ht : t ∉ (d.session s).subscribers) (c : ConnId) :
    (d.fanOutChunk s order b).told t c = d.told t c :=
  told_foldl_of_notMem b (fun h => ht ((mem_order_iff ho).1 h)) c d

theorem told_fanOutChunk_of_ne {t : Token} {x : Subscriber}
    (hx : (d.session s).subscribers.lookup t = some x) {c : ConnId} (hc : c ≠ x.events) :
    (d.fanOutChunk s order b).told t c = d.told t c := by
  refine told_foldl_of_events_ne b order fun y hy => ?_
  cases hx.symm.trans hy
  exact hc

theorem told_fanOutChunk (hn : order.Nodup) {t : Token} {x : Subscriber}
    (hx : (d.session s).subscribers.lookup t = some x) :
    (d.fanOutChunk s order b).told t x.events = d.told t x.events ∨
      (d.fanOutChunk s order b).told t x.events = d.told t x.events ++ x.flush :=
  told_foldl b hn hx

theorem made_fanOutChunk (k : ChanId) :
    ((d.fanOutChunk s order b).chan k).made = (d.chan k).made := made_foldl b order k d

theorem chan_fanOutChunk_of_ne {k : ChanId}
    (hk : ∀ u x, (d.session s).subscribers.lookup u = some x → k ≠ x.tx) :
    (d.fanOutChunk s order b).chan k = d.chan k :=
  chan_foldl_of_ne b order hk

/-! ## `end` -/

variable {error : Option String}

theorem told_drain (t u : Token) (c : ConnId) :
    (d.drain s error u).told t c = d.told t c ++
      (((d.session s).subscribers.lookup u).elim [] fun x =>
        if t = u ∧ c = x.events then x.flush ++ [.ended (error.getD "")] else []) := by
  unfold drain
  cases hx : (d.session s).subscribers.lookup u with
  | none => simp
  | some x =>
    simp only [Option.elim_some]
    rw [told_setSubscribers, told_send, told_flushDrops]
    by_cases ht : t = u
    · subst ht
      by_cases hc : c = x.events
      · simp [hc, notice, envelope]
      · simp [hc]
    · simp [ht, notice, envelope, Ne.symm ht]

theorem lookup_drain_of_ne {t u : Token} (ht : t ≠ u) :
    ((d.drain s error u).session s).subscribers.lookup t =
      (d.session s).subscribers.lookup t := by
  rw [session_drain, Function.update_self, Finmap.lookup_erase_ne ht]

theorem told_foldl_drain_of_notMem {t : Token} (ht : t ∉ order) (c : ConnId) (d : Daemon) :
    (order.foldl (fun d t => d.drain s error t) d).told t c = d.told t c := by
  induction order generalizing d with
  | nil => rfl
  | cons u order ih =>
    rw [List.mem_cons, not_or] at ht
    rw [List.foldl_cons, ih ht.2, told_drain]
    cases (d.session s).subscribers.lookup u with
    | none => exact List.append_nil _
    | some x => rw [Option.elim_some, if_neg fun h => ht.1 h.1, List.append_nil]

/-- Every subscriber drained is told what it lost, if anything, and then the end. -/
theorem told_foldl_drain (hn : order.Nodup) {t : Token} (ht : t ∈ order) {x : Subscriber}
    {d : Daemon} (hx : (d.session s).subscribers.lookup t = some x) (c : ConnId) :
    (order.foldl (fun d t => d.drain s error t) d).told t c = d.told t c ++
      if c = x.events then x.flush ++ [.ended (error.getD "")] else [] := by
  induction order generalizing d with
  | nil => cases ht
  | cons u order ih =>
    rw [List.nodup_cons] at hn
    rw [List.foldl_cons]
    by_cases hu : t = u
    · subst hu
      rw [told_foldl_drain_of_notMem hn.1, told_drain, hx, Option.elim_some]
      simp only [true_and]
    · rw [ih hn.2 ((List.mem_cons.1 ht).resolve_left hu)
        ((lookup_drain_of_ne hu).trans hx), told_drain]
      have hnil : (((d.session s).subscribers.lookup u).elim [] fun x =>
          if t = u ∧ c = x.events then x.flush ++ [.ended (error.getD "")] else []) = [] := by
        cases (d.session s).subscribers.lookup u with
        | none => rfl
        | some y => exact if_neg fun h => hu h.1
      rw [hnil, List.append_nil]

/-- The walk over the tokens tells nobody anything. -/
theorem told_walk (walk : List Token) (t : Token) (c : ConnId) :
    (walk.foldl (fun d t => d.retainToken s t) (d.beginEnd s)).told t c = d.told t c := by
  obtain ⟨-, -, hconn, -, -⟩ := (d.beginEnd s).foldl_retainToken s walk
  unfold told
  rw [hconn]
  rfl

theorem told_endFirst {walk : List Token} (hn : order.Nodup)
    (ho : order.toFinset = (d.session s).subscribers.keys) {t : Token} {x : Subscriber}
    (hx : (d.session s).subscribers.lookup t = some x) (c : ConnId) :
    (d.endFirst s walk order error).told t c = d.told t c ++
      if c = x.events then x.flush ++ [.ended (error.getD "")] else [] := by
  obtain ⟨hses, -⟩ := (d.beginEnd s).foldl_retainToken s walk
  refine (told_foldl_drain hn ((mem_order_iff ho).2 (Finmap.mem_of_lookup_eq_some hx)) ?_ c).trans
    (congrArg (· ++ _) (told_walk walk t c))
  rw [hses]
  exact hx

theorem told_endFirst_of_notMem {walk : List Token}
    (ho : order.toFinset = (d.session s).subscribers.keys) {t : Token}
    (ht : t ∉ (d.session s).subscribers) (c : ConnId) :
    (d.endFirst s walk order error).told t c = d.told t c :=
  (told_foldl_drain_of_notMem (fun h => ht ((mem_order_iff ho).1 h)) c _).trans
    (told_walk walk t c)

end Daemon

end Tunelith.Tunelithd
