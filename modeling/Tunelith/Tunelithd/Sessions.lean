import Tunelith.Tunelithd.Streams
import Tunelith.Tunelithd.Tuners

/-!
# Sessions and their clients

`tokens`, `unattached`, `sessions` and the `subscribers` of the sessions are four maps under two
locks. `Linked` is how they agree, whatever the order of the steps, and `Attended` that a session
without a client is on its way to its `end`.

* `nobody_stranded` — both, for every reachable state, and that no one joins a session taken out
  of the running ones.
-/

namespace Tunelith.Tunelithd

open Daemon Lts

/-- The maps of the daemon agree. -/
structure Linked (d : Daemon) : Prop where
  token_of_unattached : ∀ t, d.unattached t ≠ none → d.tokens t ≠ none
  looping_of_token : ∀ t s, d.tokens t = some s → (d.session s).fanOut.isLooping
  token_of_subscriber : ∀ s t, t ∈ (d.session s).subscribers → d.tokens t = some s
  looping_of_listed : ∀ s ∈ d.sessions, (d.session s).fanOut.isLooping
  unlisted_of_stop : ∀ s, (d.session s).stop = true → s ∉ d.sessions

/-- A session whose fan-out still runs has a client, or is about to be found idle, or has been
taken out of the running ones and will come to its `end`. -/
def Attended (d : Daemon) : Prop :=
  ∀ s, (d.session s).fanOut.isLooping → (d.session s).subscribers.keys = ∅ →
    (d.session s).fanOut = .checking ∨
      s ∉ d.sessions ∧ ((d.session s).stop = true ∨ ∃ e, (d.session s).fanOut = .left e)

variable {d d' : Daemon}

theorem linked_init (devices : List Device) : Linked (init devices) where
  token_of_unattached t h := absurd rfl h
  looping_of_token t s h := by cases h
  token_of_subscriber s t h := absurd h Finmap.notMem_empty
  looping_of_listed s h := absurd h List.not_mem_nil
  unlisted_of_stop s h := by cases h

theorem attended_init (devices : List Device) : Attended (init devices) := by
  intro s hs
  cases hs

theorem Linked.ne_absent (hL : Linked d) {t : Token} {s : SessionId} (ht : d.tokens t = some s) :
    (d.session s).fanOut ≠ .absent := by
  intro hf
  have := hL.looping_of_token t s ht
  rw [hf] at this
  cases this

/-! ## Calm steps -/

theorem Calm.isLooping (h : Calm d d') (s : SessionId) :
    (d'.session s).fanOut.isLooping = (d.session s).fanOut.isLooping := by
  rcases h.fanOut s with he | ⟨he, he'⟩
  · rw [he]
  · have hno : ∀ f : FanOut, f.isEnding ∨ f = .ended → f.isLooping = false := by
      rintro (_ | _ | _ | _ | _ | _ | _ | _) <;> simp [FanOut.isEnding, FanOut.isLooping]
    rw [hno _ he', hno _ (.inl he)]

theorem Calm.fanOut_eq (h : Calm d d') {s : SessionId} (hs : (d.session s).fanOut.isLooping) :
    (d'.session s).fanOut = (d.session s).fanOut := by
  rcases h.fanOut s with he | ⟨he, -⟩
  · exact he
  · cases hf : (d.session s).fanOut <;> simp_all [FanOut.isEnding, FanOut.isLooping]

theorem Linked.calm (hL : Linked d) (h : Calm d d') : Linked d' where
  token_of_unattached t ht := by
    rw [h.tokens]
    rcases h.unattached t with hu | hu
    · exact hL.token_of_unattached t (hu ▸ ht)
    · exact absurd hu ht
  looping_of_token t s ht := by
    rw [h.isLooping]
    exact hL.looping_of_token t s (h.tokens ▸ ht)
  token_of_subscriber s t ht := by
    rw [h.tokens]
    exact hL.token_of_subscriber s t (h.subscribers s ▸ ht)
  looping_of_listed s hs := by
    rw [h.isLooping]
    exact hL.looping_of_listed s (h.sessions ▸ hs)
  unlisted_of_stop s hs := by
    rw [h.sessions]
    exact hL.unlisted_of_stop s (h.stop s ▸ hs)

theorem Attended.calm (hA : Attended d) (h : Calm d d') : Attended d' := by
  intro s hs hm
  rw [h.isLooping] at hs
  rw [h.subscribers] at hm
  rw [h.fanOut_eq hs, h.sessions, h.stop]
  exact hA s hs hm

/-! ## Joining -/

/-- A client joins a session whose fan-out runs. -/
theorem Linked.subscribe (hL : Linked d) {s : SessionId} {c : ConnId} {t : Token} {k : ChanId}
    (hs : (d.session s).fanOut.isLooping) (hd : d.MayDraw t k) :
    Linked (d.subscribe s c t k) := by
  obtain ⟨-, ht, -⟩ := hd
  have hlike : ∀ r, ((d.subscribe s c t k).session r).fanOut = (d.session r).fanOut ∧
      ((d.subscribe s c t k).session r).stop = (d.session r).stop := by
    intro r
    rw [session_subscribe, Function.update_apply]
    split_ifs with e
    · rw [e]
      exact ⟨rfl, rfl⟩
    · exact ⟨rfl, rfl⟩
  refine ⟨fun u hu => ?_, fun u r hu => ?_, fun r u hu => ?_, fun r hr => ?_, fun r hr => ?_⟩
  · rw [unattached_subscribe, Function.update_apply] at hu
    rw [tokens_subscribe, Function.update_apply]
    split_ifs at hu ⊢
    · exact Option.some_ne_none s
    · exact hL.token_of_unattached u hu
  · rw [(hlike r).1]
    rw [tokens_subscribe, Function.update_apply] at hu
    split_ifs at hu
    · cases hu
      exact hs
    · exact hL.looping_of_token u r hu
  · have hold : u ∈ (d.session r).subscribers → (d.subscribe s c t k).tokens u = some r := by
      intro hm
      have htok := hL.token_of_subscriber r u hm
      rw [tokens_subscribe, Function.update_of_ne, htok]
      rintro rfl
      rw [ht] at htok
      cases htok
    rw [session_subscribe, Function.update_apply] at hu
    split_ifs at hu with e
    · subst e
      rcases Finmap.mem_insert.1 hu with rfl | hu
      · exact Function.update_self ..
      · exact hold hu
    · exact hold hu
  · rw [(hlike r).1]
    exact hL.looping_of_listed r hr
  · exact hL.unlisted_of_stop r ((hlike r).2 ▸ hr)

theorem keys_insert_ne_empty (m : Finmap fun _ : Token => Subscriber) (t : Token)
    (x : Subscriber) : (m.insert t x).keys ≠ ∅ := by
  refine Finset.ne_empty_of_mem (a := t) ?_
  rw [Finmap.mem_keys, Finmap.mem_insert]
  exact .inl rfl

theorem Attended.subscribe {s : SessionId} {c : ConnId} {t : Token} {k : ChanId}
    (hA : ∀ r, r ≠ s → (d.session r).fanOut.isLooping → (d.session r).subscribers.keys = ∅ →
      (d.session r).fanOut = .checking ∨
        r ∉ d.sessions ∧ ((d.session r).stop = true ∨ ∃ e, (d.session r).fanOut = .left e)) :
    Attended (d.subscribe s c t k) := by
  intro r hr hm
  rw [session_subscribe, Function.update_apply] at hr hm ⊢
  split_ifs at hr hm ⊢ with e
  · exact absurd hm (keys_insert_ne_empty _ _ _)
  · exact hA r e hr hm

/-- A new session is among the running ones. -/
theorem Linked.addSession (hL : Linked d) {s : SessionId} {S : Session}
    (hf : S.fanOut = .running) (hm : S.subscribers = ∅) (hp : S.stop = false) :
    Linked (d.addSession s S) := by
  refine ⟨hL.token_of_unattached, fun t r ht => ?_, fun r t ht => ?_, fun r hr => ?_,
    fun r hr => ?_⟩ <;> simp only [addSession_session, Function.update_apply] at *
  · split_ifs
    · rw [hf]
      rfl
    · exact hL.looping_of_token t r ht
  · split_ifs at ht
    · rw [hm] at ht
      exact absurd ht Finmap.notMem_empty
    · exact hL.token_of_subscriber r t ht
  · split_ifs with e
    · rw [hf]
      rfl
    · rw [addSession_sessions, List.mem_append, List.mem_singleton] at hr
      exact hL.looping_of_listed r (hr.resolve_right e)
  · split_ifs at hr with e
    · rw [hp] at hr
      cases hr
    · rw [addSession_sessions, List.mem_append, List.mem_singleton]
      exact fun h => h.elim (hL.unlisted_of_stop r hr) e

/-! ## Releasing -/

theorem fanOut_release (d : Daemon) (t : Token) (s : SessionId) :
    ((d.release t).session s).fanOut = (d.session s).fanOut := (d.frame_release t).fanOut s

theorem Linked.release (hL : Linked d) (t : Token) : Linked (d.release t) := by
  refine ⟨fun u hu => ?_, fun u s hu => ?_, fun s u hu => ?_, fun s hs => ?_, fun s hs => ?_⟩
  · rw [unattached_release, Function.update_apply] at hu
    rw [tokens_release, Function.update_apply]
    split_ifs at hu ⊢
    · exact absurd rfl hu
    · exact hL.token_of_unattached u hu
  · rw [fanOut_release]
    rw [tokens_release, Function.update_apply] at hu
    split_ifs at hu
    exact hL.looping_of_token u s hu
  · rw [session_release] at hu
    split_ifs at hu with e
    · obtain ⟨hne, hm⟩ := Finmap.mem_erase.1 hu
      rw [tokens_release, Function.update_of_ne hne]
      exact hL.token_of_subscriber s u hm
    · have htok := hL.token_of_subscriber s u hu
      rw [tokens_release, Function.update_of_ne, htok]
      rintro rfl
      exact e htok
  · rw [fanOut_release]
    exact hL.looping_of_listed s (d.mem_sessions_release.1 hs).1
  · rw [mem_sessions_release]
    rintro ⟨hmem, hlast⟩
    rw [session_release] at hs
    split_ifs at hs with e
    · rcases Bool.or_eq_true_iff.1 hs with hs | hs
      · exact hL.unlisted_of_stop s hs hmem
      · exact hlast ⟨e, of_decide_eq_true hs⟩
    · exact hL.unlisted_of_stop s hs hmem

/-- The last client to go takes the session with it. -/
theorem Attended.release (hA : Attended d) (t : Token) : Attended (d.release t) := by
  intro s hs hm
  rw [fanOut_release] at hs
  rw [fanOut_release, mem_sessions_release]
  rw [session_release] at hm ⊢
  split_ifs at hm ⊢ with e
  · exact .inr ⟨fun h => h.2 ⟨e, hm⟩, .inl (by rw [decide_eq_true hm, Bool.or_true])⟩
  · rcases hA s hs hm with hc | ⟨hmem, hrest⟩
    · exact .inl hc
    · exact .inr ⟨fun h => hmem h.1, hrest⟩

/-! ## The fan-out -/

/-- What goes on inside a session keeps the maps linked. -/
theorem Linked.inside (hL : Linked d) {s : SessionId} (f : Inside s d d') : Linked d' := by
  have hkeys : ∀ r t, t ∈ (d'.session r).subscribers → t ∈ (d.session r).subscribers := by
    intro r t ht
    by_cases hr : r = s
    · subst hr
      exact Finmap.mem_keys.1 (f.keys (Finmap.mem_keys.2 ht))
    · rwa [f.session_of_ne r hr] at ht
  have hstop : ∀ r, (d'.session r).stop = (d.session r).stop := by
    intro r
    by_cases hr : r = s
    · rw [hr, f.stop]
    · rw [f.session_of_ne r hr]
  refine ⟨fun t => ?_, fun t r ht => ?_, fun r t ht => ?_, fun r hr => ?_, fun r hr => ?_⟩
  · rw [f.unattached, f.tokens]
    exact hL.token_of_unattached t
  · rw [f.frame.fanOut]
    exact hL.looping_of_token t r (f.tokens ▸ ht)
  · rw [f.tokens]
    exact hL.token_of_subscriber r t (hkeys r t ht)
  · rw [f.frame.fanOut]
    exact hL.looping_of_listed r (f.sessions ▸ hr)
  · rw [f.sessions]
    exact hL.unlisted_of_stop r (hstop r ▸ hr)

/-- A session that stays before its `end`, with the same clients. -/
theorem Linked.setSession (hL : Linked d) {s : SessionId} {S : Session}
    (hm : S.subscribers = (d.session s).subscribers)
    (hp : S.stop = true → (d.session s).stop = true)
    (hf : (d.session s).fanOut.isLooping → S.fanOut.isLooping) : Linked (d.setSession s S) := by
  refine ⟨hL.token_of_unattached, fun t r ht => ?_, fun r t ht => ?_, fun r hr => ?_,
    fun r hr => ?_⟩ <;> simp only [setSession_session, Function.update_apply] at *
  · split_ifs with e
    · exact hf (e ▸ hL.looping_of_token t r ht)
    · exact hL.looping_of_token t r ht
  · split_ifs at ht with e
    · rw [e]
      exact hL.token_of_subscriber s t (hm ▸ ht)
    · exact hL.token_of_subscriber r t ht
  · split_ifs with e
    · exact hf (e ▸ hL.looping_of_listed r hr)
    · exact hL.looping_of_listed r hr
  · split_ifs at hr with e
    · rw [e]
      exact hL.unlisted_of_stop s (hp hr)
    · exact hL.unlisted_of_stop r hr

theorem Linked.unlist (hL : Linked d) (s : SessionId) : Linked (d.unlist s) :=
  { hL with
    looping_of_listed := fun r hr => hL.looping_of_listed r (List.mem_filter.1 hr).1
    unlisted_of_stop := fun r hr h => hL.unlisted_of_stop r hr (List.mem_filter.1 h).1 }

theorem Linked.closeIfIdle (hL : Linked d) (s : SessionId) : Linked (d.closeIfIdle s) := by
  unfold Daemon.closeIfIdle
  split
  · exact (hL.unlist s).setSession rfl id fun _ => rfl
  · exact hL.setSession rfl id fun _ => rfl

theorem Linked.endFirst (hL : Linked d) {s : SessionId} (h : Ended s d d') : Linked d' := by
  refine ⟨fun t ht => ?_, fun t r ht => ?_, fun r t ht => ?_, fun r hr => ?_, fun r hr => ?_⟩
  · rw [h.unattached] at ht
    rw [h.tokens]
    split_ifs at ht ⊢
    · exact absurd rfl ht
    · exact hL.token_of_unattached t ht
  · rw [h.tokens] at ht
    split_ifs at ht with e
    have hr : r ≠ s := by
      rintro rfl
      exact e ht
    rw [h.session_of_ne r hr]
    exact hL.looping_of_token t r ht
  · have hr : r ≠ s := by
      rintro rfl
      have := Finmap.mem_keys.2 ht
      rw [h.keys] at this
      exact absurd this (Finset.notMem_empty t)
    rw [h.session_of_ne r hr] at ht
    have htok := hL.token_of_subscriber r t ht
    rw [h.tokens, if_neg, htok]
    rw [htok]
    exact fun heq => hr (Option.some.inj heq)
  · rw [h.sessions, List.mem_filter] at hr
    rw [h.session_of_ne r (of_decide_eq_true hr.2)]
    exact hL.looping_of_listed r hr.1
  · rw [h.sessions, List.mem_filter]
    rintro ⟨hmem, hne⟩
    rw [h.session_of_ne r (of_decide_eq_true hne)] at hr
    exact hL.unlisted_of_stop r hr hmem

theorem Linked.shift (hL : Linked d) {a : Act} (h : Shift d a d') : Linked d' := by
  cases h with
  | calm ha => exact hL
  | release ha => exact hL.release _
  | join ha hs hd => exact hL.subscribe (hL.looping_of_listed _ hs) hd
  | publish ha hs hd =>
    refine (hL.addSession rfl rfl rfl).subscribe ?_ hd
    rw [addSession_session, Function.update_self]
    rfl
  | unsubscribed ha hs => exact hL.addSession rfl rfl rfl
  | @chunk s order c ha hs hn ho =>
    obtain ⟨e, f, he⟩ := d.exists_fanOutChunk s order c
    rw [he]
    refine (hL.inside f).setSession rfl id fun _ => ?_
    dsimp only
    split <;> rfl
  | closeIfIdle ha hs => exact hL.closeIfIdle _
  | leave ha hs hb => exact hL.setSession rfl hb fun _ => rfl
  | endFirst ha hs hw hn ho => exact hL.endFirst (d.ended_endFirst _ _ hw ho)

theorem linked_step {a : Act} (hL : Linked d) (h : Step d a d') : Linked d' := by
  obtain ⟨e, hshift, hcalm⟩ := step_shift h
  exact (hL.shift hshift).calm hcalm

theorem linked_reachable {devices : List Device} (h : Reachable Step (init devices) d) :
    Linked d :=
  h.invariant (linked_init devices) fun _ _ _ _ hL hs => linked_step hL hs

/-! ## Sessions without a client -/

theorem Attended.shift (hA : Attended d) {a : Act} (hdrew : a.Drew) (h : Shift d a d') :
    Attended d' := by
  cases h with
  | calm ha => exact hA
  | release ha => exact hA.release _
  | join ha hs hd => exact .subscribe fun r _ => hA r
  | @publish h s c t k job _ format ha hs hd =>
    refine .subscribe fun r hr hl hm => ?_
    rw [addSession_session, Function.update_of_ne hr] at hl hm ⊢
    rw [addSession_sessions, List.mem_append, List.mem_singleton]
    exact (hA r hl hm).imp id fun hrest => ⟨fun h => h.elim hrest.1 hr, hrest.2⟩
  | unsubscribed ha hs =>
    subst ha
    exact absurd rfl hdrew
  | @chunk s order c ha hs hn ho =>
    obtain ⟨e, f, he⟩ := d.exists_fanOutChunk s order c
    rw [he]
    intro r hr hm
    rw [setSession_session, Function.update_apply] at hr hm ⊢
    by_cases hrs : r = s
    · rw [if_pos hrs] at hm ⊢
      exact .inl (if_pos hm)
    · rw [if_neg hrs, f.session_of_ne r hrs] at hr hm ⊢
      rw [setSession_sessions, f.sessions]
      exact hA r hr hm
  | @closeIfIdle s ha hs =>
    unfold Daemon.closeIfIdle
    split
    · intro r hr hm
      rw [setFanOut, setSession_session, Function.update_apply] at hr hm ⊢
      rw [setSession_sessions, unlist_sessions, List.mem_filter]
      split_ifs at hr hm ⊢ with e
      · exact .inr ⟨fun h => of_decide_eq_true h.2 e, .inr ⟨_, rfl⟩⟩
      · exact (hA r hr hm).imp id fun hrest => ⟨fun h => hrest.1 h.1, hrest.2⟩
    · rename_i hne
      intro r hr hm
      rw [setFanOut, setSession_session, Function.update_apply] at hr hm ⊢
      split_ifs at hr hm ⊢ with e
      · exact absurd hm hne
      · exact hA r hr hm
  | @leave s b error ha hs hb =>
    intro r hr hm
    rw [setSession_session, Function.update_apply] at hr hm ⊢
    split_ifs at hr hm ⊢ with e
    · subst e
      rcases hA r (by rw [hs]; rfl) hm with hc | ⟨hmem, -⟩
      · rw [hs] at hc
        cases hc
      · exact .inr ⟨hmem, .inr ⟨_, rfl⟩⟩
    · exact hA r hr hm
  | @endFirst s walk order error ha hs hw hn ho =>
    have h := d.ended_endFirst walk error hw ho
    intro r hr hm
    by_cases e : r = s
    · rw [e, h.fanOut] at hr
      cases hr
    · rw [h.session_of_ne r e] at hr hm ⊢
      rw [h.sessions, List.mem_filter]
      exact (hA r hr hm).imp id fun hrest => ⟨fun h => hrest.1 h.1, hrest.2⟩

theorem attended_step {a : Act} (hA : Attended d) (hdrew : a.Drew) (h : Step d a d') :
    Attended d' := by
  obtain ⟨e, hshift, hcalm⟩ := step_shift h
  exact (hA.shift hdrew hshift).calm hcalm

theorem attended_reachable {devices : List Device}
    (h : Reachable (Restrict Step fun _ a => a.Drew) (init devices) d) : Attended d :=
  h.invariant (attended_init devices) fun _ _ _ _ hA hs => attended_step hA hs.2 hs.1

/-! ## Sessions taken out of the running ones -/

/-- The session `s` has been taken out of the running ones, with no client but those in `m`. -/
structure Unlisted (m : Finset Token) (s : SessionId) (d : Daemon) : Prop where
  born : (d.session s).fanOut ≠ .absent
  notMem : s ∉ d.sessions
  keys : (d.session s).subscribers.keys ⊆ m

variable {m : Finset Token} {s : SessionId}

theorem Unlisted.calm (hU : Unlisted m s d) (h : Calm d d') : Unlisted m s d' := by
  refine ⟨?_, by rw [h.sessions]; exact hU.notMem, by rw [h.subscribers]; exact hU.keys⟩
  rcases h.fanOut s with he | ⟨-, he | he⟩
  · rw [he]
    exact hU.born
  · intro hf
    rw [hf] at he
    cases he
  · rw [he]
    exact FanOut.noConfusion

/-- What a shift does not do to a session that is not among the running ones. -/
theorem Unlisted.shift (hU : Unlisted m s d) {a : Act} (h : Shift d a d') :
    Unlisted m s d' := by
  -- For a session set to one that has got no client.
  have hset : ∀ {e : Daemon} {r : SessionId} {S : Session}, Unlisted m s e →
      S.fanOut ≠ .absent → S.subscribers = (e.session r).subscribers →
      Unlisted m s (e.setSession r S) := by
    intro e r S hE hf hm
    refine ⟨?_, hE.notMem, ?_⟩ <;> rw [setSession_session, Function.update_apply] <;>
      split_ifs with hr
    · exact hf
    · exact hE.born
    · rw [hm, ← hr]
      exact hE.keys
    · exact hE.keys
  cases h with
  | calm ha => exact hU
  | @release t ha =>
    refine ⟨?_, fun h => hU.notMem (d.mem_sessions_release.1 h).1, ?_⟩
    · rw [fanOut_release]
      exact hU.born
    rw [session_release]
    split_ifs
    · exact (keys_erase_subset _ _).trans hU.keys
    · exact hU.keys
  | @join h r c t k ha hr hd =>
    have hne : s ≠ r := by
      rintro rfl
      exact hU.notMem hr
    refine ⟨?_, hU.notMem, ?_⟩ <;> rw [session_subscribe, Function.update_of_ne hne]
    · exact hU.born
    · exact hU.keys
  | @publish h r c t k job id format ha hr hd =>
    have hne : s ≠ r := by
      rintro rfl
      exact hU.born hr
    refine ⟨?_, ?_, ?_⟩
    · rw [session_subscribe, Function.update_of_ne hne, addSession_session,
        Function.update_of_ne hne]
      exact hU.born
    · exact fun h => (List.mem_append.1 h).elim hU.notMem fun h => hne (List.mem_singleton.1 h)
    · rw [session_subscribe, Function.update_of_ne hne, addSession_session,
        Function.update_of_ne hne]
      exact hU.keys
  | @unsubscribed h r job id format ha hr =>
    have hne : s ≠ r := by
      rintro rfl
      exact hU.born hr
    refine ⟨?_, ?_, ?_⟩
    · rw [addSession_session, Function.update_of_ne hne]
      exact hU.born
    · exact fun h => (List.mem_append.1 h).elim hU.notMem fun h => hne (List.mem_singleton.1 h)
    · rw [addSession_session, Function.update_of_ne hne]
      exact hU.keys
  | @chunk r order c ha hr hn ho =>
    obtain ⟨e, f, he⟩ := d.exists_fanOutChunk r order c
    rw [he]
    refine hset ⟨?_, by rw [f.sessions]; exact hU.notMem, ?_⟩ ?_ rfl
    · rw [f.frame.fanOut]
      exact hU.born
    · by_cases hs : s = r
      · subst hs
        exact f.keys.trans hU.keys
      · rw [f.session_of_ne s hs]
        exact hU.keys
    · dsimp only
      split <;> exact FanOut.noConfusion
  | @closeIfIdle r ha hr =>
    unfold Daemon.closeIfIdle
    split
    · have hun : Unlisted m s (d.unlist r) :=
        ⟨hU.born, fun h => hU.notMem (List.mem_filter.1 h).1, hU.keys⟩
      exact hset hun FanOut.noConfusion rfl
    · exact hset hU FanOut.noConfusion rfl
  | leave ha hs hb => exact hset hU FanOut.noConfusion rfl
  | @endFirst r walk order error ha hr hw hn ho =>
    have h := d.ended_endFirst walk error hw ho
    refine ⟨?_, ?_, ?_⟩
    · by_cases hs : s = r
      · rw [hs, h.fanOut]
        exact FanOut.noConfusion
      · rw [h.session_of_ne s hs]
        exact hU.born
    · rw [h.sessions, List.mem_filter]
      exact fun h => hU.notMem h.1
    · by_cases hs : s = r
      · rw [hs, h.keys]
        exact Finset.empty_subset m
      · rw [h.session_of_ne s hs]
        exact hU.keys

/-- No client joins a session that is no longer among the running ones. -/
theorem Unlisted.reachable (hU : Unlisted m s d) (h : Reachable Step d d') : Unlisted m s d' :=
  h.invariant hU fun _ _ _ _ hU hs => by
    obtain ⟨e, hshift, hcalm⟩ := step_shift hs
    exact (hU.shift hshift).calm hcalm

/-- **No client is stranded on a dead session, and no session is orphaned.** -/
theorem nobody_stranded {devices : List Device}
    (hd : Reachable (Restrict Step fun _ a => a.Drew) (init devices) d) :
    (∀ t, d.unattached t ≠ none → d.tokens t ≠ none) ∧
    (∀ t s, d.tokens t = some s → (d.session s).fanOut.isLooping) ∧
    (∀ s t, t ∈ (d.session s).subscribers → d.tokens t = some s) ∧
    (∀ s d', (d.session s).fanOut ≠ .absent → s ∉ d.sessions → Reachable Step d d' →
      s ∉ d'.sessions ∧ (d'.session s).subscribers.keys ⊆ (d.session s).subscribers.keys) ∧
    (∀ s, (d.session s).fanOut.isLooping → (d.session s).subscribers.keys = ∅ →
      (d.session s).fanOut = .checking ∨
        s ∉ d.sessions ∧
          ((d.session s).stop = true ∨ ∃ e, (d.session s).fanOut = .left e)) := by
  have hL := linked_reachable hd.of_restrict
  refine ⟨hL.token_of_unattached, hL.looping_of_token, hL.token_of_subscriber,
    fun s d' hb hs hreach => ?_, attended_reachable hd⟩
  have hU : Unlisted (d.session s).subscribers.keys s d := ⟨hb, hs, fun _ h => h⟩
  exact ⟨(hU.reachable hreach).notMem, (hU.reachable hreach).keys⟩

theorem nobody_stranded_granted :
    (granted.session 0).fanOut.isLooping ∧ granted.tokens 7 ≠ none := by
  have h := nobody_stranded (reachable_granted.mono fun _ _ hs => hs.2)
  exact ⟨h.2.1 7 0 rfl, h.1 7 (by decide)⟩

end Tunelith.Tunelithd
