import Tunelith.Joint.Dials

/-!
# How streams end, on either side

A stream of the client goes on, or the client is told of its end, unless it has given the stream
up or the daemon thinks it gone (`Accounted`). What the client is told of a stream it is told from
when it has attached to it, and so it counts and keeps all of it (`Agreeing`).

* `agree_on_the_end` — how the client comes to know that a stream has ended, and what of the
  stream it has then.
-/

namespace Tunelith.Joint

open Proto Lts
open Tunelithd (Daemon ConnId Device Fresh)
open Client (Inner CallId DataId Token Stream)

variable {c₀ : ConnId} {devices : List Device} {P P' : Joint} {a : Act} {t : Token} {x : DataId}
  {i : CallId}

/-! ## Streams that go on -/

/-- A stream drawn for the client goes on, or its end was told, or one of the two has let go. -/
def Accounted (c₀ : ConnId) (P : Joint) : Prop :=
  ∀ t, P.daemon.DrawnFor c₀ t → P.daemon.Fed t ∨
    (∃ error, .ended error ∈ P.daemon.told t c₀) ∨ P.daemon.Gone c₀ ∨
      P.client.GivenUp P.frames t

theorem accounted_init (c₀ : ConnId) (devices : List Device) : Accounted c₀ (init devices) := by
  rintro t ⟨D, hD, -⟩
  cases hD

theorem fed_ofDaemon (h : Reachable (Step c₀) (init devices) P) {b : Tunelithd.Act} {d : Daemon}
    (hs : Restrict Tunelithd.Step Fresh P.daemon b d) (hb : P.Allows c₀ b)
    (ht : P.daemon.DrawnFor c₀ t) (hF : P.daemon.Fed t) : d.Fed t ∨
      (∃ error, .ended error ∈ d.told t c₀) ∨ d.Gone c₀ ∨ P.client.GivenUp P.frames t := by
  have hd := daemon_reachable h
  have hD := dialled_reachable h
  have hV := Tunelithd.receivers_reachable hd
  by_cases hgone : P.daemon.Gone c₀
  · exact .inr (.inr (.inl (hgone.step hs.1)))
  by_cases hgiven : P.client.GivenUp P.frames t
  · exact .inr (.inr (.inr hgiven))
  -- A data connection for the stream is one the client opened for it.
  have hopened : ∀ {x}, (P.daemon.data x).stage.token = some t → P.opened x = some t :=
    fun {x} hx => (hD.attached x t hx).resolve_right fun h => h.2 ht
  have hrel : P.daemon.released b ≠ some t := by
    intro hrel
    rcases (Tunelithd.once_reachable hd).released_cases
      (Tunelithd.owned_reachable hd.of_restrict).sound hs.1 hrel ht with hg | ⟨h', rfl, hh⟩ |
      ⟨x, k, rfl, hx⟩
    · exact hgone hg
    · by_cases hc : (P.daemon.handler h').conn = c₀
      · exact hgiven ((held_reachable h).carrying.givenUp t
          ((wired_reachable h).asked h' t hc (by rw [hh]; rfl)))
      · exact hb hc t hh ht
    · have htok : (P.daemon.data x).stage.token = some t := by rw [hx]; rfl
      rcases relaying_reachable h x t ⟨hopened htok, .inr htok⟩ with hR | hg
      · obtain ⟨D, -, ⟨hst, -⟩ | ⟨-, -, hl⟩⟩ := hR
        · rw [hx] at hst
          rcases hst with hst | hst <;> cases hst
        · obtain ⟨s, y, hy, -⟩ := hF
          rw [hl] at hy
          cases hy
      · exact hgiven hg
  have hfail : ∀ x, b = .dataFail x → (P.daemon.data x).stage.token ≠ some t := by
    rintro x rfl hx
    exact hgiven (hD.givenUp (hopened hx) hb)
  refine (hF.step (Tunelithd.linked_reachable hd.of_restrict) (Tunelithd.ledger_reachable hd) hV
    hs hrel hfail).imp_right fun ⟨D, error, hdrawn, he⟩ => .inl ⟨error, ?_⟩
  obtain ⟨E, hE, rfl⟩ := ht
  cases hdrawn.symm.trans hE
  exact he

theorem accounted_reachable (h : Reachable (Step c₀) (init devices) P) : Accounted c₀ P := by
  refine h.invariant (accounted_init c₀ devices) fun P a P' hreach hA hs t ht => ?_
  have hn := nodup_grants (hreach.snoc hs)
  cases hs with
  | @daemon b d hs hb =>
    rw [frames_ofDaemon]
    rcases Tunelithd.drawn_cases hs.1 t with he | ⟨hdraw, -⟩
    · have ht' : P.daemon.DrawnFor c₀ t := by
        obtain ⟨D, hD, hc⟩ := ht
        exact ⟨D, he ▸ hD, hc⟩
      rcases hA t ht' with hF | ⟨error, he⟩ | hg | hg
      · exact fed_ofDaemon hreach hs hb ht' hF
      · exact .inr (.inl ⟨error, Tunelithd.mem_told_step
          (Tunelithd.answering_reachable (daemon_reachable hreach).of_restrict) hs.1 he⟩)
      · exact .inr (.inr (.inl (hg.step hs.1)))
      · exact .inr (.inr (.inr hg))
    · exact .inl (Tunelithd.fed_of_draws hs.1 hdraw)
  | client hs hb =>
    rw [frames_ofClient hb] at hn ⊢
    refine (hA t ht).imp_right (.imp_right (.imp_right fun hg => ?_))
    exact hg.step (Client.filed_reachable (client_reachable hreach)) hs hn

/-! ## What the client knows -/

/-- The reader comes out of its loop once the daemon has finished with the client. -/
def Closing (c₀ : ConnId) (P : Joint) : Prop :=
  P.client.reader ≠ .reading → P.daemon.Finished c₀

theorem closing_reachable (h : Reachable (Step c₀) (init devices) P) : Closing c₀ P := by
  refine h.invariant (fun h => absurd rfl h) fun P a P' hreach hC hs hr => ?_
  cases hs with
  | daemon hs hb => exact (hC hr).step hs.1
  | @client b c hs hb =>
    have hr : c.reader ≠ .reading := hr
    have hturn := Client.reader_turn hs
    generalize c.reader = r at hturn hr
    cases hturn with
    | stay => exact hC hr
    | readerEnd => exact hb.finished
    | clear hr' => exact hC (by rw [hr']; nofun)
    | collect hr' => exact hC (by rw [hr']; nofun)
    | endNext hr' => exact hC (by rw [hr']; nofun)
    | readerDone hr' => exact hC (by rw [hr']; nofun)

/-- Once the daemon has come over its data connection, a call has counted and kept all that was
said of its stream, and the final sweep will not miss it. -/
def Agreeing (P : Joint) : Prop :=
  ∀ i x t, (P.client.call i).stage.data = some x → (P.client.call i).stage.token = some t →
    P.Attached x t → Client.Agrees P.client P.frames i t ∧
      (P.client.Ended t ∨ P.client.reader.ToEnd t)

theorem agreeing_init (devices : List Device) : Agreeing (init devices) := by
  intro i x t hx
  cases hx

theorem registered_of_data {s : Client.Stage} (h : s.data = some x) : s.registered = s.token := by
  cases s <;> first | rfl | cases h

theorem data_of_step {c c' : Inner} {b : Client.Act} (hs : Client.Step c b c')
    (hx : (c'.call i).stage.data = some x) : b = .openData i (.ok x) ∨
      (c.call i).stage.data = some x ∧ (c.call i).stage.token = (c'.call i).stage.token := by
  have hturn := Client.stage_turn hs i
  generalize (c.call i).stage = s at hturn ⊢
  generalize (c'.call i).stage = s' at hturn hx ⊢
  cases hturn with
  | stay => exact .inr ⟨hx, rfl⟩
  | early h h' =>
    rw [h'] at hx
    cases hx
  | opened =>
    cases hx
    exact .inl rfl
  | attached => exact .inr ⟨hx, rfl⟩
  | gone hl ht =>
    obtain ⟨t, ht'⟩ := token_of_data hx
    rw [ht] at ht'
    cases ht'

/-- The daemon attaches to a stream it has told nothing of, with its client still there. -/
theorem agrees_of_attach (h : Reachable (Step c₀) (init devices) P)
    (hx : (P.client.call i).stage.data = some x) (ht : (P.client.call i).stage.token = some t)
    (hu : P.daemon.unattached t ≠ none) : Client.Agrees P.client P.frames i t ∧
      (P.client.Ended t ∨ P.client.reader.ToEnd t) := by
  have hd := daemon_reachable h
  obtain ⟨k, hk⟩ := Option.ne_none_iff_exists'.1 hu
  have hreg := (registered_of_data hx).trans ht
  constructor
  · refine (held_reachable h).reporting.agrees (Client.Stage.kept_of_registered hreg) ?_
    have hnil := (Tunelithd.unheard_reachable hd t k hk).1 c₀
    have hpre := (wired_reachable h).begins_notices t
    rw [hnil] at hpre
    exact List.prefix_nil.1 hpre
  · refine .inr ?_
    by_cases hr : P.client.reader = .reading
    · rw [hr]
      trivial
    · have hdrawn := drawnFor_of_granted h ((held_reachable h).carrying.granted i t (.inr ht))
      have hno := (closing_reachable h hr).nothing_left
        (Tunelithd.owned_reachable hd.of_restrict) (Tunelithd.linked_reachable hd.of_restrict)
        hdrawn
      exact absurd hno.2.1 hu

theorem agreeing_reachable (h : Reachable (Step c₀) (init devices) P) : Agreeing P := by
  refine h.invariant (agreeing_init devices) fun P a P' hreach hG hs i x t hx ht hatt => ?_
  have hn := nodup_grants (hreach.snoc hs)
  have hD := dialled_reachable hreach
  cases hs with
  | daemon hs hb =>
    rw [frames_ofDaemon]
    rcases attached_ofDaemon hD hs.1 hatt with hatt | ⟨-, -, hu⟩
    · exact hG i x t hx ht hatt
    · exact agrees_of_attach hreach hx ht hu
  | @client b c hs hb =>
    rw [frames_ofClient hb] at hn ⊢
    have hatt' := attached_ofClient hD hb hatt
    have hx : (c.call i).stage.data = some x := hx
    have ht : (c.call i).stage.token = some t := ht
    rcases data_of_step hs hx with rfl | ⟨hx', htok⟩
    · have hno : P.opened x = none := hb.1
      rw [hatt'.1] at hno
      cases hno
    · have ht' := htok.trans ht
      have hreg := (registered_of_data hx').trans ht'
      have hreg' := (registered_of_data hx).trans ht
      obtain ⟨hA, hE⟩ := hG i x t hx' ht' hatt'
      have hH := held_reachable hreach
      exact ⟨hA.step hH.reporting hH.carrying hn hs hreg hreg',
        Client.toEnd_step hH.reporting hH.carrying hn hs hreg hreg' hE⟩

/-! ## Reads that wait -/

/-- A read that waits has found its data connection at its end. -/
def Waiting (P : Joint) : Prop :=
  ∀ i stream, (P.client.call i).stage = .streaming stream → (P.client.call i).parked = true →
    (P.daemon.data stream.data).stage.isOver = true

theorem isOver_step {d d' : Daemon} {b : Tunelithd.Act} (hs : Tunelithd.Step d b d')
    (hx : (d.data x).stage.isOver = true) : (d'.data x).stage.isOver = true := by
  have hturn := Tunelithd.data_turn hs x
  generalize d'.data x = X at hturn
  cases hturn with
  | stay => exact hx
  | attach h | greeted h | recv h | notGreeted h | dataEnd h | dataFail h =>
    rw [h] at hx
    cases hx
  | _ => rfl

theorem waiting_reachable (h : Reachable (Step c₀) (init devices) P) : Waiting P := by
  refine h.invariant (fun i stream hi => by cases hi) fun P a P' hreach hW hs i stream hi hp => ?_
  cases hs with
  | daemon hs hb => exact isOver_step hs.1 (hW i stream hi hp)
  | client hs hb =>
    obtain ⟨hi', hp'⟩ := Client.parked_cases (held_reachable hreach).reporting
      (Client.reports_step hs) hi hp
    rcases hp' with rfl | hp'
    · exact (hb stream hi').1
    · exact hW i stream hi' hp'

/-! ## The end -/

/-- The end of the stream `t` was told, and the client has yet to be told; or the daemon thinks
the client gone, and the client's reader has yet to end its streams. -/
def Coming (c₀ : ConnId) (P : Joint) (t : Token) : Prop :=
  (∃ e error, e.body = some (.streamEndEvent t error) ∧
    (e ∈ (P.daemon.conn c₀).events.queue ∨ e ∈ P.down.queue)) ∨
  P.daemon.Gone c₀ ∧ P.client.reader.ToEnd t

theorem notice_eq_ended {e : Envelope} {error : String} :
    notice t e = some (.ended error) ↔ e.body = some (.streamEndEvent t error) := by
  unfold notice
  split
  · next u n h => rw [h]; simp
  · next u err h => rw [h]; simp
  · next h1 h2 =>
    refine ⟨nofun, fun h => ?_⟩
    exact absurd h (h2 _ _)

/-- What holds of a stream the client has and the daemon has let go of. -/
theorem of_isOver (h : Reachable (Step c₀) (init devices) P) {stream : Stream}
    (hi : (P.client.call i).stage = .streaming stream)
    (ho : (P.daemon.data stream.data).stage.isOver = true) :
    (P.client.Ended stream.token ∨ Coming c₀ P stream.token) ∧
      ∃ D, P.daemon.drawn stream.token = some D ∧ D.conn = c₀ ∧
        (P.daemon.data stream.data).out = (P.daemon.chan D.chan).queue.sent := by
  have hD := dialled_reachable h
  have hx : (P.client.call i).stage.data = some stream.data := by rw [hi]; rfl
  have ht : (P.client.call i).stage.token = some stream.token := by rw [hi]; rfl
  have hatt : P.Attached stream.data stream.token :=
    ⟨(hD.opened i _ hx).trans ht, .inl (hD.greeted i stream hi)⟩
  have hcarries : (P.client.call i).Carries stream.token := .inr ht
  have hdrawn := drawnFor_of_granted h ((held_reachable h).carrying.granted i _ hcarries)
  obtain ⟨hA, hE⟩ := agreeing_reachable h i _ _ hx ht hatt
  have hgiven : ¬ P.client.GivenUp P.frames stream.token := fun hg => hg.2 i hcarries
  obtain ⟨D, hdraw, hR⟩ := (relaying_reachable h _ _ hatt).resolve_right hgiven
  have hdone : (P.daemon.data stream.data).out = (P.daemon.chan D.chan).queue.sent ∧
      P.daemon.Left stream.token := by
    rcases hR with ⟨hst, -⟩ | ⟨-, hR⟩
    · rcases hst with hst | hst <;> rw [hst] at ho <;> cases ho
    · exact hR
  refine ⟨?_, D, hdraw, ?_, hdone.1⟩
  · rcases accounted_reachable h _ hdrawn with hF | ⟨error, he⟩ | hg | hg
    · obtain ⟨s, y, hy, -⟩ := hF
      rw [hdone.2] at hy
      cases hy
    · obtain ⟨e, hmem, he⟩ := List.mem_filterMap.1 he
      have hbody := notice_eq_ended.1 he
      rcases Fifo.mem_sent_iff.1 hmem with hmem | hmem
      · rw [← (wired_reachable h).down] at hmem
        rcases Fifo.mem_sent_iff.1 hmem with hmem | hmem
        · exact .inl (hA.ended error (List.mem_filterMap.2 ⟨e, hmem, he⟩))
        · exact .inr (.inl ⟨e, error, hbody, .inr hmem⟩)
      · exact .inr (.inl ⟨e, error, hbody, .inl hmem⟩)
    · exact hE.imp_right fun hE => .inr ⟨hg, hE⟩
    · exact absurd hg hgiven
  · obtain ⟨E, hE, hc⟩ := hdrawn
    cases hdraw.symm.trans hE
    exact hc

/-- A read that waits will be woken by the end that comes, and returns how the stream ended. -/
theorem of_parked (h : Reachable (Step c₀) (init devices) P) {stream : Stream}
    (hi : (P.client.call i).stage = .streaming stream) (hp : (P.client.call i).parked = true) :
    Coming c₀ P stream.token ∧
      ∀ error, (P.client.endStream stream.token error).ends stream.token = some (.ended error) ∧
        ((P.client.endStream stream.token error).call i).parked = false := by
  have hR := (held_reachable h).reporting
  have hreg : (P.client.call i).stage.registered = some stream.token := by rw [hi]; rfl
  have hpend : P.client.ends stream.token = some (.pending (some i)) := by
    rcases hR.parked i hp with hf | ⟨stream', hi', hp⟩
    · rw [hi] at hf
      cases hf
    · cases hi.symm.trans hi'
      exact hp
  refine ⟨(of_isOver h hi (waiting_reachable h i stream hi hp)).1.resolve_left ?_, fun error => ?_⟩
  · rintro ⟨error, he⟩
    rw [hpend] at he
    cases he
  · have hE := Client.ends_endStream P.client stream.token error
    refine ⟨hE.recorded (hR.registered i _ hreg), ?_⟩
    rw [hE.call, if_pos hpend]

/-- A read at the end of the data waits for an end that is coming, or returns the one recorded. -/
theorem of_pollEnd (h : Reachable (Step c₀) (init devices) P) {stream : Stream}
    (hi : (P.client.call i).stage = .streaming stream) {r : Option (Except String Unit)}
    (hs : Step c₀ P (.client (.pollEnd i r)) P') :
    r = none ∧ (P'.client.call i).parked = true ∧ Coming c₀ P' stream.token ∨
      ∃ error, P.client.ends stream.token = some (.ended error) ∧
        r = some (Client.readEnd error) := by
  have h' := h.snoc hs
  have hreg : (P.client.call i).stage.registered = some stream.token := by rw [hi]; rfl
  cases hs with
  | client hs hb =>
    cases hs with
    | pollEnd hi' =>
      cases hi.symm.trans hi'
      rcases Client.pollEnd_cases P.client i stream.token with ⟨-, hr, hp⟩ | he | ⟨he, -⟩
      · refine .inl ⟨hr, hp, (of_parked h' ?_ hp).1⟩
        exact ((Client.still_pollEnd _ _ _).stage i).trans hi
      · exact .inr he
      · exact absurd he ((held_reachable h).reporting.registered i _ hreg)

/-- The end of a stream is recorded as tunelithd told it, until the final sweep. -/
theorem recorded_as_told (h : Reachable (Step c₀) (init devices) P) {stream : Stream}
    (hi : (P.client.call i).stage = .streaming stream) {e : Envelope} (he : e ∈ P.down.received)
    {error : String} (hbody : e.body = some (.streamEndEvent stream.token error)) :
    P.client.ends stream.token = some (.ended (Client.endError error)) ∨
      P.client.reader.sweeps = true ∧
        P.client.ends stream.token = some (.ended (some Client.sweepError)) := by
  have hx : (P.client.call i).stage.data = some stream.data := by rw [hi]; rfl
  have ht : (P.client.call i).stage.token = some stream.token := by rw [hi]; rfl
  have hD := dialled_reachable h
  have hatt : P.Attached stream.data stream.token :=
    ⟨(hD.opened i _ hx).trans ht, .inl (hD.greeted i stream hi)⟩
  have hmem : Notice.ended error ∈ P.frames.filterMap (notice stream.token) :=
    List.mem_filterMap.2 ⟨e, he, notice_eq_ended.2 hbody⟩
  obtain ⟨kept, hkept⟩ := (agreeing_reachable h i _ _ hx ht hatt).1.ended error hmem
  rcases (held_reachable h).reporting.recorded _ _ hkept with ⟨told, hm, rfl⟩ | ⟨hr, rfl⟩
  · have hpre := ((wired_reachable h).begins_notices stream.token).subset
    rw [((Tunelithd.ledger_reachable (daemon_reachable h)).told _ _).ended_unique (hpre hmem)
      (hpre hm)]
    exact .inl hkept
  · exact .inr ⟨hr, hkept⟩

/-- **Daemon and client agree on how a stream ended.** A stream that finds its data connection at
its end, all read, has ended, or that is under way to it. A read there waits only for an end that
is coming, which wakes it, and otherwise returns the end recorded: the one an event told, or that
of the final sweep of the reader. And once an event has told the end, what was read and what was
counted as dropped make up all that was fanned out. -/
theorem agree_on_the_end (h : Reachable (Step c₀) (init devices) P) {stream : Stream}
    (hi : (P.client.call i).stage = .streaming stream) :
    (P.AtEnd i stream → P.client.Ended stream.token ∨ Coming c₀ P stream.token) ∧
    (∀ r P', Step c₀ P (.client (.pollEnd i r)) P' →
      r = none ∧ (P'.client.call i).parked = true ∧ Coming c₀ P' stream.token ∨
      ∃ error, P.client.ends stream.token = some (.ended error) ∧
        r = some (Client.readEnd error)) ∧
    ((P.client.call i).parked = true → Coming c₀ P stream.token ∧
      ∀ error, (P.client.endStream stream.token error).ends stream.token = some (.ended error) ∧
        ((P.client.endStream stream.token error).call i).parked = false) ∧
    (∀ error, P.client.ends stream.token = some (.ended error) →
      (∃ e ∈ P.down.received, ∃ told, e.body = some (.streamEndEvent stream.token told) ∧
        error = Client.endError told) ∨
      P.client.reader.sweeps = true ∧ error = some Client.sweepError) ∧
    (∀ e ∈ P.down.received, ∀ error, e.body = some (.streamEndEvent stream.token error) →
      P.client.ends stream.token = some (.ended (Client.endError error)) ∨
      P.client.reader.sweeps = true ∧
        P.client.ends stream.token = some (.ended (some Client.sweepError))) ∧
    (P.AtEnd i stream → ∀ e ∈ P.down.received, ∀ error,
      e.body = some (.streamEndEvent stream.token error) →
      ∃ D, P.daemon.drawn stream.token = some D ∧ D.conn = c₀ ∧
        (P.client.call i).read.length + (P.client.call i).dropped =
          Tunelithd.bytes ((P.daemon.session D.session).chunks.drop D.since)) := by
  refine ⟨fun hend => (of_isOver h hi hend.1).1, fun r P' => of_pollEnd h hi, of_parked h hi,
    fun error he => ?_, fun e he error => recorded_as_told h hi he,
    fun hend e he error hbody => ?_⟩
  · refine ((held_reachable h).reporting.recorded _ _ he).imp_left fun ⟨told, hm, ht⟩ => ?_
    obtain ⟨e, hmem, hn⟩ := List.mem_filterMap.1 hm
    exact ⟨e, hmem, told, notice_eq_ended.1 hn, ht⟩
  · obtain ⟨-, D, hdraw, hc, hout⟩ := of_isOver h hi hend.1
    refine ⟨D, hdraw, hc, ?_⟩
    have hd := daemon_reachable h
    have hD := dialled_reachable h
    have hx : (P.client.call i).stage.data = some stream.data := by rw [hi]; rfl
    have ht : (P.client.call i).stage.token = some stream.token := by rw [hi]; rfl
    have hatt : P.Attached stream.data stream.token :=
      ⟨(hD.opened i _ hx).trans ht, .inl (hD.greeted i stream hi)⟩
    have hA := (agreeing_reachable h i _ _ hx ht hatt).1
    -- The end is the last the client is told of a stream.
    have hmem : Notice.ended error ∈ P.frames.filterMap (notice stream.token) :=
      List.mem_filterMap.2 ⟨e, he, notice_eq_ended.2 hbody⟩
    have htold : P.frames.filterMap (notice stream.token) =
        P.daemon.told stream.token D.conn := by
      rw [hc]
      exact ((Tunelithd.ledger_reachable hd).told _ _).eq_of_begins
        ((wired_reachable h).begins_notices _) hmem
    rw [htold] at hmem
    have hlaw := (Tunelithd.allSettled_reachable hd _ D error hdraw hmem).law
    have hread : (P.client.call i).read.length =
        Tunelithd.bytes (P.daemon.chan D.chan).queue.sent := by
      rw [hend.2, hout, List.length_flatten]
      rfl
    rw [hread, hA.dropped, htold, hlaw]

/-! ## A run -/

section Run

open Tunelithd (oneTuner askT SessionId ChanId)

/-- What the only tuner of the daemon is acquired as. -/
def grantedT : AcquireResponse := ⟨7, "0#0", .known .ts⟩

theorem daemon_snoc (h : Reachable (Step c₀) (init devices) P) (b : Tunelithd.Act) {d : Daemon}
    (hs : Tunelithd.Step P.daemon b d) (hn : b.draws = none) (hb : P.Allows c₀ b) :
    Reachable (Step c₀) (init devices) (P.ofDaemon c₀ b d) :=
  h.snoc (.daemon (hs.fresh hn) hb)

theorem client_snoc (h : Reachable (Step c₀) (init devices) P) (b : Client.Act) {c : Inner}
    (hs : Client.Step P.client b c) (hb : P.Permits c₀ b) :
    Reachable (Step c₀) (init devices) (P.ofClient b c) :=
  h.snoc (.client hs hb)

theorem noSender (h : Reachable (Step c₀) (init devices) P) (hno : ∀ t, P.daemon.tokens t = none)
    (k : ChanId) : P.daemon.NoSender k := by
  intro s t x hx
  have hL := Tunelithd.linked_reachable (daemon_reachable h).of_restrict
  have htok := hL.token_of_subscriber s t (Finmap.mem_of_lookup_eq_some hx)
  cases htok.symm.trans (hno t)

/-- A client acquires the stream `7`, which has a chunk and ends; the client reads it all and
hears of its end. -/
theorem exists_heard : ∃ P, Reachable (Step 0) (init oneTuner) P ∧
    (P.client.call 0).stage = .streaming ⟨7, "0#0", .ts, 0⟩ ∧ P.AtEnd 0 ⟨7, "0#0", .ts, 0⟩ ∧
    ⟨0, some (.streamEndEvent 7 "")⟩ ∈ P.down.received ∧ P.client.reader = .reading ∧
    (P.client.pollEnd 0 7).2 = some (.ok ()) := by
  let asked : Envelope := ⟨1, some (.acquireRequest askT)⟩
  let answer : Body := .acquireResponse grantedT
  -- The client asks.
  have h : Reachable (Step 0) (init oneTuner) _ := .refl _
  have h := daemon_snoc h (.accept 0) (.accept rfl) rfl trivial
  have h := client_snoc h (.acquire 0 ⟨.isdbT, 521143, none, none⟩ {})
    (@Client.Step.acquire _ 0 _ _ askT rfl rfl) trivial
  have h := client_snoc h (.insert 0) (.insert rfl) trivial
  have h := client_snoc h (.send 0) (.send rfl rfl) trivial
  have h := client_snoc h (.write asked true) (.write rfl rfl) trivial
  -- The daemon starts the tuner, and answers.
  have h := daemon_snoc h (.request 0 0 asked) (.request (by decide) rfl) rfl fun _ => rfl
  have h := daemon_snoc h (.search 0) (.search rfl rfl rfl) rfl trivial
  have h := daemon_snoc h (.reserve 0) (.reserve rfl) rfl trivial
  have h := daemon_snoc h (.openTuner 0) (.openTuner rfl) rfl trivial
  have h := daemon_snoc h (.opened 0 (.ok ())) (.opened rfl) rfl trivial
  have h := daemon_snoc h (.tuned 0 (.ok ())) (.tuned rfl) rfl trivial
  have h := daemon_snoc h (.streamed 0 (.ok .ts)) (.streamed rfl) rfl trivial
  have h := h.snoc (.daemon (a := .publish 0 0 (some (7, 0))) ⟨.publish rfl rfl
    (by rintro t k ⟨⟩; exact ⟨by decide, rfl, rfl⟩), by rintro t ⟨⟩; rfl⟩ trivial)
  have h := daemon_snoc h (.own 0) (@Tunelithd.Step.own _ 0 grantedT ∅ rfl rfl) rfl trivial
  have h := daemon_snoc h (.respond 0) (@Tunelithd.Step.respond _ 0 answer rfl) rfl trivial
  have h := daemon_snoc h (.write 0 ⟨1, some answer⟩) (.write (by decide +kernel)) rfl trivial
  -- The client registers the stream, and opens its data connection.
  have h := client_snoc h (.receive ⟨1, some answer⟩) (.receive rfl) rfl
  have h := client_snoc h (.resume 0) (@Client.Step.resume _ 0 answer rfl rfl) trivial
  have h := client_snoc h (.keep 0) (.keep rfl) trivial
  have h := client_snoc h (.register 0) (.register rfl) trivial
  have h := client_snoc h (.openData 0 (.ok 0)) (@Client.Step.opened _ 0 grantedT .ts 0 rfl)
    ⟨rfl, rfl⟩
  have h := daemon_snoc h (.attach 0 7) (.attach rfl rfl) rfl (.inl rfl)
  have h := daemon_snoc h (.greeted 0 true) (.greeted rfl) rfl trivial
  have h := client_snoc h (.attached 0 (.ok ())) (@Client.Step.attached _ 0 grantedT .ts 0 rfl)
    (by rintro x ⟨⟩; rfl)
  -- The stream has a chunk, and ends.
  have h := daemon_snoc h (.chunk 0 [7] [1, 2, 3]) (.chunk rfl (by decide) rfl) rfl trivial
  have h := daemon_snoc h (.recv 0 [1, 2, 3]) (@Tunelithd.Step.recv _ 0 7 0 _ rfl rfl) rfl trivial
  have h := daemon_snoc h (.sourceEnd 0 none) (.sourceEnd rfl) rfl trivial
  have hwalk : ∀ t : Token, Function.update (fun _ => (none : Option SessionId)) 7 (some 0) t =
      some 0 → t ∈ [7] := by
    intro t ht
    rw [Function.update_apply] at ht
    split_ifs at ht with h7
    rw [h7]
    exact List.mem_singleton_self 7
  have h := daemon_snoc h (.endFirst 0 [7] [7])
    (@Tunelithd.Step.endFirst _ 0 _ _ none rfl hwalk (by decide) rfl) rfl trivial
  have hnone : ∀ t : Token, Function.update (Function.update (fun _ => (none : Option SessionId))
      7 (some 0)) 7 none t = none := by
    intro t
    rw [Function.update_idem, Function.update_apply]
    split <;> rfl
  have h := daemon_snoc h (.dataEnd 0)
    (@Tunelithd.Step.dataEnd _ 0 7 0 rfl rfl (noSender h hnone 0)) rfl trivial
  -- The client reads it all, and hears of the end.
  have h := client_snoc h (.read 0 [1, 2, 3])
    (@Client.Step.read _ 0 ⟨7, "0#0", .ts, 0⟩ _ rfl) (by rintro _ ⟨⟩; exact ⟨[], rfl⟩)
  have h := daemon_snoc h (.write 0 ⟨0, some (.streamEndEvent 7 "")⟩)
    (.write (by decide +kernel)) rfl trivial
  have h := client_snoc h (.receive ⟨0, some (.streamEndEvent 7 "")⟩) (.receive rfl) rfl
  exact ⟨_, h, rfl, ⟨rfl, rfl⟩, List.mem_cons_of_mem _ (List.mem_singleton_self _), rfl,
    rfl⟩

/-- The end is recorded as told, and the read that finds it returns. -/
theorem agree_on_the_end_heard : ∃ P P', Reachable (Step 0) (init oneTuner) P ∧
    (P.client.Ended 7 ∨ Coming 0 P 7) ∧ P.client.ends 7 = some (.ended none) ∧
    Step 0 P (.client (.pollEnd 0 (some (.ok ())))) P' ∧
    ∃ D, P.daemon.drawn 7 = some D ∧
      (P.client.call 0).read.length + (P.client.call 0).dropped =
        Tunelithd.bytes ((P.daemon.session D.session).chunks.drop D.since) := by
  obtain ⟨P, h, hi, hend, he, hr, hok⟩ := exists_heard
  obtain ⟨hended, -, -, -, htold, hall⟩ := agree_on_the_end h hi
  obtain ⟨D, hD, -, hbytes⟩ := hall hend _ he "" rfl
  have hkept : P.client.ends 7 = some (.ended none) := by
    refine (htold _ he "" rfl).resolve_right fun hs => ?_
    rw [hr] at hs
    cases hs.1
  have hstep : Step 0 P (.client (.pollEnd 0 (P.client.pollEnd 0 7).2))
      (P.ofClient (.pollEnd 0 (P.client.pollEnd 0 7).2) (P.client.pollEnd 0 7).1) := by
    refine .client (.pollEnd hi) fun stream hi' => ?_
    cases hi.symm.trans hi'
    exact hend
  rw [hok] at hstep
  exact ⟨P, _, h, hended hend, hkept, hstep, D, hD, hbytes⟩

end Run

end Tunelith.Joint
