import Tunelith.Client.Asking
import Tunelith.Tunelithd.Carried
import Tunelith.Joint.Endings

/-!
# A client gets what it asked for

What a client asks goes to the daemon as it is, and what the daemon grants comes back under the
same id. So the stream that `acquire` returns is of a session with the parameters it was given; and
what is read from it is a part of what this session has fanned out, in order.

* `acquire_gets_what_it_asked` — from the arguments of `acquire` to the bytes read.
-/

namespace Tunelith.Joint

open Proto Lts
open Tunelithd (Daemon ConnId HandlerId Device Fresh)
open Client (Inner CallId DataId Token Stream)

variable {c₀ : ConnId} {devices : List Device} {P P' : Joint} {a : Act} {i : CallId}
  {tr : List (Joint × Act)}

/-! ## Over the wire -/

def Act.ofDaemon? : Act → Option Tunelithd.Act
  | .daemon a => some a
  | .client _ => none

def Act.ofClient? : Act → Option Client.Act
  | .daemon _ => none
  | .client a => some a

/-- The part of a run that one side has in it. -/
theorem mem_side {σ β : Type} {f : Joint → σ} {g : Act → Option β} {s : σ} {b : β}
    (h : (s, b) ∈ tr.filterMap fun x => (g x.2).map fun b => (f x.1, b)) :
    ∃ Q a, (Q, a) ∈ tr ∧ g a = some b := by
  obtain ⟨⟨Q, a⟩, hmem, he⟩ := List.mem_filterMap.1 h
  obtain ⟨b', hb, he⟩ := Option.map_eq_some_iff.1 he
  cases he
  exact ⟨Q, a, hmem, hb⟩

theorem daemon_run (h : Run (Step c₀) (init devices) tr P) :
    Run (Restrict Tunelithd.Step Fresh) (.init devices)
      (tr.filterMap fun x => x.2.ofDaemon?.map fun b => (x.1.daemon, b)) P.daemon := by
  refine h.project Joint.daemon Act.ofDaemon? fun P a P' hs => ?_
  cases hs with
  | daemon hs => exact hs
  | client => exact rfl

theorem client_run (h : Run (Step c₀) (init devices) tr P) :
    Run Client.Step .init (tr.filterMap fun x => x.2.ofClient?.map fun b => (x.1.client, b))
      P.client := by
  refine h.project Joint.client Act.ofClient? fun P a P' hs => ?_
  cases hs with
  | daemon => exact rfl
  | client hs => exact hs

/-- What the daemon was asked for the client had given to its writer, and what the client took it
has taken off the connection. -/
theorem over_the_wire (h : Run (Step c₀) (init devices) tr P) :
    (∀ Q h e, (Q, .daemon (.request c₀ h e)) ∈ tr → e ∈ P.client.requests.sent) ∧
      ∀ Q e, (Q, .client (.receive e)) ∈ tr → e ∈ P.frames := by
  induction h with
  | nil => exact ⟨fun _ _ _ h => absurd h List.not_mem_nil, fun _ _ h => absurd h List.not_mem_nil⟩
  | @snoc tr P P' a hr hs ih =>
    have hW := wired_reachable hr.reachable
    refine ⟨fun Q h e hmem => ?_, fun Q e hmem => ?_⟩
    · have hold : e ∈ P.client.requests.sent := by
        rcases List.mem_cons.1 hmem with he | hmem
        · cases he
          cases hs with
          | daemon hs ha => exact hW.up e (Fifo.mem_sent_of_next? (ha rfl))
        · exact ih.1 Q h e hmem
      cases hs with
      | daemon => exact hold
      | client hs => exact Client.sent_step hs hold
    · cases hs with
      | daemon =>
        rw [frames_ofDaemon]
        rcases List.mem_cons.1 hmem with he | hmem
        · cases he
        · exact ih.2 Q e hmem
      | client hs ha =>
        rw [frames_ofClient ha]
        rcases List.mem_cons.1 hmem with he | hmem
        · cases he
          exact List.mem_append_right _ (List.mem_singleton_self e)
        · exact List.mem_append_left _ (ih.2 Q e hmem)

/-! ## What is read -/

/-- What was read from each stream is what came first over its data connection. -/
def Reading (P : Joint) : Prop :=
  ∀ i, ((P.client.call i).stage.isUnderWay = true → (P.client.call i).read = []) ∧
    ∀ stream, (P.client.call i).stage = .streaming stream →
      (P.client.call i).read <+: (P.daemon.data stream.data).out.flatten

theorem out_step {d d' : Daemon} {b : Tunelithd.Act} (hs : Tunelithd.Step d b d') (x : DataId) :
    (d.data x).out.flatten <+: (d'.data x).out.flatten := by
  have hturn := Tunelithd.data_turn hs x
  generalize d'.data x = X at hturn
  cases hturn with
  | recv =>
    rw [List.flatten_append]
    exact List.prefix_append ..
  | _ => exact List.prefix_refl _

theorem reading_reachable (h : Reachable (Step c₀) (init devices) P) : Reading P := by
  refine h.invariant (fun i => ⟨fun _ => rfl, fun stream hi => by cases hi⟩)
    fun P a P' hreach hR hs i => ?_
  obtain ⟨hnone, hread⟩ := hR i
  cases hs with
  | daemon hs => exact ⟨hnone, fun stream hi => (hread stream hi).trans (out_step hs.1 _)⟩
  | client hs ha =>
    refine ⟨Client.unread_step hs hnone, fun stream hi => ?_⟩
    rcases Client.read_step hs i with he | ⟨data, stream', rfl, hi', hi'', he⟩
    · rw [ofClient_client, he]
      rcases Client.streaming_step hs hi with hi | hi
      · exact hread stream hi
      · rw [hnone hi]
        exact List.nil_prefix
    · cases hi''.symm.trans hi
      rw [ofClient_client, he]
      exact ha stream hi'

/-! ## What it is of -/

/-- The daemon makes of a request the parameters the client made it of. -/
theorem acquireParams_of_acquireRequest {params : TuneParams} {options : Client.AcquireOptions}
    {request : AcquireRequest} (h : Client.acquireRequest params options = .ok request) :
    Tunelithd.acquireParams request = .ok params.normalized ∧
      request.tuner = options.tuner.getD "" := by
  unfold Client.acquireRequest at h
  cases hv : params.validate with
  | error e =>
    rw [hv] at h
    cases h
  | ok u =>
    rw [hv] at h
    cases h
    refine ⟨?_, rfl⟩
    rw [Tunelithd.acquireParams, Option.getD_some, tryTuneParams_ofTuneParams]
    refine (?_ : (params.normalized.validate >>= fun _ => pure params.normalized) = _)
    rw [TuneParams.validate_normalized, hv]
    rfl

theorem named_of_wanted {request : AcquireRequest} {options : Client.AcquireOptions} {id : String}
    (hr : request.tuner = options.tuner.getD "") (hw : Tunelithd.wanted request id = true) :
    options.tuner = none ∨ options.tuner = some "" ∨ options.tuner = some id := by
  rw [Tunelithd.wanted, Bool.or_eq_true, decide_eq_true_eq, decide_eq_true_eq, hr] at hw
  cases ht : options.tuner with
  | none => exact .inl rfl
  | some tuner =>
    rw [ht] at hw
    exact .inr (hw.imp (congrArg some) (congrArg some))

/-- The data connection of a stream is sent the start of what its channel is sent. -/
theorem out_of_stream (h : Reachable (Step c₀) (init devices) P) {stream : Stream}
    (hi : (P.client.call i).stage = .streaming stream) : ∃ D,
      P.daemon.drawn stream.token = some D ∧
      (P.daemon.data stream.data).out <+: (P.daemon.chan D.chan).queue.sent := by
  have hD := dialled_reachable h
  have hx : (P.client.call i).stage.data = some stream.data := by rw [hi]; rfl
  have ht : (P.client.call i).stage.token = some stream.token := by rw [hi]; rfl
  have hatt : P.Attached stream.data stream.token :=
    ⟨(hD.opened i _ hx).trans ht, .inl (hD.greeted i stream hi)⟩
  have hgiven : ¬ P.client.GivenUp P.frames stream.token := fun hg => hg.2 i (.inr ht)
  obtain ⟨D, hdraw, hR⟩ := (relaying_reachable h _ _ hatt).resolve_right hgiven
  refine ⟨D, hdraw, ?_⟩
  rcases hR with ⟨-, hR⟩ | ⟨-, hR, -⟩
  · exact hR ▸ Fifo.begins_received _
  · exact hR ▸ List.prefix_refl _

/-- **A client gets what it asked for.** In every run of the daemon and a client of it, whatever
the other clients do, a stream that a call returned was asked for by an `acquire`, and is of a
session with the parameters of this very `acquire` in normal form, on a tuner that receives their
system and that it named, if it named one. The client knows the tuner and the format of the
session, and what it has read is the start of some of the chunks that the session has fanned out
since, in order. -/
theorem acquire_gets_what_it_asked (h : Run (Step c₀) (init devices) tr P) {stream : Stream}
    (hi : (P.client.call i).stage = .streaming stream) : ∃ Q params options D,
      (Q, .client (.acquire i params options)) ∈ tr ∧
      P.daemon.drawn stream.token = some D ∧ D.conn = c₀ ∧
      (P.daemon.session D.session).params = params.normalized ∧
      (P.daemon.session D.session).tunerId = stream.tuner ∧
      (P.daemon.session D.session).format = stream.format ∧
      (options.tuner = none ∨ options.tuner = some "" ∨ options.tuner = some stream.tuner) ∧
      P.daemon.Receives stream.tuner params.system ∧
      ∃ l : List Tunelithd.Chunk, l.Sublist ((P.daemon.session D.session).chunks.drop D.since) ∧
        (P.client.call i).read <+: l.flatten := by
  have hreach := h.reachable
  -- What the client asked, and the frame that answered it.
  obtain ⟨params, options, request, e, r, ⟨c, hc⟩, hok, ⟨c', he⟩, hb, htoken, htuner, hformat,
    hown⟩ := Client.answer_of_stream (client_run h) hi
  obtain ⟨Q, b, hQ, hb'⟩ := mem_side hc
  cases b <;> cases hb'
  obtain ⟨Q', b, hQ', hb'⟩ := mem_side he
  cases b <;> cases hb'
  obtain ⟨hparams, hnamed⟩ := acquireParams_of_acquireRequest hok
  -- The daemon sent it in answer to a request under the same id, and this is the only one.
  have hsent := (wired_reachable hreach).begins_frames.subset ((over_the_wire h).2 _ _ hQ')
  obtain ⟨h', f, request', D, ⟨d, hd⟩, hid, hf, hM⟩ :=
    (Tunelithd.asked_of_run (daemon_run h)).sent c₀ e r hsent hb
  obtain ⟨R, b, hR, hb'⟩ := mem_side hd
  cases b <;> cases hb'
  obtain rfl := hown f ((over_the_wire h).1 _ _ _ hR) hid request' hf
  have hsession : (P.daemon.session D.session).params = params.normalized :=
    Except.ok.inj (hM.params.symm.trans hparams)
  have htuner' := htuner.trans hM.tuner
  obtain ⟨D', hD', hout⟩ := out_of_stream hreach hi
  rw [htoken, hM.drawn] at hD'
  cases hD'
  refine ⟨Q, params, options, D, hQ, htoken ▸ hM.drawn, hM.conn, hsession, htuner'.symm, ?_, ?_,
    ?_, _, (Tunelithd.carried_reachable (daemon_reachable hreach) _ D hM.drawn).2.2, ?_⟩
  · rw [hM.format, streamFormat_ofStreamFormat] at hformat
    exact Option.some.inj hformat
  · rw [htuner']
    exact named_of_wanted hnamed hM.wanted
  · have := hM.receives
    rwa [hsession, ← htuner'] at this
  · obtain ⟨l, hl⟩ := hout
    refine ((reading_reachable hreach i).2 stream hi).trans ?_
    rw [← hl, List.flatten_append]
    exact List.prefix_append ..

/-- The stream of `exists_heard` is of the tuner it asked for. -/
theorem acquire_gets_what_it_asked_heard : ∃ (tr : List (Joint × Act)) (P Q : Joint)
    (params : TuneParams) (options : Client.AcquireOptions) (D : Tunelithd.Draw),
      (P.client.call 0).stage = .streaming ⟨7, "0#0", .ts, 0⟩ ∧
      (Q, .client (.acquire 0 params options)) ∈ tr ∧ P.daemon.drawn 7 = some D ∧
      (P.daemon.session D.session).params = params.normalized ∧
      (P.daemon.session D.session).tunerId = "0#0" ∧
      ∃ l : List Tunelithd.Chunk, l.Sublist ((P.daemon.session D.session).chunks.drop D.since) ∧
        (P.client.call 0).read <+: l.flatten := by
  obtain ⟨P, ⟨tr, h⟩, hi, -⟩ := exists_heard
  obtain ⟨Q, params, options, D, hQ, hD, -, hp, ht, -, -, -, hread⟩ :=
    acquire_gets_what_it_asked h hi
  exact ⟨tr, P, Q, params, options, D, hi, hQ, hD, hp, ht, hread⟩

end Tunelith.Joint
