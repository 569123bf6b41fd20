import Tunelith.Joint.State

/-!
# What goes over the control connection

Either side of a run is a run of that side by itself. What the client takes off the control
connection is what the daemon wrote, in order, and a handler for the client releases nothing but
what the client asked it to (`Wired`); so the frames the client has taken grant each token once,
and all that a client by itself keeps of its streams it keeps here (`held_reachable`).
-/

namespace Tunelith.Joint

open Proto Lts
open Tunelithd (Daemon ConnId Device Fresh)
open Client (Inner CallId DataId Token Stream)

variable {c₀ : ConnId} {devices : List Device} {P P' : Joint} {a : Act} {t : Token}

/-! ## Either side by itself -/

theorem daemon_reachable (h : Reachable (Step c₀) (init devices) P) :
    Reachable (Restrict Tunelithd.Step Fresh) (.init devices) P.daemon := by
  refine h.project Joint.daemon fun P a P' hs => ?_
  cases hs with
  | daemon hs => exact .inr ⟨_, hs⟩
  | client => exact .inl rfl

theorem client_reachable (h : Reachable (Step c₀) (init devices) P) :
    Reachable Client.Step .init P.client := by
  refine h.project Joint.client fun P a P' hs => ?_
  cases hs with
  | daemon => exact .inl rfl
  | client hs => exact .inr ⟨_, hs⟩

/-- The frames the client has taken off the control connection. -/
def frames (P : Joint) : List Envelope := P.down.received

theorem frames_ofDaemon (c₀ : ConnId) (P : Joint) (b : Tunelithd.Act) (d : Daemon) :
    (P.ofDaemon c₀ b d).frames = P.frames := by
  unfold frames
  rw [ofDaemon_down]
  split
  · split_ifs
    · exact Fifo.received_push _ _
    · rfl
  · rfl

theorem frames_ofClient {b : Client.Act} (hb : P.Permits c₀ b) (c : Inner) :
    (P.ofClient b c).frames = P.frames ++ b.frames := by
  unfold frames
  rw [ofClient_down]
  split
  · exact Fifo.received_pop hb
  · next h =>
    have hnil : b.frames = [] := by
      unfold Client.Act.frames
      split
      · exact absurd rfl (h _)
      · rfl
    rw [hnil, List.append_nil]

/-! ## The control connection -/

/-- The daemon's writer has put into the control connection what was sent, in order; what came
out the other way the client had asked. -/
structure Wired (c₀ : ConnId) (P : Joint) : Prop where
  down : P.down.sent = (P.daemon.conn c₀).events.received
  up : ∀ e ∈ P.up.sent, e ∈ P.client.requests.sent
  asked : ∀ h t, (P.daemon.handler h).conn = c₀ →
    (P.daemon.handler h).stage.releases = some t → P.client.Releases t

theorem wired_init (c₀ : ConnId) (devices : List Device) : Wired c₀ (init devices) where
  down := rfl
  up e he := by cases he
  asked h t _ ht := by cases ht

theorem wired_step (hW : Wired c₀ P) (hs : Step c₀ P a P') : Wired c₀ P' := by
  cases hs with
  | @daemon b d hs ha =>
    refine ⟨?_, fun e he => ?_, fun h t hc ht => ?_⟩
    · rw [ofDaemon_down, ofDaemon_daemon]
      by_cases hb : ∃ e, b = .write c₀ e
      · obtain ⟨e, rfl⟩ := hb
        dsimp only
        rw [if_pos rfl, Fifo.sent_push, hW.down, Tunelithd.received_write hs.1]
      · rw [Tunelithd.received_step hs.1 fun e he => hb ⟨e, he⟩, ← hW.down]
        split
        · next c e =>
          rw [if_neg]
          rintro rfl
          exact hb ⟨e, rfl⟩
        · rfl
    · refine hW.up e ?_
      rw [ofDaemon_up] at he
      split at he
      · split_ifs at he
        · rwa [Fifo.sent_pop] at he
        · exact he
      · exact he
    · rcases Tunelithd.releases_step hs.1 ht with ⟨hc', ht'⟩ | ⟨c, e, rfl, hc', he⟩
      · exact hW.asked h t (hc'.symm.trans hc) ht'
      · have hmem := Fifo.mem_sent_of_next? (ha (hc'.symm.trans hc))
        exact ⟨e, hW.up e hmem, he⟩
  | @client b c hs ha =>
    refine ⟨?_, fun e he => ?_, fun h t hc ht => (hW.asked h t hc ht).step hs⟩
    · rw [ofClient_down, ofClient_daemon, ← hW.down]
      split
      · exact Fifo.sent_pop _
      · rfl
    · rw [ofClient_up] at he
      split at he
      · cases hs with
        | write hw hn =>
          rcases List.mem_append.1 he with he | he
          · exact Client.sent_step (.write hw hn) (hW.up e he)
          · rw [List.mem_singleton.1 he]
            exact Client.sent_step (.write hw hn) (Fifo.mem_sent_of_next? hn)
      · exact Client.sent_step hs (hW.up e he)

theorem wired_reachable (h : Reachable (Step c₀) (init devices) P) : Wired c₀ P :=
  h.invariant (wired_init c₀ devices) fun _ _ _ _ hW hs => wired_step hW hs

/-- What the client has taken the daemon had sent it. -/
theorem Wired.begins_frames (hW : Wired c₀ P) :
    P.frames <+: (P.daemon.conn c₀).events.sent := by
  have h : P.down.received <+: P.down.sent := Fifo.begins_received _
  rw [hW.down] at h
  exact h.trans (Fifo.begins_received _)

theorem nodup_grants (h : Reachable (Step c₀) (init devices) P) :
    (P.frames.filterMap grant).Nodup :=
  ((wired_reachable h).begins_frames.filterMap grant).sublist.nodup
    ((Tunelithd.once_reachable (daemon_reachable h)).nodup c₀)

/-- The tokens the client was granted were drawn for it. -/
theorem drawnFor_of_granted (h : Reachable (Step c₀) (init devices) P)
    (ht : t ∈ P.frames.filterMap grant) : P.daemon.DrawnFor c₀ t := by
  have hmem := ((wired_reachable h).begins_frames.filterMap grant).subset ht
  exact (Tunelithd.once_reachable (daemon_reachable h)).answered c₀ t hmem

/-- What was said of a stream to the client before, and what it was told of it. -/
theorem Wired.begins_notices (hW : Wired c₀ P) (t : Token) :
    P.frames.filterMap (notice t) <+: P.daemon.told t c₀ :=
  hW.begins_frames.filterMap _

/-! ## The client -/

/-- The streams of the client and what it keeps of them go by the frames it has taken. -/
structure Held (P : Joint) : Prop where
  carrying : Client.Carrying P.client P.frames
  reporting : Client.Reporting P.client P.frames

theorem held_init (devices : List Device) : Held (init devices) where
  carrying := Client.carrying_init
  reporting := Client.reporting_init

theorem held_reachable (h : Reachable (Step c₀) (init devices) P) : Held P := by
  refine h.invariant (held_init devices) fun P a P' hreach hH hs => ?_
  have hn := nodup_grants (hreach.snoc hs)
  cases hs with
  | daemon hs ha =>
    have hf := frames_ofDaemon c₀ P
    exact ⟨by rw [hf]; exact hH.carrying, by rw [hf]; exact hH.reporting⟩
  | @client b c hs ha =>
    rw [frames_ofClient ha] at hn
    have hF := Client.filed_reachable (client_reachable hreach)
    refine ⟨?_, ?_⟩ <;> rw [frames_ofClient ha]
    · exact Client.carrying_step hH.carrying hF hs hn
    · exact Client.reporting_step hH.reporting hH.carrying hn hs

end Tunelith.Joint
