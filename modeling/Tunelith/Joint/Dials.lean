import Tunelith.Joint.Wires

/-!
# The client's data connections

Each data connection the client opens is of one acquire, for its token, and the daemon attaches
to no other stream over it (`Dialled`). From when it has, it relays that stream, or the client
has given it up (`relays_reachable`).
-/

namespace Tunelith.Joint

open Proto Lts
open Tunelithd (Daemon ConnId Device Fresh Receivers)
open Client (Inner CallId DataId Token Stream)

variable {c₀ : ConnId} {devices : List Device} {P P' : Joint} {a : Act} {t : Token} {x : DataId}
  {i : CallId}

/-- The data connections are of the calls that have their streams, and the daemon attaches over
them to these. -/
structure Dialled (c₀ : ConnId) (P : Joint) : Prop where
  opened : ∀ i x, (P.client.call i).stage.data = some x →
    P.opened x = (P.client.call i).stage.token
  carried : ∀ x t, P.opened x = some t → t ∈ P.frames.filterMap grant ∧
    ∀ i, (P.client.call i).Carries t → (P.client.call i).stage.data = some x
  greeted : ∀ i stream, (P.client.call i).stage = .streaming stream →
    P.hello stream.data = true
  hello : ∀ x, P.hello x = true → (P.daemon.data x).stage ≠ .absent
  attached : ∀ x t, (P.daemon.data x).stage.token = some t →
    P.opened x = some t ∨ P.opened x = none ∧ ¬ P.daemon.DrawnFor c₀ t

theorem dialled_init (c₀ : ConnId) (devices : List Device) : Dialled c₀ (init devices) where
  opened i x h := by cases h
  carried x t h := by cases h
  greeted i stream h := by cases h
  hello x h := by cases h
  attached x t h := by cases h

/-! ## Steps of the daemon -/

theorem hello_ofDaemon {b : Tunelithd.Act} {d : Daemon}
    (hx : (P.ofDaemon c₀ b d).hello x = true) : P.hello x = true ∨ b = .greeted x true := by
  rw [ofDaemon_hello] at hx
  split at hx
  · next y =>
    rw [Function.update_apply] at hx
    split_ifs at hx with hy
    · exact .inr (by rw [hy])
    · exact .inl hx
  · exact .inl hx

theorem hello_ofDaemon_mono {b : Tunelithd.Act} {d : Daemon} (hx : P.hello x = true) :
    (P.ofDaemon c₀ b d).hello x = true := by
  rw [ofDaemon_hello]
  split
  · rw [Function.update_apply]
    split_ifs
    · rfl
    · exact hx
  · exact hx

/-- A data connection no one has come over has had no one come over it. -/
theorem absent_step {d d' : Daemon} {b : Tunelithd.Act} (hs : Tunelithd.Step d b d')
    (hx : (d'.data x).stage = .absent) : (d.data x).stage = .absent := by
  have hturn := Tunelithd.data_turn hs x
  generalize d'.data x = X at hturn hx
  cases hturn with
  | stay => exact hx
  | recv hx' => rw [hx'] at hx; cases hx
  | _ => cases hx

theorem drawnFor_of_step {d d' : Daemon} {b : Tunelithd.Act}
    (hs : Restrict Tunelithd.Step Fresh d b d') {D : Tunelithd.Draw} (hD : d.drawn t = some D)
    (ht : d'.DrawnFor c₀ t) : d.DrawnFor c₀ t := by
  obtain ⟨E, hE, hc⟩ := ht
  cases (Tunelithd.drawn_step hs hD).symm.trans hE
  exact ⟨_, hD, hc⟩

theorem Dialled.ofDaemon (hD : Dialled c₀ P) (hV : Receivers P.daemon) {b : Tunelithd.Act}
    {d : Daemon} (hs : Restrict Tunelithd.Step Fresh P.daemon b d) (hb : P.Allows c₀ b) :
    Dialled c₀ (P.ofDaemon c₀ b d) := by
  refine ⟨hD.opened, fun x t hx => ?_, fun i stream hi => ?_, fun x hx => ?_, fun x t hx => ?_⟩
  · rw [frames_ofDaemon]
    exact hD.carried x t hx
  · exact hello_ofDaemon_mono (hD.greeted i stream hi)
  · intro habs
    have habs' := absent_step hs.1 habs
    rcases hello_ofDaemon hx with hx | rfl
    · exact hD.hello x hx habs'
    · cases hs.1 with
      | greeted hg =>
        rw [hg] at habs'
        cases habs'
  · rw [ofDaemon_opened]
    rcases Tunelithd.token_step hs.1 hx with ⟨hold, -⟩ | ⟨rfl, -, -, k, hu, -⟩
    · obtain ⟨-, D, hdrawn, -⟩ := hV.token x t hold
      exact (hD.attached x t hold).imp_right fun h =>
        ⟨h.1, fun ht => h.2 (drawnFor_of_step hs hdrawn ht)⟩
    · obtain ⟨⟨D, hdrawn, -⟩, -⟩ := hV.unattached t k hu
      exact Or.imp_right (fun h => ⟨h.1, fun ht => h.2 (drawnFor_of_step hs hdrawn ht)⟩) hb

/-! ## Steps of the client -/

theorem opened_ofClient {b : Client.Act} {c : Inner} (hx : (P.ofClient b c).opened x = some t) :
    P.opened x = some t ∨
      ∃ i, b = .openData i (.ok x) ∧ (P.client.call i).stage.token = some t := by
  rw [ofClient_opened] at hx
  split at hx
  · next i y =>
    rw [Function.update_apply] at hx
    split_ifs at hx with hy
    · exact .inr ⟨i, by rw [hy], hx⟩
    · exact .inl hx
  · exact .inl hx

theorem opened_ofClient_eq {b : Client.Act} {c : Inner} (hb : P.Permits c₀ b)
    (hx : P.opened x ≠ none) : (P.ofClient b c).opened x = P.opened x := by
  rw [ofClient_opened]
  split
  · next i y =>
    rw [Function.update_of_ne]
    rintro rfl
    exact hx hb.1
  · rfl

/-- The data connection of a stream is its own to the end. -/
theorem data_of_carries {c c' : Inner} {b : Client.Act} (hs : Client.Step c b c')
    (hx : (c.call i).stage.data = some x) (ht : (c'.call i).Carries t) :
    (c'.call i).stage.data = some x := by
  have hturn := Client.stage_turn hs i
  unfold Client.Call.Carries at ht
  generalize (c.call i).stage = s at hturn hx
  generalize (c'.call i).stage = s' at hturn ht ⊢
  cases hturn with
  | stay => exact hx
  | early h =>
    rw [h] at hx
    cases hx
  | opened => cases hx
  | attached => exact hx
  | gone hl hto =>
    rcases ht with ⟨hl', -⟩ | ht'
    · rw [hl] at hl'
      cases hl'
    · rw [hto] at ht'
      cases ht'

theorem token_of_data {s : Client.Stage} (h : s.data = some x) : ∃ t, s.token = some t := by
  cases s <;> first | exact ⟨_, rfl⟩ | cases h

theorem Dialled.ofClient (hD : Dialled c₀ P) (hH : Held P) (hF : Client.Filed P.client)
    {b : Client.Act} {c : Inner} (hs : Client.Step P.client b c) (hb : P.Permits c₀ b)
    (hn : ((P.frames ++ b.frames).filterMap grant).Nodup) : Dialled c₀ (P.ofClient b c) := by
  have hmem : ∀ {t}, t ∈ P.frames.filterMap grant →
      t ∈ (P.ofClient b c).frames.filterMap grant := by
    intro t ht
    rw [frames_ofClient hb]
    exact Client.mem_grants_append ht
  refine ⟨fun i x hx => ?_, fun x t hx => ?_, fun i stream hi => ?_, hD.hello, fun x t hx => ?_⟩
  · have hx : (c.call i).stage.data = some x := hx
    have hturn := Client.stage_turn hs i
    rw [ofClient_client]
    -- A data connection there was stays with its token.
    have hkeep : (P.client.call i).stage.data = some x →
        (P.ofClient b c).opened x = (P.client.call i).stage.token := by
      intro hx
      obtain ⟨t, ht⟩ := token_of_data hx
      rw [opened_ofClient_eq hb, hD.opened i x hx]
      rw [hD.opened i x hx, ht]
      exact Option.some_ne_none t
    generalize hst : (P.client.call i).stage = s at hturn hkeep
    generalize (c.call i).stage = s' at hturn hx ⊢
    cases hturn with
    | stay => exact hkeep hx
    | early h h' =>
      rw [h'] at hx
      cases hx
    | opened =>
      cases hx
      refine (Function.update_self ..).trans ?_
      rw [hst]
      rfl
    | attached => exact hkeep hx
    | gone hl ht =>
      obtain ⟨t, ht'⟩ := token_of_data hx
      rw [ht] at ht'
      cases ht'
  · rcases opened_ofClient hx with hx | ⟨i, rfl, hi⟩
    · obtain ⟨hg, hc⟩ := hD.carried x t hx
      refine ⟨hmem hg, fun j hj => ?_⟩
      rcases Client.carries_step hF hs hj with hj' | ⟨e, rfl, he, -⟩
      · exact data_of_carries hs (hc j hj') hj
      · exact absurd hg (Client.notMem_of_nodup hn he)
    · refine ⟨hmem (hH.carrying.granted i t (.inr hi)), fun j hj => ?_⟩
      rcases Client.carries_step hF hs hj with hj' | ⟨e, he, -⟩
      · obtain rfl := hH.carrying.sole j i t hj' (.inr hi)
        cases hs with
        | opened hst =>
          rw [ofClient_client, Client.stage_goto, if_pos rfl]
          rfl
      · cases he
  · have hi : (c.call i).stage = .streaming stream := hi
    have hturn := Client.stage_turn hs i
    have hold := hD.greeted i stream
    generalize hst : (P.client.call i).stage = s at hturn hold
    rw [hi] at hturn
    cases hturn with
    | stay => exact hold rfl
    | early h h' => cases h'
    | attached => exact hb _ (by rw [hst]; rfl)
    | gone hl ht => cases ht
  · rcases hD.attached x t hx with h | ⟨h, hno⟩
    · refine .inl ?_
      rw [opened_ofClient_eq hb, h]
      rw [h]
      exact Option.some_ne_none t
    · refine .inr ⟨?_, hno⟩
      rw [Option.eq_none_iff_forall_ne_some]
      intro u hu
      rcases opened_ofClient hu with hu | ⟨i, rfl, -⟩
      · rw [h] at hu
        cases hu
      · -- A data connection is opened before the daemon comes over it.
        have habs : (P.daemon.data x).stage = .absent := hb.2
        rw [ofClient_daemon, habs] at hx
        cases hx

theorem dialled_reachable (h : Reachable (Step c₀) (init devices) P) : Dialled c₀ P := by
  refine h.invariant (dialled_init c₀ devices) fun P a P' hreach hD hs => ?_
  have hn := nodup_grants (hreach.snoc hs)
  cases hs with
  | daemon hs ha =>
    exact hD.ofDaemon (Tunelithd.receivers_reachable (daemon_reachable hreach)) hs ha
  | client hs ha =>
    rw [frames_ofClient ha] at hn
    exact hD.ofClient (held_reachable hreach) (Client.filed_reachable (client_reachable hreach))
      hs ha hn

/-! ## Streams over them -/

/-- The daemon has come over the data connection `x` for the stream `t` of the client. -/
def Attached (P : Joint) (x : DataId) (t : Token) : Prop :=
  P.opened x = some t ∧ (P.hello x = true ∨ (P.daemon.data x).stage.token = some t)

/-- A token that no call carries is given up. -/
theorem Dialled.givenUp (hD : Dialled c₀ P) (hx : P.opened x = some t)
    (hno : ∀ i, (P.client.call i).stage.data ≠ some x) : P.client.GivenUp P.frames t :=
  ⟨(hD.carried x t hx).1, fun i hi => hno i ((hD.carried x t hx).2 i hi)⟩

/-- The daemon comes over a data connection by attaching to its stream. -/
theorem attached_ofDaemon (hD : Dialled c₀ P) {b : Tunelithd.Act} {d : Daemon}
    (hs : Tunelithd.Step P.daemon b d) (hx : (P.ofDaemon c₀ b d).Attached x t) :
    P.Attached x t ∨ b = .attach x t ∧ P.opened x = some t ∧ P.daemon.unattached t ≠ none := by
  obtain ⟨ho, hx⟩ := hx
  have ho : P.opened x = some t := ho
  rcases hx with hx | hx
  · rcases hello_ofDaemon hx with hx | rfl
    · exact .inl ⟨ho, .inl hx⟩
    · cases hs with
      | @greeted _ u k ok hg =>
        have hu : (P.daemon.data x).stage.token = some u := by rw [hg]; rfl
        refine .inl ⟨ho, .inr ?_⟩
        rcases hD.attached x u hu with h | ⟨h, -⟩
        · rw [hu, ← h]
          exact ho
        · cases h.symm.trans ho
  · rcases Tunelithd.token_step hs hx with ⟨hold, -⟩ | ⟨rfl, -, -, k, hu, -⟩
    · exact .inl ⟨ho, .inr hold⟩
    · exact .inr ⟨rfl, ho, by rw [hu]; exact Option.some_ne_none k⟩

theorem attached_ofClient (hD : Dialled c₀ P) {b : Client.Act} {c : Inner} (hb : P.Permits c₀ b)
    (hx : (P.ofClient b c).Attached x t) : P.Attached x t := by
  obtain ⟨ho, hx⟩ := hx
  rcases opened_ofClient ho with ho | ⟨i, rfl, -⟩
  · exact ⟨ho, hx⟩
  · have habs : (P.daemon.data x).stage = .absent := hb.2
    rcases hx with hx | hx
    · exact absurd habs (hD.hello x hx)
    · rw [ofClient_daemon, habs] at hx
      cases hx

/-- What the client has not given up the daemon relays. -/
def Relaying (P : Joint) : Prop :=
  ∀ x t, P.Attached x t → P.daemon.Relays x t ∨ P.client.GivenUp P.frames t

theorem relaying_init (devices : List Device) : Relaying (init devices) := by
  intro x t hx
  cases hx.1

theorem relaying_reachable (h : Reachable (Step c₀) (init devices) P) : Relaying P := by
  refine h.invariant (relaying_init devices) fun P a P' hreach hR hs x t hx => ?_
  have hn := nodup_grants (hreach.snoc hs)
  have hD := dialled_reachable hreach
  have hd := daemon_reachable hreach
  cases hs with
  | @daemon b d hs ha =>
    rw [frames_ofDaemon]
    rcases attached_ofDaemon hD hs.1 hx with hx | ⟨rfl, ho, hu⟩
    · rcases hR x t hx with hr | hg
      · by_cases hfail : b = .dataFail x ∨ b = .greeted x false
        · refine .inr (hD.givenUp hx.1 ?_)
          rcases hfail with rfl | rfl <;> exact ha
        · refine .inl (hr.step (Tunelithd.receivers_reachable hd) (Tunelithd.ledger_reachable hd)
            (Tunelithd.answering_reachable hd.of_restrict) hs (fun e => ?_) fun e => ?_)
          · exact hfail (.inl e)
          · exact hfail (.inr e)
      · exact .inr hg
    · exact .inl (Tunelithd.relays_of_attach (Tunelithd.receivers_reachable hd) hs hu)
  | client hs ha =>
    rw [frames_ofClient ha] at hn ⊢
    refine (hR x t (attached_ofClient hD ha hx)).imp_right fun hg => ?_
    exact hg.step (Client.filed_reachable (client_reachable hreach)) hs hn

end Tunelith.Joint
