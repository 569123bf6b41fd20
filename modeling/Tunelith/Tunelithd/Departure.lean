import Tunelith.Tunelithd.Sessions

/-!
# A client that goes

The token of a stream passes from the acquire that drew it into `owned`, and from there to a
release: by the client's own request, or by the cleanup of its connection. At every step one of
them has it (`Kept`), until the stream is released or its session ends.

* `leaves_nothing_behind` — once a connection is gone, cleaned up and out of handlers, none of its
  streams is left.
-/

namespace Tunelith.Tunelithd

open Daemon Lts Proto

/-- The handler at this stage has the token and will hand it on or release it. -/
def Stage.Has (t : Token) : Stage → Prop
  | .owning r | .forsaking r => r.streamToken = t
  | .releasing u => u = t
  | _ => False

/-- Who of the connection `c` has the token `t`. -/
def Kept (d : Daemon) (t : Token) (c : ConnId) : Prop :=
  (∃ h, (d.handler h).conn = c ∧ (d.handler h).stage.Has t) ∨
    (∃ ts, (d.conn c).owned = some ts ∧ t ∈ ts) ∨ t ∈ (d.conn c).cleaning

/-- A connection that was accepted has its streams until it is gone, and only then anything to
clean up. -/
def Conn.Sound (C : Conn) : Prop :=
  (C.accepted = false → C.owned = none) ∧ (C.accepted = false ∨ C.owned ≠ none → C.cleaning = ∅)

theorem Conn.Sound.congr {C C' : Conn} (h : C.Sound)
    (he : { C' with events := .empty } = { C with events := .empty }) : C'.Sound := by
  have ha : C'.accepted = C.accepted := congrArg (·.accepted) he
  have ho : C'.owned = C.owned := congrArg (·.owned) he
  have hc : C'.cleaning = C.cleaning := congrArg (·.cleaning) he
  unfold Conn.Sound
  rw [ha, ho, hc]
  exact h

/-- Every token in use is with the connection it was drawn for. -/
structure Owned (d : Daemon) : Prop where
  kept : ∀ t, d.tokens t ≠ none → ∃ D, d.drawn t = some D ∧ Kept d t D.conn
  sound : ∀ c, (d.conn c).Sound

variable {d d' : Daemon}

theorem owned_init (devices : List Device) : Owned (init devices) where
  kept _ h := absurd rfl h
  sound _ := ⟨fun _ => rfl, fun _ => rfl⟩

variable {t : Token} {c : ConnId}

/-- Who has a token keeps it while its handler and its connection do. -/
theorem Kept.of_alike (hK : Kept d t c)
    (hh : ∀ h, (d.handler h).conn = c → (d.handler h).stage.Has t →
      (d'.handler h).conn = (d.handler h).conn ∧ (d'.handler h).stage.Has t)
    (ho : (d'.conn c).owned = (d.conn c).owned) (hc : (d'.conn c).cleaning = (d.conn c).cleaning) :
    Kept d' t c := by
  rcases hK with ⟨h, hconn, hst⟩ | ⟨ts, hts, ht⟩ | ht
  · exact .inl ⟨h, (hh h hconn hst).1.trans hconn, (hh h hconn hst).2⟩
  · exact .inr (.inl ⟨ts, ho.trans hts, ht⟩)
  · exact .inr (.inr (hc ▸ ht))

/-- A handler that did not have the token goes on. -/
theorem Kept.goto (hK : Kept d t c) {e : Daemon} {h : HandlerId} {st : Stage}
    (he : e.handler = d.handler)
    (hst : (d.handler h).conn = c → (d.handler h).stage.Has t → st.Has t)
    (ho : (e.conn c).owned = (d.conn c).owned) (hc : (e.conn c).cleaning = (d.conn c).cleaning) :
    Kept (e.goto h st) t c := by
  refine hK.of_alike (fun h' hc' hh' => ?_) ho hc
  rw [stage_goto, he]
  split_ifs with e'
  · subst e'
    refine ⟨?_, hst hc' hh'⟩
    rw [goto_handler, Function.update_self, he]
  · refine ⟨?_, hh'⟩
    rw [goto_handler, Function.update_of_ne e', he]

/-- A connection that keeps what it has. -/
theorem Kept.setConn (hK : Kept d t c) {a : ConnId} {C : Conn}
    (hC : a = c → (∀ ts, (d.conn c).owned = some ts → t ∈ ts →
      (∃ us, C.owned = some us ∧ t ∈ us) ∨ t ∈ C.cleaning) ∧
      (t ∈ (d.conn c).cleaning → t ∈ C.cleaning)) : Kept (d.setConn a C) t c := by
  by_cases e : c = a
  · subst e
    have hc : (d.setConn c C).conn c = C := Function.update_self ..
    rcases hK with hh | ⟨ts, hts, ht⟩ | ht
    · exact .inl hh
    · refine .inr ?_
      rw [hc]
      exact (hC rfl).1 ts hts ht
    · refine .inr (.inr ?_)
      rw [hc]
      exact (hC rfl).2 ht
  · have hc : (d.setConn a C).conn c = d.conn c := Function.update_of_ne e ..
    exact hK.of_alike (fun _ _ hh => ⟨rfl, hh⟩) (by rw [hc]) (by rw [hc])

theorem Kept.same (hK : Kept d t c) (hh : d'.handler = d.handler) (hc : d'.conn = d.conn) :
    Kept d' t c :=
  hK.of_alike (fun _ _ ha => by rw [hh]; exact ⟨rfl, ha⟩) (by rw [hc]) (by rw [hc])

theorem Kept.release (hK : Kept d t c) (u : Token) : Kept (d.release u) t c :=
  hK.same (d.frame_release u).handler (d.conn_release u)

theorem has_wake (x : Handler) (t : Token) :
    x.wake.conn = x.conn ∧ (x.stage.Has t → x.wake.stage.Has t) := by
  unfold Handler.wake
  split
  · rename_i h
    rw [h]
    exact ⟨rfl, id⟩
  · exact ⟨rfl, id⟩

theorem Kept.reserve (hK : Kept d t c) {h : HandlerId} {job : Job} {id : TunerId} {wait : Bool}
    {left : List Attempt} (hst : ¬ (d.handler h).stage.Has t) :
    Kept (d.reserve h job id wait left) t c := by
  unfold Daemon.reserve
  split
  · split <;> exact hK.goto rfl (fun _ hf => absurd hf hst) rfl rfl
  · split <;> exact hK.goto rfl (fun _ hf => absurd hf hst) rfl rfl

theorem Kept.subscribed (hK : Kept d t c) {e : Daemon} {h : HandlerId} {s : SessionId}
    {draw : Option (Token × ChanId)} (hst : ¬ (d.handler h).stage.Has t)
    (hh : e.handler = d.handler) (hc : e.conn = d.conn) : Kept (e.subscribed h s draw) t c := by
  cases draw with
  | none => exact (hK.same hh hc).goto rfl (fun _ hf => absurd (hh ▸ hf) hst) rfl rfl
  | some p => exact (hK.same hh hc).goto rfl (fun _ hf => absurd (hh ▸ hf) hst) rfl rfl

/-- The step lemma: a token that is not released passes from one to the next. -/
theorem kept_step (hO : Owned d) {a : Act} (hs : Step d a d') (ha : d.released a ≠ some t)
    (hK : Kept d t c) : Kept d' t c := by
  have hno : ∀ {h st}, (d.handler h).stage = st → ¬ st.Has t →
      ((d.handler h).stage.Has t → ∀ {st' : Stage}, st'.Has t) := fun he hn hf =>
    absurd (he ▸ hf) hn
  cases hs with
  | @accept c' hc =>
    refine hK.setConn fun e => ?_
    subst e
    rw [(hO.sound c').1 hc]
    exact ⟨nofun, id⟩
  | @request c' h e hc hh =>
    refine hK.of_alike (fun h' _ hh' => ?_) rfl rfl
    have hne : h' ≠ h := by
      rintro rfl
      rw [hh] at hh'
      exact hh'
    dsimp only
    rw [Function.update_of_ne hne]
    exact ⟨rfl, hh'⟩
  | @hangUp c' ts hc =>
    refine hK.setConn fun e => ?_
    subst e
    have hcl := (hO.sound c').2 (.inr (by rw [hc]; exact Option.some_ne_none ts))
    rw [hcl]
    refine ⟨fun us hus ht => .inr ?_, fun h => absurd h (Finset.notMem_empty t)⟩
    rw [hc] at hus
    cases hus
    exact ht
  | @cleanUp c' u hu =>
    have hne : t ≠ u := fun e => ha (by rw [e]; rfl)
    refine (hK.release u).setConn fun e => ?_
    subst e
    rw [conn_release]
    exact ⟨fun us hus ht => .inl ⟨us, hus, ht⟩, fun h => Finset.mem_erase.2 ⟨hne, h⟩⟩
  | write he =>
    exact hK.setConn fun e => by
      subst e
      exact ⟨fun us hus ht => .inl ⟨us, hus, ht⟩, id⟩
  | misasked hh hp => exact hK.goto rfl (fun _ hf => hno hh id hf) rfl rfl
  | join hh hp hs hd => exact hK.subscribed (by rw [hh]; exact id) rfl rfl
  | search hh hp hs => exact hK.goto rfl (fun _ hf => hno hh id hf) rfl rfl
  | reserve hh => exact hK.reserve (by rw [hh]; exact id)
  | retry hh => exact hK.reserve (by rw [hh]; exact id)
  | timeOut hh => exact hK.goto rfl (fun _ hf => hno hh id hf) rfl rfl
  | giveUp hh => exact hK.goto rfl (fun _ hf => hno hh id hf) rfl rfl
  | openTuner hh => exact hK.goto rfl (fun _ hf => hno hh id hf) rfl rfl
  | opened hh => exact hK.goto rfl (fun _ hf => hno hh id hf) rfl rfl
  | notOpened hh => exact hK.goto rfl (fun _ hf => hno hh id hf) rfl rfl
  | lnbSet hh => exact hK.goto rfl (fun _ hf => hno hh id hf) rfl rfl
  | tuned hh => exact hK.goto rfl (fun _ hf => hno hh id hf) rfl rfl
  | streamed hh => exact hK.goto rfl (fun _ hf => hno hh id hf) rfl rfl
  | tunerClosed hh => exact hK.goto rfl (fun _ hf => hno hh id hf) rfl rfl
  | free hh => exact hK.goto rfl (fun _ hf => hno hh id hf) rfl rfl
  | publish hh hs hd => exact hK.subscribed (by rw [hh]; exact id) rfl rfl
  | @own h r ts hh hc =>
    have hS := hK.setConn (a := (d.handler h).conn)
      (C := { d.conn (d.handler h).conn with owned := some (insert r.streamToken ts) })
      fun e => by
        subst e
        refine ⟨fun us hus ht => .inl ⟨_, rfl, ?_⟩, id⟩
        rw [hc] at hus
        cases hus
        exact Finset.mem_insert_of_mem ht
    by_cases hr : (d.handler h).conn = c ∧ r.streamToken = t
    · -- The acquire hands the token over to its connection.
      obtain ⟨rfl, rfl⟩ := hr
      refine .inr (.inl ⟨insert r.streamToken ts, ?_, Finset.mem_insert_self _ _⟩)
      rw [goto_conn, setConn_conn, Function.update_self]
    · refine hS.goto rfl (fun hconn hf => ?_) rfl rfl
      rw [setConn_handler, hh] at hf
      exact absurd ⟨hconn, hf⟩ hr
  | disused hh hc => exact hK.goto rfl (fun _ hf => by rw [hh] at hf; exact hf) rfl rfl
  | @forsake h r hh =>
    have hne : ¬ (d.handler h).stage.Has t := by
      rw [hh]
      exact fun e => ha (by simp only [released, hh]; exact congrArg some e)
    exact (hK.release _).goto rfl (fun _ hf => absurd ((d.frame_release _).handler ▸ hf) hne)
      rfl rfl
  | @disown h u hh =>
    by_cases hu : (d.handler h).conn = c ∧ u = t
    · refine .inl ⟨h, ?_, ?_⟩
      · rw [goto_handler, Function.update_self]
        exact hu.1
      · rw [stage_goto, if_pos rfl]
        exact hu.2
    · refine (hK.setConn fun e => ?_).goto rfl (fun _ hf => hno hh id hf) rfl rfl
      subst e
      refine ⟨fun us hus ht => .inl ⟨us.erase u, by rw [hus]; rfl, ?_⟩, id⟩
      exact Finset.mem_erase.2 ⟨fun e => hu ⟨rfl, e.symm⟩, ht⟩
  | @release h u hh =>
    have hne : ¬ (d.handler h).stage.Has t := by
      rw [hh]
      exact fun e => ha (by simp only [released, hh]; exact congrArg some e)
    exact (hK.release _).goto rfl (fun _ hf => absurd ((d.frame_release _).handler ▸ hf) hne)
      rfl rfl
  | find hh => exact hK.goto rfl (fun _ hf => hno hh id hf) rfl rfl
  | lock hh hl ht => exact hK.goto rfl (fun _ hf => hno hh id hf) rfl rfl
  | noTuner hh hl ht => exact hK.goto rfl (fun _ hf => hno hh id hf) rfl rfl
  | measured hh => exact hK.goto rfl (fun _ hf => hno hh id hf) rfl rfl
  | list hh => exact hK.goto rfl (fun _ hf => hno hh id hf) rfl rfl
  | @respond h body hh =>
    have hS : Kept (d.send (d.handler h).conn (envelope (d.handler h).id body)) t c :=
      hK.setConn fun e => by
        subst e
        exact ⟨fun us hus ht => .inl ⟨us, hus, ht⟩, id⟩
    exact hS.goto rfl (fun _ hf => hno hh id hf) rfl rfl
  | attach hx ht => exact hK.same rfl rfl
  | unknownStream hx ht => exact hK.same rfl rfl
  | greeted hx => exact hK.same rfl rfl
  | recv hx hc => exact hK.same rfl rfl
  | dataEnd hx hq hk => exact hK.same rfl rfl
  | dataFail hx => exact hK.same rfl rfl
  | @detach x u k hx =>
    have hR := hK.release u
    cases k <;> exact hR.same rfl rfl
  | @chunk s order b hs hn ho =>
    obtain ⟨e, f, he⟩ := d.exists_fanOutChunk s order b
    rw [he]
    exact hK.of_alike (fun h _ hh => by rw [setSession_handler, f.frame.handler]; exact ⟨rfl, hh⟩)
      (congrArg (·.owned) (f.conn c)) (congrArg (·.cleaning) (f.conn c))
  | closeIfIdle hs =>
    unfold Daemon.closeIfIdle
    split <;> exact hK.same rfl rfl
  | sourceEnd hs => exact hK.same rfl rfl
  | stopped hs hp => exact hK.same rfl rfl
  | @endFirst s walk order error hs hw hn ho =>
    have hE := d.ended_endFirst walk error hw ho
    exact hK.of_alike (fun h _ hh => by rw [hE.handler]; exact ⟨rfl, hh⟩)
      (congrArg (·.owned) (hE.conn c)) (congrArg (·.cleaning) (hE.conn c))
  | takeTuner hs hl ht => exact hK.same rfl rfl
  | noTunerLeft hs hl ht => exact hK.same rfl rfl
  | closed hs => exact hK.same rfl rfl
  | endLast hs =>
    exact hK.of_alike (fun h _ hh => ⟨(has_wake _ t).1, (has_wake _ t).2 hh⟩) rfl rfl

/-- A token just drawn is with the acquire that drew it. -/
theorem kept_of_draws {a : Act} (hs : Step d a d') (ha : a.draws = some t) :
    ∃ D, d'.drawn t = some D ∧ Kept d' t D.conn := by
  have hsub : ∀ (e : Daemon) (h : HandlerId) (s : SessionId) (k : ChanId),
      ∃ D, (e.subscribed h s (some (t, k))).drawn t = some D ∧
        Kept (e.subscribed h s (some (t, k))) t D.conn := by
    intro e h s k
    refine ⟨⟨(e.handler h).conn, s, k, _⟩, Function.update_self .., .inl ⟨h, ?_, ?_⟩⟩
    · rw [Daemon.subscribed, goto_handler, Function.update_self]
      rfl
    · rw [Daemon.subscribed, stage_goto, if_pos rfl]
      rfl
  cases hs
  case join h request params s draw hh hp hs hd =>
    obtain ⟨⟨u, k⟩, rfl, rfl⟩ := Option.map_eq_some_iff.1 ha
    exact hsub d h s k
  case publish h job id left format s draw hh hs hd =>
    obtain ⟨⟨u, k⟩, rfl, rfl⟩ := Option.map_eq_some_iff.1 ha
    exact hsub (d.addSession s (newSession job id format)) h s k
  all_goals cases ha

/-! ## Every step -/

theorem sound_setConn {c' : ConnId} {C : Conn} (h : ∀ c, (d.conn c).Sound) (hC : C.Sound)
    (c : ConnId) : ((d.setConn c' C).conn c).Sound := by
  rw [setConn_conn, Function.update_apply]
  split_ifs
  · exact hC
  · exact h c

theorem sound_step {a : Act} (hs : Step d a d') (hS : ∀ c, (d.conn c).Sound) (c : ConnId) :
    (d'.conn c).Sound := by
  cases hs
  case accept c' hc =>
    refine sound_setConn hS ?_ c
    exact ⟨nofun, fun _ => (hS c').2 (.inl hc)⟩
  case hangUp c' ts hc =>
    refine sound_setConn hS ⟨fun _ => rfl, fun h => absurd (h.resolve_right fun h => h rfl) ?_⟩ c
    exact fun ha => by rw [(hS c').1 ha] at hc; cases hc
  case cleanUp c' u hu =>
    have hR : ∀ c, ((d.release u).conn c).Sound := fun c => (d.conn_release u) ▸ hS c
    refine sound_setConn hR ?_ c
    refine ⟨(hS c').1, fun h => ?_⟩
    rw [(hS c').2 h] at hu
    cases hu
  case write c' e he =>
    refine sound_setConn hS ?_ c
    exact (hS c').congr rfl
  case own h r ts hh hc =>
    refine sound_setConn hS ⟨fun ha => ?_, fun _ => ?_⟩ c
    · rw [(hS _).1 ha] at hc
      cases hc
    · exact (hS _).2 (.inr (by rw [hc]; exact Option.some_ne_none ts))
  case disown h u hh =>
    refine sound_setConn hS ⟨fun ha => by rw [(hS _).1 ha]; rfl, fun ha => ?_⟩ c
    refine (hS _).2 (ha.imp_right fun hne ho => hne ?_)
    rw [ho]
    rfl
  case respond h body hh =>
    refine sound_setConn hS ?_ c
    exact (hS (d.handler h).conn).congr rfl
  case forsake h r hh => exact (d.conn_release r.streamToken) ▸ hS c
  case release h u hh => exact (d.conn_release u) ▸ hS c
  case detach x u k hx =>
    have hR : ((d.release u).conn c).Sound := (d.conn_release u) ▸ hS c
    cases k <;> exact hR
  case reserve h job b left hh =>
    unfold Daemon.reserve
    split <;> split <;> exact hS c
  case retry h job id left hh =>
    unfold Daemon.reserve
    split <;> split <;> exact hS c
  case join h request params s draw hh hp hs hd => cases draw <;> exact hS c
  case publish h job id left format s draw hh hs hd => cases draw <;> exact hS c
  case chunk s order b hs hn ho =>
    obtain ⟨e, f, he⟩ := d.exists_fanOutChunk s order b
    rw [he]
    exact (hS c).congr (f.conn c)
  case endFirst s walk order error hs hw hn ho =>
    exact (hS c).congr ((d.ended_endFirst walk error hw ho).conn c)
  case closeIfIdle s hs =>
    unfold Daemon.closeIfIdle
    split <;> exact hS c
  all_goals exact hS c

theorem owned_step {a : Act} (hO : Owned d) (hs : Step d a d') : Owned d' := by
  refine ⟨fun t ht => ?_, sound_step hs hO.sound⟩
  rcases token_of_step hs ht with ⟨ht, ha, hdrawn⟩ | ha
  · obtain ⟨D, hD, hK⟩ := hO.kept t ht
    exact ⟨D, hdrawn.trans hD, kept_step hO hs ha hK⟩
  · exact kept_of_draws hs ha

theorem owned_reachable {devices : List Device} (h : Reachable Step (init devices) d) : Owned d :=
  h.invariant (owned_init devices) fun _ _ _ _ hO hs => owned_step hO hs

/-- What is left of a token's stream without anyone who has the token. -/
theorem Owned.nothing_left (hO : Owned d) (hL : Linked d) {D : Draw} (ht : d.drawn t = some D)
    (hno : ¬ Kept d t D.conn) :
    d.tokens t = none ∧ d.unattached t = none ∧ ∀ s, t ∉ (d.session s).subscribers := by
  have hnone : d.tokens t = none := by
    by_contra hne
    obtain ⟨D', hD', hK⟩ := hO.kept t hne
    cases ht.symm.trans hD'
    exact hno hK
  refine ⟨hnone, ?_, fun s hs => ?_⟩
  · by_contra hne
    exact hL.token_of_unattached t hne hnone
  · rw [hL.token_of_subscriber s t hs] at hnone
    cases hnone

/-- Nobody of a connection that is gone, cleaned up and out of handlers has a token. -/
theorem not_kept_of_gone (hgone : (d.conn c).owned = none) (hclean : (d.conn c).cleaning = ∅)
    (hdone : ∀ h, (d.handler h).conn = c →
      (d.handler h).stage = .absent ∨ (d.handler h).stage = .done) : ¬ Kept d t c := by
  rintro (⟨h, hconn, hst⟩ | ⟨ts, hts, -⟩ | hcl)
  · rcases hdone h hconn with hh | hh <;> rw [hh] at hst <;> exact hst
  · rw [hgone] at hts
    cases hts
  · rw [hclean] at hcl
    exact Finset.notMem_empty t hcl

/-- **A client that goes leaves no stream behind.** Once the read loop of `c` has ended, its
cleanup has run and its handlers are through, no token drawn for it is in use. -/
theorem leaves_nothing_behind {devices : List Device}
    (hd : Reachable (Restrict Step Fresh) (init devices) d) (hgone : (d.conn c).owned = none)
    (hclean : (d.conn c).cleaning = ∅)
    (hdone : ∀ h, (d.handler h).conn = c →
      (d.handler h).stage = .absent ∨ (d.handler h).stage = .done)
    {D : Draw} (ht : d.drawn t = some D) (hc : D.conn = c) :
    d.tokens t = none ∧ d.unattached t = none ∧ ∀ s, t ∉ (d.session s).subscribers := by
  subst hc
  exact (owned_reachable hd.of_restrict).nothing_left (linked_reachable hd.of_restrict) ht
    (not_kept_of_gone hgone hclean hdone)

/-- The client of `granted` has gone before its acquire was through, which then released the
stream. -/
def departed : Daemon :=
  let d := granted.setConn 0 { granted.conn 0 with owned := none, cleaning := ∅ }
  let r : AcquireResponse := granted.acquired 0 7
  let d := ((d.goto 0 (.forsaking r)).release 7).goto 0 (.responding (.acquireResponse r))
  (d.send 0 (envelope 1 (.acquireResponse r))).goto 0 .done

theorem reachable_departed : Reachable (Restrict Step Fresh) (init oneTuner) departed :=
  ((((reachable_granted.mono fun _ _ h => h.1).snoc
    (Step.fresh (@Step.hangUp granted 0 ∅ rfl) rfl)).snoc
    (Step.fresh (.disused (h := 0) rfl rfl) rfl)).snoc
    (Step.fresh (.forsake (h := 0) rfl) rfl)).snoc
    (Step.fresh (.respond (h := 0) rfl) rfl)

theorem departed_leaves_nothing : departed.drawn 7 ≠ none ∧ departed.tokens 7 = none := by
  refine ⟨by decide, (leaves_nothing_behind reachable_departed (c := 0) (t := 7) rfl rfl ?_ rfl
    rfl).1⟩
  intro h _
  cases h with
  | zero => exact .inr rfl
  | succ h => exact .inl rfl

end Tunelith.Tunelithd
