import Tunelith.Tunelithd.Sessions

/-!
# Waiting for a tuner on its way back

`acquire` waits for a tuner that is in `closing`, and refuses one that is only in `busy`. A
session goes out of the running ones with its last client, in `release` or in `close_if_idle`,
but its tuner comes into `closing` only with its `end`, which the fan-out gets to later.

* `waits_iff` — a state accounts for every busy tuner exactly if every session whose fan-out runs
  is among the running ones.
* `waits_iff_never_takes_out` — so a run does all along exactly if it takes no session out early.
* `refused_on_its_way_back` — a run that does, and an acquire refused for it.
-/

namespace Tunelith.Tunelithd

open Daemon Lts Proto

/-- Every busy tuner is accounted for by an acquire that is starting it or failing to, by a
running session, or as being closed. -/
def Accounted (d : Daemon) : Prop :=
  ∀ id ∈ d.busy, (∃ h, d.Has id (.acquire h)) ∨
    (∃ s ∈ d.sessions, (d.session s).tunerId = id) ∨ id ∈ d.closing

/-- What an acquire that waits may count on. -/
structure Waits (d : Daemon) : Prop where
  accounted : Accounted d
  /-- Only a tuner that a running session or a starting acquire holds is refused at once. -/
  refused : ∀ h job id left, ((d.reserve h job id true left).handler h).stage = .trying job left →
    (∃ h, d.Has id (.acquire h)) ∨ ∃ s ∈ d.sessions, (d.session s).tunerId = id
  /-- The tuner of a session that its last client has left is waited for. -/
  waited : ∀ s h job left, d.Has (d.session s).tunerId (.session s) →
    (d.session s).subscribers.keys = ∅ → s ∉ d.sessions →
    ((d.reserve h job (d.session s).tunerId true left).handler h).stage =
      .waiting job (d.session s).tunerId left false

variable {d d' : Daemon}

theorem stage_reserve_wait (d : Daemon) (h : HandlerId) (job : Job) (id : TunerId)
    (left : List Attempt) : ((d.reserve h job id true left).handler h).stage =
      if id ∈ d.closing then .waiting job id left false
      else if id ∈ d.busy then .trying job left
      else .holding job id left .reserved := by
  unfold Daemon.reserve
  split_ifs <;> simp_all

theorem FanOut.cases_of_has {f : FanOut} (ha : f ≠ .absent) (he : f ≠ .ended) :
    f.isLooping ∨ f.isEnding := by
  cases f <;> simp_all [FanOut.isLooping, FanOut.isEnding]

theorem Leased.has_unique (hL : Leased d) {id : TunerId} {x y : Holder} (hx : d.Has id x)
    (hy : d.Has id y) : x = y := by
  obtain ⟨b, hb⟩ := has_iff.1 hx
  obtain ⟨c, hc⟩ := has_iff.1 hy
  exact hL.exclusive.unique hb hc

theorem has_of_isLooping {s : SessionId} (hs : (d.session s).fanOut.isLooping) :
    d.Has (d.session s).tunerId (.session s) := by
  refine ⟨rfl, ?_, ?_⟩ <;> intro hf <;> rw [hf] at hs <;> cases hs

theorem has_of_isEnding {s : SessionId} (hs : (d.session s).fanOut.isEnding) :
    d.Has (d.session s).tunerId (.session s) := by
  refine ⟨rfl, ?_, ?_⟩ <;> intro hf <;> rw [hf] at hs <;> cases hs

/-- The tuner of a session that is not among the running ones is accounted for only once it is
being closed. -/
theorem listed_of_accounted (hL : Leased d) (hK : Linked d) (hA : Accounted d) {s : SessionId}
    (hs : (d.session s).fanOut.isLooping) : s ∈ d.sessions := by
  have hhas := has_of_isLooping hs
  obtain ⟨b, hb⟩ := has_iff.1 hhas
  rcases hA _ (hL.exclusive.busy_of_holds hb) with ⟨h, hh⟩ | ⟨r, hr, hid⟩ | hc
  · cases hL.has_unique hhas hh
  · have hhas' := has_of_isLooping (hK.looping_of_listed r hr)
    rw [hid] at hhas'
    cases hL.has_unique hhas hhas'
    exact hr
  · obtain ⟨r, hr, hid⟩ := (hL.closing_iff _).1 hc
    have hhas' := has_of_isEnding hr
    rw [hid] at hhas'
    cases hL.has_unique hhas hhas'
    cases hf : (d.session s).fanOut <;> simp_all [FanOut.isLooping, FanOut.isEnding]

/-- A state accounts for every busy tuner, and acquires wait as they should, exactly if every
session whose fan-out runs is among the running ones. -/
theorem waits_iff (hL : Leased d) (hK : Linked d) :
    Waits d ↔ ∀ s, (d.session s).fanOut.isLooping → s ∈ d.sessions := by
  refine ⟨fun hW s hs => listed_of_accounted hL hK hW.accounted hs, fun hlist => ?_⟩
  have hacc : Accounted d := by
    intro id hid
    obtain ⟨x, b, hb⟩ := hL.exclusive.held_of_busy hid
    cases x with
    | acquire h => exact .inl ⟨h, has_iff.2 ⟨b, hb⟩⟩
    | session s =>
      obtain ⟨rfl, ha, he⟩ := has_iff.2 ⟨b, hb⟩
      rcases FanOut.cases_of_has ha he with hs | hs
      · exact .inr (.inl ⟨s, hlist s hs, rfl⟩)
      · exact .inr (.inr ((hL.closing_iff _).2 ⟨s, hs, rfl⟩))
  refine ⟨hacc, fun h job id left ht => ?_, fun s h job left hhas _ hs => ?_⟩
  · rw [stage_reserve_wait] at ht
    split_ifs at ht with hc hb
    exact (hacc id hb).imp_right fun hrest => hrest.resolve_right hc
  · obtain ⟨-, ha, he⟩ := hhas
    have hending := (FanOut.cases_of_has ha he).resolve_left fun hl => hs (hlist s hl)
    rw [stage_reserve_wait, if_pos ((hL.closing_iff _).2 ⟨s, hending, rfl⟩)]

/-! ## The steps that take a session out -/

/-- The action takes a session out of the running ones before its `end` has begun: it releases
the last client, or finds the session without one. -/
def TakesOut (d : Daemon) (a : Act) : Prop :=
  (∃ t s, d.released a = some t ∧ d.LastOf t s) ∨
    ∃ s, a = .closeIfIdle s ∧ (d.session s).subscribers.keys = ∅

/-- A step that takes a session out leaves it with a fan-out that still runs. -/
theorem unlisted_of_takesOut (hK : Linked d) {a : Act} (h : Step d a d') (ha : TakesOut d a) :
    ∃ s, (d'.session s).fanOut.isLooping ∧ s ∉ d'.sessions := by
  rcases ha with ⟨t, s, ha, hlast⟩ | ⟨s, rfl, hm⟩
  · have hcalm := step_released h ha
    refine ⟨s, ?_, ?_⟩
    · rw [hcalm.isLooping, fanOut_release]
      exact hK.looping_of_token t s hlast.1
    · rw [hcalm.sessions]
      exact fun h => (d.mem_sessions_release.1 h).2 hlast
  · cases h with
    | closeIfIdle hs =>
      refine ⟨s, ?_, ?_⟩ <;> rw [Daemon.closeIfIdle, if_pos hm, setFanOut]
      · rw [setSession_session, Function.update_self]
        rfl
      · rw [setSession_sessions, unlist_sessions, List.mem_filter]
        exact fun h => of_decide_eq_true h.2 rfl

/-- The other steps keep every session whose fan-out runs among the running ones. -/
theorem listed_of_not_takesOut (hlist : ∀ s, (d.session s).fanOut.isLooping → s ∈ d.sessions)
    {a : Act} (h : Step d a d') (ha : ¬ TakesOut d a) {s : SessionId}
    (hs : (d'.session s).fanOut.isLooping) : s ∈ d'.sessions := by
  obtain ⟨e, hshift, hcalm⟩ := step_shift h
  rw [hcalm.isLooping] at hs
  rw [hcalm.sessions]
  have hadd : ∀ {r S}, ((d.addSession r S).session s).fanOut.isLooping →
      s ∈ (d.addSession r S).sessions := by
    intro r S hr
    rw [addSession_sessions, List.mem_append, List.mem_singleton]
    rw [addSession_session, Function.update_apply] at hr
    split_ifs at hr with e
    · exact .inr e
    · exact .inl (hlist s hr)
  have hsub : ∀ {e : Daemon} {r c t k}, ((e.subscribe r c t k).session s).fanOut.isLooping →
      (e.session s).fanOut.isLooping := by
    intro e r c t k hr
    rw [session_subscribe, Function.update_apply] at hr
    split_ifs at hr with h
    · rwa [h]
    · exact hr
  cases hshift with
  | calm => exact hlist s hs
  | @release t ha' =>
    rw [fanOut_release] at hs
    exact d.mem_sessions_release.2 ⟨hlist s hs, fun hl => ha (.inl ⟨t, s, ha', hl⟩)⟩
  | join => exact hlist s (hsub hs)
  | publish => exact hadd (hsub hs)
  | unsubscribed => exact hadd hs
  | @chunk r order c ha' hr hn ho =>
    obtain ⟨e, f, he⟩ := d.exists_fanOutChunk r order c
    rw [he, setSession_session, Function.update_apply] at hs
    rw [he, setSession_sessions, f.sessions]
    by_cases h : s = r
    · refine hlist s ?_
      rw [h, hr]
      rfl
    · rw [if_neg h, f.session_of_ne s h] at hs
      exact hlist s hs
  | @closeIfIdle r ha' hr =>
    have hm : (d.session r).subscribers.keys ≠ ∅ := fun hm => ha (.inr ⟨r, ha', hm⟩)
    rw [Daemon.closeIfIdle, if_neg hm, setFanOut, setSession_session,
      Function.update_apply] at hs
    rw [Daemon.closeIfIdle, if_neg hm]
    refine hlist s ?_
    split_ifs at hs with h
    · rw [h, hr]
      rfl
    · exact hs
  | @leave r b error ha' hr hb =>
    rw [setSession_session, Function.update_apply] at hs
    refine hlist s ?_
    split_ifs at hs with h
    · rw [h, hr]
      rfl
    · exact hs
  | @endFirst r walk order error ha' hr hw hn ho =>
    have hE := d.ended_endFirst walk error hw ho
    have hne : s ≠ r := by
      rintro rfl
      rw [hE.fanOut] at hs
      cases hs
    rw [hE.session_of_ne s hne] at hs
    rw [hE.sessions, List.mem_filter]
    exact ⟨hlist s hs, decide_eq_true hne⟩

/-- **A tuner on its way back is waited for exactly in the runs that take no session out early**:
no release is of the last client of its session, and no `close_if_idle` finds its session idle. -/
theorem waits_iff_never_takes_out {devices : List Device} {tr : List (Daemon × Act)}
    (h : Run Step (init devices) tr d) :
    Always Waits tr d ↔ AllGood (fun d a => ¬ TakesOut d a) tr := by
  refine h.always_iff ?_ fun t a u hreach hW hs => ?_
  · refine (waits_iff (leased_init devices) (linked_init devices)).2 fun s hs => ?_
    cases hs
  · have hL := leased_reachable hreach
    have hK := linked_reachable hreach
    rw [waits_iff hL hK] at hW
    rw [waits_iff (leased_step hL hs) (linked_step hK hs)]
    constructor
    · intro hW' ha
      obtain ⟨s, hloop, hmem⟩ := unlisted_of_takesOut hK hs ha
      exact hmem (hW' s hloop)
    · intro ha s hloop
      exact listed_of_not_takesOut hW hs ha hloop

/-! ## A run -/

/-- The client of `granted` has asked for its stream to be released. -/
def releasing : Daemon :=
  let d := { granted with
    handler := Function.update granted.handler 1 ⟨0, 2, .disowning 7⟩ }
  (d.setConn 0 { d.conn 0 with owned := some ∅ }).goto 1 (.releasing 7)

theorem reachable_releasing : Reachable Step (init oneTuner) releasing :=
  (reachable_granted.of_restrict.snoc
    (.request (c := 0) (h := 1) (e := ⟨2, some (.releaseRequest 7)⟩) (by decide) rfl)).snoc
    (.disown (h := 1) rfl)

/-- It has been, and the fan-out has yet to notice. -/
def released : Daemon := (releasing.release 7).goto 1 (.responding .releaseResponse)

theorem reachable_released : Reachable Step (init oneTuner) released :=
  reachable_releasing.snoc (.release (h := 1) rfl)

theorem not_waits_released :
    ∃ tr, Run Step (init oneTuner) tr released ∧ ¬ Always Waits tr released := by
  obtain ⟨tr, hr⟩ := reachable_releasing
  have hrun := hr.snoc (a := .release 1) (u := released) (.release rfl)
  refine ⟨_, hrun, fun hall => ?_⟩
  have hgood := (waits_iff_never_takes_out hrun).1 hall _ List.mem_cons_self
  exact hgood (.inl ⟨7, 0, rfl, rfl, by decide⟩)

/-- An acquire made after the last client has released its stream is refused at once, though the
tuner is on its way back. -/
theorem refused_on_its_way_back :
    ∃ d, Reachable Step (init oneTuner) d ∧ ¬ Accounted d ∧
      ∃ d' e, Reachable Step d d' ∧ (d'.handler 2).stage = .responding (.error e) ∧
        e.code = .known .busy := by
  refine ⟨released, reachable_released, ?_, ?_⟩
  · intro hacc
    have hmem := listed_of_accounted (leased_reachable reachable_released)
      (linked_reachable reachable_released) hacc (s := 0) rfl
    cases hmem
  · exact ⟨_, _, (((((Reachable.refl released).snoc
      (.request (c := 0) (h := 2) (e := ⟨3, some (.acquireRequest askT)⟩) (by decide) rfl)).snoc
      (.search (h := 2) rfl rfl rfl)).snoc (.reserve (h := 2) rfl)).snoc
      (.reserve (h := 2) rfl)).snoc (.giveUp (h := 2) rfl), rfl, rfl⟩

end Tunelith.Tunelithd
