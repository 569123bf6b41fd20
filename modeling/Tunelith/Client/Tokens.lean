import Tunelith.Client.Calls

/-!
# Which call has which stream

The token of a stream goes from the frame that grants it to one call, and with the call from its
`oneshot` to its `Held` and to the stream it returns (`Carrying`). A token no call carries any
more is given up (`GivenUp`), for good; only such are ever released.
-/

namespace Tunelith.Client

open Tunelith.Client.Inner Proto

/-- The token of the stream an acquire at this stage has, once it has read its answer. -/
def Stage.token : Stage → Option Token
  | .keeping response | .registering response | .opening response _ | .attaching response _ _ =>
    some response.streamToken
  | .streaming stream => some stream.token
  | _ => none

/-- The data connection of the stream an acquire has, once it has one. -/
def Stage.data : Stage → Option DataId
  | .attaching _ _ x => some x
  | .streaming stream => some stream.data
  | _ => none

/-- The call has the token `t`, in its `oneshot` or out of it. -/
def Call.Carries (C : Call) (t : Token) : Prop :=
  (C.stage.listens = true ∧ ∃ response, C.oneshot = .full (.acquireResponse response) ∧
    response.streamToken = t) ∨ C.stage.token = some t

/-- The frames the reader takes off the connection. -/
def Act.frames : Act → List Envelope
  | .receive e => [e]
  | _ => []

/-- A release of `t` was given to the writer. -/
def Inner.Releases (c : Inner) (t : Token) : Prop :=
  ∃ e ∈ c.requests.sent, e.body = some (.releaseRequest t)

/-- No call has the token `t`, which was granted by a frame of `l`. -/
def Inner.GivenUp (c : Inner) (l : List Envelope) (t : Token) : Prop :=
  t ∈ l.filterMap grant ∧ ∀ i, ¬ (c.call i).Carries t

/-- The frames `l` granted the tokens of the calls, each to one call, and those released. -/
structure Carrying (c : Inner) (l : List Envelope) : Prop where
  granted : ∀ i t, (c.call i).Carries t → t ∈ l.filterMap grant
  sole : ∀ i j t, (c.call i).Carries t → (c.call j).Carries t → i = j
  givenUp : ∀ t, c.Releases t → c.GivenUp l t

theorem carrying_init : Carrying init [] where
  granted i t h := by
    rcases h with ⟨hl, -⟩ | h
    · cases hl
    · cases h
  sole i j t h := by
    rcases h with ⟨hl, -⟩ | h
    · cases hl
    · cases h
  givenUp t h := by
    obtain ⟨e, he, -⟩ := h
    cases he

variable {c c' d : Inner} {a : Act} {i j : CallId} {t : Token} {l : List Envelope} {e : Envelope}

/-! ## What a step does to the tokens -/

theorem Call.Carries.congr {C C' : Call} (h : C'.Carries t) (hs : C'.stage = C.stage)
    (ho : C'.oneshot = C.oneshot) : C.Carries t := by
  unfold Call.Carries at h ⊢
  rwa [hs, ho] at h

/-- A call that goes on to a stage where it has no more than it had. -/
theorem carries_of_goto {stage : Stage} (h : ((d.goto j stage).call i).Carries t)
    (hd : d.call = c.call) (hl : stage.listens = true → (c.call j).stage.listens = true)
    (ht : ∀ t, stage.token = some t → (c.call j).Carries t) : (c.call i).Carries t := by
  rw [goto_call, Function.update_apply, hd] at h
  split_ifs at h with hi
  · subst hi
    rcases h with ⟨hl', ho⟩ | h
    · exact .inl ⟨hl hl', ho⟩
    · exact ht t h
  · exact h

theorem token_answered {request : Request} {body : Body}
    (h : (answered request body).token = some t) :
    ∃ response, body = .acquireResponse response ∧ response.streamToken = t := by
  unfold answered at h
  split at h
  · cases h
  split at h
  · cases h
  · exact ⟨_, rfl, Option.some.inj h⟩
  · cases h
  · cases h

theorem Call.Carries.still (h : (c'.call i).Carries t) (hs : Still c c') : (c.call i).Carries t :=
  h.congr (hs.stage i) (hs.oneshot i)

/-- An acquire registers its stream, and goes on unless its format is none it knows. -/
theorem register_cases (c : Inner) (i : CallId) (response : AcquireResponse) :
    let d : Inner := { c with
      ends := Function.update c.ends response.streamToken (some (.pending none)) }
    (∃ format, streamFormat response.format = some format ∧
      c.register i response = d.goto i (.opening response format)) ∨
    (streamFormat response.format = none ∧
      c.register i response = d.fail i response.streamToken unexpected) := by
  unfold Inner.register
  cases hf : streamFormat response.format with
  | none => exact .inr ⟨rfl, rfl⟩
  | some format => exact .inl ⟨format, rfl, rfl⟩

/-- What a call has it had before, or the reader has just handed it over. -/
theorem carries_step (hF : Filed c) (hs : Step c a c') (h : (c'.call i).Carries t) :
    (c.call i).Carries t ∨ ∃ e, a = .receive e ∧ grant e = some t ∧ c.pending e.id = some i := by
  have hbegin : ∀ {j request}, (c.call j).stage = .absent →
      ((c.begin j request).call i).Carries t → (c.call i).Carries t := by
    intro j request hj h
    rw [begin_call, Function.update_apply] at h
    split_ifs at h with hi
    · subst hi
      rcases h with ⟨-, response, ho, -⟩ | h
      · dsimp only at ho
        rw [(hF.fresh i (.inl hj)).1] at ho
        cases ho
      · cases h
    · exact h
  -- A call that has read its answer keeps the token it names, or has none any more.
  have hkeep : ∀ {d : Inner} {j : CallId} {stage stage' : Stage},
      ((d.goto j stage').call i).Carries t → d.call = c.call → (c.call j).stage = stage →
      stage'.listens = false → (∀ u, stage'.token = some u → stage.token = some u) →
      (c.call i).Carries t := by
    intro d j stage stage' h hd hj hl ht
    refine carries_of_goto h hd (fun hl' => ?_) fun u hu => .inr ?_
    · rw [hl] at hl'
      cases hl'
    · rw [hj]
      exact ht u hu
  cases hs with
  | list hi | acquire hi | signal hi => exact .inl (hbegin hi h)
  | misasked hi | notSent hi | resumeClosed hi | dropWaiting hi =>
    exact .inl (hkeep h rfl hi rfl nofun)
  | insert hi | send hi =>
    exact .inl (carries_of_goto h rfl (fun _ => by rw [hi]; rfl) nofun)
  | @resume j body hi ho =>
    refine .inl (carries_of_goto h rfl (fun hl => ?_) fun u hu => ?_)
    · rw [listens_answered] at hl
      cases hl
    · obtain ⟨response, rfl, hr⟩ := token_answered hu
      exact .inl ⟨by rw [hi]; rfl, response, ho, hr⟩
  | keep hi | opened hi | attached hi => exact .inl (hkeep h rfl hi rfl fun _ hu => hu)
  | @register j response hi =>
    rcases register_cases c j response with ⟨format, -, he⟩ | ⟨-, he⟩
    · rw [he] at h
      exact .inl (hkeep h rfl hi rfl fun _ hu => hu)
    · rw [he, Inner.fail] at h
      exact .inl (hkeep h rfl hi rfl nofun)
  | notOpened hi | notAttached hi | dropOpening hi | dropAttaching hi | dropStream hi =>
    exact .inl (hkeep h rfl hi rfl nofun)
  | read => exact .inl (h.still (.setCall rfl rfl rfl rfl))
  | pollEnd => exact .inl (h.still (still_pollEnd _ _ _))
  | write | notWritten | readerEnd | collect | readerDone => exact .inl h
  | @receive e hr =>
    rcases receive_cases c e with hS | ⟨j, body, hT⟩
    · exact .inl (h.still hS)
    rcases hT.cases with ⟨hl, hd⟩ | ⟨-, response, -, hd⟩ | ⟨-, -, hd⟩
    · have hcall : (c.receive e).call i =
          if i = j then { c.call j with oneshot := .full body } else c.call i := by
        rw [hd]
        exact Function.update_apply ..
      rw [hcall] at h
      split_ifs at h with hi
      · subst hi
        rcases h with ⟨-, response, ho, rfl⟩ | h
        · obtain rfl := Oneshot.full.inj ho
          refine .inr ⟨e, rfl, ?_, hT.entry⟩
          unfold grant
          rw [hT.frame]
        · exact .inl (.inr h)
      · exact .inl h
    · rw [hd] at h
      exact .inl h
    · rw [hd] at h
      exact .inl h
  | clear =>
    have hcall : c.clear.call i =
        if c.pending (c.call i).id = some i then { c.call i with oneshot := .closed }
        else c.call i := rfl
    rw [hcall] at h
    split_ifs at h
    · rcases h with ⟨-, response, ho, -⟩ | h
      · cases ho
      · exact .inl (.inr h)
    · exact .inl h
  | @endNext u left hr =>
    have h : ((c.endStream u _).call i).Carries t := h
    exact .inl (h.still (still_endStream _ _ _))

/-- How a call goes on, as far as its data connection goes. -/
inductive Stage.Turn (i : CallId) : Act → Stage → Stage → Prop
  | stay {a : Act} {s : Stage} : Stage.Turn i a s s
  | early {a : Act} {s s' : Stage} (h : s.data = none) (h' : s'.data = none) :
      Stage.Turn i a s s'
  | opened {response : AcquireResponse} {format : StreamFormat} {x : DataId} :
      Stage.Turn i (.openData i (.ok x)) (.opening response format) (.attaching response format x)
  | attached {response : AcquireResponse} {format : StreamFormat} {x : DataId} :
      Stage.Turn i (.attached i (.ok ())) (.attaching response format x)
        (.streaming ⟨response.streamToken, response.tuner, format, x⟩)
  | gone {a : Act} {s s' : Stage} (hl : s'.listens = false) (ht : s'.token = none) :
      Stage.Turn i a s s'

theorem stage_turn (hs : Step c a c') (i : CallId) :
    Stage.Turn i a (c.call i).stage (c'.call i).stage := by
  have hgoto : ∀ {d : Inner} {j stage}, d.call = c.call →
      (j = i → Stage.Turn i a (c.call i).stage stage) →
      Stage.Turn i a (c.call i).stage ((d.goto j stage).call i).stage := by
    intro d j stage hd hj
    rw [stage_goto, hd]
    split_ifs with e
    · exact hj e.symm
    · exact .stay
  have hstay : ∀ {d : Inner}, (d.call i).stage = (c.call i).stage →
      Stage.Turn i a (c.call i).stage (d.call i).stage := by
    intro d hd
    rw [hd]
    exact .stay
  have hbegin : ∀ {j request}, (c.call j).stage = .absent →
      Stage.Turn i a (c.call i).stage ((c.begin j request).call i).stage := by
    intro j request hj
    rw [begin_call, Function.update_apply]
    split_ifs with e
    · subst e
      rw [hj]
      exact .early rfl rfl
    · exact .stay
  cases hs with
  | list hi | acquire hi | signal hi => exact hbegin hi
  | misasked hi | notSent hi | resumeClosed hi | dropWaiting hi | notOpened hi | notAttached hi
    | dropOpening hi | dropAttaching hi | dropStream hi =>
    exact hgoto rfl fun _ => .gone rfl rfl
  | insert hi | send hi | keep hi =>
    refine hgoto rfl ?_
    rintro rfl
    rw [hi]
    exact .early rfl rfl
  | resume hi =>
    refine hgoto rfl ?_
    rintro rfl
    rw [hi]
    refine .early rfl ?_
    unfold answered
    split
    · rfl
    split <;> rfl
  | @register j response hi =>
    rcases register_cases c j response with ⟨format, -, he⟩ | ⟨-, he⟩ <;> rw [he]
    · refine hgoto rfl ?_
      rintro rfl
      rw [hi]
      exact .early rfl rfl
    · exact hgoto rfl fun _ => .gone rfl rfl
  | opened hi =>
    refine hgoto rfl ?_
    rintro rfl
    rw [hi]
    exact .opened
  | attached hi =>
    refine hgoto rfl ?_
    rintro rfl
    rw [hi]
    exact .attached
  | @read j stream data hj =>
    have hS : Still c (c.setCall j { c.call j with read := (c.call j).read ++ data }) :=
      .setCall rfl rfl rfl rfl
    exact hstay (hS.stage i)
  | pollEnd => exact hstay ((still_pollEnd _ _ _).stage i)
  | receive =>
    rcases receive_cases c _ with hS | ⟨j, body, hT⟩
    · exact hstay (hS.stage i)
    refine hstay ?_
    rcases hT.cases with ⟨-, hd⟩ | ⟨-, response, -, hd⟩ | ⟨-, -, hd⟩ <;> rw [hd]
    · refine (congrArg Call.stage (Function.update_apply ..)).trans ?_
      split_ifs with e
      · rw [e]
      · rfl
    · rfl
  | clear =>
    refine hstay ?_
    rw [clear_call]
    split <;> rfl
  | endNext => exact hstay ((still_endStream c _ _).stage i)
  | write | notWritten | readerEnd | collect | readerDone => exact .stay

theorem releases_of_queued {e : Envelope} (h : c'.Releases t) (hr : c'.requests = c.queued e) :
    c.Releases t ∨ e.body = some (.releaseRequest t) := by
  obtain ⟨f, hf, ht⟩ := h
  rw [hr, Inner.queued] at hf
  split at hf
  · rcases List.mem_append.1 hf with hf | hf
    · exact .inl ⟨f, hf, ht⟩
    · rw [List.mem_singleton.1 hf] at ht
      exact .inr ht
  · exact .inl ⟨f, hf, ht⟩

theorem Inner.Releases.same (h : c'.Releases t) (hr : c'.requests.sent = c.requests.sent) :
    c.Releases t := by
  obtain ⟨f, hf, ht⟩ := h
  exact ⟨f, hr ▸ hf, ht⟩

/-- What was given to the writer was given to it. -/
theorem sent_step (hs : Step c a c') (he : e ∈ c.requests.sent) : e ∈ c'.requests.sent := by
  have hq : ∀ f, e ∈ (c.queued f).sent := by
    intro f
    unfold Inner.queued
    split
    · exact List.mem_append_left _ he
    · exact he
  cases hs with
  | send => exact hq _
  | @register i response hi =>
    rcases register_cases c i response with ⟨format, -, hd⟩ | ⟨-, hd⟩ <;> rw [hd]
    · exact he
    · exact hq _
  | notOpened | notAttached | dropOpening | dropAttaching | dropStream => exact hq _
  | pollEnd => rwa [(still_pollEnd _ _ _).requests]
  | write | notWritten => exact (Fifo.sent_pop _).symm ▸ he
  | receive =>
    rcases receive_cases c _ with hS | ⟨j, body, hT⟩
    · rwa [hS.requests]
    rcases hT.cases with ⟨-, hd⟩ | ⟨-, response, -, hd⟩ | ⟨-, -, hd⟩ <;> rw [hd]
    · exact he
    · exact hq _
    · exact he
  | endNext => rwa [show _ = _ from (still_endStream _ _ _).requests]
  | _ => exact he

theorem Inner.Releases.step (h : c.Releases t) (hs : Step c a c') : c'.Releases t := by
  obtain ⟨f, hf, ht⟩ := h
  exact ⟨f, sent_step hs hf, ht⟩

/-- What is released a call had, or the reader could not hand over. -/
theorem releases_step (hs : Step c a c') (h : c'.Releases t) :
    c.Releases t ∨ (∃ e, a = .receive e ∧ grant e = some t ∧ c'.call = c.call) ∨
      ∃ i, (c.call i).Carries t ∧ ¬ (c'.call i).Carries t := by
  -- A call lets go of its stream.
  have hlet : ∀ {i stage stage' u id}, c'.requests = c.queued (envelope id (.releaseRequest u)) →
      (c'.call i).stage = stage' → (c.call i).stage = stage → stage.token = some u →
      stage'.listens = false → stage'.token = none →
      c.Releases t ∨ ∃ i, (c.call i).Carries t ∧ ¬ (c'.call i).Carries t := by
    intro i stage stage' u id hr hi' hi hu hl ht
    rcases releases_of_queued h hr with h | h
    · exact .inl h
    · obtain rfl := Body.releaseRequest.inj (Option.some.inj h)
      refine .inr ⟨i, .inr (hi ▸ hu), ?_⟩
      rintro (⟨hl', -⟩ | ht')
      · rw [hi', hl] at hl'
        cases hl'
      · rw [hi', ht] at ht'
        cases ht'
  have hgoto : ∀ {d : Inner} {i stage}, ((d.goto i stage).call i).stage = stage :=
    fun {d i stage} => (stage_goto d i i stage).trans (if_pos rfl)
  cases hs with
  | @send i hi hw =>
    refine .inl ((releases_of_queued (c := c) h rfl).resolve_right fun hb => ?_)
    cases hr : (c.call i).request <;> rw [hr] at hb <;> cases hb
  | @register i response hi =>
    rcases register_cases c i response with ⟨format, -, he⟩ | ⟨-, he⟩
    · rw [he] at h
      exact .inl h
    · have hst : ((c.register i response).call i).stage = .failed unexpected := by
        rw [he]
        exact hgoto
      have hr : (c.register i response).requests =
          c.queued (envelope c.nextId (.releaseRequest response.streamToken)) := by
        rw [he]
        rfl
      exact (hlet hr hst hi rfl rfl rfl).imp_right .inr
  | notOpened hi => exact (hlet rfl hgoto hi rfl rfl rfl).imp_right .inr
  | notAttached hi => exact (hlet rfl hgoto hi rfl rfl rfl).imp_right .inr
  | dropOpening hi => exact (hlet rfl hgoto hi rfl rfl rfl).imp_right .inr
  | dropAttaching hi => exact (hlet rfl hgoto hi rfl rfl rfl).imp_right .inr
  | dropStream hi => exact (hlet rfl hgoto hi rfl rfl rfl).imp_right .inr
  | pollEnd => exact .inl (h.same (by rw [(still_pollEnd _ _ _).requests]))
  | write | notWritten => exact .inl (h.same (Fifo.sent_pop _))
  | @receive e hr =>
    rcases receive_cases c e with hS | ⟨j, body, hT⟩
    · exact .inl (h.same (by rw [hS.requests]))
    rcases hT.cases with ⟨-, hd⟩ | ⟨-, response, hb, hd⟩ | ⟨-, -, hd⟩
    · exact .inl (h.same (by rw [hd]; rfl))
    · rcases releases_of_queued (c := c) h (by rw [hd]; rfl) with h | h
      · exact .inl h
      · obtain rfl := Body.releaseRequest.inj (Option.some.inj h)
        refine .inr (.inl ⟨e, rfl, ?_, by rw [hd]; rfl⟩)
        unfold grant
        rw [hT.frame, hb]
    · exact .inl (h.same (by rw [hd]))
  | endNext => exact .inl (h.same (by rw [(still_endStream _ _ _).requests]))
  | _ => exact .inl h

theorem notMem_of_nodup (hn : ((l ++ [e]).filterMap grant).Nodup) (he : grant e = some t) :
    t ∉ l.filterMap grant := by
  rw [List.filterMap_append, List.nodup_append] at hn
  intro hmem
  refine hn.2.2 t hmem t ?_ rfl
  rw [List.filterMap_cons, he]
  exact List.mem_singleton_self t

theorem mem_grants_append (h : t ∈ l.filterMap grant) :
    t ∈ (l ++ a.frames).filterMap grant := by
  rw [List.filterMap_append]
  exact List.mem_append_left _ h

/-- What is given up is given up for good. -/
theorem Inner.GivenUp.step (h : c.GivenUp l t) (hF : Filed c) (hs : Step c a c')
    (hn : ((l ++ a.frames).filterMap grant).Nodup) : c'.GivenUp (l ++ a.frames) t := by
  refine ⟨mem_grants_append h.1, fun i hi => ?_⟩
  rcases carries_step hF hs hi with hi | ⟨e, rfl, he, -⟩
  · exact h.2 i hi
  · exact notMem_of_nodup hn he h.1

/-- A step keeps who has which token: the reader hands none over twice. -/
theorem carrying_step (h : Carrying c l) (hF : Filed c) (hs : Step c a c')
    (hn : ((l ++ a.frames).filterMap grant).Nodup) : Carrying c' (l ++ a.frames) := by
  have hgrant : ∀ {e t}, a = .receive e → grant e = some t →
      t ∈ (l ++ a.frames).filterMap grant ∧ t ∉ l.filterMap grant := by
    rintro e t rfl he
    refine ⟨?_, notMem_of_nodup hn he⟩
    rw [List.filterMap_append]
    refine List.mem_append_right _ ?_
    rw [Act.frames, List.filterMap_cons, he]
    exact List.mem_singleton_self t
  refine ⟨fun i t hi => ?_, fun i j t hi hj => ?_, fun t ht => ?_⟩
  · rcases carries_step hF hs hi with hi | ⟨e, ha, he, -⟩
    · exact mem_grants_append (h.granted i t hi)
    · exact (hgrant ha he).1
  · rcases carries_step hF hs hi with hi | ⟨e, ha, he, hp⟩ <;>
      rcases carries_step hF hs hj with hj | ⟨e', ha', he', hp'⟩
    · exact h.sole i j t hi hj
    · exact absurd (h.granted i t hi) (hgrant ha' he').2
    · exact absurd (h.granted j t hj) (hgrant ha he).2
    · cases ha.symm.trans ha'
      exact Option.some.inj (hp.symm.trans hp')
  · rcases releases_step hs ht with ht | ⟨e, ha, he, hcall⟩ | ⟨i, hi, hno⟩
    · exact (h.givenUp t ht).step hF hs hn
    · refine ⟨(hgrant ha he).1, fun i hi => (hgrant ha he).2 ?_⟩
      rw [hcall] at hi
      exact h.granted i t hi
    · refine ⟨mem_grants_append (h.granted i t hi), fun j hj => ?_⟩
      rcases carries_step hF hs hj with hj' | ⟨e, ha, he, -⟩
      · obtain rfl := h.sole i j t hi hj'
        exact hno hj
      · exact (hgrant ha he).2 (h.granted i t hi)

end Tunelith.Client
