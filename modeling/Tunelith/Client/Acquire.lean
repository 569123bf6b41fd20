import Tunelith.Client.Calls

/-!
# Giving up on an acquire

The token of an acquire goes from the reader to the `oneshot` of the call, from there to the
`Held` of `acquire`, and from there to the stream it returns. `Held` and the stream release what
they have when they are dropped, and the reader what it cannot hand over. The `oneshot` does not:
a future that goes with its answer in it takes the answer along. And a release is lost that finds
the writer gone.

* `owned_while_heard` — as long as no acquire goes with its answer unread, and nothing is released
  once the writer has ended, every token the reader took is with its acquire, in a stream, or in a
  release the writer was given.
* `lost_unheard` — and any other step leaks one, unless a release of it was queued before.
-/

namespace Tunelith.Client

open Tunelith.Client.Inner Proto

variable {c c' d : Inner} {i j : CallId} {t : Token}

/-! ## Who has a token -/

/-- The future of the acquire `i` has `t`: in its `oneshot`, or in its `Held`. -/
def Inner.Has (c : Inner) (i : CallId) (t : Token) : Prop :=
  ((c.call i).stage.listens = true ∧ (c.call i).request.isAcquire = true ∧
    ∃ response, (c.call i).oneshot = .full (.acquireResponse response) ∧
      response.streamToken = t) ∨
  (c.call i).stage.held = some t

/-- A release of `t` was queued for the writer. -/
def Inner.Released (c : Inner) (t : Token) : Prop :=
  ∃ e ∈ c.requests.sent, e.body = some (.releaseRequest t)

/-- Someone sees to the stream `t` that the acquire `i` was answered with. -/
def Inner.Owned (c : Inner) (i : CallId) (t : Token) : Prop :=
  c.Has i t ∨ (c.call i).stage.streams = some t ∨ c.Released t

/-- Every token the reader took for an acquire is seen to. -/
def NoneLeaked (c : Inner) : Prop := ∀ i t, c.took i = some t → c.Owned i t

/-- The call whose future the action ends before the answer was read: it is dropped in `rx.await`,
or cannot give its request to the writer. -/
def Inner.leaves (c : Inner) : Act → Option CallId
  | .drop i => if (c.call i).stage = .waiting then some i else none
  | .send i => if c.writer = .ended then some i else none
  | _ => none

/-- The token the action releases: of an acquire given up on or failing past its answer, of a
stream dropped, or of an answer whose acquire is gone. -/
def Inner.releases (c : Inner) : Act → Option Token
  | .drop i | .openData i (.error _) | .attached i (.error _) => (c.call i).stage.held
  | .register i =>
    match (c.call i).stage with
    | .registering response =>
      if streamFormat response.format = none then some response.streamToken else none
    | _ => none
  | .dropStream i => (c.call i).stage.streams
  | .receive e =>
    match c.answers e with
    | some (i, t) => if (c.call i).stage.listens then none else some t
    | none => none
  | _ => none

/-- The action ends no acquire that has its answer but has not read it, and releases nothing once
the writer has ended. -/
structure Heard (c : Inner) (a : Act) : Prop where
  unread : ∀ i, c.leaves a = some i → (c.call i).request.isAcquire = true →
    ∀ response, (c.call i).oneshot ≠ .full (.acquireResponse response)
  running : c.releases a ≠ none → c.writer = .running

/-! ## How tokens change hands -/

/-- What was queued for the writer stays in the record of its queue. -/
def Grows (c c' : Inner) : Prop := ∀ e ∈ c.requests.sent, e ∈ c'.requests.sent

theorem Grows.same (hr : c'.requests = c.requests) : Grows c c' := fun _ he => hr ▸ he

theorem Grows.queued {e : Envelope} (hr : c'.requests = c.queued e) : Grows c c' := by
  intro f hf
  rw [hr, Inner.queued]
  split
  · exact List.mem_append_left _ hf
  · exact hf

theorem Inner.Released.mono (h : c.Released t) (hg : Grows c c') : c'.Released t := by
  obtain ⟨e, he, ht⟩ := h
  exact ⟨e, hg e he, ht⟩

/-- A release is queued while the writer receives. -/
theorem released_of_queued {id : RequestId} (hw : c.writer = .running)
    (hr : c'.requests = c.queued (envelope id (.releaseRequest t))) : c'.Released t := by
  refine ⟨envelope id (.releaseRequest t), ?_, rfl⟩
  rw [hr, Inner.queued, hw]
  exact List.mem_append_right _ (List.mem_singleton_self _)

theorem Inner.Owned.mono (h : c.Owned i t) (hg : Grows c c')
    (hr : (c'.call i).request = (c.call i).request) (ho : (c'.call i).oneshot = (c.call i).oneshot)
    (hs : (c'.call i).stage = (c.call i).stage) : c'.Owned i t := by
  unfold Inner.Owned Inner.Has
  rw [hr, ho, hs]
  exact h.imp_right fun h => h.imp_right fun h => h.mono hg

/-- A step that moves none of the calls but `i`, whose token is seen to after it. -/
theorem NoneLeaked.of_ne (h : NoneLeaked c) (ht : ∀ j, j ≠ i → c'.took j = c.took j)
    (hg : Grows c c') (hcall : ∀ j, j ≠ i → c'.call j = c.call j)
    (hi : ∀ t, c'.took i = some t → c'.Owned i t) : NoneLeaked c' := by
  intro j t hj
  by_cases hji : j = i
  · subst hji
    exact hi t hj
  · rw [ht j hji] at hj
    exact (h j t hj).mono hg (by rw [hcall j hji]) (by rw [hcall j hji]) (by rw [hcall j hji])

theorem NoneLeaked.still (h : NoneLeaked c) (hs : Still c c') : NoneLeaked c' := by
  intro i t hi
  rw [hs.took] at hi
  exact (h i t hi).mono (.same hs.requests) (hs.request i) (hs.oneshot i) (hs.stage i)

theorem NoneLeaked.same (h : NoneLeaked c) (ht : c'.took = c.took) (hg : Grows c c')
    (hc : c'.call = c.call) : NoneLeaked c' := by
  intro i t hi
  rw [ht] at hi
  exact (h i t hi).mono hg (by rw [hc]) (by rw [hc]) (by rw [hc])

/-- The call `i` goes on to `stage`, where it keeps what it has. -/
theorem NoneLeaked.goto (h : NoneLeaked c) {stage : Stage} (ht : d.took = c.took)
    (hg : Grows c d) (hcall : d.call = c.call)
    (hi : ∀ t, c.Has i t ∨ (c.call i).stage.streams = some t →
      (d.goto i stage).Owned i t) : NoneLeaked (d.goto i stage) := by
  refine h.of_ne (i := i) (fun j _ => congrFun ht j) hg (fun j hj => ?_) fun t hj => ?_
  · rw [goto_call, Function.update_of_ne hj, hcall]
  · rcases h i t ((congrFun ht i).symm.trans hj) with ho | ho | ho
    · exact hi t (.inl ho)
    · exact hi t (.inr ho)
    · exact .inr (.inr (ho.mono hg))

/-- The call `i` releases what it has. -/
theorem NoneLeaked.release (h : NoneLeaked c) {stage : Stage} {id : RequestId}
    (hw : c.writer = .running) (ht : d.took = c.took)
    (hr : d.requests = c.queued (envelope id (.releaseRequest t))) (hcall : d.call = c.call)
    (hi : ∀ u, c.Has i u ∨ (c.call i).stage.streams = some u → u = t) :
    NoneLeaked (d.goto i stage) := by
  refine h.goto ht (.queued hr) hcall fun u hu => ?_
  obtain rfl := hi u hu
  exact .inr (.inr (released_of_queued hw hr))

theorem Inner.Has.of_held {u : Token} (h : c.Has i t) (hi : (c.call i).stage.held = some u) :
    t = u := by
  rcases h with ⟨hl, -⟩ | h
  · cases hs : (c.call i).stage <;> rw [hs] at hl hi <;> cases hl <;> cases hi
  · exact Option.some.inj (h.symm.trans hi)

/-- A call that neither listens nor holds a token has none. -/
theorem not_has {stage : Stage} (hi : (c.call i).stage = stage) (hl : stage.listens = false)
    (hh : stage.held = none) : ¬ c.Has i t := by
  rintro (⟨hl', -⟩ | h)
  · rw [hi, hl] at hl'
    cases hl'
  · rw [hi, hh] at h
    cases h

/-- What an acquire with a `Held` for `u` has is `u`. -/
theorem eq_of_held {stage : Stage} {u : Token} (hi : (c.call i).stage = stage)
    (hh : stage.held = some u) (h : c.Has i t ∨ (c.call i).stage.streams = some t) : t = u := by
  rcases h with h | h
  · exact h.of_held (by rw [hi, hh])
  · rw [hi] at h
    cases stage <;> cases hh <;> cases h

/-- An acquire goes on with its `Held`, or hands it over to its stream. -/
theorem NoneLeaked.hand (h : NoneLeaked c) {stage stage' : Stage} {u : Token}
    (hi : (c.call i).stage = stage) (hh : stage.held = some u)
    (hh' : stage'.held = some u ∨ stage'.streams = some u) (ht : d.took = c.took)
    (hg : Grows c d) (hcall : d.call = c.call) : NoneLeaked (d.goto i stage') := by
  refine h.goto ht hg hcall fun t hu => ?_
  obtain rfl := eq_of_held hi hh hu
  have hs : ((d.goto i stage').call i).stage = stage' := by rw [stage_goto, if_pos rfl]
  unfold Inner.Owned Inner.Has
  rw [hs]
  exact hh'.elim (fun h => .inl (.inr h)) fun h => .inr (.inl h)

/-- A call that has no token moves on. -/
theorem NoneLeaked.pass (h : NoneLeaked c) {stage stage' : Stage}
    (hi : (c.call i).stage = stage) (hl : stage.listens = false) (hh : stage.held = none)
    (hs : stage.streams = none) : NoneLeaked (c.goto i stage') := by
  refine h.goto rfl (.same rfl) rfl fun t hu => ?_
  rcases hu with hu | hu
  · exact absurd hu (not_has hi hl hh)
  · rw [hi, hs] at hu
    cases hu

/-! ## The calls that wait -/

/-- What a call that listens has is in its `oneshot`. -/
theorem Inner.Has.of_listens (h : c.Has i t) (hl : (c.call i).stage.listens = true) :
    (c.call i).request.isAcquire = true ∧ ∃ response,
      (c.call i).oneshot = .full (.acquireResponse response) ∧ response.streamToken = t := by
  rcases h with ⟨-, hr, ho⟩ | h
  · exact ⟨hr, ho⟩
  · cases hs : (c.call i).stage <;> rw [hs] at hl h <;> cases hl <;> cases h

theorem streams_of_listens (hl : (c.call i).stage.listens = true) :
    (c.call i).stage.streams = none := by
  cases hs : (c.call i).stage <;> rw [hs] at hl <;> first | rfl | cases hl

/-- A call goes on listening. -/
theorem NoneLeaked.listen (h : NoneLeaked c) {stage : Stage}
    (hl : (c.call i).stage.listens = true) (hl' : stage.listens = true) (ht : d.took = c.took)
    (hg : Grows c d) (hcall : d.call = c.call) : NoneLeaked (d.goto i stage) := by
  refine h.goto ht hg hcall fun t hu => ?_
  rcases hu with hu | hu
  · obtain ⟨hr, ho⟩ := hu.of_listens hl
    have hc : (d.goto i stage).call i = { c.call i with stage := stage } := by
      rw [goto_call, Function.update_self, hcall]
    unfold Inner.Owned Inner.Has
    rw [hc]
    exact .inl (.inl ⟨hl', hr, ho⟩)
  · rw [streams_of_listens hl] at hu
    cases hu

/-- A call reads its answer: an acquire keeps the token it was given. -/
theorem NoneLeaked.resume (h : NoneLeaked c) {body : Body} (hi : (c.call i).stage = .waiting)
    (ho : (c.call i).oneshot = .full body) :
    NoneLeaked (c.goto i (answered (c.call i).request body)) := by
  refine h.goto rfl (.same rfl) rfl fun t hu => ?_
  have hl : (c.call i).stage.listens = true := by rw [hi]; rfl
  rcases hu with hu | hu
  · obtain ⟨hr, response, ho', rfl⟩ := hu.of_listens hl
    obtain rfl := Oneshot.full.inj (ho.symm.trans ho')
    refine .inl (.inr ?_)
    rw [stage_goto, if_pos rfl]
    cases hq : (c.call i).request <;> rw [hq] at hr <;> first | rfl | cases hr
  · rw [streams_of_listens hl] at hu
    cases hu

/-- A call leaves, its `oneshot` without a token. -/
theorem NoneLeaked.leave (h : NoneLeaked c) {stage : Stage}
    (hl : (c.call i).stage.listens = true)
    (hn : (c.call i).request.isAcquire = true →
      ∀ response, (c.call i).oneshot ≠ .full (.acquireResponse response)) :
    NoneLeaked (c.goto i stage) := by
  refine h.goto rfl (.same rfl) rfl fun t hu => ?_
  rcases hu with hu | hu
  · obtain ⟨hr, response, ho, -⟩ := hu.of_listens hl
    exact absurd ho (hn hr response)
  · rw [streams_of_listens hl] at hu
    cases hu

/-! ## The reader -/

theorem NoneLeaked.clear (h : NoneLeaked c) (hF : Filed c) : NoneLeaked c.clear := by
  intro i t hi
  have hcall : c.clear.call i =
      if c.pending (c.call i).id = some i then { c.call i with oneshot := .closed }
      else c.call i := rfl
  have hne : c.pending (c.call i).id ≠ some i := by
    intro hp
    have ht := (hF.entry _ i hp).2.2.1
    rw [clear_took, ht] at hi
    cases hi
  rw [if_neg hne] at hcall
  exact (h i t hi).mono (.same rfl) (by rw [hcall]) (by rw [hcall]) (by rw [hcall])

/-- The reader hands the answer over, or releases what it names. -/
theorem NoneLeaked.receive (h : NoneLeaked c) (hF : Filed c) (e : Envelope)
    (hw : c.releases (.receive e) ≠ none → c.writer = .running) : NoneLeaked (c.receive e) := by
  rcases receive_cases c e with hs | ⟨i, body, hT⟩
  · exact h.still hs
  -- What the reader took for the call is what it takes now.
  have htook : ∀ t, (c.receive e).took i = some t → (c.call i).request.isAcquire = true ∧
      ∃ response, body = .acquireResponse response ∧ response.streamToken = t := by
    intro t ht
    rcases hT.took t ht with ht | ht
    · have := (hF.entry _ i hT.entry).2.2.1
      rw [ht] at this
      cases this
    · exact ht
  rcases hT.cases with ⟨hl, hd⟩ | ⟨hl, response, hb, hd⟩ | ⟨hl, hb, hd⟩
  · have hcall : ∀ j, (c.receive e).call j =
        if j = i then { c.call i with oneshot := .full body } else c.call j := by
      intro j
      rw [hd]
      exact Function.update_apply ..
    refine h.of_ne hT.took_ne (.same (by rw [hd]; rfl))
      (fun j hj => by rw [hcall, if_neg hj]) fun t ht => .inl (.inl ?_)
    obtain ⟨hr, response, rfl, rfl⟩ := htook t ht
    rw [hcall, if_pos rfl]
    exact ⟨hl, hr, response, rfl, rfl⟩
  · have hq : (c.receive e).requests =
        c.queued (envelope c.nextId (.releaseRequest response.streamToken)) := by
      rw [hd]
      rfl
    refine h.of_ne hT.took_ne (.queued hq) (fun j _ => by rw [hd]; rfl)
      fun t ht => .inr (.inr ?_)
    obtain ⟨hr, response', hb', rfl⟩ := htook t ht
    obtain rfl := Body.acquireResponse.inj (hb.symm.trans hb')
    have ha : c.answers e = some (i, response.streamToken) :=
      answers_eq_some.2 ⟨response, by rw [hT.frame, hb], hT.entry, hr, rfl⟩
    refine released_of_queued (hw ?_) hq
    simp [Inner.releases, ha, hl]
  · refine h.of_ne hT.took_ne (.same (by rw [hd])) (fun j _ => by rw [hd]) fun t ht => ?_
    obtain ⟨-, response, hb', -⟩ := htook t ht
    exact absurd hb' (hb response)

/-! ## Steps and runs -/

theorem NoneLeaked.begin (h : NoneLeaked c) (hF : Filed c) (hi : (c.call i).stage = .absent)
    (request : Request) : NoneLeaked (c.begin i request) := by
  refine h.of_ne (i := i) (fun _ _ => rfl) (.same rfl)
    (fun j hj => Function.update_of_ne hj ..) fun t ht => ?_
  have := (hF.fresh i (.inl hi)).2
  rw [begin_took, this] at ht
  cases ht

theorem NoneLeaked.register (h : NoneLeaked c) {response : AcquireResponse}
    (hi : (c.call i).stage = .registering response)
    (hw : c.releases (.register i) ≠ none → c.writer = .running) :
    NoneLeaked (c.register i response) := by
  unfold Inner.register
  dsimp only
  split
  · exact h.hand hi rfl (.inl rfl) rfl (.same rfl) rfl
  · next hf =>
    refine h.release (hw ?_) rfl rfl rfl fun u hu => eq_of_held hi rfl hu
    simp [Inner.releases, hi, hf]

theorem noneLeaked_step {a : Act} (h : NoneLeaked c) (hF : Filed c) (hg : Heard c a)
    (hs : Step c a c') : NoneLeaked c' := by
  cases hs with
  | list hi => exact h.begin hF hi _
  | acquire hi => exact h.begin hF hi _
  | misasked hi => exact h.pass hi rfl rfl rfl
  | signal hi => exact h.begin hF hi _
  | insert hi => exact h.listen (by rw [hi]; rfl) rfl rfl (.same rfl) rfl
  | send hi => exact h.listen (by rw [hi]; rfl) rfl rfl (.queued rfl) rfl
  | @notSent i hi hw => exact h.leave (by rw [hi]; rfl) (hg.unread i (if_pos hw))
  | resume hi ho => exact h.resume hi ho
  | resumeClosed hi ho => exact h.leave (by rw [hi]; rfl) (by rw [ho]; nofun)
  | @dropWaiting i hi => exact h.leave (by rw [hi]; rfl) (hg.unread i (if_pos hi))
  | keep hi => exact h.hand hi rfl (.inl rfl) rfl (.same rfl) rfl
  | register hi => exact h.register hi hg.running
  | opened hi => exact h.hand hi rfl (.inl rfl) rfl (.same rfl) rfl
  | notOpened hi | notAttached hi | dropOpening hi | dropAttaching hi =>
    have hw := hg.running (by simp [Inner.releases, hi, Stage.held])
    exact h.release hw rfl rfl rfl fun u hu => eq_of_held hi rfl hu
  | attached hi => exact h.hand hi rfl (.inr rfl) rfl (.same rfl) rfl
  | read => exact h.still (.setCall rfl rfl rfl rfl)
  | pollEnd => exact h.still (still_pollEnd _ _ _)
  | @dropStream i stream hi =>
    have hw := hg.running (by simp [Inner.releases, hi, Stage.streams])
    refine h.release hw rfl rfl rfl fun u hu => ?_
    rcases hu with hu | hu
    · exact absurd hu (not_has hi rfl rfl)
    · rw [hi] at hu
      exact (Option.some.inj hu).symm
  | write hw he =>
    exact h.same rfl (fun e he => by rwa [Fifo.sent_pop]) rfl
  | notWritten hw he =>
    exact h.same rfl (fun e he => by rwa [Fifo.sent_pop]) rfl
  | receive => exact h.receive hF _ hg.running
  | readerEnd => exact h.same rfl (.same rfl) rfl
  | clear => exact h.clear hF
  | collect => exact h.same rfl (.same rfl) rfl
  | endNext => exact (h.still (still_endStream _ _ _)).same rfl (.same rfl) rfl
  | readerDone => exact h.same rfl (.same rfl) rfl

/-- As long as no future of an acquire goes with its answer unread, and nothing is released once
the writer has ended, no stream leaks. -/
theorem owned_while_heard {tr : List (Inner × Act)} (h : Lts.Run Step init tr c)
    (hall : Lts.AllGood Heard tr) : Lts.Always NoneLeaked tr c :=
  h.always_of_allGood nofun
    (fun _ _ _ hr hc hg hs => noneLeaked_step hc (filed_reachable hr) hg hs) hall

/-- What the runs below ask for, and the answer they get. -/
def aired : TuneParams := ⟨.isdbT, 521143, none, none⟩

def answer : Envelope := envelope 1 (.acquireResponse ⟨7, "0#0", .known .ts⟩)

def request : Envelope :=
  envelope 1 (.acquireRequest ⟨some (ofTuneParams aired), "", false⟩)

/-- An acquire up to its answer. -/
def runToAnswer : List (Inner × Act) × Inner :=
  let c₁ := init.begin 0 (.acquire ⟨some (ofTuneParams aired), "", false⟩)
  let c₂ := { c₁ with pending := Function.update c₁.pending 1 (some 0) }.goto 0 .sending
  let c₃ := { c₂ with
    requests := c₂.queued (envelope (c₂.call 0).id (c₂.call 0).request.body) }.goto 0 .waiting
  let c₄ := { c₃ with requests := c₃.requests.pop }
  ([(c₄, .receive answer), (c₃, .write request true), (c₂, .send 0), (c₁, .insert 0),
    (init, .acquire 0 aired {})], c₄.receive answer)

theorem run_runToAnswer : Lts.Run Step init runToAnswer.1 runToAnswer.2 :=
  ((((Lts.Run.nil.snoc (.acquire rfl rfl)).snoc (.insert rfl)).snoc (.send rfl rfl)).snoc
    (.write rfl rfl)).snoc (.receive rfl)

/-- An acquire given up on while its data connection is being made. -/
theorem owned_while_heard_given_up : ∃ tr c, Lts.Run Step init tr c ∧ c.took 0 = some 7 ∧
    (c.call 0).stage = .dropped ∧ Lts.Always NoneLeaked tr c := by
  let r : AcquireResponse := ⟨7, "0#0", .known .ts⟩
  let c₄ := runToAnswer.2
  let c₅ := c₄.goto 0 (answered (c₄.call 0).request (.acquireResponse r))
  let c₆ := { c₅ with drops := Function.update c₅.drops r.streamToken (some 0) }.goto 0
    (.registering r)
  let c₇ := c₆.register 0 r
  let c₈ := (c₇.release r.streamToken).goto 0 .dropped
  have h₅ : Step c₄ (.resume 0) c₅ := .resume rfl rfl
  have h₆ : Step c₅ (.keep 0) c₆ := .keep rfl
  have h₇ : Step c₆ (.register 0) c₇ := .register rfl
  have h₈ : Step c₇ (.drop 0) c₈ := .dropOpening rfl
  have hrun := (((run_runToAnswer.snoc h₅).snoc h₆).snoc h₇).snoc h₈
  refine ⟨_, c₈, hrun, rfl, rfl, owned_while_heard hrun ?_⟩
  intro x hx
  simp only [runToAnswer, List.mem_cons, List.not_mem_nil, or_false] at hx
  rcases hx with rfl | rfl | rfl | rfl | rfl | rfl | rfl | rfl | rfl
  all_goals
    refine ⟨fun i hi => ?_, fun _ => rfl⟩
    cases hi

/-- An acquire dropped with its answer in its `oneshot`: no one has the stream 7 any more, and no
one will release it. -/
theorem lost_unread : ∃ c, Lts.Reachable Step init c ∧ ¬ NoneLeaked c := by
  have hrun := run_runToAnswer.reachable.snoc (.dropWaiting (i := 0) rfl)
  refine ⟨_, hrun, fun h => ?_⟩
  rcases h 0 7 rfl with (⟨hl, -⟩ | hh) | hs | ⟨e, he, hb⟩
  · cases hl
  · cases hh
  · cases hs
  · rcases List.mem_singleton.1 he with rfl
    cases hb

/-! ## What is lost otherwise -/

/-- What an acquire has is what the reader took for it. -/
def Known (c : Inner) : Prop :=
  ∀ i t, c.Has i t ∨ (c.call i).stage.streams = some t → c.took i = some t

theorem Known.congr (h : Known c) (ht : c'.took = c.took)
    (hr : ∀ i, (c'.call i).request = (c.call i).request)
    (ho : ∀ i body, (c'.call i).oneshot = .full body → (c.call i).oneshot = .full body)
    (hs : ∀ i, (c'.call i).stage = (c.call i).stage) : Known c' := by
  intro i t hi
  rw [ht]
  refine h i t ?_
  rw [hs] at hi
  refine hi.imp_left fun hi => ?_
  rcases hi with ⟨hl, hreq, response, hfull, htok⟩ | hheld
  · exact .inl ⟨hs i ▸ hl, hr i ▸ hreq, response, ho i _ hfull, htok⟩
  · exact .inr (hs i ▸ hheld)

theorem Known.still (h : Known c) (hs : Still c c') : Known c' :=
  h.congr hs.took hs.request (fun i _ ho => hs.oneshot i ▸ ho) hs.stage

/-- The call `i` goes on to `stage`, with nothing in it that it had not before. -/
theorem Known.goto (h : Known c) {stage : Stage} (ht : d.took = c.took) (hcall : d.call = c.call)
    (hi : ∀ t, (d.goto i stage).Has i t ∨ stage.streams = some t →
      c.Has i t ∨ (c.call i).stage.streams = some t) : Known (d.goto i stage) := by
  intro j t hj
  refine (congrFun ht j).trans (h j t ?_)
  by_cases hji : j = i
  · subst hji
    rw [stage_goto, if_pos rfl] at hj
    exact hi t hj
  · have hsame : (d.goto i stage).call j = c.call j := by
      rw [goto_call, Function.update_of_ne hji, hcall]
    unfold Inner.Has at hj ⊢
    rwa [hsame] at hj

theorem Known.leave (h : Known c) {stage : Stage} (ht : d.took = c.took) (hcall : d.call = c.call)
    (hl : stage.listens = false) (hh : stage.held = none) (hs : stage.streams = none) :
    Known (d.goto i stage) := by
  refine h.goto ht hcall fun t hu => ?_
  rcases hu with hu | hu
  · exact absurd hu (not_has (by rw [stage_goto, if_pos rfl]) hl hh)
  · rw [hs] at hu
    cases hu

/-- An acquire goes on with its `Held`, or hands it over to its stream. -/
theorem Known.hand (h : Known c) {stage stage' : Stage} {u : Token}
    (hi : (c.call i).stage = stage) (hh : stage.held = some u) (hl : stage'.listens = false)
    (hu : stage'.held = some u ∧ stage'.streams = none ∨
      stage'.held = none ∧ stage'.streams = some u)
    (ht : d.took = c.took) (hcall : d.call = c.call) : Known (d.goto i stage') := by
  refine h.goto ht hcall fun t hg => .inl (.inr ?_)
  have hstage : ((d.goto i stage').call i).stage = stage' := by rw [stage_goto, if_pos rfl]
  rw [hi, hh]
  rcases hg with (⟨hl', -⟩ | hg) | hg
  · rw [hstage, hl] at hl'
    cases hl'
  · rw [hstage] at hg
    rcases hu with ⟨hu, -⟩ | ⟨hu, -⟩
    · exact hu.symm.trans hg
    · cases hu.symm.trans hg
  · rcases hu with ⟨-, hu⟩ | ⟨-, hu⟩
    · cases hu.symm.trans hg
    · exact hu.symm.trans hg

theorem Known.listen (h : Known c) {stage : Stage} (hl : (c.call i).stage.listens = true)
    (hh : stage.held = none) (hs : stage.streams = none) (ht : d.took = c.took)
    (hcall : d.call = c.call) : Known (d.goto i stage) := by
  refine h.goto ht hcall fun t hu => ?_
  have hc : (d.goto i stage).call i = { c.call i with stage := stage } := by
    rw [goto_call, Function.update_self, hcall]
  rcases hu with hu | hu
  · unfold Inner.Has at hu
    rw [hc] at hu
    rcases hu with ⟨-, hr, ho⟩ | hu
    · exact .inl (.inl ⟨hl, hr, ho⟩)
    · rw [hh] at hu
      cases hu
  · rw [hs] at hu
    cases hu

theorem held_answered {request : Request} {body : Body} (h : (answered request body).held = some t) :
    request.isAcquire = true ∧ ∃ response, body = .acquireResponse response ∧
      response.streamToken = t := by
  unfold answered at h
  split at h
  · cases h
  split at h
  · cases h
  · next response _ => exact ⟨rfl, response, rfl, Option.some.inj h⟩
  · cases h
  · cases h

theorem streams_answered (request : Request) (body : Body) :
    (answered request body).streams = none := by
  unfold answered
  split
  · rfl
  split <;> rfl

theorem Known.resume (h : Known c) {body : Body} (hi : (c.call i).stage = .waiting)
    (ho : (c.call i).oneshot = .full body) :
    Known (c.goto i (answered (c.call i).request body)) := by
  refine h.goto rfl rfl fun t hu => ?_
  rcases hu with (⟨hl, -⟩ | hu) | hu
  · rw [stage_goto, if_pos rfl, listens_answered] at hl
    cases hl
  · rw [stage_goto, if_pos rfl] at hu
    obtain ⟨hr, response, rfl, rfl⟩ := held_answered hu
    exact .inl (.inl ⟨by rw [hi]; rfl, hr, response, ho, rfl⟩)
  · rw [streams_answered] at hu
    cases hu

theorem Known.begin (h : Known c) (hF : Filed c) (hi : (c.call i).stage = .absent)
    (request : Request) : Known (c.begin i request) := by
  intro j t hj
  rw [begin_took]
  refine h j t ?_
  by_cases hji : j = i
  · subst hji
    have hcall : ((c.begin j request).call j).stage = .inserting ∧
        ((c.begin j request).call j).oneshot = .empty :=
      ⟨by rw [begin_call, Function.update_self], by
        rw [begin_call, Function.update_self]
        exact (hF.fresh j (.inl hi)).1⟩
    rcases hj with (⟨-, -, response, ho, -⟩ | hj) | hj
    · rw [hcall.2] at ho
      cases ho
    · rw [hcall.1] at hj
      cases hj
    · rw [hcall.1] at hj
      cases hj
  · have hsame : (c.begin i request).call j = c.call j := Function.update_of_ne hji ..
    unfold Inner.Has at hj ⊢
    rwa [hsame] at hj

theorem Known.clear (h : Known c) : Known c.clear := by
  have hcall : ∀ j, c.clear.call j =
      if c.pending (c.call j).id = some j then { c.call j with oneshot := .closed }
      else c.call j := fun _ => rfl
  refine h.congr rfl (fun j => ?_) (fun j body hb => ?_) fun j => ?_
  · rw [hcall]
    split <;> rfl
  · rw [hcall] at hb
    split at hb
    · cases hb
    · exact hb
  · rw [hcall]
    split <;> rfl

theorem Known.receive (h : Known c) (hF : Filed c) (e : Envelope) : Known (c.receive e) := by
  rcases receive_cases c e with hs | ⟨i, body, hT⟩
  · exact h.still hs
  -- Before its answer came the call had nothing.
  have hnone : ∀ t, ¬ (c.Has i t ∨ (c.call i).stage.streams = some t) := by
    intro t hi
    have := (h i t hi).symm.trans (hF.entry _ i hT.entry).2.2.1
    cases this
  have hsame : ∀ j, (c.receive e).call j = c.call j → ∀ t,
      (c.receive e).Has j t ∨ ((c.receive e).call j).stage.streams = some t →
        (c.receive e).took j = some t := by
    intro j hj t ht
    unfold Inner.Has at ht
    rw [hj] at ht
    by_cases hji : j = i
    · subst hji
      exact absurd ht (hnone t)
    · exact (hT.took_ne j hji).trans (h j t ht)
  rcases hT.cases with ⟨hl, hd⟩ | ⟨hl, response, hb, hd⟩ | ⟨hl, hb, hd⟩
  · intro j t hj
    have hcall : (c.receive e).call j =
        if j = i then { c.call i with oneshot := .full body } else c.call j := by
      rw [hd]
      exact Function.update_apply ..
    by_cases hji : j = i
    · subst hji
      rw [if_pos rfl] at hcall
      unfold Inner.Has at hj
      rw [hcall] at hj
      rcases hj with (⟨-, hr, response, ho, rfl⟩ | hj) | hj
      · have ha : c.answers e = some (j, response.streamToken) :=
          answers_eq_some.2 ⟨response, hT.frame.trans (congrArg some (Oneshot.full.inj ho)),
            hT.entry, hr, rfl⟩
        simp only [Inner.receive, ha, Function.update_self]
      · exact absurd (.inl (.inr hj)) (hnone t)
      · exact absurd (.inr hj) (hnone t)
    · exact hsame j (hcall.trans (if_neg hji)) t hj
  · have hcall : (c.receive e).call = c.call := by rw [hd]; rfl
    exact fun j => hsame j (congrFun hcall j)
  · have hcall : (c.receive e).call = c.call := by rw [hd]
    exact fun j => hsame j (congrFun hcall j)

theorem known_step {a : Act} (h : Known c) (hF : Filed c) (hs : Step c a c') : Known c' := by
  cases hs with
  | list hi => exact h.begin hF hi _
  | acquire hi => exact h.begin hF hi _
  | signal hi => exact h.begin hF hi _
  | insert hi | send hi => exact h.listen (by rw [hi]; rfl) rfl rfl rfl rfl
  | resume hi ho => exact h.resume hi ho
  | misasked | notSent | resumeClosed | dropWaiting | notOpened | notAttached | dropOpening
  | dropAttaching | dropStream => exact h.leave rfl rfl rfl rfl rfl
  | keep hi | opened hi => exact h.hand hi rfl rfl (.inl ⟨rfl, rfl⟩) rfl rfl
  | attached hi => exact h.hand hi rfl rfl (.inr ⟨rfl, rfl⟩) rfl rfl
  | @register i response hi =>
    unfold Inner.register
    dsimp only
    split
    · exact h.hand hi rfl rfl (.inl ⟨rfl, rfl⟩) rfl rfl
    · exact h.leave rfl rfl rfl rfl rfl
  | read => exact h.still (.setCall rfl rfl rfl rfl)
  | pollEnd => exact h.still (still_pollEnd c _ _)
  | endNext =>
    exact (h.still (still_endStream c _ _)).congr rfl (fun _ => rfl) (fun _ _ ho => ho) fun _ => rfl
  | receive => exact h.receive hF _
  | clear => exact h.clear
  | write | notWritten | readerEnd | collect | readerDone =>
    exact h.congr rfl (fun _ => rfl) (fun _ _ ho => ho) fun _ => rfl

theorem known_reachable (h : Lts.Reachable Step init c) : Known c :=
  h.invariant (by rintro i t ((⟨hl, -⟩ | hh) | hs) <;> contradiction)
    fun _ _ _ hr hc hs => known_step hc (filed_reachable hr) hs

theorem queued_of_ended (hw : c.writer = .ended) (e : Envelope) : c.queued e = c.requests := by
  rw [Inner.queued, hw]

/-- Only a release from before sees to the token of a call that leaves with nothing. -/
theorem released_of_left {stage : Stage} (hr : d.requests = c.requests)
    (hl : stage.listens = false) (hh : stage.held = none) (hs : stage.streams = none)
    (ho : (d.goto i stage).Owned i t) : c.Released t := by
  have hstage : ((d.goto i stage).call i).stage = stage := by rw [stage_goto, if_pos rfl]
  rcases ho with ho | ho | ⟨e, he, hb⟩
  · exact absurd ho (not_has hstage hl hh)
  · rw [hstage, hs] at ho
    cases ho
  · exact ⟨e, hr ▸ he, hb⟩

/-- The token `t`, taken for the call `i`, is seen to by nobody after the step but for a release
from before it. -/
def Lost (c c' : Inner) (i : CallId) (t : Token) : Prop :=
  c'.took i = some t ∧ (c'.Owned i t → c.Released t)

/-- A call that goes with its answer unread takes the token along. -/
theorem lost_leave {stage : Stage} {response : AcquireResponse} (h : Known c)
    (hi : (c.call i).stage.listens = true) (hr : (c.call i).request.isAcquire = true)
    (ho : (c.call i).oneshot = .full (.acquireResponse response)) (hl : stage.listens = false)
    (hh : stage.held = none) (hs : stage.streams = none) :
    Lost c (c.goto i stage) i response.streamToken :=
  ⟨h i _ (.inl (.inl ⟨hi, hr, response, ho, rfl⟩)), released_of_left rfl hl hh hs⟩

/-- One that releases what it has, the writer gone, leaves it to nobody. -/
theorem lost_release {stage : Stage} {e : Envelope} (h : Known c) (hw : c.writer = .ended)
    (hi : (c.call i).stage.held = some t ∨ (c.call i).stage.streams = some t)
    (ht : d.took = c.took) (hr : d.requests = c.queued e) (hl : stage.listens = false)
    (hh : stage.held = none) (hs : stage.streams = none) : Lost c (d.goto i stage) i t :=
  ⟨(congrFun ht i).trans (h i t (hi.imp_left .inr)),
    released_of_left (hr.trans (queued_of_ended hw e)) hl hh hs⟩

/-- Nor is an answer seen to that comes when its acquire is gone, and so is the writer. -/
theorem lost_receive {e : Envelope} (h : Known c) (hF : Filed c) (hw : c.writer = .ended)
    (ha : c.answers e = some (i, t)) (hl : (c.call i).stage.listens = false) :
    Lost c (c.receive e) i t := by
  have htook : (c.receive e).took i = some t := by
    simp only [Inner.receive, ha, Function.update_self]
  obtain ⟨response, hbody, hentry, -, rfl⟩ := answers_eq_some.1 ha
  have hnone := (hF.entry _ i hentry).2.2.1
  refine ⟨htook, fun ho => ?_⟩
  rcases receive_cases c e with hs | ⟨j, body, hT⟩
  · rw [hs.took, hnone] at htook
    cases htook
  obtain rfl : i = j := Option.some.inj (hentry.symm.trans hT.entry)
  obtain rfl : .acquireResponse response = body := Option.some.inj (hbody.symm.trans hT.frame)
  rcases hT.cases with ⟨hl', -⟩ | ⟨-, response', -, hd⟩ | ⟨-, hb, -⟩
  · rw [hl] at hl'
    cases hl'
  · have hcall : (c.receive e).call i = c.call i := by rw [hd]; rfl
    have hreq : (c.receive e).requests = c.requests := by
      rw [hd]
      exact queued_of_ended hw _
    unfold Inner.Owned Inner.Has at ho
    rw [hcall, ← or_assoc] at ho
    rcases ho with ho | ⟨f, hf, hrel⟩
    · cases hnone.symm.trans (h i _ ho)
    · exact ⟨f, hreq ▸ hf, hrel⟩
  · exact absurd rfl (hb response)

/-- A step that ends an acquire with its answer unread, or releases a stream once the writer has
ended, leaks that stream, unless a release of it was queued before. -/
theorem lost_unheard {a : Act} (hc : Lts.Reachable Step init c) (hs : Step c a c')
    (hu : ¬ Heard c a) : ∃ i t, Lost c c' i t := by
  have h := known_reachable hc
  have hF := filed_reachable hc
  by_cases hr : c.releases a ≠ none → c.writer = .running
  -- An acquire leaves that has its answer.
  · obtain ⟨i, hi, hacq, response, ho⟩ : ∃ i, c.leaves a = some i ∧
        (c.call i).request.isAcquire = true ∧
          ∃ response, (c.call i).oneshot = .full (.acquireResponse response) := by
      by_contra hnot
      exact hu ⟨fun i hi hacq response ho => hnot ⟨i, hi, hacq, response, ho⟩, hr⟩
    cases hs with
    | @notSent j hj hw =>
      obtain rfl : j = i := by simpa [Inner.leaves, hw] using hi
      exact ⟨_, _, lost_leave h (by rw [hj]; rfl) hacq ho rfl rfl rfl⟩
    | @dropWaiting j hj =>
      obtain rfl : j = i := by simpa [Inner.leaves, hj] using hi
      exact ⟨_, _, lost_leave h (by rw [hj]; rfl) hacq ho rfl rfl rfl⟩
    | send hj hw => simp [Inner.leaves, hw] at hi
    | dropOpening hj | dropAttaching hj => simp [Inner.leaves, hj] at hi
    | _ => cases hi
  · rw [Classical.not_imp] at hr
    have hw : c.writer = .ended := by
      cases hc : c.writer with
      | running => exact absurd hc hr.2
      | ended => rfl
    have hr := hr.1
    cases hs with
    | dropOpening hi | dropAttaching hi | notOpened hi | notAttached hi =>
      exact ⟨_, _, lost_release h hw (.inl (by rw [hi]; rfl)) rfl rfl rfl rfl rfl⟩
    | dropStream hi =>
      exact ⟨_, _, lost_release h hw (.inr (by rw [hi]; rfl)) rfl rfl rfl rfl rfl⟩
    | @register i response hi =>
      unfold Inner.register
      dsimp only
      split
      · next hf => simp [Inner.releases, hi, hf] at hr
      · exact ⟨_, _, lost_release h hw (.inl (by rw [hi]; rfl)) rfl rfl rfl rfl rfl⟩
    | @receive e hreading =>
      cases ha : c.answers e with
      | none => simp [Inner.releases, ha] at hr
      | some p =>
        cases hl : (c.call p.1).stage.listens with
        | true => simp [Inner.releases, ha, hl] at hr
        | false => exact ⟨_, _, lost_receive h hF hw ha hl⟩
    | dropWaiting hi => simp [Inner.releases, hi, Stage.held] at hr
    | _ => exact absurd rfl hr

end Tunelith.Client
