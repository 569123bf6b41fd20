import Tunelith.Client.Tokens

/-!
# What a stream is the answer to

A call is told apart by the id of its request: no two have the same, the frame that answers it
bears it, and so does what the call gave the writer (`Asking`). So the stream that an acquire
returns is what the frame that answered its request says.
-/

namespace Tunelith.Client

open Tunelith.Client.Inner Proto Lts

variable {c c' : Inner} {a : Act} {i j : CallId} {t : Token} {e : Envelope}

/-! ## How a call goes on -/

/-- The stage is that of an acquire with the answer `r`. -/
def Stage.IsOf (r : AcquireResponse) : Stage → Prop
  | .keeping r' | .registering r' => r' = r
  | .opening r' format | .attaching r' format _ => r' = r ∧ streamFormat r.format = some format
  | .streaming stream => stream.token = r.streamToken ∧ stream.tuner = r.tuner ∧
    streamFormat r.format = some stream.format
  | _ => True

/-- The stage a call goes on to. -/
inductive Call.Goes (C : Call) : Stage → Prop
  | insert (h : C.stage = .inserting) : C.Goes .sending
  | send (h : C.stage = .sending) : C.Goes .waiting
  | resume {body : Body} (h : C.stage = .waiting) (ho : C.oneshot = .full body) :
      C.Goes (answered C.request body)
  | keep {r : AcquireResponse} (h : C.stage = .keeping r) : C.Goes (.registering r)
  | register {r : AcquireResponse} {format : StreamFormat} (h : C.stage = .registering r)
      (hf : streamFormat r.format = some format) : C.Goes (.opening r format)
  | opened {r : AcquireResponse} {format : StreamFormat} {x : DataId}
      (h : C.stage = .opening r format) : C.Goes (.attaching r format x)
  | attached {r : AcquireResponse} {format : StreamFormat} {x : DataId}
      (h : C.stage = .attaching r format x) :
      C.Goes (.streaming ⟨r.streamToken, r.tuner, format, x⟩)
  | leave {s : Stage} (hl : s.listens = false) (ht : s.token = none) (ha : s ≠ .absent) : C.Goes s

/-- An acquire goes on with the answer it has. -/
theorem Call.Goes.isOf {C : Call} {s : Stage} (h : C.Goes s) (ht : s.token = some t) :
    (C.stage.listens = true ∧ (∃ request, C.request = .acquire request) ∧
        ∃ r, C.oneshot = .full (.acquireResponse r) ∧ s.IsOf r) ∨
      (∃ u, C.stage.token = some u) ∧ ∀ r, C.stage.IsOf r → s.IsOf r := by
  cases h with
  | insert | send => cases ht
  | @resume body h ho =>
    obtain ⟨r, rfl, -⟩ := token_answered ht
    cases hr : C.request with
    | acquire request => exact .inl ⟨by rw [h]; rfl, ⟨request, rfl⟩, r, ho, rfl⟩
    | _ =>
      rw [hr] at ht
      cases ht
  | keep h =>
    rw [h]
    exact .inr ⟨⟨_, rfl⟩, fun _ hr => hr⟩
  | register h hf =>
    rw [h]
    refine .inr ⟨⟨_, rfl⟩, fun r hr => ⟨hr, ?_⟩⟩
    rw [← show _ = r from hr]
    exact hf
  | opened h =>
    rw [h]
    exact .inr ⟨⟨_, rfl⟩, fun _ hr => hr⟩
  | attached h =>
    rw [h]
    refine .inr ⟨⟨_, rfl⟩, fun r hr => ?_⟩
    exact ⟨congrArg (·.streamToken) hr.1, congrArg (·.tuner) hr.1, hr.2⟩
  | leave hl hn =>
    rw [hn] at ht
    cases ht

/-- What a call asked and was answered, and where it stands. -/
def Call.core (C : Call) : Request × RequestId × Oneshot × Stage :=
  (C.request, C.id, C.oneshot, C.stage)

/-- The call an action begins. -/
def Act.begins : Act → Option CallId
  | .list i | .acquire i _ _ | .signal i _ => some i
  | _ => none

/-- What a step leaves of the call `i`. -/
inductive Call.Turn (c c' : Inner) (i : CallId) : Act → Call → Prop
  | stay {a : Act} {C : Call} (h : C.core = (c.call i).core) : Call.Turn c c' i a C
  | goes {a : Act} {stage : Stage} (h : (c.call i).Goes stage) :
      Call.Turn c c' i a { c.call i with stage := stage }
  | begin {a : Act} {request : Request} (hi : (c.call i).stage = .absent)
      (ha : a.begins = some i) (hn : c'.nextId = c.nextId + 1)
      (hr : ∀ r, request = .acquire r → ∃ params options, a = .acquire i params options ∧
        acquireRequest params options = .ok r) :
      Call.Turn c c' i a
        { c.call i with request := request, id := c.nextId, stage := .inserting }
  | hand {e : Envelope} {body : Body} (hp : c.pending e.id = some i) (hb : e.body = some body) :
      Call.Turn c c' i (.receive e) { c.call i with oneshot := .full body }
  | clear (hp : c.pending (c.call i).id = some i) :
      Call.Turn c c' i .clear { c.call i with oneshot := .closed }

theorem Still.core (h : Still c c') (i : CallId) : (c'.call i).core = (c.call i).core := by
  unfold Call.core
  rw [h.request, h.id, h.oneshot, h.stage]

theorem call_turn (hs : Step c a c') (i : CallId) : Call.Turn c c' i a (c'.call i) := by
  have hgoto : ∀ {d : Inner} {j stage}, d.call = c.call → (c.call j).Goes stage →
      Call.Turn c c' i a ((d.goto j stage).call i) := by
    intro d j stage hd hj
    rw [goto_call, hd, Function.update_apply]
    split_ifs with h
    · subst h
      exact .goes hj
    · exact .stay rfl
  have hbegin : ∀ {j request}, (c.call j).stage = .absent → a.begins = some j →
      c'.nextId = c.nextId + 1 → (∀ r, request = .acquire r → ∃ params options,
        a = .acquire j params options ∧ acquireRequest params options = .ok r) →
      Call.Turn c c' i a ((c.begin j request).call i) := by
    intro j request hj ha hn hr
    rw [begin_call, Function.update_apply]
    split_ifs with h
    · subst h
      exact .begin hj ha hn hr
    · exact .stay rfl
  have hstill : ∀ {d}, Still c d → Call.Turn c c' i a (d.call i) := fun h => .stay (h.core i)
  cases hs with
  | list hi | signal hi => exact hbegin hi rfl rfl nofun
  | @acquire j params options request hi hr =>
    refine hbegin hi rfl rfl fun r he => ?_
    cases he
    exact ⟨params, options, rfl, hr⟩
  | misasked hi | notSent hi | resumeClosed hi | dropWaiting hi | notOpened hi | notAttached hi
    | dropOpening hi | dropAttaching hi | dropStream hi =>
    exact hgoto rfl (.leave rfl rfl Stage.noConfusion)
  | insert hi => exact hgoto rfl (.insert hi)
  | send hi => exact hgoto rfl (.send hi)
  | resume hi ho => exact hgoto rfl (.resume hi ho)
  | keep hi => exact hgoto rfl (.keep hi)
  | @register j response hi =>
    rcases register_cases c j response with ⟨format, hf, he⟩ | ⟨-, he⟩
    · have hcall := congrArg Inner.call he
      rw [hcall]
      exact hgoto rfl (.register hi hf)
    · have hcall := congrArg Inner.call he
      rw [hcall]
      exact hgoto rfl (.leave rfl rfl Stage.noConfusion)
  | opened hi => exact hgoto rfl (.opened hi)
  | attached hi => exact hgoto rfl (.attached hi)
  | read => exact hstill (.setCall rfl rfl rfl rfl)
  | pollEnd => exact hstill (still_pollEnd _ _ _)
  | @receive e hr =>
    rcases receive_cases c e with hS | ⟨j, body, hT⟩
    · exact hstill hS
    rcases hT.cases with ⟨-, hd⟩ | ⟨-, response, -, hd⟩ | ⟨-, -, hd⟩
    · have hcall : (c.receive e).call i =
          if i = j then { c.call j with oneshot := .full body } else c.call i := by
        rw [hd]
        exact Function.update_apply ..
      rw [hcall]
      split_ifs with h
      · subst h
        exact .hand hT.entry hT.frame
      · exact .stay rfl
    · have hcall : (c.receive e).call i = c.call i := by rw [hd]; rfl
      rw [hcall]
      exact .stay rfl
    · have hcall : (c.receive e).call i = c.call i := by rw [hd]
      rw [hcall]
      exact .stay rfl
  | clear =>
    rw [clear_call]
    split_ifs with hp
    · exact .clear hp
    · exact .stay rfl
  | endNext => exact .stay ((still_endStream c _ _).core i)
  | write | notWritten | readerEnd | collect | readerDone => exact .stay rfl

theorem Call.core_inj {C C' : Call} : C.core = C'.core ↔ C.request = C'.request ∧ C.id = C'.id ∧
    C.oneshot = C'.oneshot ∧ C.stage = C'.stage := by
  simp only [Call.core, Prod.mk.injEq]

/-- A call keeps its id and what it asked, unless it begins. -/
theorem id_turn (hs : Step c a c') (i : CallId) :
    ((c'.call i).id = (c.call i).id ∧ (c'.call i).request = (c.call i).request) ∨
      ((c'.call i).id = c.nextId ∧ a.begins = some i ∧ (c.call i).stage = .absent ∧
        c'.nextId = c.nextId + 1) := by
  have hturn := call_turn hs i
  generalize c'.call i = C at hturn
  cases hturn with
  | stay h =>
    obtain ⟨hr, he, -, -⟩ := Call.core_inj.1 h
    exact .inl ⟨he, hr⟩
  | begin hi ha hn => exact .inr ⟨rfl, ha, hi, hn⟩
  | _ => exact .inl ⟨rfl, rfl⟩

/-! ## What was asked and answered -/

/-- The reader took the frame `e` in the run. -/
def Took (tr : List (Inner × Act)) (e : Envelope) : Prop := ∃ c, (c, .receive e) ∈ tr

/-- The call `i` was begun in the run to acquire a stream. -/
def Called (tr : List (Inner × Act)) (i : CallId) (params : TuneParams)
    (options : AcquireOptions) : Prop := ∃ c, (c, .acquire i params options) ∈ tr

/-- The calls that have begun are numbered, from 1 on. -/
structure Numbered (c : Inner) : Prop where
  nextId : 0 < c.nextId
  lt : ∀ i, (c.call i).id < c.nextId
  fresh : ∀ i, (c.call i).stage = .absent → (c.call i).id = 0
  pos : ∀ i, (c.call i).stage.listens = true → 0 < (c.call i).id
  inj : ∀ i j, 0 < (c.call i).id → (c.call i).id = (c.call j).id → i = j

theorem numbered_init : Numbered init where
  nextId := Nat.one_pos
  lt _ := Nat.one_pos
  fresh _ _ := rfl
  pos _ h := by cases h
  inj _ _ h := absurd h (Nat.lt_irrefl 0)

/-- The calls go by what they were asked in the run, and by the frames it took. -/
structure Asking (tr : List (Inner × Act)) (c : Inner) : Prop where
  called : ∀ i request, (c.call i).request = .acquire request → ∃ params options,
    Called tr i params options ∧ acquireRequest params options = .ok request
  sent : ∀ e ∈ c.requests.sent, ∀ request, e.body = some (.acquireRequest request) →
    ∃ i, (c.call i).id = e.id ∧ 0 < e.id ∧ (c.call i).request = .acquire request
  handed : ∀ i body, (c.call i).oneshot = .full body →
    ∃ e, Took tr e ∧ e.id = (c.call i).id ∧ e.body = some body
  answered : ∀ i t, (c.call i).stage.token = some t →
    0 < (c.call i).id ∧ (∃ request, (c.call i).request = .acquire request) ∧
    ∃ r, (c.call i).oneshot = .full (.acquireResponse r) ∧ (c.call i).stage.IsOf r

theorem asking_init : Asking [] init where
  called _ _ h := by cases h
  sent _ h := absurd h List.not_mem_nil
  handed _ _ h := by cases h
  answered _ _ h := by cases h

theorem nextId_step (hs : Step c a c') : c.nextId ≤ c'.nextId := by
  rcases step_cases hs with hp | ⟨i, request, -, rfl⟩ | ⟨i, -, rfl⟩ | ⟨e, rfl⟩ | rfl
  · exact hp.nextId
  · exact Nat.le_succ _
  · exact Nat.le_refl _
  · rcases receive_cases c e with hS | ⟨j, body, hT⟩
    · exact Nat.le_of_eq hS.nextId.symm
    rcases hT.cases with ⟨-, hd⟩ | ⟨-, response, -, hd⟩ | ⟨-, -, hd⟩ <;> rw [hd]
    · exact Nat.le_refl _
    · exact Nat.le_succ _
  · exact Nat.le_refl _

/-- The frames given to the writer are of calls that ask, or release streams. -/
theorem sent_cases (hs : Step c a c') (he : e ∈ c'.requests.sent) : e ∈ c.requests.sent ∨
    (∃ t, e.body = some (.releaseRequest t)) ∨
    ∃ i, (c.call i).stage = .sending ∧ e = envelope (c.call i).id (c.call i).request.body := by
  have hq : ∀ {d : Inner} {f}, d.requests = c.queued f → e ∈ d.requests.sent →
      e ∈ c.requests.sent ∨ e = f := by
    intro d f hd he
    rw [hd, Inner.queued] at he
    split at he
    · exact (List.mem_append.1 he).imp_right List.mem_singleton.1
    · exact .inl he
  have hrelease : ∀ {d : Inner} {t}, d.requests = (c.release t).requests →
      e ∈ d.requests.sent → e ∈ c.requests.sent ∨ (∃ t, e.body = some (.releaseRequest t)) ∨
      ∃ i, (c.call i).stage = .sending ∧ e = envelope (c.call i).id (c.call i).request.body := by
    intro d t hd he
    refine (hq (f := envelope c.nextId (.releaseRequest t)) hd he).imp_right fun h => .inl ⟨t, ?_⟩
    rw [h]
    rfl
  cases hs with
  | @send i hi => exact (hq rfl he).imp_right fun h => .inr ⟨i, hi, h⟩
  | @register i response hi =>
    rcases register_cases c i response with ⟨format, -, hd⟩ | ⟨-, hd⟩
    · rw [hd] at he
      exact .inl he
    · exact hrelease (t := response.streamToken) (by rw [hd]; rfl) he
  | notOpened | notAttached | dropOpening | dropAttaching | dropStream => exact hrelease rfl he
  | pollEnd =>
    rw [(still_pollEnd _ _ _).requests] at he
    exact .inl he
  | write | notWritten => exact .inl (Fifo.sent_pop c.requests ▸ he)
  | receive =>
    rcases receive_cases c _ with hS | ⟨j, body, hT⟩
    · rw [hS.requests] at he
      exact .inl he
    rcases hT.cases with ⟨-, hd⟩ | ⟨-, response, -, hd⟩ | ⟨-, -, hd⟩
    · rw [hd] at he
      exact .inl he
    · exact hrelease (t := response.streamToken) (by rw [hd]; rfl) he
    · rw [hd] at he
      exact .inl he
  | endNext =>
    have he : e ∈ (c.endStream _ _).requests.sent := he
    rw [(still_endStream _ _ _).requests] at he
    exact .inl he
  | _ => exact .inl he

theorem numbered_step (hN : Numbered c) (hs : Step c a c') : Numbered c' := by
  have hid := id_turn hs
  refine ⟨Nat.lt_of_lt_of_le hN.nextId (nextId_step hs), fun i => ?_, fun i hi => ?_,
    fun i hl => ?_, fun i j hi hij => ?_⟩
  · rcases hid i with ⟨he, -⟩ | ⟨he, -, -, hn⟩ <;> rw [he]
    · exact Nat.lt_of_lt_of_le (hN.lt i) (nextId_step hs)
    · rw [hn]
      exact Nat.lt_succ_self _
  · have hturn := call_turn hs i
    generalize c'.call i = C at hturn hi ⊢
    cases hturn with
    | stay h =>
      obtain ⟨-, he, -, hst⟩ := Call.core_inj.1 h
      rw [he]
      exact hN.fresh i (hst.symm.trans hi)
    | goes h =>
      refine absurd hi ?_
      cases h with
      | resume => exact answered_ne_absent _ _
      | leave hl ht ha => exact ha
      | _ => exact Stage.noConfusion
    | begin => cases hi
    | hand => exact hN.fresh i hi
    | clear => exact hN.fresh i hi
  · have hturn := call_turn hs i
    generalize c'.call i = C at hturn hl ⊢
    cases hturn with
    | stay h =>
      obtain ⟨-, he, -, hst⟩ := Call.core_inj.1 h
      rw [he]
      exact hN.pos i (hst ▸ hl)
    | goes h =>
      refine hN.pos i ?_
      cases h with
      | insert h => rw [h]; rfl
      | send h => rw [h]; rfl
      | resume h =>
        rw [listens_answered] at hl
        cases hl
      | leave hl' => exact absurd hl (by rw [hl']; exact Bool.noConfusion)
      | _ => cases hl
    | begin => exact hN.nextId
    | hand => exact hN.pos i hl
    | clear => exact hN.pos i hl
  · rcases hid i with ⟨he, -⟩ | ⟨he, ha, -, -⟩ <;> rcases hid j with ⟨he', -⟩ | ⟨he', ha', -, -⟩
    · rw [he] at hi hij
      exact hN.inj i j hi (hij.trans he')
    · rw [he, he'] at hij
      exact absurd hij (Nat.ne_of_lt (hN.lt i))
    · rw [he, he'] at hij
      exact absurd hij.symm (Nat.ne_of_lt (hN.lt j))
    · exact Option.some.inj (ha.symm.trans ha')

theorem asking_step {tr : List (Inner × Act)} (hA : Asking tr c) (hN : Numbered c)
    (hF : Filed c) (hs : Step c a c') : Asking ((c, a) :: tr) c' := by
  have htook : ∀ {e}, Took tr e → Took ((c, a) :: tr) e :=
    fun ⟨d, hd⟩ => ⟨d, List.mem_cons_of_mem _ hd⟩
  have hcalled : ∀ {i params options}, Called tr i params options →
      Called ((c, a) :: tr) i params options := fun ⟨d, hd⟩ => ⟨d, List.mem_cons_of_mem _ hd⟩
  refine ⟨fun i request hr => ?_, fun e he request hb => ?_, fun i body ho => ?_,
    fun i t ht => ?_⟩
  · have hturn := call_turn hs i
    generalize c'.call i = C at hturn hr
    have hold : (c.call i).request = .acquire request → ∃ params options,
        Called ((c, a) :: tr) i params options ∧
          acquireRequest params options = .ok request := by
      intro hr
      obtain ⟨params, options, hc, hok⟩ := hA.called i request hr
      exact ⟨params, options, hcalled hc, hok⟩
    cases hturn with
    | stay h => exact hold ((Call.core_inj.1 h).1.symm.trans hr)
    | begin hi ha hn hreq =>
      obtain ⟨params, options, rfl, hok⟩ := hreq request hr
      exact ⟨params, options, ⟨c, List.mem_cons_self⟩, hok⟩
    | _ => exact hold hr
  · rcases sent_cases hs he with he | ⟨t, ht⟩ | ⟨i, hi, rfl⟩
    · obtain ⟨i, hi, hpos, hr⟩ := hA.sent e he request hb
      rcases id_turn hs i with ⟨he, hreq⟩ | ⟨-, -, habs, -⟩
      · exact ⟨i, he.trans hi, hpos, hreq.trans hr⟩
      · rw [← hi, hN.fresh i habs] at hpos
        exact absurd hpos (Nat.lt_irrefl 0)
    · cases ht.symm.trans hb
    · have hpos := hN.pos i (by rw [hi]; rfl)
      have hr : (c.call i).request = .acquire request := by
        cases hreq : (c.call i).request <;> rw [hreq] at hb <;> cases hb
        rfl
      rcases id_turn hs i with ⟨he, hreq⟩ | ⟨-, -, habs, -⟩
      · exact ⟨i, he, hpos, hreq.trans hr⟩
      · cases hi.symm.trans habs
  · have hturn := call_turn hs i
    generalize c'.call i = C at hturn ho ⊢
    have hold : (c.call i).oneshot = .full body →
        ∃ e, Took ((c, a) :: tr) e ∧ e.id = (c.call i).id ∧ e.body = some body := by
      intro ho
      obtain ⟨e, he, hb⟩ := hA.handed i body ho
      exact ⟨e, htook he, hb⟩
    cases hturn with
    | stay h =>
      obtain ⟨-, he, ho', -⟩ := Call.core_inj.1 h
      rw [he]
      exact hold (ho'.symm.trans ho)
    | goes => exact hold ho
    | begin hi =>
      rw [(hF.fresh i (.inl hi)).1] at ho
      cases ho
    | hand hp hb =>
      cases ho
      exact ⟨_, ⟨c, List.mem_cons_self⟩, (hF.entry _ i hp).1.symm, hb⟩
    | clear => cases ho
  · have hturn := call_turn hs i
    generalize c'.call i = C at hturn ht ⊢
    -- A call with an entry has no answer, and so no stream.
    have hentry : ∀ {id t}, c.pending id = some i → (c.call i).stage.token ≠ some t := by
      intro id t hp ht
      obtain ⟨-, -, r, ho, -⟩ := hA.answered i t ht
      rw [(hF.entry id i hp).2.1] at ho
      cases ho
    cases hturn with
    | stay h =>
      obtain ⟨hr, he, ho, hst⟩ := Call.core_inj.1 h
      rw [hr, he, ho, hst]
      exact hA.answered i t (hst ▸ ht)
    | @goes _ stage h =>
      rcases h.isOf ht with ⟨hl, hr⟩ | ⟨⟨u, hu⟩, hkeep⟩
      · exact ⟨hN.pos i hl, hr⟩
      · obtain ⟨hpos, hreq, r, ho, hr⟩ := hA.answered i u hu
        exact ⟨hpos, hreq, r, ho, hkeep r hr⟩
    | begin => cases ht
    | hand hp => exact absurd ht (hentry hp)
    | clear hp => exact absurd ht (hentry hp)

theorem numbered_reachable (h : Reachable Step init c) : Numbered c :=
  h.invariant numbered_init fun _ _ _ _ hN hs => numbered_step hN hs

theorem asking_of_run {tr : List (Inner × Act)} (h : Run Step init tr c) : Asking tr c := by
  induction h with
  | nil => exact asking_init
  | snoc hr hs ih =>
    exact asking_step ih (numbered_reachable hr.reachable) (filed_reachable hr.reachable) hs

/-- What an acquire with a stream asked for, and the frame that answered it. No request was given
to the writer under its id but its own. -/
theorem answer_of_stream {tr : List (Inner × Act)} (h : Run Step init tr c) {stream : Stream}
    (hi : (c.call i).stage = .streaming stream) : ∃ params options request e r,
      Called tr i params options ∧ acquireRequest params options = .ok request ∧
      Took tr e ∧ e.body = some (.acquireResponse r) ∧ stream.token = r.streamToken ∧
      stream.tuner = r.tuner ∧ streamFormat r.format = some stream.format ∧
      ∀ f ∈ c.requests.sent, f.id = e.id → ∀ request', f.body = some (.acquireRequest request') →
        request' = request := by
  have hA := asking_of_run h
  obtain ⟨hpos, ⟨request, hr⟩, r, ho, hof⟩ := hA.answered i stream.token (by rw [hi]; rfl)
  obtain ⟨params, options, hc, hok⟩ := hA.called i request hr
  obtain ⟨e, he, hid, hb⟩ := hA.handed i _ ho
  rw [hi] at hof
  obtain ⟨htoken, htuner, hformat⟩ := hof
  refine ⟨params, options, request, e, r, hc, hok, he, hb, htoken, htuner, hformat,
    fun f hf hfid request' hfb => ?_⟩
  obtain ⟨j, hj, -, hjr⟩ := hA.sent f hf request' hfb
  obtain rfl := (numbered_reachable h.reachable).inj i j hpos ((hj.trans hfid).trans hid).symm
  rw [hr] at hjr
  cases hjr
  rfl

/-! ## What was read -/

theorem read_goto (c : Inner) (i j : CallId) (stage : Stage) :
    ((c.goto j stage).call i).read = (c.call i).read := by
  rw [goto_call, Function.update_apply]
  split_ifs with h
  · rw [h]
  · rfl

/-- A call reads from the stream it has. -/
theorem read_step (hs : Step c a c') (i : CallId) : (c'.call i).read = (c.call i).read ∨
    ∃ data stream, a = .read i data ∧ (c.call i).stage = .streaming stream ∧
      (c'.call i).stage = .streaming stream ∧ (c'.call i).read = (c.call i).read ++ data := by
  have hset : ∀ {d : Inner} {j C}, d.call = c.call → C.read = (c.call j).read →
      ((d.setCall j C).call i).read = (c.call i).read := by
    intro d j C hd hC
    rw [setCall_call, hd, Function.update_apply]
    split_ifs with h
    · rw [h, hC]
    · rfl
  have hend : ∀ t error, ((c.endStream t error).call i).read = (c.call i).read := by
    intro t error
    unfold endStream
    split
    · unfold wake
      split
      · exact hset rfl rfl
      · rfl
    · rfl
  cases hs with
  | @read j stream data hj =>
    by_cases h : i = j
    · subst h
      have hcall : (c.setCall i { c.call i with read := (c.call i).read ++ data }).call i =
          { c.call i with read := (c.call i).read ++ data } := Function.update_self ..
      rw [hcall]
      exact .inr ⟨data, stream, rfl, hj, hj, rfl⟩
    · rw [setCall_call, Function.update_of_ne h]
      exact .inl rfl
  | list | acquire | signal =>
    refine .inl ?_
    rw [begin_call, Function.update_apply]
    split_ifs with h
    · rw [h]
    · rfl
  | register =>
    refine .inl ?_
    unfold Inner.register
    dsimp only
    split <;> exact read_goto ..
  | pollEnd =>
    refine .inl ?_
    unfold Inner.pollEnd
    split
    · exact hset rfl rfl
    · rfl
    · rfl
    · rfl
  | @receive e hr =>
    refine .inl ?_
    refine (?_ : ((c.handle e).call i).read = _)
    unfold handle
    split
    · split
      · exact hset rfl rfl
      · rfl
    · exact hend _ _
    · unfold deliver
      split
      · rfl
      · dsimp only
        split
        · exact hset rfl rfl
        · split <;> rfl
    · rfl
  | clear =>
    rw [clear_call]
    split <;> exact .inl rfl
  | endNext => exact .inl (hend _ _)
  | write | notWritten | readerEnd | collect | readerDone => exact .inl rfl
  | _ => exact .inl (read_goto ..)

/-- The call is neither through nor has its stream. -/
def Stage.isUnderWay : Stage → Bool
  | .streaming _ | .returned _ | .failed _ | .dropped => false
  | _ => true

/-- A call that has a stream had it before, or has just returned it. -/
theorem streaming_step (hs : Step c a c') {stream : Stream}
    (hi : (c'.call i).stage = .streaming stream) :
    (c.call i).stage = .streaming stream ∨ (c.call i).stage.isUnderWay = true := by
  have hturn := call_turn hs i
  generalize c'.call i = C at hturn hi
  cases hturn with
  | stay h => exact .inl ((Call.core_inj.1 h).2.2.2.symm.trans hi)
  | @goes _ stage h =>
    replace hi : stage = .streaming stream := hi
    have ht : stage.token = some stream.token := by rw [hi]; rfl
    refine .inr ?_
    cases h with
    | attached h => rw [h]; rfl
    | resume h => rw [h]; rfl
    | leave hl hn =>
      rw [hn] at ht
      cases ht
    | _ => cases hi
  | begin => cases hi
  | hand => exact .inl hi
  | clear => exact .inl hi

/-- Nothing is read before there is a stream. -/
theorem unread_step (hs : Step c a c') (hread : (c.call i).stage.isUnderWay = true →
    (c.call i).read = []) (hi : (c'.call i).stage.isUnderWay = true) : (c'.call i).read = [] := by
  rcases read_step hs i with he | ⟨data, stream, -, -, hi', -⟩
  · refine he.trans (hread ?_)
    have hturn := call_turn hs i
    generalize c'.call i = C at hturn hi
    cases hturn with
    | stay h => rwa [← (Call.core_inj.1 h).2.2.2]
    | @goes _ stage h =>
      replace hi : stage.isUnderWay = true := hi
      cases h with
      | insert h | send h | resume h | keep h | register h | opened h => rw [h]; rfl
      | attached => cases hi
      | leave hl ht ha =>
        exfalso
        cases stage <;> first
          | exact ha rfl
          | exact Bool.noConfusion hl
          | exact Option.some_ne_none _ ht
          | exact Bool.noConfusion hi
    | begin habs => rw [habs]; rfl
    | hand => exact hi
    | clear => exact hi
  · rw [hi'] at hi
    cases hi

end Tunelith.Client
