import Tunelith.Client.Calls

/-!
# Calls on a connection that is gone

Once the connection has ended the reader clears `pending`, and the calls that wait see their
sender dropped. It does so once. A call that inserts its entry later is only failed if the writer
has ended too, which the writer finds out on a write.

* `none_waits_while_prompt` — as long as no call made after the sweep finds the writer taking
  requests, none waits once both tasks are through.
* `waits_for_good` — a call that does waits for an answer that no one will read.
-/

namespace Tunelith.Client

open Tunelith.Client.Inner Proto

variable {c c' d : Inner} {i : CallId}

/-! ## Waiting for nothing -/

/-- The call `i` waits, and was neither answered nor told that it will not be. -/
def Inner.Unanswered (c : Inner) (i : CallId) : Prop :=
  (c.call i).stage = .waiting ∧ (c.call i).oneshot = .empty

/-- The reader has ended, and the writer has, too, or has nothing left to write. -/
structure Inner.Over (c : Inner) : Prop where
  reader : c.reader = .ended
  writer : c.writer = .ended ∨ c.requests.queue = []

/-- Once the tasks are through, `pending` has no entry of a call that waits, and no call waits. -/
def NoneWaits (c : Inner) : Prop :=
  c.Over → (∀ id i, c.pending id = some i → ¬ c.Unanswered i) ∧ ∀ i, ¬ c.Unanswered i

/-- The action sends no request, of a call that came after the sweep, to a writer that takes it. -/
def Prompt (c : Inner) (a : Act) : Prop :=
  ∀ i, a = .send i → c.reader.swept = true → (c.call i).oneshot = .empty → c.writer = .ended

/-- Before the sweep, and once the writer has ended, any action will do. -/
theorem prompt_of {a : Act} (h : c.reader.swept = false ∨ c.writer = .ended) : Prompt c a := by
  rintro i - hs -
  rcases h with h | h
  · rw [h] at hs
    cases hs
  · exact h

/-! ## After the sweep -/

/-- After the sweep no call waits without an answer. -/
def Swept (c : Inner) : Prop := c.reader.swept = true → ∀ i, ¬ c.Unanswered i

theorem Swept.noneWaits (h : Swept c) : NoneWaits c := by
  intro ho
  have hall := h (by rw [ho.reader]; rfl)
  exact ⟨fun _ i _ => hall i, hall⟩

theorem Swept.same (h : Swept c) (hr : c'.reader.swept = true → c.reader.swept = true)
    (hc : c'.call = c.call) : Swept c' := by
  intro hs i
  unfold Inner.Unanswered
  rw [hc]
  exact h (hr hs) i

theorem Swept.still (h : Swept c) (hs : Still c c') : Swept c' := by
  intro hr i
  unfold Inner.Unanswered
  rw [hs.stage, hs.oneshot]
  exact h (by rwa [hs.reader] at hr) i

/-- The call `i` moves on, and if it waits it has an answer. -/
theorem Swept.goto (h : Swept c) {stage : Stage} (hr : d.reader = c.reader)
    (hc : d.call = c.call)
    (hi : stage = .waiting → c.reader.swept = true → (c.call i).oneshot ≠ .empty) :
    Swept (d.goto i stage) := by
  intro hs j
  have hs' : c.reader.swept = true := by rw [← hr]; exact hs
  rintro ⟨hw, ho⟩
  have hcall : (d.goto i stage).call j =
      if j = i then { c.call i with stage := stage } else c.call j := by
    rw [goto_call, hc]
    exact Function.update_apply ..
  rw [hcall] at hw ho
  split_ifs at hw ho with hj
  · exact hi hw hs' ho
  · exact h hs' j ⟨hw, ho⟩

theorem Swept.clear (hF : Filed c) : Swept c.clear := by
  rintro - i ⟨hw, ho⟩
  have hcall : c.clear.call i =
      if c.pending (c.call i).id = some i then { c.call i with oneshot := .closed }
      else c.call i := rfl
  rw [hcall] at hw ho
  split_ifs at hw ho with hp
  exact hp (hF.listed i (.inr hw) ho)

theorem Swept.begin (h : Swept c) (request : Request) : Swept (c.begin i request) := by
  rintro hs j ⟨hw, ho⟩
  have hcall : (c.begin i request).call j =
      if j = i then { c.call i with request := request, id := c.nextId, stage := .inserting }
      else c.call j := Function.update_apply ..
  rw [hcall] at hw ho
  split_ifs at hw ho
  exact h hs j ⟨hw, ho⟩

theorem swept_init : Swept init := fun h => absurd h (by decide)

theorem answered_ne_waiting (request : Request) (body : Body) :
    answered request body ≠ .waiting := by
  intro h
  have := listens_answered request body
  rw [h] at this
  cases this

theorem swept_step {a : Act} (h : Swept c) (hF : Filed c) (hg : Prompt c a) (hs : Step c a c') :
    Swept c' := by
  cases hs with
  | list | acquire | signal => exact h.begin _
  | @send i hi hw =>
    refine h.goto rfl rfl fun _ hr ho => ?_
    rw [hg i rfl hr ho] at hw
    cases hw
  | resume => exact h.goto rfl rfl fun hw => absurd hw (answered_ne_waiting _ _)
  | misasked | insert | notSent | resumeClosed | dropWaiting | keep | opened | notOpened
    | attached | notAttached | dropOpening | dropAttaching | dropStream =>
    exact h.goto rfl rfl nofun
  | register =>
    unfold Inner.register
    dsimp only
    split
    · exact h.goto rfl rfl nofun
    · exact h.goto rfl rfl nofun
  | read => exact h.still (.setCall rfl rfl rfl rfl)
  | pollEnd => exact h.still (still_pollEnd _ _ _)
  | write | notWritten => exact h.same id rfl
  | @receive e hr =>
    -- The reader has not come to its sweep.
    intro hs
    have : (c.receive e).reader = c.reader := by
      rcases receive_cases c e with hs | ⟨i, body, hT⟩
      · exact hs.reader
      · rcases hT.cases with ⟨-, hd⟩ | ⟨-, _, -, hd⟩ | ⟨-, -, hd⟩ <;> rw [hd] <;> rfl
    rw [this, hr] at hs
    cases hs
  | readerEnd => exact nofun
  | clear => exact .clear hF
  | collect hr => exact h.same (fun _ => by rw [hr]; rfl) rfl
  | endNext hr =>
    exact (h.still (still_endStream _ _ _)).same
      (fun _ => by rw [(still_endStream _ _ _).reader, hr]; rfl) rfl
  | readerDone hr => exact h.same (fun _ => by rw [hr]; rfl) rfl

/-- As long as no call made after the sweep finds the writer taking requests, no call waits once
both tasks are through. -/
theorem none_waits_while_prompt {tr : List (Inner × Act)} (h : Lts.Run Step init tr c)
    (hall : Lts.AllGood Prompt tr) : Lts.Always NoneWaits tr c := by
  obtain ⟨hc, htr⟩ := h.always_of_allGood (P := Swept) swept_init
    (fun _ _ _ hr hc hg hs => swept_step hc (filed_reachable hr) hg hs) hall
  exact ⟨hc.noneWaits, fun x hx => (htr x hx).noneWaits⟩

/-- `list` up to `rx.await`, with the writer taking its request. -/
def asked (c : Inner) (i : CallId) : List (Inner × Act) × Inner :=
  let c₁ := c.begin i .list
  let c₂ := { c₁ with pending := Function.update c₁.pending (c₁.call i).id (some i) }.goto i
    .sending
  let c₃ := { c₂ with
    requests := c₂.queued (envelope (c₂.call i).id (c₂.call i).request.body) }.goto i .waiting
  ([(c₂, .send i), (c₁, .insert i), (c, .list i)], c₃)

theorem run_asked {tr : List (Inner × Act)} (h : Lts.Run Step init tr c)
    (hi : (c.call i).stage = .absent) (hw : c.writer = .running) :
    Lts.Run Step init ((asked c i).1 ++ tr) (asked c i).2 :=
  ((h.snoc (.list hi)).snoc (.insert (by simp [Inner.begin]))).snoc
    (.send (by simp [Inner.begin]) hw)

/-- A `list` that is answered. -/
def runToAnswered : List (Inner × Act) × Inner :=
  let c₁ := (asked init 0).2
  let c₂ := { c₁ with requests := c₁.requests.pop }
  let c₃ := c₂.receive (envelope 1 (.listResponse []))
  ((c₃, .resume 0) :: (c₂, .receive (envelope 1 (.listResponse []))) ::
      (c₁, .write (envelope 1 .listRequest) true) :: (asked init 0).1,
    c₃.goto 0 (answered (c₃.call 0).request (.listResponse [])))

theorem run_runToAnswered : Lts.Run Step init runToAnswered.1 runToAnswered.2 :=
  (((run_asked .nil rfl rfl).snoc (.write rfl rfl)).snoc (.receive rfl)).snoc (.resume rfl rfl)

/-- Then one whose request the writer fails to write. -/
def runToFailed : List (Inner × Act) × Inner :=
  let c := (asked runToAnswered.2 1).2
  ((c, .write (envelope 2 .listRequest) false) ::
      ((asked runToAnswered.2 1).1 ++ runToAnswered.1),
    { c with requests := c.requests.pop, writer := .ended })

theorem run_runToFailed : Lts.Run Step init runToFailed.1 runToFailed.2 :=
  (run_asked run_runToAnswered rfl rfl).snoc (.notWritten rfl rfl)

/-- The connection ends and the sweep fails the second call; a third one finds the writer gone. -/
def runToOver : List (Inner × Act) × Inner :=
  let c₁ := runToFailed.2
  let c₂ : Inner := { c₁ with reader := .clearing }
  let c₃ := c₂.clear
  let c₄ := c₃.goto 1 (.failed closed)
  let c₅ : Inner := { c₄ with reader := .ending [] }
  let c₆ : Inner := { c₅ with reader := .ended }
  let c₇ := c₆.begin 2 .list
  let c₈ := { c₇ with pending := Function.update c₇.pending (c₇.call 2).id (some 2) }.goto 2
    .sending
  ((c₈, .send 2) :: (c₇, .insert 2) :: (c₆, .list 2) :: (c₅, .readerDone) :: (c₄, .collect []) ::
    (c₃, .resume 1) :: (c₂, .clear) :: (c₁, .readerEnd) :: runToFailed.1,
    c₈.goto 2 (.failed closed))

theorem run_runToOver : Lts.Run Step init runToOver.1 runToOver.2 :=
  (((((((run_runToFailed.snoc (.readerEnd rfl)).snoc (.clear rfl)).snoc
    (.resumeClosed rfl rfl)).snoc
    (.collect rfl fun _ => ⟨fun h => absurd h List.not_mem_nil, fun h => absurd rfl h⟩)).snoc
    (.readerDone rfl)).snoc (.list rfl)).snoc (.insert rfl)).snoc (.notSent rfl rfl)

/-- Every call answered or failed: one before the end, one by the sweep, and one after it. -/
theorem none_waits_while_prompt_ended : ∃ tr c, Lts.Run Step init tr c ∧ c.Over ∧
    (c.call 0).stage = .returned (.listResponse []) ∧ (c.call 1).stage = .failed closed ∧
    (c.call 2).stage = .failed closed ∧ Lts.Always NoneWaits tr c := by
  refine ⟨_, _, run_runToOver, ⟨rfl, .inl rfl⟩, rfl, rfl, rfl,
    none_waits_while_prompt run_runToOver ?_⟩
  intro x hx
  refine prompt_of ?_
  simp only [runToOver, runToFailed, runToAnswered, asked, List.mem_cons, List.mem_append,
    List.not_mem_nil, or_false] at hx
  rcases hx with rfl | rfl | rfl | rfl | rfl | rfl | rfl | rfl | rfl | (rfl | rfl | rfl) | rfl |
    rfl | rfl | rfl | rfl | rfl
  all_goals first | exact .inl rfl | exact .inr rfl

/-- A client whose connection ends before it asks for anything. -/
def runToEnd : List (Inner × Act) × Inner :=
  let c₁ : Inner := { init with reader := .clearing }
  let c₂ := c₁.clear
  let c₃ : Inner := { c₂ with reader := .ending [] }
  ([(c₃, .readerDone), (c₂, .collect []), (c₁, .clear), (init, .readerEnd)],
    { c₃ with reader := .ended })

theorem run_runToEnd : Lts.Run Step init runToEnd.1 runToEnd.2 :=
  (((Lts.Run.nil.snoc (.readerEnd rfl)).snoc (.clear rfl)).snoc
    (.collect rfl fun t => by simp [init])).snoc (.readerDone rfl)

/-- A `list` after the sweep, whose request the writer then fails to write: it waits for good. -/
theorem waits_for_good : ∃ c, Lts.Reachable Step init c ∧ c.writer = .ended ∧ ¬ NoneWaits c := by
  have hrun := (run_asked (i := 0) run_runToEnd rfl rfl).reachable.snoc (.notWritten rfl rfl)
  refine ⟨_, hrun, rfl, fun h => ?_⟩
  exact (h ⟨rfl, .inl rfl⟩).2 0 ⟨rfl, rfl⟩

end Tunelith.Client
