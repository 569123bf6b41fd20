import Mathlib.Tactic.SplitIfs
import Tunelith.Px4.Hub

/-!
# What the hub's `running` says

`running` is set by `attach`, and cleared by a receiver that ends and by `abort`. It is to say
that one receiver runs, or that one call of `stream` is about to start it.

* `Reception` — the reception as the tuners of a bridge may think of it: off, about to be
  started by one call, or on with one receiver. It may also be lost, `running` being set with no
  one left to clear it.
* `Shows.step` — the bridge simulates it, and loses the reception exactly when it drops a future
  of `stream` that was told to start it. The error path of `stream` clears `running` through
  `abort`; a future that is dropped takes no path at all.
* `truthful_iff_seen_through` — so `running` is right all along a run exactly when no such
  future is dropped.
-/

namespace Tunelith.Px4

/-! ## What is to hold -/

namespace Bridge

/-- The receiver `r` has not decided to end. -/
def Receiving (b : Bridge) (r : ReceiverId) : Prop := (b.receiver r).runs = true

/-- The call `i` was told to start the reception, and is still to do it. -/
def Starting (b : Bridge) (i : CallId) : Prop := (b.call i).starts = true

end Bridge

open Bridge

/-- `running` says what it is to say. -/
structure Truthful (b : Bridge) : Prop where
  running_iff : b.hub.running = true ↔ (∃! r, b.Receiving r) ∨ ∃! i, b.Starting i
  one : ∀ r r', b.Receiving r → b.Receiving r' → r = r'
  apart : ∀ r i, b.Receiving r → ¬ b.Starting i
  /-- Who takes the lock and is told not to start finds a receiver running. -/
  answer : b.holder = none → ∀ slot k, (b.hub.attach slot k).2 = false → ∃ r, b.Receiving r

/-- The action drops no future that is to start the reception. -/
def SeenThrough (b : Bridge) (a : Act) : Prop := ∀ i, a = .drop i → ¬ b.Starting i

/-! ## The reception -/

/-- Who sees to the reception of a bridge. -/
inductive Reception
  | idle
  | starting (i : CallId)
  | receiving (r : ReceiverId)
  /-- No one, though it is taken to be on. -/
  | lost
deriving DecidableEq, Repr

/-- How the reception goes on. Nothing leads out of `lost`. -/
inductive Reception.Next : Reception → Reception → Prop
  | stay (q : Reception) : Next q q
  | attach (i : CallId) : Next .idle (.starting i)
  | start (i : CallId) (r : ReceiverId) : Next (.starting i) (.receiving r)
  | giveUp (i : CallId) : Next (.starting i) .idle
  | stop (r : ReceiverId) : Next (.receiving r) .idle
  | drop (i : CallId) : Next (.starting i) .lost

/-- The reception of `b` is `q`. -/
structure Shows (b : Bridge) (q : Reception) : Prop where
  running : b.hub.running = true ↔ q ≠ .idle
  receiving : ∀ r, b.Receiving r ↔ q = .receiving r
  starting : ∀ i, b.Starting i ↔ q = .starting i

/-- Only one who has the lock is past taking it. -/
def Held (b : Bridge) : Prop := ∀ i, (b.call i).holds = true → b.holder = some (.call i)

theorem shows_init (tagged : Bool) : Shows (init tagged) .idle where
  running := by simp [init, Hub.new]
  receiving r := by simp [Receiving, init, Receiver.runs]
  starting i := by simp [Starting, init, Call.starts]

theorem held_init (tagged : Bool) : Held (init tagged) := nofun

theorem Call.holds_of_starts {c : Call} (h : c.starts = true) : c.holds = true := by
  cases c with
  | purging | capturing => rfl
  | absent | queued | done => cases h

/-- A bridge whose reception is not lost tells the truth about it. -/
theorem Shows.truthful_iff {b : Bridge} {q : Reception} (h : Shows b q) (hb : Held b) :
    Truthful b ↔ q ≠ .lost := by
  have hone : ∀ r r', b.Receiving r → b.Receiving r' → r = r' := by
    intro r r' hr hr'
    exact Reception.receiving.inj (((h.receiving r).1 hr).symm.trans ((h.receiving r').1 hr'))
  have hone' : ∀ i i', b.Starting i → b.Starting i' → i = i' := by
    intro i i' hi hi'
    exact Reception.starting.inj (((h.starting i).1 hi).symm.trans ((h.starting i').1 hi'))
  constructor
  · rintro ht rfl
    rcases ht.running_iff.1 (h.running.2 nofun) with ⟨r, hr, -⟩ | ⟨i, hi, -⟩
    · exact Reception.noConfusion ((h.receiving r).1 hr)
    · exact Reception.noConfusion ((h.starting i).1 hi)
  intro hq
  -- Someone sees to a reception that is neither off nor lost.
  have hsome : b.hub.running = true → (∃ r, b.Receiving r) ∨ ∃ i, b.Starting i := by
    intro hrun
    cases q with
    | idle => exact absurd rfl (h.running.1 hrun)
    | starting i => exact .inr ⟨i, (h.starting i).2 rfl⟩
    | receiving r => exact .inl ⟨r, (h.receiving r).2 rfl⟩
    | lost => exact absurd rfl hq
  refine ⟨⟨fun hrun => ?_, ?_⟩, hone, ?_, ?_⟩
  · rcases hsome hrun with ⟨r, hr⟩ | ⟨i, hi⟩
    · exact .inl ⟨r, hr, fun r' hr' => hone r' r hr' hr⟩
    · exact .inr ⟨i, hi, fun i' hi' => hone' i' i hi' hi⟩
  · rintro (⟨r, hr, -⟩ | ⟨i, hi, -⟩)
    · rw [h.running, (h.receiving r).1 hr]
      nofun
    · rw [h.running, (h.starting i).1 hi]
      nofun
  · intro r i hr hi
    exact Reception.noConfusion (((h.receiving r).1 hr).symm.trans ((h.starting i).1 hi))
  · intro hfree slot k hanswer
    rcases hsome (by simpa [Hub.attach] using hanswer) with hr | ⟨i, hi⟩
    · exact hr
    -- A call that is to start the reception has the lock.
    · have := hb i (Call.holds_of_starts hi)
      rw [hfree] at this
      cases this

/-! ## What delivering leaves alone -/

/-- Apart from the channels and the senders, `b'` is as `b`. -/
structure SameTasks (b b' : Bridge) : Prop where
  running : b'.hub.running = b.hub.running
  holder : b'.holder = b.holder
  call : b'.call = b.call
  receiver : b'.receiver = b.receiver

theorem SameTasks.refl (b : Bridge) : SameTasks b b := ⟨rfl, rfl, rfl, rfl⟩

theorem SameTasks.trans {b b' b'' : Bridge} (h : SameTasks b b') (h' : SameTasks b' b'') :
    SameTasks b b'' :=
  ⟨h'.running.trans h.running, h'.holder.trans h.holder, h'.call.trans h.call,
    h'.receiver.trans h.receiver⟩

theorem sameTasks_deliver (b : Bridge) (slot : Slot) (packets : List UInt8) :
    SameTasks b (b.deliver slot packets) := by
  unfold deliver
  split
  · exact .refl b
  split_ifs
  · exact .refl b
  split
  · exact ⟨rfl, rfl, rfl, rfl⟩
  · exact .refl b
  · exact ⟨rfl, rfl, rfl, rfl⟩

theorem sameTasks_foldl (f : Slot → List UInt8) (slots : List Slot) (b : Bridge) :
    SameTasks b (slots.foldl (fun b slot => b.deliver slot (f slot)) b) := by
  induction slots generalizing b with
  | nil => exact .refl b
  | cons slot slots ih => exact (sameTasks_deliver b slot (f slot)).trans (ih _)

/-- What a completed transfer does to the tasks: the receiver goes on, or it ends and says so. -/
theorem receive_cases (b : Bridge) (r : ReceiverId) (carry data : List UInt8) :
    ∃ b', SameTasks b b' ∧
      ((∃ carry', b.receive r carry data = b'.setReceiver r (.receiving carry')) ∨
        b.receive r carry data =
          { b' with hub := { b'.hub with running := false } }.setReceiver r .done) := by
  unfold receive
  refine ⟨_, sameTasks_foldl (packetsOf (demux b.hub.tagged carry data).1) (List.finRange 5) b, ?_⟩
  dsimp only
  split_ifs
  · exact .inr rfl
  · exact .inl ⟨_, rfl⟩

/-! ## How the tasks move -/

theorem starting_update {b b' : Bridge} {i : CallId} {c : Call}
    (hcall : b'.call = Function.update b.call i c) (j : CallId) :
    b'.Starting j ↔ (j = i ∧ c.starts = true) ∨ (j ≠ i ∧ b.Starting j) := by
  rw [Starting, hcall, Function.update_apply]
  split_ifs with hj
  · simp [hj]
  · simp [hj, Starting]

theorem receiving_update {b b' : Bridge} {r : ReceiverId} {R : Receiver}
    (hrecv : b'.receiver = Function.update b.receiver r R) (s : ReceiverId) :
    b'.Receiving s ↔ (s = r ∧ R.runs = true) ∨ (s ≠ r ∧ b.Receiving s) := by
  rw [Receiving, hrecv, Function.update_apply]
  split_ifs with hs
  · simp [hs]
  · simp [hs, Receiving]

/-- Nothing that matters to the reception has changed. -/
theorem Shows.of_eq {b b' : Bridge} {q : Reception} (h : Shows b q)
    (hrun : b'.hub.running = b.hub.running) (hcall : ∀ i, b'.Starting i ↔ b.Starting i)
    (hrecv : ∀ r, b'.Receiving r ↔ b.Receiving r) : Shows b' q where
  running := by rw [hrun, h.running]
  receiving r := (hrecv r).trans (h.receiving r)
  starting i := (hcall i).trans (h.starting i)

theorem Shows.of_sameTasks {b b' : Bridge} {q : Reception} (h : Shows b q)
    (hs : SameTasks b b') : Shows b' q :=
  h.of_eq hs.running (fun i => by rw [Starting, hs.call, Starting])
    fun r => by rw [Receiving, hs.receiver, Receiving]

/-- A call moves on, no nearer to starting the reception and no farther from it. -/
theorem Shows.of_call {b b' : Bridge} {q : Reception} {i : CallId} {c : Call} (h : Shows b q)
    (hrun : b'.hub.running = b.hub.running) (hcall : b'.call = Function.update b.call i c)
    (hc : c.starts = (b.call i).starts) (hrecv : b'.receiver = b.receiver) : Shows b' q := by
  refine h.of_eq hrun (fun j => ?_) (fun r => by rw [Receiving, hrecv, Receiving])
  rw [starting_update hcall, hc, ← Starting]
  by_cases hj : j = i
  · simp [hj]
  · simp [hj]

/-- The call that was to start the reception leaves, `running` as `q` has it. -/
theorem Shows.leave {b b' : Bridge} {i : CallId} {q : Reception} (h : Shows b (.starting i))
    (hrun : b'.hub.running = true ↔ q ≠ .idle) (hcall : b'.call = Function.update b.call i .done)
    (hrecv : b'.receiver = b.receiver) (hq : q = .idle ∨ q = .lost) : Shows b' q where
  running := hrun
  receiving r := by
    rw [Receiving, hrecv, ← Receiving, h.receiving]
    grind
  starting j := by
    rw [starting_update hcall, h.starting, Call.starts]
    · grind
    all_goals nofun

/-- The receiver ends, and says so. -/
theorem Shows.stop {b b' : Bridge} {r : ReceiverId} (h : Shows b (.receiving r))
    (hrun : b'.hub.running = false) (hcall : b'.call = b.call)
    (hrecv : b'.receiver = Function.update b.receiver r .done) : Shows b' .idle where
  running := by simp [hrun]
  receiving s := by
    rw [receiving_update hrecv, h.receiving, Receiver.runs]
    · grind
    · nofun
  starting i := by
    rw [Starting, hcall, ← Starting, h.starting]
    grind

/-! ## What each step does to the reception -/

theorem shows_fail {b : Bridge} {q : Reception} {i : CallId} {slot : Slot} {k : ChanId}
    {start : Bool} (h : Shows b q) (hi : (b.call i).starts = start) :
    ∃ q', Shows (b.fail i slot k start) q' ∧ q.Next q' ∧ (q' = .lost ↔ q = .lost) := by
  cases start with
  | true =>
    obtain rfl := (h.starting i).1 hi
    exact ⟨.idle, h.leave (by simp [fail]) rfl rfl (.inl rfl), .giveUp i, by simp⟩
  | false => exact ⟨q, h.of_call rfl rfl hi.symm rfl, .stay q, Iff.rfl⟩

theorem shows_attach {b : Bridge} {q : Reception} {i : CallId} {slot : Slot} {k : ChanId}
    (h : Shows b q) (hi : b.call i = .queued slot) :
    ∃ q', Shows (b.attach i slot k) q' ∧ q.Next q' ∧ (q' = .lost ↔ q = .lost) := by
  cases hrun : b.hub.running with
  | true =>
    refine ⟨q, h.of_call (by simp [attach, Hub.attach, hrun]) rfl ?_ rfl, .stay q, Iff.rfl⟩
    simp [hrun, hi, Call.starts]
  | false =>
    obtain rfl : q = .idle := by
      by_contra hq
      rw [h.running.2 hq] at hrun
      cases hrun
    refine ⟨.starting i, ⟨by simp [attach, Hub.attach], fun r => ?_, fun j => ?_⟩, .attach i,
      by simp⟩
    · have := h.receiving r
      simpa [Receiving, attach] using this
    · have hcall : (b.attach i slot k).call = Function.update b.call i (.purging slot k) := by
        simp [attach, Hub.attach, hrun]
      rw [starting_update hcall, h.starting, Call.starts]
      grind

theorem shows_captured {b : Bridge} {q : Reception} {i : CallId} {slot : Slot} {k : ChanId}
    {start : Bool} {queue : Except Error ReceiverId} (h : Shows b q)
    (hi : b.call i = .capturing slot k start) :
    ∃ q', Shows (b.captured i slot k start queue) q' ∧ q.Next q' ∧ (q' = .lost ↔ q = .lost) := by
  have hs : (b.call i).starts = start := by rw [hi, Call.starts]
  cases start with
  | false => exact ⟨q, h.of_call rfl rfl hs.symm rfl, .stay q, Iff.rfl⟩
  | true =>
    cases queue with
    | error e => exact shows_fail h hs
    | ok r =>
      obtain rfl := (h.starting i).1 hs
      refine ⟨.receiving r, ⟨?_, fun r' => ?_, fun j => ?_⟩, .start i r, by simp⟩
      · simpa [captured] using h.running
      · rw [receiving_update (R := .receiving []) (r := r) rfl, h.receiving, Receiver.runs]
        grind
      · rw [starting_update (b := b) (i := i) (c := .done) rfl, h.starting, Call.starts]
        · grind
        all_goals nofun

theorem shows_receive {b : Bridge} {q : Reception} {r : ReceiverId} {carry data : List UInt8}
    (h : Shows b q) (hr : b.receiver r = .receiving carry) :
    ∃ q', Shows (b.receive r carry data) q' ∧ q.Next q' ∧ (q' = .lost ↔ q = .lost) := by
  have hrr : b.Receiving r := by rw [Receiving, hr, Receiver.runs]
  obtain rfl := (h.receiving r).1 hrr
  obtain ⟨b', hs, ⟨carry', he⟩ | he⟩ := receive_cases b r carry data
  · have hb' := h.of_sameTasks hs
    refine ⟨_, hb'.of_eq (by rw [he]; rfl) (fun i => by rw [he]; rfl) (fun r' => ?_), .stay _,
      Iff.rfl⟩
    rw [he, receiving_update (r := r) (R := .receiving carry') rfl, hb'.receiving, Receiver.runs]
    grind
  · rw [he]
    exact ⟨.idle, (h.of_sameTasks hs).stop rfl rfl rfl, .stop r, by simp⟩

theorem shows_receiveFailed {b : Bridge} {q : Reception} {r : ReceiverId} {carry : List UInt8}
    (h : Shows b q) (hr : b.receiver r = .receiving carry) :
    ∃ q', Shows (b.receiveFailed r) q' ∧ q.Next q' ∧ (q' = .lost ↔ q = .lost) := by
  have hrr : b.Receiving r := by rw [Receiving, hr, Receiver.runs]
  obtain rfl := (h.receiving r).1 hrr
  exact ⟨.idle, h.stop rfl rfl rfl, .stop r, by simp⟩

/-- A future is dropped where it stands: the reception is lost if it was to be started there. -/
theorem shows_drop {b : Bridge} {q : Reception} {i : CallId} (h : Shows b q) :
    ∃ q', Shows (b.drop i) q' ∧ q.Next q' ∧ (q' = .lost ↔ q = .lost ∨ b.Starting i) := by
  have hdone : ∀ b' : Bridge, b'.hub = b.hub → b'.call = Function.update b.call i .done →
      b'.receiver = b.receiver →
      ∃ q', Shows b' q' ∧ q.Next q' ∧ (q' = .lost ↔ q = .lost ∨ b.Starting i) := by
    intro b' hhub hcall hrecv
    by_cases hs : b.Starting i
    · obtain rfl := (h.starting i).1 hs
      refine ⟨.lost, h.leave ?_ hcall hrecv (.inr rfl), .drop i, by simp [hs]⟩
      rw [hhub, h.running]
      simp
    · refine ⟨q, h.of_call (by rw [hhub]) hcall ?_ hrecv, .stay q, by simp [hs]⟩
      rw [Starting, Bool.not_eq_true] at hs
      rw [hs, Call.starts]
      all_goals nofun
  unfold drop
  split
  · exact hdone _ rfl rfl rfl
  · exact hdone _ rfl rfl rfl
  · exact hdone _ rfl rfl rfl

/-- The bridge goes through the reception's states, and loses it exactly when it drops a future
that was to start it. -/
theorem Shows.step {b b' : Bridge} {a : Act} {q : Reception} (h : Shows b q)
    (hs : Step b a b') :
    ∃ q', Shows b' q' ∧ q.Next q' ∧ (q' = .lost ↔ q = .lost ∨ ¬ SeenThrough b a) := by
  -- Only `drop` can fail to see a call through.
  have hseen : ∀ {b'}, (∀ i, a ≠ .drop i) →
      (∃ q', Shows b' q' ∧ q.Next q' ∧ (q' = .lost ↔ q = .lost)) →
      ∃ q', Shows b' q' ∧ q.Next q' ∧ (q' = .lost ↔ q = .lost ∨ ¬ SeenThrough b a) := by
    rintro b' ha ⟨q', hq, hn, hl⟩
    have : SeenThrough b a := fun i hi => absurd hi (ha i)
    exact ⟨q', hq, hn, by rw [hl]; simp [this]⟩
  have hstay : ∀ {b'}, Shows b' q →
      ∃ q', Shows b' q' ∧ q.Next q' ∧ (q' = .lost ↔ q = .lost) :=
    fun hq => ⟨q, hq, .stay q, Iff.rfl⟩
  cases hs with
  | @drop i _ =>
    obtain ⟨q', hq, hn, hl⟩ := shows_drop (i := i) h
    refine ⟨q', hq, hn, hl.trans (or_congr_right ?_)⟩
    simp [SeenThrough]
  | stream hi => exact hseen nofun (hstay (h.of_call rfl rfl (by rw [hi]; rfl) rfl))
  | attach hi => exact hseen nofun (shows_attach h hi)
  | purged hi => exact hseen nofun (hstay (h.of_call rfl rfl (by rw [hi]; rfl) rfl))
  | notPurged hi => exact hseen nofun (shows_fail h (by rw [hi]; rfl))
  | captured hi hr => exact hseen nofun (shows_captured h hi)
  | notCaptured hi => exact hseen nofun (shows_fail h (by rw [hi]; rfl))
  | release => exact hseen nofun (hstay (h.of_eq rfl (fun _ => Iff.rfl) fun _ => Iff.rfl))
  | lock => exact hseen nofun (hstay (h.of_eq rfl (fun _ => Iff.rfl) fun _ => Iff.rfl))
  | unlock => exact hseen nofun (hstay (h.of_eq rfl (fun _ => Iff.rfl) fun _ => Iff.rfl))
  | transfer hr => exact hseen nofun (shows_receive h hr)
  | transferFailed hr => exact hseen nofun (shows_receiveFailed h hr)
  | recv => exact hseen nofun (hstay (h.of_eq rfl (fun _ => Iff.rfl) fun _ => Iff.rfl))
  | dropStream => exact hseen nofun (hstay (h.of_eq rfl (fun _ => Iff.rfl) fun _ => Iff.rfl))

/-! ## The lock -/

/-- A call that has the lock is the only one past taking it. -/
theorem Held.eq {b : Bridge} (h : Held b) {i j : CallId} (hi : (b.call i).holds = true)
    (hj : (b.call j).holds = true) : i = j :=
  Holder.call.inj (Option.some.inj ((h i hi).symm.trans (h j hj)))

theorem Held.none {b : Bridge} (h : Held b) (hl : ∀ i, b.holder ≠ some (.call i)) (i : CallId) :
    (b.call i).holds = false := by
  by_contra hi
  exact hl i (h i (by simpa using hi))

/-- The call `i` moves on; if it lets go of the lock, it had it. -/
theorem Held.of_call {b b' : Bridge} {i : CallId} {c : Call} (h : Held b)
    (hcall : b'.call = Function.update b.call i c)
    (hc : c.holds = true → b'.holder = some (.call i))
    (hl : b'.holder = b.holder ∨ ∀ j, (b.call j).holds = true → j = i) : Held b' := by
  intro j hj
  rw [hcall, Function.update_apply] at hj
  split_ifs at hj with hji
  · rw [hji]
    exact hc hj
  · rcases hl with hl | hl
    · rw [hl]
      exact h j hj
    · exact absurd (hl j hj) hji

theorem Held.of_eq {b b' : Bridge} (h : Held b) (hcall : b'.call = b.call)
    (hl : b'.holder = b.holder ∨ ∀ i, b.holder ≠ some (.call i)) : Held b' := by
  intro i hi
  rw [hcall] at hi
  rcases hl with hl | hl
  · rw [hl]
    exact h i hi
  · rw [h.none hl i] at hi
    cases hi

theorem Held.finish {b b' : Bridge} {i : CallId} (h : Held b) (hi : (b.call i).holds = true)
    (hcall : b'.call = Function.update b.call i .done) : Held b' :=
  h.of_call hcall nofun (.inr fun _ hj => h.eq hj hi)

theorem held_step {b b' : Bridge} {a : Act} (h : Held b) (hs : Step b a b') : Held b' := by
  cases hs with
  | stream hi => exact h.of_call rfl nofun (.inl rfl)
  | @attach i slot k hi hl hk =>
    refine h.of_call rfl (fun _ => rfl) (.inr fun j hj => ?_)
    rw [h.none (by simp [hl]) j] at hj
    cases hj
  | purged hi => exact h.of_call rfl (fun _ => h _ (by rw [hi]; rfl)) (.inl rfl)
  | notPurged hi => exact h.finish (by rw [hi]; rfl) rfl
  | @captured i slot k start queue hi hr =>
    refine h.finish (i := i) (by rw [hi]; rfl) ?_
    unfold captured
    split_ifs
    · cases queue <;> rfl
    · rfl
  | notCaptured hi => exact h.finish (by rw [hi]; rfl) rfl
  | @drop i hi =>
    unfold drop
    split
    · next hc => exact h.finish (by rw [hc]; rfl) rfl
    · next hc => exact h.finish (by rw [hc]; rfl) rfl
    · exact h.of_call rfl nofun (.inl rfl)
  | release hl => exact h.of_eq rfl (.inr (by simp [hl]))
  | lock hl => exact h.of_eq rfl (.inr (by simp [hl]))
  | unlock hl => exact h.of_eq rfl (.inr (by simp [hl]))
  | @transfer r carry data hr =>
    obtain ⟨b', hs, ⟨carry', he⟩ | he⟩ := receive_cases b r carry data
    · rw [he]
      exact h.of_eq hs.call (.inl hs.holder)
    · rw [he]
      exact h.of_eq hs.call (.inl hs.holder)
  | transferFailed hr => exact h.of_eq rfl (.inl rfl)
  | recv => exact h.of_eq rfl (.inl rfl)
  | dropStream => exact h.of_eq rfl (.inl rfl)

/-! ## Runs -/

theorem reception_reachable {tagged : Bool} {b : Bridge}
    (h : Lts.Reachable Step (init tagged) b) : Held b ∧ ∃ q, Shows b q := by
  refine Lts.Reachable.invariant (I := fun b => Held b ∧ ∃ q, Shows b q)
    ⟨held_init tagged, _, shows_init tagged⟩ ?_ h
  rintro b a b' - ⟨hh, q, hq⟩ hs
  obtain ⟨q', hq', -, -⟩ := hq.step hs
  exact ⟨held_step hh hs, q', hq'⟩

theorem truthful_init (tagged : Bool) : Truthful (init tagged) :=
  ((shows_init tagged).truthful_iff (held_init tagged)).2 nofun

/-- Along a run `running` tells the truth, in every state of it, exactly when every future of
`stream` that was told to start the reception is kept until it has, or has failed to. -/
theorem truthful_iff_seen_through {tagged : Bool} {tr : List (Bridge × Act)} {b : Bridge}
    (h : Lts.Run Step (init tagged) tr b) :
    Lts.Always Truthful tr b ↔ Lts.AllGood SeenThrough tr := by
  refine h.always_iff (truthful_init tagged) ?_
  intro b a b' hr ht hs
  obtain ⟨hh, q, hq⟩ := reception_reachable hr
  obtain ⟨q', hq', -, hlost⟩ := hq.step hs
  have hnot : q ≠ .lost := (hq.truthful_iff hh).1 ht
  rw [hq'.truthful_iff (held_step hh hs), ne_eq, hlost]
  simp [hnot]

/-- The first call of `stream` on a bridge goes through. -/
theorem truthful_started : ∃ tr b, Lts.Run Step (init true) tr b ∧ b.Receiving 0 ∧
    Lts.Always Truthful tr b := by
  let b₁ := (init true).goto 0 (.queued 0)
  let b₂ := b₁.attach 0 0 0
  let b₃ := b₂.goto 0 (.capturing 0 0 true)
  let b₄ := b₃.captured 0 0 0 true (.ok 0)
  have hrun : Lts.Run Step (init true)
      [(b₃, .captured 0 (.ok (.ok 0))), (b₂, .purged 0 (.ok ())), (b₁, .attach 0 0),
        (init true, .stream 0 0)] b₄ :=
    (((Lts.Run.nil.snoc (.stream rfl)).snoc (.attach rfl rfl rfl)).snoc (.purged rfl)).snoc
      (.captured rfl fun _ _ => rfl)
  refine ⟨_, b₄, hrun, rfl, (truthful_iff_seen_through hrun).2 ?_⟩
  intro x hx i hi
  simp only [List.mem_cons, List.not_mem_nil, or_false] at hx
  rcases hx with rfl | rfl | rfl | rfl <;> cases hi

/-- A `stream` is dropped while it purges what the bridge had buffered: the hub is left running
with no receiver, and the next one to attach is told that one is running. -/
theorem lost_on_drop : ∃ b, Lts.Reachable Step (init true) b ∧ ¬ Truthful b ∧
    b.holder = none ∧ (b.hub.attach 1 1).2 = false ∧ ∀ r, ¬ b.Receiving r := by
  let b₁ := (init true).goto 0 (.queued 0)
  let b₂ := b₁.attach 0 0 0
  let b₃ := b₂.drop 0
  have hrun : Lts.Reachable Step (init true) b₃ :=
    (((Lts.Reachable.refl _).snoc (.stream rfl)).snoc (.attach rfl rfl rfl)).snoc
      (.drop (i := 0) nofun)
  have hnone : ∀ r, ¬ b₃.Receiving r := nofun
  refine ⟨b₃, hrun, fun ht => ?_, rfl, rfl, hnone⟩
  obtain ⟨r, hr⟩ := ht.answer rfl 1 1 rfl
  exact hnone r hr

end Tunelith.Px4
