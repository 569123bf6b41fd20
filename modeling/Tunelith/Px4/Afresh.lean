import Tunelith.Px4.Reception

/-!
# Starting afresh

A stream that is attached while no other one is on is to get nothing of what was buffered before:
the bridge is purged, and the receiver that feeds it starts with nothing carried over. That hangs
on `running`, which is cleared no sooner than by a transfer that completes once no one takes the
stream any more.

* `Afresh` — every such stream of a run starts so.
* `Fresh` — what holds of a stream that was told to start the reception, from then on.
-/

namespace Tunelith.Px4

namespace Bridge

/-- A slot holds a sender whose stream is still there. -/
def Live (b : Bridge) : Prop := ∃ slot k, b.hub.senders slot = some k ∧ (b.chan k).rx = true

/-- A slot sends to the channel `k`. -/
def Sends (b : Bridge) (k : ChanId) : Prop := ∃ slot, b.hub.senders slot = some k

end Bridge

open Bridge

/-- After the purge the call `i` has started the receiver `r`, with nothing carried over. -/
def Started (i : CallId) (r : ReceiverId) (tr : List (Bridge × Act)) : Prop :=
  ∃ later b b' earlier, tr = later ++ (b, .captured i (.ok (.ok r))) :: earlier ∧
    (∃ d, (d, .purged i (.ok ())) ∈ earlier) ∧ Step b (.captured i (.ok (.ok r))) b' ∧
    b'.receiver r = .receiving []

/-- All that is received for the channel `k` is received by receivers the call `i` has started. -/
def FedBy (i : CallId) (k : ChanId) (tr : List (Bridge × Act)) : Prop :=
  ∀ later b r data earlier, tr = later ++ (b, .transfer r (.ok data)) :: earlier → b.Sends k →
    Started i r earlier

/-- Every stream that is attached while no slot holds a live sender has the bridge purged, and is
fed by what starts after that. -/
def Afresh (tr : List (Bridge × Act)) : Prop :=
  ∀ later b i k earlier, tr = later ++ (b, .attach i k) :: earlier → ¬ b.Live →
    ∃ slot, b.call i = .queued slot ∧ (b.attach i slot k).call i = .purging slot k ∧ FedBy i k later

/-- A stream that is attached while no slot holds a live sender finds `running` cleared. -/
def FindsStopped (b : Bridge) (a : Act) : Prop :=
  ∀ i k, a = .attach i k → ¬ b.Live → b.hub.running = false

/-! ## Channels and senders -/

section

variable {b b' : Bridge} {a : Act} {k : ChanId} {slot : Slot}

theorem senders_deliver {s : Slot} {packets : List UInt8}
    (h : (b.deliver s packets).hub.senders slot = some k) : b.hub.senders slot = some k := by
  unfold deliver at h
  split at h
  · exact h
  · split at h
    · exact h
    · split at h
      · exact h
      · exact h
      · rw [Hub.detach_senders, Function.update_apply] at h
        split at h
        · cases h
        · exact h

theorem made_deliver {s : Slot} {packets : List UInt8} :
    ((b.deliver s packets).chan k).made = (b.chan k).made := by
  unfold deliver
  split
  · rfl
  · split
    · rfl
    · split
      · next j _ _ K hK =>
        rw [setChan_chan, Function.update_apply]
        split
        · next hkj =>
          subst hkj
          unfold Chan.trySend at hK
          split at hK
          · cases hK
          · split at hK
            · cases hK
              rfl
            · cases hK
        · rfl
      · rfl
      · rfl

theorem senders_foldl {f : Slot → List UInt8} {slots : List Slot}
    (h : (slots.foldl (fun b slot => b.deliver slot (f slot)) b).hub.senders slot = some k) :
    b.hub.senders slot = some k := by
  induction slots generalizing b with
  | nil => exact h
  | cons s slots ih => exact senders_deliver (ih h)

theorem made_foldl {f : Slot → List UInt8} {slots : List Slot} :
    ((slots.foldl (fun b slot => b.deliver slot (f slot)) b).chan k).made = (b.chan k).made := by
  induction slots generalizing b with
  | nil => rfl
  | cons s slots ih => exact ih.trans made_deliver

theorem senders_receive {r : ReceiverId} {carry data : List UInt8}
    (h : (b.receive r carry data).hub.senders slot = some k) : b.hub.senders slot = some k := by
  unfold receive at h
  dsimp only at h
  split at h
  · exact senders_foldl h
  · exact senders_foldl h

theorem made_receive {r : ReceiverId} {carry data : List UInt8} :
    ((b.receive r carry data).chan k).made = (b.chan k).made := by
  unfold receive
  dsimp only
  split
  · exact made_foldl
  · exact made_foldl

/-- A receiver ends only once no slot has a sender. -/
theorem senders_of_stopped {r : ReceiverId} {carry data : List UInt8}
    (hrun : b.hub.running = true) (h : (b.receive r carry data).hub.running = false) :
    (b.receive r carry data).hub.senders slot = none := by
  unfold receive at h ⊢
  dsimp only at h ⊢
  split
  · next hidle =>
    exact Option.isNone_iff_eq_none.1 (List.all_eq_true.1 hidle slot (List.mem_finRange slot))
  · next hidle =>
    rw [if_neg hidle] at h
    rw [setReceiver_hub, (sameTasks_foldl _ _ _).running, hrun] at h
    cases h

theorem made_fail {i : CallId} {s : Slot} {j : ChanId} {start : Bool}
    (h : (b.chan k).made = true) : ((b.fail i s j start).chan k).made = true := by
  simp only [fail, finish_chan, dropStream_chan, Function.update_apply]
  split
  · next hkj => rwa [← hkj]
  · exact h

theorem senders_fail {i : CallId} {s : Slot} {j : ChanId} {start : Bool}
    (h : (b.fail i s j start).hub.senders slot = some k) :
    b.hub.senders slot = some k ∧ slot ≠ s := by
  have h : Function.update b.hub.senders s none slot = some k := by
    cases start <;> exact h
  rw [Function.update_apply] at h
  split at h
  · cases h
  · next hs => exact ⟨h, hs⟩

/-- Channels stay made. -/
theorem made_step (h : Step b a b') (hk : (b.chan k).made = true) : (b'.chan k).made = true := by
  cases h with
  | @attach i s j hi hl hj =>
    have hkj : k ≠ j := by
      rintro rfl
      rw [hk] at hj
      cases hj
    simpa [attach, hkj] using hk
  | notPurged => exact made_fail hk
  | @captured i s j start queue hi hr =>
    unfold captured
    split
    · cases queue with
      | ok r => exact hk
      | error e => exact made_fail hk
    · exact hk
  | notCaptured => exact made_fail hk
  | @drop i hi =>
    have hdrop : ∀ j, (((b.dropStream j).finish i).chan k).made = true := by
      intro j
      rw [finish_chan, dropStream_chan, Function.update_apply]
      split
      · next hkj => rwa [← hkj]
      · exact hk
    unfold drop
    split
    · exact hdrop _
    · exact hdrop _
    · exact hk
  | transfer => exact made_receive.trans hk
  | @recv j hj =>
    rw [setChan_chan, Function.update_apply]
    split
    · next hkj => rwa [← hkj]
    · exact hk
  | @dropStream j hj =>
    rw [dropStream_chan, Function.update_apply]
    split
    · next hkj => rwa [← hkj]
    · exact hk
  | stream | purged | release | lock | unlock | transferFailed => exact hk

/-- A slot gets to send to a channel where that is made, and nowhere else. -/
theorem senders_step (h : Step b a b') (hs : b'.hub.senders slot = some k) :
    b.hub.senders slot = some k ∨ (b.chan k).made = false ∧ (b'.chan k).made = true := by
  cases h with
  | @attach i s j hi hl hj =>
    have hs : Function.update b.hub.senders s (some j) slot = some k := hs
    rw [Function.update_apply] at hs
    split at hs
    · cases hs
      exact .inr ⟨hj, by simp [attach]⟩
    · exact .inl hs
  | notPurged => exact .inl (senders_fail hs).1
  | @captured i s j start queue hi hr =>
    left
    unfold captured at hs
    split at hs
    · cases queue with
      | ok r => exact hs
      | error e => exact (senders_fail hs).1
    · exact hs
  | notCaptured => exact .inl (senders_fail hs).1
  | drop =>
    left
    unfold drop at hs
    split at hs
    · exact hs
    · exact hs
    · exact hs
  | @release s hl =>
    have hs : Function.update b.hub.senders s none slot = some k := hs
    rw [Function.update_apply] at hs
    split at hs
    · cases hs
    · exact .inl hs
  | transfer => exact .inl (senders_receive hs)
  | transferFailed => cases hs
  | stream | purged | lock | unlock | recv | dropStream => exact .inl hs

/-- So no slot gets to send to a channel that was made before. -/
theorem senders_of_made (h : Step b a b') (hmade : (b.chan k).made = true)
    (hs : b'.hub.senders slot = some k) : b.hub.senders slot = some k := by
  refine (senders_step h hs).resolve_right fun ⟨hnot, _⟩ => ?_
  rw [hmade] at hnot
  cases hnot

end

/-! ## A stream that was told to start the reception -/

theorem Started.later {i : CallId} {r : ReceiverId} {tr : List (Bridge × Act)} (x : Bridge × Act)
    (h : Started i r tr) : Started i r (x :: tr) := by
  obtain ⟨later, b, b', earlier, rfl, h⟩ := h
  exact ⟨x :: later, b, b', earlier, rfl, h⟩

/-- Who the stream with the channel `k` may get packets from: the call is still to start the
reception, or the receiver is one it has started. -/
def Awaits (i : CallId) (slot : Slot) (k : ChanId) (tr : List (Bridge × Act)) (b : Bridge) :
    Reception → Prop
  | .idle => False
  | .lost => True
  | .receiving r => Started i r tr
  | .starting j => j = i ∧ (b.call i = .purging slot k ∨
      b.call i = .capturing slot k true ∧ ∃ d, (d, .purged i (.ok ())) ∈ tr)

structure Fresh (i : CallId) (slot : Slot) (k : ChanId) (tr : List (Bridge × Act)) (b : Bridge) :
    Prop where
  held : Held b
  made : (b.chan k).made = true
  only : ∀ s, b.hub.senders s = some k → s = slot
  reception : ∃ q, Shows b q ∧ (b.Sends k → Awaits i slot k tr b q)

variable {i : CallId} {slot : Slot} {k : ChanId} {tr : List (Bridge × Act)} {b b' : Bridge}
  {a : Act}

/-- A receiver stops once no slot has a sender. -/
theorem senders_of_stop {r : ReceiverId} (h : Shows b (.receiving r)) (hs : Step b a b')
    (hrun : b'.hub.running = false) (s : Slot) : b'.hub.senders s = none := by
  have hon : b.hub.running = true := h.running.2 nofun
  have hnot : ∀ j, (b.call j).starts = false := by
    intro j
    by_contra hj
    exact Reception.noConfusion ((h.starting j).1 (Bool.eq_true_of_not_eq_false hj))
  have habsurd : b'.hub.running = b.hub.running → b'.hub.senders s = none := by
    intro he
    rw [he, hon] at hrun
    cases hrun
  cases hs with
  | stream => exact habsurd rfl
  | attach => exact absurd hrun (by simp [attach, Hub.attach])
  | purged => exact habsurd rfl
  | @notPurged j _ _ _ hj => exact absurd (hnot j) (by rw [hj, Call.starts]; decide)
  | @captured j _ _ start queue hj _ =>
    have hstart : start = false := by simpa [hj, Call.starts] using hnot j
    subst hstart
    exact habsurd rfl
  | @notCaptured j _ _ start _ hj =>
    have hstart : start = false := by simpa [hj, Call.starts] using hnot j
    subst hstart
    exact habsurd rfl
  | drop =>
    apply habsurd
    unfold drop
    split <;> rfl
  | release => exact habsurd rfl
  | lock => exact habsurd rfl
  | unlock => exact habsurd rfl
  | transfer => exact senders_of_stopped hon hrun
  | transferFailed => rfl
  | recv => exact habsurd rfl
  | dropStream => exact habsurd rfl

/-- A receiver runs as long as a stream is attached. -/
theorem receiving_of_sends {r : ReceiverId} (h : Shows b (.receiving r)) (hs : Step b a b')
    (hk : b'.Sends k) : b'.Receiving r := by
  obtain ⟨q', hq', hnext, -⟩ := h.step hs
  cases hnext with
  | stay => exact (hq'.receiving r).2 rfl
  | stop =>
    obtain ⟨s, hk⟩ := hk
    have hrun : b'.hub.running = false := by
      rw [← Bool.not_eq_true, hq'.running]
      simp
    rw [senders_of_stop h hs hrun s] at hk
    cases hk

theorem awaits_starting (h : Fresh i slot k tr b) (hq : Shows b (.starting i))
    (hc : b.call i = .purging slot k ∨
      b.call i = .capturing slot k true ∧ ∃ d, (d, .purged i (.ok ())) ∈ tr)
    (hs : Step b a b') {q : Reception} (hq' : Shows b' q)
    (hlost : q = .lost ↔ Reception.starting i = .lost ∨ ¬ SeenThrough b a) (hk : b'.Sends k) :
    Awaits i slot k ((b, a) :: tr) b' q := by
  have hi : b.Starting i := (hq.starting i).2 rfl
  have hholds : (b.call i).holds = true := Call.holds_of_starts hi
  have hholder : b.holder = some (.call i) := h.held i hholds
  -- As long as the call stands where it stood, it is still to start the reception.
  have hsame : b'.call i = b.call i → Awaits i slot k ((b, a) :: tr) b' q := by
    intro hcall
    obtain rfl : q = .starting i := (hq'.starting i).1 (by rwa [Starting, hcall])
    rw [Awaits, hcall]
    exact ⟨rfl, hc.imp id (And.imp id (Exists.imp fun d => List.mem_cons_of_mem _))⟩
  have hother : ∀ {j c}, b'.call = Function.update b.call j c → j ≠ i →
      Awaits i slot k ((b, a) :: tr) b' q :=
    fun hcall hj => hsame (by rw [hcall, Function.update_of_ne hj.symm])
  -- A call that has the lock is this one, and one that gives up lets go of the slot.
  have hgone : ∀ {s j start}, (b.call i = .purging s j ∨ b.call i = .capturing s j start) →
      b' = b.fail i s j start → Awaits i slot k ((b, a) :: tr) b' q := by
    intro s j start hcall hb'
    have hs : s = slot := by
      obtain hc | ⟨hc, -⟩ := hc
      · rw [hc] at hcall
        simp only [Call.purging.injEq, reduceCtorEq, or_false] at hcall
        exact hcall.1.symm
      · rw [hc] at hcall
        simp only [Call.capturing.injEq, reduceCtorEq, false_or] at hcall
        exact hcall.1.symm
    obtain ⟨s', hk⟩ := hk
    rw [hb'] at hk
    obtain ⟨hk, hne⟩ := senders_fail hk
    exact absurd (h.only s' hk) (hs ▸ hne)
  have hnone : b.holder ≠ none := by simp [hholder]
  have heq : ∀ {j}, (b.call j).holds = true → j = i := fun hj => h.held.eq hj hholds
  have hnot : ∀ {r carry}, b.receiver r ≠ .receiving carry := by
    intro r carry hr
    have hrr : b.Receiving r := by rw [Receiving, hr, Receiver.runs]
    exact Reception.noConfusion ((hq.receiving r).1 hrr)
  have hstep := hs
  cases hs with
  | @stream j s hj =>
    refine hother (j := j) rfl fun hji => ?_
    rw [← hji, hj] at hholds
    cases hholds
  | attach hj hl => exact absurd hl hnone
  | @purged j s k' hj =>
    obtain rfl := heq (j := j) (by rw [hj]; rfl)
    obtain ⟨rfl, rfl⟩ : s = slot ∧ k' = k := by
      obtain hc | ⟨hc, -⟩ := hc
      · rw [hj] at hc
        simpa using hc
      · rw [hj] at hc
        cases hc
    have hcall : (b.goto j (.capturing s k' true)).call j = .capturing s k' true :=
      Function.update_self ..
    obtain rfl : q = .starting j := (hq'.starting j).1 (by rw [Starting, hcall]; rfl)
    exact ⟨rfl, .inr ⟨hcall, b, List.mem_cons_self⟩⟩
  | @notPurged j s k' e hj =>
    obtain rfl := heq (j := j) (by rw [hj]; rfl)
    exact hgone (.inl hj) rfl
  | @captured j s k' start queue hj hr =>
    obtain rfl := heq (j := j) (by rw [hj]; rfl)
    obtain ⟨hc, hpurged⟩ := hc.resolve_left (by simp [hj])
    obtain rfl : start = true := by
      rw [hj] at hc
      simp only [Call.capturing.injEq] at hc
      exact hc.2.2
    cases queue with
    | error e => exact hgone (.inr hj) rfl
    | ok r =>
      have hrecv : (b.captured j s k' true (.ok r)).receiver r = .receiving [] := by
        simp [captured]
      obtain rfl : q = .receiving r := (hq'.receiving r).1 (by rw [Receiving, hrecv, Receiver.runs])
      exact ⟨[], b, _, tr, rfl, hpurged, hstep, hrecv⟩
  | @notCaptured j s k' start e hj =>
    obtain rfl := heq (j := j) (by rw [hj]; rfl)
    exact hgone (.inr hj) rfl
  | @drop j hj =>
    by_cases hji : j = i
    · rw [hlost.2 (.inr fun hseen => hseen i (by rw [hji]) hi)]
      trivial
    · refine hother (j := j) (c := .done) ?_ hji
      unfold drop
      split <;> rfl
  | release hl => exact absurd hl hnone
  | lock hl => exact absurd hl hnone
  | unlock hl =>
    rw [hholder] at hl
    cases hl
  | transfer hr => exact absurd hr hnot
  | transferFailed hr => exact absurd hr hnot
  | recv => exact hsame rfl
  | dropStream => exact hsame rfl

theorem Fresh.step (h : Fresh i slot k tr b) (hs : Step b a b') :
    Fresh i slot k ((b, a) :: tr) b' := by
  obtain ⟨q, hq, hawaits⟩ := h.reception
  obtain ⟨q', hq', hnext, hlost⟩ := hq.step hs
  refine ⟨held_step h.held hs, made_step hs h.made,
    fun s hk => h.only s (senders_of_made hs h.made hk), q', hq', fun hk' => ?_⟩
  obtain ⟨s, hk⟩ := hk'
  have hawaits := hawaits ⟨s, senders_of_made hs h.made hk⟩
  cases q with
  | idle => exact hawaits.elim
  | lost =>
    rw [hlost.2 (.inl rfl)]
    trivial
  | receiving r =>
    obtain rfl := (hq'.receiving r).1 (receiving_of_sends hq hs ⟨s, hk⟩)
    exact hawaits.later _
  | starting j =>
    obtain ⟨rfl, hc⟩ := hawaits
    exact awaits_starting h hq hc hs hq' hlost ⟨s, hk⟩

/-- What is received for such a stream is received by what its call has started. -/
theorem Fresh.fedBy {c : Bridge} {tr' : List (Bridge × Act)} (h : Fresh i slot k [] b)
    (hr : Lts.Run Step b tr' c) : FedBy i k tr' := by
  have hfresh : ∀ {tr' c}, Lts.Run Step b tr' c → Fresh i slot k tr' c := by
    intro tr' c hr
    induction hr with
    | nil => exact h
    | snoc _ hs ih => exact ih.step hs
  rintro later d r data earlier rfl hk
  obtain ⟨d', hearlier, hs, -⟩ := hr.split
  obtain ⟨q, hq, hawaits⟩ := (hfresh hearlier).reception
  cases hs with
  | transfer hr =>
    obtain rfl : q = .receiving r := (hq.receiving r).1 (by rw [Receiving, hr, Receiver.runs])
    exact hawaits hk

/-! ## Where a stream is attached -/

/-- A slot sends to a channel that was made. -/
theorem made_of_sends {tagged : Bool} (h : Lts.Reachable Step (init tagged) b)
    (hk : b.Sends k) : (b.chan k).made = true := by
  refine Lts.Reachable.invariant (I := fun b => ∀ k, b.Sends k → (b.chan k).made = true)
    (fun k hk => ?_) (fun b a b' _ ih hs k hk => ?_) h k hk
  · obtain ⟨s, hs⟩ := hk
    cases hs
  · obtain ⟨s, hk⟩ := hk
    obtain hk | ⟨-, hmade⟩ := senders_step hs hk
    · exact made_step hs (ih k ⟨s, hk⟩)
    · exact hmade

theorem attach_call (b : Bridge) (i : CallId) (slot : Slot) (k : ChanId) :
    (b.attach i slot k).call i =
      if b.hub.running then .capturing slot k false else .purging slot k := by
  cases hrun : b.hub.running <;> simp [attach, Hub.attach, hrun]

/-- One that finds `running` cleared is told to start the reception, and is fed by what it
starts. -/
theorem fresh_attach (hh : Held b) {q : Reception} (hq : Shows b q) (hi : b.call i = .queued slot)
    (hl : b.holder = none) (hk : (b.chan k).made = false) (hsend : ¬ b.Sends k)
    (hrun : b.hub.running = false) : Fresh i slot k [] (b.attach i slot k) := by
  have hs : Step b (.attach i k) (b.attach i slot k) := .attach hi hl hk
  have hcall : (b.attach i slot k).call i = .purging slot k := by
    rw [attach_call, hrun]
    rfl
  obtain ⟨q', hq', -, -⟩ := hq.step hs
  obtain rfl : q' = .starting i := (hq'.starting i).1 (by rw [Starting, hcall, Call.starts])
  refine ⟨held_step hh hs, by simp [attach], fun s hk => ?_, _, hq', fun _ => ⟨rfl, .inl hcall⟩⟩
  have hk : Function.update b.hub.senders slot (some k) s = some k := hk
  by_contra hne
  rw [Function.update_of_ne hne] at hk
  exact hsend ⟨s, hk⟩

/-- In every run the streams start afresh exactly if each one that is attached while no slot holds
a live sender finds `running` cleared. -/
theorem afresh_iff_finds_stopped {tagged : Bool} {tr : List (Bridge × Act)} {b : Bridge}
    (h : Lts.Run Step (init tagged) tr b) : Afresh tr ↔ Lts.AllGood FindsStopped tr := by
  constructor
  · rintro hafresh ⟨d, a⟩ hx i k rfl hlive
    obtain ⟨later, earlier, rfl⟩ := List.append_of_mem hx
    obtain ⟨slot, -, hcall, -⟩ := hafresh later d i k earlier rfl hlive
    rw [attach_call] at hcall
    by_contra hrun
    rw [Bool.not_eq_false] at hrun
    rw [hrun] at hcall
    cases hcall
  · rintro hgood later d i k earlier rfl hlive
    have hrun : d.hub.running = false :=
      hgood _ (List.mem_append_right _ List.mem_cons_self) i k rfl hlive
    obtain ⟨d', hearlier, hs, hlater⟩ := h.split
    obtain ⟨hh, q, hq⟩ := reception_reachable hearlier.reachable
    cases hs with
    | @attach _ slot _ hi hl hk =>
      have hsend : ¬ d.Sends k := by
        intro hsend
        rw [made_of_sends hearlier.reachable hsend] at hk
        cases hk
      refine ⟨slot, hi, ?_, (fresh_attach hh hq hi hl hk hsend hrun).fedBy hlater⟩
      rw [attach_call, hrun]
      rfl

/-- The only stream of a run starts afresh. -/
theorem afresh_first : ∃ tr b, Lts.Run Step (init true) tr b ∧ b.Live ∧ Afresh tr := by
  let b₁ := (init true).goto 0 (.queued 0)
  let b₂ := b₁.attach 0 0 0
  let b₃ := b₂.goto 0 (.capturing 0 0 true)
  let b₄ := b₃.captured 0 0 0 true (.ok 0)
  have hrun : Lts.Run Step (init true)
      [(b₃, .captured 0 (.ok (.ok 0))), (b₂, .purged 0 (.ok ())), (b₁, .attach 0 0),
        (init true, .stream 0 0)] b₄ :=
    (((Lts.Run.nil.snoc (.stream rfl)).snoc (.attach rfl rfl rfl)).snoc (.purged rfl)).snoc
      (.captured rfl fun _ _ => rfl)
  refine ⟨_, b₄, hrun, ⟨0, 0, rfl, rfl⟩, (afresh_iff_finds_stopped hrun).2 ?_⟩
  intro x hx i k hi hlive
  simp only [List.mem_cons, List.not_mem_nil, or_false] at hx
  rcases hx with rfl | rfl | rfl | rfl
  · cases hi
  · cases hi
  · rfl
  · cases hi

/-- Four packets but for their last byte. -/
def stale : List UInt8 :=
  (List.replicate 3 (0x47 :: List.replicate 187 0)).flatten ++ 0x47 :: List.replicate 186 0

/-- A tuner is released and its stream attached once more before a transfer completes: nothing is
purged, and what was received for the first stream is handed to the second one. -/
theorem fed_stale : ∃ tr b, Lts.Run Step (init false) tr b ∧ ¬ Afresh tr ∧
    (b.chan 1).queue.queue = [stale ++ [0]] := by
  let b₁ := (init false).goto 0 (.queued 0)
  let b₂ := b₁.attach 0 0 0
  let b₃ := b₂.goto 0 (.capturing 0 0 true)
  let b₄ := b₃.captured 0 0 0 true (.ok 0)
  let b₅ := b₄.receive 0 [] stale
  let b₆ : Bridge := { b₅ with hub := b₅.hub.detach 0, holder := some .other }
  let b₇ : Bridge := { b₆ with holder := none }
  let b₈ := b₇.goto 1 (.queued 0)
  let b₉ := b₈.attach 1 0 1
  have h₅ : b₅.receiver 0 = .receiving stale := by decide +kernel
  have hidle : ∀ slot, b₈.hub.senders slot = none := by decide +kernel
  have hon : b₈.hub.running = true := by decide +kernel
  have hrun : Lts.Run Step (init false)
      [(b₈, .attach 1 1), (b₇, .stream 1 0), (b₆, .unlock), (b₅, .release 0),
        (b₄, .transfer 0 (.ok stale)), (b₃, .captured 0 (.ok (.ok 0))), (b₂, .purged 0 (.ok ())),
        (b₁, .attach 0 0), (init false, .stream 0 0)] b₉ := by
    refine .snoc (.snoc (.snoc (.snoc (.snoc (.snoc (.snoc (.snoc (.snoc .nil ?_) ?_) ?_) ?_) ?_)
      ?_) ?_) ?_) ?_
    · exact .stream rfl
    · exact .attach rfl rfl rfl
    · exact .purged rfl
    · exact .captured rfl fun _ _ => rfl
    · exact .transfer rfl
    · exact .release (by decide +kernel)
    · exact .unlock rfl
    · exact .stream (by decide +kernel)
    · exact .attach (by decide +kernel) rfl (by decide +kernel)
  have hfed : Step b₉ (.transfer 0 (.ok [0])) _ := .transfer h₅
  refine ⟨_, _, hrun.snoc hfed, fun hafresh => ?_, by decide +kernel⟩
  have hlive : ¬ b₈.Live := by
    rintro ⟨slot, k, hs, -⟩
    rw [hidle] at hs
    cases hs
  obtain ⟨slot, -, hcall, -⟩ := hafresh [_] b₈ 1 1 _ rfl hlive
  rw [attach_call, hon] at hcall
  cases hcall

end Tunelith.Px4
