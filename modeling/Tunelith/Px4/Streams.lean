import Tunelith.Px4.Afresh
import Tunelith.Px4.Windows

/-!
# What a stream is given

A slot has the channel of its stream from `attach` until it lets go of it, and what a receiver
splits off its transfers for the slot in between is for that channel. A transfer may end anywhere
in a packet, and the reader of the stream may be slow, or gone.

* `Carries` — a receiver goes on with what `demux` left of the transfers it got.
* `Fed` — one receiver at most feeds a stream, and what that splits off for the slot from `attach`
  on is offered to it, all of it and in order.
* `streams_packets` — so a stream gets whole packets of its slot, which are windows of what the
  receiver got; what it misses are the transfers that came while it was behind, or not read.
-/

namespace Tunelith.Px4

/-! ## What a receiver goes on with -/

namespace Bridge

/-- The transfers the receiver `r` got along a run. -/
def transfersOf (r : ReceiverId) (tr : List (Bridge × Act)) : List (List UInt8) :=
  tr.reverse.filterMap fun x => match x.2 with
    | .transfer s (.ok data) => if s = r then some data else none
    | _ => none

variable {tagged : Bool} {b b' : Bridge} {a : Act} {s : ReceiverId} {tr : List (Bridge × Act)}

theorem transfersOf_cons (s : ReceiverId) (x : Bridge × Act) (tr : List (Bridge × Act)) :
    transfersOf s (x :: tr) = transfersOf s tr ++ transfersOf s [x] := by
  unfold transfersOf
  rw [List.reverse_cons, List.filterMap_append]
  rfl

/-- The receiver `s` has what `demux` left of the transfers it got, and got none before it was
started. -/
structure Carries (tagged : Bool) (s : ReceiverId) (tr : List (Bridge × Act)) (b : Bridge) :
    Prop where
  tagged_eq : b.hub.tagged = tagged
  none : b.receiver s = .absent → transfersOf s tr = []
  carry : ∀ carry, b.receiver s = .receiving carry →
    carry = ((transfersOf s tr).foldl (feed tagged) ([], [])).2

theorem tagged_deliver (slot : Slot) (packets : List UInt8) :
    (b.deliver slot packets).hub.tagged = b.hub.tagged := by
  unfold deliver
  split
  · rfl
  · split
    · rfl
    · split <;> rfl

theorem tagged_foldl (f : Slot → List UInt8) (slots : List Slot) (b : Bridge) :
    (slots.foldl (fun b slot => b.deliver slot (f slot)) b).hub.tagged = b.hub.tagged := by
  induction slots generalizing b with
  | nil => rfl
  | cons slot slots ih => exact (ih _).trans (tagged_deliver slot (f slot))

theorem tagged_receive (b : Bridge) (r : ReceiverId) (carry data : List UInt8) :
    (b.receive r carry data).hub.tagged = b.hub.tagged := by
  unfold receive
  dsimp only
  split
  · exact tagged_foldl _ _ b
  · exact tagged_foldl _ _ b

/-- A receiver goes on with what `demux` left, or it ends. -/
theorem receiver_receive (b : Bridge) (r : ReceiverId) (carry data : List UInt8) :
    (b.receive r carry data).receiver = Function.update b.receiver r .done ∨
      (b.receive r carry data).receiver =
        Function.update b.receiver r (.receiving (demux b.hub.tagged carry data).2) := by
  have hsame := (sameTasks_foldl (packetsOf (demux b.hub.tagged carry data).1) (List.finRange 5)
    b).receiver
  have hset : ∀ d : Bridge, d.receiver = b.receiver → ∀ R,
      (d.setReceiver r R).receiver = Function.update b.receiver r R := by
    intro d hd R
    rw [← hd]
    rfl
  unfold receive
  dsimp only
  split
  · exact .inl (hset _ hsame _)
  · exact .inr (hset _ hsame _)

/-- Whatever else happens leaves the receiver as it is. -/
theorem Carries.stay (h : Carries tagged s tr b) (htagged : b'.hub.tagged = b.hub.tagged)
    (hs : b'.receiver s = b.receiver s) (ha : transfersOf s [(b, a)] = []) :
    Carries tagged s ((b, a) :: tr) b' := by
  have htr : transfersOf s ((b, a) :: tr) = transfersOf s tr := by
    rw [transfersOf_cons, ha, List.append_nil]
  refine ⟨htagged.trans h.tagged_eq, ?_, ?_⟩
  · rw [hs, htr]
    exact h.none
  · rw [hs, htr]
    exact h.carry

theorem carries_transfer {r : ReceiverId} {carry data : List UInt8} (h : Carries tagged s tr b)
    (hr : b.receiver r = .receiving carry) :
    Carries tagged s ((b, .transfer r (.ok data)) :: tr) (b.receive r carry data) := by
  by_cases hsr : s = r
  · subst hsr
    have htr : transfersOf s ((b, .transfer s (.ok data)) :: tr) = transfersOf s tr ++ [data] := by
      rw [transfersOf_cons]
      simp [transfersOf]
    refine ⟨(tagged_receive b s carry data).trans h.tagged_eq, fun hnone => ?_, fun carry' hc => ?_⟩
    · rcases receiver_receive b s carry data with he | he
      · rw [he, Function.update_self] at hnone
        cases hnone
      · rw [he, Function.update_self] at hnone
        cases hnone
    · rcases receiver_receive b s carry data with he | he
      · rw [he, Function.update_self] at hc
        cases hc
      · rw [he, Function.update_self] at hc
        cases hc
        rw [htr, List.foldl_concat, h.tagged_eq, h.carry carry hr]
        rfl
  · refine h.stay (tagged_receive b r carry data) ?_ ?_
    · rcases receiver_receive b r carry data with he | he
      · rw [he, Function.update_of_ne hsr]
      · rw [he, Function.update_of_ne hsr]
    · simp [transfersOf, Ne.symm hsr]

theorem carries_captured {i : CallId} {slot : Slot} {k : ChanId} {start : Bool}
    {queue : Except Error ReceiverId} (h : Carries tagged s tr b)
    (hr : ∀ r, queue = .ok r → b.receiver r = .absent) :
    Carries tagged s ((b, .captured i (.ok queue)) :: tr) (b.captured i slot k start queue) := by
  have htr : transfersOf s [(b, .captured i (.ok queue))] = [] := rfl
  unfold captured
  split
  · cases queue with
    | error e => exact h.stay (by simp only [fail]; split <;> rfl) rfl htr
    | ok r =>
      by_cases hsr : s = r
      · subst hsr
        have hnone := h.none (hr s rfl)
        have hrecv : ((b.setReceiver s (.receiving [])).finish i).receiver s = .receiving [] :=
          Function.update_self ..
        have hnil : transfersOf s ((b, .captured i (.ok (.ok s))) :: tr) = [] := by
          rw [transfersOf_cons, htr, hnone]
          rfl
        refine ⟨h.tagged_eq, fun _ => hnil, fun carry hc => ?_⟩
        have hc := hrecv.symm.trans hc
        cases hc
        rw [hnil]
        rfl
      · exact h.stay rfl (Function.update_of_ne hsr _ _) htr
  · exact h.stay rfl rfl htr

theorem Carries.step (h : Carries tagged s tr b) (hs : Step b a b') :
    Carries tagged s ((b, a) :: tr) b' := by
  have hfail : ∀ {i slot k start}, (b.fail i slot k start).hub.tagged = b.hub.tagged := by
    intro i slot k start
    cases start <;> rfl
  cases hs with
  | stream | attach | purged | release | lock | unlock | recv | dropStream =>
    exact h.stay rfl rfl rfl
  | notPurged => exact h.stay hfail rfl rfl
  | notCaptured => exact h.stay hfail rfl rfl
  | captured hi hr => exact carries_captured h hr
  | drop =>
    unfold drop
    split
    · exact h.stay rfl rfl rfl
    · exact h.stay rfl rfl rfl
    · exact h.stay rfl rfl rfl
  | transfer hr => exact carries_transfer h hr
  | @transferFailed r carry e hr =>
    by_cases hsr : s = r
    · subst hsr
      have hrecv : (b.receiveFailed s).receiver s = .done := Function.update_self ..
      refine ⟨h.tagged_eq, fun hn => ?_, fun carry hc => ?_⟩
      · rw [hrecv] at hn
        cases hn
      · rw [hrecv] at hc
        cases hc
    · exact h.stay rfl (Function.update_of_ne hsr _ _) rfl

theorem carries_of_run (h : Lts.Run Step (init tagged) tr b) (s : ReceiverId) :
    Carries tagged s tr b := by
  induction h with
  | nil => exact ⟨rfl, fun _ => rfl, fun _ hc => by cases hc⟩
  | snoc _ hs ih => exact ih.step hs

/-! ## What goes to a channel -/

variable {slot : Slot} {k : ChanId} {slots : List Slot} {i : CallId} {r : ReceiverId}
  {earlier later : List (Bridge × Act)}

/-- The stream of `k` is read, and no more than `BACKLOG` behind. -/
def KeepsUp (b : Bridge) (k : ChanId) : Prop :=
  (b.chan k).rx = true ∧ (b.chan k).queue.queue.length ≤ BACKLOG

instance : Decidable (b.KeepsUp k) := inferInstanceAs (Decidable (_ ∧ _))

theorem chan_deliver_of_ne {s : Slot} {packets : List UInt8} (h : b.hub.senders s ≠ some k) :
    (b.deliver s packets).chan k = b.chan k := by
  unfold deliver
  split
  · rfl
  · next j hj =>
    have hkj : k ≠ j := by
      rintro rfl
      exact h hj
    split
    · rfl
    · split
      · rw [setChan_chan, Function.update_of_ne hkj]
      · rfl
      · rfl

theorem senders_deliver_of_ne {s : Slot} {packets : List UInt8} (h : slot ≠ s) :
    (b.deliver s packets).hub.senders slot = b.hub.senders slot := by
  unfold deliver
  split
  · rfl
  · split
    · rfl
    · split
      · rfl
      · rfl
      · rw [Hub.detach_senders, Function.update_of_ne h]

theorem trySend_of_keepsUp (h : b.KeepsUp k) (packets : List UInt8) :
    (b.chan k).trySend packets =
      .ok { b.chan k with queue := (b.chan k).queue.push packets } := by
  simp [Chan.trySend, h.1, h.2]

theorem trySend_of_not_keepsUp (h : ¬ b.KeepsUp k) (packets : List UInt8) :
    ∃ e, (b.chan k).trySend packets = .error e := by
  unfold Chan.trySend
  split
  · exact ⟨_, rfl⟩
  · next hrx =>
    split
    · next hlen => exact absurd ⟨by simpa using hrx, hlen⟩ h
    · exact ⟨_, rfl⟩

/-- A slot tries to send what it has for its channel, and that takes it or not. -/
theorem sent_deliver {packets : List UInt8} (h : b.hub.senders slot = some k)
    (hp : packets ≠ []) : ((b.deliver slot packets).chan k).queue.sent =
      (b.chan k).queue.sent ++ if b.KeepsUp k then [packets] else [] := by
  unfold deliver
  rw [h]
  dsimp only
  rw [if_neg hp]
  by_cases hk : b.KeepsUp k
  · rw [trySend_of_keepsUp hk, if_pos hk]
    simp
  · obtain ⟨e, he⟩ := trySend_of_not_keepsUp hk packets
    rw [he, if_neg hk, List.append_nil]
    cases e with
    | full => rfl
    | disconnected => rfl

theorem chan_foldl_of_ne {f : Slot → List UInt8} (h : ∀ s ∈ slots, b.hub.senders s ≠ some k) :
    (slots.foldl (fun b slot => b.deliver slot (f slot)) b).chan k = b.chan k := by
  induction slots generalizing b with
  | nil => rfl
  | cons s slots ih =>
    have hs := h s List.mem_cons_self
    refine (ih fun s' hs' hk => ?_).trans (chan_deliver_of_ne hs)
    exact h s' (List.mem_cons_of_mem _ hs') (senders_deliver hk)

theorem senders_foldl_of_notMem {f : Slot → List UInt8} (h : slot ∉ slots) :
    (slots.foldl (fun b slot => b.deliver slot (f slot)) b).hub.senders slot =
      b.hub.senders slot := by
  induction slots generalizing b with
  | nil => rfl
  | cons s slots ih =>
    rw [List.mem_cons, not_or] at h
    exact (ih h.2).trans (senders_deliver_of_ne h.1)

theorem deliver_nil (b : Bridge) (s : Slot) : b.deliver s [] = b := by
  unfold deliver
  split
  · rfl
  · exact if_pos rfl

/-- Only the slot that has the channel puts something into it. -/
theorem sent_foldl {f : Slot → List UInt8} (hk : b.hub.senders slot = some k)
    (honly : ∀ s, b.hub.senders s = some k → s = slot) :
    (((List.finRange 5).foldl (fun b slot => b.deliver slot (f slot)) b).chan k).queue.sent =
      (b.chan k).queue.sent ++ if f slot ≠ [] ∧ b.KeepsUp k then [f slot] else [] := by
  -- The slots before it and after it have nothing to do with the channel.
  obtain ⟨before, after, hslots⟩ := List.append_of_mem (List.mem_finRange slot)
  have hnot : slot ∉ before ++ after := by
    have hnodup := List.nodup_finRange 5
    rw [hslots, List.nodup_middle] at hnodup
    exact (List.nodup_cons.1 hnodup).1
  rw [List.mem_append, not_or] at hnot
  rw [hslots, List.foldl_append, List.foldl_cons]
  have hchan : (before.foldl (fun b slot => b.deliver slot (f slot)) b).chan k = b.chan k :=
    chan_foldl_of_ne fun s hs hsk => hnot.1 (honly s hsk ▸ hs)
  have hsend : (before.foldl (fun b slot => b.deliver slot (f slot)) b).hub.senders slot =
      some k := (senders_foldl_of_notMem hnot.1).trans hk
  have honly' : ∀ s, (before.foldl (fun b slot => b.deliver slot (f slot)) b).hub.senders s =
      some k → s = slot := fun s hs => honly s (senders_foldl hs)
  generalize before.foldl (fun b slot => b.deliver slot (f slot)) b = c at hchan hsend honly' ⊢
  rw [chan_foldl_of_ne fun s hs hsk => hnot.2 (honly' s (senders_deliver hsk) ▸ hs)]
  by_cases hf : f slot = []
  · rw [hf, deliver_nil, hchan, if_neg fun h => h.1 rfl, List.append_nil]
  · have hkeeps : c.KeepsUp k ↔ b.KeepsUp k := by rw [KeepsUp, KeepsUp, hchan]
    rw [sent_deliver hsend hf, hchan]
    simp only [hf, hkeeps, ne_eq, not_false_eq_true, true_and]

/-- Nothing else puts anything into a channel that was made. -/
theorem sent_step (hs : Step b a b') (hk : (b.chan k).made = true)
    (ha : ∀ r data, a ≠ .transfer r (.ok data)) :
    (b'.chan k).queue.sent = (b.chan k).queue.sent := by
  have hdrop : ∀ j, ((b.dropStream j).chan k).queue = (b.chan k).queue := by
    intro j
    rw [dropStream_chan, Function.update_apply]
    split
    · next hkj => rw [hkj]
    · rfl
  have hfail : ∀ i s j start, ((b.fail i s j start).chan k).queue = (b.chan k).queue :=
    fun i s j start => hdrop j
  cases hs with
  | @attach i s j hi hl hj =>
    have hkj : k ≠ j := by
      rintro rfl
      rw [hk] at hj
      cases hj
    simp [attach, hkj]
  | notPurged => rw [hfail]
  | @captured i s j start queue hi hr =>
    unfold captured
    split
    · cases queue with
      | ok r => rfl
      | error e => exact congrArg _ (hfail i s j start)
    · rfl
  | notCaptured => rw [hfail]
  | drop =>
    unfold drop
    split
    · exact congrArg _ (hdrop _)
    · exact congrArg _ (hdrop _)
    · rfl
  | @recv j hj =>
    rw [setChan_chan, Function.update_apply]
    split
    · next hkj => rw [hkj, Fifo.sent_pop]
    · rfl
  | dropStream => rw [hdrop]
  | @transfer r carry data hr => exact absurd rfl (ha r data)
  | stream | purged | release | lock | unlock | transferFailed => rfl

/-! ## What a stream is offered -/

def ofSlot (slot : Slot) (out : List (Nat × Packet)) : List (Nat × Packet) :=
  out.filter (·.1 = slot.val)

def bytes (packets : List (Nat × Packet)) : List UInt8 := packets.flatMap (·.2)

/-- What the step has for the channel `k` of `slot`: the packets of a transfer, if there are any. -/
def due (slot : Slot) (k : ChanId) (x : Bridge × Act) : Option (List (Nat × Packet)) :=
  match x.2 with
  | .transfer r (.ok data) =>
    match x.1.receiver r with
    | .receiving carry =>
      let packets := ofSlot slot (demux x.1.hub.tagged carry data).1
      if x.1.hub.senders slot = some k ∧ packets ≠ [] then some packets else none
    | _ => none
  | _ => none

/-- What a run had for the channel, transfer by transfer. -/
def offered (slot : Slot) (k : ChanId) (tr : List (Bridge × Act)) : List (List (Nat × Packet)) :=
  tr.reverse.filterMap (due slot k)

/-- What of it came while the stream kept up. -/
def given (slot : Slot) (k : ChanId) (tr : List (Bridge × Act)) : List (List (Nat × Packet)) :=
  offered slot k (tr.filter fun x => x.1.KeepsUp k)

/-- The packets of `slot` that the receiver `r` has split off its transfers. -/
def splitOff (tagged : Bool) (slot : Slot) (r : ReceiverId) (tr : List (Bridge × Act)) :
    List (Nat × Packet) :=
  ofSlot slot (received tagged (transfersOf r tr))

theorem offered_cons (x : Bridge × Act) (tr : List (Bridge × Act)) :
    offered slot k (x :: tr) = offered slot k tr ++ (due slot k x).toList := by
  unfold offered
  rw [List.reverse_cons, List.filterMap_append]
  cases h : due slot k x with
  | none => simp [h]
  | some packets => simp [h]

theorem given_cons (x : Bridge × Act) (tr : List (Bridge × Act)) : given slot k (x :: tr) =
    given slot k tr ++ if x.1.KeepsUp k then (due slot k x).toList else [] := by
  unfold given
  by_cases hk : x.1.KeepsUp k
  · rw [List.filter_cons_of_pos (by simpa using hk), offered_cons, if_pos hk]
  · rw [List.filter_cons_of_neg (by simpa using hk), if_neg hk, List.append_nil]

theorem due_of_transfer {carry data : List UInt8} (hr : b.receiver r = .receiving carry) :
    due slot k (b, .transfer r (.ok data)) =
      if b.hub.senders slot = some k ∧ ofSlot slot (demux b.hub.tagged carry data).1 ≠ [] then
        some (ofSlot slot (demux b.hub.tagged carry data).1) else none := by
  simp only [due, hr]

theorem due_eq_none (ha : ∀ r data, a ≠ .transfer r (.ok data)) : due slot k (b, a) = none := by
  unfold due
  split
  · next r data he => exact absurd he (ha r data)
  · rfl

theorem splitOff_of_ne (ha : ∀ data, a ≠ .transfer r (.ok data)) :
    splitOff tagged slot r ((b, a) :: tr) = splitOff tagged slot r tr := by
  have hnone : transfersOf r [(b, a)] = [] := by
    cases a with
    | transfer s data =>
      cases data with
      | error e => rfl
      | ok data =>
        have hs : s ≠ r := by
          rintro rfl
          exact ha data rfl
        simp [transfersOf, hs]
    | _ => rfl
  rw [splitOff, transfersOf_cons, hnone, List.append_nil, splitOff]

theorem received_transfer {carry data : List UInt8} (h : Carries tagged r tr b)
    (hr : b.receiver r = .receiving carry) :
    received tagged (transfersOf r ((b, .transfer r (.ok data)) :: tr)) =
      received tagged (transfersOf r tr) ++ (demux b.hub.tagged carry data).1 := by
  have htr : transfersOf r ((b, .transfer r (.ok data)) :: tr) = transfersOf r tr ++ [data] := by
    rw [transfersOf_cons]
    simp [transfersOf]
  rw [htr, received, List.foldl_concat, h.tagged_eq, h.carry carry hr]
  rfl

theorem splitOff_transfer {carry data : List UInt8} (h : Carries tagged r tr b)
    (hr : b.receiver r = .receiving carry) :
    splitOff tagged slot r ((b, .transfer r (.ok data)) :: tr) =
      splitOff tagged slot r tr ++ ofSlot slot (demux b.hub.tagged carry data).1 := by
  rw [splitOff, received_transfer h hr, ofSlot, List.filter_append]
  rfl

/-- What is handed out are whole packets. -/
theorem length_of_handed {input : List UInt8} {ps : List Nat} {out : List (Nat × Packet)}
    (h : List.Forall₂ (Handed tagged input) ps out) : ∀ x ∈ out, x.2.length = PACKET := by
  induction h with
  | nil => exact nofun
  | cons hp _ ih =>
    intro x hx
    rcases List.mem_cons.1 hx with rfl | hx
    · exact hp.length
    · exact ih x hx

theorem bytes_eq_nil {packets : List (Nat × Packet)}
    (h : ∀ x ∈ packets, x.2.length = PACKET) : bytes packets = [] ↔ packets = [] := by
  constructor
  · intro hb
    rw [bytes, List.flatMap_eq_nil_iff] at hb
    refine List.eq_nil_iff_forall_not_mem.2 fun x hx => ?_
    have hlen := h x hx
    rw [hb x hx] at hlen
    exact absurd hlen (by decide)
  · rintro rfl
    rfl

/-- A receiver splits whole packets off what it goes on with. -/
theorem length_demux {carry data : List UInt8} (h : Carries tagged r tr b)
    (hr : b.receiver r = .receiving carry) :
    ∀ x ∈ (demux b.hub.tagged carry data).1, x.2.length = PACKET := by
  obtain ⟨_, _, -, hhanded, -⟩ :=
    demux_windows tagged (transfersOf r ((b, .transfer r (.ok data)) :: tr))
  intro x hx
  have hmem : x ∈ received tagged (transfersOf r ((b, .transfer r (.ok data)) :: tr)) := by
    rw [received_transfer h hr]
    exact List.mem_append_right _ hx
  exact length_of_handed hhanded x hmem

/-- A transfer puts what is due into the channel, if its stream keeps up. -/
theorem sent_transfer {carry data : List UInt8} (h : Carries tagged r tr b)
    (hr : b.receiver r = .receiving carry)
    (honly : ∀ s, b.hub.senders s = some k → s = slot) :
    ((b.receive r carry data).chan k).queue.sent = (b.chan k).queue.sent ++
      (if b.KeepsUp k then (due slot k (b, .transfer r (.ok data))).toList else []).map bytes := by
  have hchan : (b.receive r carry data).chan k =
      ((List.finRange 5).foldl (fun c slot => c.deliver slot
        (packetsOf (demux b.hub.tagged carry data).1 slot)) b).chan k := by
    unfold receive
    dsimp only
    split
    · rfl
    · rfl
  have hnil : packetsOf (demux b.hub.tagged carry data).1 slot = [] ↔
      ofSlot slot (demux b.hub.tagged carry data).1 = [] :=
    bytes_eq_nil fun x hx => length_demux h hr x (List.mem_of_mem_filter hx)
  rw [hchan, due_of_transfer hr]
  by_cases hk : b.hub.senders slot = some k
  · rw [sent_foldl hk honly]
    by_cases hkeeps : b.KeepsUp k
    · by_cases hp : ofSlot slot (demux b.hub.tagged carry data).1 = []
      · simp [hnil.2 hp, hp]
      · rw [if_pos ⟨fun h => hp (hnil.1 h), hkeeps⟩, if_pos hkeeps, if_pos ⟨hk, hp⟩]
        rfl
    · simp [hkeeps]
  · have hnone : ∀ s ∈ List.finRange 5, b.hub.senders s ≠ some k := by
      rintro s - hs
      exact hk (honly s hs ▸ hs)
    rw [chan_foldl_of_ne hnone]
    simp [hk]

/-! ## Who feeds a stream -/

/-- What holds of the stream of `slot` with the channel `k` once it was attached, at the end of
`earlier`. -/
structure Fed (tagged : Bool) (slot : Slot) (k : ChanId) (earlier later : List (Bridge × Act))
    (b : Bridge) : Prop where
  carries : ∀ r, Carries tagged r (later ++ earlier) b
  shows : ∃ q, Shows b q
  made : (b.chan k).made = true
  only : ∀ s, b.hub.senders s = some k → s = slot
  sent : (b.chan k).queue.sent = (given slot k later).map bytes
  /-- As long as nothing was offered, there was nothing to offer. -/
  unoffered : b.Sends k → offered slot k later = [] → ∀ r,
    splitOff tagged slot r (later ++ earlier) = splitOff tagged slot r earlier
  /-- One receiver has split off what was offered, and runs while the slot has the channel. -/
  feeder : offered slot k later ≠ [] → ∃ r rest, splitOff tagged slot r (later ++ earlier) =
    splitOff tagged slot r earlier ++ (offered slot k later).flatten ++ rest ∧
      (b.Sends k → rest = [] ∧ b.Receiving r)

theorem Fed.sends (h : Fed tagged slot k earlier later b) (hs : Step b a b') (hk : b'.Sends k) :
    b.hub.senders slot = some k := by
  obtain ⟨s, hk⟩ := hk
  have hk := senders_of_made hs h.made hk
  exact h.only s hk ▸ hk

/-- The receiver that runs goes on, if the slot has the channel still. -/
theorem Fed.receiving (h : Fed tagged slot k earlier later b) (hs : Step b a b')
    (hr : b.Receiving r) (hk : b'.Sends k) : b'.Receiving r := by
  obtain ⟨q, hq⟩ := h.shows
  obtain rfl := (hq.receiving r).1 hr
  exact receiving_of_sends hq hs hk

theorem Fed.stay (h : Fed tagged slot k earlier later b) (hs : Step b a b')
    (ha : ∀ r data, a ≠ .transfer r (.ok data)) :
    Fed tagged slot k earlier ((b, a) :: later) b' := by
  have hdue : due slot k (b, a) = none := due_eq_none ha
  have hoffered : offered slot k ((b, a) :: later) = offered slot k later := by
    rw [offered_cons, hdue, Option.toList_none, List.append_nil]
  have hsplit : ∀ r, splitOff tagged slot r ((b, a) :: later ++ earlier) =
      splitOff tagged slot r (later ++ earlier) := fun r => splitOff_of_ne (ha r)
  obtain ⟨q, hq⟩ := h.shows
  obtain ⟨q', hq', -, -⟩ := hq.step hs
  refine ⟨fun r => (h.carries r).step hs, ⟨q', hq'⟩, made_step hs h.made,
    fun s hk => h.only s (senders_of_made hs h.made hk), ?_, fun hk hnil r => ?_, fun hnil => ?_⟩
  · rw [sent_step hs h.made ha, h.sent, given_cons, hdue]
    simp
  · rw [hsplit]
    exact h.unoffered ⟨slot, h.sends hs hk⟩ (hoffered ▸ hnil) r
  · obtain ⟨r, rest, he, hrest⟩ := h.feeder (hoffered ▸ hnil)
    refine ⟨r, rest, by rw [hsplit, hoffered, he], fun hk => ?_⟩
    obtain ⟨hnone, hr⟩ := hrest ⟨slot, h.sends hs hk⟩
    exact ⟨hnone, h.receiving hs hr hk⟩

theorem Fed.transfer {carry data : List UInt8} (h : Fed tagged slot k earlier later b)
    (hr : b.receiver r = .receiving carry) :
    Fed tagged slot k earlier ((b, .transfer r (.ok data)) :: later) (b.receive r carry data) := by
  have hs : Step b (.transfer r (.ok data)) (b.receive r carry data) := .transfer hr
  have hrecv : b.Receiving r := by rw [Receiving, hr, Receiver.runs]
  have hne : ∀ s, s ≠ r → splitOff tagged slot s ((b, .transfer r (.ok data)) :: later ++ earlier) =
      splitOff tagged slot s (later ++ earlier) :=
    fun s hs => splitOff_of_ne fun data he => hs (Act.transfer.inj he).1.symm
  have hself : splitOff tagged slot r ((b, .transfer r (.ok data)) :: (later ++ earlier)) =
      splitOff tagged slot r (later ++ earlier) ++ ofSlot slot (demux b.hub.tagged carry data).1 :=
    splitOff_transfer (h.carries r) hr
  have hdue : due slot k (b, .transfer r (.ok data)) =
      if b.hub.senders slot = some k ∧ ofSlot slot (demux b.hub.tagged carry data).1 ≠ [] then
        some (ofSlot slot (demux b.hub.tagged carry data).1) else none := due_of_transfer hr
  generalize ofSlot slot (demux b.hub.tagged carry data).1 = new at hself hdue
  obtain ⟨q, hq⟩ := h.shows
  obtain ⟨q', hq', -, -⟩ := hq.step hs
  refine ⟨fun s => (h.carries s).step hs, ⟨q', hq'⟩, made_step hs h.made,
    fun s hk => h.only s (senders_of_made hs h.made hk), ?_, fun hk hnil s => ?_, fun hnil => ?_⟩
  · rw [sent_transfer (h.carries r) hr h.only, h.sent, given_cons, List.map_append]
  · have hk := h.sends hs hk
    rw [offered_cons, List.append_eq_nil_iff, Option.toList_eq_nil_iff, hdue] at hnil
    have hnone : new = [] := by
      by_contra hp
      rw [if_pos ⟨hk, hp⟩] at hnil
      cases hnil.2
    by_cases hsr : s = r
    · rw [hsr, List.cons_append, hself, hnone, List.append_nil]
      exact h.unoffered ⟨slot, hk⟩ hnil.1 r
    · rw [hne s hsr]
      exact h.unoffered ⟨slot, hk⟩ hnil.1 s
  · by_cases hk : b.hub.senders slot = some k ∧ new ≠ []
    · rw [offered_cons, hdue, if_pos hk]
      refine ⟨r, [], ?_, fun hk' => ⟨rfl, h.receiving hs hrecv hk'⟩⟩
      rw [List.cons_append, hself]
      by_cases hold : offered slot k later = []
      · rw [h.unoffered ⟨slot, hk.1⟩ hold r, hold]
        simp
      -- It is the receiver that has fed the stream before.
      · obtain ⟨s, rest, he, hrest⟩ := h.feeder hold
        obtain ⟨hrest, hsr⟩ := hrest ⟨slot, hk.1⟩
        obtain rfl : s = r :=
          Reception.receiving.inj (((hq.receiving s).1 hsr).symm.trans ((hq.receiving r).1 hrecv))
        rw [he, hrest]
        simp
    · rw [offered_cons, hdue, if_neg hk, Option.toList_none, List.append_nil] at hnil ⊢
      obtain ⟨s, rest, he, hrest⟩ := h.feeder hnil
      by_cases hsr : s = r
      · subst hsr
        refine ⟨s, rest ++ new, ?_, fun hk' => ?_⟩
        · rw [List.cons_append, hself, he, List.append_assoc]
        · have hsend := h.sends hs hk'
          have hnone : new = [] := by
            by_contra hp
            exact hk ⟨hsend, hp⟩
          rw [(hrest ⟨slot, hsend⟩).1, hnone]
          exact ⟨rfl, h.receiving hs hrecv hk'⟩
      · refine ⟨s, rest, by rw [hne s hsr, he], fun hk' => ?_⟩
        obtain ⟨hnone, hs'⟩ := hrest ⟨slot, h.sends hs hk'⟩
        exact ⟨hnone, h.receiving hs hs' hk'⟩

theorem fed_attach {b₀ : Bridge} (h : Lts.Run Step (init tagged) earlier b₀)
    (hs : Step b₀ (.attach i k) b) (hi : b₀.call i = .queued slot) :
    Fed tagged slot k ((b₀, .attach i k) :: earlier) [] b := by
  obtain ⟨-, q, hq⟩ := reception_reachable h.reachable
  obtain ⟨q', hq', -, -⟩ := hq.step hs
  have hcarries := carries_of_run (h.snoc hs)
  cases hs with
  | @attach _ s _ hs hl hmade =>
    obtain rfl : slot = s := Call.queued.inj (hi.symm.trans hs)
    have hchan : (b₀.attach i slot k).chan k = { made := true, rx := true } :=
      Function.update_self ..
    refine ⟨hcarries, ⟨q', hq'⟩, by rw [hchan], fun s hk => ?_, by rw [hchan]; rfl,
      fun _ _ _ => rfl, fun hnil => absurd rfl hnil⟩
    -- The channel is new, so that no other slot has it.
    have hk : Function.update b₀.hub.senders slot (some k) s = some k := hk
    by_contra hne
    rw [Function.update_of_ne hne] at hk
    rw [made_of_sends h.reachable ⟨s, hk⟩] at hmade
    cases hmade

/-- From `attach` on, along every run. -/
theorem fed_of_run (h : Fed tagged slot k earlier [] b) (hr : Lts.Run Step b later b') :
    Fed tagged slot k earlier later b' := by
  induction hr with
  | nil => exact h
  | snoc _ hs ih =>
    have hstep := hs
    cases hs with
    | transfer hr => exact ih.transfer hr
    | _ => exact ih.stay hstep nofun

theorem received_append (transfers later : List (List UInt8)) :
    received tagged transfers <+: received tagged (transfers ++ later) := by
  induction later using List.reverseRec with
  | nil => rw [List.append_nil]
  | append_singleton later data ih =>
    rw [← List.append_assoc, received, received, List.foldl_concat]
    exact ih.trans (List.prefix_append _ _)

theorem transfersOf_append (r : ReceiverId) :
    transfersOf r (later ++ earlier) = transfersOf r earlier ++ transfersOf r later := by
  rw [transfersOf, List.reverse_append, List.filterMap_append]
  rfl

/-- Whichever receiver feeds it, what was offered follows what was split off before `attach`. -/
theorem Fed.follows (h : Fed tagged slot k earlier later b) : ∃ r rest,
    splitOff tagged slot r (later ++ earlier) =
      splitOff tagged slot r earlier ++ (offered slot k later).flatten ++ rest ∧
      (b.Sends k → rest = []) := by
  by_cases hnil : offered slot k later = []
  · rw [hnil]
    by_cases hk : b.Sends k
    · exact ⟨0, [], by simpa using h.unoffered hk hnil 0, fun _ => rfl⟩
    · obtain ⟨rest, hrest⟩ : splitOff tagged slot 0 earlier <+:
          splitOff tagged slot 0 (later ++ earlier) := by
        rw [splitOff, splitOff, transfersOf_append]
        exact (received_append _ _).filter _
      exact ⟨0, rest, by simpa using hrest.symm, fun hk' => absurd hk' hk⟩
  · obtain ⟨r, rest, he, hrest⟩ := h.feeder hnil
    exact ⟨r, rest, he, fun hk => (hrest hk).1⟩

/-- The packets of a slot are the windows that have its tag. -/
theorem handed_ofSlot {input : List UInt8} {ps : List Nat} {out : List (Nat × Packet)}
    (h : List.Forall₂ (Handed tagged input) (ps.filter (ofTuner tagged input)) out) :
    List.Forall₂ (Handed tagged input)
      (ps.filter fun p => inputId tagged (input.getD p 0) = slot.val + 1) (ofSlot slot out) := by
  have htuner : ps.filter (fun p => inputId tagged (input.getD p 0) = slot.val + 1) =
      (ps.filter (ofTuner tagged input)).filter
        fun p => inputId tagged (input.getD p 0) = slot.val + 1 := by
    rw [List.filter_filter]
    refine List.filter_congr fun p _ => ?_
    have := slot.isLt
    simp only [ofTuner]
    grind
  rw [htuner]
  refine List.rel_filter (fun p x hp => ?_) h
  have := hp.slot
  simp only [decide_eq_true_eq]
  omega

/-- What the stream of `slot` with the channel `k` gets, attached at the end of `earlier`. What the
reader has and is yet to get are the packets that were offered while it kept up. And of what some
receiver got there are windows `ps`, such that those with the tag of the slot are in order what was
split off for it: before `attach`, then what the stream was offered, and then the rest, which there
is only once the slot has let go of the channel. -/
structure Served (tagged : Bool) (slot : Slot) (k : ChanId) (earlier later : List (Bridge × Act))
    (b : Bridge) : Prop where
  given : (b.chan k).queue.received ++ (b.chan k).queue.queue = (given slot k later).map bytes
  windows : ∃ r input ps n rest, input = (transfersOf r (later ++ earlier)).flatten ∧
    Windows tagged input (fun p => locks tagged input p = true) 0 (ps, n) ∧
    List.Forall₂ (Handed tagged input)
      (ps.filter fun p => inputId tagged (input.getD p 0) = slot.val + 1)
      (splitOff tagged slot r earlier ++ (offered slot k later).flatten ++ rest) ∧
    (b.Sends k → rest = [])

/-- **A stream gets whole packets of its slot, in order and each once**, along every run. -/
theorem streams_packets {b₀ : Bridge}
    (h : Lts.Run Step (init tagged) (later ++ (b₀, .attach i k) :: earlier) b)
    (hi : b₀.call i = .queued slot) :
    Served tagged slot k ((b₀, .attach i k) :: earlier) later b := by
  obtain ⟨b₁, hearlier, hs, hlater⟩ := h.split
  have hfed := fed_of_run (fed_attach hearlier hs hi) hlater
  refine ⟨by rw [Fifo.received_append_queue, hfed.sent], ?_⟩
  obtain ⟨r, rest, he, hrest⟩ := hfed.follows
  obtain ⟨ps, n, hwindows, hhanded, -⟩ :=
    demux_windows tagged (transfersOf r (later ++ (b₀, .attach i k) :: earlier))
  refine ⟨r, _, ps, n, rest, rfl, hwindows, ?_, hrest⟩
  rw [← he]
  exact handed_ofSlot hhanded

theorem call_receive (b : Bridge) (r : ReceiverId) (carry data : List UInt8) :
    (b.receive r carry data).call = b.call := by
  obtain ⟨b', hs, ⟨carry', he⟩ | he⟩ := receive_cases b r carry data
  · rw [he]
    exact hs.call
  · rw [he]
    exact hs.call

/-- Packets of the first two inputs by turns. -/
def byTurns : List UInt8 :=
  let packet (sync : UInt8) := sync :: List.replicate 187 0
  packet 0x17 ++ packet 0x27 ++ packet 0x17 ++ packet 0x27

/-- The stream of the first input gets its two packets of the four, the last of which was cut, and
misses those that come after it was dropped. -/
theorem streams_packets_dropped : ∃ (slot : Slot) (later : List (Bridge × Act)) (b₀ : Bridge)
    (earlier : List (Bridge × Act)) (b : Bridge),
    Lts.Run Step (init true) (later ++ (b₀, .attach 0 0) :: earlier) b ∧
      b₀.call 0 = .queued slot ∧ (offered slot 0 later).length = 2 ∧
      (given slot 0 later).length = 1 ∧
      ((b.chan 0).queue.received.map List.length) = [2 * PACKET] ∧
      Served true slot 0 ((b₀, .attach 0 0) :: earlier) later b := by
  let b₁ := (init true).goto 0 (.queued 0)
  let b₂ := b₁.attach 0 0 0
  let b₃ := b₂.goto 0 (.capturing 0 0 true)
  let b₄ := b₃.captured 0 0 0 true (.ok 0)
  let b₅ := b₄.receive 0 [] (byTurns.take 751)
  let b₆ := b₅.receive 0 (byTurns.take 751) [0]
  let b₇ := b₆.setChan 0 { b₆.chan 0 with queue := (b₆.chan 0).queue.pop }
  let b₈ := b₇.dropStream 0
  have h₅ : b₅.receiver 0 = .receiving (byTurns.take 751) := by decide +kernel
  have h₆ : b₆.receiver 0 = .receiving [] := by decide +kernel
  have hcall : ∀ i, (b₆.call i).chan ≠ some 0 := by
    intro i
    rw [call_receive, call_receive]
    by_cases hi : i = 0
    · subst hi
      exact (Option.some_ne_none 0).symm
    · simp [b₄, b₃, b₂, b₁, captured, attach, Hub.attach, init, Hub.new, hi, Call.chan]
  have hrun : Lts.Run Step (init true)
      ([(b₈, .transfer 0 (.ok byTurns)), (b₇, .dropStream 0), (b₆, .recv 0),
        (b₅, .transfer 0 (.ok [0])), (b₄, .transfer 0 (.ok (byTurns.take 751))),
        (b₃, .captured 0 (.ok (.ok 0))), (b₂, .purged 0 (.ok ()))] ++
        (b₁, .attach 0 0) :: [(init true, .stream 0 0)]) (b₈.receive 0 [] byTurns) := by
    refine .snoc (.snoc (.snoc (.snoc (.snoc (.snoc (.snoc (.snoc (.snoc .nil ?_) ?_) ?_) ?_) ?_)
      ?_) ?_) ?_) ?_
    · exact .stream rfl
    · exact .attach rfl rfl rfl
    · exact .purged rfl
    · exact .captured rfl fun _ _ => rfl
    · exact .transfer rfl
    · exact .transfer h₅
    · exact .recv hcall
    · exact .dropStream hcall
    · exact .transfer h₆
  exact ⟨0, _, b₁, _, _, hrun, rfl, by decide +kernel, by decide +kernel, by decide +kernel,
    streams_packets hrun rfl⟩

end Bridge

end Tunelith.Px4
