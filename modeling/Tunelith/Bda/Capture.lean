import Tunelith.Bda.Reader
import Tunelith.Bda.Tuner
import Tunelith.Lib.Fifo

/-!
# The capture of a graph of BDA

The thread of a graph takes every frame as it comes, and under the lock of the sink leaves it out,
hands it to the stream, or lets it go. A tune says how much is to be left out. `stream` puts the
sender of a channel into the sink, in place of the one before, and the reads end once and for all.

A step is what is done under the lock, or by the reader or the device in between.

* `frames_reach_streams` — where every frame of the device goes, in every run.
* `ends_told_once` — how the streams end once the reads have.
-/

namespace Tunelith.Bda

/-- The frames a stream may fall behind by before its data is dropped. -/
def STREAM_BACKLOG : Nat := 64

/-! ## The sink and the streams -/

/-- Where the frames of a running graph go. -/
structure Sink where
  /-- The stream taking the frames. -/
  tx : Option Nat := none
  /-- The bytes still to be left out as received before the last tune. -/
  stale : Nat := 0
  /-- Whether the pins are being stopped, which ends the reads on purpose. -/
  stopping : Bool := false
  failure : Option Error := none
  /-- Whether the reads have ended, leaving nothing for a stream to take. -/
  ended : Bool := false

def Sink.state (sink : Sink) : SinkState where
  streaming := sink.tx.isSome
  stale := sink.stale
  failure := sink.failure
  ended := sink.ended

/-- The frames of a stream, and who reads it. -/
structure Stream where
  made : Bool := false
  rx : Bool := false
  queue : Fifo Frame := .empty
  /-- The frames ended, and the failure was asked for. -/
  isOver : Bool := false

inductive TrySendError
  | full
  | disconnected
deriving DecidableEq, Repr

/-- A channel has room for what it was made for and for one more of its sender. -/
def Stream.trySend (k : Stream) (frame : Frame) : Except TrySendError Stream :=
  if !k.rx then .error .disconnected
  else if k.queue.queue.length ≤ STREAM_BACKLOG then .ok { k with queue := k.queue.push frame }
  else .error .full

structure Capture where
  reader : Reader
  sink : Sink := {}
  /-- Whether the graph is there, which the tuner and its calls have shares in. -/
  graph : Bool := false
  stream : Nat → Stream := fun _ => {}

namespace Capture

@[simps] def setSink (s : Capture) (sink : Sink) : Capture := { s with sink := sink }

@[simps] def setStream (s : Capture) (k : Nat) (K : Stream) : Capture :=
  { s with stream := Function.update s.stream k K }

@[simps] def setReader (s : Capture) (reader : Reader) : Capture := { s with reader := reader }

inductive Fate
  | stale
  | nobody
  | sent (k : Nat)
  | full (k : Nat)
  | disconnected
deriving DecidableEq

def fate (s : Capture) (frame : Frame) : Fate :=
  if s.sink.stale > 0 then .stale
  else match s.sink.tx with
    | none => .nobody
    | some k => match (s.stream k).trySend frame with
      | .ok _ => .sent k
      | .error .full => .full k
      | .error .disconnected => .disconnected

def take (s : Capture) (frame : Frame) : Capture :=
  if s.sink.stale > 0 then s.setSink { s.sink with stale := s.sink.stale - frame.length }
  else match s.sink.tx with
    | none => s
    | some k => match (s.stream k).trySend frame with
      | .ok K => s.setStream k K
      | .error .full => s
      | .error .disconnected => s.setSink { s.sink with tx := none }

def fail (s : Capture) (e : Error) : Capture :=
  s.setSink { s.sink with
    failure := if s.sink.stopping then s.sink.failure else some e
    tx := none
    ended := true }

def attach (s : Capture) (k : Nat) : Capture :=
  (s.setSink { s.sink with tx := some k }).setStream k { made := true, rx := true }

def takeFailure (s : Capture) : Capture := s.setSink { s.sink with failure := none }

/-! ## Steps -/

inductive Act
  /-- The reader goes on with a call, or the device with a read. -/
  | reader (a : Reader.Act)
  | start
  | take (frame : Frame)
  | fail (e : Error)
  /-- `tune`, with so many bytes received before it. -/
  | tune (stale : Nat)
  | stream (k : Nat)
  /-- `stream` returns the failure of the reads. -/
  | streamFails (e : Error)
  /-- `stream` returns that the capture has stopped. -/
  | streamEnded
  | recv (k : Nat) (frame : Frame)
  /-- The frames of a stream have ended, and why is asked for. -/
  | tail (k : Nat) (e : Option Error)
  | dropStream (k : Nat)
  | stop

def begins : Reader.Act → Bool
  | .next | .drop => true
  | _ => false

inductive Step : Capture → Act → Capture → Prop
  | reader {s : Capture} {a : Reader.Act} {r : Reader} (ha : begins a = false)
      (hr : Reader.Step s.reader a r) : Step s (.reader a) (s.setReader r)
  | start {s : Capture} {r : Reader} (hc : s.reader.call = .made)
      (hr : Reader.Step s.reader .next r) : Step s .start { s.setReader r with graph := true }
  | take {s : Capture} {frame : Frame} {r : Reader} (hc : s.reader.call = .returned (.ok frame))
      (hr : Reader.Step s.reader .next r) : Step s (.take frame) ((s.take frame).setReader r)
  | fail {s : Capture} {e : Error} {r : Reader} (hc : s.reader.call = .returned (.error e))
      (hr : Reader.Step s.reader .drop r) : Step s (.fail e) ((s.fail e).setReader r)
  | tune {s : Capture} {stale : Nat} (hg : s.graph = true) :
      Step s (.tune stale) (s.setSink { s.sink with stale := stale })
  | stream {s : Capture} {k : Nat} (hg : s.graph = true) (hf : s.sink.failure = none)
      (he : s.sink.ended = false) (hk : (s.stream k).made = false) :
      Step s (.stream k) (s.attach k)
  | streamFails {s : Capture} {e : Error} (hg : s.graph = true) (hf : s.sink.failure = some e) :
      Step s (.streamFails e) s.takeFailure
  | streamEnded {s : Capture} (hg : s.graph = true) (hf : s.sink.failure = none)
      (he : s.sink.ended = true) : Step s .streamEnded s
  | recv {s : Capture} {k : Nat} {frame : Frame} (hk : (s.stream k).rx = true)
      (hq : (s.stream k).queue.next? = some frame) :
      Step s (.recv k frame)
        (s.setStream k { s.stream k with queue := (s.stream k).queue.pop })
  | tail {s : Capture} {k : Nat} (hk : (s.stream k).rx = true) (ho : (s.stream k).isOver = false)
      (hq : (s.stream k).queue.next? = none) (ht : s.sink.tx ≠ some k) :
      Step s (.tail k s.sink.failure) (s.takeFailure.setStream k { s.stream k with isOver := true })
  | dropStream {s : Capture} {k : Nat} (hk : (s.stream k).rx = true) :
      Step s (.dropStream k) (s.setStream k { s.stream k with rx := false })
  | stop {s : Capture} (hg : s.graph = true) :
      Step s .stop { s.setSink { s.sink with stopping := true } with graph := false }

/-- The steps of `stream` are what it does to the sink, and end as it ends. -/
theorem takeFrames_of_step {ω : Type} {s t : Capture} {a : Act} (hs : Step s a t) (w : ω) :
    match a with
    | .stream _ => Graph.takeFrames (s.sink.state, w) = (.ok (), t.sink.state, w)
    | .streamFails e => Graph.takeFrames (s.sink.state, w) = (.error e, t.sink.state, w)
    | .streamEnded => Graph.takeFrames (s.sink.state, w) =
        (.error (.io .other "the capture has stopped"), t.sink.state, w)
    | _ => True := by
  cases hs with
  | stream _ hf he _ => simp [Graph.takeFrames, Eff.bind_apply, Sink.state, Eff.require, attach, *]
  | streamFails _ hf =>
    simp [Graph.takeFrames, Eff.bind_apply, Sink.state, takeFailure, *]
  | streamEnded _ hf he => simp [Graph.takeFrames, Eff.bind_apply, Sink.state, Eff.require, *]
  | _ => trivial

theorem tune_of_step {ω : Type} (graph : Graph ω) (params : TuneParams) {s t : Capture}
    (hs : Step s (.tune graph.staleBytes) t) (w : ω) :
    (graph.tune params (s.sink.state, w)).2.1 = t.sink.state := by
  cases hs
  rfl

/-! ## What a run does -/

/-- The frames the thread took. -/
def taken (tr : List (Capture × Act)) : List Frame :=
  (tr.filterMap fun x => match x.2 with
    | .take frame => some frame
    | _ => none).reverse

def sentTo (k : Nat) (tr : List (Capture × Act)) : List Frame :=
  (tr.filterMap fun x => match x.2 with
    | .take frame => if x.1.fate frame = .sent k then some frame else none
    | _ => none).reverse

/-- Why the reads ended, if not on purpose. -/
def failures (tr : List (Capture × Act)) : List Error :=
  (tr.filterMap fun x => match x.2 with
    | .fail e => if x.1.sink.stopping then none else some e
    | _ => none).reverse

/-- The failures that somebody heard of. -/
def told (tr : List (Capture × Act)) : List Error :=
  (tr.filterMap fun x => match x.2 with
    | .streamFails e => some e
    | .tail _ e => e
    | _ => none).reverse

def readerAct : Act → Option Reader.Act
  | .reader a => some a
  | .start | .take _ => some .next
  | .fail _ => some .drop
  | _ => none

def readerRun (tr : List (Capture × Act)) : List (Reader × Reader.Act) :=
  tr.filterMap fun x => (readerAct x.2).map fun a => (x.1.reader, a)

def handOf : Phase → List Frame
  | .returned (.ok frame) => [frame]
  | _ => []

/-- The frame returned to the thread, which it has yet to take. -/
def inHand (s : Capture) : List Frame := handOf s.reader.call

variable {n : Nat} {s s' t : Capture} {a : Act} {tr : List (Capture × Act)} {k : Nat}
  {frame : Frame} {e : Error}

theorem readerRun_run {r : Reader} (h : Lts.Run Step { reader := r } tr s) :
    Lts.Run Reader.Step r (readerRun tr) s.reader := by
  refine h.project Capture.reader readerAct fun s a t hs => ?_
  cases hs with
  | reader _ hr => exact hr
  | start _ hr => exact hr
  | take _ hr => exact hr
  | fail _ hr => exact hr
  | tune | stream | streamFails | streamEnded | recv | tail | dropStream | stop => rfl

theorem taken_take : taken ((s, .take frame) :: tr) = taken tr ++ [frame] := by simp [taken]

theorem sentTo_take : sentTo k ((s, .take frame) :: tr) =
    sentTo k tr ++ if s.fate frame = .sent k then [frame] else [] := by
  by_cases hf : s.fate frame = .sent k <;> simp [sentTo, hf]

theorem failures_fail : failures ((s, .fail e) :: tr) =
    failures tr ++ if s.sink.stopping then [] else [e] := by
  cases hs : s.sink.stopping <;> simp [failures, hs]

theorem told_streamFails : told ((s, .streamFails e) :: tr) = told tr ++ [e] := by simp [told]

theorem told_tail {e : Option Error} : told ((s, .tail k e) :: tr) = told tr ++ e.toList := by
  cases e <;> simp [told]

theorem sentTo_sublist (k : Nat) (tr : List (Capture × Act)) :
    (sentTo k tr).Sublist (taken tr) := by
  induction tr with
  | nil => exact List.Sublist.refl _
  | cons x tr ih =>
    obtain ⟨s, a⟩ := x
    cases a with
    | take frame =>
      rw [sentTo_take, taken_take]
      refine ih.append ?_
      split
      · exact List.Sublist.refl _
      · exact List.nil_sublist _
    | _ => exact ih

/-! ## Frames -/

theorem trySend_queue {K K' : Stream} (h : K.trySend frame = .ok K') :
    K' = { K with queue := K.queue.push frame } := by
  unfold Stream.trySend at h
  split at h
  · cases h
  · split at h
    · exact (Except.ok.inj h).symm
    · cases h

theorem take_stream (s : Capture) (frame : Frame) (k : Nat) :
    ((s.take frame).stream k).made = (s.stream k).made ∧
    ((s.take frame).stream k).rx = (s.stream k).rx ∧
    ((s.take frame).stream k).queue =
      if s.fate frame = .sent k then (s.stream k).queue.push frame else (s.stream k).queue := by
  unfold take fate
  by_cases hs : s.sink.stale > 0
  · simp [if_pos hs]
  · rw [if_neg hs, if_neg hs]
    cases s.sink.tx with
    | none => simp
    | some j =>
      cases hK : (s.stream j).trySend frame with
      | ok K =>
        have := trySend_queue hK
        by_cases hk : k = j
        · subst hk
          simp [hK, this]
        · simp [hK, Function.update_of_ne hk, Ne.symm hk]
      | error e => cases e <;> simp [hK]

theorem take_sink (s : Capture) (frame : Frame) :
    (s.take frame).sink.failure = s.sink.failure ∧ (s.take frame).sink.ended = s.sink.ended ∧
      (s.take frame).sink.stale = s.sink.stale - frame.length ∧
      (s.sink.tx = none → (s.take frame).sink.tx = none) := by
  unfold take
  split
  · simp
  · next hs =>
    have : s.sink.stale - frame.length = s.sink.stale := by omega
    rw [this]
    split
    · simp
    · split <;> simp [*]

theorem fate_eq_stale : s.fate frame = .stale ↔ 0 < s.sink.stale := by
  unfold fate
  split
  · next h => exact iff_of_true rfl h
  · next h =>
    refine iff_of_false (fun hf => ?_) h
    split at hf
    · cases hf
    · split at hf <;> cases hf

theorem rx_of_sent (h : s.fate frame = .sent k) : (s.stream k).rx = true := by
  unfold fate at h
  split at h
  · cases h
  · split at h
    · cases h
    · next j _ =>
      cases hK : (s.stream j).trySend frame with
      | ok K =>
        simp only [hK] at h
        cases h
        unfold Stream.trySend at hK
        split at hK
        · cases hK
        · next hrx => simpa using hrx
      | error e => cases e <;> simp [hK] at h

/-! ## The invariant -/

structure Inv (tr : List (Capture × Act)) (s : Capture) : Prop where
  sent : ∀ k, (s.stream k).queue.sent = sentTo k tr
  unmade : ∀ k, (s.stream k).made = false →
    (s.stream k).queue = .empty ∧ (s.stream k).rx = false
  returned : Reader.returned (readerRun tr) = taken tr ++ s.inHand
  told : told tr ++ s.sink.failure.toList = failures tr
  going : s.sink.ended = false → failures tr = []
  ended : s.sink.ended = true → s.sink.tx = none ∧ s.reader.call.Dropped
  once : (failures tr).length ≤ 1

theorem inv_init : Inv [] { reader := { call := .making n } } where
  sent _ := rfl
  unmade _ _ := ⟨rfl, rfl⟩
  returned := rfl
  told := rfl
  going _ := rfl
  ended := nofun
  once := Nat.zero_le 1

theorem returned_step {r r' : Reader} {a : Reader.Act} {l : List (Reader × Reader.Act)}
    (ha : begins a = false) (h : Reader.Step r a r') :
    ∃ new, Reader.returned ((r, a) :: l) = Reader.returned l ++ new ∧
      handOf r'.call = handOf r.call ++ new := by
  cases h with
  | next | drop => cases ha
  | @again b frame hc => exact ⟨[frame], by simp [Reader.returned], by rw [hc]; rfl⟩
  | fill | abort => exact ⟨[], (List.append_nil _).symm, (List.append_nil _).symm⟩
  | free hc => exact ⟨[], (List.append_nil _).symm, by rw [hc]; rfl⟩
  | make hc => exact ⟨[], (List.append_nil _).symm, by rw [hc]; rfl⟩
  | unmade hc => exact ⟨[], (List.append_nil _).symm, by rw [hc]; rfl⟩
  | refused hc => exact ⟨[], (List.append_nil _).symm, by rw [hc]; rfl⟩
  | made hc => exact ⟨[], (List.append_nil _).symm, by rw [hc]; rfl⟩
  | copy hc => exact ⟨[], (List.append_nil _).symm, by rw [hc]; rfl⟩
  | fail hc => exact ⟨[], (List.append_nil _).symm, by rw [hc]; rfl⟩
  | lose hc => exact ⟨[], (List.append_nil _).symm, by rw [hc]; rfl⟩
  | reap hc => exact ⟨[], (List.append_nil _).symm, by rw [hc]; rfl⟩

theorem dropped_step {r r' : Reader} {a : Reader.Act} (h : Reader.Step r a r')
    (hd : r.call.Dropped) : r'.call.Dropped := by
  cases h with
  | unmade | refused | drop | reap | free => trivial
  | fill | abort => exact hd
  | next hc | made hc | make hc | copy hc | fail hc | again hc | lose hc =>
    first
    | exact absurd hd (Phase.not_dropped_of_free hc)
    | (rw [hc] at hd; exact hd.elim)

theorem set_stream (h : Inv tr s) (hk : (s.stream k).rx = true) {K : Stream}
    (hm : K.made = (s.stream k).made) (hq : K.queue.sent = (s.stream k).queue.sent) :
    (∀ j, ((s.setStream k K).stream j).queue.sent = sentTo j tr) ∧
      ∀ j, ((s.setStream k K).stream j).made = false →
        ((s.setStream k K).stream j).queue = .empty ∧ ((s.setStream k K).stream j).rx = false := by
  refine ⟨fun j => ?_, fun j hj => ?_⟩
  · by_cases hjk : j = k
    · subst hjk
      rw [setStream_stream, Function.update_self, hq]
      exact h.sent j
    · rw [setStream_stream, Function.update_of_ne hjk]
      exact h.sent j
  · by_cases hjk : j = k
    · subst hjk
      rw [setStream_stream, Function.update_self, hm] at hj
      rw [(h.unmade j hj).2] at hk
      cases hk
    · rw [setStream_stream, Function.update_of_ne hjk] at hj ⊢
      exact h.unmade j hj

theorem inv_step (h : Inv tr s) (hs : Step s a s') : Inv ((s, a) :: tr) s' := by
  cases hs with
  | @reader a r ha hr =>
    obtain ⟨new, hret, hhand⟩ := returned_step (l := readerRun tr) ha hr
    refine ⟨h.sent, h.unmade, ?_, h.told, h.going,
      fun he => (h.ended he).imp_right (dropped_step hr), h.once⟩
    show Reader.returned ((s.reader, a) :: readerRun tr) = taken tr ++ handOf r.call
    rw [hret, h.returned, hhand, List.append_assoc]
    rfl
  | @start r hc hr =>
    have hhand : s.inHand = [] := by rw [inHand, hc]; rfl
    cases hr
    refine ⟨h.sent, h.unmade, ?_, h.told, h.going, fun he => ?_, h.once⟩
    · exact h.returned.trans (by rw [hhand]; rfl)
    · have := (h.ended he).2
      rw [hc] at this
      exact this.elim
  | @take frame r hc hr =>
    have hhand : s.inHand = [frame] := by rw [inHand, hc]; rfl
    obtain ⟨hfail, hended, -, -⟩ := take_sink s frame
    cases hr
    refine ⟨fun k => ?_, fun k hk => ?_, ?_, ?_, fun he => ?_, fun he => ?_, h.once⟩
    · rw [sentTo_take, ← h.sent k, setReader_stream, (take_stream s frame k).2.2]
      split
      · rfl
      · rw [List.append_nil]
    · obtain ⟨hmade, hrx, hqueue⟩ := take_stream s frame k
      obtain ⟨hempty, hnrx⟩ := h.unmade k (hmade ▸ hk)
      rw [setReader_stream, hqueue, hrx, if_neg fun hf => by simp [rx_of_sent hf] at hnrx]
      exact ⟨hempty, hnrx⟩
    · rw [taken_take, List.append_assoc]
      refine h.returned.trans ?_
      rw [hhand]
      rfl
    · rw [setReader_sink, hfail]
      exact h.told
    · exact h.going (hended ▸ he)
    · have := (h.ended (hended ▸ he)).2
      rw [hc] at this
      exact this.elim
  | @fail e r hc hr =>
    have hended : s.sink.ended = false := by
      rw [← Bool.not_eq_true]
      intro he
      have := (h.ended he).2
      rw [hc] at this
      exact this
    have hnone : s.sink.failure = none ∧ told tr = [] := by
      have := h.told
      rw [h.going hended, List.append_eq_nil_iff, Option.toList_eq_nil_iff] at this
      exact this.symm
    cases hr
    refine ⟨h.sent, h.unmade, ?_, ?_, nofun, fun _ => ⟨rfl, trivial⟩, ?_⟩
    · exact h.returned.trans (by rw [inHand, hc]; rfl)
    · rw [failures_fail, h.going hended]
      show told tr ++ Option.toList (if s.sink.stopping then s.sink.failure else some e) = _
      rw [hnone.1, hnone.2]
      cases s.sink.stopping <;> rfl
    · rw [failures_fail, h.going hended]
      split <;> simp
  | tune hg => exact ⟨h.sent, h.unmade, h.returned, h.told, h.going, h.ended, h.once⟩
  | @stream k hg hf he hk =>
    refine ⟨fun j => ?_, fun j hj => ?_, h.returned, h.told, h.going, ?_, h.once⟩
    · by_cases hjk : j = k
      · subst hjk
        have := h.sent j
        rw [(h.unmade j hk).1] at this
        rw [attach, setStream_stream, Function.update_self]
        exact this
      · rw [attach, setStream_stream, Function.update_of_ne hjk]
        exact h.sent j
    · by_cases hjk : j = k
      · subst hjk
        rw [attach, setStream_stream, Function.update_self] at hj
        cases hj
      · rw [attach, setStream_stream, Function.update_of_ne hjk] at hj ⊢
        exact h.unmade j hj
    · intro he'
      cases he.symm.trans he'
  | @streamFails e hg hf =>
    refine ⟨h.sent, h.unmade, h.returned, ?_, h.going, h.ended, h.once⟩
    rw [told_streamFails]
    have := h.told
    rw [hf] at this
    exact (List.append_nil _).trans this
  | streamEnded hg hf he => exact ⟨h.sent, h.unmade, h.returned, h.told, h.going, h.ended, h.once⟩
  | @recv k frame hk hq =>
    obtain ⟨hsent, hunmade⟩ :=
      set_stream h hk (K := { s.stream k with queue := (s.stream k).queue.pop }) rfl
        (Fifo.sent_pop _)
    exact ⟨hsent, hunmade, h.returned, h.told, h.going, h.ended, h.once⟩
  | @tail k hk ho hq ht =>
    obtain ⟨hsent, hunmade⟩ := set_stream h hk (K := { s.stream k with isOver := true }) rfl rfl
    refine ⟨hsent, hunmade, h.returned, ?_, h.going, h.ended, h.once⟩
    rw [told_tail]
    exact (List.append_nil _).trans h.told
  | @dropStream k hk =>
    obtain ⟨hsent, hunmade⟩ := set_stream h hk (K := { s.stream k with rx := false }) rfl rfl
    exact ⟨hsent, hunmade, h.returned, h.told, h.going, h.ended, h.once⟩
  | stop hg => exact ⟨h.sent, h.unmade, h.returned, h.told, h.going, h.ended, h.once⟩

theorem inv_of_run (h : Lts.Run Step { reader := { call := .making n } } tr s) : Inv tr s := by
  induction h with
  | nil => exact inv_init
  | snoc _ hs ih => exact inv_step ih hs

/-! ## Runs -/

def takenBytes (tr : List (Capture × Act)) : Nat := (taken tr).flatten.length

/-- As long as there is no tune, the bytes to be left out go down by the bytes taken. -/
theorem stale_of_run (h : Lts.Run Step s tr t) (hn : ∀ x ∈ tr, ∀ n, x.2 ≠ .tune n) :
    t.sink.stale = s.sink.stale - takenBytes tr := by
  induction h with
  | nil => rfl
  | @snoc tr u v a hr hs ih =>
    have ih := ih fun x hx => hn x (List.mem_cons_of_mem _ hx)
    cases hs with
    | take hc _ =>
      obtain ⟨-, -, hstale, -⟩ := take_sink u _
      rw [setReader_sink, hstale, ih, takenBytes, takenBytes, taken_take, List.flatten_append,
        List.flatten_singleton, List.length_append, Nat.sub_sub]
    | tune => exact absurd rfl (hn _ List.mem_cons_self _)
    | reader | start | fail | stream | streamFails | streamEnded | recv | tail | dropStream
      | stop => exact ih

/-- **Where the frames go.** In every run the thread takes the frames the reader returned, in the
order of the device. Those that are left out after a tune are the first ones, up to as many bytes
as were received before it, and none are before the first tune. The channel of a stream is given
the frames that were sent to it, in this order, and no others. -/
theorem frames_reach_streams (h : Lts.Run Step { reader := { call := .making n } } tr s) :
    Reader.returned (readerRun tr) = taken tr ++ s.inHand ∧
      (taken tr).Sublist (Reader.filled (readerRun tr)) ∧
      (∀ k, (s.stream k).queue.sent = sentTo k tr ∧ (sentTo k tr).Sublist (taken tr)) ∧
      (∀ later t stale earlier, tr = later ++ (t, .tune stale) :: earlier →
        ∀ after u frame between, later = after ++ (u, .take frame) :: between →
          (∀ x ∈ between, ∀ n, x.2 ≠ .tune n) →
          (u.fate frame = .stale ↔ takenBytes between < stale)) ∧
      ∀ after u frame between, tr = after ++ (u, .take frame) :: between →
        (∀ x ∈ between, ∀ n, x.2 ≠ .tune n) → u.fate frame ≠ .stale := by
  have hi := inv_of_run h
  refine ⟨hi.returned, ?_, fun k => ⟨hi.sent k, ?_⟩, ?_, ?_⟩
  · have hsub := Reader.returned_filled (readerRun_run h)
    rw [hi.returned] at hsub
    exact (List.sublist_append_left _ _).trans hsub
  · exact sentTo_sublist k tr
  · intro later t stale earlier htr after u frame between hl hn
    obtain ⟨t', -, hs, hr⟩ := Lts.Run.split (htr ▸ h)
    obtain ⟨u', hr, -, -⟩ := Lts.Run.split (hl ▸ hr)
    cases hs
    rw [fate_eq_stale, stale_of_run hr hn]
    show 0 < stale - takenBytes between ↔ _
    omega
  · intro after u frame between htr hn
    obtain ⟨u', hr, -, -⟩ := Lts.Run.split (htr ▸ h)
    rw [Ne, fate_eq_stale, stale_of_run hr hn]
    simp

/-- A tune leaves the first of two frames out, and the other goes to the stream. -/
theorem frames_reach_streams_tuned : ∃ tr s,
    Lts.Run Step { reader := { call := .making 1 } } tr s ∧
      taken tr = [[0x47], [0x48]] ∧ sentTo 0 tr = [[0x48]] ∧
        (s.stream 0).queue.sent = [[0x48]] := by
  have h₁ := (Lts.Run.nil (s := ({ reader := { call := .making 1 } } : Capture))).snoc
    (show Step _ (.reader (.make 0)) _ from .reader rfl (.make rfl rfl))
  have h₂ := h₁.snoc (show Step _ (.reader .made) _ from .reader rfl (.made rfl))
  have h₃ := h₂.snoc (show Step _ .start _ from .start rfl (.next trivial rfl))
  have h₄ := h₃.snoc (show Step _ (.tune 1) _ from .tune rfl)
  have h₅ := h₄.snoc (show Step _ (.stream 0) _ from .stream rfl rfl rfl rfl)
  have h₆ := h₅.snoc (show Step _ (.reader (.fill [0x47])) _ from .reader rfl (.fill rfl))
  have h₇ := h₆.snoc (show Step _ (.reader .copy) _ from .reader rfl (.copy rfl rfl))
  have h₈ := h₇.snoc (show Step _ (.reader (.again [0x47])) _ from .reader rfl (.again rfl))
  have h₉ := h₈.snoc (show Step _ (.take [0x47]) _ from .take rfl (.next trivial rfl))
  have h₁₀ := h₉.snoc (show Step _ (.reader (.fill [0x48])) _ from .reader rfl (.fill rfl))
  have h₁₁ := h₁₀.snoc (show Step _ (.reader .copy) _ from .reader rfl (.copy rfl rfl))
  have h₁₂ := h₁₁.snoc (show Step _ (.reader (.again [0x48])) _ from .reader rfl (.again rfl))
  have h₁₃ := h₁₂.snoc (show Step _ (.take [0x48]) _ from .take rfl (.next trivial rfl))
  exact ⟨_, _, h₁₃, rfl, rfl, ((frames_reach_streams h₁₃).2.2.1 0).1.trans rfl⟩

/-! ## How a stream ends -/

theorem take_stopping (s : Capture) (frame : Frame) :
    (s.take frame).sink.stopping = s.sink.stopping := by
  unfold take
  split
  · rfl
  · split
    · rfl
    · split <;> rfl

/-- Once the pins are being stopped, the reads end on purpose. -/
theorem stopping_of_run (h : Lts.Run Step s tr t) (hs : s.sink.stopping = true) :
    t.sink.stopping = true ∧ failures tr = [] := by
  induction h with
  | nil => exact ⟨hs, rfl⟩
  | @snoc tr u v a _ hstep ih =>
    obtain ⟨hu, hnil⟩ := ih
    cases hstep with
    | take => exact ⟨(take_stopping u _).trans hu, hnil⟩
    | fail => exact ⟨hu, by rw [failures_fail, hnil, hu]; rfl⟩
    | stop => exact ⟨rfl, hnil⟩
    | reader | start | tune | stream | streamFails | streamEnded | recv | tail | dropStream =>
      exact ⟨hu, hnil⟩

theorem rx_setStream {j : Nat} {K : Stream} (hK : K.rx = true → (s.stream j).rx = true)
    (h : ((s.setStream j K).stream k).rx = true) : (s.stream k).rx = true := by
  by_cases hkj : k = j
  · subst hkj
    rw [setStream_stream, Function.update_self] at h
    exact hK h
  · rwa [setStream_stream, Function.update_of_ne hkj] at h

/-- A frame takes the sink from no stream that is read. -/
theorem take_tx (h : s.sink.tx = some k) (hk : (s.stream k).rx = true) :
    (s.take frame).sink.tx = some k := by
  unfold take
  split
  · exact h
  · rw [h]
    cases hK : (s.stream k).trySend frame with
    | ok K => simp [hK, h]
    | error e =>
      cases e with
      | full => simp [hK, h]
      | disconnected =>
        unfold Stream.trySend at hK
        rw [hk] at hK
        split at hK
        · next hn => cases hn
        · split at hK <;> cases hK

theorem tx_step (hs : Step s a t) (hn : ∀ j, a ≠ .stream j) (hf : ∀ e, a ≠ .fail e)
    (h : (s.stream k).rx = true → s.sink.tx = some k) (ht : (t.stream k).rx = true) :
    t.sink.tx = some k := by
  cases hs with
  | reader | start | tune | stop | streamFails | streamEnded => exact h ht
  | @take frame r hc hr =>
    have hk : (s.stream k).rx = true := (take_stream s frame k).2.1 ▸ ht
    exact take_tx (h hk) hk
  | fail => exact absurd rfl (hf _)
  | stream => exact absurd rfl (hn _)
  | @recv j _ hk hq =>
    exact h (rx_setStream (K := { s.stream j with queue := (s.stream j).queue.pop }) id ht)
  | @tail j hk ho hq htx =>
    exact h (rx_setStream (s := s.takeFailure) (K := { s.stream j with isOver := true }) id ht)
  | @dropStream j hk => exact h (rx_setStream (fun _ => hk) ht)

/-- Once the reads have ended, nothing is taken and no stream starts. -/
theorem ended_step (h : Inv tr s) (he : s.sink.ended = true) (hs : Step s a t) :
    t.sink.ended = true ∧ (∀ k, a ≠ .stream k) ∧ (∀ frame, a ≠ .take frame) ∧ ∀ e, a ≠ .fail e := by
  have hd := (h.ended he).2
  cases hs with
  | take hc => 
    rw [hc] at hd
    exact hd.elim
  | fail hc =>
    rw [hc] at hd
    exact hd.elim
  | stream _ _ hne => 
    rw [he] at hne
    cases hne
  | reader | start | tune | streamFails | streamEnded | recv | tail | dropStream | stop =>
    exact ⟨he, nofun, nofun, nofun⟩

theorem ended_of_run (hi : Inv tr s) {later : List (Capture × Act)} (h : Lts.Run Step s later t)
    (he : s.sink.ended = true) : t.sink.ended = true ∧
      ∀ x ∈ later, (∀ k, x.2 ≠ .stream k) ∧ (∀ frame, x.2 ≠ .take frame) ∧ ∀ e, x.2 ≠ .fail e := by
  have hall : Inv (later ++ tr) t ∧ t.sink.ended = true ∧ ∀ x ∈ later,
      (∀ k, x.2 ≠ .stream k) ∧ (∀ frame, x.2 ≠ .take frame) ∧ ∀ e, x.2 ≠ .fail e := by
    induction h with
    | nil => exact ⟨hi, he, fun x hx => absurd hx List.not_mem_nil⟩
    | @snoc later u v a _ hs ih =>
      obtain ⟨hi, he, hall⟩ := ih
      obtain ⟨he', hact⟩ := ended_step hi he hs
      refine ⟨inv_step hi hs, he', fun x hx => ?_⟩
      obtain rfl | hx := List.mem_cons.1 hx
      · exact hact
      · exact hall x hx
  exact hall.2

/-- **How the streams end.** In every run the reads end once at most, and after that no frame is
taken and no stream starts. If they failed, that is told once, by a call of `stream` or at the end
of a stream, and nothing is told if the pins were stopped before. A stream that is read has the
sink until another stream takes it or the reads end; and once they have, whoever has read all its
frames is told what there is to tell. -/
theorem ends_told_once (h : Lts.Run Step { reader := { call := .making n } } tr s) :
    (∀ later t e earlier, tr = later ++ (t, .fail e) :: earlier → s.sink.ended = true ∧
      ∀ x ∈ later, (∀ k, x.2 ≠ .stream k) ∧ (∀ frame, x.2 ≠ .take frame) ∧ ∀ e, x.2 ≠ .fail e) ∧
      (told tr ++ s.sink.failure.toList = failures tr ∧ (failures tr).length ≤ 1) ∧
      (∀ later t earlier, tr = later ++ (t, .stop) :: earlier → t.sink.ended = false →
        told tr = []) ∧
      (∀ later t k earlier, tr = later ++ (t, .stream k) :: earlier →
        (∀ x ∈ later, (∀ j, x.2 ≠ .stream j) ∧ ∀ e, x.2 ≠ .fail e) →
        (s.stream k).rx = true → s.sink.tx = some k) ∧
      ∀ k, s.sink.ended = true → (s.stream k).rx = true → (s.stream k).isOver = false →
        (s.stream k).queue.next? = none → ∃ t, Step s (.tail k s.sink.failure) t := by
  have hi := inv_of_run h
  refine ⟨fun later t e earlier htr => ?_, ⟨hi.told, hi.once⟩, fun later t earlier htr he => ?_,
    fun later t k earlier htr hn => ?_, fun k he hk ho hq => ?_⟩
  · obtain ⟨t', hr, hs, hl⟩ := Lts.Run.split (htr ▸ h)
    have hi' := inv_step (inv_of_run hr) hs
    cases hs
    exact ended_of_run hi' hl rfl
  · obtain ⟨t', hr, hs, hl⟩ := Lts.Run.split (htr ▸ h)
    cases hs
    have hnil := (stopping_of_run hl rfl).2
    have htold : told tr ++ s.sink.failure.toList = [] := by
      rw [hi.told, htr]
      unfold failures at hnil ⊢
      have := (inv_of_run hr).going he
      unfold failures at this
      rw [List.reverse_eq_nil_iff] at hnil this ⊢
      rw [List.filterMap_append, hnil, List.filterMap_cons_none rfl, this]
      rfl
    exact (List.append_eq_nil_iff.1 htold).1
  · obtain ⟨t', hr, hs, hl⟩ := Lts.Run.split (htr ▸ h)
    cases hs
    clear htr h hi
    induction hl with
    | nil => exact fun _ => rfl
    | @snoc later u v a _ hs ih =>
      obtain ⟨hstream, hfail⟩ := hn _ List.mem_cons_self
      exact tx_step hs hstream hfail (ih fun x hx => hn x (List.mem_cons_of_mem _ hx))
  · refine ⟨_, .tail hk ho hq ?_⟩
    rw [(hi.ended he).1]
    nofun

/-- The device ends the only read with an error, which the stream hears of. -/
theorem ends_told_once_failed : ∃ tr s,
    Lts.Run Step { reader := { call := .making 1 } } tr s ∧
      told tr = [.io .other "gone"] ∧ s.sink.failure = none := by
  have h₁ := (Lts.Run.nil (s := ({ reader := { call := .making 1 } } : Capture))).snoc
    (show Step _ (.reader (.make 0)) _ from .reader rfl (.make rfl rfl))
  have h₂ := h₁.snoc (show Step _ (.reader .made) _ from .reader rfl (.made rfl))
  have h₃ := h₂.snoc (show Step _ .start _ from .start rfl (.next trivial rfl))
  have h₄ := h₃.snoc (show Step _ (.stream 0) _ from .stream rfl rfl rfl rfl)
  have h₅ := h₄.snoc (show Step _ (.reader (.abort 0 (.io .other "gone"))) _ from
    .reader rfl (.abort (List.mem_singleton.2 rfl)))
  have h₆ := h₅.snoc (show Step _ (.reader .fail) _ from .reader rfl (.fail rfl rfl))
  have h₇ := h₆.snoc (show Step _ (.fail (.io .other "gone")) _ from .fail rfl (.drop trivial))
  have h₈ := h₇.snoc (show Step _ (.tail 0 (some (.io .other "gone"))) _ from
    .tail rfl rfl rfl nofun)
  have htold := (ends_told_once h₈).2.1.1
  exact ⟨_, _, h₈, rfl, Option.toList_eq_nil_iff.1 (List.append_cancel_left htold)⟩

end Capture

end Tunelith.Bda
