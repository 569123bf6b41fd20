import Tunelith.Core.Notice
import Tunelith.Client.Tokens

/-!
# What a client makes of the events

What every run of a client keeps of `drops`, `ends`, the counters of dropped bytes and the reads
that wait (`Reporting`). From when nothing was said of a stream and its acquire has registered it,
its counter is what was said to be dropped, and it has ended if it was said to (`Agrees`).
-/

namespace Tunelith.Client

open Tunelith.Client.Inner Proto

/-- The token of the stream whose drops a call counts. -/
def Stage.kept : Stage → Option Token
  | .registering response | .opening response _ | .attaching response _ _ =>
    some response.streamToken
  | .streaming stream => some stream.token
  | _ => none

/-- The token of the stream whose end is kept for a call. -/
def Stage.registered : Stage → Option Token
  | .opening response _ | .attaching response _ _ => some response.streamToken
  | .streaming stream => some stream.token
  | _ => none

/-- The call has come to its end, and its stream too. -/
def Stage.isFinal : Stage → Bool
  | .returned _ | .failed _ | .dropped => true
  | _ => false

theorem Stage.kept_of_registered {s : Stage} {t : Token} (h : s.registered = some t) :
    s.kept = some t := by
  cases s <;> first | exact h | cases h

theorem Stage.token_of_kept {s : Stage} {t : Token} (h : s.kept = some t) : s.token = some t := by
  cases s <;> first | exact h | cases h

theorem Stage.kept_of_isFinal {s : Stage} (h : s.isFinal = true) : s.kept = none := by
  cases s <;> first | rfl | cases h

theorem Stage.registered_of_kept_none {s : Stage} (h : s.kept = none) : s.registered = none := by
  cases s <;> first | rfl | cases h

/-- The stream `t` has ended, as far as the client knows. -/
def Inner.Ended (c : Inner) (t : Token) : Prop := ∃ error, c.ends t = some (.ended error)

/-- What is kept of the error a `StreamEndEvent` tells. -/
def endError (error : String) : Option String := if error = "" then none else some error

/-- What the final sweep of the reader ends the streams for. -/
def sweepError : String := "tunelithd closed the connection"

/-- What a read returns that finds the end of a stream that ended for `error`, if any. -/
def readEnd : Option String → Except String Unit
  | some error => .error error
  | none => .ok ()

/-- The reader is in its final sweep, or past it. -/
def Reader.sweeps : Reader → Bool
  | .ending _ | .ended => true
  | _ => false

/-- The reader is yet to end the stream `t` in its final sweep. -/
def Reader.ToEnd (t : Token) : Reader → Prop
  | .reading | .clearing | .collecting => True
  | .ending left => t ∈ left
  | .ended => False

variable {c c' : Inner} {a : Act} {i j : CallId} {t u : Token} {l : List Envelope} {e : Envelope}

/-! ## What a step does to the reports -/

/-- Nothing changes of how the stream of a call is reported on. -/
structure Call.Quiet (C C' : Call) : Prop where
  dropped : C'.dropped = C.dropped
  parked : C'.parked = C.parked
  kept : C'.stage.kept = C.stage.kept
  registered : C'.stage.registered = C.stage.registered
  streaming : ∀ stream, C.stage = .streaming stream → C'.stage = .streaming stream
  isFinal : C.stage.isFinal = true → C'.stage.isFinal = true

theorem Call.Quiet.refl (C : Call) : C.Quiet C := ⟨rfl, rfl, rfl, rfl, fun _ h => h, fun h => h⟩

/-- The call `i` goes on to `stage`, and the others stay. -/
structure Goes (c : Inner) (i : CallId) (stage : Stage) (c' : Inner) : Prop where
  self : c'.call i = { c.call i with stage := stage }
  other : ∀ j, j ≠ i → c'.call j = c.call j

theorem Goes.goto {d : Inner} {stage : Stage} (h : d.call = c.call) :
    Goes c i stage (d.goto i stage) where
  self := by rw [goto_call, Function.update_self, h]
  other j hj := by rw [goto_call, Function.update_of_ne hj, h]

/-- The stream `t` ends for `error`, and the read that waits for it goes on. -/
structure Ends (c : Inner) (t : Token) (error : Option String) (c' : Inner) : Prop where
  drops : c'.drops = c.drops
  ends : c'.ends =
    if c.ends t = none then c.ends else Function.update c.ends t (some (.ended error))
  call : ∀ j, c'.call j =
    if c.ends t = some (.pending (some j)) then { c.call j with parked := false } else c.call j

theorem ends_endStream (c : Inner) (t : Token) (error : Option String) :
    Ends c t error (c.endStream t error) := by
  have hcall : ∀ {e : End}, ∀ j, ({ c with
      ends := Function.update c.ends t (some (.ended error)) }.wake e).call j =
        if e = .pending (some j) then { c.call j with parked := false } else c.call j := by
    intro e j
    unfold wake
    split
    · next k =>
      simp only [setCall_call, Function.update_apply, End.pending.injEq, Option.some.injEq]
      by_cases h : j = k
      · rw [if_pos h, if_pos h.symm, h]
      · rw [if_neg h, if_neg (Ne.symm h)]
    · next h => rw [if_neg (h j)]
  have hwake : ∀ {e : End} {d : Inner}, (d.wake e).drops = d.drops ∧ (d.wake e).ends = d.ends := by
    intro e d
    unfold wake
    split <;> exact ⟨rfl, rfl⟩
  unfold endStream
  split
  · next e he =>
    refine ⟨hwake.1, ?_, fun j => ?_⟩
    · rw [hwake.2, he, if_neg (Option.some_ne_none e)]
    · rw [hcall, he]
      simp only [Option.some.injEq]
  · next he =>
    refine ⟨rfl, (if_pos he).symm, fun j => ?_⟩
    rw [he, if_neg nofun]

theorem Ends.recorded {error : Option String} (h : Ends c t error c') (ht : c.ends t ≠ none) :
    c'.ends t = some (.ended error) := by
  rw [h.ends, if_neg ht, Function.update_self]

theorem Ends.ended {error : Option String} (h : Ends c t error c') (ht : c.ends t ≠ none) :
    c'.Ended t := ⟨error, h.recorded ht⟩

theorem ends_endNext {left : List Token} (hs : Step c .endNext c')
    (hr : c.reader = .ending (t :: left)) : Ends c t (some sweepError) c' := by
  cases hs with
  | endNext hr' =>
    obtain ⟨rfl, rfl⟩ := List.cons.inj (Reader.ending.inj (hr.symm.trans hr'))
    have h := ends_endStream c t (some sweepError)
    exact ⟨h.drops, h.ends, h.call⟩

/-- What a step does to the reports on streams. -/
inductive Reports (c : Inner) : Act → Inner → Prop
  | quiet {a : Act} {c' : Inner} (hd : c'.drops = c.drops) (he : c'.ends = c.ends)
      (hc : ∀ j, (c.call j).Quiet (c'.call j)) (ha : ∀ e ∈ a.frames, ∀ t, notice t e = none) :
      Reports c a c'
  | keep {i : CallId} {response : AcquireResponse} {c' : Inner}
      (hi : (c.call i).stage = .keeping response)
      (hd : c'.drops = Function.update c.drops response.streamToken (some i))
      (he : c'.ends = c.ends) (hc : Goes c i (.registering response) c') :
      Reports c (.keep i) c'
  | register {i : CallId} {response : AcquireResponse} {format : StreamFormat} {c' : Inner}
      (hi : (c.call i).stage = .registering response) (hd : c'.drops = c.drops)
      (he : c'.ends = Function.update c.ends response.streamToken (some (.pending none)))
      (hc : Goes c i (.opening response format) c') : Reports c (.register i) c'
  /-- A call lets go of its stream. -/
  | letGo {a : Act} {i : CallId} {t : Token} {stage : Stage} {c' : Inner}
      (hi : (c.call i).stage.token = some t) (hd : c'.drops = Function.update c.drops t none)
      (he : c'.ends = Function.update c.ends t none) (hs : stage.isFinal = true)
      (hc : Goes c i stage c') (ha : a.frames = []) : Reports c a c'
  /-- The reader lets go of a stream whose acquire was given up on. -/
  | giveBack {e : Envelope} {t : Token} {c' : Inner} (hg : grant e = some t)
      (hd : c'.drops = Function.update c.drops t none)
      (he : c'.ends = Function.update c.ends t none) (hc : c'.call = c.call) :
      Reports c (.receive e) c'
  | dropEvent {e : Envelope} {t : Token} {n : Nat} {c' : Inner}
      (hb : e.body = some (.dropEvent t n)) (hd : c'.drops = c.drops) (he : c'.ends = c.ends)
      (hc : ∀ j, c'.call j =
        if c.drops t = some j then { c.call j with dropped := (c.call j).dropped + n }
        else c.call j) : Reports c (.receive e) c'
  | endEvent {e : Envelope} {t : Token} {error : String} {c' : Inner}
      (hb : e.body = some (.streamEndEvent t error)) (hc : Ends c t (endError error) c') :
      Reports c (.receive e) c'
  | sweep {t : Token} {c' : Inner} (hc : Ends c t (some sweepError) c') (hr : c'.reader.sweeps) :
      Reports c .endNext c'
  /-- A read waits to know how its stream ended. -/
  | park {i : CallId} {stream : Stream} {waker : Option CallId} {c' : Inner}
      (hi : (c.call i).stage = .streaming stream)
      (ht : c.ends stream.token = some (.pending waker)) (hd : c'.drops = c.drops)
      (he : c'.ends = Function.update c.ends stream.token (some (.pending (some i))))
      (hc : ∀ j, c'.call j = if j = i then { c.call i with parked := true } else c.call j) :
      Reports c (.pollEnd i none) c'

theorem quiet_goto {d : Inner} {stage : Stage} (h : d.call = c.call)
    (hk : stage.kept = (c.call i).stage.kept)
    (hr : stage.registered = (c.call i).stage.registered)
    (hs : ∀ stream, (c.call i).stage ≠ .streaming stream)
    (hf : (c.call i).stage.isFinal = false) (j : CallId) :
    (c.call j).Quiet ((d.goto i stage).call j) := by
  rw [goto_call, Function.update_apply, h]
  split_ifs with hj
  · rw [hj]
    refine ⟨rfl, rfl, hk, hr, fun stream h => absurd h (hs stream), fun h => ?_⟩
    rw [hf] at h
    cases h
  · exact .refl _

theorem quiet_update {C : Call} (h : (c.call i).Quiet C) (j : CallId) :
    (c.call j).Quiet (Function.update c.call i C j) := by
  rw [Function.update_apply]
  split_ifs with hj
  · rw [hj]
    exact h
  · exact .refl _

theorem quiet_begin (hi : (c.call i).stage = .absent) (request : Request) (j : CallId) :
    (c.call j).Quiet ((c.begin i request).call j) := by
  refine quiet_update (C := { c.call i with
    request := request, id := c.nextId, stage := .inserting }) ⟨rfl, rfl, ?_, ?_, ?_, ?_⟩ j
  all_goals rw [hi]
  · rfl
  · rfl
  · nofun
  · nofun

theorem kept_answered (request : Request) (body : Body) : (answered request body).kept = none := by
  unfold answered
  split
  · rfl
  split <;> rfl

/-- But for those of the reader, no step says anything of a stream. -/
theorem silent (ha : a.frames = []) : ∀ e ∈ a.frames, ∀ t, notice t e = none := by
  intro e he
  rw [ha] at he
  exact absurd he List.not_mem_nil

/-- The reader takes a frame that says nothing of a stream. -/
theorem reports_deliver {body : Body} (hb : e.body = some body)
    (ht : ∀ t, notice t e = none) (hd : c'.drops = (c.deliver e.id body).drops)
    (he : c'.ends = (c.deliver e.id body).ends) (hc : c'.call = (c.deliver e.id body).call) :
    Reports c (.receive e) c' := by
  have hquiet : ∀ f ∈ (Act.receive e).frames, ∀ t, notice t f = none := by
    intro f hf
    rw [List.mem_singleton.1 hf]
    exact ht
  rcases deliver_cases c e.id body with ⟨-, h⟩ | ⟨i, -, hi⟩
  · rw [h] at hd he hc
    exact .quiet hd he (fun j => by rw [hc]; exact .refl _) hquiet
  rcases hi with ⟨-, h⟩ | ⟨-, response, hr, h⟩ | ⟨-, -, h⟩
  · rw [h] at hd he hc
    refine .quiet hd he (fun j => ?_) hquiet
    rw [hc]
    exact quiet_update (C := { c.call i with oneshot := .full body })
      ⟨rfl, rfl, rfl, rfl, fun _ h => h, fun h => h⟩ j
  · rw [h] at hd he hc
    refine .giveBack (t := response.streamToken) ?_ hd he hc
    unfold grant
    rw [hb, hr]
  · rw [h] at hd he hc
    exact .quiet hd he (fun j => by rw [hc]; exact .refl _) hquiet

theorem reports_receive (c : Inner) (e : Envelope) :
    Reports c (.receive e) (c.receive e) := by
  have hd : (c.receive e).drops = (c.handle e).drops := rfl
  have he : (c.receive e).ends = (c.handle e).ends := rfl
  have hc : (c.receive e).call = (c.handle e).call := rfl
  unfold handle at hd he hc
  split at hd
  · next t n hb =>
    rw [hb] at he hc
    dsimp only at he hc
    refine .dropEvent hb ?_ ?_ fun j => ?_
    · rw [hd]
      split <;> rfl
    · rw [he]
      split <;> rfl
    · rw [hc]
      cases hi : c.drops t with
      | none =>
        dsimp only
        rw [if_neg nofun]
      | some i =>
        dsimp only
        rw [setCall_call, Function.update_apply]
        simp only [Option.some.injEq]
        by_cases h : j = i
        · rw [if_pos h, if_pos h.symm, h]
        · rw [if_neg h, if_neg (Ne.symm h)]
  · next t error hb =>
    rw [hb] at he hc
    dsimp only at he hc
    have h := ends_endStream c t (endError error)
    exact .endEvent hb ⟨hd.trans h.drops, by rw [he]; exact h.ends, by rw [hc]; exact h.call⟩
  · next body hdrop hend hb =>
    rw [hb] at he hc
    have ht : ∀ t, notice t e = none := by
      intro t
      unfold notice
      rw [hb]
      split
      · next h => exact absurd (Option.some.inj h) (hdrop _ _)
      · next h => exact absurd (Option.some.inj h) (hend _ _)
      · rfl
    refine reports_deliver hb ht hd ?_ ?_
    · rw [he]
      split
      · next h => exact absurd (Option.some.inj h) (hdrop _ _)
      · next h => exact absurd (Option.some.inj h) (hend _ _)
      · next h => rw [Option.some.inj h]
      · next h => cases h
    · rw [hc]
      split
      · next h => exact absurd (Option.some.inj h) (hdrop _ _)
      · next h => exact absurd (Option.some.inj h) (hend _ _)
      · next h => rw [Option.some.inj h]
      · next h => cases h
  · next hb =>
    rw [hb] at he hc
    refine .quiet hd he (fun j => by rw [hc]; exact .refl _) fun f hf t => ?_
    rw [List.mem_singleton.1 hf]
    unfold notice
    rw [hb]

/-- A read that finds the end of the data waits while the stream goes on, and otherwise returns
how it ended; of a stream given up it finds nothing kept. -/
theorem pollEnd_cases (c : Inner) (i : CallId) (t : Token) :
    ((∃ waker, c.ends t = some (.pending waker)) ∧ (c.pollEnd i t).2 = none ∧
      ((c.pollEnd i t).1.call i).parked = true) ∨
    (∃ error, c.ends t = some (.ended error) ∧ (c.pollEnd i t).2 = some (readEnd error)) ∨
    c.ends t = none ∧ (c.pollEnd i t).2 = some (.ok ()) := by
  unfold pollEnd
  split
  · next waker ht => exact .inl ⟨⟨waker, ht⟩, rfl, by simp⟩
  · next error ht => exact .inr (.inl ⟨_, ht, rfl⟩)
  · next ht => exact .inr (.inl ⟨_, ht, rfl⟩)
  · next ht => exact .inr (.inr ⟨ht, rfl⟩)

theorem reports_pollEnd {stream : Stream} (hi : (c.call i).stage = .streaming stream) :
    Reports c (.pollEnd i (c.pollEnd i stream.token).2) (c.pollEnd i stream.token).1 := by
  have hquiet : ∀ {r}, Reports c (.pollEnd i r) c :=
    .quiet rfl rfl (fun j => .refl _) (silent rfl)
  unfold pollEnd
  split
  · next waker ht =>
    exact .park hi ht rfl rfl fun j => Function.update_apply ..
  · exact hquiet
  · exact hquiet
  · exact hquiet

theorem reports_step (hs : Step c a c') : Reports c a c' := by
  -- A call lets go of its stream.
  have hlet : ∀ {i stage t a}, (c.call i).stage.token = some t → stage.isFinal = true →
      a.frames = [] → Reports c a ((c.release t).goto i stage) :=
    fun hi hs ha => .letGo hi rfl rfl hs (.goto rfl) ha
  cases hs with
  | @list i hi | @acquire i params options request hi hr | @signal i t hi =>
    exact .quiet rfl rfl (quiet_begin hi _) (silent rfl)
  | misasked hi | notSent hi | resumeClosed hi | dropWaiting hi | insert hi | opened hi =>
    refine .quiet rfl rfl (quiet_goto rfl ?_ ?_ ?_ ?_) (silent rfl) <;> rw [hi] <;>
      first | rfl | nofun
  | send hi | attached hi =>
    refine .quiet rfl rfl (quiet_goto rfl ?_ ?_ ?_ ?_) (silent rfl) <;> rw [hi] <;>
      first | rfl | nofun
  | resume hi =>
    refine .quiet rfl rfl (quiet_goto rfl ?_ ?_ ?_ ?_) (silent rfl) <;> rw [hi]
    · exact kept_answered ..
    · exact Stage.registered_of_kept_none (kept_answered ..)
    · nofun
    · rfl
  | keep hi => exact .keep hi rfl rfl (.goto rfl)
  | @register i response hi =>
    rcases register_cases c i response with ⟨format, -, he⟩ | ⟨-, he⟩
    · rw [he]
      exact .register hi rfl rfl (.goto rfl)
    · have hc : Goes c i (.failed unexpected) (c.register i response) := by
        rw [he]
        exact .goto rfl
      have ht : (c.call i).stage.token = some response.streamToken := by
        rw [hi]
        rfl
      rw [he] at hc ⊢
      exact .letGo ht rfl (Function.update_idem ..) rfl hc rfl
  | notOpened hi => exact hlet (by rw [hi]; rfl) rfl rfl
  | notAttached hi => exact hlet (by rw [hi]; rfl) rfl rfl
  | dropOpening hi => exact hlet (by rw [hi]; rfl) rfl rfl
  | dropAttaching hi => exact hlet (by rw [hi]; rfl) rfl rfl
  | dropStream hi => exact hlet (by rw [hi]; rfl) rfl rfl
  | read =>
    exact .quiet rfl rfl (quiet_update ⟨rfl, rfl, rfl, rfl, fun _ h => h, fun h => h⟩) (silent rfl)
  | pollEnd hi => exact reports_pollEnd hi
  | write | notWritten | readerEnd | collect | readerDone =>
    exact .quiet rfl rfl (fun j => .refl _) (silent rfl)
  | receive => exact reports_receive c _
  | clear =>
    refine .quiet rfl rfl (fun j => ?_) (silent rfl)
    rw [clear_call]
    split
    · exact ⟨rfl, rfl, rfl, rfl, fun _ h => h, fun h => h⟩
    · exact .refl _
  | endNext hr => exact .sweep (ends_endNext (.endNext hr) hr) rfl

/-! ## Where the reader stands -/

/-- Where a step leaves the reader. -/
inductive Reader.Turn (c : Inner) : Act → Reader → Prop
  | stay {a : Act} : Reader.Turn c a c.reader
  | readerEnd (hr : c.reader = .reading) : Reader.Turn c .readerEnd .clearing
  | clear (hr : c.reader = .clearing) : Reader.Turn c .clear .collecting
  | collect {tokens : List Token} (hr : c.reader = .collecting)
      (ht : ∀ t, t ∈ tokens ↔ c.ends t ≠ none) : Reader.Turn c (.collect tokens) (.ending tokens)
  | endNext {t : Token} {left : List Token} (hr : c.reader = .ending (t :: left)) :
      Reader.Turn c .endNext (.ending left)
  | readerDone (hr : c.reader = .ending []) : Reader.Turn c .readerDone .ended

theorem reader_turn (hs : Step c a c') : Reader.Turn c a c'.reader := by
  have hsame : ∀ {r}, r = c.reader → Reader.Turn c a r := by
    rintro _ rfl
    exact .stay
  cases hs with
  | @register i response hi =>
    rcases register_cases c i response with ⟨format, -, he⟩ | ⟨-, he⟩ <;> rw [he] <;> exact .stay
  | pollEnd => exact hsame (still_pollEnd _ _ _).reader
  | receive =>
    rcases receive_cases c _ with hS | ⟨i, body, hT⟩
    · exact hsame hS.reader
    rcases hT.cases with ⟨-, hd⟩ | ⟨-, response, -, hd⟩ | ⟨-, -, hd⟩ <;> rw [hd] <;> exact .stay
  | readerEnd hr => exact .readerEnd hr
  | clear hr => exact .clear hr
  | collect hr ht => exact .collect hr ht
  | endNext hr => exact .endNext hr
  | readerDone hr => exact .readerDone hr
  | _ => exact .stay

/-- The final sweep is the last the reader does. -/
theorem sweeps_step (hs : Step c a c') (h : c.reader.sweeps = true) : c'.reader.sweeps = true := by
  have hturn := reader_turn hs
  generalize c'.reader = r at hturn
  cases hturn with
  | stay => exact h
  | readerEnd hr | clear hr =>
    rw [hr] at h
    cases h
  | collect | endNext | readerDone => rfl

/-! ## Reporting -/

/-- The counters and ends kept are those of the calls with the streams they are of; no counter is
above what the frames `l` said was dropped; a read that waits will be woken; and a stream that has
ended has for what `l` said, or for what the final sweep says. -/
structure Reporting (c : Inner) (l : List Envelope) : Prop where
  kept : ∀ i t, (c.call i).stage.kept = some t ↔ c.drops t = some i
  registered : ∀ i t, (c.call i).stage.registered = some t → c.ends t ≠ none
  count : ∀ i, (c.call i).dropped = 0 ∨ (c.call i).stage.isFinal = true ∨
    ∃ t, (c.call i).stage.kept = some t ∧
      (c.call i).dropped ≤ droppedBytes (l.filterMap (notice t))
  parked : ∀ i, (c.call i).parked = true → (c.call i).stage.isFinal = true ∨
    ∃ stream, (c.call i).stage = .streaming stream ∧
      c.ends stream.token = some (.pending (some i))
  recorded : ∀ t error, c.ends t = some (.ended error) →
    (∃ told, .ended told ∈ l.filterMap (notice t) ∧ error = endError told) ∨
      c.reader.sweeps = true ∧ error = some sweepError

theorem reporting_init : Reporting init [] where
  kept _ _ := ⟨nofun, nofun⟩
  registered _ _ h := by cases h
  count _ := .inl rfl
  parked _ h := by cases h
  recorded _ _ h := by cases h

theorem Carrying.sole_token (hK : Carrying c l) (hi : (c.call i).stage.token = some t)
    (hj : (c.call j).stage.token = some t) : i = j :=
  hK.sole i j t (.inr hi) (.inr hj)

theorem droppedBytes_mono (l m : List Envelope) (t : Token) :
    droppedBytes (l.filterMap (notice t)) ≤ droppedBytes ((l ++ m).filterMap (notice t)) := by
  rw [List.filterMap_append, droppedBytes_append]
  exact Nat.le_add_right _ _

theorem droppedBytes_dropEvent {n : Nat} (hb : e.body = some (.dropEvent t n)) :
    droppedBytes ((l ++ [e]).filterMap (notice t)) =
      droppedBytes (l.filterMap (notice t)) + n := by
  have he : [e].filterMap (notice t) = [.dropped n] := by
    rw [List.filterMap_cons, notice, hb]
    dsimp only
    rw [if_pos rfl]
    rfl
  rw [List.filterMap_append, droppedBytes_append, he]
  rfl

/-- What says nothing of a stream adds nothing to what was said. -/
theorem notices_append {m : List Envelope} (h : ∀ e ∈ m, notice t e = none) :
    (l ++ m).filterMap (notice t) = l.filterMap (notice t) := by
  rw [List.filterMap_append, List.filterMap_eq_nil_iff.2 h, List.append_nil]

section Step

variable (hK : Carrying c l) (hn : ((l ++ a.frames).filterMap grant).Nodup)
  (hr : Reports c a c')
include hK hn hr

theorem kept_step (h : Reporting c l) (i : CallId) (t : Token) :
    (c'.call i).stage.kept = some t ↔ c'.drops t = some i := by
  cases hr with
  | quiet hd he hc ha =>
    rw [(hc i).kept, hd]
    exact h.kept i t
  | @keep j response _ hj hd he hc =>
    rw [hd, Function.update_apply]
    by_cases ht : t = response.streamToken
    · subst ht
      rw [if_pos rfl, Option.some.injEq]
      constructor
      · intro hk
        by_contra hne
        rw [hc.other i (Ne.symm hne)] at hk
        exact hne (hK.sole_token (by rw [hj]; rfl) (Stage.token_of_kept hk))
      · rintro rfl
        rw [hc.self]
        rfl
    · rw [if_neg ht]
      by_cases hi : i = j
      · subst hi
        rw [hc.self, ← h.kept, hj]
        constructor
        · intro hk
          exact absurd (Option.some.inj hk).symm ht
        · nofun
      · rw [hc.other i hi]
        exact h.kept i t
  | @register j response format _ hj hd he hc =>
    rw [hd, ← h.kept]
    by_cases hi : i = j
    · subst hi
      rw [hc.self, hj]
      rfl
    · rw [hc.other i hi]
  | @letGo a j u stage _ hj hd he hs hc ha =>
    rw [hd, Function.update_apply]
    by_cases hi : i = j
    · subst hi
      rw [hc.self, Stage.kept_of_isFinal hs]
      refine ⟨nofun, fun hk => ?_⟩
      split_ifs at hk with ht
      have hi := Stage.token_of_kept ((h.kept i t).2 hk)
      exact absurd (Option.some.inj (hi.symm.trans hj)) ht
    · rw [hc.other i hi]
      split_ifs with ht
      · refine ⟨fun hk => ?_, nofun⟩
        exact absurd (hK.sole_token (Stage.token_of_kept hk) (ht ▸ hj)) hi
      · exact h.kept i t
  | @giveBack e u _ hg hd he hc =>
    rw [hd, hc, Function.update_apply]
    split_ifs with ht
    · refine ⟨fun hk => ?_, nofun⟩
      rw [ht] at hk
      exact absurd (hK.granted i u (.inr (Stage.token_of_kept hk))) (notMem_of_nodup hn hg)
    · exact h.kept i t
  | dropEvent hb hd he hc =>
    rw [hd, hc]
    split <;> exact h.kept i t
  | endEvent hb hc =>
    rw [hc.drops, hc.call]
    split <;> exact h.kept i t
  | sweep hc _ =>
    rw [hc.drops, hc.call]
    split <;> exact h.kept i t
  | park hj ht hd he hc =>
    rw [hd, hc]
    split_ifs with hi
    · rw [hi]
      exact h.kept _ t
    · exact h.kept i t

/-- What a step leaves of the end kept for a call. -/
theorem ends_step (hi : (c.call i).stage.registered = some t)
    (hi' : (c'.call i).stage.registered = some t) :
    c'.ends t = c.ends t ∨ c'.Ended t ∨
      ∃ waker, c.ends t = some (.pending waker) ∧ c'.ends t = some (.pending (some i)) := by
  have hti : (c.call i).stage.token = some t := Stage.token_of_kept (Stage.kept_of_registered hi)
  cases hr with
  | quiet hd he hc ha => exact .inl (by rw [he])
  | keep hj hd he hc => exact .inl (by rw [he])
  | @register j response format _ hj hd he hc =>
    refine .inl ?_
    rw [he, Function.update_of_ne]
    rintro rfl
    obtain rfl := hK.sole_token hti (by rw [hj]; rfl)
    rw [hj] at hi
    cases hi
  | @letGo a j u stage _ hj hd he hs hc ha =>
    refine .inl ?_
    rw [he, Function.update_of_ne]
    rintro rfl
    obtain rfl := hK.sole_token hti hj
    rw [hc.self] at hi'
    rw [Stage.registered_of_kept_none (Stage.kept_of_isFinal hs)] at hi'
    cases hi'
  | @giveBack e u _ hg hd he hc =>
    refine .inl ?_
    rw [he, Function.update_of_ne]
    rintro rfl
    exact notMem_of_nodup hn hg (hK.granted i t (.inr hti))
  | dropEvent hb hd he hc => exact .inl (by rw [he])
  | @endEvent _ u _ _ hb hc | @sweep u _ hc _ =>
    by_cases hu : t = u
    · subst hu
      by_cases ht : c.ends t = none
      · exact .inl (by rw [hc.ends, if_pos ht])
      · exact .inr (.inl (hc.ended ht))
    · refine .inl ?_
      rw [hc.ends]
      split_ifs
      · rfl
      · rw [Function.update_of_ne hu]
  | @park j stream waker _ hj ht hd he hc =>
    rw [he, Function.update_apply]
    split_ifs with hu
    · subst hu
      obtain rfl := hK.sole_token hti (by rw [hj]; rfl)
      exact .inr (.inr ⟨waker, ht, rfl⟩)
    · exact .inl rfl

/-- A stream that has ended has ended for good. -/
theorem ended_step (hi : (c.call i).stage.registered = some t)
    (hi' : (c'.call i).stage.registered = some t) (he : c.Ended t) : c'.Ended t := by
  obtain ⟨error, he⟩ := he
  rcases ends_step hK hn hr hi hi' with he' | he' | ⟨waker, hw, -⟩
  · exact ⟨error, he'.trans he⟩
  · exact he'
  · rw [hw] at he
    cases he

theorem registered_step (h : Reporting c l) (hi' : (c'.call i).stage.registered = some t) :
    c'.ends t ≠ none := by
  by_cases hi : (c.call i).stage.registered = some t
  · rcases ends_step hK hn hr hi hi' with he | ⟨error, he⟩ | ⟨waker, -, he⟩
    · rw [he]
      exact h.registered i t hi
    · rw [he]
      exact Option.some_ne_none _
    · rw [he]
      exact Option.some_ne_none _
  -- Only an acquire that registers its stream comes to have one.
  have hstay : (c'.call i).stage = (c.call i).stage → c'.ends t ≠ none := by
    intro hs
    rw [hs] at hi'
    exact absurd hi' hi
  cases hr with
  | quiet hd he hc ha =>
    rw [(hc i).registered] at hi'
    exact absurd hi' hi
  | @keep j response _ hj hd he hc =>
    by_cases hij : i = j
    · subst hij
      rw [hc.self] at hi'
      cases hi'
    · exact hstay (by rw [hc.other i hij])
  | @register j response format _ hj hd he hc =>
    by_cases hij : i = j
    · subst hij
      rw [hc.self] at hi'
      obtain rfl := Option.some.inj hi'
      rw [he, Function.update_self]
      exact Option.some_ne_none _
    · exact hstay (by rw [hc.other i hij])
  | @letGo a j u stage _ hj hd he hs hc ha =>
    by_cases hij : i = j
    · subst hij
      rw [hc.self, Stage.registered_of_kept_none (Stage.kept_of_isFinal hs)] at hi'
      cases hi'
    · exact hstay (by rw [hc.other i hij])
  | giveBack hg hd he hc => exact hstay (by rw [hc])
  | dropEvent hb hd he hc => exact hstay (by rw [hc]; split <;> rfl)
  | endEvent hb hc => exact hstay (by rw [hc.call]; split <;> rfl)
  | sweep hc => exact hstay (by rw [hc.call]; split <;> rfl)
  | park hj ht hd he hc =>
    refine hstay ?_
    rw [hc]
    split_ifs with hij
    · rw [hij]
    · rfl

end Step

theorem count_step (h : Reporting c l) (hr : Reports c a c') (i : CallId) :
    (c'.call i).dropped = 0 ∨ (c'.call i).stage.isFinal = true ∨
      ∃ t, (c'.call i).stage.kept = some t ∧
        (c'.call i).dropped ≤ droppedBytes ((l ++ a.frames).filterMap (notice t)) := by
  -- A call whose counter stays, and so does what it counts, or it had counted nothing.
  have hsame : (c'.call i).dropped = (c.call i).dropped →
      ((c'.call i).stage.kept = (c.call i).stage.kept ∨ (c.call i).stage.kept = none) →
      ((c.call i).stage.isFinal = true → (c'.call i).stage.isFinal = true) →
      (c'.call i).dropped = 0 ∨ (c'.call i).stage.isFinal = true ∨
        ∃ t, (c'.call i).stage.kept = some t ∧
          (c'.call i).dropped ≤ droppedBytes ((l ++ a.frames).filterMap (notice t)) := by
    intro hd hk hf
    rw [hd]
    rcases h.count i with h0 | hfin | ⟨t, ht, hle⟩
    · exact .inl h0
    · exact .inr (.inl (hf hfin))
    · rcases hk with hk | hk
      · exact .inr (.inr ⟨t, hk.trans ht, hle.trans (droppedBytes_mono l _ t)⟩)
      · rw [hk] at ht
        cases ht
  cases hr with
  | quiet hd he hc ha => exact hsame (hc i).dropped (.inl (hc i).kept) (hc i).isFinal
  | @keep j response _ hj hd he hc =>
    by_cases hij : i = j
    · subst hij
      exact hsame (by rw [hc.self]) (.inr (by rw [hj]; rfl)) (by rw [hj]; nofun)
    · rw [hc.other i hij] at hsame ⊢
      exact hsame rfl (.inl rfl) fun h => h
  | @register j response format _ hj hd he hc =>
    by_cases hij : i = j
    · subst hij
      exact hsame (by rw [hc.self]) (.inl (by rw [hc.self, hj]; rfl)) (by rw [hj]; nofun)
    · rw [hc.other i hij] at hsame ⊢
      exact hsame rfl (.inl rfl) fun h => h
  | @letGo a j u stage _ hj hd he hs hc ha =>
    by_cases hij : i = j
    · subst hij
      rw [hc.self]
      exact .inr (.inl hs)
    · rw [hc.other i hij] at hsame ⊢
      exact hsame rfl (.inl rfl) fun h => h
  | giveBack hg hd he hc =>
    rw [hc] at hsame ⊢
    exact hsame rfl (.inl rfl) fun h => h
  | @dropEvent e u n _ hb hd he hc =>
    rw [hc] at hsame ⊢
    split_ifs at hsame ⊢ with hu
    · have hk := (h.kept i u).2 hu
      refine .inr (.inr ⟨u, hk, ?_⟩)
      rw [Act.frames, droppedBytes_dropEvent hb]
      refine Nat.add_le_add_right ?_ n
      rcases h.count i with h0 | hfin | ⟨t, ht, hle⟩
      · rw [h0]
        exact Nat.zero_le _
      · rw [Stage.kept_of_isFinal hfin] at hk
        cases hk
      · obtain rfl := Option.some.inj (ht.symm.trans hk)
        exact hle
    · exact hsame rfl (.inl rfl) fun h => h
  | endEvent hb hc =>
    rw [hc.call] at hsame ⊢
    split_ifs at hsame ⊢ <;> exact hsame rfl (.inl rfl) fun h => h
  | sweep hc =>
    rw [hc.call] at hsame ⊢
    split_ifs at hsame ⊢ <;> exact hsame rfl (.inl rfl) fun h => h
  | park hj ht hd he hc =>
    rw [hc] at hsame ⊢
    split_ifs at hsame ⊢ with hij
    · subst hij
      exact hsame rfl (.inl rfl) fun h => h
    · exact hsame rfl (.inl rfl) fun h => h

theorem parked_step (h : Reporting c l) (hK : Carrying c l)
    (hn : ((l ++ a.frames).filterMap grant).Nodup) (hr : Reports c a c')
    (hp : (c'.call i).parked = true) : (c'.call i).stage.isFinal = true ∨
      ∃ stream, (c'.call i).stage = .streaming stream ∧
        c'.ends stream.token = some (.pending (some i)) := by
  have hold : (c.call i).parked = true → (c'.call i).stage = (c.call i).stage →
      (∀ t, (c.call i).stage.token = some t → c.ends t = some (.pending (some i)) →
        c'.ends t = c.ends t) →
      (c'.call i).stage.isFinal = true ∨ ∃ stream, (c'.call i).stage = .streaming stream ∧
        c'.ends stream.token = some (.pending (some i)) := by
    intro hp hs he
    rw [hs]
    refine (h.parked i hp).imp_right fun ⟨stream, hst, ht⟩ => ⟨stream, hst, ?_⟩
    rw [he _ (by rw [hst]; rfl) ht, ht]
  cases hr with
  | quiet hd he hc ha =>
    rcases h.parked i ((hc i).parked.symm.trans hp) with hf | ⟨stream, hst, ht⟩
    · exact .inl ((hc i).isFinal hf)
    · exact .inr ⟨stream, (hc i).streaming stream hst, by rw [he, ht]⟩
  | @keep j response _ hj hd he hc =>
    by_cases hij : i = j
    · subst hij
      rw [hc.self] at hp
      rcases h.parked i hp with hf | ⟨stream, hst, -⟩
      · rw [hj] at hf
        cases hf
      · rw [hj] at hst
        cases hst
    · rw [hc.other i hij] at hp
      exact hold hp (by rw [hc.other i hij]) fun t _ _ => by rw [he]
  | @register j response format _ hj hd he hc =>
    by_cases hij : i = j
    · subst hij
      rw [hc.self] at hp
      rcases h.parked i hp with hf | ⟨stream, hst, -⟩
      · rw [hj] at hf
        cases hf
      · rw [hj] at hst
        cases hst
    · rw [hc.other i hij] at hp
      refine hold hp (by rw [hc.other i hij]) fun t hti _ => ?_
      rw [he, Function.update_of_ne]
      rintro rfl
      exact hij (hK.sole_token hti (by rw [hj]; rfl))
  | @letGo a j u stage _ hj hd he hs hc ha =>
    by_cases hij : i = j
    · subst hij
      rw [hc.self]
      exact .inl hs
    · rw [hc.other i hij] at hp
      refine hold hp (by rw [hc.other i hij]) fun t hti _ => ?_
      rw [he, Function.update_of_ne]
      rintro rfl
      exact hij (hK.sole_token hti hj)
  | giveBack hg hd he hc =>
    rw [hc] at hp
    refine hold hp (by rw [hc]) fun t hti _ => ?_
    rw [he, Function.update_of_ne]
    rintro rfl
    exact notMem_of_nodup hn hg (hK.granted i t (.inr hti))
  | @dropEvent e u n _ hb hd he hc =>
    refine hold ?_ (by rw [hc]; split <;> rfl) fun t _ _ => by rw [he]
    rw [hc] at hp
    split_ifs at hp <;> exact hp
  | @endEvent e u error _ hb hc | @sweep u _ hc _ =>
    have hcall := hc.call i
    split_ifs at hcall with hu
    · rw [hcall] at hp
      cases hp
    · refine hold (by rwa [hcall] at hp) (by rw [hcall]) fun t _ ht => ?_
      rw [hc.ends]
      split_ifs
      · rfl
      · rw [Function.update_of_ne]
        rintro rfl
        exact hu ht
  | @park j stream waker _ hj ht hd he hc =>
    have hcall := hc i
    split_ifs at hcall with hij
    · subst hij
      rw [hcall]
      exact .inr ⟨stream, hj, by rw [he, Function.update_self]⟩
    · refine hold (by rwa [hcall] at hp) (by rw [hcall]) fun t hti _ => ?_
      rw [he, Function.update_of_ne]
      rintro rfl
      exact hij (hK.sole_token hti (by rw [hj]; rfl))

theorem recorded_step (h : Reporting c l) (hs : Step c a c') {error : Option String}
    (he : c'.ends t = some (.ended error)) :
    (∃ told, .ended told ∈ (l ++ a.frames).filterMap (notice t) ∧ error = endError told) ∨
      c'.reader.sweeps = true ∧ error = some sweepError := by
  have hold : c.ends t = some (.ended error) →
      (∃ told, .ended told ∈ (l ++ a.frames).filterMap (notice t) ∧ error = endError told) ∨
        c'.reader.sweeps = true ∧ error = some sweepError := by
    intro he
    rcases h.recorded t error he with ⟨told, hm, ht⟩ | ⟨hr, ht⟩
    · refine .inl ⟨told, ?_, ht⟩
      rw [List.filterMap_append]
      exact List.mem_append_left _ hm
    · exact .inr ⟨sweeps_step hs hr, ht⟩
  -- The end of a stream that a step writes, if it is `t`.
  have hnew : ∀ {u : Token} {e : End}, Function.update c.ends u (some e) t = some (.ended error) →
      c.ends t = some (.ended error) ∨ t = u ∧ e = .ended error := by
    intro u e he
    by_cases hu : t = u
    · subst hu
      rw [Function.update_self] at he
      exact .inr ⟨rfl, Option.some.inj he⟩
    · rw [Function.update_of_ne hu] at he
      exact .inl he
  have hdrop : ∀ {u : Token}, Function.update c.ends u none t = some (.ended error) →
      c.ends t = some (.ended error) := by
    intro u he
    rw [Function.update_apply] at he
    split_ifs at he
    exact he
  cases reports_step hs with
  | quiet hd hq hc ha => exact hold (by rwa [hq] at he)
  | keep hj hd hq hc => exact hold (by rwa [hq] at he)
  | register hj hd hq hc =>
    rw [hq] at he
    rcases hnew he with he | ⟨-, he⟩
    · exact hold he
    · cases he
  | letGo hj hd hq hs' hc ha => exact hold (hdrop (by rwa [hq] at he))
  | giveBack hg hd hq hc => exact hold (hdrop (by rwa [hq] at he))
  | dropEvent hb hd hq hc => exact hold (by rwa [hq] at he)
  | @endEvent e u told _ hb hc =>
    rw [hc.ends] at he
    split_ifs at he
    · exact hold he
    rcases hnew he with he | ⟨rfl, hend⟩
    · exact hold he
    · refine .inl ⟨told, List.mem_filterMap.2 ⟨e, List.mem_append_right _ ?_, ?_⟩,
        (End.ended.inj hend).symm⟩
      · exact List.mem_singleton_self e
      · rw [notice, hb]
        exact if_pos rfl
  | sweep hc hr =>
    rw [hc.ends] at he
    split_ifs at he
    · exact hold he
    rcases hnew he with he | ⟨-, he⟩
    · exact hold he
    · exact .inr ⟨hr, (End.ended.inj he).symm⟩
  | park hj ht hd hq hc =>
    rw [hq] at he
    rcases hnew he with he | ⟨-, he⟩
    · exact hold he
    · cases he

/-- A read that waits has waited before, or has just found the end of its stream. -/
theorem parked_cases (h : Reporting c l) (hr : Reports c a c') {stream : Stream}
    (hi : (c'.call i).stage = .streaming stream) (hp : (c'.call i).parked = true) :
    (c.call i).stage = .streaming stream ∧ (a = .pollEnd i none ∨ (c.call i).parked = true) := by
  have hgoes : ∀ {j stage}, Goes c j stage c' → stage ≠ .streaming stream →
      (c.call i).stage = .streaming stream ∧ (a = .pollEnd i none ∨ (c.call i).parked = true) := by
    intro j stage hc hs
    by_cases hij : i = j
    · subst hij
      rw [hc.self] at hi
      exact absurd hi hs
    · rw [hc.other i hij] at hi hp
      exact ⟨hi, .inr hp⟩
  cases hr with
  | quiet hd he hc ha =>
    have hp' := (hc i).parked.symm.trans hp
    rcases h.parked i hp' with hf | ⟨stream', hst, -⟩
    · have hf' := (hc i).isFinal hf
      rw [hi] at hf'
      cases hf'
    · have hst' := (hc i).streaming stream' hst
      exact ⟨hst.trans (hst'.symm.trans hi), .inr hp'⟩
  | keep hj hd he hc => exact hgoes hc nofun
  | register hj hd he hc => exact hgoes hc nofun
  | letGo hj hd he hs hc ha =>
    refine hgoes hc ?_
    rintro rfl
    cases hs
  | giveBack hg hd he hc =>
    rw [hc] at hi hp
    exact ⟨hi, .inr hp⟩
  | dropEvent hb hd he hc =>
    rw [hc] at hi hp
    split_ifs at hi hp <;> exact ⟨hi, .inr hp⟩
  | endEvent hb hc | sweep hc =>
    rw [hc.call] at hi hp
    split_ifs at hi hp
    exact ⟨hi, .inr hp⟩
  | park hj ht hd he hc =>
    rw [hc] at hi hp
    split_ifs at hi hp with hij
    · subst hij
      exact ⟨hi, .inl rfl⟩
    · exact ⟨hi, .inr hp⟩

theorem reporting_step (h : Reporting c l) (hK : Carrying c l)
    (hn : ((l ++ a.frames).filterMap grant).Nodup) (hs : Step c a c') :
    Reporting c' (l ++ a.frames) :=
  have hr := reports_step hs
  { kept := kept_step hK hn hr h
    registered := fun _ _ => registered_step hK hn hr h
    count := count_step h hr
    parked := fun _ => parked_step h hK hn hr
    recorded := fun _ _ => recorded_step h hs }

/-! ## Agreeing with what was said -/

/-- The call `i` has counted all that `l` said its stream `t` lost, and its stream has ended if
`l` said so. -/
structure Agrees (c : Inner) (l : List Envelope) (i : CallId) (t : Token) : Prop where
  dropped : (c.call i).dropped = droppedBytes (l.filterMap (notice t))
  ended : ∀ error, .ended error ∈ l.filterMap (notice t) → c.Ended t

/-- As long as nothing was said of its stream, a call has counted nothing. -/
theorem Reporting.agrees (h : Reporting c l) (hi : (c.call i).stage.kept = some t)
    (hl : l.filterMap (notice t) = []) : Agrees c l i t := by
  refine ⟨?_, fun error he => ?_⟩
  · rw [hl]
    rcases h.count i with h0 | hf | ⟨u, hu, hle⟩
    · exact h0
    · rw [Stage.kept_of_isFinal hf] at hi
      cases hi
    · obtain rfl := Option.some.inj (hu.symm.trans hi)
      rw [hl] at hle
      exact Nat.le_zero.1 hle
  · rw [hl] at he
    cases he

theorem notice_of_grant (hg : grant e = some u) (t : Token) : notice t e = none := by
  unfold grant at hg
  unfold notice
  split at hg
  · next h => rw [h]
  · cases hg

/-- A call that has its stream registered goes on to agree. -/
theorem Agrees.step (hA : Agrees c l i t) (h : Reporting c l) (hK : Carrying c l)
    (hn : ((l ++ a.frames).filterMap grant).Nodup) (hs : Step c a c')
    (hi : (c.call i).stage.registered = some t)
    (hi' : (c'.call i).stage.registered = some t) : Agrees c' (l ++ a.frames) i t := by
  have hr := reports_step hs
  have hends : c.Ended t → c'.Ended t := ended_step hK hn hr hi hi'
  -- A step on which nothing is said of the stream.
  have hquiet : (∀ e ∈ a.frames, notice t e = none) →
      (c'.call i).dropped = (c.call i).dropped → Agrees c' (l ++ a.frames) i t := by
    intro ha hd
    refine ⟨?_, fun error he => ?_⟩
    · rw [hd, notices_append ha, hA.dropped]
    · rw [notices_append ha] at he
      exact hends (hA.ended error he)
  have hsilent : a.frames = [] → ∀ e ∈ a.frames, notice t e = none :=
    fun ha e he => silent ha e he t
  have hgoes : ∀ {j stage}, Goes c j stage c' → (c'.call i).dropped = (c.call i).dropped := by
    intro j stage hc
    by_cases hij : i = j
    · rw [hij, hc.self]
    · rw [hc.other i hij]
  cases hr with
  | quiet hd he hc ha => exact hquiet (fun e he => ha e he t) (hc i).dropped
  | keep hj hd he hc => exact hquiet (hsilent rfl) (hgoes hc)
  | register hj hd he hc => exact hquiet (hsilent rfl) (hgoes hc)
  | letGo hj hd he hs hc ha => exact hquiet (hsilent ha) (hgoes hc)
  | @giveBack e u _ hg hd he hc =>
    refine hquiet (fun f hf => ?_) (by rw [hc])
    rw [List.mem_singleton.1 hf]
    exact notice_of_grant hg t
  | @dropEvent e u n _ hb hd he hc =>
    have hcall := hc i
    by_cases hu : u = t
    · subst hu
      rw [if_pos ((h.kept i u).1 (Stage.kept_of_registered hi))] at hcall
      refine ⟨?_, fun error he' => ?_⟩
      · rw [hcall, Act.frames, droppedBytes_dropEvent hb, ← hA.dropped]
      · rw [Act.frames, List.filterMap_append, List.mem_append] at he'
        refine hends (he'.elim (hA.ended error) fun hmem => ?_)
        rw [List.filterMap_cons, notice, hb] at hmem
        dsimp only at hmem
        rw [if_pos rfl] at hmem
        cases List.mem_singleton.1 hmem
    · refine hquiet (fun f hf => ?_) ?_
      · rw [List.mem_singleton.1 hf, notice, hb]
        exact if_neg hu
      · rw [hcall, if_neg]
        intro hk
        have hk' := (h.kept i u).2 hk
        rw [Stage.kept_of_registered hi] at hk'
        exact hu (Option.some.inj hk').symm
  | @endEvent e u error _ hb hc =>
    have hdrop : (c'.call i).dropped = (c.call i).dropped := by
      rw [hc.call]
      split <;> rfl
    by_cases hu : u = t
    · subst hu
      have hm : [e].filterMap (notice u) = [.ended error] := by
        rw [List.filterMap_cons, notice, hb]
        dsimp only
        rw [if_pos rfl]
        rfl
      refine ⟨?_, fun _ _ => ?_⟩
      · rw [hdrop, hA.dropped, Act.frames, List.filterMap_append, droppedBytes_append, hm]
        rfl
      · exact hc.ended (h.registered i u hi)
    · refine hquiet (fun f hf => ?_) hdrop
      rw [List.mem_singleton.1 hf, notice, hb]
      exact if_neg hu
  | sweep hc => exact hquiet (hsilent rfl) (by rw [hc.call]; split <;> rfl)
  | park hj ht hd he hc =>
    refine hquiet (hsilent rfl) ?_
    rw [hc]
    split_ifs with hij
    · rw [hij]
    · rfl

/-! ## The final sweep -/

/-- The sweep ends the streams whose ends are kept. -/
theorem toEnd_step (h : Reporting c l) (hK : Carrying c l)
    (hn : ((l ++ a.frames).filterMap grant).Nodup) (hs : Step c a c')
    (hi : (c.call i).stage.registered = some t) (hi' : (c'.call i).stage.registered = some t)
    (ht : c.Ended t ∨ c.reader.ToEnd t) : c'.Ended t ∨ c'.reader.ToEnd t := by
  have hr := reports_step hs
  rcases ht with ht | ht
  · exact .inl (ended_step hK hn hr hi hi' ht)
  have hturn := reader_turn hs
  generalize c'.reader = r at hturn
  cases hturn with
  | stay => exact .inr ht
  | readerEnd => exact .inr trivial
  | clear => exact .inr trivial
  | collect hr' hmem => exact .inr ((hmem t).2 (h.registered i t hi))
  | @endNext u left hleft =>
    rw [hleft] at ht
    rcases List.mem_cons.1 ht with rfl | ht
    · exact .inl ((ends_endNext hs hleft).ended (h.registered i t hi))
    · exact .inr ht
  | readerDone hleft =>
    rw [hleft] at ht
    exact absurd ht List.not_mem_nil

end Tunelith.Client
