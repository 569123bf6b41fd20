import Mathlib.Tactic.SplitIfs
import Tunelith.Client.Step

/-!
# Calls and their answers

What every run of a client keeps of its calls and of `pending`, whoever is dropped and whenever
the connection ends: each entry is of one call, which has not been answered, and a call that
waits and has no answer has its entry (`Filed`).
-/

namespace Tunelith.Client

open Tunelith.Client.Inner Proto

variable {c c' : Inner}

/-! ## What a step does to the calls -/

theorem stage_goto (c : Inner) (i j : CallId) (stage : Stage) :
    ((c.goto i stage).call j).stage = if j = i then stage else (c.call j).stage := by
  rw [goto_call, Function.update_apply]
  split <;> rfl

/-- A call moves on, neither asking anew nor waiting without having asked. -/
def Stage.Moves (s s' : Stage) : Prop :=
  s' = s ∨ (s = .sending ∧ s' = .waiting) ∨ (s'.listens = false ∧ s' ≠ .absent)

theorem Stage.Moves.stay (s : Stage) : s.Moves s := .inl rfl

theorem Stage.Moves.leave {s s' : Stage} (hs : s'.listens = false) (ha : s' ≠ .absent) :
    s.Moves s' := .inr (.inr ⟨hs, ha⟩)

section Moves

variable {s s' : Stage} (h : s.Moves s')
include h

theorem Stage.Moves.listens (hs : s'.listens = true) : s.listens = true := by
  rcases h with rfl | ⟨rfl, rfl⟩ | ⟨h, -⟩
  · exact hs
  · rfl
  · rw [h] at hs
    cases hs

theorem Stage.Moves.absent (hs : s' = .absent) : s = .absent := by
  rcases h with rfl | ⟨rfl, rfl⟩ | ⟨-, h⟩
  · exact hs
  · cases hs
  · exact absurd hs h

theorem Stage.Moves.inserting (hs : s' = .inserting) : s = .inserting := by
  rcases h with rfl | ⟨rfl, rfl⟩ | ⟨h, -⟩
  · exact hs
  · cases hs
  · rw [hs] at h
    cases h

theorem Stage.Moves.asked (hs : s' = .sending ∨ s' = .waiting) :
    s = .sending ∨ s = .waiting := by
  rcases h with rfl | ⟨rfl, rfl⟩ | ⟨h, -⟩
  · exact hs
  · exact .inl rfl
  · rcases hs with rfl | rfl <;> cases h

end Moves

/-- The calls keep what they asked and were answered, and `pending` its entries. -/
structure Passing (c c' : Inner) : Prop where
  pending : c'.pending = c.pending
  took : c'.took = c.took
  nextId : c.nextId ≤ c'.nextId
  request : ∀ i, (c'.call i).request = (c.call i).request
  id : ∀ i, (c'.call i).id = (c.call i).id
  oneshot : ∀ i, (c'.call i).oneshot = (c.call i).oneshot
  stage : ∀ i, (c.call i).stage.Moves (c'.call i).stage

theorem Passing.refl (c : Inner) : Passing c c :=
  ⟨rfl, rfl, Nat.le_refl _, fun _ => rfl, fun _ => rfl, fun _ => rfl, fun _ => .stay _⟩

theorem Passing.of_call (h : Passing c c') {d : Inner} (hp : d.pending = c'.pending)
    (ht : d.took = c'.took) (hn : c'.nextId ≤ d.nextId) (hc : d.call = c'.call) : Passing c d :=
  ⟨hp.trans h.pending, ht.trans h.took, Nat.le_trans h.nextId hn, fun i => by rw [hc, h.request],
    fun i => by rw [hc, h.id], fun i => by rw [hc, h.oneshot], fun i => by rw [hc]; exact h.stage i⟩

/-- What changes besides the stages of calls is none of their business. -/
theorem Passing.same (hp : c'.pending = c.pending) (ht : c'.took = c.took)
    (hn : c.nextId ≤ c'.nextId) (hc : c'.call = c.call) : Passing c c' :=
  (Passing.refl c).of_call hp ht hn hc

theorem Passing.goto (h : Passing c c') {i : CallId} {stage : Stage}
    (hs : (c.call i).stage.Moves stage) : Passing c (c'.goto i stage) := by
  have hcall : ∀ j, (c'.goto i stage).call j =
      if j = i then { c'.call i with stage := stage } else c'.call j :=
    fun j => Function.update_apply ..
  refine ⟨h.pending, h.took, h.nextId, fun j => ?_, fun j => ?_, fun j => ?_, fun j => ?_⟩
  all_goals rw [hcall]
  all_goals split_ifs with hj
  · rw [hj, h.request]
  · exact h.request j
  · rw [hj, h.id]
  · exact h.id j
  · rw [hj, h.oneshot]
  · exact h.oneshot j
  · rw [hj]
    exact hs
  · exact h.stage j

/-- A call is through with its answer, whatever else changes. -/
theorem Passing.leave {i : CallId} {stage : Stage} (hp : c'.pending = c.pending)
    (ht : c'.took = c.took) (hn : c.nextId ≤ c'.nextId) (hc : c'.call = c.call)
    (hs : stage.listens = false) (ha : stage ≠ .absent) : Passing c (c'.goto i stage) :=
  (Passing.same hp ht hn hc).goto (.leave hs ha)

/-- Nothing changes but how streams are reported on and what calls keep for them. -/
structure Still (c c' : Inner) : Prop where
  requests : c'.requests = c.requests
  reader : c'.reader = c.reader
  writer : c'.writer = c.writer
  pending : c'.pending = c.pending
  took : c'.took = c.took
  nextId : c'.nextId = c.nextId
  request : ∀ i, (c'.call i).request = (c.call i).request
  id : ∀ i, (c'.call i).id = (c.call i).id
  oneshot : ∀ i, (c'.call i).oneshot = (c.call i).oneshot
  stage : ∀ i, (c'.call i).stage = (c.call i).stage

theorem Still.refl (c : Inner) : Still c c :=
  ⟨rfl, rfl, rfl, rfl, rfl, rfl, fun _ => rfl, fun _ => rfl, fun _ => rfl, fun _ => rfl⟩

theorem Still.passing (h : Still c c') : Passing c c' :=
  ⟨h.pending, h.took, Nat.le_of_eq h.nextId.symm, h.request, h.id, h.oneshot,
    fun i => by rw [h.stage]; exact .stay _⟩

theorem Still.setCall {i : CallId} {C : Call} (hr : C.request = (c.call i).request)
    (hid : C.id = (c.call i).id) (ho : C.oneshot = (c.call i).oneshot)
    (hs : C.stage = (c.call i).stage) : Still c (c.setCall i C) := by
  have hcall : ∀ j, (c.setCall i C).call j = if j = i then C else c.call j :=
    fun j => Function.update_apply ..
  refine ⟨rfl, rfl, rfl, rfl, rfl, rfl, fun j => ?_, fun j => ?_, fun j => ?_, fun j => ?_⟩
  all_goals rw [hcall]
  all_goals split_ifs with hj
  · rw [hj, hr]
  · rfl
  · rw [hj, hid]
  · rfl
  · rw [hj, ho]
  · rfl
  · rw [hj, hs]
  · rfl

/-- `ends` is no part of it. -/
theorem Still.of_ends (h : Still c c') (ends : Token → Option End) :
    Still c { c' with ends := ends } :=
  ⟨h.requests, h.reader, h.writer, h.pending, h.took, h.nextId, h.request, h.id, h.oneshot,
    h.stage⟩

theorem still_wake (c : Inner) (e : End) : Still c (c.wake e) := by
  unfold wake
  split
  · exact .setCall rfl rfl rfl rfl
  · exact .refl c

theorem still_endStream (c : Inner) (t : Token) (error : Option String) :
    Still c (c.endStream t error) := by
  unfold endStream
  split
  · next e _ =>
    have h := still_wake { c with ends := Function.update c.ends t (some (.ended error)) } e
    exact ⟨h.requests, h.reader, h.writer, h.pending, h.took, h.nextId, h.request, h.id,
      h.oneshot, h.stage⟩
  · exact .refl c

theorem still_pollEnd (c : Inner) (i : CallId) (t : Token) : Still c (c.pollEnd i t).1 := by
  unfold pollEnd
  split
  · exact (Still.setCall (c := c) (i := i) (C := { c.call i with parked := true }) rfl rfl rfl
      rfl).of_ends _
  · exact .refl c
  · exact .refl c
  · exact .refl c

theorem passing_register (i : CallId) (response : AcquireResponse) :
    Passing c (c.register i response) := by
  unfold register
  dsimp only
  split
  · exact .leave rfl rfl (Nat.le_refl _) rfl rfl nofun
  · exact .leave rfl rfl (Nat.le_succ _) rfl rfl nofun

theorem listens_answered (request : Request) (body : Body) :
    (answered request body).listens = false := by
  unfold answered
  split
  · rfl
  split <;> rfl

theorem answered_ne_absent (request : Request) (body : Body) :
    answered request body ≠ .absent := by
  unfold answered
  split
  · nofun
  split <;> nofun

/-- What the reader does with an answer: nothing, or it takes the entry of a call and answers it
or, if no one waits any more, releases what it was given. -/
theorem deliver_cases (c : Inner) (id : RequestId) (body : Body) :
    (c.pending id = none ∧ c.deliver id body = c) ∨
      ∃ i, c.pending id = some i ∧
        (((c.call i).stage.listens = true ∧ c.deliver id body =
            { c with pending := Function.update c.pending id none }.setCall i
              { c.call i with oneshot := .full body }) ∨
          ((c.call i).stage.listens = false ∧
            (∃ response, body = .acquireResponse response ∧ c.deliver id body =
              { c with pending := Function.update c.pending id none }.release
                response.streamToken) ∨
            ((c.call i).stage.listens = false ∧ (∀ response, body ≠ .acquireResponse response) ∧
              c.deliver id body = { c with pending := Function.update c.pending id none }))) := by
  unfold deliver
  cases hp : c.pending id with
  | none => exact .inl ⟨rfl, rfl⟩
  | some i =>
    refine .inr ⟨i, rfl, ?_⟩
    dsimp only
    cases hl : (c.call i).stage.listens with
    | true => exact .inl ⟨rfl, rfl⟩
    | false =>
      refine .inr ?_
      cases body with
      | acquireResponse response => exact .inl ⟨rfl, response, rfl, rfl⟩
      | _ => exact .inr ⟨rfl, nofun, rfl⟩

/-- What the reader does with a frame: it reports on a stream, or delivers an answer. -/
theorem handle_cases (c : Inner) (e : Envelope) :
    (Still c (c.handle e) ∧ ∀ response, e.body ≠ some (.acquireResponse response)) ∨
      ∃ body, e.body = some body ∧ c.handle e = c.deliver e.id body := by
  unfold handle
  split
  · next t n h =>
    refine .inl ⟨?_, by simp [h]⟩
    split
    · exact .setCall rfl rfl rfl rfl
    · exact .refl c
  · next t error h => exact .inl ⟨still_endStream .., by simp [h]⟩
  · next body h1 h2 h => exact .inr ⟨body, h, rfl⟩
  · next h => exact .inl ⟨.refl c, by simp [h]⟩

theorem answers_eq_some {e : Envelope} {i : CallId} {t : Token} :
    c.answers e = some (i, t) ↔ ∃ response, e.body = some (.acquireResponse response) ∧
      c.pending e.id = some i ∧ (c.call i).request.isAcquire = true ∧ response.streamToken = t := by
  unfold Inner.answers
  split
  · next response j hb hp => simp [hb, hp]; grind
  · next hnone => simp; grind

theorem took_receive_of_ne {e : Envelope} {j : CallId} (h : c.pending e.id ≠ some j) :
    (c.receive e).took j = c.took j := by
  unfold Inner.receive
  cases ha : c.answers e with
  | none => rfl
  | some p =>
    obtain ⟨-, -, hp, -⟩ := answers_eq_some.1 (show c.answers e = some (p.1, p.2) from ha)
    refine Function.update_of_ne ?_ ..
    rintro rfl
    exact h hp

/-- The reader has taken the answer `body` to the call `i` off the connection. -/
structure Taken (c : Inner) (e : Envelope) (i : CallId) (body : Body) : Prop where
  entry : c.pending e.id = some i
  frame : e.body = some body
  took_ne : ∀ j, j ≠ i → (c.receive e).took j = c.took j
  took : ∀ t, (c.receive e).took i = some t → c.took i = some t ∨
    (c.call i).request.isAcquire = true ∧
      ∃ response, body = .acquireResponse response ∧ response.streamToken = t
  /-- It is handed over; or no one waits any more, and it is released if it is a stream. -/
  cases :
    ((c.call i).stage.listens = true ∧ c.receive e =
      { { c with pending := Function.update c.pending e.id none }.setCall i
          { c.call i with oneshot := .full body } with took := (c.receive e).took }) ∨
    ((c.call i).stage.listens = false ∧ ∃ response, body = .acquireResponse response ∧
      c.receive e = { { c with pending := Function.update c.pending e.id none }.release
        response.streamToken with took := (c.receive e).took }) ∨
    ((c.call i).stage.listens = false ∧ (∀ response, body ≠ .acquireResponse response) ∧
      c.receive e =
        { c with
          pending := Function.update c.pending e.id none
          took := (c.receive e).took })

/-- A frame is a report or answers no one, or it answers a call. -/
theorem receive_cases (c : Inner) (e : Envelope) :
    Still c (c.receive e) ∨ ∃ i body, Taken c e i body := by
  rcases handle_cases c e with ⟨hs, hbody⟩ | ⟨body, hbody, he⟩
  · have ht : (c.receive e).took = c.took := by
      have : c.answers e = none := by
        rw [Option.eq_none_iff_forall_ne_some]
        intro p hp
        obtain ⟨response, hb, -⟩ := answers_eq_some.1 (show c.answers e = some (p.1, p.2) from hp)
        exact hbody response hb
      rw [Inner.receive, this]
    exact .inl ⟨hs.requests, hs.reader, hs.writer, hs.pending, ht, hs.nextId, hs.request, hs.id,
      hs.oneshot, hs.stage⟩
  have hrecv : c.receive e = { c.deliver e.id body with took := (c.receive e).took } := by
    rw [← he]
    rfl
  rcases deliver_cases c e.id body with ⟨hnone, hd⟩ | ⟨i, hi, hd⟩
  · have ht : (c.receive e).took = c.took := by
      funext j
      exact took_receive_of_ne (by rw [hnone]; nofun)
    rw [hrecv, hd, ht]
    exact .inl (.refl c)
  refine .inr ⟨i, body, hi, hbody, fun j hj => took_receive_of_ne ?_, fun t ht => ?_, ?_⟩
  · rw [hi]
    exact fun h => hj (Option.some.inj h).symm
  · rw [Inner.receive] at ht
    cases ha : c.answers e with
    | none =>
      rw [ha] at ht
      exact .inl ht
    | some p =>
      obtain ⟨response, hb, hp, hr, hu⟩ :=
        answers_eq_some.1 (show c.answers e = some (p.1, p.2) from ha)
      obtain rfl := Option.some.inj (hi.symm.trans hp)
      rw [ha] at ht
      refine .inr ⟨hr, response, Option.some.inj (hbody.symm.trans hb), hu.trans ?_⟩
      simpa using ht
  · rcases hd with ⟨hl, hd⟩ | ⟨hl, response, hb, hd⟩ | ⟨hl, hb, hd⟩
    · exact .inl ⟨hl, by rw [← hd]; exact hrecv⟩
    · exact .inr (.inl ⟨hl, response, hb, by rw [← hd]; exact hrecv⟩)
    · exact .inr (.inr ⟨hl, hb, by rw [hrecv, hd]⟩)

/-! ## Entries -/

/-- The entries of `pending` and the calls they are of. -/
structure Filed (c : Inner) : Prop where
  /-- An entry is of a call yet to be answered. -/
  entry : ∀ id i, c.pending id = some i → (c.call i).id = id ∧ (c.call i).oneshot = .empty ∧
    c.took i = none ∧ (c.call i).stage ≠ .absent ∧ (c.call i).stage ≠ .inserting ∧ id < c.nextId
  fresh : ∀ i, (c.call i).stage = .absent ∨ (c.call i).stage = .inserting →
    (c.call i).oneshot = .empty ∧ c.took i = none
  id_lt : ∀ i, (c.call i).stage.listens = true → (c.call i).id < c.nextId
  id_inj : ∀ i j, (c.call i).stage.listens = true → (c.call j).stage.listens = true →
    (c.call i).id = (c.call j).id → i = j
  unfiled : ∀ i, (c.call i).stage = .inserting → c.pending (c.call i).id = none
  /-- A call that has asked and has no answer has its entry. -/
  listed : ∀ i, (c.call i).stage = .sending ∨ (c.call i).stage = .waiting →
    (c.call i).oneshot = .empty → c.pending (c.call i).id = some i

theorem filed_init : Filed init where
  entry := nofun
  fresh _ _ := ⟨rfl, rfl⟩
  id_lt := nofun
  id_inj := nofun
  unfiled := nofun
  listed _ h := by rcases h with h | h <;> cases h

theorem Filed.passing (h : Filed c) (hp : Passing c c') : Filed c' where
  entry id i hi := by
    rw [hp.pending] at hi
    obtain ⟨hid, ho, ht, ha, hn, hlt⟩ := h.entry id i hi
    exact ⟨(hp.id i).trans hid, (hp.oneshot i).trans ho, by rw [hp.took, ht],
      fun hs => ha ((hp.stage i).absent hs), fun hs => hn ((hp.stage i).inserting hs),
      Nat.lt_of_lt_of_le hlt hp.nextId⟩
  fresh i hi := by
    rw [hp.oneshot, hp.took]
    exact h.fresh i (hi.imp (hp.stage i).absent (hp.stage i).inserting)
  id_lt i hi := by
    rw [hp.id]
    exact Nat.lt_of_lt_of_le (h.id_lt i ((hp.stage i).listens hi)) hp.nextId
  id_inj i j hi hj hij := by
    rw [hp.id, hp.id] at hij
    exact h.id_inj i j ((hp.stage i).listens hi) ((hp.stage j).listens hj) hij
  unfiled i hi := by
    rw [hp.pending, hp.id]
    exact h.unfiled i ((hp.stage i).inserting hi)
  listed i hi ho := by
    rw [hp.pending, hp.id]
    exact h.listed i ((hp.stage i).asked hi) ((hp.oneshot i).symm.trans ho)

theorem Filed.begin (h : Filed c) {i : CallId} (hi : (c.call i).stage = .absent)
    (request : Request) : Filed (c.begin i request) := by
  obtain ⟨ho, ht⟩ := h.fresh i (.inl hi)
  have hcall : ∀ j, (c.begin i request).call j =
      if j = i then { c.call i with request := request, id := c.nextId, stage := .inserting }
      else c.call j := fun j => Function.update_apply ..
  have hne : ∀ id j, c.pending id = some j → j ≠ i := by
    rintro id j hj rfl
    exact (h.entry id j hj).2.2.2.1 hi
  have hnext : c.pending c.nextId = none := by
    cases hp : c.pending c.nextId with
    | none => rfl
    | some j => exact absurd (h.entry _ j hp).2.2.2.2.2 (Nat.lt_irrefl _)
  refine ⟨fun id j hj => ?_, fun j hj => ?_, fun j hj => ?_, fun j k hj hk hjk => ?_,
    fun j hj => ?_, fun j hj ho' => ?_⟩
  · rw [hcall, if_neg (hne id j hj)]
    obtain ⟨h1, h2, h3, h4, h5, h6⟩ := h.entry id j hj
    exact ⟨h1, h2, h3, h4, h5, Nat.lt_succ_of_lt h6⟩
  · rw [hcall] at hj ⊢
    split_ifs at hj ⊢ with e
    · exact ⟨ho, e ▸ ht⟩
    · exact h.fresh j hj
  · rw [hcall] at hj ⊢
    split_ifs at hj ⊢ with e
    · exact Nat.lt_succ_self _
    · exact Nat.lt_succ_of_lt (h.id_lt j hj)
  · rw [hcall] at hj hjk
    rw [hcall] at hk hjk
    split_ifs at hj hk hjk with e e' e'
    · rw [e, e']
    · exact absurd (h.id_lt k hk) (by rw [← hjk]; exact Nat.lt_irrefl _)
    · exact absurd (h.id_lt j hj) (by rw [hjk]; exact Nat.lt_irrefl _)
    · exact h.id_inj j k hj hk hjk
  · rw [hcall] at hj ⊢
    split_ifs at hj ⊢ with e
    · exact hnext
    · exact h.unfiled j hj
  · rw [hcall] at hj ho' ⊢
    split_ifs at hj ho' ⊢ with e
    · rcases hj with hj | hj <;> cases hj
    · exact h.listed j hj ho'

theorem Filed.insert (h : Filed c) {i : CallId} (hi : (c.call i).stage = .inserting) :
    Filed ({ c with pending := Function.update c.pending (c.call i).id (some i) }.goto i
      .sending) := by
  obtain ⟨ho, ht⟩ := h.fresh i (.inr hi)
  have hl : (c.call i).stage.listens = true := by rw [hi]; rfl
  set c' : Inner := { c with pending := Function.update c.pending (c.call i).id (some i) }.goto i
      .sending with hc'
  have hcall : ∀ j, c'.call j = if j = i then { c.call i with stage := .sending } else c.call j :=
    fun j => Function.update_apply ..
  have hpend : ∀ id, c'.pending id = if id = (c.call i).id then some i else c.pending id :=
    fun id => Function.update_apply ..
  have hlist : ∀ j, (c'.call j).stage.listens = (c.call j).stage.listens := by
    intro j
    rw [hcall]
    split_ifs with e
    · rw [e, hl]
      rfl
    · rfl
  have hid : ∀ j, (c'.call j).id = (c.call j).id := by
    intro j
    rw [hcall]
    split_ifs with e
    · rw [e]
    · rfl
  refine ⟨fun id j hj => ?_, fun j hj => ?_, fun j hj => ?_, fun j k hj hk hjk => ?_,
    fun j hj => ?_, fun j hj ho' => ?_⟩
  · rw [hpend] at hj
    split_ifs at hj with e
    · cases hj
      rw [hcall, if_pos rfl]
      exact ⟨e.symm, ho, ht, nofun, nofun, e ▸ h.id_lt i hl⟩
    · obtain ⟨h1, h2, h3, h4, h5, h6⟩ := h.entry id j hj
      have hne : j ≠ i := by
        rintro rfl
        exact h5 hi
      rw [hcall, if_neg hne]
      exact ⟨h1, h2, h3, h4, h5, h6⟩
  · rw [hcall] at hj ⊢
    split_ifs at hj ⊢ with e
    · rcases hj with hj | hj <;> cases hj
    · exact h.fresh j hj
  · rw [hlist] at hj
    rw [hid]
    exact h.id_lt j hj
  · rw [hlist] at hj hk
    rw [hid, hid] at hjk
    exact h.id_inj j k hj hk hjk
  · rw [hid, hpend]
    rw [hcall] at hj
    split_ifs at hj with e
    have hne : (c.call j).id ≠ (c.call i).id := fun hid =>
      e (h.id_inj j i (by rw [hj]; rfl) hl hid)
    rw [if_neg hne]
    exact h.unfiled j hj
  · rw [hid, hpend]
    split_ifs with hid'
    · rw [hcall] at hj
      split_ifs at hj with e
      · rw [e]
      · have : (c.call j).stage.listens = true := by rcases hj with hj | hj <;> rw [hj] <;> rfl
        exact absurd (h.id_inj j i this hl hid') e
    · rw [hcall] at hj ho'
      split_ifs at hj ho' with e
      · exact absurd (by rw [e]) hid'
      · exact h.listed j hj ho'

/-- The entry of the call `i` is taken, and the call is answered or no longer listens. -/
theorem Filed.taken (h : Filed c) {id : RequestId} {i : CallId} (hp : c.pending id = some i)
    (hpend : c'.pending = Function.update c.pending id none) (hnext : c.nextId ≤ c'.nextId)
    (hid : ∀ j, (c'.call j).id = (c.call j).id)
    (hstage : ∀ j, (c'.call j).stage = (c.call j).stage)
    (hone : ∀ j, j ≠ i → (c'.call j).oneshot = (c.call j).oneshot)
    (hone' : (c.call i).stage.listens = true → (c'.call i).oneshot ≠ .empty)
    (htook : ∀ j, j ≠ i → c'.took j = c.took j) : Filed c' := by
  have hpe : ∀ k, c'.pending k = if k = id then none else c.pending k := by
    intro k
    rw [hpend, Function.update_apply]
  obtain ⟨-, -, -, ha, hn, -⟩ := h.entry id i hp
  refine ⟨fun k j hj => ?_, fun j hj => ?_, fun j hj => ?_, fun j k hj hk hjk => ?_,
    fun j hj => ?_, fun j hj ho => ?_⟩
  · rw [hpe] at hj
    split_ifs at hj with e
    obtain ⟨h1, h2, h3, h4, h5, h6⟩ := h.entry k j hj
    have hne : j ≠ i := by
      rintro rfl
      exact e (h1.symm.trans (h.entry id j hp).1)
    refine ⟨(hid j).trans h1, (hone j hne).trans h2, (htook j hne).trans h3, ?_, ?_,
      Nat.lt_of_lt_of_le h6 hnext⟩
    · rwa [hstage]
    · rwa [hstage]
  · rw [hstage] at hj
    have hne : j ≠ i := by
      rintro rfl
      exact hj.elim ha hn
    rw [hone j hne, htook j hne]
    exact h.fresh j hj
  · rw [hid]
    exact Nat.lt_of_lt_of_le (h.id_lt j (by rwa [hstage] at hj)) hnext
  · rw [hid, hid] at hjk
    exact h.id_inj j k (by rwa [hstage] at hj) (by rwa [hstage] at hk) hjk
  · rw [hid, hpe, h.unfiled j (by rwa [hstage] at hj), ite_self]
  · rw [hstage] at hj
    have hne : j ≠ i := by
      rintro rfl
      exact hone' (by rcases hj with hj | hj <;> rw [hj] <;> rfl) ho
    have hj' := h.listed j hj ((hone j hne).symm.trans ho)
    rw [hid, hpe, if_neg, hj']
    intro e
    rw [e, hp] at hj'
    exact hne (Option.some.inj hj').symm

theorem Filed.receive (h : Filed c) (e : Envelope) : Filed (c.receive e) := by
  rcases receive_cases c e with hs | ⟨i, body, hT⟩
  · exact h.passing hs.passing
  rcases hT.cases with ⟨hl, hd⟩ | ⟨hl, response, -, hd⟩ | ⟨hl, -, hd⟩
  · have hcall : ∀ j, (c.receive e).call j =
        if j = i then { c.call i with oneshot := .full body } else c.call j := by
      intro j
      rw [hd]
      exact Function.update_apply ..
    refine h.taken hT.entry (by rw [hd]; rfl) (by rw [hd]; exact Nat.le_refl _) (fun j => ?_)
      (fun j => ?_) (fun j hj => ?_) (fun _ => ?_) hT.took_ne
    all_goals rw [hcall]
    · split_ifs with hj
      · rw [hj]
      · rfl
    · split_ifs with hj
      · rw [hj]
      · rfl
    · rw [if_neg hj]
    · rw [if_pos rfl]
      nofun
  · refine h.taken hT.entry (by rw [hd]; rfl) (by rw [hd]; exact Nat.le_succ _)
      (fun j => by rw [hd]; rfl) (fun j => by rw [hd]; rfl) (fun j _ => by rw [hd]; rfl)
      (fun h => ?_) hT.took_ne
    rw [hl] at h
    cases h
  · refine h.taken hT.entry (by rw [hd]) (by rw [hd]) (fun j => by rw [hd]) (fun j => by rw [hd])
      (fun j _ => by rw [hd]) (fun h => ?_) hT.took_ne
    rw [hl] at h
    cases h

theorem Filed.clear (h : Filed c) : Filed c.clear := by
  have hcall : ∀ j, c.clear.call j =
      if c.pending (c.call j).id = some j then { c.call j with oneshot := .closed }
      else c.call j := fun _ => rfl
  have hid : ∀ j, (c.clear.call j).id = (c.call j).id := by
    intro j
    rw [hcall]
    split <;> rfl
  have hstage : ∀ j, (c.clear.call j).stage = (c.call j).stage := by
    intro j
    rw [hcall]
    split <;> rfl
  refine ⟨nofun, fun j hj => ?_, fun j hj => ?_, fun j k hj hk hjk => ?_, fun j hj => rfl,
    fun j hj ho => ?_⟩
  · rw [hstage] at hj
    have hne : c.pending (c.call j).id ≠ some j := by
      intro hp
      obtain ⟨-, -, -, ha, hn, -⟩ := h.entry _ j hp
      exact hj.elim ha hn
    rw [hcall, if_neg hne]
    exact h.fresh j hj
  · rw [hid]
    exact h.id_lt j (by rwa [hstage] at hj)
  · rw [hid, hid] at hjk
    exact h.id_inj j k (by rwa [hstage] at hj) (by rwa [hstage] at hk) hjk
  · rw [hstage] at hj
    rw [hcall] at ho
    split_ifs at ho with hp
    exact absurd (h.listed j hj ho) hp

/-- What a step may do to the calls' answers and to `pending`. -/
theorem step_cases {a : Act} (hs : Step c a c') :
    Passing c c' ∨ (∃ i request, (c.call i).stage = .absent ∧ c' = c.begin i request) ∨
      (∃ i, (c.call i).stage = .inserting ∧ c' =
        { c with pending := Function.update c.pending (c.call i).id (some i) }.goto i .sending) ∨
      (∃ e, c' = c.receive e) ∨ c' = c.clear := by
  cases hs with
  | list hi | acquire hi | signal hi => exact .inr (.inl ⟨_, _, hi, rfl⟩)
  | insert hi => exact .inr (.inr (.inl ⟨_, hi, rfl⟩))
  | receive => exact .inr (.inr (.inr (.inl ⟨_, rfl⟩)))
  | clear => exact .inr (.inr (.inr (.inr rfl)))
  | misasked | resumeClosed | dropWaiting | keep | opened | attached | notSent =>
    exact .inl (.leave rfl rfl (Nat.le_refl _) rfl rfl nofun)
  | @send i hi hw =>
    have h : Passing c { c with
      requests := c.queued (envelope (c.call i).id (c.call i).request.body) } :=
        .same rfl rfl (Nat.le_refl _) rfl
    exact .inl (h.goto (.inr (.inl ⟨hi, rfl⟩)))
  | resume =>
    exact .inl (.leave rfl rfl (Nat.le_refl _) rfl (listens_answered _ _) (answered_ne_absent _ _))
  | register => exact .inl (passing_register _ _)
  | notOpened | notAttached | dropOpening | dropAttaching | dropStream =>
    exact .inl (.leave rfl rfl (Nat.le_succ _) rfl rfl nofun)
  | read => exact .inl (Still.passing (.setCall rfl rfl rfl rfl))
  | pollEnd => exact .inl (still_pollEnd _ _ _).passing
  | write | notWritten | readerEnd | collect | readerDone =>
    exact .inl (.same rfl rfl (Nat.le_refl _) rfl)
  | endNext =>
    exact .inl ((still_endStream _ _ _).passing.of_call rfl rfl (Nat.le_refl _) rfl)

theorem filed_step {a : Act} (h : Filed c) (hs : Step c a c') : Filed c' := by
  rcases step_cases hs with hp | ⟨i, request, hi, rfl⟩ | ⟨i, hi, rfl⟩ | ⟨e, rfl⟩ | rfl
  · exact h.passing hp
  · exact h.begin hi request
  · exact h.insert hi
  · exact h.receive e
  · exact h.clear

theorem filed_reachable (h : Lts.Reachable Step init c) : Filed c :=
  h.invariant filed_init fun _ _ _ _ hc hs => filed_step hc hs

end Tunelith.Client
