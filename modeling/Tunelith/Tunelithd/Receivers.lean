import Tunelith.Tunelithd.Answers

/-!
# Who has the receiver of a stream

The receiver of a stream is in `unattached` until a data connection takes it, and then with that
connection alone (`Receivers`). What the data connection writes is what was sent into the channel,
in order, and at its end all of it (`Relays`).
-/

namespace Tunelith.Tunelithd

open Daemon Lts Proto

/-- The token of the stream a data connection is about. -/
def DataStage.token : DataStage → Option Token
  | .greeting t _ | .sending t _ | .leaving t _ => some t
  | _ => none

/-- The channel whose receiver a data connection has. -/
def DataStage.chan : DataStage → Option ChanId
  | .greeting _ k | .sending _ k => some k
  | .leaving _ k => k
  | _ => none

/-- The data connection an action is a step of. -/
def Act.data : Act → Option DataId
  | .attach x _ | .greeted x _ | .recv x _ | .dataEnd x | .dataFail x | .detach x => some x
  | _ => none

variable {d d' : Daemon} {a : Act} {t : Token} {k : ChanId} {x : DataId}

/-! ## What a step does to a channel -/

/-- The action drops the receiver of `k`: that of a stream no one attached to, with the stream, or
that of a data connection, with its end. -/
def Drops (d : Daemon) (a : Act) (k : ChanId) : Prop :=
  (∃ t, d.unattached t = some k ∧
    (d.released a = some t ∨ ∃ s walk order, a = .endFirst s walk order ∧ d.tokens t = some s)) ∨
  ∃ x, (a = .dataEnd x ∨ a = .dataFail x ∨ a = .detach x) ∧ (d.data x).stage.chan = some k

/-- What a step does to a channel there is. -/
inductive Chan.Turn (d : Daemon) (k : ChanId) : Act → Chan → Prop
  | stay {a : Act} : Chan.Turn d k a (d.chan k)
  | feed {s : SessionId} {order : List Token} {b : Chunk} {K : Chan}
      (hq : (d.chan k).queue.Extends K.queue) (hr : K.rx = (d.chan k).rx)
      (hk : (∀ u x, (d.session s).subscribers.lookup u = some x → k ≠ x.tx) → K = d.chan k) :
      Chan.Turn d k (.chunk s order b) K
  | recv {x : DataId} {t : Token} {c : Chunk} (hx : (d.data x).stage = .sending t k)
      (hc : (d.chan k).queue.next? = some c) :
      Chan.Turn d k (.recv x c) { d.chan k with queue := (d.chan k).queue.pop }
  | drop {a : Act} (h : Drops d a k) : Chan.Turn d k a { d.chan k with rx := false }

theorem chan_dropUnattached_eq (d : Daemon) (t : Token) (k : ChanId) :
    (d.dropUnattached t).chan k =
      if d.unattached t = some k then { d.chan k with rx := false } else d.chan k := by
  unfold dropUnattached
  cases ht : d.unattached t with
  | none => rfl
  | some j =>
    simp only [dropReceiver, setChan_chan, Function.update_apply, Option.some.injEq]
    by_cases e : k = j
    · rw [if_pos e, if_pos e.symm, e]
    · rw [if_neg e, if_neg (Ne.symm e)]

theorem chan_release_eq (d : Daemon) (t : Token) (k : ChanId) : (d.release t).chan k =
    if d.unattached t = some k then { d.chan k with rx := false } else d.chan k := by
  rw [← chan_dropUnattached_eq]
  unfold release leave
  simp only [tokens_dropUnattached, setSubscribers]
  split
  · rfl
  · split <;> rfl

/-- The walk of `end` over the tokens drops the receivers of those of its session. -/
theorem chan_foldl_retainToken_cases (s : SessionId) (walk : List Token) (d : Daemon)
    (k : ChanId) :
    (walk.foldl (fun d t => d.retainToken s t) d).chan k = d.chan k ∨
      (walk.foldl (fun d t => d.retainToken s t) d).chan k = { d.chan k with rx := false } ∧
        ∃ t, d.unattached t = some k ∧ d.tokens t = some s := by
  induction walk generalizing d with
  | nil => exact .inl rfl
  | cons t walk ih =>
    have hone : (d.retainToken s t).chan k = d.chan k ∨
        (d.retainToken s t).chan k = { d.chan k with rx := false } ∧
          d.unattached t = some k ∧ d.tokens t = some s := by
      unfold retainToken
      split
      · next ht =>
        dsimp only
        rw [chan_dropUnattached_eq]
        split
        · next hu => exact .inr ⟨rfl, hu, ht⟩
        · exact .inl rfl
      · exact .inl rfl
    have hrest : (d.retainToken s t).chan k = d.chan k ∨ (d.retainToken s t).chan k =
        { d.chan k with rx := false } := hone.imp_right And.left
    rcases ih (d.retainToken s t) with he | ⟨he, u, hu, hu'⟩
    · rw [List.foldl_cons, he]
      exact hone.imp_right fun h => ⟨h.1, t, h.2⟩
    · refine .inr ⟨?_, u, ?_, ?_⟩
      · rw [List.foldl_cons, he]
        rcases hrest with h | h <;> rw [h]
      · rw [unattached_retainToken] at hu
        split_ifs at hu
        exact hu
      · rw [tokens_retainToken] at hu'
        split_ifs at hu'
        exact hu'

theorem chan_offer_turn (d : Daemon) (s : SessionId) (b : Chunk) (u : Token) (k : ChanId) :
    (d.chan k).queue.Extends ((d.offer s b u).chan k).queue ∧
      ((d.offer s b u).chan k).rx = (d.chan k).rx := by
  rcases d.offer_cases s b u with ⟨-, he⟩ | ⟨x, -, ⟨K, hK, he⟩ | ⟨-, he⟩ | ⟨-, he⟩⟩
  · rw [he]
    exact ⟨.refl _, rfl⟩
  · have hc : (d.offer s b u).chan k = if k = x.tx then K else d.chan k := by
      rw [he]
      refine (congrFun (chan_flushDrops _ _ _) k).trans ?_
      exact Function.update_apply ..
    rw [hc]
    split_ifs with e
    · subst e
      unfold Chan.trySend at hK
      split_ifs at hK
      cases hK
      exact ⟨.push _ _, rfl⟩
    · exact ⟨.refl _, rfl⟩
  · rw [he]
    exact ⟨.refl _, rfl⟩
  · rw [he]
    exact ⟨.refl _, rfl⟩

theorem chan_foldl_offer_turn (s : SessionId) (b : Chunk) (order : List Token) (d : Daemon)
    (k : ChanId) :
    (d.chan k).queue.Extends ((order.foldl (fun d t => d.offer s b t) d).chan k).queue ∧
      ((order.foldl (fun d t => d.offer s b t) d).chan k).rx = (d.chan k).rx := by
  induction order generalizing d with
  | nil => exact ⟨.refl _, rfl⟩
  | cons u order ih =>
    have hone := chan_offer_turn d s b u k
    have hrest := ih (d.offer s b u)
    exact ⟨hone.1.trans hrest.1, hrest.2.trans hone.2⟩

theorem chan_turn (hs : Step d a d') (hk : (d.chan k).made = true) :
    Chan.Turn d k a (d'.chan k) := by
  have hR : ∀ {t}, d.released a = some t → Chan.Turn d k a ((d.release t).chan k) := by
    intro t ht
    rw [chan_release_eq]
    split_ifs with hu
    · exact .drop (.inl ⟨t, hu, .inl ht⟩)
    · exact .stay
  have hsub : ∀ {e : Daemon} {h s draw}, e.chan = d.chan →
      (∀ t j, draw = some (t, j) → d.MayDraw t j) →
      Chan.Turn d k a ((e.subscribed h s draw).chan k) := by
    intro e h s draw he hd
    rw [show (e.subscribed h s draw).chan k = d.chan k from ?_]
    · exact .stay
    cases draw with
    | none => exact congrFun he k
    | some p =>
      have hne : k ≠ p.2 := by
        rintro rfl
        rw [(hd p.1 p.2 rfl).2.2] at hk
        cases hk
      exact (Function.update_of_ne hne ..).trans (congrFun he k)
  have hset : ∀ {j : ChanId} {e : Daemon} {K : Chan}, (j = k → Chan.Turn d k a K) →
      Chan.Turn d k a (e.chan k) → Chan.Turn d k a ((e.setChan j K).chan k) := by
    intro j e K hK he
    rw [setChan_chan, Function.update_apply]
    split_ifs with hj
    · exact hK hj.symm
    · exact he
  cases hs
  case cleanUp => exact hR rfl
  case forsake hh => exact hR (by simp [released, hh])
  case release hh => exact hR (by simp [released, hh])
  case join hd => exact hsub rfl hd
  case publish hd => exact hsub rfl hd
  case reserve =>
    unfold Daemon.reserve
    split <;> split <;> exact .stay
  case retry =>
    unfold Daemon.reserve
    split <;> split <;> exact .stay
  case recv x t j c hx hc =>
    refine hset ?_ .stay
    rintro rfl
    exact .recv hx hc
  case dataEnd x t j hx hq hj =>
    refine hset ?_ .stay
    rintro rfl
    exact .drop (.inr ⟨x, .inl rfl, by rw [hx]; rfl⟩)
  case dataFail x t j hx =>
    refine hset ?_ .stay
    rintro rfl
    exact .drop (.inr ⟨x, .inr (.inl rfl), by rw [hx]; rfl⟩)
  case detach x t j hx =>
    have hrel := hR (t := t) (by simp [released, hx])
    cases j with
    | none => exact hrel
    | some j =>
      refine hset ?_ hrel
      rintro rfl
      have hdrop : Drops d (.detach x) j := .inr ⟨x, .inr (.inr rfl), by rw [hx]; rfl⟩
      rw [d.chan_release t j]
      exact .drop hdrop
  case chunk s order b hs hn ho =>
    have hturn := chan_foldl_offer_turn s b order d k
    exact .feed hturn.1 hturn.2 fun hne => chan_fanOutChunk_of_ne hne
  case closeIfIdle =>
    unfold Daemon.closeIfIdle
    split <;> exact .stay
  case endFirst s walk order error hs hw hn ho =>
    have he : (d.endFirst s walk order error).chan k =
        (walk.foldl (fun d t => d.retainToken s t) (d.beginEnd s)).chan k :=
      congrFun (chan_foldl_drain _ s error order) k
    rw [he]
    rcases chan_foldl_retainToken_cases s walk (d.beginEnd s) k with h | ⟨h, t, hu, ht⟩
    · rw [h]
      exact .stay
    · rw [h]
      exact .drop (.inl ⟨t, hu, .inr ⟨s, walk, order, rfl, ht⟩⟩)
  all_goals exact .stay

/-! ## What it does to the receivers -/

/-- Only a data connection's own steps move it. -/
theorem data_of_other (hs : Step d a d') (ha : a.data ≠ some x) : d'.data x = d.data x := by
  have hR : ∀ t, (d.release t).data x = d.data x := fun t => congrFun (d.frame_release t).data x
  have hne : ∀ {y}, some y ≠ some x → x ≠ y := fun h e => h (congrArg some e.symm)
  cases hs
  case cleanUp => exact hR _
  case forsake => exact hR _
  case release => exact hR _
  case join h request params s draw hh hp hs hd => cases draw <;> rfl
  case publish h job id left format s draw hh hs hd => cases draw <;> rfl
  case reserve =>
    unfold Daemon.reserve
    split <;> split <;> rfl
  case retry =>
    unfold Daemon.reserve
    split <;> split <;> rfl
  case detach y t k hx =>
    have h : ∀ {e : Daemon} {X : DataTask}, e.data x = d.data x →
        (e.setData y X).data x = d.data x := fun he => (Function.update_of_ne (hne ha) ..).trans he
    cases k <;> exact h (hR t)
  case chunk s order b hs hn ho =>
    obtain ⟨e, f, he⟩ := d.exists_fanOutChunk s order b
    rw [he]
    exact congrFun f.frame.data x
  case closeIfIdle =>
    unfold Daemon.closeIfIdle
    split <;> rfl
  case endFirst s walk order error hs hw hn ho =>
    exact congrFun (d.frame_endFirst s walk order error).data x
  all_goals first
    | rfl
    | exact Function.update_of_ne (hne ha) ..

/-- A stream no one has attached to was so before, or has just been drawn. -/
theorem unattached_step (hs : Step d a d') (ht : d'.unattached t = some k) :
    d.unattached t = some k ∨ a.draws = some t ∧ (d'.chan k).queue = .empty ∧
      (d'.chan k).rx = true ∧ (d.chan k).made = false ∧
      ∃ D, d'.drawn t = some D ∧ D.chan = k := by
  have hsub : ∀ {e : Daemon} {h s draw}, e.unattached = d.unattached →
      (∀ u j, draw = some (u, j) → d.MayDraw u j) →
      (e.subscribed h s draw).unattached t = some k →
      d.unattached t = some k ∨ draw.map Prod.fst = some t ∧
        ((e.subscribed h s draw).chan k).queue = .empty ∧
        ((e.subscribed h s draw).chan k).rx = true ∧ (d.chan k).made = false ∧
        ∃ D, (e.subscribed h s draw).drawn t = some D ∧ D.chan = k := by
    intro e h s draw he hd ht
    cases draw with
    | none => exact .inl (by rw [← he]; exact ht)
    | some p =>
      obtain ⟨u, j⟩ := p
      rw [Daemon.subscribed, goto_unattached, unattached_subscribe, Function.update_apply] at ht
      split_ifs at ht with htu
      · subst htu
        cases ht
        have hchan : (e.subscribed h s (some (t, k))).chan k = { made := true, rx := true } :=
          Function.update_self ..
        exact .inr ⟨rfl, by rw [hchan], by rw [hchan], (hd t k rfl).2.2, _,
          Function.update_self .., rfl⟩
      · exact .inl (by rw [← he]; exact ht)
  have hset : ∀ {f : Token → Option ChanId} {u : Token}, Function.update f u none t = some k →
      f t = some k := by
    intro f u h
    rw [Function.update_apply] at h
    split_ifs at h
    exact h
  have hR : ∀ {u}, (d.release u).unattached t = some k → d.unattached t = some k := by
    intro u h
    rw [unattached_release] at h
    exact hset h
  cases hs
  case join hd => exact hsub rfl hd ht
  case publish hd => exact hsub rfl hd ht
  all_goals refine .inl ?_
  case cleanUp => exact hR ht
  case forsake => exact hR ht
  case release => exact hR ht
  case attach => exact hset ht
  case detach x u k hx => cases k <;> exact hR ht
  case reserve =>
    unfold Daemon.reserve at ht
    split at ht <;> split at ht <;> exact ht
  case retry =>
    unfold Daemon.reserve at ht
    split at ht <;> split at ht <;> exact ht
  case chunk s order b hs hn ho =>
    obtain ⟨e, f, he⟩ := d.exists_fanOutChunk s order b
    rw [he, setSession_unattached, f.unattached] at ht
    exact ht
  case closeIfIdle =>
    unfold Daemon.closeIfIdle at ht
    split at ht <;> exact ht
  case endFirst s walk order error hs hw hn ho =>
    rw [(d.ended_endFirst walk error hw ho).unattached] at ht
    split_ifs at ht
    exact ht
  all_goals exact ht

/-! ## Receivers -/

/-- The receiver of a stream drawn is unattached, with nothing taken out, or with one data
connection. -/
structure Receivers (d : Daemon) : Prop where
  unattached : ∀ t k, d.unattached t = some k →
    (∃ D, d.drawn t = some D ∧ D.chan = k) ∧ (d.chan k).queue.received = [] ∧
      (d.chan k).rx = true
  token : ∀ x t, (d.data x).stage.token = some t → d.unattached t = none ∧
    ∃ D, d.drawn t = some D ∧ ∀ k, (d.data x).stage.chan = some k → D.chan = k
  sole : ∀ x y t, (d.data x).stage.token = some t → (d.data y).stage.token = some t → x = y
  out : ∀ x, (d.data x).stage = .absent → (d.data x).out = []

theorem receivers_init (devices : List Device) : Receivers (init devices) where
  unattached _ _ h := by cases h
  token _ _ h := by cases h
  sole _ _ _ h := by cases h
  out _ _ := rfl

/-- What a step does to a data connection. -/
inductive DataTask.Turn (d d' : Daemon) (x : DataId) : Act → DataTask → Prop
  | stay {a : Act} (ha : a.data ≠ some x) : DataTask.Turn d d' x a (d.data x)
  | attach {t : Token} {k : ChanId} (hx : (d.data x).stage = .absent)
      (ht : d.unattached t = some k) (hno : d'.unattached t = none) :
      DataTask.Turn d d' x (.attach x t) { d.data x with stage := .greeting t k }
  | unknownStream {t : Token} (hx : (d.data x).stage = .absent) :
      DataTask.Turn d d' x (.attach x t) { d.data x with stage := .done }
  | greeted {t : Token} {k : ChanId} (hx : (d.data x).stage = .greeting t k) :
      DataTask.Turn d d' x (.greeted x true) { d.data x with stage := .sending t k }
  | notGreeted {t : Token} {k : ChanId} (hx : (d.data x).stage = .greeting t k) :
      DataTask.Turn d d' x (.greeted x false) { d.data x with stage := .leaving t (some k) }
  | recv {t : Token} {k : ChanId} {c : Chunk} (hx : (d.data x).stage = .sending t k)
      (hc : (d.chan k).queue.next? = some c) (hk : (d'.chan k).queue = (d.chan k).queue.pop) :
      DataTask.Turn d d' x (.recv x c) { d.data x with out := (d.data x).out ++ [c] }
  | dataEnd {t : Token} {k : ChanId} (hx : (d.data x).stage = .sending t k)
      (hq : (d.chan k).queue.next? = none) (hk : d.NoSender k)
      (hchan : d'.chan k = { d.chan k with rx := false }) :
      DataTask.Turn d d' x (.dataEnd x) { d.data x with stage := .leaving t none }
  | dataFail {t : Token} {k : ChanId} (hx : (d.data x).stage = .sending t k) :
      DataTask.Turn d d' x (.dataFail x) { d.data x with stage := .leaving t none }
  | detach {t : Token} {k : Option ChanId} (hx : (d.data x).stage = .leaving t k) :
      DataTask.Turn d d' x (.detach x) { d.data x with stage := .done }

theorem data_turn (hs : Step d a d') (x : DataId) :
    DataTask.Turn d d' x a (d'.data x) := by
  by_cases ha : a.data = some x
  · have hset : ∀ {e : Daemon} {X : DataTask}, (e.setData x X).data x = X :=
      fun {e X} => Function.update_self ..
    cases hs <;> simp only [Act.data, Option.some.injEq, reduceCtorEq] at ha <;> subst ha
    case attach hx ht =>
      rw [hset]
      exact .attach hx ht (Function.update_self ..)
    case unknownStream hx ht =>
      rw [hset]
      exact .unknownStream hx
    case greeted t k ok hx =>
      rw [hset]
      cases ok
      · exact .notGreeted hx
      · exact .greeted hx
    case recv hx hc =>
      rw [hset]
      refine .recv hx hc ?_
      rw [setData_chan, setChan_chan, Function.update_self]
    case dataEnd hx hq hk =>
      rw [hset]
      exact .dataEnd hx hq hk (Function.update_self ..)
    case dataFail hx =>
      rw [hset]
      exact .dataFail hx
    case detach t k hx =>
      rw [hset]
      exact .detach hx
  · rw [data_of_other hs ha]
    exact .stay ha

/-- A data connection is about a stream from when it attaches to it. -/
theorem token_step (hs : Step d a d') (ht : (d'.data x).stage.token = some t) :
    (d.data x).stage.token = some t ∧
      (∀ k, (d'.data x).stage.chan = some k → (d.data x).stage.chan = some k) ∨
    a = .attach x t ∧ (d.data x).stage = .absent ∧ d'.unattached t = none ∧
      ∃ k, d.unattached t = some k ∧ (d'.data x).stage = .greeting t k := by
  have hturn := data_turn hs x
  generalize d'.data x = X at hturn ht ⊢
  cases hturn with
  | stay ha => exact .inl ⟨ht, fun _ h => h⟩
  | attach hx hu hno =>
    cases ht
    exact .inr ⟨rfl, hx, hno, _, hu, rfl⟩
  | unknownStream hx => cases ht
  | greeted hx | notGreeted hx =>
    cases ht
    rw [hx]
    exact .inl ⟨rfl, fun _ h => h⟩
  | recv hx hc hk => exact .inl ⟨ht, fun _ h => h⟩
  | dataEnd hx hq hk hchan =>
    cases ht
    rw [hx]
    exact .inl ⟨rfl, nofun⟩
  | dataFail hx =>
    cases ht
    rw [hx]
    exact .inl ⟨rfl, nofun⟩
  | detach hx => cases ht

theorem DataStage.token_of_chan {st : DataStage} {k : ChanId} (h : st.chan = some k) :
    ∃ t, st.token = some t := by
  cases st with
  | absent => cases h
  | done => cases h
  | _ => exact ⟨_, rfl⟩

/-- The receiver of a stream goes with the stream, or with its data connection. -/
theorem rx_step (hV : Receivers d) (hG : Ledger d) (hs : Step d a d') {D : Draw}
    (hD : d.drawn t = some D) (hrx : (d.chan D.chan).rx = true) (hrel : d.released a ≠ some t)
    (hdata : ∀ x, a = .dataEnd x ∨ a = .dataFail x → (d.data x).stage.token ≠ some t)
    (hend : ∀ s walk order, a = .endFirst s walk order → d.tokens t ≠ some s) :
    (d'.chan D.chan).rx = true := by
  have hturn := chan_turn hs (hG.made t D hD)
  generalize d'.chan D.chan = K at hturn
  cases hturn with
  | stay => exact hrx
  | feed hq hr => exact hr.trans hrx
  | recv => exact hrx
  | drop hdrop =>
    exfalso
    rcases hdrop with ⟨u, hu, hwhy⟩ | ⟨x, hwhy, hx⟩
    · obtain ⟨⟨E, hE, he⟩, -⟩ := hV.unattached u _ hu
      obtain rfl := hG.chan_inj t u D E hD hE he.symm
      rcases hwhy with hwhy | ⟨s, walk, order, ha, ht⟩
      · exact hrel hwhy
      · exact hend s walk order ha ht
    · obtain ⟨u, hu⟩ := DataStage.token_of_chan hx
      obtain ⟨-, E, hE, he⟩ := hV.token x u hu
      obtain rfl := hG.chan_inj t u D E hD hE (he _ hx).symm
      rcases hwhy with hwhy | hwhy | rfl
      · exact hdata x (.inl hwhy) hu
      · exact hdata x (.inr hwhy) hu
      · -- A data connection that detaches releases its stream.
        cases hs with
        | @detach _ v j hx' =>
          rw [hx'] at hu
          cases hu
          exact hrel (by simp [released, hx'])

theorem unattached_of_released (hs : Step d a d') (ha : d.released a = some t) :
    d'.unattached t = none := by
  rcases (step_released hs ha).unattached t with hu | hu
  · rw [hu, unattached_release, Function.update_self]
  · exact hu

theorem receivers_step (hV : Receivers d) (hG : Ledger d) (hs : Restrict Step Fresh d a d') :
    Receivers d' := by
  refine ⟨fun t k ht => ?_, fun x t ht => ?_, fun x y t hx hy => ?_, fun x hx => ?_⟩
  · rcases unattached_step hs.1 ht with hu | ⟨-, hq, hrx, -, hD⟩
    · obtain ⟨⟨D, hD, rfl⟩, hq, hrx⟩ := hV.unattached t k hu
      refine ⟨⟨D, drawn_step hs hD, rfl⟩, ?_, ?_⟩
      · have hturn := chan_turn hs.1 (hG.made t D hD)
        generalize d'.chan D.chan = K at hturn
        cases hturn with
        | stay => exact hq
        | feed hext => exact hext.received.trans hq
        | drop => exact hq
        | @recv x u c hx hc =>
          -- It would be of the stream that a data connection has attached to.
          obtain ⟨hno, E, hE, hchan⟩ := hV.token x u (by rw [hx]; rfl)
          obtain rfl := hG.chan_inj t u D E hD hE (hchan _ (by rw [hx]; rfl)).symm
          rw [hu] at hno
          cases hno
      · refine rx_step hV hG hs.1 hD hrx (fun ha => ?_) (fun x _ hx => ?_)
          fun s walk order ha hts => ?_
        · rw [unattached_of_released hs.1 ha] at ht
          cases ht
        · rw [(hV.token x t hx).1] at hu
          cases hu
        · subst ha
          cases hs.1 with
          | endFirst hr hw hn ho =>
            rw [(d.ended_endFirst walk _ hw ho).unattached, if_pos hts] at ht
            cases ht
    · refine ⟨hD, ?_, hrx⟩
      rw [hq]
      rfl
  · rcases token_step hs.1 ht with ⟨hold, hchan⟩ | ⟨-, -, hno, k, hu, hst⟩
    · obtain ⟨hno, D, hD, hk⟩ := hV.token x t hold
      refine ⟨?_, D, drawn_step hs hD, fun k hk' => hk k (hchan k hk')⟩
      rw [Option.eq_none_iff_forall_ne_some]
      intro k hu
      rcases unattached_step hs.1 hu with hu | ⟨ha, -⟩
      · rw [hno] at hu
        cases hu
      · rw [hs.2 t ha] at hD
        cases hD
    · obtain ⟨⟨D, hD, rfl⟩, -⟩ := hV.unattached t k hu
      refine ⟨hno, D, drawn_step hs hD, fun j hj => ?_⟩
      rw [hst] at hj
      exact Option.some.inj hj
  · rcases token_step hs.1 hx with ⟨hx, -⟩ | ⟨ha, -, -, k, hu, -⟩ <;>
      rcases token_step hs.1 hy with ⟨hy, -⟩ | ⟨ha', -, -, k', hu', -⟩
    · exact hV.sole x y t hx hy
    · rw [(hV.token x t hx).1] at hu'
      cases hu'
    · rw [(hV.token y t hy).1] at hu
      cases hu
    · exact (Act.attach.inj (ha.symm.trans ha')).1
  · have hturn := data_turn hs.1 x
    generalize d'.data x = X at hturn hx ⊢
    cases hturn with
    | stay ha => exact hV.out x hx
    | recv hx' => rw [hx'] at hx; cases hx
    | _ => cases hx

theorem receivers_reachable {devices : List Device}
    (h : Reachable (Restrict Step Fresh) (init devices) d) : Receivers d :=
  h.invariant (receivers_init devices) fun _ _ _ hreach hV hs =>
    receivers_step hV (ledger_reachable hreach) hs

/-! ## What a data connection writes -/

/-- No one takes the stream `t`. -/
def Daemon.Left (d : Daemon) (t : Token) : Prop :=
  ∀ s, (d.session s).subscribers.lookup t = none

/-- What was written to the data connection `x` of the stream `t` is what was taken from its
channel; at the end it is all there was, and there will be no more. -/
def Daemon.Relays (d : Daemon) (x : DataId) (t : Token) : Prop :=
  ∃ D, d.drawn t = some D ∧
    (((d.data x).stage = .greeting t D.chan ∨ (d.data x).stage = .sending t D.chan) ∧
        (d.data x).out = (d.chan D.chan).queue.received ∨
      ((d.data x).stage = .leaving t none ∨ (d.data x).stage = .done) ∧
        (d.data x).out = (d.chan D.chan).queue.sent ∧ d.Left t)

theorem Daemon.Left.step (hl : d.Left t) (hA : Answering d) (ht : d.drawn t ≠ none)
    (hs : Restrict Step Fresh d a d') : d'.Left t :=
  have hS : Silent t (d.told t) d := ⟨ht, hl, fun _ => rfl⟩
  (hS.step hA hs).left

/-- The channel of a stream no one takes is sent nothing more. -/
theorem Daemon.Left.sent (hl : d.Left t) (hG : Ledger d) {D : Draw} (ht : d.drawn t = some D)
    (hs : Step d a d') : (d'.chan D.chan).queue.sent = (d.chan D.chan).queue.sent := by
  have hturn := chan_turn hs (hG.made t D ht)
  generalize d'.chan D.chan = K at hturn
  cases hturn with
  | feed _ _ hk =>
    rw [hk fun u x hx he => ?_]
    obtain ⟨since, hi⟩ := hG.account _ u x hx
    obtain rfl := hG.chan_inj t u D _ ht hi.drawn he
    rw [hl] at hx
    cases hx
  | recv => exact Fifo.sent_pop _
  | _ => rfl

/-- A data connection that has attached starts with nothing. -/
theorem relays_of_attach (hV : Receivers d)
    (hs : Restrict Step Fresh d (.attach x t) d') (ht : d.unattached t ≠ none) :
    d'.Relays x t := by
  obtain ⟨k, hk⟩ := Option.ne_none_iff_exists'.1 ht
  obtain ⟨⟨D, hD, rfl⟩, hq, -⟩ := hV.unattached t k hk
  have hdrawn := drawn_step hs hD
  cases hs.1 with
  | attach hx hu =>
    cases hk.symm.trans hu
    rw [Daemon.Relays, setData_data, Function.update_self]
    exact ⟨D, hdrawn, .inl ⟨.inl rfl, (hV.out x hx).trans hq.symm⟩⟩
  | unknownStream hx hu =>
    rw [hk] at hu
    cases hu

/-- As long as nothing it writes fails, a data connection relays its stream. -/
theorem Daemon.Relays.step (hR : d.Relays x t) (hV : Receivers d) (hG : Ledger d)
    (hA : Answering d) (hs : Restrict Step Fresh d a d') (hfail : a ≠ .dataFail x)
    (hgreet : a ≠ .greeted x false) : d'.Relays x t := by
  obtain ⟨D, hD, hR⟩ := hR
  have hne : d.drawn t ≠ none := by
    rw [hD]
    exact Option.some_ne_none D
  refine ⟨D, drawn_step hs hD, ?_⟩
  rcases hR with ⟨hst, hout⟩ | ⟨hst, hout, hl⟩
  · have htok : (d.data x).stage.token = some t := by rcases hst with h | h <;> rw [h] <;> rfl
    have hchan : (d.data x).stage.chan = some D.chan := by
      rcases hst with h | h <;> rw [h] <;> rfl
    -- Nobody else takes anything out of the channel.
    have hrecv : (∀ c, a ≠ .recv x c) →
        (d'.chan D.chan).queue.received = (d.chan D.chan).queue.received := by
      intro hno
      have hturn := chan_turn hs.1 (hG.made t D hD)
      generalize d'.chan D.chan = K at hturn
      cases hturn with
      | feed hext => exact hext.received
      | @recv y u c hy hc =>
        obtain ⟨-, E, hE, hk⟩ := hV.token y u (by rw [hy]; rfl)
        obtain rfl := hG.chan_inj t u D E hD hE (hk _ (by rw [hy]; rfl)).symm
        obtain rfl := hV.sole x y t htok (by rw [hy]; rfl)
        exact absurd rfl (hno c)
      | _ => rfl
    have hturn := data_turn hs.1 x
    generalize d'.data x = X at hturn ⊢
    cases hturn with
    | stay ha =>
      refine .inl ⟨hst, hout.trans (hrecv ?_).symm⟩
      rintro c rfl
      exact ha rfl
    | attach hx | unknownStream hx => rw [hx] at htok; cases htok
    | greeted hx =>
      rw [hx] at htok hchan
      cases htok
      cases hchan
      exact .inl ⟨.inr rfl, hout.trans (hrecv nofun).symm⟩
    | notGreeted => exact absurd rfl hgreet
    | @recv u k c hx hc hk =>
      rw [hx] at hchan
      cases hchan
      refine .inl ⟨hst, ?_⟩
      rw [hk, Fifo.received_pop hc, hout]
    | dataEnd hx hq hk hchan' =>
      rw [hx] at htok hchan
      cases htok
      cases hchan
      have hl : d.Left t := by
        intro s
        cases hy : (d.session s).subscribers.lookup t with
        | none => rfl
        | some y =>
          obtain ⟨since, hi⟩ := hG.account s t y hy
          cases hD.symm.trans hi.drawn
          exact absurd rfl (hk s t y hy)
      refine .inr ⟨.inl rfl, ?_, hl.step hA hne hs⟩
      rw [hchan', hout]
      exact Fifo.received_of_next? hq
    | dataFail => exact absurd rfl hfail
    | detach hx =>
      rw [hx] at hst
      rcases hst with h | h <;> cases h
  · have hl' := hl.step hA hne hs
    rw [hl.sent hG hD hs.1]
    have hturn := data_turn hs.1 x
    generalize d'.data x = X at hturn ⊢
    cases hturn with
    | stay ha => exact .inr ⟨hst, hout, hl'⟩
    | detach hx => exact .inr ⟨.inr rfl, hout, hl'⟩
    | attach hx | unknownStream hx | greeted hx | notGreeted hx | recv hx | dataEnd hx
      | dataFail hx =>
      rw [hx] at hst
      rcases hst with h | h <;> cases h

end Tunelith.Tunelithd
