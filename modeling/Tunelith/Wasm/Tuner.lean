import Mathlib.Logic.Function.Basic
import Tunelith.Core.Types
import Tunelith.Lib.Slot
import Tunelith.Lib.Transition

/-!
# A tuner in the browser

A page calls `tune`, `read` and the others of one `Tuner`, on one thread. What a call does up to
where it waits next is done in one go; a step is one such part, and a poll takes one or more of them
in a row. A read that is aborted goes on when it is polled, and other calls may come before that.

* `Apart` — the handle names the one read in progress, and the lock the one call it is held by.
* `ends_the_read` — `tune` and `close` end the read in progress and no other.
-/

namespace Tunelith.Wasm

abbrev Bytes := List UInt8

/-- The signal, `cnrDb` as the bits of its `f64`. -/
structure Signal where
  locked : Bool
  cnrDb : Option UInt64
deriving DecidableEq, Repr

/-- The parameters of `tune`, the system and the polarization `none` if they are not known ones. -/
structure TuneArgs where
  system : Option System
  frequencyKhz : UInt32
  streamId : Option UInt16
  polarization : Option (Option Polarization)
deriving DecidableEq, Repr

def TuneArgs.params (a : TuneArgs) : Except String TuneParams := do
  let system ← match a.system with
    | some system => .ok system
    | none => .error "unknown system"
  let polarization ← match a.polarization with
    | none | some (some .right) => .ok none
    | some (some .left) => .ok (some .left)
    | some none => .error "unknown polarization"
  let params : TuneParams :=
    { system, frequencyKhz := a.frequencyKhz, streamId := a.streamId.map StreamId.mk, polarization }
  match params.validate with
  | .error e => .error e.toString
  | .ok () => .ok params

/-- How far a `read` is. -/
inductive Read
  | absent
  | waiting
  /-- It holds the lock, and the tuner opens a stream. -/
  | opening
  | receiving (stream : Nat)
  /-- What it resolved to, `none` for `undefined`. -/
  | done (result : Except String (Option Bytes))

/-- It waits for something. -/
def Read.Pending : Read → Prop
  | .absent | .done _ => False
  | _ => True

inductive Op
  | tune (params : TuneParams)
  | signal
  | setLnb (on : Bool)
  | close
deriving DecidableEq, Repr

inductive Call
  | absent
  /-- For the lock, past `end_stream` if it has one. -/
  | waiting (op : Op)
  | running (op : Op)
  | done (result : Except String (Option Signal))

/-- Who may hold the lock. -/
inductive Task
  | read (r : Nat)
  | call (k : Nat)
deriving DecidableEq

structure Tuner where
  holder : Option Task := none
  /-- There is a tuner in it still. -/
  opened : Bool := true
  stream : Option Nat := none
  reading : Option Nat := none
  streams : Nat := 0
  reads : Nat → Read := fun _ => .absent
  /-- The handle of a read was told to abort it. -/
  aborted : Nat → Bool := fun _ => false
  calls : Nat → Call := fun _ => .absent

namespace Tuner

def setRead (s : Tuner) (r : Nat) (read : Read) : Tuner :=
  { s with reads := Function.update s.reads r read }

def setCall (s : Tuner) (k : Nat) (call : Call) : Tuner :=
  { s with calls := Function.update s.calls k call }

/-- A read that was not aborted resolves, taking the handle. -/
def resolve (s : Tuner) (r : Nat) (result : Except String (Option Bytes)) : Tuner :=
  { s with reading := none }.setRead r (.done result)

def release (s : Tuner) (o : Task) : Tuner :=
  { s with holder := if s.holder = some o then none else s.holder }

def endStream (s : Tuner) : Tuner :=
  { s with
    reading := none
    aborted := match s.reading with
      | none => s.aborted
      | some r => Function.update s.aborted r true
    stream := none }

end Tuner

inductive Act
  | read (r : Nat)
  | poll (r : Nat)
  | tune (k : Nat) (args : TuneArgs)
  | signal (k : Nat)
  | setLnb (k : Nat) (on : Bool)
  | close (k : Nat)
  | resume (k : Nat)
deriving DecidableEq

inductive Step : Tuner → Act → Tuner → Prop
  | readRefused {s : Tuner} {r r' : Nat} (h : s.reads r = .absent)
      (hreading : s.reading = some r') :
      Step s (.read r) (s.setRead r (.done (.error "a read is in progress")))
  | readStarts {s : Tuner} {r : Nat} (h : s.reads r = .absent) (hreading : s.reading = none) :
      Step s (.read r) ({ s with reading := some r, stream := none }.setRead r
        (match s.stream with
          | some x => .receiving x
          | none => .waiting))
  | readLocks {s : Tuner} {r : Nat} (h : s.reads r = .waiting) (ha : s.aborted r = false)
      (hlock : s.holder = none) (hopened : s.opened = true) :
      Step s (.poll r) ({ s with holder := some (.read r) }.setRead r .opening)
  | readClosed {s : Tuner} {r : Nat} (h : s.reads r = .waiting) (ha : s.aborted r = false)
      (hlock : s.holder = none) (hclosed : s.opened = false) :
      Step s (.poll r) (s.resolve r (.error "the tuner is closed"))
  | opens {s : Tuner} {r : Nat} (h : s.reads r = .opening) (ha : s.aborted r = false) :
      Step s (.poll r) ({ s.release (.read r) with streams := s.streams + 1 }.setRead r
        (.receiving s.streams))
  | openFails {s : Tuner} {r : Nat} {e : String} (h : s.reads r = .opening)
      (ha : s.aborted r = false) :
      Step s (.poll r) ((s.release (.read r)).resolve r (.error e))
  /-- The next chunk, the end or an error; the stream is kept for the next read. -/
  | receives {s : Tuner} {r x : Nat} {result : Except String (Option Bytes)}
      (h : s.reads r = .receiving x) (ha : s.aborted r = false) :
      Step s (.poll r) ({ s with stream := some x }.resolve r result)
  | waits {s : Tuner} {r : Nat} (h : (s.reads r).Pending) (ha : s.aborted r = false) :
      Step s (.poll r) s
  /-- What the read was at is dropped, with the guard of the lock or the stream. -/
  | aborts {s : Tuner} {r : Nat} (h : (s.reads r).Pending) (ha : s.aborted r = true) :
      Step s (.poll r) ((s.release (.read r)).setRead r (.done (.ok none)))
  | tuneRefused {s : Tuner} {k : Nat} {args : TuneArgs} {e : String} (h : s.calls k = .absent)
      (hparams : args.params = .error e) : Step s (.tune k args) (s.setCall k (.done (.error e)))
  | tune {s : Tuner} {k : Nat} {args : TuneArgs} {params : TuneParams} (h : s.calls k = .absent)
      (hparams : args.params = .ok params) :
      Step s (.tune k args) (s.endStream.setCall k (.waiting (.tune params)))
  | signal {s : Tuner} {k : Nat} (h : s.calls k = .absent) :
      Step s (.signal k) (s.setCall k (.waiting .signal))
  | setLnb {s : Tuner} {k : Nat} {on : Bool} (h : s.calls k = .absent) :
      Step s (.setLnb k on) (s.setCall k (.waiting (.setLnb on)))
  | close {s : Tuner} {k : Nat} (h : s.calls k = .absent) :
      Step s (.close k) (s.endStream.setCall k (.waiting .close))
  /-- `close` takes the tuner out as it has the lock. -/
  | callLocks {s : Tuner} {k : Nat} {op : Op} (h : s.calls k = .waiting op)
      (hlock : s.holder = none) (hopened : s.opened = true) :
      Step s (.resume k) ({ s with
        holder := some (.call k), opened := decide (op ≠ Op.close) }.setCall k (.running op))
  | callClosed {s : Tuner} {k : Nat} {op : Op} (h : s.calls k = .waiting op)
      (hlock : s.holder = none) (hclosed : s.opened = false) :
      Step s (.resume k) (s.setCall k
        (.done (if op = .close then .ok none else .error "the tuner is closed")))
  | returns {s : Tuner} {k : Nat} {op : Op} {signal : Signal} (h : s.calls k = .running op) :
      Step s (.resume k) ((s.release (.call k)).setCall k
        (.done (.ok (if op = .signal then some signal else none))))
  | fails {s : Tuner} {k : Nat} {op : Op} {e : String} (h : s.calls k = .running op)
      (hop : op ≠ .close) :
      Step s (.resume k) ((s.release (.call k)).setCall k (.done (.error e)))
  | callWaits {s : Tuner} {k : Nat} {op : Op}
      (h : s.calls k = .waiting op ∨ s.calls k = .running op) : Step s (.resume k) s

/-! ## Who is at it -/

namespace Tuner

/-- The read has started, and has not finished or been aborted. -/
def Live (s : Tuner) (r : Nat) : Prop := (s.reads r).Pending ∧ s.aborted r = false

def Holds (s : Tuner) : Task → Prop
  | .read r => s.reads r = .opening
  | .call k => ∃ op, s.calls k = .running op

variable {s : Tuner} {r k : Nat} {read : Read} {call : Call}

theorem setRead_reads_of_ne {r' : Nat} (h : r' ≠ r) : (s.setRead r read).reads r' = s.reads r' :=
  Function.update_of_ne h _ _

theorem setRead_reads_self : (s.setRead r read).reads r = read :=
  Function.update_self _ _ _

theorem setCall_calls_of_ne {k' : Nat} (h : k' ≠ k) : (s.setCall k call).calls k' = s.calls k' :=
  Function.update_of_ne h _ _

theorem setCall_calls_self : (s.setCall k call).calls k = call :=
  Function.update_self _ _ _

theorem live_setRead_of_ne {r' : Nat} (h : r' ≠ r) : (s.setRead r read).Live r' ↔ s.Live r' := by
  rw [Live, setRead_reads_of_ne h]
  exact Iff.rfl

theorem holds_setRead_of_ne {o : Task} (h : o ≠ .read r) :
    (s.setRead r read).Holds o ↔ s.Holds o := by
  cases o with
  | read r' =>
    have hne : r' ≠ r := fun he => h (congrArg _ he)
    show (s.setRead r read).reads r' = _ ↔ _
    rw [setRead_reads_of_ne hne]
    exact Iff.rfl
  | call k => exact Iff.rfl

theorem holds_setCall_of_ne {o : Task} (h : o ≠ .call k) :
    (s.setCall k call).Holds o ↔ s.Holds o := by
  cases o with
  | read r => exact Iff.rfl
  | call k' =>
    have hne : k' ≠ k := fun he => h (congrArg _ he)
    show (∃ op, (s.setCall k call).calls k' = .running op) ↔ _
    rw [setCall_calls_of_ne hne]
    exact Iff.rfl

theorem live_of_read (h : s.reads r = read) (hread : read.Pending) (ha : s.aborted r = false) :
    s.Live r := by
  rw [Live, h]
  exact ⟨hread, ha⟩

theorem not_holds_of_call (h : s.calls k = call) (hcall : ∀ op, call ≠ .running op) :
    ¬ s.Holds (.call k) := by
  intro hholds
  obtain ⟨op, hop⟩ := hholds
  exact hcall op (h.symm.trans hop)

theorem not_holds_setCall (h : ∀ op, call ≠ .running op) :
    ¬ (s.setCall k call).Holds (.call k) :=
  not_holds_of_call setCall_calls_self h

theorem release_of_ne {o : Task} (h : s.holder ≠ some o) : s.release o = s := by
  rw [release, if_neg h]

theorem not_live_done {result : Except String (Option Bytes)} :
    ¬ (s.setRead r (.done result)).Live r := by
  rw [Live, setRead_reads_self]
  exact fun h => h.1

theorem names_release {result : Except String (Option Bytes)}
    (h : Slot.Names s.holder s.Holds) :
    Slot.Names (s.release (.read r)).holder (s.setRead r (.done result)).Holds := by
  apply h.leave
  · show (s.setRead r (.done result)).reads r ≠ .opening
    rw [setRead_reads_self]
    nofun
  · intro o ho
    exact holds_setRead_of_ne ho

end Tuner

/-- The handle is the one of the read in progress, and the lock is held by the call that is at
what it holds it for. -/
structure Apart (s : Tuner) : Prop where
  reading : Slot.Names s.reading s.Live
  holder : Slot.Names s.holder s.Holds
  /-- The read in progress has the stream, if there is one. -/
  stream : ∀ r, s.Live r → s.stream = none
  aborted : ∀ r, s.aborted r = true → s.reads r ≠ .absent

theorem apart_init : Apart {} where
  reading := Slot.Names.empty fun _ h => h.1
  holder := by
    apply Slot.Names.empty
    intro o ho
    cases o with
    | read r => exact absurd ho nofun
    | call k =>
      obtain ⟨op, hop⟩ := ho
      exact absurd hop nofun
  stream _ _ := rfl
  aborted _ h := absurd h nofun

theorem Apart.not_absent {s : Tuner} (h : Apart s) {r r' : Nat} {read : Read}
    (hread : read ≠ .absent) (ha : s.aborted r' = true) :
    (s.setRead r read).reads r' ≠ .absent := by
  by_cases hr : r' = r
  · rw [hr, Tuner.setRead_reads_self]
    exact hread
  · rw [Tuner.setRead_reads_of_ne hr]
    exact h.aborted r' ha

theorem Apart.setCall {s : Tuner} (h : Apart s) {k : Nat} {call : Call}
    (hold : ¬ s.Holds (.call k)) (hcall : ∀ op, call ≠ .running op) : Apart (s.setCall k call) where
  reading := h.reading
  holder := by
    apply h.holder.congr
    intro o
    by_cases ho : o = .call k
    · rw [ho]
      exact ⟨fun hq => absurd hq (Tuner.not_holds_setCall hcall), fun hp => absurd hp hold⟩
    · exact Tuner.holds_setCall_of_ne ho
  stream := h.stream
  aborted := h.aborted

theorem Apart.endStream {s : Tuner} (h : Apart s) : Apart s.endStream where
  reading := by
    apply h.reading.take
    intro r hr
    cases hreading : s.reading with
    | none =>
      rw [Tuner.Live, Tuner.endStream, hreading] at hr
      exact ⟨hr, nofun⟩
    | some r' =>
      rw [Tuner.Live, Tuner.endStream, hreading] at hr
      have hne : r ≠ r' := by
        intro he
        subst he
        exact absurd ((Function.update_self ..).symm.trans hr.2) nofun
      have ha : s.aborted r = false := (Function.update_of_ne hne _ _).symm.trans hr.2
      exact ⟨⟨hr.1, ha⟩, fun he => hne (Option.some.inj he).symm⟩
  holder := h.holder.congr fun o => by cases o <;> exact Iff.rfl
  stream _ _ := rfl
  aborted := by
    intro r hr
    cases hreading : s.reading with
    | none =>
      rw [Tuner.endStream, hreading] at hr
      exact h.aborted r hr
    | some r' =>
      rw [Tuner.endStream, hreading] at hr
      by_cases hne : r = r'
      · subst hne
        intro habsent
        have hlive := ((h.reading r).1 hreading).1
        rw [show s.reads r = .absent from habsent] at hlive
        exact hlive
      · exact h.aborted r ((Function.update_of_ne hne _ _).symm.trans hr)

theorem Apart.moves {s : Tuner} (h : Apart s) {r : Nat} {read : Read} (hr : s.Live r)
    (hread : read.Pending) {holder : Option Task} (streams : Nat)
    (hholder : Slot.Names holder (s.setRead r read).Holds) :
    Apart ({ s with holder := holder, streams := streams }.setRead r read) where
  reading := by
    apply h.reading.congr
    intro r'
    by_cases hr' : r' = r
    · rw [hr']
      refine ⟨fun _ => hr, fun _ => ⟨?_, hr.2⟩⟩
      rw [Tuner.setRead_reads_self]
      exact hread
    · exact Tuner.live_setRead_of_ne hr'
  holder := hholder.congr fun o => by cases o <;> exact Iff.rfl
  stream _ _ := h.stream r hr
  aborted r' ha := h.not_absent (fun he => by rw [he] at hread; exact hread) ha

theorem Apart.resolve {s : Tuner} (h : Apart s) {r : Nat} (hr : s.Live r) (x : Option Nat)
    (result : Except String (Option Bytes)) :
    Apart ({ s.release (.read r) with stream := x }.resolve r result) := by
  have hreading : Slot.Names none
      ({ s.release (.read r) with stream := x }.resolve r result).Live := by
    apply h.reading.clear hr
    · exact Tuner.not_live_done
    · intro r' hr'
      exact Tuner.live_setRead_of_ne hr'
  exact {
    reading := hreading
    holder := (Tuner.names_release h.holder).congr fun o => by cases o <;> exact Iff.rfl
    stream := fun r' hr' => absurd hr' (hreading.not_of_none r')
    aborted := fun r' ha => h.not_absent nofun ha }

/-- An aborted read resolves, and leaves the handle be. -/
theorem Apart.aborts {s : Tuner} (h : Apart s) {r : Nat} (ha : s.aborted r = true) :
    Apart ((s.release (.read r)).setRead r (.done (.ok none))) := by
  have hlive : ∀ r', ((s.release (.read r)).setRead r (.done (.ok none))).Live r' ↔ s.Live r' := by
    intro r'
    by_cases hr : r' = r
    · rw [hr]
      exact ⟨fun hq => absurd hq Tuner.not_live_done, fun hp => absurd (ha.symm.trans hp.2) nofun⟩
    · exact Tuner.live_setRead_of_ne hr
  exact {
    reading := h.reading.congr hlive
    holder := (Tuner.names_release h.holder).congr fun o => by cases o <;> exact Iff.rfl
    stream := fun r' hr => h.stream r' ((hlive r').1 hr)
    aborted := fun r' ha => h.not_absent nofun ha }

theorem Apart.starts {s : Tuner} (h : Apart s) {r : Nat} (hr : s.reads r = .absent)
    (hreading : s.reading = none) {read : Read} (hread : read.Pending) (hlock : read ≠ .opening) :
    Apart ({ s with reading := some r, stream := none }.setRead r read) where
  reading := by
    have hnone := h.reading
    rw [hreading] at hnone
    refine hnone.put ⟨?_, ?_⟩ fun r' hr' => Tuner.live_setRead_of_ne hr'
    · rw [Tuner.setRead_reads_self]
      exact hread
    · exact Bool.eq_false_iff.2 fun ha => h.aborted r ha hr
  holder := by
    apply h.holder.congr
    intro o
    by_cases ho : o = .read r
    · rw [ho]
      show Function.update s.reads r read r = .opening ↔ s.reads r = .opening
      rw [Function.update_self, hr]
      exact ⟨fun he => absurd he hlock, fun he => absurd he nofun⟩
    · exact Tuner.holds_setRead_of_ne ho
  stream _ _ := rfl
  aborted r' ha := h.not_absent (fun he => by rw [he] at hread; exact hread) ha

theorem Apart.setHolder {s : Tuner} (h : Apart s) {k : Nat} {call : Call} {holder : Option Task}
    (opened : Bool) (hholder : Slot.Names holder (s.setCall k call).Holds) :
    Apart ({ s with holder := holder, opened := opened }.setCall k call) where
  reading := h.reading
  holder := hholder.congr fun o => by cases o <;> exact Iff.rfl
  stream := h.stream
  aborted := h.aborted

theorem Apart.refuses {s : Tuner} (h : Apart s) {r : Nat} (hr : s.reads r = .absent) (e : String) :
    Apart (s.setRead r (.done (.error e))) := by
  have hlive : ∀ r', (s.setRead r (.done (.error e))).Live r' ↔ s.Live r' := by
    intro r'
    by_cases hne : r' = r
    · rw [hne]
      refine ⟨fun hq => absurd hq Tuner.not_live_done, fun hp => ?_⟩
      rw [Tuner.Live, hr] at hp
      exact absurd hp.1 id
    · exact Tuner.live_setRead_of_ne hne
  have hholds : ∀ o, (s.setRead r (.done (.error e))).Holds o ↔ s.Holds o := by
    intro o
    by_cases ho : o = .read r
    · rw [ho]
      show (s.setRead r (.done (.error e))).reads r = .opening ↔ s.reads r = .opening
      rw [Tuner.setRead_reads_self, hr]
      exact ⟨fun he => absurd he nofun, fun he => absurd he nofun⟩
    · exact Tuner.holds_setRead_of_ne ho
  exact {
    reading := h.reading.congr hlive
    holder := h.holder.congr hholds
    stream := fun r' hr' => h.stream r' ((hlive r').1 hr')
    aborted := fun r' ha => h.not_absent nofun ha }

theorem Apart.release_of_read {s : Tuner} (h : Apart s) {r : Nat} (hr : s.reads r ≠ .opening) :
    s.release (.read r) = s := by
  apply Tuner.release_of_ne
  exact fun he => hr ((h.holder (.read r)).1 he)

theorem Apart.step {s t : Tuner} {a : Act} (h : Apart s) (hs : Step s a t) : Apart t := by
  cases hs with
  | readRefused hr hreading => exact h.refuses hr _
  | readStarts hr hreading =>
    apply h.starts hr hreading
    · cases s.stream <;> exact trivial
    · cases s.stream <;> exact nofun
  | @readLocks r hr ha hlock hopened =>
    have hpending : Read.opening.Pending := trivial
    apply h.moves (Tuner.live_of_read hr trivial ha) hpending
    have hholder := h.holder
    rw [hlock] at hholder
    refine hholder.put ?_ fun o ho => Tuner.holds_setRead_of_ne ho
    exact Tuner.setRead_reads_self
  | @readClosed r hr ha hlock hclosed =>
    have hresolved := h.resolve (r := r) (Tuner.live_of_read hr trivial ha) s.stream
      (.error "the tuner is closed")
    rw [h.release_of_read (by rw [hr]; nofun)] at hresolved
    exact hresolved
  | @opens r hr ha =>
    have hpending : (Read.receiving s.streams).Pending := trivial
    apply h.moves (Tuner.live_of_read hr trivial ha) hpending
    apply h.holder.leave
    · show (s.setRead r _).reads r ≠ .opening
      rw [Tuner.setRead_reads_self]
      nofun
    · exact fun o ho => Tuner.holds_setRead_of_ne ho
  | openFails hr ha => exact h.resolve (Tuner.live_of_read hr trivial ha) s.stream _
  | @receives r x result hr ha =>
    have hresolved := h.resolve (r := r) (Tuner.live_of_read hr trivial ha) (some x) result
    rw [h.release_of_read (by rw [hr]; nofun)] at hresolved
    exact hresolved
  | waits hr ha => exact h
  | aborts hr ha => exact h.aborts ha
  | tuneRefused hk hparams => exact h.setCall (Tuner.not_holds_of_call hk nofun) nofun
  | tune hk hparams => exact h.endStream.setCall (Tuner.not_holds_of_call hk nofun) nofun
  | signal hk => exact h.setCall (Tuner.not_holds_of_call hk nofun) nofun
  | setLnb hk => exact h.setCall (Tuner.not_holds_of_call hk nofun) nofun
  | close hk => exact h.endStream.setCall (Tuner.not_holds_of_call hk nofun) nofun
  | @callLocks k op hk hlock hopened =>
    apply h.setHolder
    have hholder := h.holder
    rw [hlock] at hholder
    refine hholder.put ⟨op, ?_⟩ fun o ho => Tuner.holds_setCall_of_ne ho
    exact Tuner.setCall_calls_self
  | callClosed hk hlock hclosed => exact h.setCall (Tuner.not_holds_of_call hk nofun) nofun
  | returns hk =>
    apply h.setHolder
    exact h.holder.leave (Tuner.not_holds_setCall nofun) fun o ho => Tuner.holds_setCall_of_ne ho
  | fails hk hop =>
    apply h.setHolder
    exact h.holder.leave (Tuner.not_holds_setCall nofun) fun o ho => Tuner.holds_setCall_of_ne ho
  | callWaits hk => exact h

theorem apart_of_reachable {s : Tuner} (h : Lts.Reachable Step {} s) : Apart s :=
  h.invariant apart_init fun _ _ _ _ ht hs => ht.step hs

/-! ## How a read ends -/

theorem holder_release (s : Tuner) (o o' : Task) :
    (s.release o).holder = some o' ↔ s.holder = some o' ∧ o' ≠ o := by
  by_cases h : s.holder = some o
  · rw [Tuner.release, if_pos h, h]
    exact ⟨fun he => absurd he nofun, fun he => absurd (Option.some.inj he.1).symm he.2⟩
  · rw [Tuner.release_of_ne h]
    exact ⟨fun he => ⟨he, fun ho => h (ho ▸ he)⟩, fun he => he.1⟩

/-- All that a poll of an aborted read does. -/
theorem eq_of_aborted {s t : Tuner} {r : Nat} (ha : s.aborted r = true)
    (hs : Step s (.poll r) t) : t = (s.release (.read r)).setRead r (.done (.ok none)) := by
  cases hs with
  | aborts => rfl
  | readLocks hr hlive => exact absurd (ha.symm.trans hlive) nofun
  | readClosed hr hlive => exact absurd (ha.symm.trans hlive) nofun
  | opens hr hlive => exact absurd (ha.symm.trans hlive) nofun
  | openFails hr hlive => exact absurd (ha.symm.trans hlive) nofun
  | receives hr hlive => exact absurd (ha.symm.trans hlive) nofun
  | waits hr hlive => exact absurd (ha.symm.trans hlive) nofun

/-- A poll leaves the handle and the stream be, or the handle was of that read. -/
theorem Apart.poll {s t : Tuner} {r : Nat} (h : Apart s) (hs : Step s (.poll r) t) :
    t.reading = s.reading ∧ t.stream = s.stream ∨
      s.reading = some r ∧ s.stream = none ∧ t.reading = none := by
  have hown : ∀ {read : Read}, s.reads r = read → read.Pending → s.aborted r = false →
      s.reading = some r ∧ s.stream = none := by
    intro read hr hread ha
    have hlive := Tuner.live_of_read hr hread ha
    exact ⟨(h.reading r).2 hlive, h.stream r hlive⟩
  cases hs with
  | readLocks => exact .inl ⟨rfl, rfl⟩
  | opens => exact .inl ⟨rfl, rfl⟩
  | waits => exact .inl ⟨rfl, rfl⟩
  | aborts => exact .inl ⟨rfl, rfl⟩
  | readClosed hr ha =>
    obtain ⟨hreading, hstream⟩ := hown hr trivial ha
    exact .inr ⟨hreading, hstream, rfl⟩
  | openFails hr ha =>
    obtain ⟨hreading, hstream⟩ := hown hr trivial ha
    exact .inr ⟨hreading, hstream, rfl⟩
  | receives hr ha =>
    obtain ⟨hreading, hstream⟩ := hown hr trivial ha
    exact .inr ⟨hreading, hstream, rfl⟩

theorem Read.done_or_pending {read : Read} (h : read ≠ .absent) :
    (∃ result, read = .done result) ∨ read.Pending := by
  cases read with
  | absent => exact absurd rfl h
  | done result => exact .inl ⟨result, rfl⟩
  | waiting => exact .inr trivial
  | opening => exact .inr trivial
  | receiving x => exact .inr trivial

/-- The read has finished, or was aborted and is to find that out. -/
def Tuner.Ended (s : Tuner) (r : Nat) : Prop :=
  (∃ result, s.reads r = .done result) ∨ (s.reads r).Pending ∧ s.aborted r = true

theorem ended_setRead {s : Tuner} {r r' : Nat} {read : Read} (h : s.Ended r') (hne : r' ≠ r) :
    (s.setRead r read).Ended r' := by
  rw [Tuner.Ended, Tuner.setRead_reads_of_ne hne]
  exact h

theorem ne_of_ended {s : Tuner} {r r' : Nat} {read : Read} (h : s.Ended r') (hr : s.reads r = read)
    (hread : read = .absent ∨ read.Pending ∧ s.aborted r = false) : r' ≠ r := by
  intro he
  subst he
  rw [Tuner.Ended, hr] at h
  obtain habsent | ⟨hpending, ha⟩ := hread
  · subst habsent
    obtain ⟨result, hresult⟩ | hp := h
    · exact absurd hresult nofun
    · exact hp.1
  · obtain ⟨result, hresult⟩ | hp := h
    · rw [hresult] at hpending
      exact hpending
    · exact absurd (ha.symm.trans hp.2) nofun

theorem ended_endStream {s : Tuner} {r : Nat} (h : s.Ended r) : s.endStream.Ended r := by
  obtain hdone | ⟨hread, ha⟩ := h
  · exact .inl hdone
  · refine .inr ⟨hread, ?_⟩
    cases hreading : s.reading with
    | none =>
      rw [Tuner.endStream, hreading]
      exact ha
    | some r' =>
      rw [Tuner.endStream, hreading]
      show Function.update s.aborted r' true r = true
      by_cases hne : r = r'
      · rw [hne, Function.update_self]
      · rw [Function.update_of_ne hne]
        exact ha

/-- A read that has ended does not come back. -/
theorem ended_step {s t : Tuner} {a : Act} {r : Nat} (h : s.Ended r) (hs : Step s a t) :
    t.Ended r := by
  cases hs with
  | readRefused hr => exact ended_setRead h (ne_of_ended h hr (.inl rfl))
  | readStarts hr => exact ended_setRead h (ne_of_ended h hr (.inl rfl))
  | readLocks hr ha => exact ended_setRead h (ne_of_ended h hr (.inr ⟨trivial, ha⟩))
  | readClosed hr ha => exact ended_setRead h (ne_of_ended h hr (.inr ⟨trivial, ha⟩))
  | opens hr ha => exact ended_setRead h (ne_of_ended h hr (.inr ⟨trivial, ha⟩))
  | openFails hr ha => exact ended_setRead h (ne_of_ended h hr (.inr ⟨trivial, ha⟩))
  | receives hr ha => exact ended_setRead h (ne_of_ended h hr (.inr ⟨trivial, ha⟩))
  | @aborts r' hr ha =>
    by_cases hne : r = r'
    · rw [hne]
      exact .inl ⟨_, Tuner.setRead_reads_self⟩
    · exact ended_setRead h hne
  | tune =>
    have hended := ended_endStream h
    exact hended
  | close =>
    have hended := ended_endStream h
    exact hended
  | _ => exact h

theorem ended_of_reachable {s t : Tuner} {r : Nat} (h : s.Ended r)
    (hr : Lts.Reachable Step s t) : t.Ended r := by
  obtain ⟨tr, hrun⟩ := hr
  induction hrun with
  | nil => exact h
  | snoc _ hs ih => exact ended_step ih hs

/-- `end_stream` ends whatever read had started. -/
theorem Apart.ended {s : Tuner} (h : Apart s) {r : Nat} (hr : s.reads r ≠ .absent) :
    s.endStream.Ended r := by
  by_cases hlive : s.Live r
  · refine .inr ⟨hlive.1, ?_⟩
    rw [Tuner.endStream, (h.reading r).2 hlive]
    exact Function.update_self _ _ _
  · apply ended_endStream
    obtain hdone | hpending := Read.done_or_pending hr
    · exact .inl hdone
    · refine .inr ⟨hpending, ?_⟩
      exact Bool.not_eq_false _ ▸ fun ha => hlive ⟨hpending, ha⟩

/-- A `close`, or a `tune` of parameters that go together, goes past `end_stream`. -/
def Act.EndsStream : Act → Prop
  | .close _ => True
  | .tune _ args => ∃ params, args.params = .ok params
  | _ => False

theorem Apart.ended_of_endsStream {s t : Tuner} {a : Act} {r : Nat} (h : Apart s)
    (hs : Step s a t) (ha : a.EndsStream) (hr : s.reads r ≠ .absent) : t.Ended r := by
  have hended := h.ended hr
  cases hs with
  | tune => exact hended
  | close => exact hended
  | tuneRefused hk hparams =>
    obtain ⟨params, hok⟩ := ha
    exact absurd (hparams.symm.trans hok) nofun
  | _ => exact absurd ha id

/-- A read is refused where another is in progress. -/
theorem Apart.live_of_refused {s t : Tuner} {r : Nat} (h : Apart s) (hs : Step s (.read r) t)
    (ht : t.reads r = .done (.error "a read is in progress")) : ∃ r', s.Live r' := by
  cases hs with
  | @readRefused _ r' hr hreading => exact ⟨r', (h.reading r').1 hreading⟩
  | readStarts hr hreading =>
    rw [Tuner.setRead_reads_self] at ht
    cases hstream : s.stream with
    | none =>
      rw [hstream] at ht
      exact absurd ht nofun
    | some x =>
      rw [hstream] at ht
      exact absurd ht nofun

/-- One read is in progress at most, and `close` and `tune` end that one. -/
structure OneRead (s : Tuner) : Prop where
  isSome : s.reading.isSome ↔ ∃! r, s.Live r
  handle : ∀ r, s.reading = some r ↔ s.Live r
  /-- An aborted read resolves to `undefined` as it is polled, letting go of the lock; it leaves the
  handle and the stream of others be. -/
  aborted : ∀ r, (s.reads r).Pending → s.aborted r = true → (∃ t, Step s (.poll r) t) ∧
    ∀ t, Step s (.poll r) t → t.reads r = .done (.ok none) ∧ t.reading = s.reading ∧
      t.stream = s.stream ∧ ∀ o, t.holder = some o ↔ s.holder = some o ∧ o ≠ .read r
  /-- Any other read takes its own handle, and puts its stream where there is none. -/
  polled : ∀ r t, Step s (.poll r) t → t.reading = s.reading ∧ t.stream = s.stream ∨
    s.reading = some r ∧ s.stream = none ∧ t.reading = none
  /-- Past `end_stream` every read started before has ended, and stays so. -/
  ended : ∀ a t, Step s a t → a.EndsStream → ∀ r, s.reads r ≠ .absent →
    ∀ u, Lts.Reachable Step t u → u.Ended r
  refused : ∀ r t, Step s (.read r) t → t.reads r = .done (.error "a read is in progress") →
    ∃ r', s.Live r'

/-- Whatever calls are made of the tuner, in whatever order they go on and have its lock. -/
theorem ends_the_read {s : Tuner} (h : Lts.Reachable Step {} s) : OneRead s := by
  have hapart := apart_of_reachable h
  refine ⟨hapart.reading.isSome_iff, hapart.reading, ?_, ?_, ?_, ?_⟩
  · intro r hr ha
    refine ⟨⟨_, .aborts hr ha⟩, fun t hs => ?_⟩
    rw [eq_of_aborted ha hs]
    exact ⟨Tuner.setRead_reads_self, rfl, rfl, holder_release s (.read r)⟩
  · intro r t hs
    exact hapart.poll hs
  · intro a t hs ha r hr u hu
    exact ended_of_reachable (hapart.ended_of_endsStream hs ha hr) hu
  · intro r t hs ht
    exact hapart.live_of_refused hs ht

/-- A read is aborted by a `tune`, and another starts before it finds that out. -/
theorem ends_the_read_behind : ∃ s : Tuner, s.reading = some 1 ∧ s.aborted 0 = true ∧
    (s.reads 0).Pending ∧ OneRead s := by
  have hstarted : Lts.Reachable Step {} _ :=
    (Lts.Reachable.refl {}).snoc (Step.readStarts (r := 0) rfl rfl)
  have hopens := hstarted.snoc (.readLocks (r := 0) rfl rfl rfl rfl)
  have htuned := hopens.snoc (a := .tune 0 ⟨some .isdbT, 515143, none, none⟩) (.tune rfl rfl)
  have hsecond := htuned.snoc (.readStarts (r := 1) rfl rfl)
  refine ⟨_, rfl, rfl, ?_, ends_the_read hsecond⟩
  exact trivial

end Tunelith.Wasm
