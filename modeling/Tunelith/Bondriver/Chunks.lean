import Mathlib.Data.List.ReduceOption
import Mathlib.Logic.Function.Basic
import Tunelith.Lib.Transition

/-!
# The chunks of the BonDriver

A host calls the driver from any of its threads. What a call does is done under two locks, `control`
before `data`; the task that receives a stream sends its chunks to a channel under neither. So at
most one call holds `control` and one `data`, and a step is one of a call between what it waits for,
or one of the task.

Each stream that was acquired has a number, and the log of what became of its chunks beside it.

* `kept_of_reachable` — the log accounts for every chunk sent, in order.
* `hands_over` — what the host is given is of the channel it is on, in order and once; a wait that
  succeeds leaves a chunk to be had, and `remain` is how many are.
-/

namespace Tunelith.Bondriver

abbrev Chunk := List UInt8

abbrev ChannelId := Nat × Nat

/-- The chunks kept for the host to read. -/
def QUEUE : Nat := 128

/-- What the calls that read share. A handle of the runtime goes with the receiver. -/
structure Data where
  /-- The receiver, as the number of its stream. -/
  chunks : Option Nat := none
  /-- A chunk `WaitTsStream` took. -/
  pending : Option Chunk := none
  last : Chunk := []

namespace Data

/-- Takes a chunk, the pending one first; `queue` has those sent to each receiver. -/
def next (d : Data) (queue : Nat → List Chunk) : Option Chunk × Data × (Nat → List Chunk) :=
  match d.pending with
  | some c => (some c, { d with pending := none }, queue)
  | none =>
    match d.chunks with
    | none => (none, d, queue)
    | some g =>
      match queue g with
      | [] => (none, d, queue)
      | c :: rest => (some c, d, Function.update queue g rest)

def readyCount (d : Data) (queue : Nat → List Chunk) : Nat :=
  let queued := match d.chunks with
    | none => 0
    | some g => (queue g).length
  (queued + if d.pending.isSome then 1 else 0) % UInt32.size

def clear (d : Data) : Data := { last := d.last }

end Data

/-- What the call that holds `control` is at. -/
inductive Control
  | free
  | leaving (next : Option ChannelId)
  | acquiring (channel : ChannelId)
  /-- The stream is received, but the host cannot read it yet. -/
  | spawned (channel : ChannelId) (g : Nat)
deriving DecidableEq

/-- What the call that holds `data` is at. -/
inductive Access
  | free
  | waiting
  | handing
  | purging
deriving DecidableEq

inductive Fate
  | handed
  | purged
  | left
deriving DecidableEq

structure Driver where
  /-- There is a client and a runtime. -/
  opened : Bool := false
  receiver : Option Nat := none
  /-- Read and written under `control` alone, as `receiver` is. -/
  current : Option ChannelId := none
  control : Control := .free
  data : Data := {}
  access : Access := .free
  /-- The streams acquired so far, and the channels they are of. -/
  streams : Nat := 0
  channel : Nat → ChannelId := fun _ => (0, 0)
  alive : Nat → Bool := fun _ => false
  /-- The chunks sent to the receiver of a stream and not taken. -/
  queue : Nat → List Chunk := fun _ => []
  /-- All that were sent to it, and what became of those that were taken. -/
  sent : Nat → List Chunk := fun _ => []
  gone : Nat → List (Chunk × Fate) := fun _ => []
  /-- What the host was given, and of which streams. -/
  handed : List (Nat × Chunk) := []

namespace Driver

def next (s : Driver) : Option Chunk × Driver :=
  let (c, data, queue) := s.data.next s.queue
  (c, { s with data := data, queue := queue })

def readyCount (s : Driver) : Nat := s.data.readyCount s.queue

def HasReceiver (s : Driver) (g : Nat) : Prop :=
  s.data.chunks = some g ∨ ∃ channel, s.control = .spawned channel g

/-- Notes what became of chunks of the stream that is read. -/
def note (s : Driver) (cs : List Chunk) (fate : Fate) : Driver :=
  match s.data.chunks with
  | none => s
  | some g => { s with
      gone := Function.update s.gone g (s.gone g ++ cs.map fun c => (c, fate))
      handed := if fate = .handed then s.handed ++ cs.map fun c => (g, c) else s.handed }

def hand (s : Driver) (ptr : Bool) : Driver :=
  let (c, t) := s.next
  let t := t.note c.toList .handed
  if ptr then { t with data := { t.data with last := c.getD [] } } else t

def available (s : Driver) : List Chunk :=
  s.data.pending.toList ++ match s.data.chunks with
    | none => []
    | some g => s.queue g

/-- The channel is left, and what was held is discarded with its receiver. -/
def leave (s : Driver) : Driver :=
  let t := s.note s.available .left
  { t with
    receiver := none
    current := none
    data := s.data.clear
    queue := match s.data.chunks with
      | none => s.queue
      | some g => Function.update s.queue g [] }

end Driver

inductive Wait
  | object0
  | abandoned
  | timeout
deriving DecidableEq

inductive Act
  | openTuner
  | noChannel
  | setChannel (channel : ChannelId)
  | closeTuner
  /-- The channel is left, to close or to go on with another one if the tuner is open. -/
  | left
  | acquireFails
  | acquired
  | installed
  | send (g : Nat) (c : Chunk)
  | taskEnds (g : Nat)
  | waited (r : Wait)
  | waits
  | get (ptr : Bool) (c : Option Chunk)
  | remain (n : Nat)
  | getReadyCount (n : Nat)
  | purge
  | purgeTakes
  | purgeEnds
deriving DecidableEq

inductive Step : Driver → Act → Driver → Prop
  | openTuner {s : Driver} (h : s.control = .free) : Step s .openTuner { s with opened := true }
  | noChannel {s : Driver} : Step s .noChannel s
  | setChannel {s : Driver} {channel : ChannelId} (h : s.control = .free) :
      Step s (.setChannel channel) { s with control := .leaving (some channel) }
  | closeTuner {s : Driver} (h : s.control = .free) :
      Step s .closeTuner { s with control := .leaving none }
  /-- The task that received is waited for, and then `data`. -/
  | close {s : Driver} (h : s.control = .leaving none)
      (hjoin : s.opened = true → ∀ g, s.receiver = some g → s.alive g = false)
      (hdata : s.access = .free) : Step s .left { s.leave with opened := false, control := .free }
  | leave {s : Driver} {channel : ChannelId} (h : s.control = .leaving (some channel))
      (hjoin : s.opened = true → ∀ g, s.receiver = some g → s.alive g = false)
      (hdata : s.access = .free) :
      Step s .left { s.leave with control := if s.opened then .acquiring channel else .free }
  | acquireFails {s : Driver} {channel : ChannelId} (h : s.control = .acquiring channel) :
      Step s .acquireFails { s with control := .free }
  | acquired {s : Driver} {channel : ChannelId} (h : s.control = .acquiring channel) :
      Step s .acquired { s with
        control := .spawned channel s.streams, streams := s.streams + 1
        channel := Function.update s.channel s.streams channel
        alive := Function.update s.alive s.streams true }
  | installed {s : Driver} {channel : ChannelId} {g : Nat} (h : s.control = .spawned channel g)
      (hdata : s.access = .free) :
      Step s .installed { s with
        control := .free, data := { chunks := some g }, receiver := some g
        current := some channel }
  | send {s : Driver} {g : Nat} {c : Chunk} (h : s.alive g = true) (hrx : s.HasReceiver g)
      (hfull : (s.queue g).length < QUEUE) :
      Step s (.send g c) { s with
        queue := Function.update s.queue g (s.queue g ++ [c])
        sent := Function.update s.sent g (s.sent g ++ [c]) }
  | taskEnds {s : Driver} {g : Nat} (h : s.alive g = true) :
      Step s (.taskEnds g) { s with alive := Function.update s.alive g false }
  | waitReady {s : Driver} (h : s.access = .free) (hready : 0 < s.readyCount) :
      Step s (.waited .object0) s
  | waitAbandons {s : Driver} (h : s.access = .free) (hready : s.readyCount = 0)
      (hchunks : s.data.chunks = none) : Step s (.waited .abandoned) s
  | waits {s : Driver} {g : Nat} (h : s.access = .free) (hready : s.readyCount = 0)
      (hchunks : s.data.chunks = some g) : Step s .waits { s with access := .waiting }
  | waitReceives {s : Driver} {g : Nat} {c : Chunk} {rest : List Chunk} (h : s.access = .waiting)
      (hchunks : s.data.chunks = some g) (hq : s.queue g = c :: rest) :
      Step s (.waited .object0) { s with
        access := .free, data := { s.data with pending := some c }
        queue := Function.update s.queue g rest }
  | waitCloses {s : Driver} {g : Nat} (h : s.access = .waiting) (hchunks : s.data.chunks = some g)
      (hq : s.queue g = []) (hended : s.alive g = false) :
      Step s (.waited .abandoned) { s with access := .free }
  | waitTimesOut {s : Driver} (h : s.access = .waiting) :
      Step s (.waited .timeout) { s with access := .free }
  | get {s : Driver} {ptr : Bool} (h : s.access = .free) :
      Step s (.get ptr s.next.1) { s.hand ptr with access := .handing }
  | remain {s : Driver} (h : s.access = .handing) :
      Step s (.remain s.readyCount) { s with access := .free }
  | getReadyCount {s : Driver} (h : s.access = .free) : Step s (.getReadyCount s.readyCount) s
  | purge {s : Driver} (h : s.access = .free) : Step s .purge { s with access := .purging }
  | purgeTakes {s : Driver} {c : Chunk} (h : s.access = .purging) (hc : s.next.1 = some c) :
      Step s .purgeTakes (s.next.2.note [c] .purged)
  | purgeEnds {s : Driver} (h : s.access = .purging) (hc : s.next.1 = none) :
      Step s .purgeEnds { s with access := .free }

/-! ## Taking a chunk -/

/-- What is held of a stream: the pending chunk if it is the one that is read, and those sent to its
receiver. -/
def Driver.held (s : Driver) (g : Nat) : List Chunk :=
  (if s.data.chunks = some g then s.data.pending.toList else []) ++ s.queue g

theorem held_of_reading {s : Driver} {g : Nat} (h : s.data.chunks = some g) :
    s.held g = s.data.pending.toList ++ s.queue g := by
  rw [Driver.held, if_pos h]

theorem chunks_ne {s : Driver} {g g' : Nat} (h : s.data.chunks = some g) (hne : g' ≠ g) :
    s.data.chunks ≠ some g' := by
  rw [h]
  exact fun he => hne (Option.some.inj he).symm

theorem held_of_ne {s : Driver} {g : Nat} (h : s.data.chunks ≠ some g) : s.held g = s.queue g := by
  rw [Driver.held, if_neg h]
  rfl

theorem not_hasReceiver {s : Driver} {g : Nat} (hchunks : s.data.chunks ≠ some g)
    (hcontrol : ∀ channel, s.control ≠ .spawned channel g) : ¬ s.HasReceiver g := by
  intro h
  obtain hsome | ⟨channel, hspawned⟩ := h
  · exact hchunks hsome
  · exact hcontrol channel hspawned

theorem available_of_reading {s : Driver} {g : Nat} (h : s.data.chunks = some g) :
    s.available = s.held g := by
  rw [held_of_reading h, Driver.available, h]

theorem next_of_reading {s : Driver} {g : Nat} (h : s.data.chunks = some g) :
    s.next = ((s.held g).head?, { s with
      data := { s.data with pending := none }
      queue := Function.update s.queue g (s.held g).tail }) := by
  rw [held_of_reading h]
  obtain ⟨opened, receiver, current, control, ⟨chunks, pending, last⟩, access, streams, channel,
    alive, queue, sent, gone, handed⟩ := s
  simp only at h ⊢
  subst h
  cases pending with
  | some c =>
    show (some c, _) = (some c, _)
    simp
  | none =>
    cases hq : queue g with
    | nil =>
      have hsame : Function.update queue g [] = queue := by rw [← hq, Function.update_eq_self]
      simp [Driver.next, Data.next, hq, hsame]
    | cons c rest => simp [Driver.next, Data.next, hq]

theorem next_of_idle {s : Driver} (h : s.data.chunks = none) (hp : s.data.pending = none) :
    s.next = (none, s) := by
  rw [Driver.next, Data.next, hp, h]

theorem readyCount_of_fits {s : Driver} (h : ∀ g, (s.queue g).length ≤ QUEUE) :
    s.readyCount = s.available.length := by
  have hsum : s.readyCount = s.available.length % UInt32.size := by
    rw [Driver.readyCount, Data.readyCount, Driver.available, List.length_append, Nat.add_comm]
    congr 2
    · cases s.data.pending <;> rfl
    · cases s.data.chunks <;> rfl
  have hpending : s.data.pending.toList.length ≤ 1 := Option.length_toList_le
  have hqueue : s.available.length ≤ 1 + QUEUE := by
    rw [Driver.available, List.length_append]
    apply Nat.add_le_add hpending
    cases s.data.chunks with
    | none => exact Nat.zero_le QUEUE
    | some g => exact h g
  have hsmall : 1 + QUEUE < UInt32.size := by decide
  rw [hsum, Nat.mod_eq_of_lt (Nat.lt_of_le_of_lt hqueue hsmall)]

/-! ## What is kept -/

/-- The log accounts for what was sent to each stream, and the locks keep the calls apart. -/
structure Kept (s : Driver) : Prop where
  sent : ∀ g, s.sent g = (s.gone g).map Prod.fst ++ s.held g
  handed : ∀ g, (s.handed.filter fun x => x.1 = g).map Prod.snd =
    ((s.gone g).filter fun x => x.2 = .handed).map Prod.fst
  sorted : s.handed.Pairwise fun x y => x.1 ≤ y.1
  known : ∀ x ∈ s.handed, x.1 < s.streams
  idle : s.data.chunks = none → s.data.pending = none
  waiting : s.access = .waiting → s.data.pending = none
  /-- The stream that is read is the latest, and of the channel the host is on. -/
  reading : ∀ g, s.data.chunks = some g → g + 1 = s.streams ∧ s.opened = true ∧
    s.receiver = some g ∧ s.current = some (s.channel g)
  acquiring : ∀ channel, s.control = .acquiring channel → s.data.chunks = none ∧ s.opened = true
  spawned : ∀ channel g, s.control = .spawned channel g → s.data.chunks = none ∧
    g + 1 = s.streams ∧ s.opened = true ∧ s.channel g = channel
  alive : ∀ g, s.alive g = true → s.HasReceiver g
  dropped : ∀ g, ¬ s.HasReceiver g → s.queue g = []
  fits : ∀ g, (s.queue g).length ≤ QUEUE

theorem kept_init : Kept {} where
  sent _ := rfl
  handed _ := rfl
  sorted := List.Pairwise.nil
  known _ h := absurd h List.not_mem_nil
  idle _ := rfl
  waiting _ := rfl
  reading _ h := absurd h nofun
  acquiring _ h := absurd h nofun
  spawned _ _ h := absurd h nofun
  alive _ h := absurd h nofun
  dropped _ _ := rfl
  fits _ := Nat.zero_le QUEUE

theorem note_of_reading {s : Driver} {g : Nat} (h : s.data.chunks = some g) (cs : List Chunk)
    (fate : Fate) : s.note cs fate = { s with
      gone := Function.update s.gone g (s.gone g ++ cs.map fun c => (c, fate))
      handed := if fate = .handed then s.handed ++ cs.map fun c => (g, c) else s.handed } := by
  rw [Driver.note, h]

theorem Kept.handed_note {s : Driver} (h : Kept s) (g : Nat) (cs : List Chunk) (fate : Fate)
    (g' : Nat) :
    ((if fate = .handed then s.handed ++ cs.map fun c => (g, c) else s.handed).filter
        fun x => x.1 = g').map Prod.snd =
      ((Function.update s.gone g (s.gone g ++ cs.map fun c => (c, fate)) g').filter
        fun x => x.2 = .handed).map Prod.fst := by
  have hold := h.handed g'
  by_cases hg : g' = g
  · subst hg
    rw [Function.update_self, List.filter_append, List.map_append, ← hold]
    by_cases hfate : fate = .handed
    · subst hfate
      simp [List.filter_map, Function.comp_def]
    · simp [hfate, List.filter_map, Function.comp_def]
  · rw [Function.update_of_ne hg, ← hold]
    by_cases hfate : fate = .handed
    · subst hfate
      simp [List.filter_map, Function.comp_def, Ne.symm hg]
    · rw [if_neg hfate]

/-- Of the stream that is read, the latest, the host may be given more. -/
theorem Kept.sorted_note {s : Driver} {g : Nat} (h : Kept s) (hg : s.data.chunks = some g)
    (cs : List Chunk) (fate : Fate) :
    (if fate = .handed then s.handed ++ cs.map fun c => (g, c) else s.handed).Pairwise
      fun x y => x.1 ≤ y.1 := by
  have hlast := (h.reading g hg).1
  by_cases hfate : fate = .handed
  · rw [if_pos hfate]
    apply List.pairwise_append.2 ⟨h.sorted, ?_, ?_⟩
    · apply List.pairwise_map.2
      exact List.pairwise_of_forall fun _ _ => Nat.le_refl g
    · intro x hx y hy
      obtain ⟨c, -, rfl⟩ := List.mem_map.1 hy
      have := h.known x hx
      show x.1 ≤ g
      omega
  · rw [if_neg hfate]
    exact h.sorted

theorem Kept.known_note {s : Driver} {g : Nat} (h : Kept s) (hg : s.data.chunks = some g)
    (cs : List Chunk) (fate : Fate) :
    ∀ x ∈ if fate = .handed then s.handed ++ cs.map fun c => (g, c) else s.handed,
      x.1 < s.streams := by
  have hlast := (h.reading g hg).1
  intro x hx
  by_cases hfate : fate = .handed
  · rw [if_pos hfate] at hx
    obtain hx | hx := List.mem_append.1 hx
    · exact h.known x hx
    · obtain ⟨c, -, rfl⟩ := List.mem_map.1 hx
      show g < s.streams
      omega
  · rw [if_neg hfate] at hx
    exact h.known x hx

theorem takes_eq {s : Driver} {g : Nat} {c : Chunk} {rest : List Chunk}
    (hg : s.data.chunks = some g) (hheld : s.held g = c :: rest) (fate : Fate) :
    s.next.2.note [c] fate = { s with
      data := { s.data with pending := none }
      queue := Function.update s.queue g rest
      gone := Function.update s.gone g (s.gone g ++ [(c, fate)])
      handed := if fate = .handed then s.handed ++ [(g, c)] else s.handed } := by
  rw [next_of_reading hg, hheld]
  exact note_of_reading (g := g) (by exact hg) [c] fate

theorem Kept.fits_update {s : Driver} (h : Kept s) (g : Nat) {cs : List Chunk}
    (hcs : cs.length ≤ QUEUE) (g' : Nat) : (Function.update s.queue g cs g').length ≤ QUEUE := by
  by_cases hne : g' = g
  · rw [hne, Function.update_self]
    exact hcs
  · rw [Function.update_of_ne hne]
    exact h.fits g'

theorem Kept.takes {s : Driver} {g : Nat} {c : Chunk} {rest : List Chunk} (h : Kept s)
    (hg : s.data.chunks = some g) (hheld : s.held g = c :: rest) (fate : Fate) :
    Kept (s.next.2.note [c] fate) := by
  rw [takes_eq hg hheld]
  refine { h with
    sent := ?_, handed := h.handed_note g [c] fate, sorted := h.sorted_note hg [c] fate
    known := h.known_note hg [c] fate, idle := fun _ => rfl, waiting := fun _ => rfl
    dropped := ?_, fits := h.fits_update g ?_ }
  · intro g'
    have hsent := h.sent g'
    by_cases hne : g' = g
    · subst hne
      rw [hheld] at hsent
      show s.sent g' = (Function.update s.gone g' _ g').map Prod.fst ++
        ((if s.data.chunks = some g' then [] else []) ++ Function.update s.queue g' rest g')
      rw [Function.update_self, Function.update_self, if_pos hg, hsent]
      simp
    · have hchunks := chunks_ne hg hne
      rw [held_of_ne hchunks] at hsent
      show s.sent g' = (Function.update s.gone g _ g').map Prod.fst ++
        ((if s.data.chunks = some g' then [] else []) ++ Function.update s.queue g rest g')
      rw [Function.update_of_ne hne, Function.update_of_ne hne, if_neg hchunks]
      exact hsent
  · intro g' hdropped
    have hne : g' ≠ g := by
      intro he
      exact hdropped (.inl (he ▸ hg))
    show Function.update s.queue g rest g' = []
    rw [Function.update_of_ne hne]
    exact h.dropped g' hdropped
  · have hfits := h.fits g
    have hlength := congrArg List.length hheld
    have hpending : s.data.pending.toList.length ≤ 1 := Option.length_toList_le
    rw [held_of_reading hg, List.length_append, List.length_cons] at hlength
    omega

theorem leave_of_reading {s : Driver} {g : Nat} (hg : s.data.chunks = some g) :
    s.leave = { s with
      receiver := none, current := none, data := s.data.clear
      queue := Function.update s.queue g []
      gone := Function.update s.gone g (s.gone g ++ (s.held g).map fun c => (c, .left)) } := by
  rw [Driver.leave, available_of_reading hg, note_of_reading hg, hg]
  rfl

theorem leave_of_idle {s : Driver} (hg : s.data.chunks = none) :
    s.leave = { s with receiver := none, current := none, data := s.data.clear } := by
  rw [Driver.leave, Driver.note, hg]

theorem opened_leave (s : Driver) : s.leave.opened = s.opened := by
  cases hg : s.data.chunks with
  | none => rw [leave_of_idle hg]
  | some g => rw [leave_of_reading hg]

theorem Kept.not_alive {s : Driver} (h : Kept s)
    (hcontrol : ∀ channel g, s.control ≠ .spawned channel g)
    (hjoin : s.opened = true → ∀ g, s.receiver = some g → s.alive g = false) (g : Nat) :
    s.alive g = false := by
  by_contra hne
  obtain hg | ⟨channel, hspawned⟩ := h.alive g (Bool.not_eq_false _ ▸ hne)
  · obtain ⟨-, hopened, hreceiver, -⟩ := h.reading g hg
    exact hne (hjoin hopened g hreceiver)
  · exact hcontrol channel g hspawned

/-- The channel is left, and what was held of it is noted. -/
theorem Kept.leave {s : Driver} (h : Kept s)
    (hcontrol : ∀ channel g, s.control ≠ .spawned channel g)
    (hjoin : s.opened = true → ∀ g, s.receiver = some g → s.alive g = false) {opened : Bool}
    {control : Control} (hnext : ∀ channel g, control ≠ .spawned channel g)
    (hopened : ∀ channel, control = .acquiring channel → opened = true) :
    Kept { s.leave with opened := opened, control := control } := by
  have halive := h.not_alive hcontrol hjoin
  cases hg : s.data.chunks with
  | none =>
    rw [leave_of_idle hg]
    have hchunks : ∀ g, s.data.chunks ≠ some g := by
      intro g
      rw [hg]
      nofun
    refine { h with
      sent := fun g => (held_of_ne (hchunks g) ▸ h.sent g :)
      idle := fun _ => rfl, waiting := fun _ => rfl
      reading := nofun, acquiring := fun channel hc => ⟨rfl, hopened channel hc⟩
      spawned := fun channel g hs => absurd hs (hnext channel g)
      alive := fun g ha => absurd (ha.symm.trans (halive g)) nofun, dropped := fun g _ => ?_ }
    exact h.dropped g (not_hasReceiver (hchunks g) fun channel => hcontrol channel g)
  | some g =>
    rw [leave_of_reading hg]
    refine { h with
      sent := ?_, handed := h.handed_note g (s.held g) .left, idle := fun _ => rfl
      waiting := fun _ => rfl, reading := nofun
      acquiring := fun channel hc => ⟨rfl, hopened channel hc⟩
      spawned := fun channel g hs => absurd hs (hnext channel g)
      alive := fun g ha => absurd (ha.symm.trans (halive g)) nofun, dropped := ?_
      fits := h.fits_update g (Nat.zero_le QUEUE) }
    · intro g'
      have hsent := h.sent g'
      show s.sent g' = (Function.update s.gone g _ g').map Prod.fst ++
        ([] ++ Function.update s.queue g [] g')
      by_cases hne : g' = g
      · subst hne
        rw [Function.update_self, Function.update_self, hsent]
        simp [Function.comp_def]
      · rw [held_of_ne (chunks_ne hg hne)] at hsent
        rw [Function.update_of_ne hne, Function.update_of_ne hne]
        exact hsent
    · intro g' _
      show Function.update s.queue g [] g' = []
      by_cases hne : g' = g
      · rw [hne, Function.update_self]
      · rw [Function.update_of_ne hne]
        exact h.dropped g' (not_hasReceiver (chunks_ne hg hne) fun channel => hcontrol channel g')

theorem Kept.control {s : Driver} (h : Kept s) (hold : ∀ channel g, s.control ≠ .spawned channel g)
    {control : Control} (hnew : ∀ channel g, control ≠ .spawned channel g)
    (hacquiring : ∀ channel, control ≠ .acquiring channel) :
    Kept { s with control := control } := by
  have hreceiver : ∀ g, s.HasReceiver g ↔ s.data.chunks = some g := by
    intro g
    exact ⟨fun hg => hg.resolve_right fun ⟨channel, hc⟩ => hold channel g hc, .inl⟩
  exact { h with
    acquiring := fun channel hc => absurd hc (hacquiring channel)
    spawned := fun channel g hc => absurd hc (hnew channel g)
    alive := fun g ha => .inl ((hreceiver g).1 (h.alive g ha))
    dropped := fun g hg => h.dropped g fun hr => hg (.inl ((hreceiver g).1 hr)) }

theorem Kept.acquired {s : Driver} (h : Kept s) {channel : ChannelId}
    (hcontrol : s.control = .acquiring channel) : Kept { s with
      control := .spawned channel s.streams, streams := s.streams + 1
      channel := Function.update s.channel s.streams channel
      alive := Function.update s.alive s.streams true } := by
  obtain ⟨hchunks, hopened⟩ := h.acquiring channel hcontrol
  have hnone : ∀ g, ¬ s.HasReceiver g := by
    intro g
    apply not_hasReceiver
    · rw [hchunks]
      nofun
    · rw [hcontrol]
      exact fun _ => nofun
  refine { h with
    known := fun x hx => Nat.lt_succ_of_lt (h.known x hx)
    reading := fun g hg => absurd (hchunks.symm.trans hg) nofun, acquiring := nofun, spawned := ?_
    alive := ?_, dropped := fun g _ => h.dropped g (hnone g) }
  · intro channel' g hc
    cases hc
    exact ⟨hchunks, rfl, hopened, Function.update_self _ _ _⟩
  · intro g hg
    by_cases hne : g = s.streams
    · exact .inr ⟨channel, congrArg _ hne.symm⟩
    · have halive : s.alive g = true := (Function.update_of_ne hne _ _).symm.trans hg
      exact absurd (h.alive g halive) (hnone g)

theorem Kept.installed {s : Driver} (h : Kept s) {channel : ChannelId} {g : Nat}
    (hcontrol : s.control = .spawned channel g) : Kept { s with
      control := .free, data := { chunks := some g }, receiver := some g
      current := some channel } := by
  obtain ⟨hchunks, hlast, hopened, hchannel⟩ := h.spawned channel g hcontrol
  have hreceiver : ∀ g', s.HasReceiver g' → g' = g := by
    intro g' hg
    obtain hsome | ⟨channel', hspawned⟩ := hg
    · exact absurd (hchunks.symm.trans hsome) nofun
    · cases hcontrol.symm.trans hspawned
      rfl
  refine { h with
    sent := ?_, idle := nofun, waiting := fun _ => rfl, reading := ?_, acquiring := nofun
    spawned := nofun, alive := fun g' hg => .inl (congrArg some (hreceiver g' (h.alive g' hg)).symm)
    dropped := fun g' hg => h.dropped g' fun hr =>
      hg (.inl (congrArg some (hreceiver g' hr).symm)) }
  · intro g'
    have hsent := h.sent g'
    rw [Driver.held, hchunks] at hsent
    show s.sent g' = (s.gone g').map Prod.fst ++
      ((if some g = some g' then [] else []) ++ s.queue g')
    rw [ite_self]
    exact hsent
  · intro g' hg
    cases hg
    exact ⟨hlast, hopened, rfl, congrArg some hchannel.symm⟩

theorem Kept.send {s : Driver} (h : Kept s) {g : Nat} (hrx : s.HasReceiver g)
    (hfull : (s.queue g).length < QUEUE) (c : Chunk) : Kept { s with
      queue := Function.update s.queue g (s.queue g ++ [c])
      sent := Function.update s.sent g (s.sent g ++ [c]) } := by
  refine { h with sent := ?_, dropped := ?_, fits := h.fits_update g ?_ }
  · intro g'
    show Function.update s.sent g _ g' = (s.gone g').map Prod.fst ++
      ((if s.data.chunks = some g' then _ else _) ++ Function.update s.queue g _ g')
    have hsent := h.sent g'
    by_cases hne : g' = g
    · subst hne
      rw [Function.update_self, Function.update_self, hsent, Driver.held, ← List.append_assoc,
        ← List.append_assoc, ← List.append_assoc]
    · rw [Function.update_of_ne hne, Function.update_of_ne hne]
      exact hsent
  · intro g' hg
    have hne : g' ≠ g := fun he => hg (he ▸ hrx)
    show Function.update s.queue g _ g' = []
    rw [Function.update_of_ne hne]
    exact h.dropped g' hg
  · rw [List.length_append]
    exact hfull

theorem Kept.receives {s : Driver} (h : Kept s) {g : Nat} {c : Chunk} {rest : List Chunk}
    (hp : s.data.pending = none) (hchunks : s.data.chunks = some g) (hq : s.queue g = c :: rest) :
    Kept { s with
      access := .free, data := { s.data with pending := some c }
      queue := Function.update s.queue g rest } := by
  refine { h with
    sent := ?_, idle := fun hg => absurd (hchunks.symm.trans hg) nofun, waiting := nofun
    dropped := ?_, fits := h.fits_update g ?_ }
  · intro g'
    have hsent := h.sent g'
    show s.sent g' = (s.gone g').map Prod.fst ++
      ((if s.data.chunks = some g' then [c] else []) ++ Function.update s.queue g rest g')
    by_cases hne : g' = g
    · subst hne
      rw [held_of_reading hchunks, hp, hq] at hsent
      rw [if_pos hchunks, Function.update_self]
      exact hsent
    · have hother := chunks_ne hchunks hne
      rw [held_of_ne hother] at hsent
      rw [if_neg hother, Function.update_of_ne hne]
      exact hsent
  · intro g' hg
    have hne : g' ≠ g := fun he => hg (.inl (he ▸ hchunks))
    show Function.update s.queue g rest g' = []
    rw [Function.update_of_ne hne]
    exact h.dropped g' hg
  · have hfits := h.fits g
    rw [hq, List.length_cons] at hfits
    omega

theorem Kept.next_some {s : Driver} (h : Kept s) {c : Chunk} (hc : s.next.1 = some c) :
    ∃ g rest, s.data.chunks = some g ∧ s.held g = c :: rest := by
  cases hg : s.data.chunks with
  | none =>
    rw [next_of_idle hg (h.idle hg)] at hc
    exact absurd hc nofun
  | some g =>
    rw [next_of_reading hg] at hc
    obtain ⟨rest, hrest⟩ := List.head?_eq_some_iff.1 hc
    exact ⟨g, rest, rfl, hrest⟩

theorem note_nil (s : Driver) (fate : Fate) : s.note [] fate = s := by
  rw [Driver.note]
  split
  · rfl
  · simp

theorem Kept.next_none {s : Driver} (h : Kept s) (hc : s.next.1 = none) : s.next.2 = s := by
  cases hg : s.data.chunks with
  | none => rw [next_of_idle hg (h.idle hg)]
  | some g =>
    rw [next_of_reading hg] at hc ⊢
    have hheld : s.held g = [] := List.head?_eq_none_iff.1 hc
    have hboth := hheld
    rw [held_of_reading hg, List.append_eq_nil_iff] at hboth
    have hpending : s.data.pending = none := Option.toList_eq_nil_iff.1 hboth.1
    have hqueue : Function.update s.queue g [] = s.queue := by
      rw [← hboth.2, Function.update_eq_self]
    rw [hheld, List.tail_nil, hqueue, ← hpending]

theorem Kept.last {s : Driver} (h : Kept s) (c : Chunk) :
    Kept { s with data := { s.data with last := c } } := { h with }

theorem Kept.hand {s : Driver} (h : Kept s) (ptr : Bool) : Kept (s.hand ptr) := by
  have hnoted : Kept (s.next.2.note s.next.1.toList .handed) := by
    cases hc : s.next.1 with
    | none =>
      rw [h.next_none hc]
      exact (note_nil s .handed).symm ▸ h
    | some c =>
      obtain ⟨g, rest, hg, hheld⟩ := h.next_some hc
      exact h.takes hg hheld .handed
  cases ptr with
  | false => exact hnoted
  | true => exact hnoted.last _

theorem Kept.step {s t : Driver} {a : Act} (h : Kept s) (hs : Step s a t) : Kept t := by
  cases hs with
  | openTuner hcontrol =>
    exact { h with
      reading := fun g hg => ⟨(h.reading g hg).1, rfl, (h.reading g hg).2.2⟩
      acquiring := fun channel hc => ⟨(h.acquiring channel hc).1, rfl⟩
      spawned := fun channel g hc => ⟨(h.spawned channel g hc).1, (h.spawned channel g hc).2.1, rfl,
        (h.spawned channel g hc).2.2.2⟩ }
  | noChannel => exact h
  | setChannel hcontrol => exact h.control (by simp [hcontrol]) nofun nofun
  | closeTuner hcontrol => exact h.control (by simp [hcontrol]) nofun nofun
  | close hcontrol hjoin hdata => exact h.leave (by simp [hcontrol]) hjoin nofun nofun
  | leave hcontrol hjoin hdata =>
    apply h.leave (by simp [hcontrol]) hjoin
    · intro channel' g
      split <;> exact nofun
    · intro channel' hc
      by_contra hopened
      rw [opened_leave] at hopened
      rw [if_neg hopened] at hc
      exact absurd hc nofun
  | acquireFails hcontrol => exact h.control (by simp [hcontrol]) nofun nofun
  | acquired hcontrol => exact h.acquired hcontrol
  | installed hcontrol hdata => exact h.installed hcontrol
  | send halive hrx hfull => exact h.send hrx hfull _
  | @taskEnds g halive =>
    refine { h with alive := fun g' hg => h.alive g' ?_ }
    by_cases hne : g' = g
    · rw [hne]
      exact halive
    · exact (Function.update_of_ne hne _ _).symm.trans hg
  | waitReady hdata hready => exact h
  | waitAbandons hdata hready hchunks => exact h
  | waits hdata hready hchunks =>
    refine { h with waiting := fun _ => ?_ }
    rw [readyCount_of_fits h.fits, List.length_eq_zero_iff, Driver.available,
      List.append_eq_nil_iff] at hready
    exact Option.toList_eq_nil_iff.1 hready.1
  | waitReceives hdata hchunks hq => exact h.receives (h.waiting hdata) hchunks hq
  | waitCloses hdata hchunks hq hended => exact { h with waiting := nofun }
  | waitTimesOut hdata => exact { h with waiting := nofun }
  | get hdata => exact { h.hand _ with waiting := nofun }
  | remain hdata => exact { h with waiting := nofun }
  | getReadyCount hdata => exact h
  | purge hdata => exact { h with waiting := nofun }
  | purgeTakes hdata hc =>
    obtain ⟨g, rest, hg, hheld⟩ := h.next_some hc
    exact h.takes hg hheld .purged
  | purgeEnds hdata hc => exact { h with waiting := nofun }

theorem kept_of_reachable {s : Driver} (h : Lts.Reachable Step {} s) : Kept s :=
  h.invariant kept_init fun _ _ _ _ ht hs => ht.step hs

/-! ## What the host gets -/

theorem Kept.next_fst {s : Driver} (h : Kept s) : s.next.1 = s.available.head? := by
  cases hg : s.data.chunks with
  | none =>
    rw [next_of_idle hg (h.idle hg), Driver.available, hg, h.idle hg]
    rfl
  | some g => rw [next_of_reading hg, available_of_reading hg]

theorem hand_of_held {s : Driver} {g : Nat} {c : Chunk} {rest : List Chunk} (ptr : Bool)
    (hg : s.data.chunks = some g) (hheld : s.held g = c :: rest) :
    (s.hand ptr).data.chunks = some g ∧ (s.hand ptr).held g = rest ∧
      (s.hand ptr).handed = s.handed ++ [(g, c)] := by
  have hc : s.next.1 = some c := by rw [next_of_reading hg, hheld]; rfl
  have hhand : (s.hand ptr).data.chunks = (s.next.2.note [c] .handed).data.chunks ∧
      (s.hand ptr).data.pending = (s.next.2.note [c] .handed).data.pending ∧
      (s.hand ptr).queue = (s.next.2.note [c] .handed).queue ∧
      (s.hand ptr).handed = (s.next.2.note [c] .handed).handed := by
    have hlist : s.next.1.toList = [c] := by rw [hc]; rfl
    rw [← hlist]
    cases ptr <;> exact ⟨rfl, rfl, rfl, rfl⟩
  rw [takes_eq hg hheld] at hhand
  obtain ⟨hchunks, hpending, hqueue, hhanded⟩ := hhand
  refine ⟨hchunks.trans hg, ?_, hhanded⟩
  rw [held_of_reading (hchunks.trans hg), hpending, hqueue]
  exact Function.update_self _ _ _

theorem Kept.hand_of_none {s : Driver} (h : Kept s) (ptr : Bool) (hc : s.next.1 = none) :
    (s.hand ptr).available = s.available := by
  have hnoted : s.next.2.note s.next.1.toList .handed = s := by
    rw [hc, h.next_none hc]
    exact note_nil s .handed
  have havailable : (s.hand ptr).available = (s.next.2.note s.next.1.toList .handed).available := by
    cases ptr <;> rfl
  rw [havailable, hnoted]

theorem Kept.available_hand {s : Driver} (h : Kept s) (ptr : Bool) :
    (s.hand ptr).available = s.available.tail := by
  cases hc : s.next.1 with
  | none =>
    rw [h.hand_of_none ptr hc]
    rw [h.next_fst, List.head?_eq_none_iff] at hc
    rw [hc, List.tail_nil]
  | some c =>
    obtain ⟨g, rest, hg, hheld⟩ := h.next_some hc
    obtain ⟨hchunks, hrest, -⟩ := hand_of_held ptr hg hheld
    rw [available_of_reading hchunks, available_of_reading hg, hrest, hheld, List.tail_cons]

/-- What so many calls of `GetTsStream` in turn return, by pointer or not. -/
def Driver.gets (s : Driver) : List Bool → List (Option Chunk)
  | [] => []
  | ptr :: ptrs => s.next.1 :: (s.hand ptr).gets ptrs

theorem Kept.reduceOption_gets {s : Driver} (h : Kept s) (ptrs : List Bool) :
    (s.gets ptrs).reduceOption = s.available.take ptrs.length := by
  induction ptrs generalizing s with
  | nil => rfl
  | cons ptr ptrs ih =>
    rw [Driver.gets, h.next_fst]
    have hrest := ih (h.hand ptr)
    rw [h.available_hand ptr] at hrest
    cases hs : s.available with
    | nil =>
      rw [hs] at hrest
      rw [List.head?_nil, List.reduceOption_cons_of_none, hrest]
      simp
    | cons c rest =>
      rw [hs, List.tail_cons] at hrest
      rw [List.head?_cons, List.reduceOption_cons_of_some, hrest]
      rfl

/-- The steps that take from what is held. -/
def Takes (a : Act) : Prop := (∃ ptr c, a = .get ptr c) ∨ a = .purgeTakes ∨ a = .left

/-- What is held for the host to read stays there until it is taken. -/
theorem Kept.available_step {s t : Driver} {a : Act} (h : Kept s) (hs : Step s a t)
    (ha : ¬ Takes a) : s.available <+: t.available := by
  cases hs with
  | close => exact absurd (.inr (.inr rfl)) ha
  | leave => exact absurd (.inr (.inr rfl)) ha
  | get => exact absurd (.inl ⟨_, _, rfl⟩) ha
  | purgeTakes => exact absurd (.inr (.inl rfl)) ha
  | installed hcontrol hdata =>
    have hchunks := (h.spawned _ _ hcontrol).1
    rw [show s.available = [] by rw [Driver.available, hchunks, h.idle hchunks]; rfl]
    exact List.nil_prefix
  | @send g c halive hrx hfull =>
    show s.data.pending.toList ++ _ <+: s.data.pending.toList ++ _
    apply (List.prefix_append_right_inj _).2
    cases hg : s.data.chunks with
    | none => exact List.prefix_rfl
    | some g' =>
      show s.queue g' <+: Function.update s.queue g (s.queue g ++ [c]) g'
      by_cases hne : g' = g
      · rw [hne, Function.update_self]
        exact List.prefix_append _ _
      · have hsame : Function.update s.queue g (s.queue g ++ [c]) g' = s.queue g' :=
          Function.update_of_ne hne _ _
        exact hsame.symm ▸ List.prefix_rfl
  | @waitReceives g c rest hdata hchunks hq =>
    rw [available_of_reading hchunks, held_of_reading hchunks, h.waiting hdata, hq]
    show c :: rest <+: [c] ++ match s.data.chunks with
      | none => []
      | some g' => Function.update s.queue g rest g'
    rw [hchunks]
    have hrest : Function.update s.queue g rest g = rest := Function.update_self _ _ _
    exact (congrArg (c :: ·) hrest).symm ▸ List.prefix_rfl
  | _ => exact List.prefix_rfl

/-- Until it is taken, the chunk that is next stays so. -/
theorem next_of_run {s t : Driver} {c : Chunk} (h : Kept s) (hc : s.next.1 = some c)
    (hr : Lts.Reachable (Lts.Restrict Step fun _ a => ¬ Takes a) s t) : t.next.1 = some c := by
  have hprefix : Kept t ∧ s.available <+: t.available := by
    obtain ⟨tr, hrun⟩ := hr
    induction hrun with
    | nil => exact ⟨h, List.prefix_rfl⟩
    | snoc _ hs ih => exact ⟨ih.1.step hs.1, ih.2.trans (ih.1.available_step hs.1 hs.2)⟩
  obtain ⟨ht, rest, hrest⟩ := hprefix
  rw [h.next_fst] at hc
  rw [ht.next_fst, ← hrest, List.head?_append, hc]
  rfl

/-- A wait that succeeds leaves a chunk to be had. -/
theorem Kept.next_waited {s t : Driver} (h : Kept s) (hs : Step s (.waited .object0) t) :
    ∃ c, t.next.1 = some c := by
  have ht := h.step hs
  suffices hpos : t.available ≠ [] by
    obtain ⟨c, rest, hrest⟩ := List.exists_cons_of_ne_nil hpos
    exact ⟨c, by rw [ht.next_fst, hrest]; rfl⟩
  cases hs with
  | waitReady hdata hready =>
    rw [readyCount_of_fits h.fits] at hready
    exact List.length_pos_iff.1 hready
  | waitReceives hdata hchunks hq => exact List.cons_ne_nil _ _

theorem Kept.pending_step {s t : Driver} {a : Act} {c : Chunk} (h : Kept s)
    (hc : s.data.pending = some c) (hs : Step s a t) (ha : ¬ Takes a) :
    t.data.pending = some c := by
  cases hs with
  | close => exact absurd (.inr (.inr rfl)) ha
  | leave => exact absurd (.inr (.inr rfl)) ha
  | get => exact absurd (.inl ⟨_, _, rfl⟩) ha
  | purgeTakes => exact absurd (.inr (.inl rfl)) ha
  | installed hcontrol hdata =>
    have hnone := h.idle (h.spawned _ _ hcontrol).1
    exact absurd (hnone.symm.trans hc) nofun
  | waitReceives hdata hchunks hq => exact absurd ((h.waiting hdata).symm.trans hc) nofun
  | _ => exact hc

/-! ## What became of the chunks -/

/-- The step that decides what becomes of a chunk. -/
def Decides (a : Act) (x : Chunk × Fate) : Prop :=
  match x.2 with
  | .handed => ∃ ptr, a = .get ptr (some x.1)
  | .purged => a = .purgeTakes
  | .left => a = .left

theorem gone_note (s : Driver) (cs : List Chunk) (fate : Fate) (g : Nat) :
    ∃ new, (s.note cs fate).gone g = s.gone g ++ new ∧ ∀ x ∈ new, x.1 ∈ cs ∧ x.2 = fate := by
  cases hg : s.data.chunks with
  | none =>
    rw [Driver.note, hg]
    exact ⟨[], (List.append_nil _).symm, fun x hx => absurd hx List.not_mem_nil⟩
  | some g' =>
    rw [note_of_reading hg]
    show ∃ new, Function.update s.gone g' _ g = s.gone g ++ new ∧ _
    by_cases hne : g = g'
    · subst hne
      rw [Function.update_self]
      refine ⟨_, rfl, fun x hx => ?_⟩
      obtain ⟨c, hc, rfl⟩ := List.mem_map.1 hx
      exact ⟨hc, rfl⟩
    · rw [Function.update_of_ne hne]
      exact ⟨[], (List.append_nil _).symm, fun x hx => absurd hx List.not_mem_nil⟩

theorem gone_step {s t : Driver} {a : Act} (hs : Step s a t) (g : Nat) :
    ∃ new, t.gone g = s.gone g ++ new ∧ ∀ x ∈ new, Decides a x := by
  have hleft : ∃ new, s.leave.gone g = s.gone g ++ new ∧ ∀ x ∈ new, Decides .left x := by
    obtain ⟨new, hgone, hnew⟩ := gone_note s s.available .left g
    refine ⟨new, hgone, fun x hx => ?_⟩
    rw [Decides, (hnew x hx).2]
  cases hs with
  | close => exact hleft
  | leave => exact hleft
  | @get ptr hdata =>
    obtain ⟨new, hgone, hnew⟩ := gone_note s.next.2 s.next.1.toList .handed g
    have hhand : (s.hand ptr).gone = (s.next.2.note s.next.1.toList .handed).gone := by
      cases ptr <;> rfl
    refine ⟨new, (congrFun hhand g).trans hgone, fun x hx => ?_⟩
    rw [Decides, (hnew x hx).2]
    exact ⟨ptr, by rw [Option.mem_toList.1 (hnew x hx).1]⟩
  | @purgeTakes c hdata hc =>
    obtain ⟨new, hgone, hnew⟩ := gone_note s.next.2 [c] .purged g
    refine ⟨new, hgone, fun x hx => ?_⟩
    rw [Decides, (hnew x hx).2]
  | _ => exact ⟨[], (List.append_nil _).symm, fun x hx => absurd hx List.not_mem_nil⟩

theorem Kept.handed_sublist {s : Driver} (h : Kept s) (g : Nat) :
    ((s.handed.filter fun x => x.1 = g).map Prod.snd).Sublist (s.sent g) := by
  rw [h.handed g, h.sent g]
  apply List.Sublist.trans (List.filter_sublist.map Prod.fst)
  exact List.sublist_append_left _ _

/-- `GetTsStream` gives the first chunk held of the stream of the channel the host is on. -/
theorem Kept.get_some {s t : Driver} {ptr : Bool} {c : Chunk} (h : Kept s)
    (hs : Step s (.get ptr (some c)) t) :
    ∃ g, s.current = some (s.channel g) ∧ s.held g = c :: t.held g ∧
      t.handed = s.handed ++ [(g, c)] := by
  generalize ha : Act.get ptr (some c) = a at hs
  cases hs with
  | @get ptr' hdata =>
    injection ha with hptr hc
    obtain ⟨g, rest, hg, hheld⟩ := h.next_some hc.symm
    obtain ⟨hchunks, hrest, hhanded⟩ := hand_of_held ptr' hg hheld
    refine ⟨g, (h.reading g hg).2.2.2, ?_, hhanded⟩
    rw [hheld]
    exact congrArg _ hrest.symm
  | _ => exact absurd ha nofun

theorem Kept.get_none {s t : Driver} {ptr : Bool} (h : Kept s) (hs : Step s (.get ptr none) t) :
    s.available = [] ∧ t.handed = s.handed := by
  generalize ha : Act.get ptr none = a at hs
  cases hs with
  | @get ptr' hdata =>
    injection ha with hptr hc
    have hnoted : s.next.2.note s.next.1.toList .handed = s := by
      rw [← hc, h.next_none hc.symm]
      exact note_nil s .handed
    have hhanded : (s.hand ptr').handed = (s.next.2.note s.next.1.toList .handed).handed := by
      cases ptr' <;> rfl
    rw [h.next_fst] at hc
    exact ⟨List.head?_eq_none_iff.1 hc.symm, hhanded.trans (congrArg Driver.handed hnoted)⟩
  | _ => exact absurd ha nofun

/-- A count is of the chunks that as many calls of `GetTsStream` would return then. -/
theorem Kept.counts {s : Driver} (h : Kept s) : s.readyCount = s.available.length ∧
    ∀ ptrs, (s.gets ptrs).reduceOption = s.available.take ptrs.length :=
  ⟨readyCount_of_fits h.fits, h.reduceOption_gets⟩

/-- What the host is given of each stream, and what a step from here does about it. -/
structure Orderly (s : Driver) : Prop where
  accounted : ∀ g, s.sent g = (s.gone g).map Prod.fst ++ s.held g
  given : ∀ g, (s.handed.filter fun x => x.1 = g).map Prod.snd =
    ((s.gone g).filter fun x => x.2 = .handed).map Prod.fst
  sublist : ∀ g, ((s.handed.filter fun x => x.1 = g).map Prod.snd).Sublist (s.sent g)
  sorted : s.handed.Pairwise fun x y => x.1 ≤ y.1
  /-- A chunk is lost to a purge or as the channel is left alone. -/
  decided : ∀ a t, Step s a t → ∀ g, ∃ new, t.gone g = s.gone g ++ new ∧ ∀ x ∈ new, Decides a x
  got : ∀ ptr c t, Step s (.get ptr (some c)) t → ∃ g, s.current = some (s.channel g) ∧
    s.held g = c :: t.held g ∧ t.handed = s.handed ++ [(g, c)]
  gotNone : ∀ ptr t, Step s (.get ptr none) t → s.available = [] ∧ t.handed = s.handed
  /-- The chunk a wait leaves is the next one for as long as none is taken. -/
  waited : ∀ t, Step s (.waited .object0) t → ∃ c,
    ∀ u, Lts.Reachable (Lts.Restrict Step fun _ a => ¬ Takes a) t u → u.next.1 = some c
  pending : ∀ a t c, s.data.pending = some c → Step s a t → ¬ Takes a → t.data.pending = some c
  remain : ∀ n t, Step s (.remain n) t → n = t.available.length ∧
    ∀ ptrs, (t.gets ptrs).reduceOption = t.available.take ptrs.length
  readyCount : ∀ n t, Step s (.getReadyCount n) t → n = t.available.length ∧
    ∀ ptrs, (t.gets ptrs).reduceOption = t.available.take ptrs.length

/-- Whatever the threads of the host call and in whatever order the task sends, the host is given
the chunks of the channel it is on, in order and each once. -/
theorem hands_over {s : Driver} (h : Lts.Reachable Step {} s) : Orderly s := by
  have hkept := kept_of_reachable h
  refine ⟨hkept.sent, hkept.handed, hkept.handed_sublist, hkept.sorted, ?_, ?_, ?_, ?_, ?_, ?_, ?_⟩
  · intro a t hs
    exact gone_step hs
  · intro ptr c t hs
    exact hkept.get_some hs
  · intro ptr t hs
    exact hkept.get_none hs
  · intro t hs
    obtain ⟨c, hc⟩ := hkept.next_waited hs
    exact ⟨c, fun u hr => next_of_run (hkept.step hs) hc hr⟩
  · intro a t c hc hs ha
    exact hkept.pending_step hc hs ha
  · intro n t hs
    have ht := hkept.step hs
    cases hs with
    | remain hdata => exact ht.counts
  · intro n t hs
    cases hs with
    | getReadyCount hdata => exact hkept.counts

/-- The first chunk of a channel is given to the host, and none remain. -/
theorem hands_over_first :
    ∃ s, s.handed = [(0, [0x47])] ∧ s.current = some (0, 3) ∧ Orderly s := by
  have hopened : Lts.Reachable Step {} _ := (Lts.Reachable.refl {}).snoc (Step.openTuner rfl)
  have hset : Lts.Reachable Step {} _ := hopened.snoc (a := .setChannel (0, 3)) (.setChannel rfl)
  have hspawned := hset.snoc (.leave rfl (fun _ _ => nofun) rfl) |>.snoc (.acquired rfl)
  have hsent := hspawned.snoc (a := .send 0 [0x47]) (.send rfl (.inr ⟨_, rfl⟩) (by decide))
  have hinstalled := hsent.snoc (.installed rfl rfl)
  have hgot := hinstalled.snoc (a := .get true _) (.get rfl) |>.snoc (.remain rfl)
  exact ⟨_, rfl, rfl, hands_over hgot⟩

end Tunelith.Bondriver
