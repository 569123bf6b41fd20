import Mathlib.Data.List.Nodup
import Mathlib.Logic.Function.Basic
import Tunelith.Core.Types
import Tunelith.Lib.Transition

/-!
# The reads of a pin

A `Reader` keeps several reads in flight on a pin. `next` waits for the one that was sent first, and
sends it again once its frame has been copied out. The buffers of the reads are its own, and the
device writes into them until the read is done: the drop cancels the reads, and waits for each
before any of them goes.

The device has the reads in the order they were sent. It puts its frames into them in this order,
and may end any of them with an error.

* `reads_in_order` — in every run the device writes into no buffer that is gone, nobody waits for a
  read that is not with the device or done, and the frames come out in the order of the device.
-/

namespace Tunelith.Bda

abbrev Frame := List UInt8

/-! ## Steps -/

inductive Read
  | absent
  | inFlight
  | done (r : Except Error Frame)
  | freed

/-- What the owner of the reads is doing. -/
inductive Phase
  /-- In `new`, with so many reads still to be made. -/
  | making (left : Nat)
  | made
  | waiting (b : Nat)
  /-- In `next`, with a frame copied out and its read to be sent again. -/
  | copied (b : Nat) (frame : Frame)
  | returned (r : Except Error Frame)
  /-- In `drop`, with the reads cancelled and so many still to be waited for. -/
  | dropping (left : List Nat)
  | gone

namespace Phase

def Free : Phase → Prop
  | .made | .returned _ => True
  | _ => False

def Dropped : Phase → Prop
  | .dropping _ | .gone => True
  | _ => False

def left : Phase → Nat
  | .making n => n
  | _ => 0

def hand : Phase → List Nat
  | .waiting b | .copied b _ => [b]
  | _ => []

theorem hand_of_free {c : Phase} (h : c.Free) : c.hand = [] := by
  cases c with
  | making | waiting | copied | dropping | gone => exact h.elim
  | made | returned => rfl

theorem left_of_free {c : Phase} (h : c.Free) : c.left = 0 := by
  cases c with
  | making => exact h.elim
  | _ => rfl

theorem not_dropped_of_free {c : Phase} (h : c.Free) : ¬ c.Dropped := by
  cases c with
  | dropping | gone => exact h.elim
  | _ => exact id

theorem ne_gone {c : Phase} (h : c.Free) : c ≠ .gone := by
  rintro rfl
  exact h

end Phase

structure Reader where
  /-- The next to be waited for first. -/
  reads : List Nat := []
  read : Nat → Read := fun _ => .absent
  call : Phase
  /-- The reads the device has, in the order they were sent. -/
  queue : List Nat := []

namespace Reader

@[simps] def setCall (s : Reader) (c : Phase) : Reader := { s with call := c }

@[simps] def setRead (s : Reader) (b : Nat) (r : Read) : Reader :=
  { s with read := Function.update s.read b r }

/-- `Read::submit` of a read that goes to the back of the ring. -/
@[simps!] def submit (s : Reader) (b : Nat) : Reader :=
  { s with reads := s.reads ++ [b], queue := s.queue ++ [b] }.setRead b .inFlight

@[simps!] def cancel (s : Reader) : Reader := s.setCall (.dropping s.reads)

@[simps] def free (s : Reader) : Reader :=
  { s with reads := [], read := fun b => if b ∈ s.reads then .freed else s.read b, call := .gone }

inductive Act
  | make (b : Nat)
  /-- `Read::new` fails. -/
  | unmade
  | refused (b : Nat)
  | made
  | next
  | copy
  | fail
  /-- The frame is returned, its read sent again. -/
  | again (frame : Frame)
  /-- The read cannot be sent again, and its frame goes with it. -/
  | lose (frame : Frame) (e : Error)
  | drop
  /-- One of the cancelled reads is done. -/
  | reap
  | free
  /-- The device puts a frame into the read sent first. -/
  | fill (frame : Frame)
  /-- It ends a read with an error. -/
  | abort (b : Nat) (e : Error)

inductive Step : Reader → Act → Reader → Prop
  | make {s : Reader} {n b : Nat} (hc : s.call = .making (n + 1)) (hb : s.read b = .absent) :
      Step s (.make b) ((s.submit b).setCall (.making n))
  | unmade {s : Reader} {n : Nat} (hc : s.call = .making (n + 1)) : Step s .unmade s.cancel
  | refused {s : Reader} {n b : Nat} (hc : s.call = .making (n + 1)) (hb : s.read b = .absent) :
      Step s (.refused b) (s.setRead b .freed).cancel
  | made {s : Reader} (hc : s.call = .making 0) : Step s .made (s.setCall .made)
  | next {s : Reader} {b : Nat} {bs : List Nat} (hc : s.call.Free) (hb : s.reads = b :: bs) :
      Step s .next { s with reads := bs, call := .waiting b }
  | copy {s : Reader} {b : Nat} {frame : Frame} (hc : s.call = .waiting b)
      (hb : s.read b = .done (.ok frame)) : Step s .copy (s.setCall (.copied b frame))
  | fail {s : Reader} {b : Nat} {e : Error} (hc : s.call = .waiting b)
      (hb : s.read b = .done (.error e)) :
      Step s .fail { s with reads := s.reads ++ [b], call := .returned (.error e) }
  | again {s : Reader} {b : Nat} {frame : Frame} (hc : s.call = .copied b frame) :
      Step s (.again frame) ((s.submit b).setCall (.returned (.ok frame)))
  | lose {s : Reader} {b : Nat} {frame : Frame} {e : Error} (hc : s.call = .copied b frame) :
      Step s (.lose frame e) ((s.setRead b .freed).setCall (.returned (.error e)))
  | drop {s : Reader} (hc : s.call.Free) : Step s .drop s.cancel
  | reap {s : Reader} {b : Nat} {bs : List Nat} {r : Except Error Frame}
      (hc : s.call = .dropping (b :: bs)) (hb : s.read b = .done r) :
      Step s .reap (s.setCall (.dropping bs))
  | free {s : Reader} (hc : s.call = .dropping []) : Step s .free s.free
  | fill {s : Reader} {b : Nat} {bs : List Nat} {frame : Frame} (hq : s.queue = b :: bs) :
      Step s (.fill frame) ({ s with queue := bs }.setRead b (.done (.ok frame)))
  | abort {s : Reader} {b : Nat} {e : Error} (hq : b ∈ s.queue) :
      Step s (.abort b e) ({ s with queue := s.queue.erase b }.setRead b (.done (.error e)))

/-! ## Frames -/

def filled (tr : List (Reader × Act)) : List Frame :=
  (tr.filterMap fun x => match x.2 with
    | .fill frame => some frame
    | _ => none).reverse

def returned (tr : List (Reader × Act)) : List Frame :=
  (tr.filterMap fun x => match x.2 with
    | .again frame => some frame
    | _ => none).reverse

def lost (tr : List (Reader × Act)) : List Frame :=
  (tr.filterMap fun x => match x.2 with
    | .lose frame _ => some frame
    | _ => none).reverse

/-- The frames that `next` copied out, returned or not. -/
def copied (tr : List (Reader × Act)) : List Frame :=
  (tr.filterMap fun x => match x.2 with
    | .again frame | .lose frame _ => some frame
    | _ => none).reverse

/-- The reads whose buffers are not freed, in the order of the ring. -/
def owned (s : Reader) : List Nat := s.call.hand ++ s.reads

def frame? : Read → Option Frame
  | .done (.ok frame) => some frame
  | _ => none

def held (s : Reader) : List Frame := s.owned.filterMap fun b => frame? (s.read b)

def inFlight : Read → Bool
  | .inFlight => true
  | _ => false

/-- The reads of `l` with a frame come before those in flight. -/
def InOrder (read : Nat → Read) (l : List Nat) : Prop :=
  ∃ xs ys, l = xs ++ ys ∧ (∀ b ∈ xs, inFlight (read b) = false) ∧
    ∀ b ∈ ys, frame? (read b) = none

/-! ## The invariant -/

structure Inv (n : Nat) (tr : List (Reader × Act)) (s : Reader) : Prop where
  nodup : s.owned.Nodup
  dead : ∀ b, b ∉ s.owned → s.read b = .absent ∨ s.read b = .freed
  alive : ∀ b ∈ s.owned, s.read b = .inFlight ∨ ∃ r, s.read b = .done r
  queue : s.queue = s.owned.filter fun b => inFlight (s.read b)
  inOrder : InOrder s.read s.owned
  begins : copied tr <+: filled tr
  held : s.call ≠ .gone → filled tr = copied tr ++ s.held
  empty : s.call = .gone → s.reads = []
  hand : ∀ b frame, s.call = .copied b frame → s.read b = .done (.ok frame)
  room : ¬ s.call.Dropped → s.owned.length + s.call.left + (lost tr).length = n
  waited : ∀ bs, s.call = .dropping bs →
    bs ⊆ s.reads ∧ ∀ b ∈ s.reads, b ∉ bs → inFlight (s.read b) = false

variable {n : Nat} {tr : List (Reader × Act)} {s s' : Reader} {a : Act} {b : Nat} {bs l : List Nat}
  {read read' : Nat → Read}

theorem inv_init : Inv n [] { call := .making n } where
  nodup := List.nodup_nil
  dead _ _ := .inl rfl
  alive _ hb := absurd hb List.not_mem_nil
  queue := rfl
  inOrder := ⟨[], [], rfl, by simp, by simp⟩
  begins := List.nil_prefix
  held _ := rfl
  empty := nofun
  hand := nofun
  room _ := by simp [owned, Phase.hand, Phase.left, lost]
  waited := nofun

theorem InOrder.mono (h : InOrder read l)
    (hi : ∀ b ∈ l, inFlight (read b) = false → inFlight (read' b) = false)
    (hf : ∀ b ∈ l, frame? (read b) = none → frame? (read' b) = none) : InOrder read' l := by
  obtain ⟨xs, ys, rfl, hxs, hys⟩ := h
  refine ⟨xs, ys, rfl, fun b hb => ?_, fun b hb => ?_⟩
  · exact hi b (List.mem_append_left ys hb) (hxs b hb)
  · exact hf b (List.mem_append_right xs hb) (hys b hb)

theorem InOrder.congr (h : InOrder read l) (hr : ∀ b ∈ l, read' b = read b) : InOrder read' l :=
  h.mono (fun b hb => by rw [hr b hb]; exact id) fun b hb => by rw [hr b hb]; exact id

/-- A read without a frame may go to the back. -/
theorem InOrder.concat (h : InOrder read l) (hb : frame? (read b) = none) :
    InOrder read (l ++ [b]) := by
  obtain ⟨xs, ys, rfl, hxs, hys⟩ := h
  refine ⟨xs, ys ++ [b], List.append_assoc .., hxs, fun c hc => ?_⟩
  obtain hc | hc := List.mem_append.1 hc
  · exact hys c hc
  · rw [List.mem_singleton.1 hc]
    exact hb

theorem InOrder.tail (h : InOrder read (b :: l)) : InOrder read l := by
  obtain ⟨xs, ys, hl, hxs, hys⟩ := h
  cases xs with
  | nil =>
    subst hl
    exact ⟨[], l, rfl, by simp, fun c hc => hys c (List.mem_cons_of_mem b hc)⟩
  | cons x xs =>
    cases hl
    exact ⟨xs, ys, rfl, fun c hc => hxs c (List.mem_cons_of_mem b hc), hys⟩

/-- No frame is behind a read in flight. -/
theorem InOrder.frames (h : InOrder read (l ++ b :: bs)) (hb : inFlight (read b) = true) :
    ∀ c ∈ bs, frame? (read c) = none := by
  obtain ⟨xs, ys, hl, hxs, hys⟩ := h
  intro c hc
  obtain ⟨m, rfl, hm⟩ | ⟨m, rfl, rfl⟩ := List.append_eq_append_iff.1 hl
  · cases m with
    | nil =>
      rw [List.nil_append] at hm
      exact hys c (hm ▸ List.mem_cons_of_mem b hc)
    | cons x m =>
      cases hm
      rw [hxs b (by simp)] at hb
      cases hb
  · exact hys c (by simp [hc])

theorem inFlight_iff {r : Read} : inFlight r = true ↔ r = .inFlight := by
  cases r <;> simp [inFlight]

/-! What is done to a read leaves the others. -/

theorem update_of_mem {r : Read} (hb : b ∉ l) : ∀ c ∈ l, Function.update read b r c = read c :=
  fun _ hc => Function.update_of_ne (ne_of_mem_of_not_mem hc hb) _ _

theorem filter_update {r : Read} (hb : b ∉ l) :
    l.filter (fun c => inFlight (Function.update read b r c)) =
      l.filter fun c => inFlight (read c) :=
  List.filter_congr fun c hc => congrArg inFlight (update_of_mem hb c hc)

theorem filterMap_update {r : Read} (hb : b ∉ l) :
    l.filterMap (fun c => frame? (Function.update read b r c)) =
      l.filterMap fun c => frame? (read c) :=
  List.filterMap_congr fun c hc => congrArg frame? (update_of_mem hb c hc)

theorem Inv.mem_owned (h : Inv n tr s) (hb : b ∈ s.queue) : b ∈ s.owned ∧ s.read b = .inFlight := by
  rw [h.queue, List.mem_filter] at hb
  exact ⟨hb.1, inFlight_iff.1 hb.2⟩

theorem inv_call (h : Inv n tr s) {t : Reader} (hr : t.read = s.read) (hq : t.queue = s.queue)
    (ho : t.owned = s.owned) (hg : s.call ≠ .gone) (he : t.call = .gone → t.reads = [])
    (hf : filled ((s, a) :: tr) = filled tr)
    (hcp : copied ((s, a) :: tr) = copied tr)
    (hhand : ∀ b frame, t.call = .copied b frame → s.read b = .done (.ok frame))
    (hroom : ¬ t.call.Dropped →
      t.call.left = s.call.left ∧ ¬ s.call.Dropped ∧ lost ((s, a) :: tr) = lost tr)
    (hw : ∀ bs, t.call = .dropping bs →
      bs ⊆ t.reads ∧ ∀ b ∈ t.reads, b ∉ bs → inFlight (s.read b) = false) :
    Inv n ((s, a) :: tr) t where
  nodup := ho ▸ h.nodup
  dead b hb := by
    rw [hr]
    exact h.dead b (ho ▸ hb)
  alive b hb := by
    rw [hr]
    exact h.alive b (ho ▸ hb)
  queue := by
    rw [hq, ho, hr]
    exact h.queue
  inOrder := by
    rw [hr, ho]
    exact h.inOrder
  begins := by
    rw [hf, hcp]
    exact h.begins
  held _ := by
    rw [hf, hcp, Reader.held, ho, hr]
    exact h.held hg
  empty := he
  hand b frame hc := by
    rw [hr]
    exact hhand b frame hc
  room hd := by
    obtain ⟨hl, hd, hlost⟩ := hroom hd
    rw [ho, hl, hlost]
    exact h.room hd
  waited bs hc := by
    rw [hr]
    exact hw bs hc

theorem inv_cancel (h : Inv n tr s) (hc : s.owned = s.reads) (hg : s.call ≠ .gone)
    (hf : filled ((s, a) :: tr) = filled tr) (hcp : copied ((s, a) :: tr) = copied tr) :
    Inv n ((s, a) :: tr) s.cancel := by
  refine inv_call h rfl rfl hc.symm hg nofun hf hcp nofun (fun hd => absurd trivial hd)
    fun bs hbs => ?_
  cases hbs
  exact ⟨List.Subset.refl _, fun b hb hn => absurd hb hn⟩

theorem Inv.not_gone (h : Inv n tr s) (hb : b ∈ s.queue) : s.call ≠ .gone := by
  intro hc
  have hbo := (h.mem_owned hb).1
  rw [owned, hc, h.empty hc] at hbo
  exact absurd hbo List.not_mem_nil

/-- A read the device has is done. -/
theorem inv_done (h : Inv n tr s) {r : Except Error Frame} (hb : b ∈ s.queue)
    (hhead : ∀ frame, r = .ok frame → s.queue.head? = some b)
    (hf : filled ((s, a) :: tr) = filled tr ++ (frame? (.done r)).toList)
    (hcp : copied ((s, a) :: tr) = copied tr) (hl : lost ((s, a) :: tr) = lost tr) :
    Inv n ((s, a) :: tr) ({ s with queue := s.queue.erase b }.setRead b (.done r)) := by
  obtain ⟨hbo, hbr⟩ := h.mem_owned hb
  obtain ⟨xs, ys, ho⟩ := List.append_of_mem hbo
  have hnd := h.nodup
  rw [ho] at hnd
  have hx : b ∉ xs := fun hx => (List.nodup_append.1 hnd).2.2 b hx b (by simp) rfl
  have hy : b ∉ ys := (List.nodup_cons.1 (List.nodup_append.1 hnd).2.1).1
  have hot : owned ({ s with queue := s.queue.erase b }.setRead b (.done r)) = s.owned := rfl
  have hys : ∀ c ∈ ys, frame? (s.read c) = none := by
    refine InOrder.frames (l := xs) (ho ▸ h.inOrder) (by rw [hbr]; rfl)
  have hxs : ∀ frame, r = .ok frame → ∀ c ∈ xs, inFlight (s.read c) = false := by
    intro frame hr c hc
    have hq := h.queue
    rw [ho, List.filter_append] at hq
    cases hfx : xs.filter fun b => inFlight (s.read b) with
    | nil => simpa using List.filter_eq_nil_iff.1 hfx c hc
    | cons d ds =>
      have hd : s.queue.head? = some d := by rw [hq, hfx]; rfl
      rw [hhead frame hr] at hd
      cases hd
      exact absurd (List.mem_filter.1 (hfx ▸ List.mem_cons_self)).1 hx
  refine ⟨h.nodup, fun c hc => ?_, fun c hc => ?_, ?_, ?_, ?_, fun hg => ?_, h.empty,
    fun c frame hc => ?_, fun hd => ?_, fun cs hc => ?_⟩
  · rw [setRead_read, Function.update_of_ne (ne_of_mem_of_not_mem hbo hc).symm]
    exact h.dead c hc
  · by_cases hcb : c = b
    · rw [hcb]
      exact .inr ⟨r, Function.update_self ..⟩
    · rw [setRead_read, Function.update_of_ne hcb]
      exact h.alive c hc
  · have hxq : b ∉ xs.filter fun c => inFlight (s.read c) := fun hc => hx (List.mem_filter.1 hc).1
    rw [hot, setRead_queue, h.queue, ho]
    simp only [setRead_read]
    rw [List.filter_append, List.filter_append, List.erase_append_right _ hxq, filter_update hx,
      List.filter_cons_of_pos (by rw [hbr]; rfl), List.erase_cons_head,
      List.filter_cons_of_neg (by rw [Function.update_self]; exact Bool.false_ne_true),
      filter_update hy]
  · rw [hot]
    cases r with
    | ok frame =>
      rw [ho]
      refine ⟨xs ++ [b], ys, by simp, fun c hc => ?_, fun c hc => ?_⟩
      · obtain hc | hc := List.mem_append.1 hc
        · rw [setRead_read, update_of_mem hx c hc]
          exact hxs frame rfl c hc
        · rw [List.mem_singleton.1 hc, setRead_read, Function.update_self]
          rfl
      · rw [setRead_read, update_of_mem hy c hc]
        exact hys c hc
    | error e =>
      refine h.inOrder.mono (fun c _ hc => ?_) fun c _ hc => ?_
      all_goals
        by_cases hcb : c = b
        · rw [hcb, setRead_read, Function.update_self]
          rfl
        · rwa [setRead_read, Function.update_of_ne hcb]
  · rw [hf, hcp]
    exact h.begins.trans (List.prefix_append _ _)
  · have hynil : ys.filterMap (fun c => frame? (s.read c)) = [] := List.filterMap_eq_nil_iff.2 hys
    rw [hf, hcp, h.held hg, List.append_assoc, held, held, hot, ho]
    simp only [setRead_read]
    rw [List.filterMap_append, List.filterMap_append, filterMap_update hx, List.filterMap_cons,
      List.filterMap_cons, filterMap_update hy, hynil, hbr, Function.update_self]
    cases r <;> simp [frame?]
  · have hco : c ∈ s.owned := by
      rw [owned, show s.call = .copied c frame from hc]
      exact List.mem_cons_self
    have hcr := h.hand c frame hc
    rw [setRead_read, Function.update_of_ne]
    · exact hcr
    · rintro rfl
      rw [hbr] at hcr
      cases hcr
  · rw [hl]
    exact h.room hd
  · obtain ⟨hsub, hnot⟩ := h.waited cs hc
    refine ⟨hsub, fun c hc hn => ?_⟩
    by_cases hcb : c = b
    · rw [hcb, setRead_read, Function.update_self]
      rfl
    · rw [setRead_read, Function.update_of_ne hcb]
      exact hnot c hc hn

theorem Inv.ring (h : Inv n tr s) (ho : s.owned = s.reads ∨ s.owned = b :: s.reads)
    (hb : inFlight (s.read b) = false) :
    s.reads.Nodup ∧ (s.queue = s.reads.filter fun c => inFlight (s.read c)) ∧
      InOrder s.read s.reads ∧ ∀ c ∈ s.reads, s.read c = .inFlight ∨ ∃ r, s.read c = .done r := by
  obtain ⟨hnd, -, halive, hq, hord, -⟩ := h
  obtain ho | ho := ho <;> rw [ho] at hnd halive hq hord
  · exact ⟨hnd, hq, hord, halive⟩
  · rw [List.filter_cons_of_neg (by rw [hb]; exact Bool.false_ne_true)] at hq
    exact ⟨(List.nodup_cons.1 hnd).2, hq, hord.tail,
      fun c hc => halive c (List.mem_cons_of_mem b hc)⟩

/-- A read is sent, and goes to the back of the ring. -/
theorem inv_submit (h : Inv n tr s) {c : Phase} (hb : b ∉ s.reads)
    (ho : s.owned = s.reads ∨ s.owned = b :: s.reads) (hbi : inFlight (s.read b) = false)
    (hh : c.hand = [])
    (hcc : ∀ b frame, c ≠ .copied b frame) (hcd : ∀ bs, c ≠ .dropping bs) (hg : c ≠ .gone)
    (hf : filled ((s, a) :: tr) =
      copied ((s, a) :: tr) ++ s.reads.filterMap fun b => frame? (s.read b))
    (hroom : s.reads.length + 1 + c.left + (lost ((s, a) :: tr)).length = n) :
    Inv n ((s, a) :: tr) ((s.submit b).setCall c) := by
  have hc : owned ((s.submit b).setCall c) = s.reads ++ [b] := by
    rw [owned, setCall_call, hh]
    rfl
  obtain ⟨hnd, hq, hord, halive⟩ := h.ring ho hbi
  refine ⟨?_, fun d hd => ?_, fun d hd => ?_, ?_, ?_, hf ▸ List.prefix_append _ _, fun _ => ?_,
    fun hd => absurd hd hg, fun d frame hd => absurd hd (hcc d frame), fun _ => ?_,
    fun bs hd => absurd hd (hcd bs)⟩
  · rw [hc]
    exact List.nodup_append.2 ⟨hnd, List.nodup_singleton b, fun x hx y hy => by
      rw [List.mem_singleton.1 hy]
      exact ne_of_mem_of_not_mem hx hb⟩
  · rw [hc, List.mem_append, List.mem_singleton, not_or] at hd
    rw [setCall_read, submit_read, Function.update_of_ne hd.2]
    refine h.dead d fun hdo => ?_
    obtain ho | ho := ho <;> rw [ho] at hdo
    · exact hd.1 hdo
    · exact (List.mem_cons.1 hdo).elim hd.2 hd.1
  · rw [hc, List.mem_append, List.mem_singleton] at hd
    obtain hd | rfl := hd
    · rw [setCall_read, submit_read, update_of_mem hb d hd]
      exact halive d hd
    · exact .inl (Function.update_self ..)
  · rw [hc, setCall_queue, submit_queue, hq]
    simp only [setCall_read, submit_read]
    rw [List.filter_append, filter_update hb, List.filter_cons_of_pos (by simp [inFlight]),
      List.filter_nil]
  · rw [hc]
    show InOrder (Function.update s.read b .inFlight) (s.reads ++ [b])
    refine InOrder.concat (hord.congr (update_of_mem hb)) ?_
    rw [Function.update_self]
    rfl
  · rw [hf, held, hc]
    simp only [setCall_read, submit_read]
    rw [List.filterMap_append, filterMap_update hb]
    simp [frame?]
  · rw [hc, List.length_append]
    exact hroom

theorem inv_freed (h : Inv n tr s) {c : Phase} (hb : b ∉ s.reads)
    (ho : s.owned = s.reads ∨ s.owned = b :: s.reads) (hbi : inFlight (s.read b) = false)
    (hh : c.hand = []) (hcc : ∀ b frame, c ≠ .copied b frame)
    (hcd : ∀ bs, c = .dropping bs → bs = s.reads) (hg : c ≠ .gone)
    (hf : filled ((s, a) :: tr) =
      copied ((s, a) :: tr) ++ s.reads.filterMap fun b => frame? (s.read b))
    (hroom : ¬ c.Dropped → s.reads.length + c.left + (lost ((s, a) :: tr)).length = n) :
    Inv n ((s, a) :: tr) ((s.setRead b .freed).setCall c) := by
  have hc : owned ((s.setRead b .freed).setCall c) = s.reads := by
    rw [owned, setCall_call, hh]
    rfl
  obtain ⟨hnd, hq, hord, halive⟩ := h.ring ho hbi
  refine ⟨hc ▸ hnd, fun d hd => ?_, fun d hd => ?_, ?_, ?_, hf ▸ List.prefix_append _ _,
    fun _ => ?_, fun hd => absurd hd hg, fun d f hd => absurd hd (hcc d f), fun hd => ?_,
    fun bs hd => ?_⟩
  · rw [hc] at hd
    by_cases hdb : d = b
    · rw [hdb]
      exact .inr (Function.update_self ..)
    · rw [setCall_read, setRead_read, Function.update_of_ne hdb]
      refine h.dead d fun hdo => ?_
      obtain ho | ho := ho <;> rw [ho] at hdo
      · exact hd hdo
      · exact (List.mem_cons.1 hdo).elim hdb hd
  · rw [hc] at hd
    rw [setCall_read, setRead_read, update_of_mem hb d hd]
    exact halive d hd
  · rw [hc]
    simp only [setCall_read, setRead_read]
    rw [filter_update hb]
    exact hq
  · rw [hc]
    exact hord.congr (update_of_mem hb)
  · rw [hf, held, hc]
    simp only [setCall_read, setRead_read]
    rw [filterMap_update hb]
  · rw [hc]
    exact hroom hd
  · obtain rfl := hcd bs hd
    exact ⟨List.Subset.refl _, fun c hc hn => absurd hc hn⟩

/-- A read that failed goes to the back of the ring. -/
theorem inv_back (h : Inv n tr s) {e : Error} (hc : s.call = .waiting b)
    (hb : s.read b = .done (.error e)) :
    Inv n ((s, .fail) :: tr) { s with reads := s.reads ++ [b], call := .returned (.error e) } := by
  have ho : s.owned = b :: s.reads := by rw [owned, hc]; rfl
  have hmem : ∀ c, c ∈ s.reads ++ [b] ↔ c ∈ s.owned := by simp [ho, or_comm]
  have hbi : inFlight (s.read b) = false := by rw [hb]; rfl
  obtain ⟨hnd, hq, hord, -⟩ := h.ring (.inr ho) hbi
  have hnb : b ∉ s.reads := (List.nodup_cons.1 (ho ▸ h.nodup)).1
  have hnd' : (s.reads ++ [b]).Nodup := List.nodup_append.2 ⟨hnd, List.nodup_singleton b,
    fun x hx y hy => by rw [List.mem_singleton.1 hy]; exact ne_of_mem_of_not_mem hx hnb⟩
  refine ⟨hnd', fun d hd => h.dead d fun hdo => hd ((hmem d).2 hdo),
    fun d hd => h.alive d ((hmem d).1 hd), ?_, hord.concat (by rw [hb]; rfl), h.begins,
    fun _ => ?_, nofun, nofun, fun _ => ?_, nofun⟩
  · show s.queue = (s.reads ++ [b]).filter fun c => inFlight (s.read c)
    rw [hq, List.filter_append, List.filter_cons_of_neg (by rw [hbi]; exact Bool.false_ne_true),
      List.filter_nil, List.append_nil]
  · have hf := h.held (by rw [hc]; nofun)
    rw [held, ho, List.filterMap_cons_none (by rw [hb]; rfl)] at hf
    rw [held]
    show filled tr = copied tr ++ (s.reads ++ [b]).filterMap fun c => frame? (s.read c)
    rw [hf, List.filterMap_append, List.filterMap_cons_none (by rw [hb]; rfl), List.filterMap_nil,
      List.append_nil]
  · have := h.room (by rw [hc]; exact id)
    rw [hc, ho] at this
    show (s.reads ++ [b]).length + 0 + (lost tr).length = n
    rw [List.length_append]
    exact this

theorem inv_free (h : Inv n tr s) (hc : s.call = .dropping []) :
    Inv n ((s, .free) :: tr) s.free := by
  have ho : s.owned = s.reads := by rw [owned, hc]; rfl
  obtain ⟨-, hnot⟩ := h.waited [] hc
  refine ⟨List.nodup_nil, fun b _ => ?_, nofun, ?_, ⟨[], [], rfl, by simp, by simp⟩, h.begins,
    fun hg => absurd rfl hg, fun _ => rfl, nofun, fun hd => absurd trivial hd, nofun⟩
  · by_cases hb : b ∈ s.reads
    · exact .inr (if_pos hb)
    · rw [free_read, if_neg hb]
      exact h.dead b (ho ▸ hb)
  · rw [free_queue, h.queue, ho]
    exact List.filter_eq_nil_iff.2 fun b hb => by rw [hnot b hb List.not_mem_nil]; exact nofun

theorem inv_step (h : Inv n tr s) (hs : Step s a s') : Inv n ((s, a) :: tr) s' := by
  cases hs with
  | @make k b hc hb =>
    have ho : s.owned = s.reads := by rw [owned, hc]; rfl
    have hnb : b ∉ s.owned := fun hbo => by simpa [hb] using h.alive b hbo
    refine inv_submit h (ho ▸ hnb) (.inl ho) (by rw [hb]; rfl) rfl nofun nofun nofun ?_ ?_
    · simpa [held, ho, filled, copied] using h.held (by rw [hc]; nofun)
    · have := h.room (by rw [hc]; exact id)
      rw [hc, ho] at this
      rw [Nat.add_right_comm _ 1]
      exact this
  | unmade hc => exact inv_cancel h (by rw [owned, hc]; rfl) (by rw [hc]; nofun) rfl rfl
  | @refused k b hc hb =>
    have ho : s.owned = s.reads := by rw [owned, hc]; rfl
    have hnb : b ∉ s.owned := fun hbo => by simpa [hb] using h.alive b hbo
    refine inv_freed h (ho ▸ hnb) (.inl ho) (by rw [hb]; rfl) rfl nofun (fun bs hbs => ?_) nofun ?_
      fun hd => absurd trivial hd
    · cases hbs
      rfl
    · simpa [held, ho, filled, copied] using h.held (by rw [hc]; nofun)
  | made hc =>
    refine inv_call h rfl rfl (by rw [owned, owned, hc]; rfl) (by rw [hc]; nofun) nofun rfl rfl
      nofun (fun _ => ?_) nofun
    rw [hc]
    exact ⟨rfl, id, rfl⟩
  | next hc hb =>
    have ho := Phase.hand_of_free hc
    refine inv_call h rfl rfl (by rw [owned, owned, ho, hb]; rfl) (Phase.ne_gone hc) nofun rfl rfl
      nofun (fun _ => ?_) nofun
    exact ⟨(Phase.left_of_free hc).symm, Phase.not_dropped_of_free hc, rfl⟩
  | @copy b frame hc hb =>
    refine inv_call h rfl rfl (by rw [owned, owned, hc]; rfl) (by rw [hc]; nofun) nofun rfl rfl
      (fun c f hcf => ?_)
      (fun _ => ?_) nofun
    · cases hcf
      exact hb
    · rw [hc]
      exact ⟨rfl, id, rfl⟩
  | fail hc hb => exact inv_back h hc hb
  | @again b frame hc =>
    have ho : s.owned = b :: s.reads := by rw [owned, hc]; rfl
    have hbr := h.hand b frame hc
    have hnb := (List.nodup_cons.1 (ho ▸ h.nodup)).1
    refine inv_submit h hnb (.inr ho) (by rw [hbr]; rfl) rfl nofun nofun nofun ?_ ?_
    · simpa [held, ho, hbr, frame?, filled, copied] using h.held (by rw [hc]; nofun)
    · have := h.room (by rw [hc]; exact id)
      rw [hc, ho] at this
      exact this
  | @lose b frame e hc =>
    have ho : s.owned = b :: s.reads := by rw [owned, hc]; rfl
    have hbr := h.hand b frame hc
    have hnb := (List.nodup_cons.1 (ho ▸ h.nodup)).1
    refine inv_freed h hnb (.inr ho) (by rw [hbr]; rfl) rfl nofun nofun nofun ?_ fun _ => ?_
    · simpa [held, ho, hbr, frame?, filled, copied] using h.held (by rw [hc]; nofun)
    · have := h.room (by rw [hc]; exact id)
      rw [hc, ho] at this
      simpa [lost, Phase.left, Nat.add_assoc, Nat.add_comm 1] using this
  | drop hc =>
    exact inv_cancel h (by rw [owned, Phase.hand_of_free hc]; rfl) (Phase.ne_gone hc) rfl rfl
  | @reap b bs r hc hb =>
    obtain ⟨hsub, hnot⟩ := h.waited _ hc
    refine inv_call h rfl rfl (by rw [owned, owned, hc]; rfl) (by rw [hc]; nofun) nofun rfl rfl
      nofun (fun hd => absurd trivial hd) fun cs hcs => ?_
    cases hcs
    refine ⟨List.Subset.trans (List.subset_cons_self b bs) hsub, fun c hc hn => ?_⟩
    by_cases hcb : c = b
    · rw [hcb, hb]
      rfl
    · exact hnot c hc fun hm => (List.mem_cons.1 hm).elim hcb hn
  | free hc => exact inv_free h hc
  | @fill b bs frame hq =>
    have hb : b ∈ s.queue := hq ▸ List.mem_cons_self
    have := inv_done (a := .fill frame) (r := .ok frame) h hb (fun _ _ => by rw [hq]; rfl)
      (by simp [filled, frame?]) rfl rfl
    rwa [hq, List.erase_cons_head] at this
  | abort hq => exact inv_done h hq nofun (by simp [filled, frame?]) rfl rfl

theorem inv_of_run (h : Lts.Run Step { call := .making n } tr s) : Inv n tr s := by
  induction h with
  | nil => exact inv_init
  | snoc _ hs ih => exact inv_step ih hs

/-! ## Runs -/

/-- The owner waits for a read. -/
def WaitsFor (s : Reader) (b : Nat) : Prop :=
  s.call = .waiting b ∨ ∃ bs, s.call = .dropping (b :: bs)

theorem returned_sublist (tr : List (Reader × Act)) : (returned tr).Sublist (copied tr) := by
  unfold returned copied
  apply List.Sublist.reverse
  induction tr with
  | nil => exact List.Sublist.refl _
  | cons x tr ih =>
    obtain ⟨s, a⟩ := x
    cases a with
    | again frame => exact ih.cons_cons frame
    | lose frame e => exact ih.cons frame
    | _ => exact ih

theorem returned_of_lost (h : lost tr = []) : returned tr = copied tr := by
  unfold lost at h
  rw [List.reverse_eq_nil_iff] at h
  unfold returned copied
  apply congrArg
  induction tr with
  | nil => rfl
  | cons x tr ih =>
    obtain ⟨s, a⟩ := x
    cases a with
    | again frame => exact congrArg (frame :: ·) (ih h)
    | lose => cases h
    | _ => exact ih h

/-- A read that is waited for is with the device, or done. -/
theorem Inv.waitsFor (h : Inv n tr s) (hw : s.WaitsFor b) :
    b ∈ s.queue ∨ ∃ r, s.read b = .done r := by
  have hb : b ∈ s.owned := by
    obtain hc | ⟨bs, hc⟩ := hw
    · rw [owned, hc]
      exact List.mem_cons_self
    · rw [owned, hc]
      exact (h.waited _ hc).1 List.mem_cons_self
  refine (h.alive b hb).imp_left fun hr => ?_
  rw [h.queue, List.mem_filter]
  exact ⟨hb, inFlight_iff.2 hr⟩

theorem returned_filled (h : Lts.Run Step { call := .making n } tr s) :
    (returned tr).Sublist (filled tr) :=
  (returned_sublist tr).trans (inv_of_run h).begins.sublist

/-- **The reads of a pin.** In every run of a reader of `n` reads the device has only reads whose
buffers are still owned, and none once the reader is gone; a read that is waited for, in `next` or
in the drop, is with the device or done; `next` finds a read to wait for, unless `n` could not be
sent again. The frames come out in the order the device filled them in, each once at most, and as
long as every read could be sent again the others are still in the reads. -/
theorem reads_in_order (h : Lts.Run Step { call := .making n } tr s) :
    (∀ b ∈ s.queue, s.read b = .inFlight ∧ b ∈ s.owned) ∧ (s.call = .gone → s.queue = []) ∧
      (∀ b, s.WaitsFor b → b ∈ s.queue ∨ ∃ r, s.read b = .done r) ∧
      (s.call.Free → (lost tr).length < n → s.reads ≠ []) ∧
      (returned tr).Sublist (filled tr) ∧
      (lost tr = [] → s.call ≠ .gone → filled tr = returned tr ++ s.held) := by
  have hi := inv_of_run h
  refine ⟨fun b hb => (hi.mem_owned hb).symm, fun hg => ?_, fun b => hi.waitsFor, fun hf hl => ?_,
    returned_filled h, fun hl hg => ?_⟩
  · exact List.eq_nil_iff_forall_not_mem.2 fun b hb => hi.not_gone hb hg
  · have hroom := hi.room (Phase.not_dropped_of_free hf)
    rw [owned, Phase.hand_of_free hf, Phase.left_of_free hf, List.nil_append] at hroom
    rintro hnil
    rw [hnil, List.length_nil] at hroom
    omega
  · rw [returned_of_lost hl]
    exact hi.held hg

/-- Two reads, a frame put into each while the first is waited for, and one of them taken out. -/
theorem reads_in_order_two : ∃ tr s, Lts.Run Step { call := .making 2 } tr s ∧
    filled tr = [[0x47], [0x48]] ∧ returned tr = [[0x47]] ∧ s.held = [[0x48]] ∧ s.queue = [0] := by
  have h₁ := (Lts.Run.nil (s := ({ call := .making 2 } : Reader))).snoc
    (show Step _ (.make 0) _ from .make rfl rfl)
  have h₂ := h₁.snoc (show Step _ (.make 1) _ from .make rfl rfl)
  have h₃ := h₂.snoc (show Step _ .made _ from .made rfl)
  have h₄ := h₃.snoc (show Step _ .next _ from .next trivial rfl)
  have h₅ := h₄.snoc (show Step _ (.fill [0x47]) _ from .fill rfl)
  have h₆ := h₅.snoc (show Step _ (.fill [0x48]) _ from .fill rfl)
  have h₇ := h₆.snoc (show Step _ .copy _ from .copy rfl rfl)
  have h₈ := h₇.snoc (show Step _ (.again [0x47]) _ from .again rfl)
  have hf := (reads_in_order h₈).2.2.2.2.2 rfl nofun
  exact ⟨_, _, h₈, rfl, rfl, List.append_cancel_left (hf.symm.trans rfl), rfl⟩

end Reader

end Tunelith.Bda
