import Mathlib.Data.List.Basic
import Mathlib.Data.List.Sublists

/-!
# First-in first-out channels

A channel keeps everything ever put into it and how much of it has been taken out, so that what
was sent, what was received and what is still under way are all read off one value.

* `Fifo.queue` — what is under way, the next to be taken first.
* `Fifo.received` — what has been taken; `received_append_queue` says nothing is lost,
  repeated or reordered.
* `Fifo.Extends` — more was sent, and nothing taken.
-/

/-- A channel: all that was sent, the first `taken` of which were received. -/
structure Fifo (α : Type*) where
  sent : List α
  taken : Nat
  taken_le : taken ≤ sent.length

namespace Fifo

variable {α : Type*}

/-- A new channel, nothing sent yet. -/
def empty : Fifo α := ⟨[], 0, Nat.le_refl 0⟩

instance : Inhabited (Fifo α) := ⟨empty⟩

def queue (q : Fifo α) : List α := q.sent.drop q.taken

def received (q : Fifo α) : List α := q.sent.take q.taken

/-- The next to be received, if any. -/
def next? (q : Fifo α) : Option α := q.sent[q.taken]?

def push (q : Fifo α) (a : α) : Fifo α :=
  ⟨q.sent ++ [a], q.taken, by simpa using Nat.le_succ_of_le q.taken_le⟩

/-- Takes the next one out, if there is one. -/
def pop (q : Fifo α) : Fifo α :=
  if h : q.taken < q.sent.length then ⟨q.sent, q.taken + 1, h⟩ else q

@[ext] theorem ext {q r : Fifo α} (hs : q.sent = r.sent) (ht : q.taken = r.taken) : q = r := by
  cases q
  cases r
  simp_all

@[simp] theorem sent_empty : (empty : Fifo α).sent = [] := rfl

@[simp] theorem taken_empty : (empty : Fifo α).taken = 0 := rfl

@[simp] theorem sent_push (q : Fifo α) (a : α) : (q.push a).sent = q.sent ++ [a] := rfl

@[simp] theorem taken_push (q : Fifo α) (a : α) : (q.push a).taken = q.taken := rfl

@[simp] theorem sent_pop (q : Fifo α) : q.pop.sent = q.sent := by
  unfold pop
  split_ifs <;> rfl

theorem taken_lt_of_next? {q : Fifo α} {a : α} (h : q.next? = some a) :
    q.taken < q.sent.length := (List.getElem?_eq_some_iff.1 h).1

theorem taken_pop {q : Fifo α} {a : α} (h : q.next? = some a) : q.pop.taken = q.taken + 1 := by
  rw [pop, dif_pos (taken_lt_of_next? h)]

@[simp] theorem queue_empty : (empty : Fifo α).queue = [] := rfl

theorem received_push (q : Fifo α) (a : α) : (q.push a).received = q.received := by
  rw [received, received, sent_push, taken_push, List.take_append_of_le_length q.taken_le]

/-- Nothing is lost, repeated or reordered on the way. -/
theorem received_append_queue (q : Fifo α) : q.received ++ q.queue = q.sent :=
  List.take_append_drop _ _

theorem received_pop {q : Fifo α} {a : α} (h : q.next? = some a) :
    q.pop.received = q.received ++ [a] := by
  rw [received, received, sent_pop, taken_pop h, List.take_add_one]
  rw [next?] at h
  rw [h]
  rfl

theorem mem_sent_of_next? {q : Fifo α} {a : α} (h : q.next? = some a) : a ∈ q.sent :=
  List.mem_of_getElem? h

theorem mem_sent_iff {q : Fifo α} {a : α} : a ∈ q.sent ↔ a ∈ q.received ∨ a ∈ q.queue := by
  rw [← received_append_queue q, List.mem_append]

theorem begins_received (q : Fifo α) : q.received <+: q.sent := List.take_prefix _ _

/-- What was sent has all been received. -/
theorem received_of_next? {q : Fifo α} (h : q.next? = none) : q.received = q.sent :=
  List.take_of_length_le (List.getElem?_eq_none_iff.1 h)

/-! ### Sending -/

/-- `r` is `q` after more was sent. -/
structure Extends (q r : Fifo α) : Prop where
  sent : q.sent <+: r.sent
  taken : r.taken = q.taken

theorem Extends.refl (q : Fifo α) : Extends q q := ⟨List.prefix_rfl, rfl⟩

theorem Extends.trans {q r s : Fifo α} (h : Extends q r) (h' : Extends r s) : Extends q s :=
  ⟨h.sent.trans h'.sent, h'.taken.trans h.taken⟩

theorem Extends.push (q : Fifo α) (a : α) : Extends q (q.push a) := ⟨List.prefix_append _ _, rfl⟩

/-- Sending more takes nothing out. -/
theorem Extends.received {q r : Fifo α} (h : Extends q r) : r.received = q.received := by
  obtain ⟨l, hl⟩ := h.sent
  rw [Fifo.received, Fifo.received, h.taken, ← hl, List.take_append_of_le_length q.taken_le]

theorem Extends.length_queue {q r : Fifo α} (h : Extends q r) :
    q.queue.length ≤ r.queue.length := by
  rw [Fifo.queue, Fifo.queue, List.length_drop, List.length_drop, h.taken]
  exact Nat.sub_le_sub_right h.sent.length_le _

end Fifo
