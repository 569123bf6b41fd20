import Mathlib.Algebra.BigOperators.Group.List.Basic
import Mathlib.Algebra.Ring.Nat

/-!
# Links that lose, and say how much

A link carries items in order and loses those it has no room for. It counts what it has lost, and
reports the count with the next item it takes, or when it is flushed.

* `Balanced` — everything offered was carried or is counted as lost, once.
* `Balanced.take`, `.lose`, `.flush` — what a link does keeps it balanced.
-/

namespace Lossy

variable {α : Type*}

/-- What a link has carried, what it has reported as lost, and what it has yet to report. -/
structure Link (α : Type*) where
  sent : List α
  reports : List Nat
  lost : Nat

def Link.new : Link α := ⟨[], [], 0⟩

/-- Reports what was lost since the last report, if anything. -/
def Link.flush (k : Link α) : Link α :=
  if k.lost > 0 then { k with reports := k.reports ++ [k.lost], lost := 0 } else k

/-- Carries an item, and reports what was lost before it. -/
def Link.take (k : Link α) (a : α) : Link α := { k with sent := k.sent ++ [a] }.flush

/-- Loses an item. -/
def Link.lose (size : α → Nat) (k : Link α) (a : α) : Link α := { k with lost := k.lost + size a }

/-- Of the items `l` offered, those carried are a part, in order, and the sizes of the others add
up to what is counted as lost. -/
structure Balanced (size : α → Nat) (l : List α) (k : Link α) : Prop where
  sublist : k.sent.Sublist l
  total : (l.map size).sum = (k.sent.map size).sum + k.reports.sum + k.lost

variable {size : α → Nat} {l : List α} {k : Link α}

theorem Balanced.new : Balanced size [] (Link.new : Link α) := ⟨.slnil, rfl⟩

@[simp] theorem Link.sent_flush (k : Link α) : k.flush.sent = k.sent := by
  unfold flush
  split <;> rfl

@[simp] theorem Link.lost_flush (k : Link α) : k.flush.lost = 0 := by
  unfold flush
  split
  · rfl
  · omega

theorem Link.reports_flush (k : Link α) : k.flush.reports.sum = k.reports.sum + k.lost := by
  unfold flush
  split
  · simp
  · omega

theorem Balanced.flush (h : Balanced size l k) : Balanced size l k.flush := by
  refine ⟨by rw [Link.sent_flush]; exact h.sublist, ?_⟩
  rw [Link.sent_flush, Link.lost_flush, Link.reports_flush, h.total]
  omega

theorem Balanced.take (h : Balanced size l k) (a : α) : Balanced size (l ++ [a]) (k.take a) := by
  refine Balanced.flush ⟨h.sublist.append (.refl [a]), ?_⟩
  have := h.total
  simp only [List.map_append, List.map_cons, List.map_nil, List.sum_append, List.sum_cons,
    List.sum_nil]
  omega

theorem Balanced.lose (h : Balanced size l k) (a : α) :
    Balanced size (l ++ [a]) (k.lose size a) := by
  refine ⟨h.sublist.trans (List.sublist_append_left l [a]), ?_⟩
  have := h.total
  simp only [Link.lose, List.map_append, List.map_cons, List.map_nil, List.sum_append,
    List.sum_cons, List.sum_nil]
  omega

end Lossy
